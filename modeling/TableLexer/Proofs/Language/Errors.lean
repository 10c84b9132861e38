import TableLexer.Proofs.Language.Comments
import TableLexer.Proofs.Scanner.Steady
import TableLexer.Proofs.Table.Rendering

/-!
# Errors of the built-in languages

`scan_steady`: in the built-in languages the guard against circles of states never has anything to break up, the
state `base` is entered once and never left, and an error begins with a character that no rule knows.

Proof. The tables are steady (`steady_table`). Whatever stands before a character that a language knows, and whatever
comes after it, some rule takes something there (`exists_takes_of_knows`); where a token is an error, none does.
-/

namespace TableLexer

/-- The names of the states that have been entered, the current one last. -/
def StateStack.names (stack : StateStack) (t : Table) : List (Option String) :=
  (stack.below.reverse ++ [stack.top]).map (t.stateNames[·]?)

namespace Language
open Scanner (Run)

/-! ## States -/

theorem steady_table (l : Language) :
    l.table.Steady 1 ∧ l.table.root = 0 ∧ l.table.stateNames = ["root", "base"] := by
  obtain ⟨t, hbuild, -, hflat⟩ := exists_flat l.regular_rules
  have htable : l.table = t := by
    rw [l.table_eq, hbuild]
    rfl
  obtain ⟨-, hroot, hstates⟩ := Table.build_eq_ok.mp hbuild
  have hnames : (specs l.rules).map (·.name) = ["root", "base"] := rfl
  have hzero : ["root", "base"].idxOf? rootName = some 0 := by decide
  rw [hnames, hzero] at hroot
  rw [htable]
  exact ⟨.of_flat hflat, (Option.some.inj hroot).symm, hstates.names_eq.trans hnames⟩

/-! ## Characters -/

/-- The language has a use for the character wherever it stands: a word character, white space, an operator,
punctuation or, in Emfatic, an `@`. -/
def Knows (l : Language) (c : Char) : Prop :=
  c ∈ Unicode.word ∨ c ∈ Unicode.space ∨ c ∈ operatorSigns ∨ c ∈ punctuationSigns ∨ (l = emfatic ∧ c = '@')

section Position
variable {l : Language} {c : Char}

theorem exists_takes_of_knows (h : l.Knows c) (before rest : List Char) :
    ∃ r ∈ baseRules l.rules, r.pieces? before (c :: rest) ≠ none := by
  have htrailing {r : Rule} {ps : List (Kind × Nat)} (hr : r ∈ trailingRules)
      (htake : r.pieces? before (c :: rest) = some ps) :
      ∃ r ∈ baseRules l.rules, r.pieces? before (c :: rest) ≠ none :=
    ⟨r, List.mem_append_right _ hr, by simp [htake]⟩
  have hmem {r : Rule} (hr : r ∈ [operatorRule, punctuationRule, wordRule, lineEndRule]) : r ∈ trailingRules := by
    rw [trailingRules_eq_signs]
    exact List.mem_append_right _ hr
  rcases h with hword | hspace | hoperator | hpunctuation | ⟨rfl, rfl⟩
  · have hne : Pattern.wordAt (c :: rest) ≠ [] := Pattern.wordAt_ne_nil_iff.mpr ⟨c, rest, rfl, hword⟩
    exact htrailing (hmem (by simp)) (pieces?_wordRule_iff.mpr ⟨hne, rfl⟩)
  · by_cases hline : c = '\n'
    · rw [hline] at htrailing ⊢
      exact htrailing (hmem (by simp)) (pieces?_lineEndRule_iff.mpr ⟨rest, rfl, rfl⟩)
    · exact ⟨spaceRule, l.spaceRule_mem, takes_blank (mem_blank.mpr ⟨hspace, hline⟩) before rest⟩
  · exact htrailing (hmem (by simp)) (pieces?_operatorRule_iff.mpr ⟨c, rest, rfl, hoperator, rfl⟩)
  · exact htrailing (hmem (by simp)) (pieces?_punctuationRule_iff.mpr ⟨c, rest, rfl, hpunctuation, rfl⟩)
  · have hrule : annotationRule ∈ baseRules emfatic.rules :=
      List.mem_append_left _ (List.mem_append_right _ List.mem_cons_self)
    have htext : '@' :: rest = ['@'] ++ rest := rfl
    refine ⟨annotationRule, hrule, ?_⟩
    rw [htext, (reads_annotationRule.pieces?_remark_iff (by decide) rfl).mpr ⟨rest, rfl, rfl⟩]
    exact Option.some_ne_none _

end Position

/-- **Scanning is steady.** All through a run over any input no circle of states is reported, and from the first
move on the states entered are `root` and then `base`. An error token never begins with a character that the
language knows. -/
theorem scan_steady (l : Language) (input : String) :
    (∀ s past, Run l.table input (s :: past) → (∀ offset, Event.circle offset ∉ s.log) ∧
      (past ≠ [] → s.stack.names l.table = [some "root", some "base"])) ∧
    ∀ t ∈ l.lexer.tokenize input, t.kind = .error → ∀ c ∈ t.text.toList.head?, ¬ l.Knows c := by
  constructor
  · intro s past hrun
    obtain ⟨hsteady, hroot, hnames⟩ := l.steady_table
    obtain ⟨hlog, hstack⟩ := hrun.steady hsteady
    refine ⟨hlog, ?_⟩
    intro hpast
    rw [StateStack.names, hstack hpast, hnames, hroot]
    rfl
  · intro t ht hkind c hc hknows
    obtain ⟨before, text, p, ps, -, -, hpieces, rfl⟩ := exists_pieces ht
    obtain ⟨-, hnone⟩ := takes_none_of_error l hpieces hkind
    rw [String.toList_ofList, List.head?_take] at hc
    split at hc
    · cases hc
    · obtain ⟨rest, rfl⟩ := List.head?_eq_some_iff.mp hc
      obtain ⟨r, hr, htake⟩ := exists_takes_of_knows hknows before.reverse rest
      exact htake (hnone r hr)

/-- The first move of a run over an `@` enters the state of the rules, and in EOL the sign is an error. -/
theorem scan_steady_at :
    let s := Scanner.step eol.table (Scanner.start eol.table "@")
    Run eol.table "@" [s, Scanner.start eol.table "@"] ∧ s.stack.names eol.table = [some "root", some "base"] ∧
      (∃ t ∈ eol.lexer.tokenize "@", t.kind = .error ∧ '@' ∈ t.text.toList.head?) ∧ ¬ eol.Knows '@' := by
  intro s
  obtain ⟨hruns, herrors⟩ := scan_steady eol "@"
  have hrun : Run eol.table "@" [s, Scanner.start eol.table "@"] := .move .start (.step rfl (by decide))
  have hinput : "@".toList = [] ++ ['@'] := by decide
  obtain ⟨t, ht, hoffset⟩ : ∃ t ∈ eol.lexer.tokenize "@", t.offset = 0 :=
    exists_token_at_start eol (by decide)
  have hbegins : ['@'] <+: ['@'] := List.prefix_rfl
  have htoken := token_eq_of_pieces ht hinput hoffset hbegins (pieces_at_eol [] [])
  have hkind : t.kind = .error := by rw [htoken]
  have hhead : '@' ∈ t.text.toList.head? := by
    rw [htoken, String.toList_ofList]
    rfl
  exact ⟨hrun, (hruns _ _ hrun).2 (List.cons_ne_nil _ _), ⟨t, ht, hkind, hhead⟩, herrors t ht hkind '@' hhead⟩

end Language

end TableLexer
