import TableLexer.Proofs.Language.Numbers
import TableLexer.Proofs.Pattern.Delimited

/-!
# What the shared rules take

All languages have rules for comments, for white space and for signs. What each of them takes at a position is
said by an equivalence: comments to the end of the line (`Rule.Reads.pieces?_remark_iff`), block comments
(`pieces?_blockComment_iff`), white space within a line (`pieces?_spaceRule_iff`) and single characters
(`pieces?_class_iff`). Where neither a number nor a sign nor a word stands, the trailing rules take nothing
(`findSome?_trailingRules_eq_none`).
-/

namespace TableLexer
open Pattern (readNode remark lineAt FirstCloser delimitedNode)
open Unicode (CharSet)

/-! ## Comments to the end of the line -/

/-- A rule for remarks takes the line, and the line end as a second piece. -/
theorem Rule.Reads.pieces?_remark_iff {r : Rule} {opening : List Char} {kind kind' : Kind}
    (h : r.Reads (remark opening) (.groups [kind, kind'])) (hopening : opening ≠ []) (hguard : r.guard = {})
    {before text : List Char} {ps : List (Kind × Nat)} : r.pieces? before text = some ps ↔
      ∃ body, text = opening ++ body ∧
        ps = (kind, (opening ++ lineAt body).length) :: if '\n' ∈ body then [(kind', 1)] else [] := by
  rw [h.pieces?_iff, hguard]
  constructor
  · rintro ⟨-, m, hm, -, rfl⟩
    obtain ⟨body, htext, rfl⟩ := Pattern.exists_of_match?_remark hm
    exact ⟨body, htext, Pattern.cut_remarkMatch hopening body kind kind'⟩
  · rintro ⟨body, rfl, rfl⟩
    refine ⟨rfl, _, Pattern.match?_remark opening body _, ?_, (Pattern.cut_remarkMatch hopening body kind kind').symm⟩
    have hpos := List.length_pos_iff.mpr hopening
    rw [Pattern.remarkMatch]
    split <;> simp only [List.length_append] <;> omega

namespace Language

section Position
variable {before text : List Char} {ps : List (Kind × Nat)} {c : Char}

/-! ## Block comments -/

theorem pieces?_blockComment_iff : blockComment.pieces? before text = some ps ↔
    ∃ rest body, text = '/' :: '*' :: rest ∧ FirstCloser ['*', '/'] rest body ∧
      ps = [(.commentMultiline, ('/' :: '*' :: body ++ ['*', '/']).length)] := by
  have hlength (body : List Char) : ('/' :: '*' :: body ++ ['*', '/']).length = 2 + (body.length + 2) := by
    simp only [List.cons_append, List.length_cons, List.length_append, List.length_nil]
    omega
  rw [reads_blockComment.pieces?_iff]
  constructor
  · rintro ⟨-, m, hm, -, rfl⟩
    obtain ⟨body, rest, htext, hfirst, rfl⟩ := Pattern.match?_delimitedNode_iff.mp hm
    exact ⟨rest, body, htext, hfirst, by rw [hlength]; rfl⟩
  · rintro ⟨rest, body, htext, hfirst, rfl⟩
    refine ⟨rfl, _, Pattern.match?_delimitedNode_iff.mpr ⟨body, rest, htext, hfirst, rfl⟩, by simp, ?_⟩
    rw [hlength]
    rfl

/-! ## Runs -/

/-- A rule for runs takes the characters of the set up to where they end. -/
theorem pieces?_run_iff {pattern : String} {set : CharSet}
    (hread : readNode pattern.toList = .ok (.repeated (.one set) 1 none true)) {kind : Kind} :
    (Rule.token pattern kind).pieces? before text = some ps ↔
      text.takeWhile set.contains ≠ [] ∧ ps = [(kind, (text.takeWhile set.contains).length)] := by
  have hadvances : (Pattern.Node.repeated (.one set) 1 none true).Advances := ⟨trivial, fun _ => rfl⟩
  rw [(Rule.Reads.token hread hadvances kind).pieces?_iff, Pattern.match?_repeated_one]
  constructor
  · rintro ⟨-, m, hm, -, rfl⟩
    split at hm
    · cases hm
    next hne =>
      cases hm
      exact ⟨hne, rfl⟩
  · rintro ⟨hne, rfl⟩
    refine ⟨rfl, ⟨(text.takeWhile set.contains).length, []⟩, if_neg hne, ?_, rfl⟩
    intro hzero
    exact hne (List.length_eq_zero_iff.mp hzero)

/-- White space other than the line end. -/
def blank : CharSet := .compl (.empty ∪ .compl Unicode.space ∪ .range '\n' '\n')

theorem mem_blank : c ∈ blank ↔ c ∈ Unicode.space ∧ c ≠ '\n' := by
  have hrange : c ∈ CharSet.range '\n' '\n' ↔ c = '\n' := CharSet.mem_single
  rw [blank, CharSet.mem_compl, CharSet.mem_union, CharSet.mem_union, CharSet.mem_compl, hrange]
  simp

/-- The white space within the line with which a text begins. -/
def blanksAt (text : List Char) : List Char := text.takeWhile blank.contains

/-- The rule for white space within a line. -/
def spaceRule : Rule := .token spaces .whitespace

theorem pieces?_spaceRule_iff : spaceRule.pieces? before text = some ps ↔
    blanksAt text ≠ [] ∧ ps = [(.whitespace, (blanksAt text).length)] :=
  pieces?_run_iff readNode_spaces

theorem spaceRule_mem (l : Language) : spaceRule ∈ baseRules l.rules := by
  have hleading : spaceRule ∈ leadingRules := List.mem_cons_of_mem _ (List.mem_cons_of_mem _ List.mem_cons_self)
  exact List.mem_append_left _ (List.mem_append_left _ hleading)

theorem takes_blank {c : Char} (hc : c ∈ blank) (before rest : List Char) :
    spaceRule.pieces? before (c :: rest) ≠ none := by
  have hne : blanksAt (c :: rest) ≠ [] := by
    rw [blanksAt, List.takeWhile_cons_of_pos hc]
    exact List.cons_ne_nil _ _
  rw [pieces?_spaceRule_iff.mpr ⟨hne, rfl⟩]
  exact Option.some_ne_none _

theorem pieces?_wordRule_iff : wordRule.pieces? before text = some ps ↔
    Pattern.wordAt text ≠ [] ∧ ps = [(.text, (Pattern.wordAt text).length)] :=
  pieces?_run_iff rfl

/-! ## Single characters -/

theorem match?_one_iff {set : CharSet} {before : Option Char} {m : Pattern.Match} :
    (Pattern.ofNode (.one set)).match? before text = some m ↔ ∃ c rest, text = c :: rest ∧ c ∈ set ∧ m = ⟨1, []⟩ := by
  have hadvances : (Pattern.Node.one set).Advances := trivial
  rw [Pattern.match?_ofNode hadvances, Pattern.Node.ways]
  cases text with
  | nil => simp
  | cons c rest =>
    by_cases hc : c ∈ set
    · simp only [if_pos (CharSet.mem_iff.mp hc)]
      constructor
      · intro hm
        cases hm
        exact ⟨c, rest, rfl, hc, rfl⟩
      · rintro ⟨_, _, -, -, rfl⟩
        rfl
    · have hnot : set.contains c = false := Bool.eq_false_iff.mpr hc
      simp [hnot, hc]

theorem pieces?_class_iff {pattern : String} {set : CharSet} (hread : readNode pattern.toList = .ok (.one set))
    {kind : Kind} : (Rule.token pattern kind).pieces? before text = some ps ↔
      ∃ c rest, text = c :: rest ∧ c ∈ set ∧ ps = [(kind, 1)] := by
  rw [(Rule.Reads.token hread trivial kind).pieces?_iff]
  constructor
  · rintro ⟨-, m, hm, -, rfl⟩
    obtain ⟨c, rest, htext, hc, rfl⟩ := match?_one_iff.mp hm
    exact ⟨c, rest, htext, hc, rfl⟩
  · rintro ⟨c, rest, htext, hc, rfl⟩
    exact ⟨rfl, _, match?_one_iff.mpr ⟨c, rest, htext, hc, rfl⟩, Nat.one_ne_zero, rfl⟩

/-- The characters of a class that lists them. -/
def listed (cs : List Char) : CharSet := cs.foldl (fun set c => set ∪ .single c) .empty

theorem mem_listed {cs : List Char} : c ∈ listed cs ↔ c ∈ cs := by
  have hfold (set : CharSet) : c ∈ cs.foldl (fun set c => set ∪ .single c) set ↔ c ∈ set ∨ c ∈ cs := by
    induction cs generalizing set with
    | nil => simp
    | cons d cs ih =>
      rw [List.foldl_cons, ih, CharSet.mem_union, CharSet.mem_single, List.mem_cons, or_assoc]
  rw [listed, hfold]
  simp

/-- The signs that are operators. -/
def operatorSigns : List Char := "~^*!%&[]<>|+=/?-".toList

/-- The signs that are punctuation. -/
def punctuationSigns : List Char := "\x7b\x7d();:.,".toList

theorem readNode_operators : readNode operators.toList = .ok (.one (listed operatorSigns)) := rfl

theorem readNode_punctuation : readNode punctuation.toList = .ok (.one (listed punctuationSigns)) := rfl

theorem readNode_lineEnd : readNode "\\n".toList = .ok (.one (.single '\n')) := rfl

/-- The rule for operators. -/
def operatorRule : Rule := .token operators .operator

theorem pieces?_operatorRule_iff : operatorRule.pieces? before text = some ps ↔
    ∃ c rest, text = c :: rest ∧ c ∈ operatorSigns ∧ ps = [(.operator, 1)] := by
  simp only [operatorRule, pieces?_class_iff readNode_operators, mem_listed]

theorem pieces?_punctuationRule_iff : punctuationRule.pieces? before text = some ps ↔
    ∃ c rest, text = c :: rest ∧ c ∈ punctuationSigns ∧ ps = [(.punctuation, 1)] := by
  simp only [punctuationRule, pieces?_class_iff readNode_punctuation, mem_listed]

theorem pieces?_lineEndRule_iff : lineEndRule.pieces? before text = some ps ↔
    ∃ rest, text = '\n' :: rest ∧ ps = [(.whitespace, 1)] := by
  simp only [lineEndRule, pieces?_class_iff readNode_lineEnd, CharSet.mem_single]
  simp

/-! ## Errors -/

theorem takes_none_of_error (l : Language) {p : Kind × Nat}
    (hpieces : pieces (baseEntries l.rules) before text = p :: ps) (herror : p.1 = .error) :
    p.2 = Unicode.Grapheme.firstLength text ∧ ∀ r ∈ baseRules l.rules, r.pieces? before text = none := by
  have hkinds : ∀ r ∈ baseRules l.rules, .error ∉ r.kinds := by
    cases l <;> decide
  rw [pieces] at hpieces
  split at hpieces
  next found hfound =>
    subst hpieces
    obtain ⟨e, he, htake⟩ := List.exists_of_findSome?_eq_some hfound
    obtain ⟨r, hr, hentry⟩ := List.mem_filterMap.mp he
    obtain ⟨n, emission, hreads, -⟩ := (regular_base l.regular_rules r hr).reads
    have hkind := hreads.kind_of_mem_pieces hentry htake p List.mem_cons_self
    rw [herror] at hkind
    rcases hkind with htext | hkind
    · cases htext
    · exact absurd hkind (hkinds r hr)
  next hnone =>
    cases hpieces
    rw [baseEntries, findSome?_plain?] at hnone
    exact ⟨rfl, List.findSome?_eq_none_iff.mp hnone⟩

/-! ## Trailing rules -/

theorem trailingRules_eq_signs : trailingRules =
    numerals.map (fun p => Rule.token p.1 p.2) ++ [operatorRule, punctuationRule, wordRule, lineEndRule] := rfl

theorem findSome?_numerals_eq_none (hc : c ∈ unnumbered) (before text : List Char) :
    (numerals.map fun p => Rule.token p.1 p.2).findSome? (·.pieces? before (c :: text)) = none := by
  rw [← findSome?_plain?, plain?_of_readNode readNode_numerals numeralNodes_advance]
  refine List.findSome?_eq_none_iff.mpr (List.forall_mem_map.mpr fun q hq => ?_)
  obtain ⟨hnullable, hapart⟩ := numeralNodes_begin q hq
  refine pieces?_numeralEntry_of_refuses (numeralNodes_advance q hq) (.of_misses hnullable ?_) before
  exact Pattern.misses_cons_iff.mpr fun hstarts => CharSet.not_mem_of_apart hapart hstarts hc

theorem findSome?_trailingRules_operator (hc : c ∈ operatorSigns) (before text : List Char) :
    trailingRules.findSome? (·.pieces? before (c :: text)) = some [(.operator, 1)] := by
  have hsigns : operatorSigns.all unnumbered.contains = true := by decide
  have hnumerals := findSome?_numerals_eq_none (List.all_eq_true.mp hsigns c hc) before text
  rw [trailingRules_eq_signs, List.findSome?_append, hnumerals, Option.none_or, List.findSome?_cons,
    pieces?_operatorRule_iff.mpr ⟨c, text, rfl, hc, rfl⟩]

/-- Where no number, no sign, no word and no line end begins, the trailing rules take nothing. -/
theorem findSome?_trailingRules_eq_none (hnumber : c ∈ unnumbered) (hoperator : c ∉ operatorSigns)
    (hpunctuation : c ∉ punctuationSigns) (hword : c ∉ Unicode.word) (hline : c ≠ '\n')
    (before text : List Char) : trailingRules.findSome? (·.pieces? before (c :: text)) = none := by
  rw [trailingRules_eq_signs, List.findSome?_append, findSome?_numerals_eq_none hnumber, Option.none_or]
  apply List.findSome?_eq_none_iff.mpr
  intro r hr
  apply Option.eq_none_iff_forall_ne_some.mpr
  intro ps hps
  simp only [List.mem_cons, List.not_mem_nil, or_false] at hr
  rcases hr with rfl | rfl | rfl | rfl
  · obtain ⟨d, rest, htext, hd, -⟩ := pieces?_operatorRule_iff.mp hps
    cases htext
    exact hoperator hd
  · obtain ⟨d, rest, htext, hd, -⟩ := pieces?_punctuationRule_iff.mp hps
    cases htext
    exact hpunctuation hd
  · obtain ⟨d, rest, htext, hd⟩ := Pattern.wordAt_ne_nil_iff.mp (pieces?_wordRule_iff.mp hps).1
    cases htext
    exact hword hd
  · obtain ⟨rest, htext, -⟩ := pieces?_lineEndRule_iff.mp hps
    cases htext
    exact hline rfl

end Position

end Language

end TableLexer
