import Mathlib.Data.List.Infix
import TableLexer.Proofs.Language.Tables
import TableLexer.Proofs.Pattern.Keywords
import TableLexer.Proofs.Scanner.Agreement

/-!
# The languages cut a text alike

`tokenize_agree`: in a text without `@`, the tokens of EOL and of Emfatic are the same pieces, of the
same kinds unless they begin with a name; so are those of ETL, if no digit follows right after `rule ` or
`extends `.

Proof. The three tables have the same rules before and after those of their own (`baseRules`), and all have
the rule for block comments. Where another rule of their own takes something, its first piece is the whole
run of word characters, and the run is a name (`Rule.NamesAt`). Where no name begins, these rules take
nothing; where a name begins, the rules after them take the whole run as well, as plain text
(`findSome?_trailing`). Either way the first pieces have one length (`cutAlike_base`).
-/

namespace TableLexer
open Pattern (startsName wordAt TakesNames isName)

/-! ## Rules that take whole names -/

/-- What the rule takes at a position begins with the run there, and the run is a name. -/
def Rule.NamesAt (r : Rule) (before text : List Char) : Prop :=
  ∀ e ps, r.plain? = some e → e.pieces? before text = some ps →
    startsName text = true ∧ ∃ kind rest, ps = (kind, (wordAt text).length) :: rest

namespace Rule.Reads
variable {r : Rule} {n : Pattern.Node} {emission : Emission} {kind kind' : Kind} {before text : List Char}

theorem namesAt (h : r.Reads n (.whole kind)) (hn : TakesNames (.ofNode n)) : r.NamesAt before text := by
  intro e ps he hps
  obtain ⟨m, hm, -, rfl⟩ := h.pieces?_eq_some he hps
  obtain ⟨hstarts, hlength⟩ := hn _ _ _ hm
  exact ⟨hstarts, kind, [], by rw [Scanner.cut, hlength]⟩

theorem namesAt_of_not_opens (h : r.Reads n emission) {c : Char} (hc : n.opens c = false) :
    r.NamesAt before (c :: text) := by
  intro e ps he hps
  rw [h.pieces?_eq_none he hc] at hps
  cases hps

theorem namesAt_labelled {condition : Pattern.Assertion} {word : List Char} {sign : Char}
    (h : r.Reads (Pattern.labelled condition word sign) (.groups [kind, kind']))
    (hword : isName word = true) (hsign : sign ∉ Unicode.word) : r.NamesAt before text := by
  intro e ps he hps
  obtain ⟨m, hm, -, rfl⟩ := h.pieces?_eq_some he hps
  have hstarts := (Bool.and_eq_true_iff.mp hword).1
  have hne : word ≠ [] := by
    rintro rfl
    cases hstarts
  obtain ⟨hpieces, rest, rfl⟩ := Pattern.cut_labelled hne hm kind kind'
  have hrun : wordAt (word ++ sign :: rest) = word :=
    Pattern.wordAt_append (Pattern.mem_word_of_isName hword) (Bool.eq_false_iff.mpr hsign)
  exact ⟨Pattern.startsName_append hstarts _, kind, [(kind', 1)], by rw [hpieces, hrun]⟩

/-- A rule for runs that is tied to some texts takes names, if no digit comes right after the texts. -/
theorem namesAt_after (h : r.Reads Pattern.runNode (.whole kind)) {texts : List String}
    (hguard : r.guard.after = some texts)
    (hdigit : ∀ t ∈ texts, ∀ d ∈ Unicode.Ascii.digit, ¬ t.toList ++ [d] <:+: before.reverse ++ text) :
    r.NamesAt before text := by
  intro e ps he hps
  obtain ⟨m, hm, hallows, rfl⟩ := h.pieces?_eq_some he hps
  rw [Pattern.match?_runNode] at hm
  split at hm
  · cases hm
  next hrun =>
  obtain rfl := Option.some.inj hm
  refine ⟨?_, kind, [], rfl⟩
  obtain ⟨c, cs, rfl, hword⟩ := Pattern.wordAt_ne_nil_iff.mp hrun
  -- one of the texts ends right before the run
  rw [Guard.allows, hguard, Option.all_some, Bool.and_eq_true, List.any_eq_true] at hallows
  obtain ⟨⟨t, ht, hends⟩, -⟩ := hallows
  obtain ⟨earlier, rfl⟩ := List.isPrefixOf_iff_prefix.mp hends
  have hfound : t.toList ++ [c] <:+: (t.toList.reverse ++ earlier).reverse ++ c :: cs :=
    ⟨earlier.reverse, cs, by simp⟩
  exact Pattern.startsName_iff.mpr ⟨c, cs, rfl, hword, fun hc => hdigit t ht c hc hfound⟩

end Rule.Reads

/-! ## Rules that begin with no name -/

/-- The text is a pattern that begins with no name. -/
def Pattern.Nameless (text : List Char) : Prop :=
  ∃ n, readNode text = .ok n ∧ n.Advances ∧ n.nameless = true

instance Pattern.decidableNameless (text : List Char) : Decidable (Nameless text) :=
  decidableTree text fun n => n.Advances ∧ n.nameless = true

/-- The pattern of the rule begins with no name. -/
def Rule.Nameless (r : Rule) : Prop := ∃ n emission, r.Reads n emission ∧ n.nameless = true

theorem Rule.Nameless.token {text : String} (h : Pattern.Nameless text.toList) (kind : Kind) :
    (Rule.token text kind).Nameless := by
  obtain ⟨n, hread, hadvances, hn⟩ := h
  exact ⟨n, _, .token hread hadvances kind, hn⟩

theorem Rule.Nameless.delimited {opener closer : String}
    (h : Pattern.Nameless (Rule.delimitedPattern opener.toList closer.toList)) (kind : Kind) :
    (Rule.delimited opener closer kind).Nameless := by
  obtain ⟨n, hread, hadvances, hn⟩ := h
  rw [← String.toList_ofList (l := Rule.delimitedPattern opener.toList closer.toList)] at hread
  exact ⟨n, _, ⟨⟨_, _, rfl, hread⟩, hadvances, .whole n kind⟩, hn⟩

theorem Rule.Nameless.pieces?_eq_none {r : Rule} (h : r.Nameless) {e : Entry} (he : r.plain? = some e)
    {text : List Char} (hname : startsName text = true) (before : List Char) :
    e.pieces? before text = none := by
  obtain ⟨n, emission, hreads, hn⟩ := h
  cases text with
  | nil => cases hname
  | cons c cs => exact hreads.pieces?_eq_none he (Pattern.Node.opens_of_nameless hn hname) before cs

namespace Language
open Pattern (readNode runNode boundary)

/-! ## The rules that all languages have -/

theorem nameless_float : Pattern.Nameless float.toList := by
  unfold float
  rewrite [String.toList_append, String.toList_append, String.toList_append, String.toList_append,
    String.toList_append]
  decide +kernel

theorem nameless_numberRules : ∀ r ∈ numberRules ++ [punctuationRule], r.Nameless := by
  intro r hr
  simp only [numberRules, trailingRules, List.take_succ_cons, List.take_zero, List.mem_cons,
    List.cons_append, List.nil_append, List.not_mem_nil, or_false] at hr
  rcases hr with rfl | rfl | rfl | rfl | rfl | rfl | rfl
  · exact .token nameless_float _
  all_goals exact .token (by decide) _

theorem nameless_blockComment : blockComment.Nameless := .delimited (by decide) _

theorem reads_run (kind : Kind) : (Rule.token "\\w+" kind).Reads runNode (.whole kind) :=
  .token rfl Pattern.advances_runNode kind

section Position
variable {own own' : List Rule} {before text : List Char}

theorem pieces?_run (hname : startsName text = true) (kind : Kind) (before : List Char) :
    Entry.pieces? ⟨{}, .scan (.ofNode runNode) none (.whole kind)⟩ before text
      = some [(kind, (wordAt text).length)] := by
  obtain ⟨c, cs, htext, hword, -⟩ := Pattern.startsName_iff.mp hname
  have hrun : wordAt text ≠ [] := Pattern.wordAt_ne_nil_iff.mpr ⟨c, cs, htext, hword⟩
  have hm : (Pattern.ofNode runNode).match? before.head? text = some ⟨(wordAt text).length, []⟩ := by
    rw [Pattern.match?_runNode, if_neg hrun]
  have hallows : Guard.allows {} before = true := rfl
  simp only [Entry.pieces?, hallows, if_true, hm]
  exact if_neg (Nat.ne_of_gt (List.length_pos_iff.mpr hrun))

theorem findSome?_trailing (hname : startsName text = true) (before : List Char) :
    (trailingRules.filterMap Rule.plain?).findSome? (·.pieces? before text)
      = some [(.text, (wordAt text).length)] := by
  have hrules : trailingRules = (numberRules ++ [punctuationRule]) ++ wordRule :: [lineEndRule] := rfl
  have hentry : wordRule.plain? = some ⟨{}, .scan (.ofNode runNode) none (.whole .text)⟩ :=
    (reads_run .text).plain?
  have hinit : ((numberRules ++ [punctuationRule]).filterMap Rule.plain?).findSome?
      (·.pieces? before text) = none := by
    refine List.findSome?_eq_none_iff.mpr fun e he => ?_
    obtain ⟨r, hr, hentry⟩ := List.mem_filterMap.mp he
    exact (nameless_numberRules r hr).pieces?_eq_none hentry hname before
  rw [hrules, filterMap_plain? hentry, List.findSome?_append, hinit, Option.none_or, List.findSome?_cons,
    pieces?_run hname .text before]

/-! ## The rules of a language's own -/

/-- At a position, the rules of a language's own are the one for block comments and such that take
names. -/
structure FitsAt (own : List Rule) (before text : List Char) : Prop where
  comment : blockComment ∈ own
  others : ∀ r ∈ own, r = blockComment ∨ r.NamesAt before text

namespace FitsAt

/-- Where no name begins, only the rule for block comments may take something. -/
theorem findSome?_of_not_name (h : FitsAt own before text) (hname : startsName text = false) {e : Entry}
    (he : blockComment.plain? = some e) :
    (own.filterMap Rule.plain?).findSome? (·.pieces? before text) = e.pieces? before text := by
  refine findSome?_eq_of_mem (List.mem_filterMap.mpr ⟨_, h.comment, he⟩) fun e' he' => ?_
  obtain ⟨r, hr, hentry⟩ := List.mem_filterMap.mp he'
  rcases h.others r hr with rfl | hnames
  · exact .inl (Option.some.inj (hentry.symm.trans he))
  · refine .inr (Option.eq_none_iff_forall_not_mem.mpr fun ps hps => ?_)
    rw [(hnames e' ps hentry hps).1] at hname
    cases hname

theorem eq_run_of_findSome? (h : FitsAt own before text) (hname : startsName text = true)
    {ps : List (Kind × Nat)}
    (hps : (own.filterMap Rule.plain?).findSome? (·.pieces? before text) = some ps) :
    ∃ kind rest, ps = (kind, (wordAt text).length) :: rest := by
  obtain ⟨e, he, hpieces⟩ := List.exists_of_findSome?_eq_some hps
  obtain ⟨r, hr, hentry⟩ := List.mem_filterMap.mp he
  rcases h.others r hr with rfl | hnames
  · rw [nameless_blockComment.pieces?_eq_none hentry hname] at hpieces
    cases hpieces
  · exact (hnames e ps hentry hpieces).2

theorem pieces_of_name (h : FitsAt own before text) (hname : startsName text = true)
    (hleading : (leadingRules.filterMap Rule.plain?).findSome? (·.pieces? before text) = none) :
    ∃ kind rest, pieces (baseEntries own) before text = (kind, (wordAt text).length) :: rest := by
  rw [pieces, baseEntries, baseRules, List.filterMap_append, List.filterMap_append, List.findSome?_append,
    List.findSome?_append, hleading, findSome?_trailing hname, Option.none_or]
  cases hown : (own.filterMap Rule.plain?).findSome? (·.pieces? before text) with
  | none => exact ⟨.text, [], rfl⟩
  | some ps => exact h.eq_run_of_findSome? hname hown

end FitsAt

theorem cutAlike_base (h : FitsAt own before text) (h' : FitsAt own' before text) (htext : text ≠ []) :
    CutAlike (baseEntries own) (baseEntries own') before text := by
  obtain ⟨n, emission, hreads, -⟩ := nameless_blockComment
  have he := hreads.plain?
  cases hleading : (leadingRules.filterMap Rule.plain?).findSome? (·.pieces? before text) with
  | some ps =>
    -- a rule that both try first decides
    refine .of_eq htext ?_
    rw [pieces, pieces, baseEntries, baseEntries, baseRules, baseRules]
    simp only [List.filterMap_append, List.findSome?_append, hleading, Option.some_or]
  | none =>
    -- where no name begins, both are left with block comments and the trailing rules
    cases hname : startsName text with
    | false =>
      refine .of_eq htext ?_
      rw [pieces, pieces, baseEntries, baseEntries, baseRules, baseRules]
      simp only [List.filterMap_append, List.findSome?_append, h.findSome?_of_not_name hname he,
        h'.findSome?_of_not_name hname he]
    | true =>
      obtain ⟨kind, rest, hps⟩ := h.pieces_of_name hname hleading
      obtain ⟨kind', rest', hps'⟩ := h'.pieces_of_name hname hleading
      refine ⟨_, _, _, _, hps, hps', rfl, fun hnone => ?_⟩
      rw [hname] at hnone
      cases hnone

end Position

/-! ## The languages -/

theorem Keywords.namesAt {r : Rule} (h : Keywords r) (before text : List Char) : r.NamesAt before text := by
  obtain ⟨ws, kind, hne, hnames, hreads⟩ := h.reads
  exact hreads.namesAt (Pattern.takesNames_wordsNode hne hnames)

/-- The tree of the pattern for the modifiers of a rule. -/
def modifierNode : Pattern.Node :=
  .ofSeq [.one (.single '@'), .ofAlts (["abstract", "lazy", "primary", "greedy"].map (.ofText ·.toList)),
    boundary]

theorem readNode_modifier : readNode "@(?:abstract|lazy|primary|greedy)\\b".toList = .ok modifierNode := rfl

/-- The tree of the pattern for the word that begins a rule. -/
def ruleNode : Pattern.Node :=
  .ofSeq ((.look .lineStart :: "rule".toList.map fun c => .one (.single c)) ++ [boundary])

theorem readNode_rule : readNode "^rule\\b".toList = .ok ruleNode := rfl

theorem spells_rule : Pattern.SpellsOneOf
    (fun x => Pattern.Assertion.lineStart.holds x.before x.text.head? && true) ["rule".toList]
    (Pattern.Node.ofSeq (.look .lineStart :: "rule".toList.map fun c => .one (.single c))).ways :=
  (Pattern.SpellsOneOf.ofText "rule".toList).look .lineStart

theorem takesNames_ruleNode : TakesNames (.ofNode ruleNode) :=
  Pattern.takesNames_of_spells (by decide) spells_rule (by decide)

/-- The tree of the pattern for the words that open the indented lines of a rule. -/
def transformNode : Pattern.Node :=
  .ofSeq ([.ofAlts (["transform", "to"].map (.ofText ·.toList))] ++ [boundary])

theorem readNode_transform : readNode "(?:transform|to)\\b".toList = .ok transformNode := rfl

theorem spells_transform : Pattern.SpellsOneOf (fun _ => true) (["transform", "to"].map String.toList)
    (Pattern.Node.ofSeq [.ofAlts (["transform", "to"].map (.ofText ·.toList))]).ways :=
  .ofAlts (by decide)

theorem takesNames_transformNode : TakesNames (.ofNode transformNode) :=
  Pattern.takesNames_of_spells (by decide) spells_transform (by decide)

theorem not_mem_single {c d : Char} (h : c ≠ d) : (Unicode.CharSet.single d).contains c = false :=
  Bool.eq_false_iff.mpr fun hmem => h (Unicode.CharSet.mem_single.mp hmem)

section Position
variable {before text : List Char} {c : Char}

theorem annotationRule_namesAt (hc : c ≠ '@') : annotationRule.NamesAt before (c :: text) :=
  reads_annotationRule.namesAt_of_not_opens ((Pattern.opens_remark _ _ _).trans (not_mem_single hc))

theorem eol_fitsAt (before text : List Char) : FitsAt Eol.rules before text :=
  ⟨List.mem_cons_self, fun _ hr => (mem_eol_rules hr).imp id fun h => h.namesAt before text⟩

theorem emfatic_fitsAt (hc : c ≠ '@') : FitsAt Emfatic.rules before (c :: text) := by
  refine ⟨List.mem_cons_of_mem _ List.mem_cons_self, fun r hr => ?_⟩
  rcases mem_emfatic_rules hr with rfl | rfl | hkeywords
  · exact .inr (annotationRule_namesAt hc)
  · exact .inl rfl
  · exact .inr (hkeywords.namesAt before _)

/-- The rule for the names of rules. -/
def nameRule : Rule := (Rule.token "\\w+" .nameAttribute).after ["rule ", "extends "]

theorem etl_fitsAt_of_nameRule (hc : c ≠ '@') (hname : nameRule.NamesAt before (c :: text)) :
    FitsAt Etl.rules before (c :: text) := by
  refine ⟨List.mem_cons_self, fun r hr => ?_⟩
  simp only [Etl.rules, List.mem_cons, List.not_mem_nil, or_false] at hr
  rcases hr with rfl | rfl | rfl | rfl | rfl | rfl | rfl | rfl | rfl
  · exact .inl rfl
  · refine .inr ((Rule.Reads.token readNode_modifier (by decide) _).namesAt_of_not_opens ?_)
    exact (Pattern.Node.opens_ofSeq_one _ _).trans (not_mem_single hc)
  · exact .inr ((Rule.Reads.token readNode_rule (by decide) _).namesAt takesNames_ruleNode)
  · have hreads := (Rule.Reads.token readNode_transform (by decide) .nameFunction).after ["    ", "\t"]
    exact .inr (hreads.namesAt takesNames_transformNode)
  · exact .inr hname
  · exact .inr ((Keywords.mk (by decide) (by decide) _).namesAt before _)
  · exact .inr ((Keywords.mk (by decide) (by decide) _).namesAt before _)
  · exact .inr ((Keywords.mk (by decide) (by decide) _).namesAt before _)
  · exact .inr (Rule.Reads.namesAt_labelled
      ⟨⟨_, none, rfl, readNode_guard⟩, Pattern.advances_labelled _ _ _, .labelled (by decide) _ _⟩
      (by decide) (by decide))

theorem etl_fitsAt (hc : c ≠ '@')
    (hdigit : ∀ t ∈ ["rule ", "extends "], ∀ d ∈ Unicode.Ascii.digit,
      ¬ t.toList ++ [d] <:+: before.reverse ++ c :: text) :
    FitsAt Etl.rules before (c :: text) :=
  etl_fitsAt_of_nameRule hc (((reads_run .nameAttribute).after _).namesAt_after rfl hdigit)

end Position

/-- Two languages whose rules fit at all positions of a text cut it alike. -/
theorem tokenize_agree_of_fitsAt (l m : Language) {input : String}
    (hfits : ∀ before c text, before.reverse ++ c :: text = input.toList →
      FitsAt l.rules before (c :: text) ∧ FitsAt m.rules before (c :: text)) :
    List.Forall₂ Token.Agrees (l.lexer.tokenize input) (m.lexer.tokenize input) := by
  rw [l.tokenize_eq_tokensFrom, m.tokenize_eq_tokensFrom]
  refine tokensFrom_agree (resumes_base l.regular_rules) (resumes_base m.regular_rules) ?_ rfl 0
  intro before text hinput htext
  obtain ⟨c, cs, rfl⟩ := List.exists_cons_of_ne_nil htext
  obtain ⟨h, h'⟩ := hfits before c cs hinput
  exact cutAlike_base h h' htext

/-- **The languages cut a text alike**: without `@`, the tokens of EOL and Emfatic are the same pieces, of
the same kinds unless they begin with a name; so are those of ETL, if no digit follows right after `rule `
or `extends `. -/
theorem tokenize_agree (input : String) (hat : '@' ∉ input.toList) :
    List.Forall₂ Token.Agrees (eol.lexer.tokenize input) (emfatic.lexer.tokenize input) ∧
      ((∀ t ∈ ["rule ", "extends "], ∀ d ∈ Unicode.Ascii.digit, ¬ t.toList ++ [d] <:+: input.toList) →
        List.Forall₂ Token.Agrees (eol.lexer.tokenize input) (etl.lexer.tokenize input)) := by
  have hne {before : List Char} {c : Char} {text : List Char}
      (hinput : before.reverse ++ c :: text = input.toList) : c ≠ '@' := by
    rintro rfl
    exact hat (hinput ▸ List.mem_append_right _ List.mem_cons_self)
  constructor
  · refine tokenize_agree_of_fitsAt eol emfatic fun before c text hinput => ?_
    exact ⟨eol_fitsAt before _, emfatic_fitsAt (hne hinput)⟩
  · intro hdigit
    refine tokenize_agree_of_fitsAt eol etl fun before c text hinput => ?_
    exact ⟨eol_fitsAt before _, etl_fitsAt (hne hinput) (hinput.symm ▸ hdigit)⟩

/-- In a rule with a name, a target and a guard, the number is taken as such. -/
theorem tokenize_agree_rule :
    let input := "rule a extends b\n    to 7\nguard: true"
    '@' ∉ input.toList ∧
      (∀ t ∈ ["rule ", "extends "], ∀ d ∈ Unicode.Ascii.digit, ¬ t.toList ++ [d] <:+: input.toList) ∧
      List.Forall₂ Token.Agrees (eol.lexer.tokenize input) (emfatic.lexer.tokenize input) ∧
      List.Forall₂ Token.Agrees (eol.lexer.tokenize input) (etl.lexer.tokenize input) := by
  intro input
  have hat : '@' ∉ input.toList := by decide
  have hdigit : ∀ t ∈ ["rule ", "extends "], ∀ d ∈ Unicode.Ascii.digit,
      ¬ t.toList ++ [d] <:+: input.toList := by
    intro t ht d hd hfound
    have hmem : d ∈ input.toList.filter Unicode.Ascii.digit.contains :=
      List.mem_filter.mpr ⟨hfound.subset (by simp), hd⟩
    have hdigits : input.toList.filter Unicode.Ascii.digit.contains = ['7'] := by decide
    rw [hdigits, List.mem_singleton] at hmem
    subst hmem
    have hnone : ∀ t ∈ ["rule ", "extends "], ∀ rest ∈ input.toList.tails, ¬ t.toList ++ ['7'] <+: rest := by
      decide
    obtain ⟨rest, hprefix, hsuffix⟩ := List.infix_iff_prefix_suffix.mp hfound
    exact hnone t ht rest ((List.mem_tails _ _).mpr hsuffix) hprefix
  exact ⟨hat, hdigit, (tokenize_agree input hat).1, (tokenize_agree input hat).2 hdigit⟩

end Language

end TableLexer
