import TableLexer.Proofs.Language.Segmentation
import TableLexer.Proofs.Language.Strings

/-!
# Where words and numbers begin

At a word character and at a point, the leading rules and the rule for block comments take nothing, so the
other rules of a language's own and then the trailing ones decide (`findSome?_base`). For word characters
this needs that they are no white space (`not_mem_space_of_word`). A rule for some words takes the run of word
characters, if it is one of them (`pieces?_words`).
-/

namespace TableLexer

/-! ## Word characters and white space -/

namespace Unicode

/-- White space beyond ASCII. -/
def wideSpaces : List Nat := [
  0x85, 0xA0, 0x1680, 0x2000, 0x2001, 0x2002, 0x2003, 0x2004, 0x2005, 0x2006, 0x2007, 0x2008, 0x2009,
  0x200A, 0x2028, 0x2029, 0x202F, 0x205F, 0x3000]

theorem mem_wideSpaces {c : Char} (hspace : c ∈ Binary.whiteSpace) (hascii : c ∉ CharSet.ascii) :
    c.toNat ∈ wideSpaces := by
  have hrange : c ∈ CharSet.ascii ↔ 0 ≤ c.toNat ∧ c.toNat ≤ 127 := CharSet.mem_range
  rw [hrange] at hascii
  rw [CharSet.mem_iff] at hspace
  simp only [Binary.whiteSpace, CharSet.contains, CodeSet.contains, CodeRun.contains, List.any_cons,
    List.any_nil, Bool.or_eq_true, Bool.and_eq_true, Nat.ble_eq, Nat.beq_eq, Nat.mod_one, and_true,
    Bool.false_eq_true, or_false] at hspace
  simp only [wideSpaces, List.mem_cons, List.not_mem_nil, or_false]
  omega

theorem not_mem_space_of_word {c : Char} (hword : c ∈ word) : c ∉ space := by
  intro hspace
  by_cases hascii : c ∈ CharSet.ascii
  · rw [mem_word_ascii hascii] at hword
    rw [mem_space_ascii hascii] at hspace
    have hrange {a b : Char} : c ∈ CharSet.range a b ↔ a.toNat ≤ c.toNat ∧ c.toNat ≤ b.toNat := CharSet.mem_range
    simp only [Ascii.word, Ascii.alnum, Ascii.alpha, Ascii.digit, Ascii.upper, Ascii.lower, CharSet.single,
      CharSet.mem_union, hrange, Char.reduceToNat] at hword
    simp only [Ascii.space, CharSet.single, CharSet.mem_union, hrange, Char.reduceToNat] at hspace
    omega
  · have hwide : c ∈ Binary.whiteSpace := by
      simp only [space, extendAscii, CharSet.mem_union, CharSet.mem_inter, CharSet.mem_compl] at hspace
      rcases hspace with hspace | hspace
      · exact absurd hspace.1 hascii
      · exact hspace.2
    have hnone : ∀ n ∈ wideSpaces, word.contains (Char.ofNat n) = false := by decide +kernel
    have hfalse := hnone c.toNat (mem_wideSpaces hwide hascii)
    rw [Char.ofNat_toNat] at hfalse
    rw [CharSet.mem_iff, hfalse] at hword
    cases hword

end Unicode

open Pattern (readNode)

/-! ## What a rule takes -/

/-- The pieces that a rule takes at a position, in a table without openers. -/
def Rule.pieces? (r : Rule) (before text : List Char) : Option (List (Kind × Nat)) :=
  r.plain?.bind (·.pieces? before text)

theorem Rule.pieces?_of_plain? {r : Rule} {e : Entry} (h : r.plain? = some e) (before text : List Char) :
    r.pieces? before text = e.pieces? before text := by
  rw [pieces?, h, Option.bind_some]

theorem findSome?_plain? (rules : List Rule) (before text : List Char) :
    (rules.filterMap Rule.plain?).findSome? (·.pieces? before text) = rules.findSome? (·.pieces? before text) := by
  induction rules with
  | nil => rfl
  | cons r rules ih =>
    rw [List.findSome?_cons, Rule.pieces?]
    cases hentry : r.plain? with
    | none =>
      rw [List.filterMap_cons_none hentry]
      exact ih
    | some e =>
      rw [List.filterMap_cons_some hentry, List.findSome?_cons, ih]
      rfl

theorem Rule.Reads.pieces?_eq_ite {r : Rule} {n : Pattern.Node} {emission : Emission} (h : r.Reads n emission)
    {before text : List Char} {condition : Prop} [Decidable condition] {m : Pattern.Match} (hlength : m.length ≠ 0)
    (hmatch : (Pattern.ofNode n).match? before.head? text = if condition then some m else none) :
    r.pieces? before text =
      if r.guard.allows before = true ∧ condition then some (Scanner.cut m emission) else none := by
  rw [Rule.pieces?_of_plain? h.plain?]
  simp only [Entry.pieces?, hmatch]
  by_cases hallows : r.guard.allows before = true
  · by_cases hcondition : condition
    · simp only [hallows, hcondition, if_true, and_self, if_neg hlength]
    · simp only [hcondition, if_false, and_false, ite_self]
  · rw [if_neg hallows, if_neg fun h => hallows h.1]

/-- A rule takes what its pattern matches where its guard lets it. -/
theorem Rule.Reads.pieces?_iff {r : Rule} {n : Pattern.Node} {emission : Emission} (h : r.Reads n emission)
    {before text : List Char} {ps : List (Kind × Nat)} : r.pieces? before text = some ps ↔
      r.guard.allows before = true ∧ ∃ m, (Pattern.ofNode n).match? before.head? text = some m ∧ m.length ≠ 0 ∧
        ps = Scanner.cut m emission := by
  rw [Rule.pieces?_of_plain? h.plain?]
  constructor
  · intro hps
    obtain ⟨pattern, opener, emission', m, haction, hallows, hm, hlength, rfl⟩ := Entry.pieces?_eq_some hps
    cases haction
    exact ⟨hallows, m, hm, Nat.ne_of_gt hlength, rfl⟩
  · rintro ⟨hallows, m, hm, hlength, rfl⟩
    simp only [Entry.pieces?, hallows, if_true, hm, if_neg hlength]

/-- The pattern of the rule begins with characters of the set only. -/
def Rule.StartsIn (r : Rule) (set : Unicode.CharSet) : Prop :=
  ∃ n emission, r.Reads n emission ∧ ∀ c, n.opens c = true → c ∈ set

theorem Rule.StartsIn.pieces?_eq_none {r : Rule} {set : Unicode.CharSet} (h : r.StartsIn set) {c : Char}
    (hc : c ∉ set) (before text : List Char) : r.pieces? before (c :: text) = none := by
  obtain ⟨n, emission, hreads, hopens⟩ := h
  rw [Rule.pieces?_of_plain? hreads.plain?]
  exact hreads.pieces?_eq_none hreads.plain? (Bool.eq_false_iff.mpr fun hopen => hc (hopens c hopen)) before text

theorem Rule.Regular.takes_none {r : Rule} {cs : List Char} (h : r.Regular cs) {c : Char} (hc : c ∈ cs)
    (before text : List Char) : r.pieces? before (c :: text) = none := by
  obtain ⟨n, emission, hreads, hquiet⟩ := h.reads
  rw [Rule.pieces?_of_plain? hreads.plain?]
  exact hreads.pieces?_eq_none hreads.plain? (hquiet c hc) before text

namespace Language

/-- The characters with which strings, white space and comments begin. -/
def initials : Unicode.CharSet := Unicode.CharSet.ofList ('/' :: quotes) ∪ Unicode.space

theorem mem_initials {c : Char} : c ∈ initials ↔ c ∈ '/' :: quotes ∨ c ∈ Unicode.space := by
  rw [initials, Unicode.CharSet.mem_union, Unicode.CharSet.mem_ofList]

theorem not_mem_initials_of_word {c : Char} (hc : c ∈ Unicode.word) : c ∉ initials := by
  rw [mem_initials]
  rintro (hsign | hspace)
  · simp only [quotes, List.mem_cons, List.not_mem_nil, or_false] at hsign
    rcases hsign with rfl | rfl | rfl <;> revert hc <;> decide
  · exact Unicode.not_mem_space_of_word hc hspace

theorem not_mem_at_of_word {c : Char} (hc : c ∈ Unicode.word) : c ∉ Unicode.CharSet.single '@' := by
  intro hat
  rw [Unicode.CharSet.mem_single.mp hat] at hc
  revert hc
  decide

theorem not_mem_initials_point : '.' ∉ initials := by decide

/-- The tree of the pattern for white space within a line. -/
def spacesNode : Pattern.Node :=
  .repeated (.one (.compl (.empty ∪ .compl Unicode.space ∪ .range '\n' '\n'))) 1 none true

theorem readNode_spaces : readNode spaces.toList = .ok spacesNode := rfl

theorem startsIn_leadingRules : ∀ r ∈ leadingRules, r.StartsIn initials := by
  intro r hr
  rw [leadingRules_eq] at hr
  simp only [List.mem_append, List.mem_map, spaceRules, leadingRules, List.drop_succ_cons, List.drop_zero,
    List.mem_cons, List.not_mem_nil, or_false] at hr
  rcases hr with ⟨quote, hquote, rfl⟩ | rfl | rfl
  · refine ⟨_, _, reads_stringRule quote, fun c hc => mem_initials.mpr (.inl (List.mem_cons_of_mem _ ?_))⟩
    rw [Pattern.quotedNode, Pattern.Node.opens_ofSeq_one] at hc
    rwa [Unicode.CharSet.mem_single.mp hc]
  · refine ⟨_, _, .token readNode_spaces ⟨trivial, fun _ => rfl⟩ _, fun c hc => mem_initials.mpr (.inr ?_)⟩
    have hin : c ∈ Unicode.CharSet.compl (.empty ∪ .compl Unicode.space ∪ .range '\n' '\n') := hc
    simp only [Unicode.CharSet.mem_compl, Unicode.CharSet.mem_union, not_or, not_not] at hin
    exact hin.1.2
  · refine ⟨_, _, reads_lineCommentRule, fun c hc => mem_initials.mpr (.inl ?_)⟩
    rw [Pattern.opens_remark] at hc
    rw [Unicode.CharSet.mem_single.mp hc]
    exact List.mem_cons_self

theorem startsIn_blockComment : blockComment.StartsIn initials := by
  refine ⟨_, _, reads_blockComment, fun c hc => mem_initials.mpr (.inl ?_)⟩
  have hslash : c ∈ Unicode.CharSet.single '/' := (Pattern.Node.opens_ofSeq_one _ _).symm.trans hc
  rw [Unicode.CharSet.mem_single.mp hslash]
  exact List.mem_cons_self

/-- Where none of the initials stands, the rules of a language's own decide, and after them the trailing
ones. -/
theorem findSome?_base {own : List Rule} {c : Char} (hc : c ∉ initials) (before text : List Char) :
    (baseEntries own).findSome? (·.pieces? before (c :: text))
      = (own.findSome? (·.pieces? before (c :: text))).or
          (trailingRules.findSome? (·.pieces? before (c :: text))) := by
  have hleading : leadingRules.findSome? (·.pieces? before (c :: text)) = none :=
    List.findSome?_eq_none_iff.mpr fun r hr => (startsIn_leadingRules r hr).pieces?_eq_none hc before text
  rw [baseEntries, findSome?_plain?, baseRules, List.findSome?_append, List.findSome?_append, hleading,
    Option.none_or]

theorem exists_rule_of_token {l : Language} {input : String} {t : Token} (ht : t ∈ l.lexer.tokenize input)
    (herror : t.kind ≠ .error) (hplain : t.kind ≠ .text) : ∃ before rest r p ps, input.toList = before ++ rest ∧
      t = ⟨p.1, .ofList (rest.take p.2), byteLength before⟩ ∧ r ∈ baseRules l.rules ∧
      r.pieces? before.reverse rest = some (p :: ps) ∧ t.kind ∈ r.kinds := by
  obtain ⟨before, rest, p, ps, hinput, -, hpieces, rfl⟩ := exists_pieces ht
  obtain ⟨r, hr, e, hentry, htake, htext | hkind⟩ := exists_rule_of_kind l.regular_rules hpieces herror
  · exact absurd htext hplain
  · exact ⟨before, rest, r, p, ps, hinput, rfl, hr, (Rule.pieces?_of_plain? hentry _ _).trans htake, hkind⟩

/-! ## Words -/

theorem ofList_eq_iff {w : List Char} {s : String} : String.ofList w = s ↔ w = s.toList := by
  constructor
  · rintro rfl
    exact String.toList_ofList.symm
  · rintro rfl
    exact String.ofList_toList

theorem mem_map_toList_iff {w : List Char} {ws : List String} :
    w ∈ ws.map String.toList ↔ String.ofList w ∈ ws := by
  rw [List.mem_map]
  constructor
  · rintro ⟨s, hs, rfl⟩
    rwa [String.ofList_toList]
  · intro h
    exact ⟨_, h, String.toList_ofList⟩

section Word
open Pattern (wordAt startsName isName)
variable {before text : List Char}

theorem length_wordAt_ne_zero (hword : wordAt text ≠ []) : (wordAt text).length ≠ 0 := fun hzero =>
  hword (List.length_eq_zero_iff.mp hzero)

theorem pieces?_words {ws : List String} (hne : ws ≠ []) (hnames : ∀ w ∈ ws, isName w.toList = true)
    (kind : Kind) (hword : wordAt text ≠ []) (before : List Char) :
    (Rule.token (words ws) kind).pieces? before text =
      if before.head?.any Unicode.word.contains = false ∧ String.ofList (wordAt text) ∈ ws then
        some [(kind, (wordAt text).length)]
      else none := by
  have hreads : (Rule.token (words ws) kind).Reads (Pattern.wordsNode (ws.map String.toList)) (.whole kind) :=
    .token (readNode_words hne hnames) (Pattern.advances_wordsNode _) kind
  have hmatch := Pattern.match?_wordsNode (fun hnil => hne (List.map_eq_nil_iff.mp hnil))
    (List.forall_mem_map.mpr hnames) before.head? text
  refine (hreads.pieces?_eq_ite (length_wordAt_ne_zero hword) hmatch).trans (if_congr ?_ rfl rfl)
  rw [mem_map_toList_iff]
  exact and_iff_right rfl

theorem findSome?_trailingRules (hname : startsName text = true) (before : List Char) :
    trailingRules.findSome? (·.pieces? before text) = some [(.text, (wordAt text).length)] := by
  rw [← findSome?_plain?, findSome?_trailing hname before]

theorem any_word_iff {c : Option Char} :
    c.any Unicode.word.contains = true ↔ ∃ d ∈ c, d ∈ Unicode.word := Option.any_eq_true _ _

theorem any_word_eq_false {c : Option Char} (h : ∀ d ∈ c, d ∉ Unicode.word) :
    c.any Unicode.word.contains = false := by
  rw [← Bool.not_eq_true, any_word_iff]
  rintro ⟨d, hd, hword⟩
  exact h d hd hword

end Word

end Language

/-- What is before a position is given backwards. -/
theorem endsWith_reverse_iff {before : List Char} {text : String} :
    endsWith before.reverse text = true ↔ text.toList <:+ before := by
  rw [endsWith, List.isPrefixOf_iff_prefix, List.reverse_prefix]

end TableLexer
