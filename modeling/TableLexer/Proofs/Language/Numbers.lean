import TableLexer.Proofs.Language.Numerals
import TableLexer.Proofs.Language.Starts

/-!
# Numbers

`tokenize_numbers`: where a token begins and a number stands, up to a character that is neither a word
character nor a point, the token is the number, and its kind is that of the first pattern for numbers that
matches it.

Proof. At a digit and at a point, the rules before those for numbers take nothing (`findSome?_own`), unless the
rule for names stands in for them. Of the patterns for numbers, those before the one that matches refuse the
text, and this one takes all of it (`findSome?_numeralEntries`).
-/

namespace TableLexer.Language
open Pattern (Node readNode Excludes Settled Meets Prefers MatchesWhole)
open Unicode (CharSet)

/-! ## The patterns for numbers -/

/-- The patterns for numbers with their kinds, in the order in which they are tried. -/
def numerals : List (String × Kind) := [
  (float, .numberFloat), (hex, .numberHex), (bin, .numberBin), (oct, .numberOct), (integer, .numberInteger)]

/-- The trees of these patterns. -/
def numeralNodes : List (Node × Kind) := [
  (floatNode, .numberFloat), (hexNode, .numberHex), (binNode, .numberBin), (octNode, .numberOct),
  (integerNode, .numberInteger)]

theorem trailingRules_eq_numerals :
    trailingRules = numerals.map (fun p => Rule.token p.1 p.2) ++ trailingRules.drop 5 := rfl

theorem readNode_numerals :
    List.Forall₂ (fun p q => readNode p.1.toList = .ok q.1 ∧ p.2 = q.2) numerals numeralNodes :=
  .cons ⟨readNode_float, rfl⟩ (.cons ⟨readNode_hex, rfl⟩ (.cons ⟨readNode_bin, rfl⟩
    (.cons ⟨readNode_oct, rfl⟩ (.cons ⟨readNode_integer, rfl⟩ .nil))))

/-- The entry of the rule with this tree. -/
def numeralEntry (q : Node × Kind) : Entry := ⟨{}, .scan (.ofNode q.1) none (.whole q.2)⟩

theorem exists_numeralNode {p : String × Kind} (hp : p ∈ numerals) {w : List Char} (hw : MatchesWhole p.1 w) :
    ∃ q ∈ numeralNodes, q.1.Denotes w ∧ q.2 = p.2 := by
  obtain ⟨n, hread, hn⟩ := hw
  obtain ⟨i, hi, rfl⟩ := List.mem_iff_getElem.mp hp
  have hlength := readNode_numerals.length_eq
  have hentry := (List.forall₂_iff_get.mp readNode_numerals).2 i hi (by omega)
  obtain rfl := Except.ok.inj (hread.symm.trans hentry.1)
  exact ⟨_, List.get_mem _ _, hn, hentry.2.symm⟩

theorem numeralNodes_advance : ∀ q ∈ numeralNodes, q.1.Advances := by decide

theorem plain?_of_readNode {ps : List (String × Kind)} {qs : List (Node × Kind)}
    (h : List.Forall₂ (fun p q => readNode p.1.toList = .ok q.1 ∧ p.2 = q.2) ps qs)
    (hadvances : ∀ q ∈ qs, q.1.Advances) :
    (ps.map fun p => Rule.token p.1 p.2).filterMap Rule.plain? = qs.map numeralEntry := by
  induction h with
  | nil => rfl
  | @cons p q ps qs hread _ ih =>
    have hreads := Rule.Reads.token hread.1 (hadvances q List.mem_cons_self) p.2
    have hentry : (Rule.token p.1 p.2).plain? = some (numeralEntry q) := by
      rw [hreads.plain?, hread.2]
      rfl
    rw [List.map_cons, List.filterMap_cons_some hentry, List.map_cons,
      ih fun q' hq' => hadvances q' (List.mem_cons_of_mem _ hq')]

/-! ## Which pattern takes a number -/

section Entries
variable {q : Node × Kind} {w rest text : List Char}

theorem pieces?_numeralEntry_of_refuses (hadvances : q.1.Advances) (h : q.1.Refuses text) (before : List Char) :
    (numeralEntry q).pieces? before text = none := by
  have hm := Pattern.match?_of_refuses hadvances h before.head?
  have hallows : Guard.allows {} before = true := rfl
  simp only [numeralEntry, Entry.pieces?, hallows, if_true, hm]

theorem pieces?_numeralEntry_of_prefers (hadvances : q.1.Advances) (h : Prefers q.1.ways w rest)
    (hw : w ≠ []) (before : List Char) :
    (numeralEntry q).pieces? before (w ++ rest) = some [(q.2, w.length)] := by
  have hm := Pattern.match?_of_prefers hadvances h before.head?
  have hallows : Guard.allows {} before = true := rfl
  simp only [numeralEntry, Entry.pieces?, hallows, if_true, hm]
  exact if_neg (Nat.ne_of_gt (List.length_pos_iff.mpr hw))

/-- The pattern that takes a text takes it, if those before it refuse it. -/
theorem findSome?_numeralEntries {init tail : List (Node × Kind)}
    (hadvances : ∀ q' ∈ init ++ q :: tail, q'.1.Advances) (hrefuses : ∀ q' ∈ init, q'.1.Refuses (w ++ rest))
    (hprefers : Prefers q.1.ways w rest) (hw : w ≠ []) (before : List Char) :
    ((init ++ q :: tail).map numeralEntry).findSome? (·.pieces? before (w ++ rest))
      = some [(q.2, w.length)] := by
  have hinit : (init.map numeralEntry).findSome? (·.pieces? before (w ++ rest)) = none := by
    refine List.findSome?_eq_none_iff.mpr (List.forall_mem_map.mpr fun q' hq' => ?_)
    exact pieces?_numeralEntry_of_refuses (hadvances q' (List.mem_append_left _ hq')) (hrefuses q' hq') before
  have hq := pieces?_numeralEntry_of_prefers (hadvances q (by simp)) hprefers hw before
  rw [List.map_append, List.map_cons, List.findSome?_append, hinit, Option.none_or, List.findSome?_cons, hq]

end Entries

/-! ## Where numbers stand -/

/-- In ETL, what follows right after these texts is a name, whatever it is. -/
def FreeOfNames (l : Language) (before : List Char) : Prop :=
  l = etl → ∀ text ∈ ["rule ", "extends "], ¬ text.toList <:+ before

/-- A digit or a point. -/
def BeginsNumber (c : Char) : Prop := c ∈ Unicode.Ascii.digit ∨ c = '.'

theorem mem_word_of_digit {c : Char} (hc : c ∈ Unicode.Ascii.digit) : c ∈ Unicode.word := by
  have hascii : c ∈ CharSet.ascii := by
    simp only [Unicode.Ascii.digit, CharSet.ascii, CharSet.mem_range] at hc ⊢
    exact ⟨Char.le_trans (by decide) hc.1, Char.le_trans hc.2 (by decide)⟩
  rw [Unicode.mem_word_ascii hascii, Unicode.Ascii.word, Unicode.Ascii.alnum]
  exact CharSet.mem_union.mpr (.inl (CharSet.mem_union.mpr (.inl hc)))

namespace BeginsNumber
variable {c : Char}

theorem not_mem_initials (h : BeginsNumber c) : c ∉ initials := by
  rcases h with h | rfl
  · exact not_mem_initials_of_word (mem_word_of_digit h)
  · exact not_mem_initials_point

theorem beginsName (h : BeginsNumber c) : Pattern.beginsName c = false := by
  rcases h with h | rfl
  · rw [Pattern.beginsName, CharSet.mem_iff.mp h, Bool.not_true, Bool.and_false]
  · decide

theorem ne_at (h : BeginsNumber c) : c ≠ '@' := by
  rintro rfl
  rcases h with h | h <;> revert h <;> decide

end BeginsNumber

section Position
variable {l : Language} {before text : List Char} {c : Char}

theorem fitsAt_number (hfree : FreeOfNames l before) (hc : BeginsNumber c) (text : List Char) :
    FitsAt l.rules before.reverse (c :: text) := by
  cases l with
  | eol => exact eol_fitsAt _ _
  | emfatic => exact emfatic_fitsAt hc.ne_at
  | etl =>
    refine etl_fitsAt_of_nameRule hc.ne_at fun e ps he hps => ?_
    have hreads : nameRule.Reads Pattern.runNode (.whole .nameAttribute) := (reads_run .nameAttribute).after _
    obtain ⟨m, -, hallows, -⟩ := hreads.pieces?_eq_some he hps
    -- the rule for names would have to stand right after one of its texts
    have hguard : nameRule.guard.allows before.reverse
        = (["rule ", "extends "].any (endsWith before.reverse) && true) := rfl
    rw [hguard, Bool.and_true, List.any_eq_true] at hallows
    obtain ⟨t, ht, hends⟩ := hallows
    exact absurd (endsWith_reverse_iff.mp hends) (hfree rfl t ht)

theorem findSome?_own (hfree : FreeOfNames l before) (hc : BeginsNumber c) (text : List Char) :
    l.rules.findSome? (·.pieces? before.reverse (c :: text)) = none := by
  obtain ⟨n, emission, hreads, -⟩ := nameless_blockComment
  have hcomment := startsIn_blockComment.pieces?_eq_none hc.not_mem_initials before.reverse text
  rw [Rule.pieces?_of_plain? hreads.plain?] at hcomment
  have hfits := fitsAt_number hfree hc text
  rw [← findSome?_plain?, hfits.findSome?_of_not_name hc.beginsName hreads.plain?, hcomment]

theorem pieces_numeral (hfree : FreeOfNames l before) {init tail : List (Node × Kind)} {q : Node × Kind}
    (hall : numeralNodes = init ++ q :: tail) {cs rest : List Char} (hc : BeginsNumber c)
    (hrefuses : ∀ q' ∈ init, q'.1.Refuses (c :: cs ++ rest)) (hprefers : Prefers q.1.ways (c :: cs) rest) :
    pieces (baseEntries l.rules) before.reverse (c :: cs ++ rest) = [(q.2, (c :: cs).length)] := by
  have hadvances : ∀ q' ∈ init ++ q :: tail, q'.1.Advances := by
    rw [← hall]
    exact numeralNodes_advance
  rw [pieces, List.cons_append, findSome?_base hc.not_mem_initials, findSome?_own hfree hc, Option.none_or,
    ← findSome?_plain?, trailingRules_eq_numerals, List.filterMap_append, List.findSome?_append,
    plain?_of_readNode readNode_numerals numeralNodes_advance, hall, ← List.cons_append,
    findSome?_numeralEntries hadvances hrefuses hprefers (List.cons_ne_nil _ _), Option.some_or]

end Position

/-! ## Numbers -/

/-- The characters that are neither digits nor points. -/
def unnumbered : CharSet := .range '\x00' '-' ∪ .single '/' ∪ .range ':' (Char.ofNat 0x10ffff)

theorem beginsNumber_of_not_mem {c : Char} (h : c ∉ unnumbered) : BeginsNumber c := by
  have hrange {a b : Char} : c ∈ CharSet.range a b ↔ a.toNat ≤ c.toNat ∧ c.toNat ≤ b.toNat := CharSet.mem_range
  have hlast : c.toNat ≤ 0x10ffff := toNat_le c
  simp only [unnumbered, CharSet.single, CharSet.mem_union, hrange, Char.reduceToNat] at h
  have hpoint : c ∈ CharSet.range '.' '.' ↔ c = '.' := CharSet.mem_single
  rw [BeginsNumber, Unicode.Ascii.digit, ← hpoint, hrange, hrange]
  simp only [Char.reduceToNat]
  omega

theorem numeralNodes_begin : ∀ q ∈ numeralNodes, q.1.nullable = false ∧ q.1.starts.apart unnumbered = true := by
  decide

theorem exists_cons_of_number {q : Node × Kind} (hq : q ∈ numeralNodes) {w : List Char} (hw : q.1.Denotes w) :
    ∃ c cs, w = c :: cs ∧ BeginsNumber c := by
  obtain ⟨hnullable, hapart⟩ := numeralNodes_begin q hq
  cases w with
  | nil =>
    rw [Node.nullable_of_denotes hw] at hnullable
    cases hnullable
  | cons c cs =>
    refine ⟨c, cs, rfl, beginsNumber_of_not_mem ?_⟩
    exact CharSet.not_mem_of_apart hapart (Node.mem_starts_of_denotes hw)

/-- A number up to where it cannot go on is the piece that is taken. -/
theorem pieces_number {l : Language} {before : List Char} (hfree : FreeOfNames l before) {q : Node × Kind}
    (hq : q ∈ numeralNodes) {w rest : List Char} (hw : q.1.Denotes w) (hrest : Meets beyond rest) :
    pieces (baseEntries l.rules) before.reverse (w ++ rest) = [(q.2, w.length)] := by
  have hsettled : Settled beyond q.1 := numberNodes_settled q.1 (List.mem_map_of_mem (f := Prod.fst) hq)
  have hexclude : numeralNodes.Pairwise fun q q' => Excludes beyond q.1 q'.1 :=
    List.pairwise_map.mp numberNodes_exclude
  obtain ⟨c, cs, rfl, hc⟩ := exists_cons_of_number hq hw
  obtain ⟨init, tail, hall⟩ := List.append_of_mem hq
  rw [hall] at hexclude
  refine pieces_numeral hfree hall hc (fun q' hq' => ?_) (hsettled _ _ hw hrest)
  exact (List.pairwise_append.mp hexclude).2.2 q' hq' q List.mem_cons_self _ _ hw hrest

theorem exists_first {α : Type} {P : α → Prop} {l : List α} (h : ∃ a ∈ l, P a) :
    ∃ init a tail, l = init ++ a :: tail ∧ (∀ b ∈ init, ¬ P b) ∧ P a := by
  induction l with
  | nil =>
    obtain ⟨a, ha, -⟩ := h
    cases ha
  | cons b l ih =>
    by_cases hb : P b
    · exact ⟨[], b, l, rfl, fun a ha => absurd ha List.not_mem_nil, hb⟩
    · obtain ⟨a, ha, hPa⟩ := h
      have ha : a ∈ l := by
        rcases List.mem_cons.mp ha with rfl | ha
        · exact absurd hPa hb
        · exact ha
      obtain ⟨init, a', tail, rfl, hinit, ha'⟩ := ih ⟨a, ha, hPa⟩
      exact ⟨b :: init, a', tail, rfl, List.forall_mem_cons.mpr ⟨hb, hinit⟩, ha'⟩

/-- **Numbers are never split.** Where a token begins, in ETL not right after `rule ` or `extends `, a number up
to the end or a character that is neither a word character nor a point is the token, of the kind of the first
pattern for numbers that matches it as a whole. -/
theorem tokenize_numbers (l : Language) (input : String) : ∀ t ∈ l.lexer.tokenize input,
    ∀ before w rest, input.toList = before ++ (w ++ rest) → t.offset = byteLength before →
      (l = etl → ∀ text ∈ ["rule ", "extends "], ¬ text.toList <:+ before) →
      (∀ c ∈ rest.head?, c ∉ Unicode.word ∧ c ≠ '.') → (∃ p ∈ numerals, MatchesWhole p.1 w) →
      ∃ init p tail, numerals = init ++ p :: tail ∧ (∀ q ∈ init, ¬ MatchesWhole q.1 w) ∧ MatchesWhole p.1 w ∧
        t = ⟨p.2, .ofList w, byteLength before⟩ := by
  intro t ht before w rest hinput hoffset hfree hrest hmatches
  obtain ⟨init, p, tail, hall, hinit, hp⟩ := exists_first hmatches
  refine ⟨init, p, tail, hall, hinit, hp, ?_⟩
  have hmem : p ∈ numerals := by
    rw [hall]
    exact List.mem_append_right _ List.mem_cons_self
  obtain ⟨q, hq, hw, hkind⟩ := exists_numeralNode hmem hp
  have hmeets : Meets beyond rest := fun c hc => mem_beyond (hrest c hc).1 (hrest c hc).2
  rw [← hkind]
  exact token_eq_of_pieces ht hinput hoffset (List.prefix_append w rest) (pieces_number hfree hq hw hmeets)

/-- The hexadecimal digits, the point, the exponent and the suffix are one float. -/
theorem tokenize_numbers_hexFloat :
    let number := "0x1.8p3f"
    let token : Token := ⟨.numberFloat, number, 0⟩
    MatchesWhole float number.toList ∧ token ∈ etl.lexer.tokenize "0x1.8p3f)" := by
  intro number token
  have hmatches : MatchesWhole float number.toList := by
    refine ⟨floatNode, readNode_float, (Node.denotes_iff (by decide) (by decide)).mpr ?_⟩
    decide
  have hrest : ∀ c ∈ [')'].head?, c ∉ Unicode.word ∧ c ≠ '.' := by
    intro c hc
    cases hc
    decide
  obtain ⟨t, ht, hoffset⟩ : ∃ t ∈ etl.lexer.tokenize "0x1.8p3f)", t.offset = 0 :=
    exists_token_at_start etl (by decide)
  obtain ⟨init, p, tail, hall, hinit, -, rfl⟩ := tokenize_numbers etl _ t ht [] number.toList [')'] (by decide)
    hoffset (fun _ => by decide) hrest ⟨(float, .numberFloat), List.mem_cons_self, hmatches⟩
  rw [String.ofList_toList] at ht
  cases init with
  | nil =>
    obtain rfl := (List.cons.inj hall).1
    exact ⟨hmatches, ht⟩
  | cons q init =>
    have hq : (float, Kind.numberFloat) = q := (List.cons.inj hall).1
    have hnone := hinit q List.mem_cons_self
    rw [← hq] at hnone
    exact absurd hmatches hnone

end TableLexer.Language
