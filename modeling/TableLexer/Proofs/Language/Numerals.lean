import TableLexer.Language.SharedRules
import TableLexer.Proofs.Pattern.Exclusion

/-!
# Patterns for numbers

The trees of the patterns for numbers. No text belongs to two of the five kinds, and a pattern leaves the
texts of a later kind alone: it refuses them (`numberNodes_exclude`). It takes the whole of its own texts
(`numberNodes_settled`). Both hold where the text ends or goes on with a character that is neither a word
character nor a point.

Only the patterns for floats are alternatives that share texts: a digit with an exponent and a suffix is
matched by two of them, in the same way.
-/

namespace TableLexer.Language
open Pattern (Node readNode Excludes Settled)
open Unicode (CharSet)
open Pattern.Node (ofSeq ofAlts one run optional)

/-! ## What ends a number -/

/-- The characters that are no letters, digits, underscores or points of ASCII. -/
def beyond : CharSet :=
  .range '\x00' '-' ∪ .single '/' ∪ .range ':' '@' ∪ .range '[' '^' ∪ .single '\x60' ∪
    .range '\x7b' (Char.ofNat 0x10ffff)

theorem toNat_le (c : Char) : c.toNat ≤ 0x10ffff := by
  have hvalid := c.valid
  unfold UInt32.isValidChar Nat.isValidChar at hvalid
  unfold Char.toNat
  omega

theorem mem_beyond {c : Char} (hword : c ∉ Unicode.word) (hpoint : c ≠ '.') : c ∈ beyond := by
  have hrange {a b : Char} : c ∈ CharSet.range a b ↔ a.toNat ≤ c.toNat ∧ c.toNat ≤ b.toNat := CharSet.mem_range
  have hlast : c.toNat ≤ 0x10ffff := toNat_le c
  refine Decidable.byContradiction fun hbeyond => ?_
  simp only [beyond, CharSet.single, CharSet.mem_union, hrange, Char.reduceToNat] at hbeyond
  have hpoint : c.toNat ≠ 46 := fun h => hpoint (Char.ext (UInt32.toNat_inj.mp h))
  have hascii : c ∈ CharSet.ascii := by
    simp only [CharSet.ascii, hrange, Char.reduceToNat]
    omega
  refine hword ((Unicode.mem_word_ascii hascii).mpr ?_)
  simp only [Unicode.Ascii.word, Unicode.Ascii.alnum, Unicode.Ascii.alpha, Unicode.Ascii.digit,
    Unicode.Ascii.upper, Unicode.Ascii.lower, CharSet.single, CharSet.mem_union, hrange, Char.reduceToNat]
  omega

/-! ## Trees -/

/-- One of two characters. -/
def either (a b : Char) : CharSet := .empty ∪ .single a ∪ .single b

/-- The digits. -/
def decimal : CharSet := .empty ∪ .range '0' '9'
/-- The digits without zero. -/
def positive : CharSet := .empty ∪ .range '1' '9'
/-- The digits in base sixteen. -/
def hexadecimal : CharSet := decimal ∪ .range 'a' 'f' ∪ .range 'A' 'F'
/-- The digits in base two. -/
def binary : CharSet := either '0' '1'
/-- The digits in base eight. -/
def octal : CharSet := .empty ∪ .range '0' '7'

/-- With underscores. -/
def spaced (digits : CharSet) : CharSet := digits ∪ .single '_'

/-- A digit, and then digits and underscores. -/
def digitsNodes (digits : CharSet) : List Node := [one digits, run (spaced digits) 0]

/-- A letter, perhaps a sign, and an exponent in base ten. -/
def exponentNodes (lower upper : Char) : List Node :=
  [one (either lower upper), optional (one (either '+' '-'))] ++ digitsNodes decimal

/-- The letters that may end a float. -/
def suffix : CharSet := either 'f' 'F' ∪ .single 'd' ∪ .single 'D'

/-- A point. -/
def pointNode : Node := one (.single '.')

/-- The tree of a pattern for decimal floats with a point. -/
def pointedNode : Node := ofSeq [
  ofAlts [ofSeq (digitsNodes decimal ++ [pointNode, optional (ofSeq (digitsNodes decimal))]),
    ofSeq (pointNode :: digitsNodes decimal)],
  optional (ofSeq (exponentNodes 'e' 'E')), optional (one suffix)]

/-- The tree of a pattern for one digit with an exponent. -/
def scaledNode : Node := ofSeq (one decimal :: exponentNodes 'e' 'E' ++ [optional (one suffix)])

/-- The tree of a pattern for one digit with a suffix. -/
def suffixedNode : Node := ofSeq [one decimal, optional (ofSeq (exponentNodes 'e' 'E')), one suffix]

/-- Digits in base sixteen with no point, or with a point after them. -/
def hexWhole : List Node := digitsNodes hexadecimal ++ [optional pointNode]

/-- A point with digits in base sixteen after it, and perhaps before it. -/
def hexFraction : List Node := [optional (ofSeq (digitsNodes hexadecimal)), pointNode] ++ digitsNodes hexadecimal

/-- The end of a float in base sixteen. -/
def hexScale : List Node := exponentNodes 'p' 'P' ++ [optional (one suffix)]

/-- The tree of a pattern for floats in base sixteen. -/
def hexFloatNode : Node :=
  ofSeq ([one (.single '0'), one (either 'x' 'X'), ofAlts [ofSeq hexWhole, ofSeq hexFraction]] ++ hexScale)

/-- The tree of the pattern for floats. -/
def floatNode : Node := ofAlts [pointedNode, scaledNode, suffixedNode, hexFloatNode]

/-- The letter that may end an integer. -/
def longNode : Node := optional (one (either 'l' 'L'))

/-- The tree of the pattern for integers in base sixteen. -/
def hexNode : Node := ofSeq ([one (.single '0'), one (either 'x' 'X')] ++ digitsNodes hexadecimal ++ [longNode])

/-- The tree of the pattern for integers in base two. -/
def binNode : Node := ofSeq ([one (.single '0'), one (either 'b' 'B')] ++ digitsNodes binary ++ [longNode])

/-- The tree of the pattern for integers in base eight. -/
def octNode : Node := ofSeq [one (.single '0'), run (spaced octal) 1, longNode]

/-- The tree of the pattern for integers that do not begin with a zero. -/
def positiveNode : Node := ofSeq [one positive, run (spaced decimal) 0, longNode]

/-- The tree of the pattern for integers in base ten. -/
def integerNode : Node := ofAlts [one (.single '0'), positiveNode]

set_option maxRecDepth 8000 in
theorem readNode_float : readNode float.toList = .ok floatNode := by
  unfold float
  rewrite [String.toList_append, String.toList_append, String.toList_append, String.toList_append,
    String.toList_append]
  rfl

theorem readNode_hex : readNode hex.toList = .ok hexNode := rfl

theorem readNode_bin : readNode bin.toList = .ok binNode := rfl

theorem readNode_oct : readNode oct.toList = .ok octNode := rfl

theorem readNode_integer : readNode integer.toList = .ok integerNode := rfl

/-! ## Floats -/

theorem ways_seq_ofSeq (ns ns' : List Node) :
    (Node.seq (ofSeq ns) (ofSeq ns')).ways = (ofSeq (ns ++ ns')).ways := by
  funext x
  exact (Node.ways_ofSeq_append ns ns' x).symm

theorem denotes_seq_ofSeq {ns ns' : List Node} {w : List Char} (h : (Node.seq (ofSeq ns) (ofSeq ns')).Denotes w) :
    (ofSeq (ns ++ ns')).Denotes w :=
  Node.denotes_ofSeq_append.mpr h

theorem pointedNode_excludes {set : CharSet} {m : Node}
    (h : Excludes beyond (ofSeq [run (spaced decimal) 0, pointNode, optional (ofSeq (digitsNodes decimal))]) m)
    (hset : set.apart (.single '.') = true) : Excludes beyond pointedNode (.seq (one set) m) := by
  have hpoint : Excludes beyond (ofSeq (pointNode :: digitsNodes decimal)) (.seq (one set) m) :=
    .of_starts rfl hset rfl
  exact .seq_left (.alt (h.one_seq _ _) hpoint) _

theorem pointedNode_excludes_run {set digits : CharSet} {m : Node} {least : Nat}
    (hset : set.apart (.single '.') = true) (hdigits : ∀ c ∈ digits, c ∈ spaced decimal)
    (hm : m.starts.apart (spaced decimal) = true) (hpoint : m.starts.apart (.single '.') = true) :
    Excludes beyond pointedNode (.seq (one set) (.seq (run digits least) m)) :=
  pointedNode_excludes (.run_seq (.of_starts rfl hpoint rfl) rfl rfl hdigits hm rfl least) hset

theorem hexWhole_excludes_hexFraction :
    Excludes beyond (ofSeq (hexWhole ++ hexScale)) (ofSeq (hexFraction ++ hexScale)) := by
  refine .of_optional_seq ?_ (.of_starts rfl rfl rfl)
  refine .congr rfl (fun w => denotes_seq_ofSeq) (.one_seq (.run_seq ?_ rfl rfl (fun _ hc => hc) rfl rfl 0) _ _)
  -- right after the point, one wants a letter and the other has a digit
  exact .optional_seq (.of_second rfl rfl rfl _ _) (.of_starts rfl rfl rfl)

theorem settled_hexFloatNode : Settled beyond hexFloatNode := by
  refine .one_seq (.one_seq ?_ _) _
  refine .congr (Pattern.ways_altSeq hexWhole hexFraction hexScale) (fun w => Pattern.denotes_altSeq) ?_
  refine .alt (.of_firm rfl rfl) (.of_firm rfl rfl) fun w rest hw hrest => ?_
  exact .inr (hexWhole_excludes_hexFraction w rest hw hrest)

/-- A digit with a suffix is also a digit with an exponent, or it is refused as such. -/
theorem scaledNode_denotes_or_refuses {w rest : List Char} (hw : suffixedNode.Denotes w) :
    scaledNode.Denotes w ∨ scaledNode.Refuses (w ++ rest) := by
  obtain ⟨u, v, rfl, ⟨c, hc, rfl⟩, u', v', rfl, hu', hv'⟩ := hw
  rcases Node.denotes_optional.mp hu' with rfl | hu'
  · refine .inr (.one_seq (.of_misses rfl (hv'.misses (fun _ hc => ?_) fun hnull => ?_)) _ _)
    · exact CharSet.not_mem_of_apart (t := either 'e' 'E') rfl hc
    · cases hnull
  · refine .inl ⟨[c], u' ++ v', rfl, ⟨c, hc, rfl⟩, ?_⟩
    exact Node.denotes_ofSeq_append.mpr ⟨u', v', rfl, hu', Node.denotes_optional.mpr (.inr hv')⟩

theorem settled_floatNode : Settled beyond floatNode := by
  have hpointed : Excludes beyond pointedNode (ofAlts [scaledNode, suffixedNode, hexFloatNode]) :=
    .of_alt (pointedNode_excludes (.of_starts rfl rfl rfl) rfl)
      (.of_alt (pointedNode_excludes (.of_starts rfl rfl rfl) rfl)
        (pointedNode_excludes (.of_starts rfl rfl rfl) rfl))
  have hscaled : Excludes beyond scaledNode hexFloatNode := .of_second rfl rfl rfl _ _
  have hsuffixed : Excludes beyond suffixedNode hexFloatNode := .of_second rfl rfl rfl _ _
  refine .alt (.of_firm rfl rfl) (.alt (.of_firm rfl rfl) (.alt (.of_firm rfl rfl) settled_hexFloatNode ?_) ?_) ?_
  · exact fun w rest hw hrest => .inr (hsuffixed w rest hw hrest)
  · intro w rest hw hrest
    rcases hw with hw | hw
    · exact scaledNode_denotes_or_refuses hw
    · exact .inr (hscaled w rest hw hrest)
  · exact fun w rest hw hrest => .inr (hpointed w rest hw hrest)

/-! ## Floats and integers -/

theorem floatNode_excludes {set : CharSet} {m : Node}
    (hpointed : Excludes beyond pointedNode (.seq (one set) m))
    (hscaled : m.starts.apart (either 'e' 'E') = true)
    (hsuffixed : m.starts.apart (either 'e' 'E' ∪ suffix) = true)
    (hhex : Excludes beyond hexFloatNode (.seq (one set) m)) : Excludes beyond floatNode (.seq (one set) m) :=
  .alt hpointed (.alt (.of_second rfl hscaled rfl _ _) (.alt (.of_second rfl hsuffixed rfl _ _) hhex))

theorem hexWhole_excludes_hexNode :
    Excludes beyond (ofSeq (hexWhole ++ hexScale)) (ofSeq (digitsNodes hexadecimal ++ [longNode])) :=
  .one_seq (.run_seq (.of_starts rfl rfl rfl) rfl rfl (fun _ hc => hc) rfl rfl 0) _ _

theorem hexFraction_excludes_hexNode :
    Excludes beyond (ofSeq (hexFraction ++ hexScale)) (ofSeq (digitsNodes hexadecimal ++ [longNode])) := by
  refine .optional_seq ?_ (.of_starts rfl rfl rfl)
  refine .congr (ways_seq_ofSeq (digitsNodes hexadecimal) (pointNode :: digitsNodes hexadecimal ++ hexScale))
    (fun w hw => hw) ?_
  exact .one_seq (.run_seq (.of_starts rfl rfl rfl) rfl rfl (fun _ hc => hc) rfl rfl 0) _ _

theorem floatNode_excludes_hexNode : Excludes beyond floatNode hexNode := by
  refine floatNode_excludes (pointedNode_excludes (.of_starts rfl rfl rfl) rfl) rfl rfl
    (.one_seq (.one_seq ?_ _ _) _ _)
  refine .congr (Pattern.ways_altSeq hexWhole hexFraction hexScale) (fun w hw => hw) ?_
  exact .alt hexWhole_excludes_hexNode hexFraction_excludes_hexNode

theorem floatNode_excludes_binNode : Excludes beyond floatNode binNode :=
  floatNode_excludes (pointedNode_excludes (.of_starts rfl rfl rfl) rfl) rfl rfl (.of_second rfl rfl rfl _ _)

theorem spaced_octal_subset : ∀ c ∈ spaced octal, c ∈ spaced decimal := by
  intro c hc
  simp only [spaced, octal, decimal, CharSet.mem_union, CharSet.mem_range] at hc ⊢
  rcases hc with (hc | hc) | hc
  · exact absurd hc (CharSet.not_mem_empty c)
  · exact .inl (.inr ⟨hc.1, Char.le_trans hc.2 (by decide)⟩)
  · exact .inr hc

theorem floatNode_excludes_octNode : Excludes beyond floatNode octNode :=
  floatNode_excludes (pointedNode_excludes_run rfl spaced_octal_subset rfl rfl) rfl rfl
    (.of_second rfl rfl rfl _ _)

theorem floatNode_excludes_integerNode : Excludes beyond floatNode integerNode := by
  refine .of_alt (.of_one ?_) ?_
  · exact floatNode_excludes (pointedNode_excludes (.of_starts rfl rfl rfl) rfl) rfl rfl
      (.of_second rfl rfl rfl _ _)
  · exact floatNode_excludes (pointedNode_excludes_run rfl (fun _ hc => hc) rfl rfl) rfl rfl
      (.of_second rfl rfl rfl _ _)

/-! ## All numbers -/

/-- The trees of the patterns for numbers, in the order in which they are tried. -/
def numberNodes : List Node := [floatNode, hexNode, binNode, octNode, integerNode]

/-- Each pattern refuses the numbers of the later ones. -/
theorem numberNodes_exclude : numberNodes.Pairwise (Excludes beyond) := by
  have hexZero : Excludes beyond hexNode integerNode :=
    .of_alt (.of_one (.of_second rfl rfl rfl _ _)) (.of_second rfl rfl rfl _ _)
  have binZero : Excludes beyond binNode integerNode :=
    .of_alt (.of_one (.of_second rfl rfl rfl _ _)) (.of_second rfl rfl rfl _ _)
  have octZero : Excludes beyond octNode integerNode :=
    .of_alt (.of_one (.of_second rfl rfl rfl _ _)) (.of_starts rfl rfl rfl)
  simp only [numberNodes, List.pairwise_cons, List.mem_cons, List.not_mem_nil, or_false, forall_eq_or_imp,
    forall_eq, false_implies, implies_true, List.Pairwise.nil, and_true]
  exact ⟨⟨floatNode_excludes_hexNode, floatNode_excludes_binNode, floatNode_excludes_octNode,
    floatNode_excludes_integerNode⟩, ⟨.of_second rfl rfl rfl _ _, .of_second rfl rfl rfl _ _, hexZero⟩,
    ⟨.of_second rfl rfl rfl _ _, binZero⟩, octZero⟩

/-- Each pattern takes the whole of its numbers. -/
theorem numberNodes_settled : ∀ n ∈ numberNodes, Settled beyond n := by
  intro n hn
  simp only [numberNodes, List.mem_cons, List.not_mem_nil, or_false] at hn
  rcases hn with rfl | rfl | rfl | rfl | rfl
  · exact settled_floatNode
  all_goals exact .of_firm rfl rfl

end TableLexer.Language
