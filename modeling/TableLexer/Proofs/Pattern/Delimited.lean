import TableLexer.Proofs.Pattern.Parts

/-!
# Where a literal between two texts ends

`match?_delimitedNode_iff`: the pattern for a literal between an opener and a closer matches where the opener
stands and the closer stands somewhere after it. It matches up to the first closer that does not overlap the
opener.

Proof. The loop between the two is lazy, so at each character it is first tried to leave it. The induction is on
the characters before the first closer: the closer stands at none of them, so none of them offers a way out
(`head?_gap`).
-/

namespace TableLexer.Pattern
open Unicode (CharSet)

/-! ## The first closer -/

/-- The closer stands in the text after `body`, and nowhere before. -/
structure FirstCloser (closer text body : List Char) : Prop where
  closes : body ++ closer <+: text
  first : ∀ body', body' ++ closer <+: text → body.length ≤ body'.length

namespace FirstCloser
variable {closer text body body' : List Char} {c d : Char}

theorem of_begins (h : closer <+: text) : FirstCloser closer text [] :=
  ⟨h, fun _ _ => Nat.zero_le _⟩

theorem cons (h : FirstCloser closer text body) (hnot : ¬ closer <+: c :: text) :
    FirstCloser closer (c :: text) (c :: body) := by
  refine ⟨List.cons_prefix_cons.mpr ⟨rfl, h.closes⟩, ?_⟩
  intro body' hcloser
  cases body' with
  | nil => exact absurd hcloser hnot
  | cons d body' =>
    have hle := h.first body' (List.cons_prefix_cons.mp hcloser).2
    simp only [List.length_cons]
    omega

theorem tail (h : FirstCloser closer (c :: text) (d :: body)) :
    d = c ∧ ¬ closer <+: c :: text ∧ FirstCloser closer text body := by
  obtain ⟨rfl, hcloser⟩ := List.cons_prefix_cons.mp h.closes
  refine ⟨rfl, ?_, hcloser, ?_⟩
  · intro hprefix
    have hle := h.first [] hprefix
    simp at hle
  · intro body' hcloser'
    have hle := h.first (d :: body') (List.cons_prefix_cons.mpr ⟨rfl, hcloser'⟩)
    simp only [List.length_cons] at hle
    omega

end FirstCloser

theorem exists_firstCloser {closer text body : List Char} (h : body ++ closer <+: text) :
    ∃ body', FirstCloser closer text body' := by
  induction body generalizing text with
  | nil => exact ⟨[], .of_begins h⟩
  | cons c body ih =>
    obtain ⟨rest, rfl⟩ := h
    by_cases hprefix : closer <+: c :: body ++ closer ++ rest
    · exact ⟨[], .of_begins hprefix⟩
    · obtain ⟨body', hfirst⟩ := ih (List.prefix_append (body ++ closer) rest)
      exact ⟨c :: body', hfirst.cons hprefix⟩

/-! ## Matches -/

section Matches
variable {opener closer text body : List Char} {before : Option Char} {m : Match}

theorem ways_ofText_eq_nil {x : Spot} (h : ¬ closer <+: x.text) : (Node.ofText closer).ways x = [] := by
  apply List.eq_nil_iff_forall_not_mem.mpr
  intro y hy
  obtain ⟨rest, htext, -⟩ := Node.mem_ways_ofText.mp hy
  exact h ⟨rest, htext.symm⟩

/-- The first way over a gap and a closer leads over the first closer. -/
theorem head?_gap (x : Spot) {rest : List Char} (htext : x.text = body ++ (closer ++ rest))
    (hfirst : FirstCloser closer x.text body) :
    ((loop (Node.one .all).ways false x).flatMap (Node.ofText closer).ways).head?
      = some (x.skip (body ++ closer) rest) := by
  induction body generalizing x with
  | nil =>
    have hhead : ((Node.ofText closer).ways x).head? = some (x.skip closer rest) := head?_ways_ofText htext
    rw [loop_eq (Node.shortens_one _), if_neg Bool.false_ne_true, List.flatMap_cons, List.head?_append, hhead]
    rfl
  | cons c body ih =>
    rw [htext] at hfirst
    obtain ⟨-, hnot, htail⟩ := hfirst.tail
    have hstay : (Node.ofText closer).ways x = [] := ways_ofText_eq_nil (by rwa [htext])
    have hread : (Node.one .all).ways x = [x.skip [c] (body ++ (closer ++ rest))] := by
      rw [Node.ways, htext]
      rfl
    rw [loop_eq (Node.shortens_one _), if_neg Bool.false_ne_true, List.flatMap_cons, hstay, List.nil_append,
      hread, List.flatMap_singleton, ih _ rfl htail, Spot.skip_skip]
    rfl

theorem ways_delimitedNode (opener closer : List Char) (x : Spot) :
    (delimitedNode opener closer).ways x = ((Node.ofText opener).ways x).flatMap
      fun y => (loop (Node.one .all).ways false y).flatMap (Node.ofText closer).ways := by
  rw [delimitedNode, List.append_assoc, Node.ways_ofSeq_append]
  apply congrArg (List.flatMap · ((Node.ofText opener).ways x))
  funext y
  rw [Node.ways_ofSeq_append]
  simp only [Node.ofSeq, ways_star]
  rfl

theorem match?_delimitedNode (opener : List Char) (before : Option Char) (hfirst : FirstCloser closer text body) :
    (ofNode (delimitedNode opener closer)).match? before (opener ++ text)
      = some ⟨opener.length + (body.length + closer.length), []⟩ := by
  obtain ⟨rest, hrest⟩ := hfirst.closes
  rw [List.append_assoc] at hrest
  let x : Spot := ⟨0, before, opener ++ text, []⟩
  have hopener : ((Node.ofText opener).ways x).head? = some (x.skip opener text) := head?_ways_ofText rfl
  have hgap := head?_gap (x.skip opener text) hrest.symm hfirst
  have hhead : ((delimitedNode opener closer).ways x).head?
      = some ((x.skip opener text).skip (body ++ closer) rest) := by
    rw [ways_delimitedNode]
    exact head?_flatMap_of_head? hopener hgap
  rw [match?_ofNode (advances_delimitedNode opener closer), hhead]
  simp [Spot.skip, Spot.toMatch, x]

/-- **A literal between two texts ends at the first closer after the opener.** -/
theorem match?_delimitedNode_iff : (ofNode (delimitedNode opener closer)).match? before text = some m ↔
    ∃ body rest, text = opener ++ rest ∧ FirstCloser closer rest body ∧
      m = ⟨opener.length + (body.length + closer.length), []⟩ := by
  constructor
  · intro hm
    have hways := hm
    rw [match?_ofNode (advances_delimitedNode opener closer)] at hways
    obtain ⟨y, hy, -⟩ := Option.map_eq_some_iff.mp hways
    obtain ⟨gap, rest, htext, -⟩ := mem_ways_delimitedNode.mp (List.mem_of_mem_head? hy)
    obtain rfl : text = opener ++ (gap ++ (closer ++ rest)) := htext
    obtain ⟨body, hfirst⟩ : ∃ body, FirstCloser closer (gap ++ (closer ++ rest)) body :=
      exists_firstCloser ⟨rest, List.append_assoc gap closer rest⟩
    rw [match?_delimitedNode opener before hfirst] at hm
    exact ⟨body, _, rfl, hfirst, (Option.some.inj hm).symm⟩
  · rintro ⟨body, rest, rfl, hfirst, rfl⟩
    exact match?_delimitedNode opener before hfirst

end Matches

end TableLexer.Pattern
