import TableLexer.Proofs.Pattern.Enclosed

/-!
# What a pattern may begin with

`Node.opens` tells whether a tree may read a character first. A pattern that cannot begin with a
character takes nothing where this character stands, whatever is before it
(`takesNothing_of_not_opens`).
-/

namespace TableLexer.Pattern

/-- Whether a tree may read the character first; conditions are taken to hold. -/
def Node.opens (c : Char) : Node → Bool
  | empty | look _ => false
  | one set => set.contains c
  | group _ body => body.opens c
  | seq a b => a.opens c || (a.nullable && b.opens c)
  | alt a b => a.opens c || b.opens c
  | repeated body _ _ _ => body.opens c

namespace Node
variable {c : Char}

theorem opens_ofSeq_cons (n : Node) (ns : List Node) :
    (ofSeq (n :: ns)).opens c = (n.opens c || (n.nullable && (ofSeq ns).opens c)) := by
  cases ns with
  | nil => rw [ofSeq, ofSeq, opens, Bool.and_false, Bool.or_false]
  | cons n' ns => rfl

theorem opens_ofSeq_one (set : Unicode.CharSet) (ns : List Node) :
    (ofSeq (one set :: ns)).opens c = set.contains c := by
  rw [opens_ofSeq_cons, nullable, Bool.false_and, Bool.or_false, opens]

theorem opens_ofAlts (ns : List Node) : (ofAlts ns).opens c = ns.any (·.opens c) := by
  induction ns with
  | nil => rfl
  | cons n ns ih =>
    cases ns with
    | nil => exact (Bool.or_false _).symm
    | cons n' ns => exact congrArg (n.opens c || ·) ih

/-- A text begins with its first character only. -/
theorem opens_ofText {cs : List Char} (h : (ofText cs).opens c = true) : cs.head? = some c := by
  cases cs with
  | nil => cases h
  | cons d cs =>
    rw [ofText, List.map_cons, opens_ofSeq_one] at h
    rw [Unicode.CharSet.mem_single.mp h]
    rfl

end Node

/-- Where the character comes next, no way of `f` reads anything. -/
def Stays (c : Char) (f : Spot → List Spot) : Prop :=
  ∀ x, x.text.head? = some c → ∀ y ∈ f x, y.text = x.text ∧ y.count = x.count

namespace Stays
variable {c : Char} {f g : Spot → List Spot}

theorem singleton (c : Char) : Stays c fun x => [x] := by
  intro x hx y hy
  rw [List.mem_singleton.mp hy]
  exact ⟨rfl, rfl⟩

theorem flatMap (h : Stays c f) (h' : Stays c g) : Stays c fun x => (f x).flatMap g := by
  intro x hx z hz
  obtain ⟨y, hy, hz⟩ := List.mem_flatMap.mp hz
  obtain ⟨htext, hcount⟩ := h x hx y hy
  obtain ⟨htext', hcount'⟩ := h' y (by rw [htext, hx]) z hz
  exact ⟨htext'.trans htext, hcount'.trans hcount⟩

theorem times (h : Stays c f) (count : Nat) : Stays c (times f count) := by
  induction count with
  | zero => exact singleton c
  | succ count ih => exact h.flatMap ih

theorem upTo (h : Stays c f) (greedy : Bool) (count : Nat) : Stays c (upTo f greedy count) := by
  induction count with
  | zero => exact singleton c
  | succ count ih =>
    intro x hx y hy
    rcases mem_upTo_succ.mp hy with rfl | hmore
    · exact ⟨rfl, rfl⟩
    · exact h.flatMap ih x hx y hmore

end Stays

theorem Node.ways_stay {n : Node} {c : Char} (h : n.opens c = false) : Stays c n.ways := by
  induction n with
  | empty => exact .singleton c
  | one set =>
    intro x hx y hy
    obtain ⟨d, rest, htext, hd, -⟩ := mem_ways_one.mp hy
    rw [htext] at hx
    cases hx
    rw [opens] at h
    rw [Unicode.CharSet.mem_iff, h] at hd
    cases hd
  | look condition =>
    intro x hx y hy
    obtain ⟨-, rfl⟩ := mem_ways_look.mp hy
    exact ⟨rfl, rfl⟩
  | group index body ih =>
    intro x hx y hy
    rw [ways] at hy
    obtain ⟨z, hz, rfl⟩ := List.mem_map.mp hy
    exact ih h (x.mark (2 * index)) hx z hz
  | seq a b iha ihb =>
    rw [opens, Bool.or_eq_false_iff, Bool.and_eq_false_iff] at h
    obtain ⟨ha, hnullable | hb⟩ := h
    · -- the first part would have to read something
      intro x hx z hz
      obtain ⟨y, hy, -⟩ := List.mem_flatMap.mp hz
      have hstay := (iha ha x hx y hy).1
      have hlt := length_lt_of_mem_ways hnullable hy
      rw [hstay] at hlt
      omega
    · exact (iha ha).flatMap (ihb hb)
  | alt a b iha ihb =>
    rw [opens, Bool.or_eq_false_iff] at h
    intro x hx y hy
    rcases List.mem_append.mp hy with hy | hy
    · exact iha h.1 x hx y hy
    · exact ihb h.2 x hx y hy
  | repeated body least most greedy ih =>
    have hbody := ih h
    cases most with
    | none =>
      have hloop : Stays c (loop body.ways greedy) := fun x => hbody.upTo greedy x.text.length x
      exact (hbody.times least).flatMap hloop
    | some most => exact (hbody.times least).flatMap (hbody.upTo greedy (most - least))

theorem takesNothing_of_not_opens {n : Node} (hadvances : n.Advances) {c : Char}
    (h : n.opens c = false) (before : Option Char) (cs : List Char) :
    (ofNode n).TakesNothing before (c :: cs) := by
  intro m hm
  rw [match?_ofNode hadvances] at hm
  obtain ⟨y, hy, rfl⟩ := Option.map_eq_some_iff.mp hm
  have hstay := Node.ways_stay h ⟨0, before, c :: cs, []⟩ rfl y (List.mem_of_mem_head? hy)
  exact hstay.2

end TableLexer.Pattern
