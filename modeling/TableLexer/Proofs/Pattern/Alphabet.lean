import TableLexer.Proofs.Pattern.Words

/-!
# Characters that a pattern never reads

`Node.reads` tells whether a tree may read a character anywhere. What a pattern matches has none of the
characters that its tree does not read (`not_mem_of_match?`).

Proof. No way of the tree reads such a character. This is closed under all ways in which trees are put
together (`Avoids`), so it is shown by induction on the tree.
-/

namespace TableLexer.Pattern
open Unicode (CharSet)

/-- Whether a tree may read the character. -/
def Node.reads (c : Char) : Node → Bool
  | empty | look _ => false
  | one set => set.contains c
  | group _ body | repeated body _ _ _ => body.reads c
  | seq a b | alt a b => a.reads c || b.reads c

namespace Node
variable {c : Char}

theorem reads_ofSeq_eq_false {ns : List Node} (h : ∀ n ∈ ns, n.reads c = false) : (ofSeq ns).reads c = false := by
  induction ns with
  | nil => rfl
  | cons n ns ih =>
    have hn := h n List.mem_cons_self
    have hns := ih fun n' hn' => h n' (List.mem_cons_of_mem _ hn')
    cases ns with
    | nil => exact hn
    | cons n' ns =>
      show (n.reads c || (ofSeq (n' :: ns)).reads c) = false
      rw [hn, hns]
      rfl

theorem reads_ofAlts_eq_false {ns : List Node} (h : ∀ n ∈ ns, n.reads c = false) : (ofAlts ns).reads c = false := by
  induction ns with
  | nil => rfl
  | cons n ns ih =>
    have hn := h n List.mem_cons_self
    have hns := ih fun n' hn' => h n' (List.mem_cons_of_mem _ hn')
    cases ns with
    | nil => exact hn
    | cons n' ns =>
      show (n.reads c || (ofAlts (n' :: ns)).reads c) = false
      rw [hn, hns]
      rfl

theorem reads_ofText_eq_false {cs : List Char} (h : c ∉ cs) : (ofText cs).reads c = false := by
  refine reads_ofSeq_eq_false (List.forall_mem_map.mpr fun d hd => ?_)
  apply Bool.eq_false_iff.mpr
  intro hmem
  obtain rfl := CharSet.mem_single.mp hmem
  exact h hd

end Node

/-- A pattern for words reads word characters only. -/
theorem reads_wordsNode {ws : List (List Char)} (h : ∀ w ∈ ws, isName w = true) {c : Char} (hc : c ∉ Unicode.word) :
    (wordsNode ws).reads c = false := by
  have halts : (Node.ofAlts (ws.map .ofText)).reads c = false := by
    refine Node.reads_ofAlts_eq_false (List.forall_mem_map.mpr fun w hw => ?_)
    apply Node.reads_ofText_eq_false
    intro hmem
    exact hc (mem_word_of_isName (h w hw) c hmem)
  apply Node.reads_ofSeq_eq_false
  intro n hn
  simp only [List.mem_cons, List.not_mem_nil, or_false] at hn
  rcases hn with rfl | rfl | rfl
  · rfl
  · exact halts
  · rfl

/-- No way of `f` reads the character. -/
def Avoids (c : Char) (f : Spot → List Spot) : Prop :=
  ∀ x, ∀ y ∈ f x, ∃ taken, Leads x y taken ∧ c ∉ taken

namespace Avoids
variable {c : Char} {f g : Spot → List Spot}

theorem singleton (c : Char) : Avoids c fun x => [x] := by
  intro x y hy
  rw [List.mem_singleton.mp hy]
  exact ⟨[], .refl x, List.not_mem_nil⟩

theorem flatMap (h : Avoids c f) (h' : Avoids c g) : Avoids c fun x => (f x).flatMap g := by
  intro x z hz
  obtain ⟨y, hy, hz⟩ := List.mem_flatMap.mp hz
  obtain ⟨taken, hleads, htaken⟩ := h x y hy
  obtain ⟨taken', hleads', htaken'⟩ := h' y z hz
  exact ⟨taken ++ taken', hleads.trans hleads', by simp [htaken, htaken']⟩

theorem times (h : Avoids c f) (count : Nat) : Avoids c (times f count) := by
  induction count with
  | zero => exact singleton c
  | succ count ih => exact h.flatMap ih

theorem upTo (h : Avoids c f) (greedy : Bool) (count : Nat) : Avoids c (upTo f greedy count) := by
  induction count with
  | zero => exact singleton c
  | succ count ih =>
    intro x y hy
    rcases mem_upTo_succ.mp hy with rfl | hmore
    · exact singleton c y y List.mem_cons_self
    · exact h.flatMap ih x y hmore

end Avoids

theorem Node.ways_avoid {n : Node} {c : Char} (h : n.reads c = false) : Avoids c n.ways := by
  induction n with
  | empty => exact .singleton c
  | one set =>
    intro x y hy
    obtain ⟨d, rest, htext, hd, rfl⟩ := mem_ways_one.mp hy
    refine ⟨[d], .next htext, ?_⟩
    intro hmem
    obtain rfl := List.mem_singleton.mp hmem
    rw [reads] at h
    rw [CharSet.mem_iff, h] at hd
    cases hd
  | look condition =>
    intro x y hy
    obtain ⟨-, rfl⟩ := mem_ways_look.mp hy
    exact ⟨[], .refl _, List.not_mem_nil⟩
  | group index body ih =>
    intro x y hy
    rw [ways] at hy
    obtain ⟨z, hz, rfl⟩ := List.mem_map.mp hy
    obtain ⟨taken, hleads, htaken⟩ := ih h (x.mark (2 * index)) z hz
    exact ⟨taken, ⟨hleads.text, hleads.count, hleads.before⟩, htaken⟩
  | seq a b iha ihb =>
    rw [reads, Bool.or_eq_false_iff] at h
    exact (iha h.1).flatMap (ihb h.2)
  | alt a b iha ihb =>
    rw [reads, Bool.or_eq_false_iff] at h
    intro x y hy
    rcases List.mem_append.mp hy with hy | hy
    · exact iha h.1 x y hy
    · exact ihb h.2 x y hy
  | repeated body least most greedy ih =>
    have hbody := ih h
    cases most with
    | none =>
      have hloop : Avoids c (loop body.ways greedy) := fun x => hbody.upTo greedy x.text.length x
      exact (hbody.times least).flatMap hloop
    | some most => exact (hbody.times least).flatMap (hbody.upTo greedy (most - least))

/-- What a pattern matches has no character that its tree does not read. -/
theorem not_mem_of_match? {n : Node} (hadvances : n.Advances) {c : Char} (h : n.reads c = false)
    {before : Option Char} {text : List Char} {m : Match} (hm : (ofNode n).match? before text = some m) :
    c ∉ text.take m.length := by
  rw [match?_ofNode hadvances] at hm
  obtain ⟨y, hy, rfl⟩ := Option.map_eq_some_iff.mp hm
  obtain ⟨taken, hleads, htaken⟩ := Node.ways_avoid h ⟨0, before, text, []⟩ y (List.mem_of_mem_head? hy)
  have htext : text = taken ++ y.text := hleads.text
  have hlength : y.toMatch.length = taken.length := hleads.count.trans (Nat.zero_add _)
  rw [hlength, htext, List.take_left]
  exact htaken

end TableLexer.Pattern
