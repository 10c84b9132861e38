import TableLexer.Proofs.Pattern.Firm

/-!
# Which of several patterns takes a text

Patterns that are tried one after another leave a text to the one that denotes it, if those before it refuse
it. `Excludes beyond n m` says that the tree `n` refuses every text of `m`, where a character of `beyond`
follows or nothing; `Settled beyond n` says that `n` then takes the whole of its own texts. Both are found out
part by part along the trees: first characters that differ decide (`Excludes.of_starts`), equal beginnings are
left out (`Excludes.one_seq`, `Excludes.run_seq`).
-/

namespace TableLexer.Pattern
open Unicode (CharSet)

/-! ## Refused texts, part by part -/

namespace Node.Refuses
variable {n a b : Node} {set : CharSet} {text : List Char}

theorem alt (ha : a.Refuses text) (hb : b.Refuses text) : (alt a b).Refuses text := by
  intro x hx
  rw [ways, ha x hx, hb x hx]
  rfl

theorem seq_left (h : a.Refuses text) (b : Node) : (seq a b).Refuses text := by
  intro x hx
  rw [ways, h x hx]
  rfl

theorem one_seq (h : n.Refuses text) (set : CharSet) (c : Char) : (seq (one set) n).Refuses (c :: text) := by
  intro x hx
  refine List.flatMap_eq_nil_iff.mpr fun y hy => ?_
  obtain ⟨d, rest, htext, -, rfl⟩ := mem_ways_one.mp hy
  rw [hx] at htext
  exact h _ (List.cons.inj htext).2.symm

theorem optional_seq (h : (seq a n).Refuses text) (h' : n.Refuses text) :
    (seq (optional a) n).Refuses text := by
  intro x hx
  have hways : (seq (optional a) n).ways x = (seq a n).ways x ++ n.ways x := by
    simp [optional, ways, times, upTo]
  rw [hways, h x hx, h' x hx]
  rfl

/-- After a run: what comes next can begin neither within the run nor right after it. -/
theorem run_seq {run : List Char} (hrun : ∀ c ∈ run, c ∈ set) (htext : Misses set text)
    (hnullable : n.nullable = false) (hapart : set.apart n.starts = true) (h : n.Refuses text) :
    (seq (Node.run set 0) n).Refuses (run ++ text) := by
  intro x hx
  have hways : (seq (Node.run set 0) n).ways x = (loop (one set).ways true x).flatMap n.ways := by
    simp [Node.run, ways, times]
  rw [hways]
  refine List.flatMap_eq_nil_iff.mpr fun y hy => ?_
  obtain ⟨taken, rest, hsplit, htaken, rfl⟩ := mem_loop_one.mp hy
  rw [hx] at hsplit
  -- the loop ends within the run, or with it
  obtain ⟨more, rfl, rfl⟩ | ⟨more, rfl, rfl⟩ := List.append_eq_append_iff.mp hsplit
  · cases more with
    | nil => exact h _ (List.nil_append rest).symm
    | cons c more =>
      exact absurd (htaken c (by simp)) (misses_cons_iff.mp htext)
  · cases more with
    | nil => exact h _ rfl
    | cons c more =>
      refine of_misses hnullable ?_ _ rfl
      exact misses_cons_iff.mpr (CharSet.not_mem_of_apart hapart (hrun c (by simp)))

end Node.Refuses

/-! ## Exclusion -/

/-- The text is empty or begins with a character of the set. -/
def Meets (set : CharSet) (text : List Char) : Prop := ∀ c ∈ text.head?, c ∈ set

theorem Meets.misses {set beyond : CharSet} {text : List Char} (h : Meets beyond text)
    (hapart : set.apart beyond = true) : Misses set text := by
  intro c hc hmem
  exact CharSet.not_mem_of_apart hapart hmem (h c hc)

/-- The first tree refuses the texts of the second, where a character beyond follows or nothing. -/
def Excludes (beyond : CharSet) (n m : Node) : Prop :=
  ∀ w rest, m.Denotes w → Meets beyond rest → n.Refuses (w ++ rest)

namespace Excludes
variable {beyond set set' : CharSet} {n m a b : Node}

theorem of_starts (hnullable : n.nullable = false) (hapart : m.starts.apart n.starts = true)
    (hbeyond : n.starts.apart beyond = true) : Excludes beyond n m := by
  intro w rest hw hrest
  refine .of_misses hnullable (hw.misses (fun c hc => CharSet.not_mem_of_apart hapart hc) fun _ => ?_)
  exact hrest.misses hbeyond

/-- Only what the first tree does and what the second denotes matters. -/
theorem congr {n' m' : Node} (hn : n'.ways = n.ways) (hm : ∀ w, m'.Denotes w → m.Denotes w)
    (h : Excludes beyond n m) : Excludes beyond n' m' := by
  intro w rest hw hrest x hx
  rw [hn]
  exact h w rest (hm w hw) hrest x hx

theorem alt (ha : Excludes beyond a m) (hb : Excludes beyond b m) : Excludes beyond (.alt a b) m := by
  intro w rest hw hrest
  exact (ha w rest hw hrest).alt (hb w rest hw hrest)

theorem of_alt (ha : Excludes beyond n a) (hb : Excludes beyond n b) : Excludes beyond n (.alt a b) := by
  intro w rest hw hrest
  exact hw.elim (fun hw => ha w rest hw hrest) fun hw => hb w rest hw hrest

theorem seq_left (h : Excludes beyond a m) (b : Node) : Excludes beyond (.seq a b) m := by
  intro w rest hw hrest
  exact (h w rest hw hrest).seq_left b

theorem one_seq (h : Excludes beyond n m) (set set' : CharSet) :
    Excludes beyond (.seq (.one set) n) (.seq (.one set') m) := by
  intro w rest hw hrest
  obtain ⟨u, v, rfl, ⟨c, -, rfl⟩, hv⟩ := hw
  exact (h v rest hv hrest).one_seq set c

theorem of_second (hnullable : n.nullable = false) (hapart : m.starts.apart n.starts = true)
    (hbeyond : n.starts.apart beyond = true) (set set' : CharSet) :
    Excludes beyond (.seq (.one set) n) (.seq (.one set') m) :=
  (of_starts hnullable hapart hbeyond).one_seq set set'

theorem of_one (h : Excludes beyond n (.seq (.one set) .empty)) : Excludes beyond n (.one set) := by
  intro w rest hw hrest
  exact h w rest ⟨w, [], (List.append_nil w).symm, hw, rfl⟩ hrest

theorem optional_seq (h : Excludes beyond (.seq a n) m) (h' : Excludes beyond n m) :
    Excludes beyond (.seq (.optional a) n) m := by
  intro w rest hw hrest
  exact (h w rest hw hrest).optional_seq (h' w rest hw hrest)

theorem of_optional_seq (h : Excludes beyond n (.seq a m)) (h' : Excludes beyond n m) :
    Excludes beyond n (.seq (.optional a) m) := by
  intro w rest hw hrest
  obtain ⟨u, v, rfl, hu, hv⟩ := hw
  rcases Node.denotes_optional.mp hu with rfl | hu
  · exact h' v rest hv hrest
  · exact h (u ++ v) rest ⟨u, v, rfl, hu, hv⟩ hrest

/-- After a run on both sides, where the run of the second tree is one of the first as well. -/
theorem run_seq (h : Excludes beyond n m) (hnullable : n.nullable = false)
    (hapart : set.apart n.starts = true) (hsub : ∀ c ∈ set', c ∈ set)
    (hnext : m.starts.apart set = true) (hbeyond : set.apart beyond = true) (least : Nat) :
    Excludes beyond (.seq (.run set 0) n) (.seq (.run set' least) m) := by
  intro w rest hw hrest
  obtain ⟨u, v, rfl, hu, hv⟩ := hw
  obtain ⟨-, hrun⟩ := Node.denotes_run.mp hu
  rw [List.append_assoc]
  refine .run_seq (fun c hc => hsub c (hrun c hc)) ?_ hnullable hapart (h v rest hv hrest)
  exact hv.misses (fun c hc => CharSet.not_mem_of_apart hnext hc) fun _ => hrest.misses hbeyond

end Excludes

/-! ## Settled trees -/

/-- The tree takes the whole of its texts, where a character beyond follows or nothing. -/
def Settled (beyond : CharSet) (n : Node) : Prop :=
  ∀ w rest, n.Denotes w → Meets beyond rest → Prefers n.ways w rest

namespace Settled
variable {beyond : CharSet} {n a b : Node}

theorem of_firm (h : n.firm = true) (hbeyond : n.growth.apart beyond = true) : Settled beyond n := by
  intro w rest hw hrest
  exact Node.prefers_of_firm h hw (hrest.misses hbeyond)

theorem congr {n' : Node} (hways : n'.ways = n.ways) (hdenotes : ∀ w, n'.Denotes w → n.Denotes w)
    (h : Settled beyond n) : Settled beyond n' := by
  intro w rest hw hrest
  rw [hways]
  exact h w rest (hdenotes w hw) hrest

theorem alt (ha : Settled beyond a) (hb : Settled beyond b)
    (h : ∀ w rest, b.Denotes w → Meets beyond rest → a.Denotes w ∨ a.Refuses (w ++ rest)) :
    Settled beyond (.alt a b) := by
  intro w rest hw hrest
  by_cases hshared : a.Denotes w
  · exact (ha w rest hshared hrest).left
  · have hw : b.Denotes w := hw.resolve_left hshared
    have hrefuses := (h w rest hw hrest).resolve_left hshared
    exact .right hrefuses (hb w rest hw hrest)

theorem one_seq (h : Settled beyond n) (set : CharSet) : Settled beyond (.seq (.one set) n) := by
  intro w rest hw hrest
  obtain ⟨u, v, rfl, hu, hv⟩ := hw
  have hone : Prefers (Node.one set).ways u (v ++ rest) :=
    Node.prefers_of_firm rfl hu fun c _ => CharSet.not_mem_empty c
  exact hone.flatMap (h v rest hv hrest)

end Settled

/-! ## Alternatives within a sequence -/

section Sequences
variable {as bs ts : List Node}

/-- Sequences, one of which is followed by a third, are sequences as a whole. -/
theorem ways_altSeq (as bs ts : List Node) :
    (Node.seq (.alt (.ofSeq as) (.ofSeq bs)) (.ofSeq ts)).ways
      = (Node.alt (.ofSeq (as ++ ts)) (.ofSeq (bs ++ ts))).ways := by
  funext x
  show ((Node.ofSeq as).ways x ++ (Node.ofSeq bs).ways x).flatMap (Node.ofSeq ts).ways
    = (Node.ofSeq (as ++ ts)).ways x ++ (Node.ofSeq (bs ++ ts)).ways x
  rw [List.flatMap_append, Node.ways_ofSeq_append, Node.ways_ofSeq_append]

theorem denotes_altSeq {w : List Char} (h : (Node.seq (.alt (.ofSeq as) (.ofSeq bs)) (.ofSeq ts)).Denotes w) :
    (Node.alt (.ofSeq (as ++ ts)) (.ofSeq (bs ++ ts))).Denotes w := by
  obtain ⟨u, v, rfl, hu, hv⟩ := h
  refine hu.imp (fun hu => ?_) fun hu => ?_
  · exact Node.denotes_ofSeq_append.mpr ⟨u, v, rfl, hu, hv⟩
  · exact Node.denotes_ofSeq_append.mpr ⟨u, v, rfl, hu, hv⟩

end Sequences

end TableLexer.Pattern
