import TableLexer.Pattern.Search

/-!
# The marks of a match

`match?_marks`: what a program's marks have when they are made and keep as more is read, all marks of a
match have. In particular a match lies in the text (`match?_length_le`), and so do its groups in the match
(`match?_group_le`), since a mark is made at the place where a way stands.

Proof. `visit` and `advance` keep a `Kept` property of all marks of all ways, and `run` makes a match
only at its current place.
-/

namespace TableLexer.Pattern

/-- A property of marks that may depend on the number of characters read: the marks that the program
makes have it, and it stays as more is read. -/
structure Kept (p : Program) (P : Nat → Nat × Nat → Prop) : Prop where
  made : ∀ count index slot next, p.getD index .accept = .mark slot next → P count (slot, count)
  later : ∀ count mark, P count mark → P (count + 1) mark

/-- All marks of all ways have a property. -/
def AllMarks (P : Nat × Nat → Prop) (ts : List Thread) : Prop := ∀ t ∈ ts, ∀ mark ∈ t.marks, P mark

section Marks
variable {p : Program} {P : Nat → Nat × Nat → Prop} (hP : Kept p P)
include hP

/-! ## One position -/

theorem visit_marks (at_ : Place) (fuel index : Nat) (marks : Marks) (front : Front)
    (hmarks : ∀ mark ∈ marks, P at_.count mark) (hfront : AllMarks (P at_.count) front.threads) :
    AllMarks (P at_.count) (visit p at_ fuel index marks front).threads := by
  induction fuel generalizing index marks front with
  | zero => exact hfront
  | succ fuel ih =>
    rw [visit]
    split
    · exact hfront
    simp only
    have hwait : AllMarks (P at_.count) (⟨index, marks⟩ :: front.threads) := by
      intro t ht
      rcases List.mem_cons.mp ht with rfl | ht
      · exact hmarks
      · exact hfront t ht
    split
    · exact hwait
    · exact hwait
    · split
      · exact ih _ _ _ hmarks hfront
      · exact hfront
    · next slot next hinstr =>
      refine ih _ _ _ (fun mark hmark => ?_) hfront
      rcases List.mem_cons.mp hmark with rfl | hmark
      · exact hP.made _ _ _ _ hinstr
      · exact hmarks mark hmark
    · exact ih _ _ _ hmarks (ih _ _ _ hmarks hfront)

omit hP

/-- The front after a way has read a character, or has failed to. -/
def advanceOne (p : Program) (at_ : Place) (c : Char) (front : Front) (t : Thread) : Front :=
  match p.getD t.index .accept with
  | .read set next => if set.contains c then enter p at_ next t.marks front else front
  | _ => front

theorem advance_eq (p : Program) (at_ : Place) (c : Char) (threads : List Thread) :
    advance p at_ c threads
      = (threads.foldl (advanceOne p at_ c) (Front.start p)).threads.reverse := rfl

include hP

theorem advanceOne_marks (at_ : Place) (c : Char) {front : Front} {t : Thread}
    (ht : ∀ mark ∈ t.marks, P at_.count mark) (h : AllMarks (P at_.count) front.threads) :
    AllMarks (P at_.count) (advanceOne p at_ c front t).threads := by
  rw [advanceOne]
  split
  · split
    · exact visit_marks hP at_ _ _ _ _ ht h
    · exact h
  · exact h

theorem advance_marks (at_ : Place) (c : Char) (threads : List Thread)
    (h : AllMarks (P at_.count) threads) : AllMarks (P at_.count) (advance p at_ c threads) := by
  suffices hfold : ∀ front : Front, AllMarks (P at_.count) front.threads →
      AllMarks (P at_.count) (threads.foldl (advanceOne p at_ c) front).threads by
    intro t ht
    exact hfold (Front.start p) (fun t ht => absurd ht List.not_mem_nil) t (List.mem_reverse.mp ht)
  induction threads with
  | nil => exact fun front hfront => hfront
  | cons t threads ih =>
    intro front hfront
    exact ih (fun u hu => h u (List.mem_cons_of_mem _ hu)) _
      (advanceOne_marks hP at_ c (h t List.mem_cons_self) hfront)

/-! ## The whole text -/

omit hP in
/-- The match that the first accepting way makes, if there is one, in place of the best so far. -/
theorem best_marks {threads : List Thread} {count n : Nat} {best : Option Match}
    (hthreads : AllMarks (P count) threads) (hcount : count ≤ n)
    (hbest : ∀ m, best = some m → m.length ≤ n ∧ ∀ mark ∈ m.marks, P m.length mark) (m : Match)
    (hm : (match threads.find? (·.accepts p) with
      | some t => some ⟨count, t.marks⟩
      | none => best) = some m) : m.length ≤ n ∧ ∀ mark ∈ m.marks, P m.length mark := by
  split at hm
  · next t ht =>
    cases hm
    exact ⟨hcount, hthreads t (List.mem_of_find?_eq_some ht)⟩
  · exact hbest m hm

theorem run_marks (count : Nat) (threads : List Thread) (best : Option Match)
    (text : List Char) (hthreads : AllMarks (P count) threads)
    (hbest : ∀ m, best = some m → m.length ≤ count + text.length ∧ ∀ mark ∈ m.marks, P m.length mark)
    (m : Match) (hm : run p count threads best text = some m) :
    m.length ≤ count + text.length ∧ ∀ mark ∈ m.marks, P m.length mark := by
  induction text generalizing count threads best with
  | nil =>
    rw [run] at hm
    exact best_marks hthreads (Nat.le_add_right _ _) hbest m hm
  | cons c text ih =>
    rw [run] at hm
    have hlength : count + (c :: text).length = count + 1 + text.length := by
      simp only [List.length_cons]; omega
    have hbest' := best_marks (p := p) hthreads (Nat.le_add_right _ (c :: text).length) hbest
    split at hm
    · exact hbest' m hm
    · rw [hlength] at hbest' ⊢
      refine ih (count + 1) _ _ (advance_marks hP _ c _ fun t ht mark hmark => ?_) hbest' hm
      exact hP.later _ _ (hthreads t ((List.takeWhile_sublist _).subset ht) mark hmark)

end Marks

/-- All marks of a match have what the marks of its program keep. -/
theorem match?_marks {p : Pattern} {P : Nat → Nat × Nat → Prop} (hP : Kept p.program P)
    {before : Option Char} {text : List Char} {m : Match} (h : p.match? before text = some m) :
    m.length ≤ text.length ∧ ∀ mark ∈ m.marks, P m.length mark := by
  have hstart : AllMarks (P 0) (enter p.program ⟨0, before, text.head?⟩ p.entry []
      (Front.start p.program)).threads :=
    visit_marks hP ⟨0, before, text.head?⟩ _ _ _ _ (fun mark hmark => absurd hmark List.not_mem_nil)
      (fun t ht => absurd ht List.not_mem_nil)
  have hrun := run_marks hP 0 _ none text
    (fun t ht => hstart t (List.mem_reverse.mp ht)) (fun m hm => absurd hm (by simp)) m h
  rwa [Nat.zero_add] at hrun

theorem mem_of_lookup {ms : Marks} {slot place : Nat} (h : ms.lookup slot = some place) :
    (slot, place) ∈ ms := by
  obtain ⟨before, after, hsplit, -⟩ := List.lookup_eq_some_iff.mp h
  simp [hsplit]

/-- Where a group begins and ends has been marked. -/
theorem Match.group?_eq_some {m : Match} {index first last : Nat}
    (h : m.group? index = some (first, last)) :
    (2 * index, first) ∈ m.marks ∧ (2 * index + 1, last) ∈ m.marks := by
  simp only [Match.group?, bind, Option.bind_eq_some_iff, pure, Option.some.injEq,
    Prod.mk.injEq] at h
  obtain ⟨_, hfirst, _, hlast, rfl, rfl⟩ := h
  exact ⟨mem_of_lookup hfirst, mem_of_lookup hlast⟩

theorem kept_within (p : Program) : Kept p fun count mark => mark.2 ≤ count :=
  ⟨fun _ _ _ _ _ => Nat.le_refl _, fun _ _ h => Nat.le_succ_of_le h⟩

theorem match?_length_le {p : Pattern} {before : Option Char} {text : List Char} {m : Match}
    (h : p.match? before text = some m) : m.length ≤ text.length :=
  (match?_marks (kept_within _) h).1

theorem match?_group_le {p : Pattern} {before : Option Char} {text : List Char} {m : Match}
    (h : p.match? before text = some m) {index first last : Nat}
    (hgroup : m.group? index = some (first, last)) : last ≤ m.length :=
  (match?_marks (kept_within _) h).2 _ (Match.group?_eq_some hgroup).2

end TableLexer.Pattern
