import TableLexer.Proofs.Pattern.Backtrack
import TableLexer.Proofs.Pattern.Span

/-!
# Matching is backtracking

`match?_of_finds`: what a program finds by trying its ways one after another, in order of preference,
is what `match?` finds by following all ways at once.

Proof. An instruction that is entered a second time at one position may be passed over: its first visit
has failed, or an earlier way is known to succeed. An instruction whose first visit is not finished
cannot come up again, since backtracking from it would not end; this is why `visit_adds` is an induction
on the fuel of `search`, the fuel of everything on the way being larger (`Front.Spent`). `advance` and
`run` carry the result of the ways from one position to the next.
-/

namespace TableLexer.Pattern

variable {p : Program} {x : Spot}

/-- Ways that wait at an instruction which accepts or reads. -/
def Waiting (p : Program) (ts : List Thread) : Prop :=
  ∀ t ∈ ts, p[t.index]? = some .accept ∨ ∃ set next, p[t.index]? = some (.read set next)

/-! ## One position -/

/-- Whether an instruction has been entered; those outside the program count as entered. -/
def Front.Seen (front : Front) (index : Nat) : Prop := front.seen.getD index true = true

/-- The number of instructions that have not been entered. -/
def Front.unseen (front : Front) : Nat := front.seen.toList.count false

/-- The front with one more instruction entered. -/
def Front.enterAt (front : Front) (index : Nat) : Front :=
  { front with seen := front.seen.setIfInBounds index true }

theorem Front.seen_enterAt {front : Front} {index i : Nat} :
    (front.enterAt index).Seen i ↔ front.Seen i ∨ i = index := by
  simp only [Seen, enterAt, Array.getD_eq_getD_getElem?, Array.getElem?_setIfInBounds]
  by_cases hi : index = i
  · subst hi
    by_cases hsize : index < front.seen.size
    · simp [hsize]
    · simp [hsize]
  · have hi' : ¬ i = index := fun h => hi h.symm
    simp [hi, hi']

theorem Front.unseen_enterAt {front : Front} {index : Nat} (h : ¬ front.Seen index) :
    (front.enterAt index).unseen + 1 = front.unseen := by
  have hget : front.seen.toList[index]? = some false := by
    rw [Array.getElem?_toList]
    rw [Seen, Array.getD_eq_getD_getElem?] at h
    cases hi : front.seen[index]? with
    | none => rw [hi] at h; exact absurd rfl h
    | some b =>
      rw [hi] at h
      cases b with
      | false => rfl
      | true => exact absurd rfl h
  obtain ⟨hlt, hfalse⟩ := List.getElem?_eq_some_iff.mp hget
  have hpos : 0 < front.seen.toList.count false :=
    List.count_pos_iff.mpr (hfalse ▸ List.getElem_mem hlt)
  simp only [unseen, enterAt, Array.toList_setIfInBounds, List.count_set hlt, hfalse]
  simp only [beq_self_eq_true, if_true]
  have : (true == false) = false := rfl
  simp only [this, Bool.false_eq_true, if_false]
  omega

/-- What `visit` does to a front, whatever is found: it enters further instructions and adds ways of
less preference, which wait. -/
structure Grows (p : Program) (front front' : Front) : Prop where
  size : front'.seen.size = front.seen.size
  seen : ∀ i, front.Seen i → front'.Seen i
  unseen : front'.unseen ≤ front.unseen
  threads : ∃ ts, front'.threads.reverse = front.threads.reverse ++ ts ∧ Waiting p ts

theorem Grows.refl (front : Front) : Grows p front front :=
  ⟨rfl, fun _ h => h, Nat.le_refl _, [], (List.append_nil _).symm, fun _ h => absurd h List.not_mem_nil⟩

theorem Grows.trans {front front' front'' : Front} (h : Grows p front front')
    (h' : Grows p front' front'') : Grows p front front'' := by
  obtain ⟨ts, hts, hwait⟩ := h.threads
  obtain ⟨ts', hts', hwait'⟩ := h'.threads
  refine ⟨h'.size.trans h.size, fun i hi => h'.seen i (h.seen i hi),
    Nat.le_trans h'.unseen h.unseen, ts ++ ts', ?_, fun t ht => ?_⟩
  · rw [hts', hts, List.append_assoc]
  · rcases List.mem_append.mp ht with ht | ht
    · exact hwait t ht
    · exact hwait' t ht

theorem Grows.enterAt {front : Front} {index : Nat} (h : ¬ front.Seen index) :
    Grows p front (front.enterAt index) := by
  have hunseen := Front.unseen_enterAt h
  refine ⟨by simp [Front.enterAt], fun i hi => Front.seen_enterAt.mpr (.inl hi), by omega, [],
    (List.append_nil _).symm, fun _ h => absurd h List.not_mem_nil⟩

theorem Grows.wait {front : Front} {t : Thread} (h : p[t.index]? = some .accept ∨
    ∃ set next, p[t.index]? = some (.read set next)) :
    Grows p front { front with threads := t :: front.threads } := by
  refine ⟨rfl, fun _ h => h, Nat.le_refl _, [t], List.reverse_cons, fun u hu => ?_⟩
  rw [List.mem_singleton.mp hu]
  exact h

theorem getD_eq_of_getElem? {index : Nat} {i : Instr} (h : p[index]? = some i) :
    p.getD index .accept = i := by
  rw [Array.getD_eq_getD_getElem?, h, Option.getD_some]

theorem Front.exists_instr {front : Front} {index : Nat} (hsize : front.seen.size = p.size)
    (h : ¬ front.Seen index) : ∃ i, p[index]? = some i := by
  by_cases hlt : index < p.size
  · exact ⟨p[index], Array.getElem?_eq_getElem hlt⟩
  · refine absurd ?_ h
    rw [Seen, Array.getD_eq_getD_getElem?, Array.getElem?_eq_none (by omega)]
    rfl

/-- `visit` at an instruction that has not been entered, by the kind of instruction. -/
theorem visit_of_not_seen {at_ : Place} {fuel index : Nat} {marks : Marks} {front : Front} {i : Instr}
    (hseen : ¬ front.Seen index) : p[index]? = some i →
    visit p at_ (fuel + 1) index marks front =
      match i with
      | .accept | .read .. =>
        { front.enterAt index with threads := ⟨index, marks⟩ :: front.threads }
      | .look condition next =>
        if condition.holds at_.before at_.after then visit p at_ fuel next marks (front.enterAt index)
        else front.enterAt index
      | .mark slot next => visit p at_ fuel next ((slot, at_.count) :: marks) (front.enterAt index)
      | .fork first second =>
        visit p at_ fuel second marks (visit p at_ fuel first marks (front.enterAt index)) := by
  intro hi
  rw [Front.Seen] at hseen
  rw [visit, if_neg hseen, getD_eq_of_getElem? hi]
  cases i <;> rfl

theorem visit_of_seen {at_ : Place} {fuel index : Nat} {marks : Marks} {front : Front}
    (hseen : front.Seen index) : visit p at_ fuel index marks front = front := by
  cases fuel with
  | zero => rfl
  | succ fuel =>
    rw [Front.Seen] at hseen
    rw [visit, if_pos hseen]

theorem visit_grows (at_ : Place) (fuel index : Nat) (marks : Marks) (front : Front)
    (hsize : front.seen.size = p.size) :
    Grows p front (visit p at_ fuel index marks front) := by
  induction fuel generalizing index marks front with
  | zero => exact .refl front
  | succ fuel ih =>
    by_cases hseen : front.Seen index
    · rw [visit_of_seen hseen]
      exact .refl front
    obtain ⟨i, hi⟩ := Front.exists_instr hsize hseen
    have henter : Grows p front (front.enterAt index) := .enterAt hseen
    have hsize' : (front.enterAt index).seen.size = p.size := henter.size.trans hsize
    rw [visit_of_not_seen hseen hi]
    cases i with
    | accept => exact henter.trans (.wait (.inl hi))
    | read set next => exact henter.trans (.wait (.inr ⟨set, next, hi⟩))
    | look condition next =>
      simp only
      split
      · exact henter.trans (ih _ _ _ hsize')
      · exact henter
    | mark slot next => exact henter.trans (ih _ _ _ hsize')
    | fork first second =>
      have hfirst := ih first marks _ hsize'
      exact henter.trans (hfirst.trans (ih _ _ _ (hfirst.size.trans hsize')))

/-! ### What a front gains -/

/-- The ways that `front'` has more than `front` have the result `r`, and if that is a failure, every
instruction entered meanwhile has failed. -/
structure Adds (p : Program) (x : Spot) (r : Option Match) (front front' : Front) : Prop where
  threads : ∃ ts, front'.threads.reverse = front.threads.reverse ++ ts ∧ First p x ts r
  failed : r = none → ∀ i, front'.Seen i → front.Seen i ∨ Finds p i x none

section Adds
variable {r : Option Match} {front front' front'' : Front} {bound index : Nat}

theorem Adds.refl (front : Front) : Adds p x none front front :=
  ⟨⟨[], (List.append_nil _).symm, .nil⟩, fun _ _ hi => .inl hi⟩

theorem Adds.wait {t : Thread} (h : Finds p t.index (x.withMarks t.marks) r) :
    Adds p x r front { front with threads := t :: front.threads } :=
  ⟨⟨[t], List.reverse_cons, .singleton h⟩, fun _ _ hi => .inl hi⟩

theorem Adds.enterAt (h : Adds p x r (front.enterAt index) front')
    (hfails : r = none → Finds p index x none) : Adds p x r front front' := by
  refine ⟨h.threads, fun hr i hi => ?_⟩
  rcases h.failed hr i hi with hi | hi
  · rcases Front.seen_enterAt.mp hi with hi | rfl
    · exact .inl hi
    · exact .inr (hfails hr)
  · exact .inr hi

theorem Adds.trans (h : Adds p x none front front') (h' : Adds p x r front' front'') :
    Adds p x r front front'' := by
  obtain ⟨ts, hts, hfirst⟩ := h.threads
  obtain ⟨us, hus, hrest⟩ := h'.threads
  refine ⟨⟨ts ++ us, ?_, hfirst.append_of_none hrest⟩, fun hr i hi => ?_⟩
  · rw [hus, hts, List.append_assoc]
  · rcases h'.failed hr i hi with hi | hi
    · exact h.failed rfl i hi
    · exact .inr hi

/-- Once a match is found, what is entered later has no say. -/
theorem Adds.grow {m : Match} (h : Adds p x (some m) front front') (hgrows : Grows p front' front'') :
    Adds p x (some m) front front'' := by
  obtain ⟨ts, hts, hfirst⟩ := h.threads
  obtain ⟨us, hus, -⟩ := hgrows.threads
  refine ⟨⟨ts ++ us, ?_, hfirst.append_of_some⟩, fun hr => (nomatch hr)⟩
  rw [hus, hts, List.append_assoc]

/-- The instructions entered have failed or need more fuel. -/
def Front.Spent (front : Front) (p : Program) (x : Spot) (bound : Nat) : Prop :=
  ∀ i, front.Seen i → Finds p i x none ∨ search p bound i x = none

theorem Front.Spent.pred (h : front.Spent p x (bound + 1)) : front.Spent p x bound := by
  intro i hi
  refine (h i hi).imp_right fun hmore => ?_
  cases hless : search p bound i x with
  | none => rfl
  | some r => rw [search_succ hless] at hmore; cases hmore

theorem Front.Spent.enterAt (h : front.Spent p x bound) (hmore : search p bound index x = none) :
    (front.enterAt index).Spent p x bound := by
  intro i hi
  rcases Front.seen_enterAt.mp hi with hi | rfl
  · exact h i hi
  · exact .inr hmore

theorem Front.Spent.adds (h : front.Spent p x bound) (hadds : Adds p x none front front') :
    front'.Spent p x bound := by
  intro i hi
  rcases hadds.failed rfl i hi with hi | hi
  · exact h i hi
  · exact .inl hi

end Adds

/-- What `visit` adds to a front has the result that backtracking gives, if the instructions entered
before have failed or need more fuel. -/
theorem visit_adds (fuel bound index : Nat) (marks : Marks) (front : Front) (r : Option Match)
    (hsearch : search p bound index (x.withMarks marks) = some r)
    (hsize : front.seen.size = p.size) (hfuel : front.unseen < fuel)
    (hspent : front.Spent p x bound) :
    Adds p x r front (visit p x.place fuel index marks front) := by
  induction bound generalizing fuel index marks front r with
  | zero => cases hsearch
  | succ bound ih =>
    obtain ⟨fuel, rfl⟩ : ∃ n, fuel = n + 1 := ⟨fuel - 1, by omega⟩
    have hfinds : Finds p index (x.withMarks marks) r := ⟨_, hsearch⟩
    by_cases hindex : front.Seen index
    · have hnone : r = none := by
        rcases hspent index hindex with hfailed | hmore
        · exact hfinds.unique (hfailed.marks marks)
        · rw [search_none_marks marks hmore] at hsearch
          cases hsearch
      rw [visit_of_seen hindex, hnone]
      exact .refl front
    cases hless : search p bound index (x.withMarks marks) with
    | some r' =>
      rw [search_succ hless] at hsearch
      cases hsearch
      exact ih _ _ _ _ _ hless hsize hfuel hspent.pred
    | none =>
      -- backtracking from here needs all the fuel, so the instruction cannot come up again
      have hspent' : (front.enterAt index).Spent p x bound :=
        hspent.pred.enterAt (search_none_marks (x := x.withMarks marks) x.marks hless)
      obtain ⟨i, hi⟩ := Front.exists_instr hsize hindex
      have henter : Grows p front (front.enterAt index) := .enterAt hindex
      have hsize' : (front.enterAt index).seen.size = p.size := henter.size.trans hsize
      have hfuel' : (front.enterAt index).unseen < fuel := by
        have := Front.unseen_enterAt hindex
        omega
      suffices hadds : Adds p x r (front.enterAt index) (visit p x.place (fuel + 1) index marks front) from
        hadds.enterAt fun hr => (hr ▸ hfinds).marks x.marks
      rw [visit_of_not_seen hindex hi]
      rw [search, hi] at hsearch
      cases i with
      | accept => exact .wait hfinds
      | read set next => exact .wait hfinds
      | look condition next =>
        simp only [Spot.withMarks_text, Spot.withMarks_before] at hsearch
        simp only [Spot.place]
        by_cases hholds : condition.holds x.before x.text.head? = true
        · simp only [hholds, if_true] at hsearch ⊢
          exact ih _ _ _ _ _ hsearch hsize' hfuel' hspent'
        · simp only [hholds, Bool.false_eq_true, if_false] at hsearch ⊢
          cases hsearch
          exact .refl _
      | mark slot next =>
        exact ih _ _ ((slot, x.count) :: marks) _ _ hsearch hsize' hfuel' hspent'
      | fork first second =>
        simp only at hsearch ⊢
        have hgrows := visit_grows (p := p) x.place fuel first marks _ hsize'
        have hsize'' := hgrows.size.trans hsize'
        cases hone : search p bound first (x.withMarks marks) with
        | none => rw [hone] at hsearch; cases hsearch
        | some r' =>
          have hfirst := ih _ _ _ _ _ hone hsize' hfuel' hspent'
          rw [hone] at hsearch
          cases r' with
          | some m =>
            cases hsearch
            exact hfirst.grow (visit_grows x.place fuel second marks _ hsize'')
          | none =>
            exact hfirst.trans (ih _ _ _ _ _ hsearch hsize''
              (Nat.lt_of_le_of_lt hgrows.unseen hfuel') (hspent'.adds hfirst))

/-! ### What a front gives -/

/-- What is known of a front: its ways wait and give a result, and if it is a failure, all instructions
entered so far have failed. -/
structure Front.Gives (front : Front) (p : Program) (x : Spot) (r : Option Match) : Prop where
  size : front.seen.size = p.size
  waiting : Waiting p front.threads.reverse
  first : First p x front.threads.reverse r
  failed : r = none → ∀ i, front.Seen i → Finds p i x none

theorem Front.gives_start (p : Program) (x : Spot) : (Front.start p).Gives p x none := by
  refine ⟨by simp [start], fun t ht => absurd ht List.not_mem_nil, .nil, fun _ i hi => ?_⟩
  have hout : p.size ≤ i := by
    by_cases hlt : i < p.size
    · rw [Seen, start, Array.getD_eq_getD_getElem?, Array.getElem?_replicate, if_pos hlt] at hi
      cases hi
    · omega
  exact ⟨1, by rw [search, Array.getElem?_eq_none hout]⟩

theorem Front.Gives.enter {front : Front} {index : Nat} {marks : Marks} {r : Option Match}
    (h : front.Gives p x none) (hfinds : Finds p index (x.withMarks marks) r) :
    (enter p x.place index marks front).Gives p x r := by
  obtain ⟨bound, hsearch⟩ := hfinds
  have hgrows := visit_grows (p := p) x.place (p.size + 1) index marks front h.size
  have hunseen : front.unseen < p.size + 1 := by
    have hcount := List.count_le_length (a := false) (l := front.seen.toList)
    rw [Array.length_toList, h.size] at hcount
    rw [Front.unseen]
    omega
  have hadds := visit_adds (p.size + 1) bound index marks front r hsearch h.size hunseen fun i hi =>
    .inl (h.failed rfl i hi)
  obtain ⟨ts, hts, hfirst⟩ := hadds.threads
  obtain ⟨us, hus, hwait⟩ := hgrows.threads
  refine ⟨hgrows.size.trans h.size, fun t ht => ?_, ?_, fun hr i hi => ?_⟩
  · rw [Pattern.enter, hus] at ht
    rcases List.mem_append.mp ht with ht | ht
    · exact h.waiting t ht
    · exact hwait t ht
  · rw [Pattern.enter, hts]
    exact h.first.append_of_none hfirst
  · rcases hadds.failed hr i hi with hi | hi
    · exact h.failed rfl i hi
    · exact hi

theorem Front.Gives.enter_of_some {front : Front} {m : Match} (h : front.Gives p x (some m))
    (index : Nat) (marks : Marks) : (Pattern.enter p x.place index marks front).Gives p x (some m) := by
  have hgrows := visit_grows (p := p) x.place (p.size + 1) index marks front h.size
  obtain ⟨us, hus, hwait⟩ := hgrows.threads
  refine ⟨hgrows.size.trans h.size, fun t ht => ?_, ?_, fun hr => (nomatch hr)⟩
  · rw [Pattern.enter, hus] at ht
    rcases List.mem_append.mp ht with ht | ht
    · exact h.waiting t ht
    · exact hwait t ht
  · rw [Pattern.enter, hus]
    exact h.first.append_of_some

/-! ## From one position to the next -/

variable {c : Char} {cs : List Char}

theorem Front.Gives.advanceOne_of_some {front : Front} {m : Match} (h : front.Gives p x (some m))
    (t : Thread) : (advanceOne p x.place c front t).Gives p x (some m) := by
  rw [advanceOne]
  split
  · split
    · exact h.enter_of_some _ _
    · exact h
  · exact h

theorem Front.Gives.foldl_of_some {front : Front} {m : Match} (h : front.Gives p x (some m))
    (threads : List Thread) :
    (threads.foldl (advanceOne p x.place c) front).Gives p x (some m) := by
  induction threads generalizing front with
  | nil => exact h
  | cons t threads ih => exact ih (h.advanceOne_of_some t)

/-- A way that reads fails here, or else its result is that of the way after the character. -/
theorem Front.Gives.advanceOne {front : Front} {t : Thread} {r : Option Match}
    (hread : ∃ set next, p[t.index]? = some (.read set next)) (htext : x.text = c :: cs)
    (hfinds : Finds p t.index (x.withMarks t.marks) r) (h : front.Gives p (x.next c cs) none) :
    (Pattern.advanceOne p (x.next c cs).place c front t).Gives p (x.next c cs) r := by
  obtain ⟨set, next, hi⟩ := hread
  obtain ⟨fuel, hsearch⟩ := hfinds
  rw [Pattern.advanceOne, getD_eq_of_getElem? hi]
  cases fuel with
  | zero => cases hsearch
  | succ fuel =>
    rw [search, hi] at hsearch
    simp only [Spot.withMarks_text, htext] at hsearch
    by_cases hc : set.contains c = true
    · simp only [hc, if_true] at hsearch ⊢
      exact h.enter ⟨fuel, hsearch⟩
    · simp only [hc, Bool.false_eq_true, if_false] at hsearch ⊢
      cases hsearch
      exact h

theorem Front.Gives.foldl {threads : List Thread} {r : Option Match} {front : Front}
    (hread : ∀ t ∈ threads, ∃ set next, p[t.index]? = some (.read set next))
    (htext : x.text = c :: cs) (hfirst : First p x threads r)
    (h : front.Gives p (x.next c cs) none) :
    (threads.foldl (Pattern.advanceOne p (x.next c cs).place c) front).Gives p (x.next c cs) r := by
  induction hfirst generalizing front with
  | nil => exact h
  | hit hfinds =>
    exact (h.advanceOne (hread _ List.mem_cons_self) htext hfinds).foldl_of_some _
  | miss hfinds _ ih =>
    exact ih (fun t ht => hread t (List.mem_cons_of_mem _ ht))
      (h.advanceOne (hread _ List.mem_cons_self) htext hfinds)

theorem advance_first {threads : List Thread} {r : Option Match}
    (hread : ∀ t ∈ threads, ∃ set next, p[t.index]? = some (.read set next))
    (htext : x.text = c :: cs) (hfirst : First p x threads r) :
    First p (x.next c cs) (advance p (x.next c cs).place c threads) r ∧
      Waiting p (advance p (x.next c cs).place c threads) := by
  rw [advance_eq]
  have h := (Front.gives_start p (x.next c cs)).foldl hread htext hfirst
  exact ⟨h.first, h.waiting⟩

/-! ## The whole text -/

theorem Waiting.accepts_iff {ts : List Thread} (h : Waiting p ts) {t : Thread} (ht : t ∈ ts) :
    t.accepts p = true ↔ p[t.index]? = some .accept := by
  rw [Thread.accepts]
  rcases h t ht with hi | ⟨set, next, hi⟩
  · rw [getD_eq_of_getElem? hi, hi]
    simp
  · rw [getD_eq_of_getElem? hi, hi]
    simp

theorem Waiting.takeWhile {ts : List Thread} (h : Waiting p ts) :
    ∀ t ∈ ts.takeWhile (!·.accepts p), ∃ set next, p[t.index]? = some (.read set next) := by
  intro t ht
  have hts : t ∈ ts := (List.takeWhile_sublist _).subset ht
  have hall := List.all_takeWhile (p := (!·.accepts p)) (l := ts)
  have hnot := List.all_eq_true.mp hall t ht
  refine (h t hts).resolve_left fun hi => ?_
  rw [(h.accepts_iff hts).mpr hi] at hnot
  cases hnot

/-- The match of the first way that accepts. -/
def accepted? (p : Program) (count : Nat) (ts : List Thread) : Option Match :=
  (ts.find? (·.accepts p)).map fun t => ⟨count, t.marks⟩

theorem First.split {ts : List Thread} {r : Option Match} (hwait : Waiting p ts)
    (h : First p x ts r) : ∃ r', First p x (ts.takeWhile (!·.accepts p)) r' ∧
      r = r'.or (accepted? p x.count ts) := by
  induction h with
  | nil => exact ⟨none, .nil, rfl⟩
  | @hit t ts m hfinds =>
    by_cases haccepts : t.accepts p = true
    · have hi := (hwait.accepts_iff List.mem_cons_self).mp haccepts
      refine ⟨none, by simp only [List.takeWhile_cons, haccepts]; exact .nil, ?_⟩
      rw [hfinds.unique (.accept hi), accepted?, List.find?_cons_of_pos haccepts]
      rfl
    · refine ⟨some m, ?_, rfl⟩
      simp only [List.takeWhile_cons, haccepts]
      exact .hit hfinds
  | @miss t ts r hfinds hrest ih =>
    obtain ⟨r', hfirst, hr⟩ := ih fun u hu => hwait u (List.mem_cons_of_mem _ hu)
    by_cases haccepts : t.accepts p = true
    · have hi := (hwait.accepts_iff List.mem_cons_self).mp haccepts
      cases hfinds.unique (.accept hi)
    · refine ⟨r', ?_, ?_⟩
      · simp only [List.takeWhile_cons, haccepts]
        exact .miss hfinds hfirst
      · rw [hr, accepted?, accepted?, List.find?_cons_of_neg haccepts]

theorem First.eq_none_of_read {ts : List Thread} {r : Option Match}
    (hread : ∀ t ∈ ts, ∃ set next, p[t.index]? = some (.read set next)) (htext : x.text = [])
    (h : First p x ts r) : r = none := by
  induction h with
  | nil => rfl
  | hit hfinds =>
    obtain ⟨set, next, hi⟩ := hread _ List.mem_cons_self
    cases hfinds.unique (.read_nil hi htext)
  | miss _ _ ih => exact ih fun t ht => hread t (List.mem_cons_of_mem _ ht)

theorem run_nil (count : Nat) (ts : List Thread) (best : Option Match) :
    run p count ts best [] = (accepted? p count ts).or best := by
  rw [run, accepted?]
  cases ts.find? (·.accepts p) <;> rfl

theorem run_cons (count : Nat) (ts : List Thread) (best : Option Match) (c : Char) (cs : List Char) :
    run p count ts best (c :: cs) =
      match ts.takeWhile (!·.accepts p) with
      | [] => (accepted? p count ts).or best
      | live => run p (count + 1) (advance p ⟨count + 1, some c, cs.head?⟩ c live)
          ((accepted? p count ts).or best) cs := by
  rw [run, accepted?]
  cases ts.find? (·.accepts p) <;> rfl

theorem run_first {ts : List Thread} {r : Option Match} (best : Option Match) (hwait : Waiting p ts)
    (h : First p x ts r) : run p x.count ts best x.text = r.or best := by
  generalize htext : x.text = text
  induction text generalizing x ts r best with
  | nil =>
    obtain ⟨r', hfirst, rfl⟩ := h.split hwait
    rw [run_nil, hfirst.eq_none_of_read hwait.takeWhile htext]
    rfl
  | cons c cs ih =>
    obtain ⟨r', hfirst, rfl⟩ := h.split hwait
    obtain ⟨hadvance, hwait'⟩ := advance_first hwait.takeWhile htext hfirst
    rw [run_cons, Option.or_assoc]
    split
    · next hlive =>
      rw [hlive] at hfirst
      cases hfirst
      rfl
    · exact ih _ hwait' hadvance rfl

/-- **Matching is backtracking.** -/
theorem match?_of_finds {pattern : Pattern} {before : Option Char} {text : List Char}
    {r : Option Match} (h : Finds pattern.program pattern.entry ⟨0, before, text, []⟩ r) :
    pattern.match? before text = r := by
  have hempty := Front.gives_start pattern.program ⟨0, before, text, []⟩
  have hstart : (enter pattern.program ⟨0, before, text.head?⟩ pattern.entry []
      (Front.start pattern.program)).Gives pattern.program ⟨0, before, text, []⟩ r := hempty.enter h
  exact (run_first none hstart.waiting hstart.first).trans Option.or_none

end TableLexer.Pattern
