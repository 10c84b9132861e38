import TableLexer.Proofs.Scanner.Circles
import TableLexer.Proofs.Scanner.Locality

/-!
# Scanning to the end

`Run.tokenize`: asking for tokens until there are none is a run that comes to the end of the input, and the tokens of
the input are what this run hands out. There is no other run: all scanners that any run over the input comes to are
in it (`Run.mem_of_done`).

Proof. A move is determined by where it starts (`Move.unique`), so two runs part nowhere, and the one that cannot move
on holds the other. That the end is reached is a matter of counting: what is handed out covers a part of the input
(`Run.covers`) and no token is empty, so no more tokens are handed out than the input has characters.
-/

namespace TableLexer

theorem Token.InRow.length_le {ts : List Token} {offset : Nat} (h : InRow offset ts) :
    ts.length ≤ (join ts).length := by
  induction ts generalizing offset with
  | nil => exact Nat.le_refl _
  | cons t ts ih =>
    obtain ⟨-, htext, hts⟩ := h
    have hle := ih hts
    have hpos : 0 < t.text.toList.length :=
      List.length_pos_iff.mpr fun hnil => htext (String.toList_eq_nil_iff.mp hnil)
    have hjoin : join (t :: ts) = t.text.toList ++ join ts := rfl
    rw [hjoin, List.length_append, List.length_cons]
    omega

namespace Scanner

section
variable {t : Table} {input : String} {s s' r : Scanner} {past past' : List Scanner}

/-! ## Runs over one input -/

/-- What holds at the start and is kept by every move of a run holds all through a run, also if it speaks of the
scanners before. -/
theorem Run.induct {P : Scanner → List Scanner → Prop} (hstart : P (Scanner.start t input) [])
    (hmove : ∀ {s s' past}, Run t input (s :: past) → P s past → Move t s s' → P s' (s :: past))
    (h : Run t input (s :: past)) : P s past := by
  generalize hrun : s :: past = run at h
  induction h generalizing s past with
  | start =>
    cases hrun
    exact hstart
  | move h hmove' ih =>
    cases hrun
    exact hmove h (ih rfl) hmove'

theorem Move.unique (h : Move t s s') (h' : Move t s r) : r = s' := by
  cases h with
  | handOut hpending =>
    cases h' with
    | handOut hpending' =>
      rw [hpending] at hpending'
      cases hpending'
      rfl
    | step hpending' =>
      rw [hpending] at hpending'
      cases hpending'
  | step hpending =>
    cases h' with
    | handOut hpending' =>
      rw [hpending] at hpending'
      cases hpending'
    | step => rfl

theorem not_move_of_done (hpending : s.pending = []) (hrest : s.rest = []) : ¬ Move t s s' := by
  intro hmove
  cases hmove with
  | handOut hsome =>
    rw [hpending] at hsome
    cases hsome
  | step _ hne => exact hne hrest

theorem Run.start_mem (h : Run t input (s :: past)) : Scanner.start t input ∈ s :: past := by
  apply h.induct (P := fun s past => Scanner.start t input ∈ s :: past)
  · exact List.mem_cons_self
  · intro s s' past _ hmem _
    exact List.mem_cons_of_mem s' hmem

theorem Run.exists_run (h : Run t input (s :: past)) : ∀ r ∈ s :: past, ∃ past', Run t input (r :: past') := by
  apply h.induct (P := fun s past => ∀ r ∈ s :: past, ∃ past', Run t input (r :: past'))
  · intro r hr
    obtain rfl := List.mem_singleton.mp hr
    exact ⟨[], .start⟩
  · intro s s' past hrun hpast hmove r hr
    rcases List.mem_cons.mp hr with rfl | hr
    · exact ⟨s :: past, hrun.move hmove⟩
    · exact hpast r hr

theorem Run.exists_move (h : Run t input (s :: past)) : ∀ r ∈ past, ∃ r' ∈ s :: past, Move t r r' := by
  apply h.induct (P := fun s past => ∀ r ∈ past, ∃ r' ∈ s :: past, Move t r r')
  · intro r hr
    cases hr
  · intro s s' past _ hpast hmove r hr
    rcases List.mem_cons.mp hr with rfl | hr
    · exact ⟨s', List.mem_cons_self, hmove⟩
    · obtain ⟨r', hr', hmove'⟩ := hpast r hr
      exact ⟨r', List.mem_cons_of_mem s' hr', hmove'⟩

/-- A run that has come to the end goes through all scanners that any run comes to. -/
theorem Run.mem_of_done (h : Run t input (s :: past)) (hpending : s.pending = []) (hrest : s.rest = [])
    (hr : Run t input (r :: past')) : r ∈ s :: past := by
  apply hr.induct (P := fun r _ => r ∈ s :: past)
  · exact h.start_mem
  · intro r r' _ _ hmem hmove
    rcases List.mem_cons.mp hmem with rfl | hmem
    · exact absurd hmove (not_move_of_done hpending hrest)
    · obtain ⟨next, hnext, hmove'⟩ := h.exists_move r hmem
      rw [hmove'.unique hmove]
      exact hnext

theorem Run.step_offset_le (h : Run t input (s :: past)) (hr : r ∈ past) (hpending : r.pending = [])
    (hrest : r.rest ≠ []) : (step t r).offset ≤ s.offset := by
  obtain ⟨r', hr', hmove⟩ := h.exists_move r hr
  rw [← hmove.unique (.step hpending hrest)] at hr'
  exact h.tracks.offsets _ hr'

/-! ## What is handed out -/

/-- The tokens that a run, latest scanner first, has handed out. -/
def handedOut : List Scanner → List Token
  | _ :: s :: past => handedOut (s :: past) ++ s.pending.head?.toList
  | _ => []

theorem handedOut_step (hpending : s.pending = []) : handedOut (s' :: s :: past) = handedOut (s :: past) := by
  rw [handedOut, hpending, List.head?_nil, Option.toList_none, List.append_nil]

theorem handedOut_handOut {token : Token} {pending : List Token} (hpending : s.pending = token :: pending) :
    handedOut (s' :: s :: past) = handedOut (s :: past) ++ [token] := by
  rw [handedOut, hpending, List.head?_cons, Option.toList_some]

theorem Run.covers (h : Run t input (s :: past)) : Covers input.toList (handedOut (s :: past)) s := by
  apply h.induct (P := fun s past => Covers input.toList (handedOut (s :: past)) s)
  · exact .start t input
  · intro s s' past _ hcovers hmove
    cases hmove with
    | handOut hpending =>
      rw [handedOut_handOut hpending]
      exact hcovers.handOut hpending
    | step hpending hrest =>
      rw [handedOut_step hpending]
      exact hcovers.step t hrest

theorem Run.offset_lt (h : Run t input (s :: past)) : ∀ token ∈ s.pending, token.offset < s.offset := by
  intro token htoken
  have hcovers := h.covers
  have hlt := hcovers.inRow.offset_lt token (List.mem_append_right _ htoken)
  rwa [hcovers.scanned, ← hcovers.offset, Nat.zero_add] at hlt

theorem Run.length_handedOut_le (h : Run t input (s :: past)) :
    (handedOut (s :: past)).length ≤ input.toList.length := by
  have hcovers := h.covers
  have hle := (Token.InRow.append.mp hcovers.inRow).1.length_le
  have hscanned := congrArg List.length hcovers.scanned
  have hwhole := congrArg List.length hcovers.whole
  simp only [Token.join_append, List.length_append, List.length_reverse] at hscanned hwhole
  omega

/-! ## All tokens -/

theorem Run.hands {count : Nat} {result : Option Token × Scanner} (hreturns : Returns t s count result)
    (h : Run t input (s :: past)) : ∃ past', Run t input (result.2 :: past') ∧
      handedOut (result.2 :: past') = handedOut (s :: past) ++ result.1.toList ∧
      (result.1 = none → result.2.pending = [] ∧ result.2.rest = []) := by
  induction hreturns generalizing past with
  | token hpending =>
    refine ⟨_, h.move (.handOut hpending), handedOut_handOut hpending, ?_⟩
    intro hnone
    cases hnone
  | done hpending hrest => exact ⟨past, h, (List.append_nil _).symm, fun _ => ⟨hpending, hrest⟩⟩
  | step hpending hrest _ ih =>
    obtain ⟨past', hrun, hhanded, hdone⟩ := ih (h.move (.step hpending hrest))
    rw [handedOut_step hpending] at hhanded
    exact ⟨past', hrun, hhanded, hdone⟩

theorem Run.drainWithin {count : Nat} {found : List Token} (h : Run t input (s :: past))
    (hfound : handedOut (s :: past) = found.reverse) (hcount : input.toList.length < found.length + count) :
    ∃ past', Run t input ((s.drainWithin t count found).2 :: past') ∧
      handedOut ((s.drainWithin t count found).2 :: past') = (s.drainWithin t count found).1 ∧
      (s.drainWithin t count found).2.pending = [] ∧ (s.drainWithin t count found).2.rest = [] := by
  induction count generalizing found s past with
  | zero =>
    have hle := h.length_handedOut_le
    rw [hfound, List.length_reverse] at hle
    omega
  | succ count ih =>
    obtain ⟨steps, -, hreturns⟩ := returns_next t s
    obtain ⟨past', hrun, hhanded, hdone⟩ := h.hands hreturns
    rw [Scanner.drainWithin]
    generalize s.next t = answer at hrun hhanded hdone
    obtain ⟨token, r⟩ := answer
    cases token with
    | none =>
      rw [Option.toList_none, List.append_nil, hfound] at hhanded
      exact ⟨past', hrun, hhanded, hdone rfl⟩
    | some token =>
      apply ih hrun
      · rw [hhanded, hfound, List.reverse_cons, Option.toList_some]
      · rw [List.length_cons]
        omega

end

/-- **Scanning is a run to the end of the input.** The tokens of an input are those that a run hands out which comes to
a scanner with nothing waiting and nothing to come. -/
theorem Run.tokenize (t : Table) (input : String) :
    ∃ past, Run t input (((Scanner.start t input).drain t).2 :: past) ∧
      handedOut (((Scanner.start t input).drain t).2 :: past) = t.tokenize input ∧
      ((Scanner.start t input).drain t).2.pending = [] ∧ ((Scanner.start t input).drain t).2.rest = [] := by
  have hfound : handedOut [Scanner.start t input] = ([] : List Token).reverse := rfl
  exact Run.drainWithin .start hfound (by simp [Scanner.start])

end Scanner

end TableLexer
