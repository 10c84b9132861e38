import TableLexer.Proofs.Scanner.Progress

/-!
# Two scanners in tandem

`InTandem.drain`: if two scanners that have the same text to come and the same tokens waiting are kept so
related by each step, they give the same tokens. Steps may be allowed to part the scanners as long as the
first one makes an error token there (`Errs`); then the tokens up to this one are the same.
-/

namespace TableLexer.Scanner

/-- A step has made an error token. -/
def Errs (s s' : Scanner) : Prop := ∃ token, token.kind = .error ∧ s'.pending = s.pending ++ [token]

/-- A relation between scanners for two tables is kept by steps, except that the first scanner may make an
error token if `P` holds; related scanners differ neither in the text to come nor in the tokens that wait. -/
structure InTandem (t t' : Table) (P : Prop) (R : Scanner → Scanner → Prop) : Prop where
  size : t'.states.length = t.states.length
  rest : ∀ {s s'}, R s s' → s'.rest = s.rest
  pending : ∀ {s s'}, R s s' → s'.pending = s.pending
  handOut : ∀ {s s'}, R s s' → ∀ pending, R { s with pending } { s' with pending }
  step : ∀ {s s'}, R s s' → R (step t s) (step t' s') ∨ P ∧ Errs s (step t s)

theorem nextWithin_zero (t : Table) {s : Scanner} (hpending : s.pending = []) :
    nextWithin t 0 s = (none, s) := by
  rw [nextWithin.eq_def]
  simp only [hpending]
  cases s.rest <;> rfl

theorem drainWithin_found (t : Table) (count : Nat) (found : List Token) (s : Scanner) :
    (drainWithin t count found s).1 = found.reverse ++ (drainWithin t count [] s).1 := by
  induction count generalizing found s with
  | zero => exact (List.append_nil _).symm
  | succ count ih =>
    rw [drainWithin, drainWithin]
    generalize s.next t = answer
    obtain ⟨token, r⟩ := answer
    cases token with
    | none => exact (List.append_nil _).symm
    | some token =>
      simp only
      rw [ih (token :: found), ih [token], List.reverse_cons, List.append_assoc, List.reverse_singleton]

namespace InTandem
variable {t t' : Table} {P : Prop} {R : Scanner → Scanner → Prop} {s s' : Scanner}

theorem nextWithin (h : InTandem t t' P R) (steps : Nat) {s s' : Scanner} (hs : R s s') :
    ((s'.nextWithin t' steps).1 = (s.nextWithin t steps).1 ∧
        R (s.nextWithin t steps).2 (s'.nextWithin t' steps).2) ∨
      P ∧ ∃ token, token.kind = .error ∧ (s.nextWithin t steps).1 = some token := by
  have hpending' := h.pending hs
  cases hpending : s.pending with
  | cons token pending =>
    rw [nextWithin_of_pending t _ hpending, nextWithin_of_pending t' _ (hpending'.trans hpending)]
    exact .inl ⟨rfl, h.handOut hs pending⟩
  | nil =>
    rw [hpending] at hpending'
    by_cases hrest : s.rest = []
    · rw [nextWithin_of_done t _ hpending hrest, nextWithin_of_done t' _ hpending' ((h.rest hs).trans hrest)]
      exact .inl ⟨rfl, hs⟩
    cases steps with
    | zero =>
      rw [nextWithin_zero t hpending, nextWithin_zero t' hpending']
      exact .inl ⟨rfl, hs⟩
    | succ steps =>
      rw [nextWithin_succ t steps hpending hrest, nextWithin_succ t' steps hpending' (by rwa [h.rest hs])]
      rcases h.step hs with hs | ⟨hP, token, hkind, htoken⟩
      · exact h.nextWithin steps hs
      · rw [hpending, List.nil_append] at htoken
        rw [nextWithin_of_pending t steps htoken]
        exact .inr ⟨hP, token, hkind, rfl⟩

theorem next (h : InTandem t t' P R) (hs : R s s') :
    ((s'.next t').1 = (s.next t).1 ∧ R (s.next t).2 (s'.next t').2) ∨
      P ∧ ∃ token, token.kind = .error ∧ (s.next t).1 = some token := by
  rw [Scanner.next, Scanner.next, h.size]
  exact h.nextWithin _ hs

theorem drainWithin (h : InTandem t t' P R) (count : Nat) (found : List Token) (hs : R s s') :
    ((s'.drainWithin t' count found).1 = (s.drainWithin t count found).1 ∧
        R (s.drainWithin t count found).2 (s'.drainWithin t' count found).2) ∨
      P ∧ ∃ ts token us us', token.kind = .error ∧ (s.drainWithin t count found).1 = ts ++ token :: us ∧
        (s'.drainWithin t' count found).1 = ts ++ us' := by
  induction count generalizing found s s' with
  | zero => exact .inl ⟨rfl, hs⟩
  | succ count ih =>
    rcases h.next hs with ⟨htoken, hr⟩ | ⟨hP, token, hkind, htoken⟩
    · rw [Scanner.drainWithin, Scanner.drainWithin]
      generalize s'.next t' = answer' at htoken hr
      generalize s.next t = answer at htoken hr
      obtain ⟨token', r'⟩ := answer'
      obtain ⟨token, r⟩ := answer
      cases htoken
      cases token' with
      | none => exact .inl ⟨rfl, hr⟩
      | some token => exact ih (token :: found) hr
    · -- the first scanner goes on after its error token, the second from where it was before
      have herror : (s.drainWithin t (count + 1) found).1
          = found.reverse ++ token :: ((s.next t).2.drainWithin t count []).1 := by
        rw [Scanner.drainWithin]
        generalize s.next t = answer at htoken
        obtain ⟨token', r⟩ := answer
        cases htoken
        simp only
        rw [drainWithin_found, List.reverse_cons, List.append_assoc, List.singleton_append]
      exact .inr ⟨hP, found.reverse, token, _, _, hkind, herror, drainWithin_found t' _ found s'⟩

/-- Two scanners in tandem give the same tokens, unless the first makes an error token; then they give the
same tokens before it. -/
theorem drain (h : InTandem t t' P R) (hs : R s s') :
    ((s'.drain t').1 = (s.drain t).1 ∧ R (s.drain t).2 (s'.drain t').2) ∨
      P ∧ ∃ ts token us us', token.kind = .error ∧ (s.drain t).1 = ts ++ token :: us ∧
        (s'.drain t').1 = ts ++ us' := by
  rw [Scanner.drain, Scanner.drain, h.rest hs, h.pending hs]
  exact h.drainWithin _ [] hs

end InTandem

end TableLexer.Scanner
