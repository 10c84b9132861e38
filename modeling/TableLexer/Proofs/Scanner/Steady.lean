import TableLexer.Proofs.Scanner.Flat
import TableLexer.Proofs.Table.Openers

/-!
# Tables that settle in one state

`Run.steady`: if the root of a table only enters a state whose rules all scan, then a run enters this state with its
first move and stays there, and the guard against circles of states never has anything to break up.

Proof. The first move is the one change of state (`Move.settles`). After it a step takes pieces of the input or
makes an error, and both leave the stack alone and report no circle (`Effect.keeps`).
-/

namespace TableLexer

/-- The root enters a state whose rules all scan, and does nothing else. -/
structure Table.Steady (t : Table) (base : Nat) : Prop where
  size : 0 < t.states.length
  root : t.entries t.root = [⟨{}, .push base⟩]
  scans : ∀ e ∈ t.entries base, ∃ pattern opener emission, e.action = .scan pattern opener emission

theorem Entry.eq_push_of_withoutOpener {e : Entry} {guard : Guard} {state : Nat}
    (h : e.withoutOpener = ⟨guard, .push state⟩) : e = ⟨guard, .push state⟩ := by
  obtain ⟨guard', action⟩ := e
  cases action with
  | scan pattern opener emission => cases h
  | push => exact h
  | pop => cases h

theorem Entry.scans_of_withoutOpener {e : Entry} (h : e.withoutOpener.Plain) :
    ∃ pattern opener emission, e.action = .scan pattern opener emission := by
  obtain ⟨guard, action⟩ := e
  obtain ⟨guard', pattern, emission, h⟩ := h
  cases action with
  | scan pattern opener emission => exact ⟨pattern, opener, emission, rfl⟩
  | push => cases h
  | pop => cases h

theorem Table.Steady.of_flat {t : Table} {base : Nat} {es : List Entry} (h : t.withoutOpeners.Flat base es) :
    t.Steady base := by
  refine ⟨?_, ?_, ?_⟩
  · have hsize := h.size
    rwa [withoutOpeners, List.length_map] at hsize
  · have hroot := h.root
    rw [entries_withoutOpeners] at hroot
    obtain ⟨e, hentries, he⟩ := List.map_eq_singleton_iff.mp hroot
    exact hentries.trans (congrArg (· :: []) (Entry.eq_push_of_withoutOpener he))
  · intro e he
    apply Entry.scans_of_withoutOpener
    apply h.plain
    rw [← h.base, entries_withoutOpeners]
    exact List.mem_map_of_mem he

namespace Scanner

/-- The scanner is in the state that the root enters, and no circle has been reported. -/
structure Settled (t : Table) (base : Nat) (s : Scanner) : Prop where
  stack : s.stack = ⟨base, [t.root]⟩
  log : ∀ offset, .circle offset ∉ s.log

section Steady
variable {t : Table} {base : Nat} {s s' : Scanner}

theorem Passes.circle_not_mem (h : Passes s s') (hlog : ∀ offset, .circle offset ∉ s.log) :
    ∀ offset, .circle offset ∉ s'.log := by
  obtain ⟨reports, hreports, hopeners⟩ := h.log
  intro offset hmem
  rw [hreports] at hmem
  rcases List.mem_append.mp hmem with hmem | hmem
  · obtain ⟨opener, hevent⟩ := hopeners _ hmem
    cases hevent
  · exact hlog offset hmem

theorem Effect.keeps (h : t.Steady base) (heffect : Effect t (t.entries base) s s') :
    s'.stack = s.stack ∧ s'.log = s.log := by
  cases heffect with
  | error => exact ⟨rfl, rfl⟩
  | push he _ haction =>
    obtain ⟨pattern, opener, emission, hscan⟩ := h.scans _ he
    rw [hscan] at haction
    cases haction
  | pop he _ haction =>
    obtain ⟨pattern, opener, emission, hscan⟩ := h.scans _ he
    rw [hscan] at haction
    cases haction
  | scan =>
    rw [takeAll_eq]
    exact ⟨rfl, rfl⟩

theorem Settled.step (h : t.Steady base) (hs : Settled t base s) : Settled t base (step t s) := by
  obtain ⟨s', hpass, heffect⟩ := step_effect t s
  rw [hs.stack] at heffect
  obtain ⟨hstack, hlog⟩ := heffect.keeps h
  refine ⟨?_, ?_⟩
  · rw [hstack, hpass.stack, hs.stack]
  · rw [hlog]
    exact hpass.circle_not_mem hs.log

theorem Settled.first (h : t.Steady base) (input : String) : Settled t base (Scanner.step t (start t input)) := by
  rw [step_start h.size h.root]
  exact ⟨rfl, fun offset hmem => absurd hmem List.not_mem_nil⟩

theorem Move.settles (h : t.Steady base) {input : String} (hs : s = start t input ∨ Settled t base s)
    (hmove : Move t s s') : Settled t base s' := by
  cases hmove with
  | handOut hpending =>
    rcases hs with rfl | hs
    · cases hpending
    · exact ⟨hs.stack, hs.log⟩
  | step =>
    rcases hs with rfl | hs
    · exact Settled.first h input
    · exact hs.step h

/-- **Steady tables stay in one state.** All through a run no circle is reported, and from the first move on the
scanner is in the state that the root enters. -/
theorem Run.steady (h : t.Steady base) {input : String} {past : List Scanner} (hrun : Run t input (s :: past)) :
    (∀ offset, .circle offset ∉ s.log) ∧ (past ≠ [] → s.stack = ⟨base, [t.root]⟩) := by
  have hall {s : Scanner} {past : List Scanner} (hrun : Run t input (s :: past)) :
      s = Scanner.start t input ∨ Settled t base s := by
    apply hrun.invariant (.inl rfl)
    intro r r' hr hmove
    exact .inr (hmove.settles h hr)
  cases hrun with
  | start => exact ⟨fun offset hmem => absurd hmem List.not_mem_nil, fun hpast => absurd rfl hpast⟩
  | move hrun hmove =>
    have hsettled := hmove.settles h (hall hrun)
    exact ⟨hsettled.log, fun _ => hsettled.stack⟩

end Steady

end Scanner

end TableLexer
