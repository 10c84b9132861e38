import TableLexer.Proofs.Scanner.Changes

/-!
# When a circle of states is broken

`guard_spares`: where `next` begins its work at an offset, a circle is broken at that offset exactly if
without the guard there would be more changes of state than there are states; and if there are no more before
a rule takes a match, the tokens of that match are next.

A state may be current more than once before a rule takes a match, so that breaking a circle can cut short
what would have come to an end (`guard_spares_unwound`). If no state is current twice, it does not.

Proof. As long as the detour has room, steps make the changes of state that there would be without the guard
(`Changes.afterSteps_eq`), and as long as the offset stays they make no others (`changes_of_offset_eq`). The
detour begins anew where `next` begins (`Stale.afterCalls`).
-/

namespace TableLexer.Scanner

section
variable {t : Table} {s s' r : Scanner} {tops : List Nat}

/-! ## With the guard -/

/-- The scanner after so many steps. -/
def afterSteps (t : Table) : Nat → Scanner → Scanner
  | 0, s => s
  | count + 1, s => afterSteps t count (step t s)

/-- A circle is broken at the offset of the scanner, at once or after some steps there. -/
def Fires (t : Table) (s : Scanner) : Prop :=
  ∃ count, (afterSteps t count s).offset = s.offset ∧ BreaksCircle t (afterSteps t count s)

theorem step_offset_le (t : Table) (s : Scanner) : s.offset ≤ (step t s).offset := by
  obtain ⟨s', hpass, heffect⟩ := step_effect t s
  have hchange (move : StateStack → StateStack) : s'.offset ≤ (s'.change t move).offset := by
    by_cases hroom : s'.currentDetour.changes < t.states.length
    · exact Nat.le_of_eq (by rw [change_of_le move hroom])
    · rw [change_of_lt move (by omega)]
      exact Nat.le_add_right _ _
  rw [← hpass.offset]
  generalize step t s = after at heffect
  cases heffect with
  | error => exact Nat.le_add_right _ _
  | push => exact hchange _
  | pop => exact hchange _
  | scan => exact takeAll_offset_le _ _

theorem afterSteps_offset_le (t : Table) (count : Nat) (s : Scanner) :
    s.offset ≤ (afterSteps t count s).offset := by
  induction count generalizing s with
  | zero => exact Nat.le_refl _
  | succ count ih => exact Nat.le_trans (step_offset_le t s) (ih (step t s))

theorem change_of_offset_eq (hrest : s.rest ≠ []) (hoffset : (step t s).offset = s.offset) :
    s.currentDetour.changes < t.states.length ∧ ∃ r, Change t s r := by
  rcases step_progress t hrest with ⟨-, hlt, -⟩ | ⟨-, -, -, hroom, hdetour⟩
  · omega
  refine ⟨hroom, ?_⟩
  rcases step_cases t s with hchange | ⟨s', ps, hpass, hstep⟩
  · exact hchange
  · -- taking text does not count in the detour
    rw [hstep, takeAll_detour, hpass.detour] at hdetour
    have hcurrent : s.currentDetour = s.nextDetour := by
      rw [Scanner.currentDetour, hdetour]
      exact if_pos (currentDetour_offset s)
    have hchanges := congrArg Detour.changes hcurrent
    rw [nextDetour] at hchanges
    simp only at hchanges
    omega

theorem Change.currentDetour (h : Change t s r) :
    (r.withDetour (some s.nextDetour)).currentDetour = s.nextDetour := by
  have hoffset : s.nextDetour.offset = r.offset := by
    rw [nextDetour, currentDetour_offset, h.same.2.2.1]
  rw [Scanner.currentDetour]
  exact if_pos hoffset

theorem Changes.afterSteps_eq (h : Changes t s tops s') (detour : Option Detour)
    (hpending : s.pending = []) (hrest : s.rest ≠ [])
    (hroom : (s.withDetour detour).currentDetour.changes + tops.length ≤ t.states.length) :
    ∃ detour', afterSteps t tops.length (s.withDetour detour) = s'.withDetour detour' ∧
      ∀ count result, Returns t (s'.withDetour detour') count result →
        Returns t (s.withDetour detour) (tops.length + count) result := by
  induction h generalizing detour with
  | nil => exact ⟨detour, rfl, fun count result hreturns => by rwa [List.length_nil, Nat.zero_add]⟩
  | @cons s r s' tops hchange hs ih =>
    obtain ⟨-, hrest', -, hpending'⟩ := hchange.same
    rw [List.length_cons] at hroom ⊢
    have hchange' := hchange.withDetour detour
    have hstep := hchange'.step_eq (by omega)
    have hroom' : ((r.withDetour (some (s.withDetour detour).nextDetour)).currentDetour.changes
        + tops.length ≤ t.states.length) := by
      rw [show r.withDetour (some (s.withDetour detour).nextDetour)
        = (r.withDetour detour).withDetour (some (s.withDetour detour).nextDetour) from rfl,
        hchange'.currentDetour, nextDetour]
      simp only
      omega
    obtain ⟨detour', hafter, hreturns⟩ := ih (some (s.withDetour detour).nextDetour)
      (hpending'.trans hpending) (by rwa [hrest']) hroom'
    refine ⟨detour', ?_, fun count result hresult => ?_⟩
    · rw [afterSteps, hstep]
      exact hafter
    · rw [Nat.add_right_comm]
      refine .step hpending hrest ?_
      rw [hstep]
      exact hreturns count result hresult

theorem changes_of_offset_eq (count : Nat) (hrest : s.rest ≠ [])
    (hoffset : (afterSteps t count s).offset = s.offset) :
    ∃ tops s' detour, Changes t s tops s' ∧ tops.length = count ∧
      afterSteps t count s = s'.withDetour detour ∧
      (s'.withDetour detour).currentDetour.changes = s.currentDetour.changes + count := by
  induction count generalizing s with
  | zero => exact ⟨[], s, s.detour, .nil, rfl, rfl, rfl⟩
  | succ count ih =>
    rw [afterSteps] at hoffset ⊢
    have hle := step_offset_le t s
    have hle' := afterSteps_offset_le t count (step t s)
    obtain ⟨hroom, r, hchange⟩ := change_of_offset_eq (t := t) hrest (by omega)
    obtain ⟨-, hrest', hoffset', -⟩ := hchange.same
    rw [hchange.step_eq hroom] at hoffset ⊢
    obtain ⟨tops, s', detour, hchanges, hlength, hafter, hcount⟩ :=
      ih (s := r.withDetour (some s.nextDetour)) (by rwa [← hrest'] at hrest)
        (hoffset.trans hoffset'.symm)
    refine ⟨s.stack.top :: tops, s'.withDetour r.detour, detour, ?_, congrArg (· + 1) hlength, hafter, ?_⟩
    · exact .cons hchange (hchanges.withDetour r.detour)
    · refine hcount.trans ?_
      rw [hchange.currentDetour, nextDetour]
      simp only
      omega

/-- Where no change has been counted, a circle is broken exactly if there would be more changes of state
than there are states. -/
theorem fires_iff_changes (hpending : s.pending = []) (hrest : s.rest ≠ [])
    (hfresh : s.currentDetour.changes = 0) :
    Fires t s ↔ ∃ tops s', Changes t s tops s' ∧ t.states.length < tops.length := by
  constructor
  · rintro ⟨count, hoffset, hbreaks⟩
    -- the change in whose place the circle is broken would be one more than those counted
    obtain ⟨tops, s', detour, hchanges, hlength, hafter, hcount⟩ := changes_of_offset_eq count hrest hoffset
    rw [hafter] at hbreaks
    obtain ⟨r, hchange, hfull⟩ := hbreaks.change
    refine ⟨_, _, hchanges.concat (hchange.withDetour s'.detour), ?_⟩
    rw [List.length_append, List.length_singleton]
    omega
  · rintro ⟨tops, s', hchanges, hmany⟩
    -- after as many changes as there are states, the detour has no room for the next one
    obtain ⟨r, htake⟩ := hchanges.take (Nat.le_of_lt hmany)
    have hlength : (tops.take t.states.length).length = t.states.length := by
      rw [List.length_take]
      omega
    obtain ⟨r', hchange⟩ := htake.change_of_lt hchanges (by omega)
    obtain ⟨detour, hafter, -⟩ := htake.afterSteps_eq s.detour hpending hrest (by
      rw [show s.withDetour s.detour = s from rfl, hfresh, hlength]
      omega)
    rw [hlength] at hafter
    have hoffset : (afterSteps t t.states.length s).offset = s.offset := by
      rw [show s = s.withDetour s.detour from rfl, hafter]
      exact htake.same.2.2.1
    obtain ⟨_, s'', detour', -, -, hafter', hcount⟩ := changes_of_offset_eq _ hrest hoffset
    refine ⟨t.states.length, hoffset, ?_⟩
    rw [show afterSteps t t.states.length s = r.withDetour detour from hafter] at hafter' ⊢
    refine (hchange.withDetour detour).breaksCircle ?_
    rw [hafter', hcount]
    omega

end

/-! ## Where `next` begins -/

/-- The scanner after so many calls of `next`. -/
def afterCalls (t : Table) : Nat → Scanner → Scanner
  | 0, s => s
  | count + 1, s => afterCalls t count (s.next t).2

section
variable {t : Table} {s : Scanner}

/-- The record of a detour is of an offset already left. -/
def Stale (s : Scanner) : Prop := ∀ d, s.detour = some d → d.offset < s.offset

theorem Returns.stale {count : Nat} {result : Option Token × Scanner} (h : Returns t s count result)
    (hdetour : ∀ d, s.detour = some d → d.offset ≤ s.offset)
    (hstale : s.Stale ∨ (s.pending = [] ∧ s.rest ≠ [])) : result.2.Stale := by
  induction h with
  | token hpending =>
    exact hstale.resolve_right fun h => by rw [hpending] at h; cases h.1
  | done _ hrest => exact hstale.resolve_right fun h => h.2 hrest
  | @step s count result hpending hrest _ ih =>
    rcases step_progress t hrest with ⟨-, hlt, hsame⟩ | ⟨hpending', hrest', hoffset, -, hnext⟩
    · have hleft : (Scanner.step t s).Stale := by
        intro d hd
        rcases hsame with hsame | hnone
        · rw [hsame] at hd
          exact Nat.lt_of_le_of_lt (hdetour d hd) hlt
        · rw [hnone] at hd
          cases hd
      exact ih (fun d hd => Nat.le_of_lt (hleft d hd)) (.inl hleft)
    · refine ih (fun d hd => ?_) (.inr ⟨hpending'.trans hpending, by rwa [hrest']⟩)
      rw [hnext] at hd
      cases hd
      exact Nat.le_of_eq ((currentDetour_offset s).trans hoffset.symm)

theorem Stale.afterCalls (h : s.Stale) (t : Table) (count : Nat) : (afterCalls t count s).Stale := by
  induction count generalizing s with
  | zero => exact h
  | succ count ih =>
    obtain ⟨_, _, hreturns⟩ := returns_next t s
    exact ih (hreturns.stale (fun d hd => Nat.le_of_lt (h d hd)) (.inl h))

theorem Run.afterCalls {input : String} {past : List Scanner} (h : Run t input (s :: past)) (count : Nat) :
    ∃ past', Run t input (afterCalls t count s :: past') := by
  induction count generalizing s past with
  | zero => exact ⟨past, h⟩
  | succ count ih =>
    obtain ⟨_, _, hreturns⟩ := returns_next t s
    obtain ⟨past', hrun⟩ := Run.returns hreturns h
    exact ih hrun

theorem Applies.returns {s' : Scanner} {e : Entry} {pattern : Pattern} {opener : Option Opener}
    {emission : Emission} (h : Applies t (t.entries s.stack.top) s e s')
    (haction : e.action = .scan pattern opener emission) (hpending : s.pending = [])
    (hrest : s.rest ≠ []) : ∃ m token pending result, pattern.match? s.before.head? s.rest = some m ∧
      Token.ofPieces s.offset (cut m emission) s.rest = token :: pending ∧
      Returns t s 1 (some token, result) ∧ result.pending = pending ∧ result.stack = s.stack ∧
      result.offset = byteAfter s.offset s.rest m.length := by
  have hpass := h.passes
  obtain ⟨m, hmatch, hpos, hused⟩ := used_scan h.tryEntries haction
  have hlength := pieceLength_cut hmatch emission
  obtain ⟨p, ps, hps⟩ := List.exists_cons_of_ne_nil (cut_ne_nil hmatch hpos emission)
  have hstep : Scanner.step t s = s'.takeAll (cut m emission) := hused
  rw [takeAll_eq, hlength, hpass.rest, hpass.offset, hpass.pending, hpending, List.nil_append] at hstep
  rw [hpass.before, hpass.rest] at hmatch
  refine ⟨m, _, _, { Scanner.step t s with pending := _ }, hmatch, by rw [hps, Token.ofPieces],
    .step hpending hrest (.token ?_), rfl, ?_, ?_⟩
  · rw [hstep, hps, Token.ofPieces]
  · rw [hstep]
    exact hpass.stack
  · rw [hstep]
    rfl

/-- **The guard stops only what makes many changes of state.** Take any table that was built, and a scanner
that has handed out all tokens up to an offset before the end. If without the guard there would be no more
changes of state there than the table has states before a rule takes a match, then no circle is broken at
that offset and the tokens of the match are next. A circle is broken there exactly if there would be more
changes of state than states; if no state is current twice, there are not. -/
theorem guard_spares {specs : List StateSpec} {t : Table} (hbuild : Table.build specs = .ok t)
    (input : String) (count : Nat) (hpending : (afterCalls t count (start t input)).pending = [])
    (hrest : (afterCalls t count (start t input)).rest ≠ []) :
    let s := afterCalls t count (start t input)
    (∀ tops s' e s'' pattern opener emission, Changes t s tops s' →
      tops.length ≤ t.states.length → Applies t (t.entries s'.stack.top) s' e s'' →
      e.action = .scan pattern opener emission →
      ¬ Fires t s ∧ ∃ m token pending, pattern.match? s.before.head? s.rest = some m ∧
        Token.ofPieces s.offset (cut m emission) s.rest = token :: pending ∧
        (s.next t).1 = some token ∧ (s.next t).2.pending = pending ∧
        (s.next t).2.stack = s'.stack ∧ (s.next t).2.offset = byteAfter s.offset s.rest m.length) ∧
      (Fires t s ↔ ∃ tops s', Changes t s tops s' ∧ t.states.length < tops.length) ∧
      ∀ tops s', Changes t s tops s' → tops.Nodup → tops.length ≤ t.states.length := by
  intro s
  have hsound := Table.sound_of_build hbuild
  obtain ⟨past, hrun⟩ : ∃ past, Run t input (s :: past) := Run.afterCalls Run.start count
  have hstale : s.Stale :=
    Stale.afterCalls (s := start t input) (fun d hd => nomatch hd) t count
  have hfresh : s.currentDetour.changes = 0 := by rw [currentDetour_of_lt hstale]
  have hiff := fires_iff_changes (t := t) hpending hrest hfresh
  refine ⟨fun tops s' e s'' pattern opener emission hchanges hfew happlies haction => ?_, hiff,
    fun tops s' hchanges => hchanges.length_le hsound (.run hsound hrun)⟩
  refine ⟨fun hfires => ?_, ?_⟩
  · -- more changes would go on from where the rule takes a match
    obtain ⟨tops', s₂, hchanges', hmany⟩ := hiff.mp hfires
    obtain ⟨r, hchange⟩ := hchanges.change_of_lt hchanges' (by omega)
    exact happlies.not_change haction hchange
  · obtain ⟨hbefore, hrest', hoffset, hpending'⟩ := hchanges.same
    obtain ⟨detour, -, hreturns⟩ := hchanges.afterSteps_eq s.detour hpending hrest (by
      rw [show s.withDetour s.detour = s from rfl, hfresh, Nat.zero_add]
      exact hfew)
    obtain ⟨m, token, pending, result, hmatch, htokens, hreturns', hresult, hstack, hend⟩ :=
      Applies.returns (s := s'.withDetour detour) (happlies.withDetour detour) haction
        (hpending'.trans hpending) (by rwa [← hrest'] at hrest)
    obtain ⟨_, _, hnext⟩ := returns_next t s
    obtain ⟨-, heq⟩ := (hreturns _ _ hreturns').unique hnext
    rw [show (s'.withDetour detour).rest = s.rest from hrest'] at hmatch htokens hend
    rw [show (s'.withDetour detour).offset = s.offset from hoffset] at htokens hend
    rw [show (s'.withDetour detour).before = s.before from hbefore] at hmatch
    refine ⟨m, token, pending, hmatch, htokens, ?_⟩
    rw [heq]
    exact ⟨rfl, hresult, hstack, hend⟩

end

/-- Two states that enter each other between letters, and are left one after another behind a z. -/
def unwindSpecs : List StateSpec := [
  ⟨"root", [.token "c" .name, .push "p"]⟩,
  ⟨"p", [Rule.pop.after ["z"], .token "a|z" .text, .push "q"]⟩,
  ⟨"q", [Rule.pop.after ["z"], .token "b|z" .text, .push "p"]⟩]

/-- What `unwindSpecs` is built into. -/
def unwindTable : Table :=
  let letters (c d : Char) : Pattern.Node := .alt (.one (.single c)) (.one (.single d))
  let leave : Entry := ⟨⟨some ["z"], []⟩, .pop⟩
  ⟨[⟨"root", [⟨{}, .scan (.ofNode (.one (.single 'c'))) none (.whole .name)⟩, ⟨{}, .push 1⟩]⟩,
    ⟨"p", [leave, ⟨{}, .scan (.ofNode (letters 'a' 'z')) none (.whole .text)⟩, ⟨{}, .push 2⟩]⟩,
    ⟨"q", [leave, ⟨{}, .scan (.ofNode (letters 'b' 'z')) none (.whole .text)⟩, ⟨{}, .push 1⟩]⟩], 0⟩

deriving instance DecidableEq for Scanner

/-- A scanner behind the z with the given states. -/
def unwinding (before : List Char) (detour : Detour) (stack : StateStack) : Scanner :=
  ⟨before, ['c'], before.length, stack, [], some detour, [], []⟩

/-- Two states are left, and there are three: the letter behind is taken. -/
theorem guard_spares_unwindTable :
    let s := afterCalls unwindTable 3 (start unwindTable "abzc")
    Table.build unwindSpecs = .ok unwindTable ∧ s.pending = [] ∧ s.rest = ['c'] ∧
      ¬ Fires unwindTable s ∧ (s.next unwindTable).1 = some ⟨.name, "c", 3⟩ := by
  intro s
  have hbuild : Table.build unwindSpecs = .ok unwindTable := rfl
  let at_ := unwinding ['z', 'b', 'a'] ⟨1, ⟨1, [0]⟩, 1⟩
  have hs : s = at_ ⟨2, [1, 0]⟩ := by decide +kernel
  have hchanges : Changes unwindTable s [2, 1] (at_ ⟨0, []⟩) := by
    rw [hs]
    exact .cons (.pop (.here rfl) rfl) (.cons (.pop (.here rfl) rfl) .nil)
  have happlies : Applies unwindTable (unwindTable.entries 0) (at_ ⟨0, []⟩)
      ⟨{}, .scan (.ofNode (.one (.single 'c'))) none (.whole .name)⟩ (at_ ⟨0, []⟩) := .here rfl
  have hpending : s.pending = [] := by rw [hs]; rfl
  have hrest : s.rest = ['c'] := by rw [hs]; rfl
  obtain ⟨hfires, -⟩ :=
    (guard_spares hbuild "abzc" 3 hpending (by rw [hrest]; exact List.cons_ne_nil _ _)).1
      _ _ _ _ _ _ _ hchanges (by decide) happlies rfl
  refine ⟨hbuild, hpending, hrest, hfires, ?_⟩
  decide +kernel

/-- Four states are left and there are three, so that a circle is broken although the states are left in
the end and the letter behind would be taken. -/
theorem guard_spares_unwound :
    let s := afterCalls unwindTable 5 (start unwindTable "ababzc")
    Table.build unwindSpecs = .ok unwindTable ∧ s.pending = [] ∧ s.rest = ['c'] ∧
      (∃ tops s' e s'' pattern opener emission, Changes unwindTable s tops s' ∧ tops.length = 4 ∧
        Applies unwindTable (unwindTable.entries s'.stack.top) s' e s'' ∧
        e.action = .scan pattern opener emission) ∧
      Fires unwindTable s ∧
      unwindTable.tokenize "ababzc" = [⟨.text, "a", 0⟩, ⟨.text, "b", 1⟩, ⟨.text, "a", 2⟩,
        ⟨.text, "b", 3⟩, ⟨.text, "z", 4⟩, ⟨.error, "c", 5⟩] := by
  intro s
  let at_ := unwinding ['z', 'b', 'a', 'b', 'a'] ⟨3, ⟨1, [2, 1, 0]⟩, 1⟩
  have hs : s = at_ ⟨2, [1, 2, 1, 0]⟩ := by decide +kernel
  have hchanges : Changes unwindTable s [2, 1, 2, 1] (at_ ⟨0, []⟩) := by
    rw [hs]
    exact .cons (.pop (.here rfl) rfl) (.cons (.pop (.here rfl) rfl)
      (.cons (.pop (.here rfl) rfl) (.cons (.pop (.here rfl) rfl) .nil)))
  have happlies : Applies unwindTable (unwindTable.entries 0) (at_ ⟨0, []⟩)
      ⟨{}, .scan (.ofNode (.one (.single 'c'))) none (.whole .name)⟩ (at_ ⟨0, []⟩) := .here rfl
  have hpending : s.pending = [] := by rw [hs]; rfl
  have hrest : s.rest = ['c'] := by rw [hs]; rfl
  have hfresh : s.currentDetour.changes = 0 := by rw [hs]; rfl
  have hfires : Fires unwindTable s :=
    (fires_iff_changes hpending (by rw [hrest]; exact List.cons_ne_nil _ _) hfresh).mpr
      ⟨_, _, hchanges, by decide⟩
  exact ⟨rfl, hpending, hrest, ⟨_, _, _, _, _, _, _, hchanges, rfl, happlies, rfl⟩, hfires,
    by decide +kernel⟩

end TableLexer.Scanner
