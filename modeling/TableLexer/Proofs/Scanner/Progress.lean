import TableLexer.Proofs.Scanner.Step

/-!
# A scanner always gets on

`next_bounded_restoring`: in every state that a run comes to, the loop of `next` ends after at most
one step more than the table has states, and whenever the guard against circles of states breaks one
up, the stack is what it was when the scanner first came to the offset, and one error token with the
first grapheme waits.

Proof. A step that makes no token is a change of state at the same offset, and the detour at that
offset counts it (`Effect.progress`); the count stays within the number of states, which bounds the
loop (`returns_nextWithin`). The detour at the current offset (`currentDetour`, which passes over a
record of an earlier offset) holds the stack of the first arrival there: a change of state keeps it,
and everything else moves on to an offset where no one has been (`Run.tracks`).
-/

namespace TableLexer.Scanner

/-! ## The loop of `next` -/

/-- The loop that finds a token, with the number of steps it takes: it ends when a token waits or
the input does, and makes a step otherwise. -/
inductive Returns (t : Table) : Scanner → Nat → Option Token × Scanner → Prop
  | token {s : Scanner} {token : Token} {pending : List Token}
      (hpending : s.pending = token :: pending) : Returns t s 0 (some token, { s with pending })
  | done {s : Scanner} (hpending : s.pending = []) (hrest : s.rest = []) : Returns t s 0 (none, s)
  | step {s : Scanner} {count : Nat} {result : Option Token × Scanner} (hpending : s.pending = [])
      (hrest : s.rest ≠ []) (hreturns : Returns t (step t s) count result) :
      Returns t s (count + 1) result

theorem Returns.unique {t : Table} {s : Scanner} {count count' : Nat}
    {result result' : Option Token × Scanner} (h : Returns t s count result)
    (h' : Returns t s count' result') : count' = count ∧ result' = result := by
  induction h generalizing count' with
  | token hpending =>
    cases h' with
    | token hpending' =>
      rw [hpending] at hpending'
      cases hpending'
      exact ⟨rfl, rfl⟩
    | done hpending' => rw [hpending] at hpending'; cases hpending'
    | step hpending' => rw [hpending] at hpending'; cases hpending'
  | done hpending hrest =>
    cases h' with
    | token hpending' => rw [hpending] at hpending'; cases hpending'
    | done => exact ⟨rfl, rfl⟩
    | step _ hrest' => exact absurd hrest hrest'
  | step hpending hrest _ ih =>
    cases h' with
    | token hpending' => rw [hpending] at hpending'; cases hpending'
    | done _ hrest' => exact absurd hrest' hrest
    | step _ _ hreturns =>
      obtain ⟨rfl, rfl⟩ := ih hreturns
      exact ⟨rfl, rfl⟩

/-! ## One step -/

theorem take_offset_lt (s : Scanner) (kind : Kind) {count : Nat} (hcount : 0 < count)
    (hrest : s.rest ≠ []) : s.offset < (s.take kind count).offset := by
  obtain ⟨c, cs, hcs⟩ : ∃ c cs, s.rest.take count = c :: cs := by
    cases hrest' : s.rest with
    | nil => exact absurd hrest' hrest
    | cons c cs =>
      obtain ⟨n, rfl⟩ : ∃ n, count = n + 1 := ⟨count - 1, by omega⟩
      exact ⟨c, cs.take n, rfl⟩
  simp only [take, hcs, byteLength_cons]
  have := c.utf8Size_pos
  omega

theorem takeAll_offset_le (s : Scanner) (pieces : List (Kind × Nat)) :
    s.offset ≤ (s.takeAll pieces).offset := by
  induction pieces generalizing s with
  | nil => exact Nat.le_refl _
  | cons piece pieces ih => exact Nat.le_trans (Nat.le_add_right _ _) (ih (s.take piece.1 piece.2))

theorem takeAll_detour (s : Scanner) (pieces : List (Kind × Nat)) :
    (s.takeAll pieces).detour = s.detour := by
  induction pieces generalizing s with
  | nil => rfl
  | cons piece pieces ih => exact ih (s.take piece.1 piece.2)

theorem takeAll_pending_ne_nil (s : Scanner) {pieces : List (Kind × Nat)}
    (h : pieces ≠ [] ∨ s.pending ≠ []) : (s.takeAll pieces).pending ≠ [] := by
  induction pieces generalizing s with
  | nil => exact h.resolve_left fun h => h rfl
  | cons piece pieces ih => exact ih _ (.inr (by simp [take]))

/-- A detour record that is of an offset already left does not count. -/
theorem currentDetour_of_lt {s : Scanner} (h : ∀ d, s.detour = some d → d.offset < s.offset) :
    s.currentDetour = ⟨s.offset, s.stack, 0⟩ := by
  rw [currentDetour]
  split
  · next d hd => rw [if_neg (Nat.ne_of_lt (h d hd))]
  · rfl

theorem currentDetour_offset (s : Scanner) : s.currentDetour.offset = s.offset := by
  rw [currentDetour]
  split
  · split
    · assumption
    · rfl
  · rfl

theorem Passes.currentDetour {s s' : Scanner} (h : Passes s s') :
    s'.currentDetour = s.currentDetour := by
  simp only [Scanner.currentDetour, h.detour, h.offset, h.stack]

theorem change_of_le {s : Scanner} {t : Table} (move : StateStack → StateStack)
    (h : s.currentDetour.changes < t.states.length) :
    s.change t move = { s with
      stack := move s.stack
      detour := some { s.currentDetour with changes := s.currentDetour.changes + 1 } } := by
  simp only [change]
  rw [if_neg (by omega)]

theorem change_of_lt {s : Scanner} {t : Table} (move : StateStack → StateStack)
    (h : t.states.length ≤ s.currentDetour.changes) :
    s.change t move = takeError { s with
      stack := s.currentDetour.arrival, detour := none, log := .circle s.offset :: s.log } := by
  simp only [change]
  rw [if_pos (by omega)]

/-- Once rules have been passed over, a step makes a token further on, or it is one more change of
state at the same offset, within the number of states. -/
theorem Effect.progress {t : Table} {es : List Entry} {s s' : Scanner} (h : Effect t es s s')
    (hrest : s.rest ≠ []) :
    (s'.pending ≠ [] ∧ s.offset < s'.offset ∧ (s'.detour = s.detour ∨ s'.detour = none)) ∨
      (s'.pending = s.pending ∧ s'.rest = s.rest ∧ s'.offset = s.offset ∧
        s.currentDetour.changes < t.states.length ∧
        s'.detour = some { s.currentDetour with changes := s.currentDetour.changes + 1 }) := by
  have hchange (move : StateStack → StateStack) :
      ((s.change t move).pending ≠ [] ∧ s.offset < (s.change t move).offset ∧
          ((s.change t move).detour = s.detour ∨ (s.change t move).detour = none)) ∨
        ((s.change t move).pending = s.pending ∧ (s.change t move).rest = s.rest ∧
          (s.change t move).offset = s.offset ∧ s.currentDetour.changes < t.states.length ∧
          (s.change t move).detour =
            some { s.currentDetour with changes := s.currentDetour.changes + 1 }) := by
    by_cases hchanges : s.currentDetour.changes < t.states.length
    · rw [change_of_le move hchanges]
      exact .inr ⟨rfl, rfl, rfl, hchanges, rfl⟩
    · rw [change_of_lt move (by omega)]
      refine .inl ⟨by simp [takeError, take], ?_, .inr rfl⟩
      exact take_offset_lt { s with stack := _, detour := _, log := _ } .error
        (Unicode.Grapheme.firstLength_pos hrest) hrest
  cases h with
  | error =>
    exact .inl ⟨by simp [takeError, take],
      take_offset_lt s .error (Unicode.Grapheme.firstLength_pos hrest) hrest, .inl rfl⟩
  | push he hallows haction => exact hchange _
  | pop he hallows haction => exact hchange _
  | @scan e pattern opener emission m he hallows haction hmatch hpos =>
    have hne := cut_ne_nil hmatch hpos emission
    refine .inl ⟨takeAll_pending_ne_nil s (.inl hne), ?_, .inl (takeAll_detour s _)⟩
    cases hcut : cut m emission with
    | nil => exact absurd hcut hne
    | cons piece pieces =>
      have hpiece := cut_pos hpos emission piece (by rw [hcut]; exact List.mem_cons_self)
      exact Nat.lt_of_lt_of_le (take_offset_lt s piece.1 hpiece hrest) (takeAll_offset_le _ pieces)

theorem step_progress (t : Table) {s : Scanner} (hrest : s.rest ≠ []) :
    ((step t s).pending ≠ [] ∧ s.offset < (step t s).offset ∧
        ((step t s).detour = s.detour ∨ (step t s).detour = none)) ∨
      ((step t s).pending = s.pending ∧ (step t s).rest = s.rest ∧ (step t s).offset = s.offset ∧
        s.currentDetour.changes < t.states.length ∧
        (step t s).detour = some { s.currentDetour with changes := s.currentDetour.changes + 1 }) := by
  obtain ⟨s', hpass, heffect⟩ := step_effect t s
  have h := heffect.progress (by rwa [hpass.rest])
  rwa [hpass.offset, hpass.detour, hpass.pending, hpass.rest, hpass.currentDetour] at h

/-! ## The bound -/

theorem nextWithin_of_pending (t : Table) (steps : Nat) {s : Scanner} {token : Token}
    {pending : List Token} (hpending : s.pending = token :: pending) :
    nextWithin t steps s = (some token, { s with pending }) := by
  rw [nextWithin.eq_def]
  simp only [hpending]

theorem nextWithin_of_done (t : Table) (steps : Nat) {s : Scanner} (hpending : s.pending = [])
    (hrest : s.rest = []) : nextWithin t steps s = (none, s) := by
  rw [nextWithin.eq_def]
  simp only [hpending, hrest]

theorem nextWithin_succ (t : Table) (steps : Nat) {s : Scanner} (hpending : s.pending = [])
    (hrest : s.rest ≠ []) : nextWithin t (steps + 1) s = nextWithin t steps (step t s) := by
  rw [nextWithin.eq_def]
  simp only [hpending]

theorem returns_nextWithin (t : Table) (steps : Nat) (s : Scanner) (hpos : 0 < steps)
    (hsteps : t.states.length + 1 ≤ steps + s.currentDetour.changes) :
    ∃ count ≤ steps, Returns t s count (nextWithin t steps s) := by
  induction steps generalizing s with
  | zero => omega
  | succ steps ih =>
    by_cases hpending : s.pending = []
    · by_cases hrest : s.rest = []
      · rw [nextWithin_of_done t _ hpending hrest]
        exact ⟨0, Nat.zero_le _, .done hpending hrest⟩
      · rw [nextWithin_succ t steps hpending hrest]
        suffices hnext : ∃ count ≤ steps, Returns t (step t s) count (nextWithin t steps (step t s)) by
          obtain ⟨count, hcount, hreturns⟩ := hnext
          exact ⟨count + 1, by omega, .step hpending hrest hreturns⟩
        rcases step_progress t hrest with ⟨htoken, -, -⟩ | ⟨-, -, hoffset, hchanges, hdetour⟩
        · obtain ⟨token, pending, htoken⟩ := List.exists_cons_of_ne_nil htoken
          rw [nextWithin_of_pending t steps htoken]
          exact ⟨0, Nat.zero_le _, .token htoken⟩
        · have hcurrent : (step t s).currentDetour.changes = s.currentDetour.changes + 1 := by
            rw [currentDetour, hdetour]
            simp only
            rw [if_pos (by rw [hoffset, currentDetour_offset])]
          exact ih (step t s) (by omega) (by rw [hcurrent]; omega)
    · obtain ⟨token, pending, hpending⟩ := List.exists_cons_of_ne_nil hpending
      rw [nextWithin_of_pending t _ hpending]
      exact ⟨0, Nat.zero_le _, .token hpending⟩

theorem returns_next (t : Table) (s : Scanner) :
    ∃ count ≤ t.states.length + 1, Returns t s count (s.next t) :=
  returns_nextWithin t _ s (Nat.succ_pos _) (Nat.le_add_right _ _)

/-! ## Runs -/

/-- One move: a token that waits is handed out, or if none waits a step is made. -/
inductive Move (t : Table) : Scanner → Scanner → Prop
  | handOut {s : Scanner} {token : Token} {pending : List Token}
      (hpending : s.pending = token :: pending) : Move t s { s with pending }
  | step {s : Scanner} (hpending : s.pending = []) (hrest : s.rest ≠ []) : Move t s (step t s)

/-- The scanners that a run over an input has come to, latest first. -/
inductive Run (t : Table) (input : String) : List Scanner → Prop
  | start : Run t input [start t input]
  | move {s s' : Scanner} {past : List Scanner} (h : Run t input (s :: past))
      (hmove : Move t s s') : Run t input (s' :: s :: past)

/-- The first scanner of a run at an offset. -/
def firstAt? (offset : Nat) (run : List Scanner) : Option Scanner :=
  run.reverse.find? (·.offset == offset)

/-- The step breaks up a circle of states, and reports so. -/
def BreaksCircle (t : Table) (s : Scanner) : Prop :=
  ∃ reports, (step t s).log = .circle s.offset :: (reports ++ s.log)

theorem Run.returns {t : Table} {input : String} {s : Scanner} {past : List Scanner} {count : Nat}
    {result : Option Token × Scanner} (hreturns : Returns t s count result)
    (h : Run t input (s :: past)) : ∃ past', Run t input (result.2 :: past') := by
  induction hreturns generalizing past with
  | token hpending => exact ⟨_, h.move (.handOut hpending)⟩
  | done => exact ⟨past, h⟩
  | step hpending hrest _ ih => exact ih (h.move (.step hpending hrest))

theorem Run.invariant {t : Table} {input : String} {P : Scanner → Prop}
    (hstart : P (Scanner.start t input))
    (hmove : ∀ {s s'}, P s → Move t s s' → P s') {s : Scanner} {past : List Scanner}
    (h : Run t input (s :: past)) : P s := by
  generalize hrun : s :: past = run at h
  induction h generalizing s past with
  | start =>
    cases hrun
    exact hstart
  | move h hmove' ih =>
    cases hrun
    exact hmove (ih rfl) hmove'

theorem firstAt?_cons (offset : Nat) (s : Scanner) (past : List Scanner) :
    firstAt? offset (s :: past)
      = (firstAt? offset past).or (if s.offset = offset then some s else none) := by
  rw [firstAt?, List.reverse_cons, List.find?_append, firstAt?]
  by_cases h : s.offset = offset
  · simp [h]
  · simp [h]

theorem firstAt?_eq_none {offset : Nat} {run : List Scanner} (h : ∀ s ∈ run, s.offset < offset) :
    firstAt? offset run = none := by
  rw [firstAt?, List.find?_eq_none]
  intro s hs
  have := h s (List.mem_reverse.mp hs)
  simp only [beq_iff_eq]
  omega

/-- What a run keeps: offsets never go back, no detour is of an offset to come, and the detour at the
current offset holds the stack with which the run first came there. -/
structure Tracks (run : List Scanner) (s : Scanner) : Prop where
  offsets : ∀ r ∈ run, r.offset ≤ s.offset
  detour : ∀ d, s.detour = some d → d.offset ≤ s.offset
  arrival : ∃ first, firstAt? s.offset run = some first ∧ s.currentDetour.arrival = first.stack

theorem Tracks.of_offset_lt {run : List Scanner} {s s' : Scanner} (h : Tracks run s)
    (hoffset : s.offset < s'.offset) (hdetour : s'.detour = s.detour ∨ s'.detour = none) :
    Tracks (s' :: run) s' := by
  have hstale : ∀ d, s'.detour = some d → d.offset < s'.offset := by
    intro d hd
    rcases hdetour with hdetour | hdetour
    · rw [hdetour] at hd
      exact Nat.lt_of_le_of_lt (h.detour d hd) hoffset
    · rw [hdetour] at hd
      cases hd
  have hpast : ∀ r ∈ run, r.offset < s'.offset := fun r hr =>
    Nat.lt_of_le_of_lt (h.offsets r hr) hoffset
  refine ⟨fun r hr => ?_, fun d hd => Nat.le_of_lt (hstale d hd), s', ?_, ?_⟩
  · rcases List.mem_cons.mp hr with rfl | hr
    · exact Nat.le_refl _
    · exact Nat.le_of_lt (hpast r hr)
  · rw [firstAt?_cons, firstAt?_eq_none hpast, if_pos rfl, Option.none_or]
  · rw [currentDetour_of_lt hstale]

/-- A scanner at the same offset, with the same stack of arrival, keeps the first scanner there. -/
theorem Tracks.of_offset_eq {run : List Scanner} {s s' : Scanner} (h : Tracks run s)
    (hoffset : s'.offset = s.offset) (hdetour : ∀ d, s'.detour = some d → d.offset ≤ s.offset)
    (harrival : s'.currentDetour.arrival = s.currentDetour.arrival) : Tracks (s' :: run) s' := by
  obtain ⟨first, hfirst, hstack⟩ := h.arrival
  refine ⟨fun r hr => ?_, fun d hd => by rw [hoffset]; exact hdetour d hd, first, ?_, ?_⟩
  · rcases List.mem_cons.mp hr with rfl | hr
    · exact Nat.le_refl _
    · rw [hoffset]
      exact h.offsets r hr
  · rw [firstAt?_cons, hoffset, hfirst, Option.some_or]
  · rw [harrival, hstack]

theorem Run.tracks {t : Table} {input : String} {s : Scanner} {past : List Scanner}
    (h : Run t input (s :: past)) : Tracks (s :: past) s := by
  generalize hrun : s :: past = run at h
  induction h generalizing s past with
  | start =>
    cases hrun
    refine ⟨fun r hr => ?_, fun d hd => (nomatch hd), Scanner.start t input, rfl, rfl⟩
    obtain rfl := List.mem_singleton.mp hr
    exact Nat.le_refl _
  | @move r r' past' h hmove ih =>
    cases hrun
    have htracks := ih rfl
    cases hmove with
    | handOut hpending => exact htracks.of_offset_eq rfl htracks.detour rfl
    | step hpending hrest =>
      rcases step_progress t hrest with ⟨-, hoffset, hdetour⟩ | ⟨-, -, hoffset, -, hdetour⟩
      · exact htracks.of_offset_lt hoffset hdetour
      · refine htracks.of_offset_eq hoffset (fun d hd => ?_) ?_
        · rw [hdetour] at hd
          cases hd
          exact Nat.le_of_eq (currentDetour_offset r)
        · rw [currentDetour, hdetour]
          simp only
          rw [if_pos (by rw [hoffset, currentDetour_offset])]

/-! ## Breaking up a circle -/

theorem takeAll_log (s : Scanner) (pieces : List (Kind × Nat)) : (s.takeAll pieces).log = s.log := by
  induction pieces generalizing s with
  | nil => rfl
  | cons piece pieces ih => exact ih (s.take piece.1 piece.2)

theorem Passes.log_ne_circle {s s' : Scanner} (h : Passes s s') (offset : Nat)
    (reports : List Event) : s'.log ≠ .circle offset :: (reports ++ s.log) := by
  intro hlog
  obtain ⟨reports', hlog', hreports'⟩ := h.log
  rw [hlog', ← List.cons_append] at hlog
  obtain ⟨opener, hevent⟩ := hreports' (.circle offset) (by
    rw [List.append_cancel_right hlog]
    exact List.mem_cons_self)
  cases hevent

/-- A step that breaks up a circle goes back to the stack of the detour and makes an error. -/
theorem step_of_breaksCircle {t : Table} {s : Scanner} (h : BreaksCircle t s) :
    ∃ s', Passes s s' ∧ step t s = takeError { s' with
      stack := s.currentDetour.arrival, detour := none, log := .circle s.offset :: s'.log } := by
  obtain ⟨reports, hlog⟩ := h
  obtain ⟨s', hpass, heffect⟩ := step_effect t s
  have hchange (move : StateStack → StateStack) (hstep : step t s = s'.change t move) :
      step t s = takeError { s' with
        stack := s.currentDetour.arrival, detour := none, log := .circle s.offset :: s'.log } := by
    by_cases hchanges : s'.currentDetour.changes < t.states.length
    · rw [hstep, change_of_le move hchanges] at hlog
      exact absurd hlog (hpass.log_ne_circle _ _)
    · rw [hstep, change_of_lt move (by omega), hpass.currentDetour, hpass.offset]
  refine ⟨s', hpass, ?_⟩
  generalize hstep : step t s = after at heffect hlog
  cases heffect with
  | error => exact absurd hlog (hpass.log_ne_circle _ _)
  | push he hallows haction => rw [← hchange _ hstep, hstep]
  | pop he hallows haction => rw [← hchange _ hstep, hstep]
  | scan he hallows haction hmatch hpos =>
    rw [takeAll_log] at hlog
    exact absurd hlog (hpass.log_ne_circle _ _)

/-- **A scanner always gets on.** In every state of a run `next` ends after at most one step more
than there are states; and a step that breaks up a circle brings back the stack with which the run
first came to the offset, and makes one error token of the next grapheme. -/
theorem next_bounded_restoring (t : Table) (input : String) (s : Scanner) (past : List Scanner)
    (hrun : Run t input (s :: past)) :
    (∃ count ≤ t.states.length + 1, Returns t s count (s.next t)) ∧
      (∃ past', Run t input ((s.next t).2 :: past')) ∧
      (s.pending = [] → s.rest ≠ [] → BreaksCircle t s →
        let grapheme := s.rest.take (Unicode.Grapheme.firstLength s.rest)
        ∃ first, firstAt? s.offset (s :: past) = some first ∧ (step t s).stack = first.stack ∧
          (step t s).pending = [⟨.error, .ofList grapheme, s.offset⟩] ∧
          (step t s).offset = s.offset + byteLength grapheme ∧
          grapheme ++ (step t s).rest = s.rest) := by
  obtain ⟨count, hcount, hreturns⟩ := returns_next t s
  refine ⟨⟨count, hcount, hreturns⟩, hrun.returns hreturns, fun hpending hrest hcircle => ?_⟩
  obtain ⟨s', hpass, hstep⟩ := step_of_breaksCircle hcircle
  obtain ⟨first, hfirst, hstack⟩ := hrun.tracks.arrival
  refine ⟨first, hfirst, ?_, ?_, ?_, ?_⟩
  · rw [hstep, ← hstack]
    rfl
  · rw [hstep]
    simp only [takeError, take, hpass.pending, hpass.rest, hpass.offset, hpending, List.nil_append]
  · rw [hstep]
    simp only [takeError, take, hpass.rest, hpass.offset]
  · rw [hstep]
    simp only [takeError, take, hpass.rest]
    exact List.take_append_drop _ _

/-- A table whose only state enters itself. -/
def endlessTable : Table := ⟨[⟨rootName, [⟨{}, .push 0⟩]⟩], 0⟩

/-- The second step at the start of a text breaks up the circle. -/
theorem next_bounded_restoring_endlessTable :
    let s := step endlessTable (start endlessTable "a")
    Run endlessTable "a" [s, start endlessTable "a"] ∧ BreaksCircle endlessTable s ∧
      (∃ count ≤ 2, Returns endlessTable s count (s.next endlessTable)) ∧
      ∃ first, firstAt? 0 [s, start endlessTable "a"] = some first ∧
        (step endlessTable s).stack = first.stack ∧
        (step endlessTable s).pending = [⟨.error, "a", 0⟩] := by
  have hrun : Run endlessTable "a"
      [step endlessTable (start endlessTable "a"), start endlessTable "a"] :=
    .move .start (.step rfl (by decide))
  have hcircle : BreaksCircle endlessTable (step endlessTable (start endlessTable "a")) :=
    ⟨[], rfl⟩
  obtain ⟨hbound, -, hrestore⟩ := next_bounded_restoring endlessTable "a" _ _ hrun
  obtain ⟨first, hfirst, hstack, hpending, -⟩ := hrestore rfl (by decide) hcircle
  exact ⟨hrun, hcircle, hbound, first, hfirst, hstack, hpending⟩

end TableLexer.Scanner
