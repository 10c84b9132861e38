import Mathlib.Data.List.Nodup
import TableLexer.Proofs.Scanner.Completion
import TableLexer.Proofs.Scanner.Retirement

/-!
# What the log says

`log_of_scan`: when an input has been scanned to its end, the log has at most one report of a literal without a closer
for each rule for literals, and at most one report of a circle for each offset, in the order of their offsets. Where a
rule is reported its opener stands, and from there on it makes no token. Where a circle is reported an error token
begins.

Proof. The rules that failed are kept beside the log, one for each report (`Ledger`). What a step adds to them is said
once (`step_reports`): rules that had not been retired and whose opener stands at the offset, and then perhaps a
circle, which is left behind at once. The retired rules are those that failed, and a retired rule is never used
(`Applies.not_retired`), so no rule fails twice, and the tokens of a rule that failed were made in earlier steps, which
all ended at or before the offset (`Run.step_offset_le`).
-/

namespace TableLexer

/-! ## Reports -/

/-- The offset that an event names. -/
def Event.offset? : Event → Option Nat
  | built _ _ => none
  | noCloser _ offset => some offset
  | circle offset => some offset

/-- Whether an event reports a literal without a closer. -/
def Event.isNoCloser : Event → Bool
  | noCloser _ _ => true
  | _ => false

/-- A rule for literals that took nothing although its opener stood at an offset. -/
structure Failure where
  rule : Entry
  opener : Opener
  offset : Nat

/-- The report of a failure. -/
def Failure.event (f : Failure) : Event := .noCloser f.opener.text f.offset

@[simp] theorem filter_isNoCloser_failures (fs : List Failure) :
    (fs.map Failure.event).filter Event.isNoCloser = fs.map Failure.event := by
  rw [List.filter_eq_self]
  intro event hevent
  obtain ⟨f, -, rfl⟩ := List.mem_map.mp hevent
  rfl

@[simp] theorem filterMap_offset_failures (fs : List Failure) :
    (fs.map Failure.event).filterMap Event.offset? = fs.map (·.offset) := by
  rw [List.filterMap_map, ← List.filterMap_eq_map]
  rfl

theorem circle_not_mem_failures (fs : List Failure) (offset : Nat) : .circle offset ∉ fs.map Failure.event := by
  intro hmem
  obtain ⟨f, -, hf⟩ := List.mem_map.mp hmem
  cases hf

theorem nodup_slots_append {fs fs' : List Failure} (h' : (fs'.map (·.opener.slot)).Nodup)
    (h : (fs.map (·.opener.slot)).Nodup) (hfresh : ∀ f ∈ fs', f.opener.slot ∉ fs.map (·.opener.slot)) :
    ((fs' ++ fs).map (·.opener.slot)).Nodup := by
  rw [List.map_append, List.nodup_append]
  refine ⟨h', h, ?_⟩
  rintro slot hslot _ hslot' rfl
  obtain ⟨f, hf, rfl⟩ := List.mem_map.mp hslot
  exact hfresh f hf hslot'

namespace Scanner

/-! ## Rules that fail -/

/-- While rules are tried and passed over, some of them fail, latest first: their opener stands here, they had not been
retired, and now they are retired and reported. -/
structure Fails (es : List Entry) (s s' : Scanner) (fs : List Failure) : Prop where
  log : s'.log = fs.map Failure.event ++ s.log
  retired : s'.retired = fs.map (·.opener.slot) ++ s.retired
  rule : ∀ f ∈ fs, f.rule ∈ es ∧ f.rule.opener? = some f.opener
  here : ∀ f ∈ fs, f.offset = s.offset ∧ f.opener.text.toList <+: s.rest
  fresh : ∀ f ∈ fs, f.opener.slot ∉ s.retired
  nodup : (fs.map (·.opener.slot)).Nodup

section
variable {t : Table} {es es' : List Entry} {s s' s'' : Scanner} {e : Entry} {fs fs' : List Failure}

namespace Fails

theorem none (es : List Entry) (s : Scanner) : Fails es s s [] := by
  refine ⟨rfl, rfl, ?_, ?_, ?_, .nil⟩
  all_goals
    intro f hf
    cases hf

theorem mono (h : Fails es s s' fs) (hes : ∀ e ∈ es, e ∈ es') : Fails es' s s' fs := by
  refine ⟨h.log, h.retired, ?_, h.here, h.fresh, h.nodup⟩
  intro f hf
  exact ⟨hes _ (h.rule f hf).1, (h.rule f hf).2⟩

/-- A rule that failed before has been retired since, so it does not fail again. -/
theorem trans (hpass : Passes s s') (h : Fails es s s' fs) (h' : Fails es s' s'' fs') :
    Fails es s s'' (fs' ++ fs) := by
  have hfresh {f : Failure} (hf : f ∈ fs') : f.opener.slot ∉ fs.map (·.opener.slot) ∧ f.opener.slot ∉ s.retired := by
    have hslot := h'.fresh f hf
    rw [h.retired, List.mem_append] at hslot
    exact not_or.mp hslot
  refine ⟨?_, ?_, ?_, ?_, ?_, ?_⟩
  · rw [h'.log, h.log, List.map_append, List.append_assoc]
  · rw [h'.retired, h.retired, List.map_append, List.append_assoc]
  · intro f hf
    exact (List.mem_append.mp hf).elim (h'.rule f) (h.rule f)
  · intro f hf
    rcases List.mem_append.mp hf with hf | hf
    · rw [← hpass.offset, ← hpass.rest]
      exact h'.here f hf
    · exact h.here f hf
  · intro f hf
    rcases List.mem_append.mp hf with hf | hf
    · exact (hfresh hf).2
    · exact h.fresh f hf
  · exact nodup_slots_append h'.nodup h.nodup fun f hf => (hfresh hf).1

end Fails

theorem retire_fails {guard : Guard} {pattern : Pattern} {opener : Option Opener} {emission : Emission}
    (hclose : s.mayClose opener = true) :
    ∃ fs, Fails [⟨guard, .scan pattern opener emission⟩] s (s.retire opener) fs := by
  cases opener with
  | none => exact ⟨[], .none _ s⟩
  | some o =>
    by_cases hopener : o.text.toList.isPrefixOf s.rest = true
    · refine ⟨[⟨⟨guard, .scan pattern (some o) emission⟩, o, s.offset⟩], ?_⟩
      have hslot : o.slot ∉ s.retired := by
        simpa [mayClose] using hclose
      have hprefix : o.text.toList <+: s.rest := List.isPrefixOf_iff_prefix.mp hopener
      unfold retire
      simp only [hopener, if_true]
      refine ⟨rfl, rfl, ?_, ?_, ?_, List.nodup_singleton _⟩
      all_goals
        intro f hf
        obtain rfl := List.mem_singleton.mp hf
      · exact ⟨List.mem_cons_self, rfl⟩
      · exact ⟨rfl, hprefix⟩
      · exact hslot
    · refine ⟨[], ?_⟩
      unfold retire
      simp only [hopener]
      exact .none _ s

theorem tryEntry_fails (h : s.tryEntry t e = .passed s') : ∃ fs, Fails [e] s s' fs := by
  obtain ⟨guard, action⟩ := e
  unfold tryEntry at h
  split at h
  · cases h
    exact ⟨[], .none _ s⟩
  cases action with
  | push => cases h
  | pop => cases h
  | scan pattern opener emission =>
    simp only at h
    split at h
    · cases h
      exact ⟨[], .none _ s⟩
    next hclose =>
    have hclose : s.mayClose opener = true := by simpa using hclose
    split at h
    · cases h
      exact retire_fails hclose
    split at h
    · cases h
      exact retire_fails hclose
    · cases h

theorem tryEntries_fails (t : Table) (es : List Entry) (s : Scanner) :
    ∃ s' fs, Passes s s' ∧ Fails es s s' fs ∧
      ((∃ e, Applies t es s e s') ∨ tryEntries t es s = s'.takeError) := by
  induction es generalizing s with
  | nil => exact ⟨s, [], .refl s, .none [] s, .inr rfl⟩
  | cons e es ih =>
    rcases tryEntry_cases s t e with ⟨s', htry, hpass⟩ | ⟨r, htry, -⟩
    · obtain ⟨fs, hfails⟩ := tryEntry_fails htry
      obtain ⟨s'', fs', hpass', hfails', hcases⟩ := ih s'
      refine ⟨s'', fs' ++ fs, hpass.trans hpass', ?_, ?_⟩
      · apply Fails.trans hpass
        · exact hfails.mono fun e' he' => List.mem_singleton.mp he' ▸ List.mem_cons_self
        · exact hfails'.mono fun e' he' => List.mem_cons_of_mem e he'
      · rcases hcases with ⟨e', happlies⟩ | herror
        · exact .inl ⟨e', .later htry happlies⟩
        · exact .inr (by rw [tryEntries, htry]; exact herror)
    · exact ⟨s, [], .refl s, .none _ s, .inl ⟨e, .here htry⟩⟩

/-! ## What a step reports -/

/-- A circle is reported at the offset; an error token is made there, and the scanner has moved on. -/
structure ReportsCircle (s s' : Scanner) : Prop where
  log : s'.log = .circle s.offset :: s.log
  offset_lt : s.offset < s'.offset
  error : ∃ token ∈ s'.pending, token.kind = .error ∧ token.offset = s.offset

theorem change_reports (t : Table) (move : StateStack → StateStack) (hrest : s.rest ≠ []) :
    (s.change t move).log = s.log ∨ ReportsCircle s (s.change t move) := by
  by_cases hroom : s.currentDetour.changes < t.states.length
  · rw [change_of_le move hroom]
    exact .inl rfl
  · rw [change_of_lt move (by omega)]
    refine .inr ⟨rfl, ?_, ?_⟩
    · exact take_offset_lt { s with stack := _, detour := _, log := _ } .error
        (Unicode.Grapheme.firstLength_pos hrest) hrest
    · simp [takeError, take]

/-- In a step some rules fail, and then a circle may be reported. -/
theorem step_reports (t : Table) (hrest : s.rest ≠ []) :
    ∃ s' fs, Passes s s' ∧ Fails (t.entries s.stack.top) s s' fs ∧ (step t s).retired = s'.retired ∧
      ((step t s).log = s'.log ∨ ReportsCircle s' (step t s)) := by
  obtain ⟨s', fs, hpass, hfails, hcases⟩ := tryEntries_fails t (t.entries s.stack.top) s
  have hrest' : s'.rest ≠ [] := by rwa [hpass.rest]
  refine ⟨s', fs, hpass, hfails, ?_⟩
  rcases hcases with ⟨e, happlies⟩ | herror
  · unfold step
    cases haction : e.action with
    | push state =>
      rw [used_push happlies.tryEntries haction]
      exact ⟨change_retired s' t _, change_reports t _ hrest'⟩
    | pop =>
      rw [used_pop happlies.tryEntries haction]
      exact ⟨change_retired s' t _, change_reports t _ hrest'⟩
    | scan pattern opener emission =>
      obtain ⟨m, -, -, hused⟩ := used_scan happlies.tryEntries haction
      rw [hused]
      exact ⟨takeAll_retired s' _, .inl (takeAll_log s' _)⟩
  · unfold step
    rw [herror]
    exact ⟨rfl, .inl rfl⟩

theorem Applies.not_retired {o : Opener} (h : Applies t (t.entries s.stack.top) s e s')
    (hopener : e.opener? = some o) : o.slot ∉ (step t s).retired := by
  have hused : s'.tryEntry t e = .used (step t s) := h.tryEntries
  obtain ⟨guard, action⟩ := e
  cases action with
  | push => cases hopener
  | pop => cases hopener
  | scan pattern opener emission =>
    obtain rfl : opener = some o := hopener
    obtain ⟨m, -, -, hstep⟩ := used_scan hused rfl
    rw [hstep, takeAll_retired]
    intro hslot
    have hclose : s'.mayClose (some o) = false := by simpa [mayClose] using hslot
    unfold tryEntry at hused
    split at hused
    · cases hused
    · simp [hclose] at hused

/-! ## The tokens of a rule -/

/-- A step from a scanner uses a rule and makes a token. -/
structure Makes (t : Table) (s : Scanner) (e : Entry) (token : Token) : Prop where
  pending : s.pending = []
  rest : s.rest ≠ []
  applies : ∃ s', Applies t (t.entries s.stack.top) s e s'
  token : token ∈ (step t s).pending

/-- In a run over the input, a step uses a rule and makes a token. -/
def Emits (t : Table) (input : String) (e : Entry) (token : Token) : Prop :=
  ∃ s past, Run t input (s :: past) ∧ Makes t s e token

theorem step_makes (t : Table) (hpending : s.pending = []) (hrest : s.rest ≠ []) :
    ∀ token ∈ (step t s).pending, token.kind = .error ∨ ∃ e ∈ t.allEntries, Makes t s e token := by
  intro token htoken
  rcases applies_or_error t (t.entries s.stack.top) s with ⟨e, s', happlies⟩ | ⟨s', hpass, herror⟩
  · exact .inr ⟨e, Table.mem_allEntries happlies.mem, hpending, hrest, ⟨s', happlies⟩, htoken⟩
  · have hstep : step t s = s'.takeError := herror
    rw [hstep, takeError, take, hpass.pending, hpending] at htoken
    simp only [List.nil_append, List.mem_singleton] at htoken
    exact .inl (by rw [htoken])

end

section Runs
variable {t : Table} {input : String} {s s' : Scanner} {past : List Scanner}

/-- Each token found in a run is an error, or some rule emits it. -/
theorem Run.error_or_emitted (h : Run t input (s :: past)) : ∀ token ∈ handedOut (s :: past) ++ s.pending,
    token.kind = .error ∨ ∃ e ∈ t.allEntries, Emits t input e token := by
  apply h.induct (P := fun s past => ∀ token ∈ handedOut (s :: past) ++ s.pending,
    token.kind = .error ∨ ∃ e ∈ t.allEntries, Emits t input e token)
  · intro token htoken
    cases htoken
  · intro s s' past hrun htokens hmove token htoken
    cases hmove with
    | handOut hpending =>
      apply htokens
      rw [handedOut_handOut hpending, List.append_assoc] at htoken
      rwa [hpending]
    | step hpending hrest =>
      rw [handedOut_step hpending] at htoken
      rcases List.mem_append.mp htoken with htoken | htoken
      · exact htokens token (List.mem_append_left _ htoken)
      · rcases step_makes t hpending hrest token htoken with herror | ⟨e, he, hmakes⟩
        · exact .inl herror
        · exact .inr ⟨e, he, s, past, hrun, hmakes⟩

theorem Run.offset_lt_of_makes {r : Scanner} {e : Entry} {token : Token} (h : Run t input (s :: past))
    (hr : r ∈ past) (hmakes : Makes t r e token) : token.offset < s.offset := by
  obtain ⟨past', hrun⟩ := h.exists_run r (List.mem_cons_of_mem s hr)
  have hlt := (hrun.move (.step hmakes.pending hmakes.rest)).offset_lt token hmakes.token
  have hle := h.step_offset_le hr hmakes.pending hmakes.rest
  omega

/-! ## Order and circles -/

/-- The offsets in a log never go back from the current one, each circle is of an offset that has been left and that
has no other circle, and an error token begins there. -/
structure InOrder (tokens : List Token) (s : Scanner) : Prop where
  sorted : (s.log.filterMap Event.offset?).Pairwise (· ≥ ·)
  le : ∀ offset ∈ s.log.filterMap Event.offset?, offset ≤ s.offset
  left : ∀ offset, .circle offset ∈ s.log → offset < s.offset
  once : ∀ offset, s.log.count (.circle offset) ≤ 1
  errors : ∀ offset, .circle offset ∈ s.log → ∃ token ∈ tokens, token.kind = .error ∧ token.offset = offset

namespace InOrder
variable {tokens tokens' : List Token} {es : List Entry} {fs : List Failure}

theorem mono (h : InOrder tokens s) (hlog : s'.log = s.log) (hoffset : s.offset ≤ s'.offset)
    (htokens : ∀ token ∈ tokens, token ∈ tokens') : InOrder tokens' s' := by
  refine ⟨?_, ?_, ?_, ?_, ?_⟩
  · rw [hlog]
    exact h.sorted
  · rw [hlog]
    exact fun offset hmem => Nat.le_trans (h.le offset hmem) hoffset
  · rw [hlog]
    exact fun offset hmem => Nat.lt_of_lt_of_le (h.left offset hmem) hoffset
  · rw [hlog]
    exact h.once
  · rw [hlog]
    intro offset hmem
    obtain ⟨token, htoken, herror⟩ := h.errors offset hmem
    exact ⟨token, htokens token htoken, herror⟩

theorem fails (h : InOrder tokens s) (hpass : Passes s s') (hfails : Fails es s s' fs) : InOrder tokens s' := by
  have hoffsets : ∀ offset ∈ fs.map (·.offset), offset = s.offset := by
    intro offset hmem
    obtain ⟨f, hf, rfl⟩ := List.mem_map.mp hmem
    exact (hfails.here f hf).1
  have hcircle (offset : Nat) : .circle offset ∈ s'.log → .circle offset ∈ s.log := by
    intro hmem
    rw [hfails.log, List.mem_append] at hmem
    exact hmem.resolve_left (circle_not_mem_failures fs offset)
  refine ⟨?_, ?_, ?_, ?_, ?_⟩
  · rw [hfails.log, List.filterMap_append, filterMap_offset_failures, List.pairwise_append]
    refine ⟨?_, h.sorted, ?_⟩
    · apply List.pairwise_of_forall_mem_list
      intro offset hmem offset' hmem'
      exact Nat.le_of_eq ((hoffsets offset' hmem').trans (hoffsets offset hmem).symm)
    · intro offset hmem offset' hmem'
      rw [hoffsets offset hmem]
      exact h.le offset' hmem'
  · intro offset hmem
    rw [hfails.log, List.filterMap_append, filterMap_offset_failures] at hmem
    rw [hpass.offset]
    rcases List.mem_append.mp hmem with hmem | hmem
    · exact Nat.le_of_eq (hoffsets offset hmem)
    · exact h.le offset hmem
  · intro offset hmem
    rw [hpass.offset]
    exact h.left offset (hcircle offset hmem)
  · intro offset
    rw [hfails.log, List.count_append, List.count_eq_zero.mpr (circle_not_mem_failures fs offset), Nat.zero_add]
    exact h.once offset
  · exact fun offset hmem => h.errors offset (hcircle offset hmem)

theorem circle (h : InOrder tokens s) (hcircle : ReportsCircle s s') (htokens : ∀ token ∈ tokens, token ∈ tokens')
    (hpending : ∀ token ∈ s'.pending, token ∈ tokens') : InOrder tokens' s' := by
  have hlt := hcircle.offset_lt
  -- an offset with a report of a circle has been left, so the one here has none
  have hnew : .circle s.offset ∉ s.log := fun hmem => absurd (h.left _ hmem) (Nat.lt_irrefl _)
  refine ⟨?_, ?_, ?_, ?_, ?_⟩
  · rw [hcircle.log]
    exact List.pairwise_cons.mpr ⟨h.le, h.sorted⟩
  · rw [hcircle.log]
    intro offset hmem
    rcases List.mem_cons.mp hmem with rfl | hmem
    · omega
    · have := h.le offset hmem
      omega
  · rw [hcircle.log]
    intro offset hmem
    rcases List.mem_cons.mp hmem with heq | hmem
    · cases heq
      exact hlt
    · have := h.left offset hmem
      omega
  · rw [hcircle.log]
    intro offset
    by_cases heq : offset = s.offset
    · subst heq
      have hcount := List.count_eq_zero.mpr hnew
      rw [List.count_cons_self]
      omega
    · rw [List.count_cons_of_ne (by simpa using Ne.symm heq)]
      exact h.once offset
  · rw [hcircle.log]
    intro offset hmem
    rcases List.mem_cons.mp hmem with heq | hmem
    · cases heq
      obtain ⟨token, htoken, herror⟩ := hcircle.error
      exact ⟨token, hpending token htoken, herror⟩
    · obtain ⟨token, htoken, herror⟩ := h.errors offset hmem
      exact ⟨token, htokens token htoken, herror⟩

end InOrder

theorem Run.inOrder (h : Run t input (s :: past)) : InOrder (handedOut (s :: past) ++ s.pending) s := by
  apply h.induct (P := fun s past => InOrder (handedOut (s :: past) ++ s.pending) s)
  · exact ⟨.nil, by simp [Scanner.start], by simp [Scanner.start], by simp [Scanner.start], by simp [Scanner.start]⟩
  · intro s s' past _ horder hmove
    cases hmove with
    | handOut hpending =>
      rw [handedOut_handOut hpending, List.append_assoc]
      rw [hpending] at horder
      exact InOrder.mono horder rfl (Nat.le_refl _) fun token htoken => htoken
    | step hpending hrest =>
      rw [hpending, List.append_nil] at horder
      rw [handedOut_step hpending]
      obtain ⟨r, fs, hpass, hfails, -, hcases⟩ := step_reports t hrest
      have horder' := horder.fails hpass hfails
      rcases hcases with hlog | hcircle
      · apply horder'.mono hlog
        · rw [hpass.offset]
          exact Scanner.step_offset_le t s
        · exact fun token => List.mem_append_left _
      · apply horder'.circle hcircle
        · exact fun token => List.mem_append_left _
        · exact fun token => List.mem_append_right _

/-! ## The ledger of failures -/

/-- What has failed in a run, latest first: these are the reports of literals without a closer and the retired rules.
Where a rule failed its opener stands, and all tokens that it made begin before. -/
structure Ledger (t : Table) (input : String) (s : Scanner) (past : List Scanner) (fs : List Failure) : Prop where
  log : s.log.filter Event.isNoCloser = fs.map Failure.event
  retired : s.retired = fs.map (·.opener.slot)
  nodup : (fs.map (·.opener.slot)).Nodup
  rule : ∀ f ∈ fs, f.rule ∈ t.allEntries ∧ f.rule.opener? = some f.opener
  begins : ∀ f ∈ fs, ∃ done rest, splitAtByte input.toList f.offset = some (done, rest) ∧
    f.opener.text.toList <+: rest
  silent : ∀ f ∈ fs, ∀ r ∈ past, ∀ token, Makes t r f.rule token → token.offset < f.offset

theorem Ledger.step {fs : List Failure} (h : Ledger t input s past fs) (hrun : Run t input (s :: past))
    (hpending : s.pending = []) (hrest : s.rest ≠ []) :
    ∃ fs', Ledger t input (Scanner.step t s) (s :: past) fs' := by
  obtain ⟨s', fs', hpass, hfails, hretired, hcases⟩ := step_reports t hrest
  have hslots : (Scanner.step t s).retired = (fs' ++ fs).map (·.opener.slot) := by
    rw [hretired, hfails.retired, h.retired, List.map_append]
  have hrule : ∀ f ∈ fs' ++ fs, f.rule ∈ t.allEntries ∧ f.rule.opener? = some f.opener := by
    intro f hf
    rcases List.mem_append.mp hf with hf | hf
    · exact ⟨Table.mem_allEntries (hfails.rule f hf).1, (hfails.rule f hf).2⟩
    · exact h.rule f hf
  refine ⟨fs' ++ fs, ?_, hslots, ?_, hrule, ?_, ?_⟩
  · have hlog : (Scanner.step t s).log.filter Event.isNoCloser = s'.log.filter Event.isNoCloser := by
      rcases hcases with hlog | hcircle
      · rw [hlog]
      · rw [hcircle.log]
        rfl
    rw [hlog, hfails.log, List.filter_append, filter_isNoCloser_failures, h.log, List.map_append]
  · apply nodup_slots_append hfails.nodup h.nodup
    rw [← h.retired]
    exact hfails.fresh
  · intro f hf
    rcases List.mem_append.mp hf with hf | hf
    · obtain ⟨hoffset, hopener⟩ := hfails.here f hf
      have hcovers := hrun.covers
      refine ⟨s.before.reverse, s.rest, ?_, hopener⟩
      rw [hoffset, hcovers.offset, ← hcovers.whole]
      exact splitAtByte_append _ _
    · exact h.begins f hf
  · intro f hf r hr token hmakes
    rcases List.mem_cons.mp hr with rfl | hr
    · -- the rule that is used in this step has not been retired
      obtain ⟨r', happlies⟩ := hmakes.applies
      refine absurd ?_ (happlies.not_retired (hrule f hf).2)
      rw [hslots]
      exact List.mem_map_of_mem hf
    rcases List.mem_append.mp hf with hf | hf
    · rw [(hfails.here f hf).1]
      exact hrun.offset_lt_of_makes hr hmakes
    · exact h.silent f hf r hr token hmakes

theorem Run.ledger (h : Run t input (s :: past)) : ∃ fs, Ledger t input s past fs := by
  apply h.induct (P := fun s past => ∃ fs, Ledger t input s past fs)
  · exact ⟨[], rfl, rfl, .nil, by simp, by simp, by simp⟩
  · intro s s' past hrun hledger hmove
    obtain ⟨fs, hledger⟩ := hledger
    cases hmove with
    | step hpending hrest => exact hledger.step hrun hpending hrest
    | handOut hpending =>
      refine ⟨fs, hledger.log, hledger.retired, hledger.nodup, hledger.rule, hledger.begins, ?_⟩
      intro f hf r hr token hmakes
      rcases List.mem_cons.mp hr with rfl | hr
      · have hnone := hmakes.pending
        rw [hpending] at hnone
        cases hnone
      · exact hledger.silent f hf r hr token hmakes

namespace Ledger
variable {fs : List Failure}

theorem rules_nodup (h : Ledger t input s past fs) : (fs.map (·.rule)).Nodup := by
  have hslots : (fs.map (·.rule)).map Entry.slot? = (fs.map (·.opener.slot)).map some := by
    rw [List.map_map, List.map_map]
    apply List.map_congr_left
    intro f hf
    simp only [Function.comp_apply, Entry.slot?, (h.rule f hf).2, Option.map_some]
  apply List.Nodup.of_map Entry.slot?
  rw [hslots]
  exact h.nodup.map fun _ _ => Option.some.inj

theorem length_le (h : Ledger t input s past fs) : fs.length ≤ t.literalCount := by
  have hsubset : fs.map (·.opener.slot) ⊆ t.allEntries.filterMap Entry.slot? := by
    intro slot hslot
    obtain ⟨f, hf, rfl⟩ := List.mem_map.mp hslot
    obtain ⟨hmem, hopener⟩ := h.rule f hf
    exact List.mem_filterMap.mpr ⟨f.rule, hmem, by rw [Entry.slot?, hopener, Option.map_some]⟩
  have hlength := (h.nodup.subperm hsubset).length_le
  rwa [List.length_map] at hlength

end Ledger

end Runs

/-- The failure is one of a rule of the table, at its opener, and from there on the rule emits no token. -/
structure Lasts (t : Table) (input : String) (f : Failure) : Prop where
  rule : f.rule ∈ t.allEntries
  opener : f.rule.opener? = some f.opener
  begins : ∃ done rest, splitAtByte input.toList f.offset = some (done, rest) ∧ f.opener.text.toList <+: rest
  silent : ∀ token, Emits t input f.rule token → token.offset < f.offset

/-- **The log of a scan is short and in order.** In every table and for every input, scanning goes to the end. Then the
reports of literals without a closer are one for each rule that has been retired, no two of one rule, and no more than
the table has rules for literals; each is made at an opener of its rule, which emits no token from there on. There is
one report of a circle at most for each offset, and an error token begins there. The offsets of all reports never go
back. Each token is an error or some rule emits it. -/
theorem log_of_scan (t : Table) (input : String) :
    let s := ((Scanner.start t input).drain t).2
    (s.pending = [] ∧ s.rest = []) ∧
      (∃ fs : List Failure, s.events.filter Event.isNoCloser = fs.map Failure.event ∧
        s.retired.reverse = fs.map (·.opener.slot) ∧ (fs.map (·.rule)).Nodup ∧ fs.length ≤ t.literalCount ∧
        ∀ f ∈ fs, Lasts t input f) ∧
      (∀ offset, s.events.count (.circle offset) ≤ 1) ∧
      (∀ offset, .circle offset ∈ s.events →
        ∃ token ∈ t.tokenize input, token.kind = .error ∧ token.offset = offset) ∧
      (s.events.filterMap Event.offset?).Pairwise (· ≤ ·) ∧
      ∀ token ∈ t.tokenize input, token.kind = .error ∨ ∃ e ∈ t.allEntries, Emits t input e token := by
  obtain ⟨past, hrun, hhanded, hpending, hrest⟩ := Run.tokenize t input
  obtain ⟨fs, hledger⟩ := hrun.ledger
  have horder := hrun.inOrder
  have hmade := hrun.error_or_emitted
  rw [hpending, List.append_nil, hhanded] at horder hmade
  refine ⟨⟨hpending, hrest⟩, ⟨fs.reverse, ?_, ?_, ?_, ?_, ?_⟩, ?_, ?_, ?_, hmade⟩
  · rw [events, List.filter_reverse, hledger.log, List.map_reverse]
  · rw [hledger.retired, List.map_reverse]
  · rw [List.map_reverse, List.nodup_reverse]
    exact hledger.rules_nodup
  · rw [List.length_reverse]
    exact hledger.length_le
  · intro f hf
    rw [List.mem_reverse] at hf
    obtain ⟨hrule, hopener⟩ := hledger.rule f hf
    refine ⟨hrule, hopener, hledger.begins f hf, ?_⟩
    rintro token ⟨r, past', hrun', hmakes⟩
    -- every scanner that makes a token is in the run to the end, and is not the last one of it
    rcases List.mem_cons.mp (hrun.mem_of_done hpending hrest hrun') with rfl | hr
    · exact absurd hrest hmakes.rest
    · exact hledger.silent f hf r hr token hmakes
  · intro offset
    rw [events, List.count_reverse]
    exact horder.once offset
  · intro offset hmem
    rw [events, List.mem_reverse] at hmem
    exact horder.errors offset hmem
  · rw [events, List.filterMap_reverse, List.pairwise_reverse]
    exact horder.sorted

/-- A rule for literals finds no closer, and one that enters the only state again goes round in circles. -/
example :
    let t : Table := ⟨[⟨"root", [
      ⟨{}, .scan (.ofNode (Pattern.delimitedNode ['/', '*'] ['*', '/'])) (some ⟨"/*", 0⟩) (.whole .commentMultiline)⟩,
      ⟨{}, .push 0⟩]⟩], 0⟩
    ((start t "/*").drain t).2.events = [.noCloser "/*" 0, .circle 0, .circle 1] :=
  rfl

end Scanner

end TableLexer
