import Mathlib.Data.List.Perm.Subperm
import TableLexer.Proofs.Scanner.Access

/-!
# Changes of state without the guard

`Changes` are the changes of state that the first rules that apply make one after another, if nothing stops
them. There is one way to go on (`Changes.change_of_lt`), and if no state is current twice there are no more
changes than states (`Changes.length_le`).

A step makes the change as long as the detour has room (`Change.step_eq`), and else breaks a circle
(`Change.breaksCircle`); it breaks a circle nowhere else (`BreaksCircle.change`). For nothing but the guard
looks at the detour (`tryEntry_withDetour`).
-/

namespace TableLexer.Scanner

/-! ## The first rule that applies -/

/-- `e` is the first of the rules `es` that applies; `s'` is the scanner with which it is tried. -/
inductive Applies (t : Table) : List Entry → Scanner → Entry → Scanner → Prop
  | here {e : Entry} {es : List Entry} {s after : Scanner} (h : s.tryEntry t e = .used after) :
      Applies t (e :: es) s e s
  | later {e e' : Entry} {es : List Entry} {s s' s'' : Scanner} (h : s.tryEntry t e' = .passed s')
      (happlies : Applies t es s' e s'') : Applies t (e' :: es) s e s''

/-- The scanner with another record of a detour. -/
def withDetour (s : Scanner) (detour : Option Detour) : Scanner := { s with detour }

/-- The record of the detour with one more change of state. -/
def nextDetour (s : Scanner) : Detour :=
  { s.currentDetour with changes := s.currentDetour.changes + 1 }

section
variable {t : Table} {es : List Entry} {s s' : Scanner} {e : Entry}

theorem Applies.passes (h : Applies t es s e s') : Passes s s' := by
  induction h with
  | here => exact .refl _
  | @later e e' es s s' s'' h _ ih =>
    rcases tryEntry_cases s t e' with ⟨r, htry, hpass⟩ | ⟨r, htry, -⟩
    · rw [h] at htry
      cases htry
      exact hpass.trans ih
    · rw [h] at htry
      cases htry

theorem Applies.mem (h : Applies t es s e s') : e ∈ es := by
  induction h with
  | here => exact List.mem_cons_self
  | later _ _ ih => exact List.mem_cons_of_mem _ ih

theorem Applies.tryEntries (h : Applies t es s e s') :
    s'.tryEntry t e = .used (Scanner.tryEntries t es s) := by
  induction h with
  | here h => rw [Scanner.tryEntries, h]
  | later h _ ih => rw [Scanner.tryEntries, h, ih]

theorem applies_or_error (t : Table) (es : List Entry) (s : Scanner) :
    (∃ e s', Applies t es s e s') ∨ ∃ s', Passes s s' ∧ tryEntries t es s = s'.takeError := by
  induction es generalizing s with
  | nil => exact .inr ⟨s, .refl s, rfl⟩
  | cons e es ih =>
    rcases tryEntry_cases s t e with ⟨s', htry, hpass⟩ | ⟨s', htry, -⟩
    · rcases ih s' with ⟨e', s'', happlies⟩ | ⟨s'', hpass', herror⟩
      · exact .inl ⟨e', s'', .later htry happlies⟩
      · exact .inr ⟨s'', hpass.trans hpass', by rw [tryEntries, htry]; exact herror⟩
    · exact .inl ⟨e, s, .here htry⟩

theorem retire_withDetour (s : Scanner) (opener : Option Opener) (detour : Option Detour) :
    (s.withDetour detour).retire opener = (s.retire opener).withDetour detour := by
  cases opener with
  | none => rfl
  | some o =>
    cases hopens : o.text.toList.isPrefixOf s.rest with
    | false => simp only [retire, withDetour, hopens, Bool.false_eq_true, if_false]
    | true => simp only [retire, withDetour, hopens, if_true]

/-- Whether a rule is passed over has nothing to do with the detour. -/
theorem tryEntry_withDetour (s : Scanner) (t : Table) (e : Entry) (detour : Option Detour) :
    (∃ s', s.tryEntry t e = .passed s' ∧
        (s.withDetour detour).tryEntry t e = .passed (s'.withDetour detour)) ∨
      ∃ r r', s.tryEntry t e = .used r ∧ (s.withDetour detour).tryEntry t e = .used r' := by
  have hbefore : (s.withDetour detour).before = s.before := rfl
  have hrest : (s.withDetour detour).rest = s.rest := rfl
  have hclose (opener : Option Opener) : (s.withDetour detour).mayClose opener = s.mayClose opener := rfl
  rw [tryEntry, tryEntry, hbefore, hrest]
  cases e.guard.allows s.before with
  | false => exact .inl ⟨s, rfl, rfl⟩
  | true =>
    cases e.action with
    | push state => exact .inr ⟨_, _, rfl, rfl⟩
    | pop => exact .inr ⟨_, _, rfl, rfl⟩
    | scan pattern opener emission =>
      simp only [hclose, retire_withDetour]
      cases s.mayClose opener with
      | false => exact .inl ⟨s, rfl, rfl⟩
      | true =>
        cases pattern.match? s.before.head? s.rest with
        | none => exact .inl ⟨_, rfl, rfl⟩
        | some m =>
          by_cases hlength : m.length = 0
          · simp only [hlength]
            exact .inl ⟨_, rfl, rfl⟩
          · simp only [hlength]
            exact .inr ⟨_, _, rfl, rfl⟩

theorem Applies.withDetour (h : Applies t es s e s') (detour : Option Detour) :
    Applies t es (s.withDetour detour) e (s'.withDetour detour) := by
  induction h with
  | @here e es s after h =>
    rcases tryEntry_withDetour s t e detour with ⟨r, htry, -⟩ | ⟨r, r', -, htry'⟩
    · rw [h] at htry
      cases htry
    · exact .here htry'
  | @later e e' es s s' s'' h _ ih =>
    rcases tryEntry_withDetour s t e' detour with ⟨r, htry, htry'⟩ | ⟨r, r', htry, -⟩
    · rw [h] at htry
      cases htry
      exact .later htry' ih
    · rw [h] at htry
      cases htry

/-! ## What a rule that is used does -/

theorem used_push {after : Scanner} {state : Nat} (h : s.tryEntry t e = .used after)
    (haction : e.action = .push state) : after = s.change t (·.push state) := by
  rw [tryEntry, haction] at h
  split at h
  · cases h
  · cases h
    rfl

theorem used_pop {after : Scanner} (h : s.tryEntry t e = .used after) (haction : e.action = .pop) :
    after = s.change t (·.pop) := by
  rw [tryEntry, haction] at h
  split at h
  · cases h
  · cases h
    rfl

theorem used_scan {after : Scanner} {pattern : Pattern} {opener : Option Opener} {emission : Emission}
    (h : s.tryEntry t e = .used after) (haction : e.action = .scan pattern opener emission) :
    ∃ m, pattern.match? s.before.head? s.rest = some m ∧ 0 < m.length ∧
      after = s.takeAll (cut m emission) := by
  simp only [tryEntry, haction] at h
  split at h
  · cases h
  split at h
  · cases h
  split at h
  · cases h
  next m hmatch =>
  split at h
  · cases h
  next hlength =>
  cases h
  exact ⟨m, hmatch, Nat.pos_of_ne_zero hlength, rfl⟩

end

/-! ## Changes of state without the guard -/

/-- The first rule that applies enters a state or goes back from one. -/
inductive Change (t : Table) : Scanner → Scanner → Prop
  | push {s s' : Scanner} {e : Entry} {state : Nat}
      (happlies : Applies t (t.entries s.stack.top) s e s') (haction : e.action = .push state) :
      Change t s { s' with stack := s'.stack.push state }
  | pop {s s' : Scanner} {e : Entry} (happlies : Applies t (t.entries s.stack.top) s e s')
      (haction : e.action = .pop) : Change t s { s' with stack := s'.stack.pop }

/-- Changes of state in a row; the list is of the states that were current before each of them. -/
inductive Changes (t : Table) : Scanner → List Nat → Scanner → Prop
  | nil {s : Scanner} : Changes t s [] s
  | cons {s r s' : Scanner} {tops : List Nat} (h : Change t s r) (hs : Changes t r tops s') :
      Changes t s (s.stack.top :: tops) s'

section
variable {t : Table} {s s' r : Scanner} {tops : List Nat}

theorem Change.withDetour (h : Change t s r) (detour : Option Detour) :
    Change t (s.withDetour detour) (r.withDetour detour) := by
  cases h with
  | push happlies haction => exact .push (s := s.withDetour detour) (happlies.withDetour detour) haction
  | pop happlies haction => exact .pop (s := s.withDetour detour) (happlies.withDetour detour) haction

theorem Changes.withDetour (h : Changes t s tops s') (detour : Option Detour) :
    Changes t (s.withDetour detour) tops (s'.withDetour detour) := by
  induction h with
  | nil => exact .nil
  | cons h _ ih => exact .cons (h.withDetour detour) ih

theorem Change.same (h : Change t s r) :
    r.before = s.before ∧ r.rest = s.rest ∧ r.offset = s.offset ∧ r.pending = s.pending := by
  cases h with
  | push happlies =>
    have hpass := happlies.passes
    exact ⟨hpass.before, hpass.rest, hpass.offset, hpass.pending⟩
  | pop happlies =>
    have hpass := happlies.passes
    exact ⟨hpass.before, hpass.rest, hpass.offset, hpass.pending⟩

theorem Changes.same (h : Changes t s tops s') :
    s'.before = s.before ∧ s'.rest = s.rest ∧ s'.offset = s.offset ∧ s'.pending = s.pending := by
  induction h with
  | nil => exact ⟨rfl, rfl, rfl, rfl⟩
  | cons hchange _ ih =>
    obtain ⟨hbefore, hrest, hoffset, hpending⟩ := hchange.same
    obtain ⟨hbefore', hrest', hoffset', hpending'⟩ := ih
    exact ⟨hbefore'.trans hbefore, hrest'.trans hrest, hoffset'.trans hoffset, hpending'.trans hpending⟩

theorem Changes.concat (h : Changes t s tops s') (hchange : Change t s' r) :
    Changes t s (tops ++ [s'.stack.top]) r := by
  induction h with
  | nil => exact .cons hchange .nil
  | cons hfirst _ ih => exact .cons hfirst (ih hchange)

theorem Change.step (h : Change t s r) : ∃ s' move, Passes s s' ∧
    r = { s' with stack := move s'.stack } ∧ Scanner.step t s = s'.change t move := by
  cases h with
  | push happlies haction =>
    exact ⟨_, (·.push _), happlies.passes, rfl, used_push happlies.tryEntries haction⟩
  | pop happlies haction =>
    exact ⟨_, (·.pop), happlies.passes, rfl, used_pop happlies.tryEntries haction⟩

/-- As long as the detour has room, a step makes the change of state and counts it. -/
theorem Change.step_eq (h : Change t s r) (hroom : s.currentDetour.changes < t.states.length) :
    Scanner.step t s = r.withDetour (some s.nextDetour) := by
  obtain ⟨s', move, hpass, rfl, hstep⟩ := h.step
  rw [hstep, change_of_le move (by rwa [hpass.currentDetour]), hpass.currentDetour]
  rfl

/-- When the detour has no room, the step breaks a circle. -/
theorem Change.breaksCircle (h : Change t s r) (hfull : t.states.length ≤ s.currentDetour.changes) :
    BreaksCircle t s := by
  obtain ⟨s', move, hpass, -, hstep⟩ := h.step
  obtain ⟨reports, hlog, -⟩ := hpass.log
  refine ⟨reports, ?_⟩
  rw [hstep, change_of_lt move (by rwa [hpass.currentDetour]), ← hlog, ← hpass.offset]
  rfl

/-- A step takes text, or it makes a change of state or breaks a circle in place of one. -/
theorem step_cases (t : Table) (s : Scanner) :
    (∃ r, Change t s r) ∨ ∃ s' ps, Passes s s' ∧ step t s = s'.takeAll ps := by
  rcases applies_or_error t (t.entries s.stack.top) s with ⟨e, s', happlies⟩ | ⟨s', hpass, herror⟩
  · cases haction : e.action with
    | push state => exact .inl ⟨_, .push happlies haction⟩
    | pop => exact .inl ⟨_, .pop happlies haction⟩
    | scan pattern opener emission =>
      obtain ⟨m, -, -, hused⟩ := used_scan happlies.tryEntries haction
      exact .inr ⟨s', cut m emission, happlies.passes, hused⟩
  · exact .inr ⟨s', [(.error, Unicode.Grapheme.firstLength s'.rest)], hpass, herror⟩

theorem BreaksCircle.change (h : BreaksCircle t s) :
    ∃ r, Change t s r ∧ t.states.length ≤ s.currentDetour.changes := by
  rcases step_cases t s with ⟨r, hchange⟩ | ⟨s', ps, hpass, hstep⟩
  · refine ⟨r, hchange, Nat.le_of_not_lt fun hroom => ?_⟩
    obtain ⟨s', move, hpass, rfl, -⟩ := hchange.step
    obtain ⟨reports, hlog⟩ := h
    rw [hchange.step_eq hroom] at hlog
    exact hpass.log_ne_circle _ _ hlog
  · obtain ⟨reports, hlog⟩ := h
    rw [hstep, takeAll_log] at hlog
    exact absurd hlog (hpass.log_ne_circle _ _)

/-! ## There is one way to go on -/

theorem Applies.unique {es : List Entry} {e e' : Entry} {s'' : Scanner} (h : Applies t es s e s')
    (h' : Applies t es s e' s'') : e' = e ∧ s'' = s' := by
  induction h with
  | here h =>
    cases h' with
    | here => exact ⟨rfl, rfl⟩
    | later hpassed => rw [h] at hpassed; cases hpassed
  | later h _ ih =>
    cases h' with
    | here hused => rw [h] at hused; cases hused
    | later hpassed happlies =>
      rw [h] at hpassed
      cases hpassed
      exact ih happlies

theorem Change.unique {r' : Scanner} (h : Change t s r) (h' : Change t s r') : r' = r := by
  cases h with
  | push happlies haction =>
    cases h' with
    | push happlies' haction' =>
      obtain ⟨rfl, rfl⟩ := happlies.unique happlies'
      rw [haction] at haction'
      cases haction'
      rfl
    | pop happlies' haction' =>
      obtain ⟨rfl, rfl⟩ := happlies.unique happlies'
      rw [haction] at haction'
      cases haction'
  | pop happlies haction =>
    cases h' with
    | push happlies' haction' =>
      obtain ⟨rfl, rfl⟩ := happlies.unique happlies'
      rw [haction] at haction'
      cases haction'
    | pop happlies' haction' =>
      obtain ⟨rfl, rfl⟩ := happlies.unique happlies'
      rfl

theorem Applies.not_change {e : Entry} {pattern : Pattern} {opener : Option Opener} {emission : Emission}
    (h : Applies t (t.entries s.stack.top) s e s') (haction : e.action = .scan pattern opener emission) :
    ¬ Change t s r := by
  intro hchange
  cases hchange with
  | push happlies haction' =>
    obtain ⟨rfl, rfl⟩ := h.unique happlies
    rw [haction] at haction'
    cases haction'
  | pop happlies haction' =>
    obtain ⟨rfl, rfl⟩ := h.unique happlies
    rw [haction] at haction'
    cases haction'

theorem Changes.change_of_lt {tops' : List Nat} {s'' : Scanner} (h : Changes t s tops s')
    (h' : Changes t s tops' s'') (hlt : tops.length < tops'.length) : ∃ r, Change t s' r := by
  induction h generalizing tops' with
  | nil =>
    cases h' with
    | nil => exact absurd hlt (Nat.lt_irrefl _)
    | cons hchange _ => exact ⟨_, hchange⟩
  | cons hchange _ ih =>
    cases h' with
    | nil => exact absurd hlt (Nat.not_lt_zero _)
    | cons hchange' hchanges =>
      rw [hchange.unique hchange'] at hchanges
      exact ih hchanges (Nat.lt_of_succ_lt_succ hlt)

theorem Changes.take (h : Changes t s tops s') {count : Nat} (hcount : count ≤ tops.length) :
    ∃ r, Changes t s (tops.take count) r := by
  induction h generalizing count with
  | nil => exact ⟨_, by rw [List.take_nil]; exact .nil⟩
  | cons hchange _ ih =>
    cases count with
    | zero => exact ⟨_, .nil⟩
    | succ count =>
      obtain ⟨r, hchanges⟩ := ih (Nat.le_of_succ_le_succ hcount)
      exact ⟨r, .cons hchange hchanges⟩

/-! ## States on the way -/

theorem Change.inBounds (ht : t.Sound) (h : InBounds t s) (hchange : Change t s r) : InBounds t r := by
  cases hchange with
  | push happlies haction =>
    have hpass := happlies.passes
    refine ⟨fun state hstate => ?_, by rw [hpass.detour]; exact h.arrival⟩
    rcases StateStack.mem_push.mp hstate with rfl | hstate
    · exact ht.target _ (Table.mem_allEntries happlies.mem) _ haction
    · exact h.stack state (by rwa [← hpass.stack])
  | pop happlies _ =>
    have hpass := happlies.passes
    refine ⟨fun state hstate => ?_, by rw [hpass.detour]; exact h.arrival⟩
    exact h.stack state (by rw [← hpass.stack]; exact StateStack.mem_of_mem_pop hstate)

theorem Changes.tops_lt (ht : t.Sound) (h : InBounds t s) (hchanges : Changes t s tops s') :
    ∀ top ∈ tops, top < t.states.length := by
  induction hchanges with
  | nil => exact fun _ htop => absurd htop List.not_mem_nil
  | cons hchange _ ih =>
    intro top htop
    rcases List.mem_cons.mp htop with rfl | htop
    · exact h.stack _ List.mem_cons_self
    · exact ih (hchange.inBounds ht h) top htop

/-- If no state is current twice, there are no more changes than states. -/
theorem Changes.length_le (ht : t.Sound) (h : InBounds t s) (hchanges : Changes t s tops s')
    (hnodup : tops.Nodup) : tops.length ≤ t.states.length := by
  have hsubset : tops ⊆ List.range t.states.length := fun top htop =>
    List.mem_range.mpr (hchanges.tops_lt ht h top htop)
  have hlength := (hnodup.subperm hsubset).length_le
  rwa [List.length_range] at hlength

end

end TableLexer.Scanner
