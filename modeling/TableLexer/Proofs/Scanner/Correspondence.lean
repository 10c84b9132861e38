import Mathlib.Data.List.Forall2
import Mathlib.Data.Option.Basic
import TableLexer.Proofs.Scanner.Retirement

/-!
# Scanning with tables that correspond

A table continues another one (`Continues`) if its states are those of the other one, perhaps in other
places, and have the same rules in the same order, perhaps followed by more; rules for literals may have
other numbers. `Alike.inTandem`: scanners for the two go on in tandem, unless the first one makes an error
token where all rules of a state were passed over and the second table has more of them.

Proof. Two scanners are alike if they have scanned the same text with the same outcome, are in states that
correspond, and have retired rules that correspond (`Alike`). Trying rules that correspond keeps scanners
alike (`tryEntry_alike`), so a step does (`step_alike`), unless it goes on to a rule that only the second
table has; then the first scanner has made an error token.
-/

namespace TableLexer

/-! ## Tables -/

/-- Two entries do the same, if `R` relates the places of states and `S` the numbers of literals. -/
inductive Entry.Like (R S : Nat → Nat → Prop) : Entry → Entry → Prop
  | scan {guard : Guard} {pattern : Pattern} {emission : Emission} {o o' : Option Opener}
      (hopener : Option.Rel (fun o o' => o.text = o'.text ∧ S o.slot o'.slot) o o') :
      Like R S ⟨guard, .scan pattern o emission⟩ ⟨guard, .scan pattern o' emission⟩
  | push {guard : Guard} {state state' : Nat} (hstate : R state state') :
      Like R S ⟨guard, .push state⟩ ⟨guard, .push state'⟩
  | pop {guard : Guard} : Like R S ⟨guard, .pop⟩ ⟨guard, .pop⟩

/-- A table continues another one: states that `R` relates have like rules, perhaps followed by more in
this table, and `S` relates each number of a literal to one other. -/
structure Table.Continues (R S : Nat → Nat → Prop) (t t' : Table) : Prop where
  size : t'.states.length = t.states.length
  root : R t.root t'.root
  entries : ∀ {i j}, R i j → ∃ es more, t'.entries j = es ++ more ∧
    List.Forall₂ (Entry.Like R S) (t.entries i) es
  slots : ∀ {a b c d}, S a b → S c d → (a = c ↔ b = d)

/-- Some state of a table has more rules in the table that continues it. -/
def Table.Longer (R : Nat → Nat → Prop) (t t' : Table) : Prop :=
  ∃ i j, R i j ∧ (t.entries i).length < (t'.entries j).length

/-! ## Scanners that are alike -/

/-- The same states have been entered. -/
structure StateStack.Like (R : Nat → Nat → Prop) (s s' : StateStack) : Prop where
  top : R s.top s'.top
  below : List.Forall₂ R s.below s'.below

/-- The same changes of state have been made at the same position. -/
structure Detour.Like (R : Nat → Nat → Prop) (d d' : Detour) : Prop where
  offset : d.offset = d'.offset
  arrival : d.arrival.Like R d'.arrival
  changes : d.changes = d'.changes

section Stacks
variable {R : Nat → Nat → Prop} {s s' : StateStack}

theorem StateStack.Like.push (h : s.Like R s') {state state' : Nat} (hstate : R state state') :
    (s.push state).Like R (s'.push state') :=
  ⟨hstate, .cons h.top h.below⟩

theorem StateStack.Like.pop (h : s.Like R s') : s.pop.Like R s'.pop := by
  obtain ⟨top, below⟩ := s
  obtain ⟨top', below'⟩ := s'
  obtain ⟨htop, hbelow⟩ := h
  cases hbelow with
  | nil => exact ⟨htop, .nil⟩
  | cons hstate hbelow => exact ⟨hstate, hbelow⟩

end Stacks

namespace Scanner

/-- A scanner with nothing but what it has read, found and reported. -/
def plain (s : Scanner) : Scanner := { s with stack := ⟨0, []⟩, detour := none, retired := [] }

/-- Two scanners have read, found and reported the same, and their states and retired rules
correspond. -/
structure Alike (R S : Nat → Nat → Prop) (s s' : Scanner) : Prop where
  plain : s'.plain = s.plain
  stack : s.stack.Like R s'.stack
  detour : Option.Rel (Detour.Like R) s.detour s'.detour
  retired : ∀ {a b}, S a b → (a ∈ s.retired ↔ b ∈ s'.retired)

theorem plain_takeAll (s : Scanner) (pieces : List (Kind × Nat)) :
    (s.takeAll pieces).plain = s.plain.takeAll pieces := by
  induction pieces generalizing s with
  | nil => rfl
  | cons piece pieces ih => exact ih (s.take piece.1 piece.2)

theorem takeAll_stack (s : Scanner) (pieces : List (Kind × Nat)) :
    (s.takeAll pieces).stack = s.stack := by
  induction pieces generalizing s with
  | nil => rfl
  | cons piece pieces ih => exact ih (s.take piece.1 piece.2)

namespace Alike
variable {R S : Nat → Nat → Prop} {t t' : Table} {s s' : Scanner}

theorem before_eq (h : Alike R S s s') : s'.before = s.before := congrArg (·.before) h.plain
theorem rest_eq (h : Alike R S s s') : s'.rest = s.rest := congrArg (·.rest) h.plain
theorem offset_eq (h : Alike R S s s') : s'.offset = s.offset := congrArg (·.offset) h.plain
theorem pending_eq (h : Alike R S s s') : s'.pending = s.pending := congrArg (·.pending) h.plain
theorem log_eq (h : Alike R S s s') : s'.log = s.log := congrArg (·.log) h.plain

theorem start (h : t.Continues R S t') (input : String) :
    Alike R S (Scanner.start t input) (Scanner.start t' input) :=
  ⟨rfl, ⟨h.root, .nil⟩, .none, fun _ => iff_of_false List.not_mem_nil List.not_mem_nil⟩

theorem takeAll (h : Alike R S s s') (pieces : List (Kind × Nat)) :
    Alike R S (s.takeAll pieces) (s'.takeAll pieces) := by
  refine ⟨?_, ?_, ?_, ?_⟩
  · rw [plain_takeAll, plain_takeAll, h.plain]
  · rw [takeAll_stack, takeAll_stack]
    exact h.stack
  · rw [takeAll_detour, takeAll_detour]
    exact h.detour
  · rw [takeAll_retired, takeAll_retired]
    exact h.retired

theorem takeError (h : Alike R S s s') : Alike R S s.takeError s'.takeError := by
  have htake := h.takeAll [(.error, Unicode.Grapheme.firstLength s.rest)]
  rw [Scanner.takeError, Scanner.takeError, h.rest_eq]
  exact htake

theorem handOut (h : Alike R S s s') (pending : List Token) :
    Alike R S { s with pending } { s' with pending } :=
  ⟨congrArg (fun r : Scanner => { r with pending }) h.plain, h.stack, h.detour, h.retired⟩

theorem currentDetour (h : Alike R S s s') : s.currentDetour.Like R s'.currentDetour := by
  have hnew : Detour.Like R ⟨s.offset, s.stack, 0⟩ ⟨s'.offset, s'.stack, 0⟩ :=
    ⟨h.offset_eq.symm, h.stack, rfl⟩
  have hdetour := h.detour
  rw [Scanner.currentDetour, Scanner.currentDetour]
  generalize s.detour = d at hdetour
  generalize s'.detour = d' at hdetour
  cases hdetour with
  | none => exact hnew
  | @some d d' hd =>
    simp only [← hd.offset, h.offset_eq]
    split
    · exact hd
    · exact h.offset_eq ▸ hnew

/-- Changes of state that correspond are made alike, or stopped alike. -/
theorem change (h : Alike R S s s') (hsize : t'.states.length = t.states.length)
    {move move' : StateStack → StateStack} (hmove : (move s.stack).Like R (move' s'.stack)) :
    Alike R S (s.change t move) (s'.change t' move') := by
  have hd := h.currentDetour
  by_cases hchanges : s.currentDetour.changes < t.states.length
  · rw [change_of_le move hchanges, change_of_le move' (by rw [← hd.changes, hsize]; exact hchanges)]
    exact ⟨h.plain, hmove, .some ⟨hd.offset, hd.arrival, congrArg (· + 1) hd.changes⟩, h.retired⟩
  · rw [change_of_lt move (by omega), change_of_lt move' (by rw [← hd.changes, hsize]; omega)]
    refine takeError ⟨?_, hd.arrival, .none, h.retired⟩
    exact congrArg (fun r : Scanner => { r with log := .circle r.offset :: r.log }) h.plain

theorem mayClose (h : Alike R S s s') {o o' : Option Opener}
    (hopener : Option.Rel (fun o o' => o.text = o'.text ∧ S o.slot o'.slot) o o') :
    s'.mayClose o' = s.mayClose o := by
  cases hopener with
  | none => rfl
  | some hopener =>
    simp only [Scanner.mayClose, Option.all_some, List.contains_eq_mem, h.retired hopener.2]

theorem retire (h : Alike R S s s') (hslots : ∀ {a b c d}, S a b → S c d → (a = c ↔ b = d))
    {o o' : Option Opener}
    (hopener : Option.Rel (fun o o' => o.text = o'.text ∧ S o.slot o'.slot) o o') :
    Alike R S (s.retire o) (s'.retire o') := by
  cases hopener with
  | none => exact h
  | @some o o' hopener =>
    obtain ⟨htext, hslot⟩ := hopener
    have hopens : o'.text.toList.isPrefixOf s'.rest = o.text.toList.isPrefixOf s.rest := by
      rw [htext, h.rest_eq]
    rw [Scanner.retire, Scanner.retire]
    simp only [hopens]
    split
    · refine ⟨?_, h.stack, h.detour, fun hab => ?_⟩
      · rw [← htext]
        exact congrArg (fun r : Scanner => { r with log := .noCloser o.text r.offset :: r.log }) h.plain
      · rw [List.mem_cons, List.mem_cons, hslots hab hslot, h.retired hab]
    · exact h

end Alike

/-! ## Steps -/

/-- What became of a rule is alike. -/
inductive Outcome.Alike (R S : Nat → Nat → Prop) : Outcome → Outcome → Prop
  | used {s s' : Scanner} (h : s.Alike R S s') : Alike R S (.used s) (.used s')
  | passed {s s' : Scanner} (h : s.Alike R S s') : Alike R S (.passed s) (.passed s')

section Steps
variable {R S : Nat → Nat → Prop} {t t' : Table} {s s' : Scanner}

theorem tryEntry_alike (ht : t.Continues R S t') {e e' : Entry} (he : e.Like R S e')
    (h : Alike R S s s') : (s.tryEntry t e).Alike R S (s'.tryEntry t' e') := by
  cases he with
  | @push guard state state' hstate =>
    simp only [tryEntry, h.before_eq]
    split
    · exact .passed h
    · exact .used (h.change ht.size (h.stack.push hstate))
  | pop =>
    simp only [tryEntry, h.before_eq]
    split
    · exact .passed h
    · exact .used (h.change ht.size h.stack.pop)
  | @scan guard pattern emission o o' hopener =>
    simp only [tryEntry, h.before_eq, h.rest_eq, h.mayClose hopener]
    split
    · exact .passed h
    split
    · exact .passed h
    split
    · exact .passed (h.retire ht.slots hopener)
    split
    · exact .passed (h.retire ht.slots hopener)
    · exact .used (h.takeAll _)

/-- Trying rules keeps scanners alike, unless the first one passes over all of its rules and the second
has more. -/
theorem tryEntries_alike (ht : t.Continues R S t') {es es' : List Entry}
    (hes : List.Forall₂ (Entry.Like R S) es es') (more : List Entry) (h : Alike R S s s') :
    Alike R S (tryEntries t es s) (tryEntries t' (es' ++ more) s') ∨
      more ≠ [] ∧ Errs s (tryEntries t es s) := by
  induction hes generalizing s s' with
  | nil =>
    cases more with
    | nil => exact .inl h.takeError
    | cons e more => exact .inr ⟨List.cons_ne_nil e more, _, rfl, rfl⟩
  | @cons e e' es es' he hes ih =>
    have htry := tryEntry_alike ht he h
    have hcases := tryEntry_cases s t e
    rw [List.cons_append, tryEntries, tryEntries]
    generalize s.tryEntry t e = outcome at htry hcases
    generalize s'.tryEntry t' e' = outcome' at htry
    cases htry with
    | used h => exact .inl h
    | @passed r r' hr =>
      have hpending : r.pending = s.pending := by
        rcases hcases with ⟨r, ⟨⟩, hpass⟩ | ⟨r, hused, -⟩
        · exact hpass.pending
        · cases hused
      rw [Errs, ← hpending]
      exact ih hr

/-- A step keeps scanners alike, unless the first one makes an error token where the second has more
rules. -/
theorem step_alike (ht : t.Continues R S t') (h : Alike R S s s') :
    Alike R S (step t s) (step t' s') ∨ t.Longer R t' ∧ Errs s (step t s) := by
  obtain ⟨es, more, hes, hlike⟩ := ht.entries h.stack.top
  rw [step, step, hes]
  rcases tryEntries_alike ht hlike more h with halike | ⟨hmore, herrs⟩
  · exact .inl halike
  · refine .inr ⟨⟨_, _, h.stack.top, ?_⟩, herrs⟩
    have hpos := List.length_pos_iff.mpr hmore
    rw [hes, List.length_append, hlike.length_eq]
    omega

/-! ## Runs -/

theorem Alike.inTandem (ht : t.Continues R S t') : InTandem t t' (t.Longer R t') (Alike R S) where
  size := ht.size
  rest := rest_eq
  pending := pending_eq
  handOut := handOut
  step := step_alike ht

end Steps

end Scanner

end TableLexer
