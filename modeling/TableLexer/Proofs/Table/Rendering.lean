import Mathlib.Data.List.Forall2
import TableLexer.Proofs.Table.Faults

/-!
# What a table is built into

`build_exact`: building gives an error exactly if it is the first fault of the table, and a table exactly
if there is no fault and the table is what the states were written as (`Renders`): the same states and
rules in the same order, with each pattern read and each name resolved to the state of that name.

Proof. What a rule resolves to is what it becomes (`Resolved.becomes`). For the other direction the rules
for literals have to have their numbers, so a list of entries that is numbered in turn is split where its
first entry ends (`NumberedInTurn.split`).
-/

namespace TableLexer

/-! ## Rules and their entries -/

/-- What a rule becomes in a table: its pattern is read, and the state that it enters is the one of that
name. -/
inductive Rule.Becomes (t : Table) : Rule → Entry → Prop
  | scan {guard : Guard} {text : String} {opener : Option String} {emission : Emission} {pattern : Pattern}
      {o : Option Opener} (hread : Pattern.read text = .ok pattern) (hopener : o.map (·.text) = opener) :
      Becomes t ⟨.scan text opener emission, guard⟩ ⟨guard, .scan pattern o emission⟩
  | push {guard : Guard} {target : String} {state : Nat} (htarget : t.stateNames[state]? = some target) :
      Becomes t ⟨.push target, guard⟩ ⟨guard, .push state⟩
  | pop {guard : Guard} : Becomes t ⟨.pop, guard⟩ ⟨guard, .pop⟩

/-- A table is what some states were written as: it has these states and rules in the same order, scanning
starts at the root, and the rules for literals are numbered as they stand. -/
structure Table.Renders (t : Table) (specs : List StateSpec) : Prop where
  root : t.stateNames[t.root]? = some rootName
  states : List.Forall₂ (fun spec s => s.name = spec.name ∧ List.Forall₂ (Rule.Becomes t) spec.rules s.entries)
    specs t.states
  slots : t.allEntries.filterMap Entry.slot? = List.range t.literalCount

namespace Table

section Renders
variable {t : Table} {names : List String} {slots slots' : Nat}

theorem ResolvedStates.names_eq {specs : List StateSpec} {states : List State}
    (h : ResolvedStates names slots specs states) : states.map (·.name) = specs.map (·.name) := by
  induction h with
  | nil => rfl
  | cons h hs ih => rw [List.map_cons, List.map_cons, ih]

theorem Resolved.becomes {r : Rule} {e : Entry} (h : Resolved t.stateNames slots r e slots') :
    r.Becomes t e := by
  cases h with
  | @scan _ _ opener _ _ _ hread => exact .scan hread (by cases opener <;> rfl)
  | push _ htarget => exact .push (getElem?_of_idxOf? htarget)
  | pop => exact .pop

theorem ResolvedRules.becomes {rules : List Rule} {es : List Entry}
    (h : ResolvedRules t.stateNames slots rules es slots') : List.Forall₂ (Rule.Becomes t) rules es := by
  induction h with
  | nil => exact .nil
  | cons h hs ih => exact .cons h.becomes ih

theorem ResolvedStates.becomes {specs : List StateSpec} {states : List State}
    (h : ResolvedStates t.stateNames slots specs states) :
    List.Forall₂ (fun spec s => s.name = spec.name ∧ List.Forall₂ (Rule.Becomes t) spec.rules s.entries)
      specs states := by
  induction h with
  | nil => exact .nil
  | cons h hs ih => exact .cons ⟨rfl, h.becomes⟩ ih

theorem NumberedInTurn.split {es es' : List Entry} (h : NumberedInTurn slots (es ++ es') slots') :
    ∃ middle, NumberedInTurn slots es middle ∧ NumberedInTurn middle es' slots' := by
  have hslots := h.slots
  have hle := h.le
  rw [List.filterMap_append, eq_comm, List.range'_eq_append_iff] at hslots
  obtain ⟨count, hcount, hes, hes'⟩ := hslots
  refine ⟨slots + count, ⟨Nat.le_add_right _ _, ?_⟩, ⟨by omega, ?_⟩⟩
  · rw [hes, Nat.add_sub_cancel_left]
  · rw [hes', Nat.mul_one, Nat.sub_add_eq]

theorem NumberedInTurn.eq_of_none {e : Entry} (h : NumberedInTurn slots [e] slots')
    (he : e.slot? = none) : slots' = slots := by
  have hle := h.le
  have hslots := h.slots
  rw [List.filterMap_cons_none he, List.filterMap_nil, eq_comm, List.range'_eq_nil_iff] at hslots
  omega

theorem NumberedInTurn.eq_of_some {e : Entry} {slot : Nat} (h : NumberedInTurn slots [e] slots')
    (he : e.slot? = some slot) : slot = slots ∧ slots' = slots + 1 := by
  have hle := h.le
  have hslots := h.slots
  rw [List.filterMap_cons_some he, List.filterMap_nil, eq_comm, List.range'_eq_cons_iff] at hslots
  obtain ⟨hslot, hpos, hnil⟩ := hslots
  rw [eq_comm, List.range'_eq_nil_iff] at hnil
  omega

/-- A flawless rule resolves to what it becomes, if that has the right number. -/
theorem resolved_of_becomes {r : Rule} {e : Entry} (hnames : t.stateNames.Nodup)
    (hr : r.Flawless t.stateNames) (h : r.Becomes t e) (hslots : NumberedInTurn slots [e] slots') :
    Resolved t.stateNames slots r e slots' := by
  have hguard : r.guard.after ≠ some [] := fun hguard => hr rootName 0 _ (.emptyGuard hguard)
  cases h with
  | @scan guard text opener emission pattern o hread hopener =>
    have hgroups : ∀ kinds, emission = .groups kinds → pattern.groupCount = kinds.length := by
      rintro kinds rfl
      exact Classical.not_not.mp fun hcount => hr rootName 0 _ (.groupCount hguard rfl hread hcount)
    cases o with
    | none =>
      obtain rfl := hslots.eq_of_none rfl
      cases hopener
      exact .scan hguard hread hgroups
    | some o =>
      obtain ⟨hslot, rfl⟩ := hslots.eq_of_some rfl
      cases hopener
      rw [← hslot]
      exact .scan hguard hread hgroups
  | push htarget =>
    obtain rfl := hslots.eq_of_none rfl
    exact .push hguard (idxOf?_of_getElem? hnames htarget)
  | pop =>
    obtain rfl := hslots.eq_of_none rfl
    exact .pop hguard

theorem resolvedRules_of_becomes {rules : List Rule} {es : List Entry} (hnames : t.stateNames.Nodup)
    (hrules : ∀ r ∈ rules, r.Flawless t.stateNames) (h : List.Forall₂ (Rule.Becomes t) rules es)
    (hslots : NumberedInTurn slots es slots') : ResolvedRules t.stateNames slots rules es slots' := by
  induction h generalizing slots with
  | nil =>
    have hle := hslots.le
    have hnil := hslots.slots
    rw [List.filterMap_nil, eq_comm, List.range'_eq_nil_iff] at hnil
    obtain rfl : slots' = slots := by omega
    exact .nil
  | @cons r e rules es h hs ih =>
    obtain ⟨hr, hrules⟩ := List.forall_mem_cons.mp hrules
    have hslots : NumberedInTurn slots ([e] ++ es) slots' := hslots
    obtain ⟨middle, he, hes⟩ := hslots.split
    exact .cons (resolved_of_becomes hnames hr h he) (ih hrules hes)

theorem resolvedStates_of_becomes {specs : List StateSpec} {states : List State}
    (hnames : t.stateNames.Nodup) (hspecs : ∀ spec ∈ specs, ∀ r ∈ spec.rules, r.Flawless t.stateNames)
    (h : List.Forall₂ (fun spec s => s.name = spec.name ∧ List.Forall₂ (Rule.Becomes t) spec.rules s.entries)
      specs states)
    (hslots : NumberedInTurn slots (states.flatMap (·.entries)) slots') :
    ResolvedStates t.stateNames slots specs states := by
  induction h generalizing slots with
  | nil => exact .nil
  | @cons spec s specs states h hs ih =>
    obtain ⟨name, es⟩ := s
    obtain ⟨rfl, hes⟩ := h
    obtain ⟨hspec, hspecs⟩ := List.forall_mem_cons.mp hspecs
    rw [List.flatMap_cons] at hslots
    obtain ⟨middle, he, hrest⟩ := hslots.split
    exact .cons (resolvedRules_of_becomes hnames hspec hes he) (ih hspecs hrest)

end Renders

theorem Renders.names_eq {t : Table} {specs : List StateSpec} (h : t.Renders specs) :
    t.stateNames = specs.map (·.name) := by
  have hstates := h.states
  clear h
  rw [stateNames]
  generalize t.states = states at hstates
  induction hstates with
  | nil => rfl
  | cons hs _ ih => rw [List.map_cons, List.map_cons, hs.1, ih]

/-- A table is built if and only if nothing is wrong and the table is what the states were written as. -/
theorem build_eq_ok_iff_renders {specs : List StateSpec} {t : Table} :
    build specs = .ok t ↔ Flawless specs ∧ t.Renders specs := by
  constructor
  · intro h
    obtain ⟨-, hroot, hstates⟩ := build_eq_ok.mp h
    have hnames : t.stateNames = specs.map (·.name) := hstates.names_eq
    refine ⟨exists_build_iff.mp ⟨t, h⟩, ?_, ?_, (sound_of_build h).slots⟩
    · rw [hnames]
      exact getElem?_of_idxOf? hroot
    · rw [← hnames] at hstates
      exact hstates.becomes
  · rintro ⟨⟨hnames, -, hrules⟩, h⟩
    have hslots : NumberedInTurn 0 t.allEntries t.literalCount :=
      ⟨Nat.zero_le _, by rw [h.slots, List.range_eq_range', Nat.sub_zero]⟩
    rw [← h.names_eq] at hnames hrules
    rw [build_eq_ok, ← h.names_eq]
    exact ⟨firstRepeated?_nil.mpr hnames, idxOf?_of_getElem? hnames h.root,
      resolvedStates_of_becomes hnames hrules h.states hslots⟩

/-- **Building a table is exact.** It gives an error if and only if this is the first fault, and a table if
and only if there is no fault; the table then has the states and rules as they were written, and no other
table is given. -/
theorem build_exact (specs : List StateSpec) :
    (∀ error, build specs = .error error ↔ FirstFault specs error) ∧
      ((∃ t, build specs = .ok t) ↔ Flawless specs) ∧
      ∀ t, build specs = .ok t ↔ Flawless specs ∧ t.Renders specs :=
  ⟨fun _ => build_eq_error, exists_build_iff, fun _ => build_eq_ok_iff_renders⟩

/-- Of several faults the first one counts: the guard of the second rule, not the lack of the state that
the third enters. -/
example : build [⟨"root", [.push "word"]⟩,
    ⟨"word", [.token "a" .name, (Rule.token "(" .name).after [], .push "none"]⟩]
      = .error (.emptyGuard "word" 1) := rfl

end Table

end TableLexer
