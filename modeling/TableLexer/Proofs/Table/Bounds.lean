import TableLexer.Proofs.Table.Openers

/-!
# What a built table may be relied on for

`sound_of_build`: in a built table the root and all states that rules enter are there, a rule with a
token for each group has a kind for each group of its pattern, and the rules for literals are numbered
from zero on in the order in which they stand in the table. `openers_of_build`: the rules for literals
are the same in the table as in what it was built of.
-/

namespace TableLexer

/-- The text that opens the literals of a rule, if it is a rule for literals. -/
def Rule.opener? (r : Rule) : Option String :=
  match r.body with
  | .scan _ opener _ => opener
  | _ => none

namespace Table

/-- The number of rules for literals. -/
def literalCount (t : Table) : Nat := (t.allEntries.filterMap Entry.slot?).length

/-- All that a table names is there. -/
structure Sound (t : Table) : Prop where
  root : t.root < t.states.length
  target : ∀ e ∈ t.allEntries, ∀ state, e.action = .push state → state < t.states.length
  groups : ∀ e ∈ t.allEntries, ∀ pattern opener kinds,
    e.action = .scan pattern opener (.groups kinds) → pattern.groupCount = kinds.length
  slots : t.allEntries.filterMap Entry.slot? = List.range t.literalCount

section Resolved
variable {names : List String} {slots slots' : Nat}

theorem lt_length_of_idxOf? {name : String} {index : Nat} (h : names.idxOf? name = some index) :
    index < names.length :=
  (List.findIdx?_eq_some_iff_getElem.mp h).1

theorem Resolved.target_lt {rule : Rule} {e : Entry} (h : Resolved names slots rule e slots')
    {state : Nat} (haction : e.action = .push state) : state < names.length := by
  cases h with
  | scan => cases haction
  | push hguard htarget =>
    cases haction
    exact lt_length_of_idxOf? htarget
  | pop => cases haction

theorem Resolved.groupCount_eq {rule : Rule} {e : Entry} (h : Resolved names slots rule e slots')
    {pattern : Pattern} {opener : Option Opener} {kinds : List Kind}
    (haction : e.action = .scan pattern opener (.groups kinds)) :
    pattern.groupCount = kinds.length := by
  cases h with
  | scan hguard hread hgroups =>
    cases haction
    exact hgroups kinds rfl
  | push => cases haction
  | pop => cases haction

theorem Resolved.opener?_eq {rule : Rule} {e : Entry} (h : Resolved names slots rule e slots') :
    e.opener?.map (·.text) = rule.opener? := by
  cases h with
  | @scan guard text opener => cases opener <;> rfl
  | push => rfl
  | pop => rfl

theorem ResolvedRules.openers_eq {rules : List Rule} {es : List Entry}
    (h : ResolvedRules names slots rules es slots') :
    es.map (·.opener?.map (·.text)) = rules.map Rule.opener? := by
  induction h with
  | nil => rfl
  | cons h hs ih => rw [List.map_cons, List.map_cons, h.opener?_eq, ih]

theorem ResolvedStates.openers_eq {specs : List StateSpec} {states : List State}
    (h : ResolvedStates names slots specs states) :
    (states.flatMap (·.entries)).map (·.opener?.map (·.text))
      = (specs.flatMap (·.rules)).map Rule.opener? := by
  induction h with
  | nil => rfl
  | cons h hs ih =>
    rw [List.flatMap_cons, List.flatMap_cons, List.map_append, List.map_append, h.openers_eq, ih]

theorem ResolvedStates.length_eq {specs : List StateSpec} {states : List State}
    (h : ResolvedStates names slots specs states) : states.length = specs.length := by
  induction h with
  | nil => rfl
  | cons _ _ ih => rw [List.length_cons, List.length_cons, ih]

end Resolved

theorem sound_of_build {specs : List StateSpec} {t : Table} (h : build specs = .ok t) : t.Sound := by
  obtain ⟨-, hroot, hstates⟩ := build_eq_ok.mp h
  have hlength : t.states.length = (specs.map (·.name)).length := by
    rw [hstates.length_eq, List.length_map]
  refine ⟨?_, fun e he state haction => ?_, fun e he pattern opener kinds haction => ?_, ?_⟩
  · rw [hlength]
    exact lt_length_of_idxOf? hroot
  · obtain ⟨_, _, _, _, _, _, hresolved⟩ := hstates.exists_rule he
    rw [hlength]
    exact hresolved.target_lt haction
  · obtain ⟨_, _, _, _, _, _, hresolved⟩ := hstates.exists_rule he
    exact hresolved.groupCount_eq haction
  · obtain ⟨slots, hnumbered⟩ := hstates.numberedInTurn
    have hslots : t.allEntries.filterMap Entry.slot? = List.range slots := by
      rw [List.range_eq_range']
      exact hnumbered.slots
    rw [literalCount, hslots, List.length_range]

/-- The numbers of the rules for literals are below their count. -/
theorem Sound.slot_lt {t : Table} (h : t.Sound) {e : Entry} (he : e ∈ t.allEntries)
    {pattern : Pattern} {o : Opener} {emission : Emission}
    (haction : e.action = .scan pattern (some o) emission) : o.slot < t.literalCount := by
  have hslot : o.slot ∈ t.allEntries.filterMap Entry.slot? :=
    List.mem_filterMap.mpr ⟨e, he, by rw [Entry.slot?, Entry.opener?, haction]; rfl⟩
  rw [h.slots] at hslot
  exact List.mem_range.mp hslot

theorem openers_of_build {specs : List StateSpec} {t : Table} (h : build specs = .ok t) :
    t.allEntries.map (·.opener?.map (·.text)) = (specs.flatMap (·.rules)).map Rule.opener? :=
  (build_eq_ok.mp h).2.2.openers_eq

end Table

end TableLexer
