import TableLexer.Proofs.Table.Bounds

/-!
# The faults of a table

`build_eq_error`: building gives an error exactly if it is the first fault of the table (`FirstFault`), and
`exists_build_iff`: a table exactly if there is no fault (`Flawless`). A name that stands twice comes before
the lack of a root, and this before the faults of rules, which come in the order of the rules.

Proof. A rule resolves or has a fault, by cases on the rule (`resolved_or_hasFault`). Building goes through
rules and states in turn, so what it stops at is the first faulty one in each list
(`resolveRules_eq_error`, `resolveStates_eq_error`).
-/

namespace TableLexer

/-! ## What may be wrong -/

/-- The fault of a rule, which is the one at a place in a state. A guard that never holds counts before
the pattern, and the pattern before its groups. -/
inductive Rule.HasFault (names : List String) (state : String) (index : Nat) (r : Rule) :
    TableError → Prop
  | emptyGuard (hguard : r.guard.after = some []) : HasFault names state index r (.emptyGuard state index)
  | badPattern {text : String} {opener : Option String} {emission : Emission} {fault : Pattern.Fault}
      (hguard : r.guard.after ≠ some []) (hbody : r.body = .scan text opener emission)
      (hread : Pattern.read text = .error fault) :
      HasFault names state index r (.badPattern state index fault)
  | groupCount {text : String} {opener : Option String} {kinds : List Kind} {pattern : Pattern}
      (hguard : r.guard.after ≠ some []) (hbody : r.body = .scan text opener (.groups kinds))
      (hread : Pattern.read text = .ok pattern) (hcount : pattern.groupCount ≠ kinds.length) :
      HasFault names state index r (.groupCountMismatch state index kinds.length pattern.groupCount)
  | unknownState {target : String} (hguard : r.guard.after ≠ some []) (hbody : r.body = .push target)
      (htarget : target ∉ names) : HasFault names state index r (.unknownState state index target)

/-- The rule has no fault, wherever it stands. -/
def Rule.Flawless (names : List String) (r : Rule) : Prop :=
  ∀ state index error, ¬ r.HasFault names state index error

/-- The first element of a list that is not good is a bad one; the list begins at a place, and what is bad
may depend on the place. -/
def FirstBad {α : Type} (good : α → Prop) (bad : Nat → α → Prop) (place : Nat) (l : List α) : Prop :=
  ∃ init a tail, l = init ++ a :: tail ∧ (∀ b ∈ init, good b) ∧ bad (place + init.length) a

/-- The first fault of a state is that of the first rule that has one. -/
def StateSpec.HasFault (names : List String) (spec : StateSpec) (error : TableError) : Prop :=
  FirstBad (Rule.Flawless names) (fun index r => r.HasFault names spec.name index error) 0 spec.rules

namespace Table

/-- The first fault of a table: the first state with the name of an earlier one, or else the lack of a
root, or else the fault of the first state that has one. -/
inductive FirstFault (specs : List StateSpec) : TableError → Prop
  | duplicateState {init tail : List StateSpec} {spec : StateSpec} (hspecs : specs = init ++ spec :: tail)
      (hinit : (init.map (·.name)).Nodup) (hname : spec.name ∈ init.map (·.name)) :
      FirstFault specs (.duplicateState spec.name)
  | missingRoot (hnames : (specs.map (·.name)).Nodup) (hroot : rootName ∉ specs.map (·.name)) :
      FirstFault specs .missingRoot
  | state {error : TableError} (hnames : (specs.map (·.name)).Nodup) (hroot : rootName ∈ specs.map (·.name))
      (hfault : FirstBad (fun spec => ∀ r ∈ spec.rules, r.Flawless (specs.map (·.name)))
        (fun _ spec => spec.HasFault (specs.map (·.name)) error) 0 specs) : FirstFault specs error

/-- Nothing is wrong with a table: all names differ, there is a root, and all rules are flawless. -/
structure Flawless (specs : List StateSpec) : Prop where
  names : (specs.map (·.name)).Nodup
  root : rootName ∈ specs.map (·.name)
  rules : ∀ spec ∈ specs, ∀ r ∈ spec.rules, r.Flawless (specs.map (·.name))

/-! ## One rule -/

theorem bind_eq_error {ε α β : Type} {x : Except ε α} {f : α → Except ε β} {error : ε} :
    x >>= f = .error error ↔ x = .error error ∨ ∃ a, x = .ok a ∧ f a = .error error := by
  cases x with
  | error e => simp [bind, Except.bind]
  | ok a => simp [bind, Except.bind]

section Resolve
variable {names : List String} {state : String} {index slots slots' : Nat} {error : TableError}

/-- A faulty rule does not resolve. -/
theorem resolve_of_hasFault {rule : Rule} (h : rule.HasFault names state index error) :
    resolve names state index slots rule = .error error := by
  obtain ⟨body, guard⟩ := rule
  cases h with
  | emptyGuard hguard =>
    simp only [resolve, if_pos hguard]
    rfl
  | badPattern hguard hbody hread =>
    subst hbody
    simp only [resolve, if_neg hguard, hread]
    rfl
  | groupCount hguard hbody hread hcount =>
    subst hbody
    simp only [resolve, if_neg hguard, mapError_eq_ok.mpr hread]
    simp [hcount, bind, Except.bind]
  | unknownState hguard hbody htarget =>
    subst hbody
    simp only [resolve, if_neg hguard, List.idxOf?_eq_none_iff.mpr htarget]

/-- A rule resolves or has a fault. -/
theorem resolved_or_hasFault (names : List String) (state : String) (index slots : Nat) (rule : Rule) :
    (∃ e slots', Resolved names slots rule e slots') ∨ ∃ error, rule.HasFault names state index error := by
  obtain ⟨body, guard⟩ := rule
  by_cases hguard : guard.after = some []
  · exact .inr ⟨_, .emptyGuard hguard⟩
  cases body with
  | scan text opener emission =>
    cases hread : Pattern.read text with
    | error fault => exact .inr ⟨_, .badPattern hguard rfl hread⟩
    | ok pattern =>
      cases emission with
      | whole kind =>
        refine .inl ⟨_, _, .scan hguard hread fun kinds hkinds => ?_⟩
        cases hkinds
      | groups kinds =>
        by_cases hcount : pattern.groupCount = kinds.length
        · refine .inl ⟨_, _, .scan hguard hread fun kinds' hkinds => ?_⟩
          cases hkinds
          exact hcount
        · exact .inr ⟨_, .groupCount hguard rfl hread hcount⟩
  | push target =>
    cases htarget : names.idxOf? target with
    | none => exact .inr ⟨_, .unknownState hguard rfl (List.idxOf?_eq_none_iff.mp htarget)⟩
    | some i => exact .inl ⟨_, _, .push hguard htarget⟩
  | pop => exact .inl ⟨_, _, .pop hguard⟩

theorem resolve_eq_error {rule : Rule} :
    resolve names state index slots rule = .error error ↔ rule.HasFault names state index error := by
  refine ⟨fun h => ?_, resolve_of_hasFault⟩
  rcases resolved_or_hasFault names state index slots rule with ⟨e, slots', hresolved⟩ | ⟨error', hfault⟩
  · rw [resolve_eq_ok.mpr hresolved] at h
    cases h
  · rw [resolve_of_hasFault hfault] at h
    cases h
    exact hfault

theorem Resolved.flawless {rule : Rule} {e : Entry} (h : Resolved names slots rule e slots') :
    rule.Flawless names := by
  intro state index error hfault
  have hok : resolve names state index slots rule = .ok (e, slots') := resolve_eq_ok.mpr h
  rw [resolve_of_hasFault hfault] at hok
  cases hok

theorem exists_resolved_of_flawless {rule : Rule} (h : rule.Flawless names) (slots : Nat) :
    ∃ e slots', Resolved names slots rule e slots' :=
  (resolved_or_hasFault names rootName 0 slots rule).resolve_right fun ⟨error, hfault⟩ => h _ _ error hfault

end Resolve

/-! ## Rules and states in turn -/

section FirstBad
variable {α : Type} {good : α → Prop} {bad : Nat → α → Prop} {place : Nat} {a : α} {l : List α}

theorem not_firstBad_nil : ¬ FirstBad good bad place [] := by
  rintro ⟨init, a, tail, hnil, -⟩
  cases init <;> cases hnil

theorem firstBad_cons :
    FirstBad good bad place (a :: l) ↔ bad place a ∨ good a ∧ FirstBad good bad (place + 1) l := by
  have hplace (init : List α) : place + (init.length + 1) = place + 1 + init.length := by omega
  constructor
  · rintro ⟨init, b, tail, hsplit, hinit, hbad⟩
    cases init with
    | nil =>
      cases hsplit
      exact .inl hbad
    | cons c init =>
      cases hsplit
      obtain ⟨ha, hinit⟩ := List.forall_mem_cons.mp hinit
      rw [List.length_cons, hplace] at hbad
      exact .inr ⟨ha, init, b, tail, rfl, hinit, hbad⟩
  · rintro (hbad | ⟨ha, init, b, tail, rfl, hinit, hbad⟩)
    · exact ⟨[], a, l, rfl, fun _ hb => absurd hb List.not_mem_nil, hbad⟩
    · refine ⟨a :: init, b, tail, rfl, List.forall_mem_cons.mpr ⟨ha, hinit⟩, ?_⟩
      rw [List.length_cons, hplace]
      exact hbad

end FirstBad

section Turns
variable {names : List String} {state : String} {index slots slots' : Nat} {error : TableError}

theorem exists_resolvedRules {rules : List Rule} (h : ∀ r ∈ rules, r.Flawless names) (slots : Nat) :
    ∃ es slots', ResolvedRules names slots rules es slots' := by
  induction rules generalizing slots with
  | nil => exact ⟨[], slots, .nil⟩
  | cons rule rules ih =>
    obtain ⟨hrule, hrules⟩ := List.forall_mem_cons.mp h
    obtain ⟨e, slots', hresolved⟩ := exists_resolved_of_flawless hrule slots
    obtain ⟨es, slots'', hresolved'⟩ := ih hrules slots'
    exact ⟨e :: es, slots'', .cons hresolved hresolved'⟩

theorem ResolvedRules.flawless {rules : List Rule} {es : List Entry}
    (h : ResolvedRules names slots rules es slots') : ∀ r ∈ rules, r.Flawless names := by
  induction h with
  | nil => exact fun _ hr => absurd hr List.not_mem_nil
  | cons h hs ih => exact List.forall_mem_cons.mpr ⟨h.flawless, ih⟩

theorem resolveRules_eq_error {rules : List Rule} :
    resolveRules names state index slots rules = .error error ↔
      FirstBad (Rule.Flawless names) (fun i r => r.HasFault names state i error) index rules := by
  induction rules generalizing index slots with
  | nil =>
    refine ⟨fun h => ?_, fun h => absurd h not_firstBad_nil⟩
    cases h
  | cons rule rules ih =>
    rw [resolveRules, bind_eq_error, resolve_eq_error, firstBad_cons]
    refine or_congr Iff.rfl ⟨?_, ?_⟩
    · rintro ⟨⟨e, slots'⟩, hresolved, h⟩
      refine ⟨(resolve_eq_ok.mp hresolved).flawless, ?_⟩
      rcases bind_eq_error.mp h with h | ⟨_, -, h⟩
      · exact ih.mp h
      · cases h
    · rintro ⟨hrule, hrules⟩
      obtain ⟨e, slots', hresolved⟩ := exists_resolved_of_flawless hrule slots
      exact ⟨_, resolve_eq_ok.mpr hresolved, bind_eq_error.mpr (.inl (ih.mpr hrules))⟩

theorem resolveStates_eq_error {specs : List StateSpec} {place : Nat} :
    resolveStates names slots specs = .error error ↔
      FirstBad (fun spec => ∀ r ∈ spec.rules, r.Flawless names) (fun _ spec => spec.HasFault names error)
        place specs := by
  induction specs generalizing slots place with
  | nil =>
    refine ⟨fun h => ?_, fun h => absurd h not_firstBad_nil⟩
    cases h
  | cons spec specs ih =>
    rw [resolveStates, bind_eq_error, resolveRules_eq_error, firstBad_cons]
    refine or_congr Iff.rfl ⟨?_, ?_⟩
    · rintro ⟨⟨es, slots'⟩, hresolved, h⟩
      refine ⟨(resolveRules_eq_ok.mp hresolved).flawless, ?_⟩
      rcases bind_eq_error.mp h with h | ⟨_, -, h⟩
      · exact ih.mp h
      · cases h
    · rintro ⟨hspec, hspecs⟩
      obtain ⟨es, slots', hresolved⟩ := exists_resolvedRules hspec slots
      exact ⟨_, resolveRules_eq_ok.mpr hresolved, bind_eq_error.mpr (.inl (ih.mpr hspecs))⟩

theorem exists_resolvedStates {specs : List StateSpec}
    (h : ∀ spec ∈ specs, ∀ r ∈ spec.rules, r.Flawless names) (slots : Nat) :
    ∃ states, ResolvedStates names slots specs states := by
  induction specs generalizing slots with
  | nil => exact ⟨[], .nil⟩
  | cons spec specs ih =>
    obtain ⟨hspec, hspecs⟩ := List.forall_mem_cons.mp h
    obtain ⟨es, slots', hresolved⟩ := exists_resolvedRules hspec slots
    obtain ⟨states, hresolved'⟩ := ih hspecs slots'
    exact ⟨⟨spec.name, es⟩ :: states, .cons hresolved hresolved'⟩

theorem ResolvedStates.flawless {specs : List StateSpec} {states : List State}
    (h : ResolvedStates names slots specs states) :
    ∀ spec ∈ specs, ∀ r ∈ spec.rules, r.Flawless names := by
  induction h with
  | nil => exact fun _ hspec => absurd hspec List.not_mem_nil
  | cons h hs ih => exact List.forall_mem_cons.mpr ⟨h.flawless, ih⟩

end Turns

/-! ## Names -/

section Names
variable {seen names : List String} {name : String}

theorem firstRepeated?_cons (seen : List String) (name : String) (names : List String) :
    firstRepeated? seen (name :: names) =
      if name ∈ seen then some name else firstRepeated? (name :: seen) names := by
  rw [firstRepeated?]
  simp only [List.contains_iff_mem]

theorem firstRepeated?_eq_some (hseen : seen.Nodup) : firstRepeated? seen names = some name ↔
    ∃ init tail, names = init ++ name :: tail ∧ (init.reverse ++ seen).Nodup ∧
      name ∈ init.reverse ++ seen := by
  induction names generalizing seen with
  | nil =>
    constructor
    · intro h
      cases h
    · rintro ⟨init, tail, hnames, -⟩
      cases init <;> cases hnames
  | cons n names ih =>
    rw [firstRepeated?_cons]
    by_cases hn : n ∈ seen
    · rw [if_pos hn]
      constructor
      · intro h
        cases h
        exact ⟨[], names, rfl, hseen, hn⟩
      · rintro ⟨init, tail, hnames, hnodup, hname⟩
        cases init with
        | nil => cases hnames; rfl
        | cons n' init =>
          -- a name that stood before would not stand in `init`
          cases hnames
          rw [List.reverse_cons, List.append_assoc] at hnodup
          exact absurd hn (List.nodup_cons.mp (List.nodup_append.mp hnodup).2.1).1
    · rw [if_neg hn, ih (List.nodup_cons.mpr ⟨hn, hseen⟩)]
      constructor
      · rintro ⟨init, tail, rfl, hnodup, hname⟩
        refine ⟨n :: init, tail, rfl, ?_, ?_⟩
        · rwa [List.reverse_cons, List.append_assoc]
        · rwa [List.reverse_cons, List.append_assoc]
      · rintro ⟨init, tail, hnames, hnodup, hname⟩
        cases init with
        | nil => cases hnames; exact absurd hname hn
        | cons n' init =>
          cases hnames
          rw [List.reverse_cons, List.append_assoc] at hnodup hname
          exact ⟨init, tail, rfl, hnodup, hname⟩

theorem firstRepeated?_eq_none (hseen : seen.Nodup) :
    firstRepeated? seen names = none ↔ (names.reverse ++ seen).Nodup := by
  induction names generalizing seen with
  | nil => exact ⟨fun _ => hseen, fun _ => rfl⟩
  | cons n names ih =>
    rw [firstRepeated?_cons, List.reverse_cons, List.append_assoc]
    by_cases hn : n ∈ seen
    · rw [if_pos hn]
      constructor
      · intro h
        cases h
      · intro hnodup
        exact absurd hn (List.nodup_cons.mp (List.nodup_append.mp hnodup).2.1).1
    · rw [if_neg hn, ih (List.nodup_cons.mpr ⟨hn, hseen⟩)]
      rfl

theorem firstRepeated?_nil : firstRepeated? [] names = none ↔ names.Nodup := by
  rw [firstRepeated?_eq_none List.nodup_nil, List.append_nil, (List.reverse_perm _).nodup_iff]

theorem getElem?_of_idxOf? {index : Nat} (h : names.idxOf? name = some index) :
    names[index]? = some name := by
  obtain ⟨hlt, hname, -⟩ := List.idxOf?_eq_some_iff.mp h
  rw [List.getElem?_eq_getElem hlt, hname]

/-- Among different names, the first place of a name is its only one. -/
theorem idxOf?_of_getElem? (hnames : names.Nodup) {index : Nat} (h : names[index]? = some name) :
    names.idxOf? name = some index := by
  obtain ⟨first, hfirst⟩ := Option.isSome_iff_exists.mp (List.isSome_idxOf?.mpr (List.mem_of_getElem? h))
  have hplaces := (getElem?_of_idxOf? hfirst).trans h.symm
  rw [hfirst, (List.getElem?_inj (lt_length_of_idxOf? hfirst) hnames).mp hplaces]

end Names

/-! ## Whole tables -/

section Build
variable {specs : List StateSpec} {error : TableError}

/-- What building stops at is the first fault. -/
theorem firstFault_of_build (h : build specs = .error error) : FirstFault specs error := by
  simp only [build] at h
  cases hrepeated : firstRepeated? [] (specs.map (·.name)) with
  | some name =>
    rw [hrepeated] at h
    cases h
    obtain ⟨names, names', hnames, hinit, hname⟩ := (firstRepeated?_eq_some List.nodup_nil).mp hrepeated
    obtain ⟨init, rest, rfl, rfl, hrest⟩ := List.map_eq_append_iff.mp hnames
    obtain ⟨spec, tail, rfl, rfl, -⟩ := List.map_eq_cons_iff.mp hrest
    rw [List.append_nil] at hinit hname
    exact .duplicateState rfl ((List.reverse_perm _).nodup_iff.mp hinit) (List.mem_reverse.mp hname)
  | none =>
    have hnames := firstRepeated?_nil.mp hrepeated
    rw [hrepeated] at h
    cases hroot : (specs.map (·.name)).idxOf? rootName with
    | none =>
      rw [hroot] at h
      cases h
      exact .missingRoot hnames (List.idxOf?_eq_none_iff.mp hroot)
    | some root =>
      rw [hroot] at h
      have hmem := List.isSome_idxOf?.mp (Option.isSome_of_eq_some hroot)
      cases hstates : resolveStates (specs.map (·.name)) 0 specs with
      | error error' =>
        rw [hstates] at h
        cases h
        exact .state hnames hmem (resolveStates_eq_error.mp hstates)
      | ok states =>
        rw [hstates] at h
        cases h

/-- Building stops at the first fault. -/
theorem build_of_firstFault (h : FirstFault specs error) : build specs = .error error := by
  cases h with
  | @duplicateState init tail spec hspecs hinit hname =>
    have hrepeated : firstRepeated? [] (specs.map (·.name)) = some spec.name := by
      refine (firstRepeated?_eq_some List.nodup_nil).mpr ⟨init.map (·.name), tail.map (·.name), ?_, ?_, ?_⟩
      · rw [hspecs, List.map_append, List.map_cons]
      · rwa [List.append_nil, (List.reverse_perm _).nodup_iff]
      · rwa [List.append_nil, List.mem_reverse]
    simp only [build, hrepeated]
  | missingRoot hnames hroot =>
    simp only [build, firstRepeated?_nil.mpr hnames, List.idxOf?_eq_none_iff.mpr hroot]
  | state hnames hroot hfault =>
    have hstates : resolveStates (specs.map (·.name)) 0 specs = .error error :=
      resolveStates_eq_error.mpr hfault
    obtain ⟨root, hroot⟩ := Option.isSome_iff_exists.mp (List.isSome_idxOf?.mpr hroot)
    simp only [build, firstRepeated?_nil.mpr hnames, hroot, hstates]
    rfl

theorem build_eq_error : build specs = .error error ↔ FirstFault specs error :=
  ⟨firstFault_of_build, build_of_firstFault⟩

end Build

/-- A table is built if and only if nothing is wrong with it. -/
theorem exists_build_iff {specs : List StateSpec} : (∃ t, build specs = .ok t) ↔ Flawless specs := by
  constructor
  · rintro ⟨t, h⟩
    obtain ⟨hrepeated, hroot, hstates⟩ := build_eq_ok.mp h
    have hmem := List.isSome_idxOf?.mp (Option.isSome_of_eq_some hroot)
    exact ⟨firstRepeated?_nil.mp hrepeated, hmem, hstates.flawless⟩
  · intro h
    obtain ⟨root, hroot⟩ := Option.isSome_iff_exists.mp (List.isSome_idxOf?.mpr h.root)
    obtain ⟨states, hstates⟩ := exists_resolvedStates h.rules 0
    exact ⟨⟨states, root⟩, build_eq_ok.mpr ⟨firstRepeated?_nil.mpr h.names, hroot, hstates⟩⟩

end Table

end TableLexer
