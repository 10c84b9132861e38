import TableLexer.Proofs.Pattern.Enclosed
import TableLexer.Proofs.Table.Build

/-!
# Tables without openers

`Table.withoutOpeners` makes each rule for a literal an ordinary rule with the same pattern, kind and
guard. If a table is built, so is the one without openers (`build_withoutOpeners`). In a table whose
rules were made by the constructors, each rule for a literal settles at its opener
(`settles_of_build`).
-/

namespace TableLexer

/-! ## Rules -/

/-- The rules that the constructors make. -/
inductive Rule.Made : Rule → Prop
  | token (pattern : String) (kind : Kind) : Made (.token pattern kind)
  | groups (pattern : String) (kinds : List Kind) : Made (.groups pattern kinds)
  | delimited (opener closer : String) (kind : Kind) : Made (.delimited opener closer kind)
  | quoted (quote escape : Char) (kind : Kind) : Made (.quoted quote escape kind)
  | push (state : String) : Made (.push state)
  | pop : Made .pop
  | after {r : Rule} (h : Made r) (texts : List String) : Made (r.after texts)
  | notAfter {r : Rule} (h : Made r) (texts : List String) : Made (r.notAfter texts)

/-- The rule as one that does not know what opens its literal. -/
def Rule.withoutOpener (r : Rule) : Rule :=
  match r.body with
  | .scan pattern _ emission => { r with body := .scan pattern none emission }
  | _ => r

/-- The state with its rules as ones that do not know what opens their literals. -/
def StateSpec.withoutOpeners (spec : StateSpec) : StateSpec :=
  { spec with rules := spec.rules.map Rule.withoutOpener }

/-- The entry as one that does not know what opens its literal. -/
def Entry.withoutOpener (e : Entry) : Entry :=
  match e.action with
  | .scan pattern _ emission => { e with action := .scan pattern none emission }
  | _ => e

/-- The state with its entries as ones that do not know what opens their literals. -/
def State.withoutOpeners (s : State) : State := { s with entries := s.entries.map Entry.withoutOpener }

theorem Rule.Made.settles {r : Rule} (h : r.Made) {text opener : String}
    {emission : Emission} (hbody : r.body = .scan text (some opener) emission) {pattern : Pattern}
    (hread : Pattern.read text = .ok pattern) : pattern.Settles opener.toList := by
  induction h with
  | token => cases hbody
  | groups => cases hbody
  | delimited opener' closer kind =>
    obtain ⟨rfl, hopener, -⟩ := Rule.Body.scan.inj hbody
    obtain rfl := Option.some.inj hopener
    rw [Pattern.read, String.toList_ofList, Pattern.readNode_delimitedPattern] at hread
    rw [← Except.ok.inj hread]
    exact Pattern.settles_delimited opener'.toList closer.toList
  | quoted quote escape kind =>
    obtain ⟨rfl, hopener, -⟩ := Rule.Body.scan.inj hbody
    obtain rfl := Option.some.inj hopener
    rw [Pattern.read, String.toList_ofList, Pattern.readNode_quotedPattern] at hread
    rw [← Except.ok.inj hread]
    have hquote : quote.toString.toList = [quote] := String.toList_singleton quote
    rw [hquote]
    exact Pattern.settles_quoted quote escape
  | push => cases hbody
  | pop => cases hbody
  | after h texts ih => exact ih hbody
  | notAfter h texts ih => exact ih hbody

namespace Table

/-- The table without openers, in which no rule is ever retired. -/
def withoutOpeners (t : Table) : Table := { t with states := t.states.map State.withoutOpeners }

theorem entries_withoutOpeners (t : Table) (state : Nat) :
    t.withoutOpeners.entries state = (t.entries state).map Entry.withoutOpener := by
  simp only [entries, withoutOpeners, List.getElem?_map]
  cases t.states[state]? <;> rfl

theorem mem_allEntries {t : Table} {state : Nat} {e : Entry} (h : e ∈ t.entries state) :
    e ∈ t.allEntries := by
  rw [entries] at h
  split at h
  · next s hs => exact List.mem_flatMap.mpr ⟨s, List.mem_of_getElem? hs, h⟩
  · cases h

/-! ## Building -/

section Build
variable {names : List String} {slots slots' : Nat}

theorem Resolved.withoutOpener {rule : Rule} {e : Entry} (h : Resolved names slots rule e slots')
    (other : Nat) : Resolved names other rule.withoutOpener e.withoutOpener other := by
  cases h with
  | scan hguard hread hgroups => exact .scan hguard hread hgroups
  | push hguard htarget => exact .push hguard htarget
  | pop hguard => exact .pop hguard

theorem ResolvedRules.withoutOpeners {rules : List Rule} {es : List Entry}
    (h : ResolvedRules names slots rules es slots') (other : Nat) :
    ResolvedRules names other (rules.map Rule.withoutOpener) (es.map Entry.withoutOpener) other := by
  induction h with
  | nil => exact .nil
  | cons h hs ih => exact .cons (h.withoutOpener other) ih

theorem ResolvedStates.withoutOpeners {specs : List StateSpec} {states : List State}
    (h : ResolvedStates names slots specs states) (other : Nat) :
    ResolvedStates names other (specs.map StateSpec.withoutOpeners)
      (states.map State.withoutOpeners) := by
  induction h with
  | nil => exact .nil
  | cons h hs ih => exact .cons (h.withoutOpeners other) ih

theorem build_withoutOpeners {specs : List StateSpec} {t : Table} (h : build specs = .ok t) :
    build (specs.map StateSpec.withoutOpeners) = .ok t.withoutOpeners := by
  have hnames : (specs.map StateSpec.withoutOpeners).map (·.name) = specs.map (·.name) := by
    rw [List.map_map]
    rfl
  obtain ⟨hrepeated, hroot, hstates⟩ := build_eq_ok.mp h
  rw [build_eq_ok, hnames]
  exact ⟨hrepeated, hroot, hstates.withoutOpeners 0⟩

end Build

/-! ## Tables with literals that settle -/

/-- Each rule for a literal settles at its opener, and no two rules for literals share a number. -/
structure Settles (t : Table) : Prop where
  settles : ∀ guard pattern o emission, ⟨guard, .scan pattern (some o) emission⟩ ∈ t.allEntries →
    pattern.Settles o.text.toList
  numbered : ∃ slots, Numbered 0 t.allEntries slots

theorem ResolvedRules.exists_rule {names : List String} {slots slots' : Nat} {rules : List Rule}
    {es : List Entry} (h : ResolvedRules names slots rules es slots') {e : Entry} (he : e ∈ es) :
    ∃ rule ∈ rules, ∃ slots slots', Resolved names slots rule e slots' := by
  induction h with
  | nil => cases he
  | cons h hs ih =>
    rcases List.mem_cons.mp he with rfl | he
    · exact ⟨_, List.mem_cons_self, _, _, h⟩
    · obtain ⟨rule, hrule, hresolved⟩ := ih he
      exact ⟨rule, List.mem_cons_of_mem _ hrule, hresolved⟩

theorem ResolvedStates.exists_rule {names : List String} {slots : Nat} {specs : List StateSpec}
    {states : List State} (h : ResolvedStates names slots specs states) {e : Entry}
    (he : e ∈ states.flatMap (·.entries)) :
    ∃ spec ∈ specs, ∃ rule ∈ spec.rules, ∃ slots slots', Resolved names slots rule e slots' := by
  induction h with
  | nil => cases he
  | cons h hs ih =>
    rw [List.flatMap_cons] at he
    rcases List.mem_append.mp he with he | he
    · exact ⟨_, List.mem_cons_self, h.exists_rule he⟩
    · obtain ⟨spec, hspec, hrule⟩ := ih he
      exact ⟨spec, List.mem_cons_of_mem _ hspec, hrule⟩

theorem settles_of_build {specs : List StateSpec} {t : Table} (h : build specs = .ok t)
    (hmade : ∀ spec ∈ specs, ∀ r ∈ spec.rules, r.Made) : t.Settles := by
  obtain ⟨-, -, hstates⟩ := build_eq_ok.mp h
  have ⟨slots, hnumbered⟩ := hstates.numberedInTurn
  refine ⟨fun guard pattern o emission he => ?_, slots, hnumbered.numbered⟩
  obtain ⟨spec, hspec, rule, hrule, slots, slots', hresolved⟩ := hstates.exists_rule he
  have hrule := hmade spec hspec rule hrule
  generalize hentry : (⟨guard, .scan pattern (some o) emission⟩ : Entry) = e at hresolved
  cases hresolved with
  | @scan _ text opener _ _ hguard hread hgroups =>
    cases opener with
    | none => cases hentry
    | some opener =>
      cases hentry
      exact hrule.settles rfl hread
  | push => cases hentry
  | pop => cases hentry

end Table

end TableLexer
