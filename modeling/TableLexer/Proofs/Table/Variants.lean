import Mathlib.Data.List.Nodup
import TableLexer.Proofs.Scanner.Correspondence
import TableLexer.Proofs.Table.Rendering

/-!
# Variants of a table

`Variant.continues`: if the states of a table are found again among those of another one under other
names, with the same rules except that more may follow, then the second table continues the first, whatever
the order of its states.

Proof. States correspond if they have corresponding names (`Named`). The number of a literal tells its
state and its place there (`place_of_slot`), so numbers correspond if they belong to rules at the same place of
states that correspond (`Paired`).
-/

namespace TableLexer

/-- The rule with other names for states. -/
def Rule.rename (f : String → String) (r : Rule) : Rule :=
  match r.body with
  | .push state => { r with body := .push (f state) }
  | _ => r

/-- The state with other names for states. -/
def StateSpec.rename (f : String → String) (spec : StateSpec) : StateSpec :=
  ⟨f spec.name, spec.rules.map (Rule.rename f)⟩

theorem Rule.rename_id : Rule.rename id = id := by
  funext ⟨body, guard⟩
  cases body <;> rfl

namespace Table

/-- The states of a table are found again in another one, with names changed by `f` and further rules after
their own. -/
structure Variant (f : String → String) (more : StateSpec → List Rule) (specs specs' : List StateSpec) :
    Prop where
  root : f rootName = rootName
  injective : ∀ a ∈ specs.map (·.name), ∀ b ∈ specs.map (·.name), f a = f b → a = b
  size : specs'.length = specs.length
  mem : ∀ spec ∈ specs, ⟨f spec.name, spec.rules.map (Rule.rename f) ++ more spec⟩ ∈ specs'

/-- Places of states with corresponding names. -/
def Named (f : String → String) (t t' : Table) (i j : Nat) : Prop :=
  ∃ name, t.stateNames[i]? = some name ∧ t'.stateNames[j]? = some (f name)

/-- The number of a rule among those for literals, given its state and its place there. -/
def slotAt (t : Table) (state index : Nat) : Option Nat := (t.entries state)[index]?.bind Entry.slot?

/-- Numbers of literals at the same place of states that correspond. -/
def Paired (R : Nat → Nat → Prop) (t t' : Table) (a b : Nat) : Prop :=
  ∃ i j k, R i j ∧ t.slotAt i k = some a ∧ t'.slotAt j k = some b

/-! ## Numbers and places -/

theorem index_unique {α : Type} {p : α → Prop} {l : List α} (hl : l.Pairwise fun a b => ¬ (p a ∧ p b))
    {i j : Nat} {a b : α} (hi : l[i]? = some a) (ha : p a) (hj : l[j]? = some b) (hb : p b) : i = j := by
  obtain ⟨hilt, rfl⟩ := List.getElem?_eq_some_iff.mp hi
  obtain ⟨hjlt, rfl⟩ := List.getElem?_eq_some_iff.mp hj
  rw [List.pairwise_iff_getElem] at hl
  rcases Nat.lt_trichotomy i j with hlt | heq | hlt
  · exact absurd ⟨ha, hb⟩ (hl i j hilt hjlt hlt)
  · exact heq
  · exact absurd ⟨hb, ha⟩ (hl j i hjlt hilt hlt)

section Tables
variable {t t' : Table} {specs specs' : List StateSpec} {i i' j k k' slot : Nat}

theorem getElem?_entries {e : Entry} (h : (t.entries i)[k]? = some e) :
    ∃ s, t.states[i]? = some s ∧ s.entries[k]? = some e := by
  rw [entries] at h
  cases hs : t.states[i]? with
  | none =>
    rw [hs] at h
    cases h
  | some s =>
    rw [hs] at h
    exact ⟨s, rfl, h⟩

theorem place_of_slot (ht : t.Renders specs) (h : t.slotAt i k = some slot)
    (h' : t.slotAt i' k' = some slot) : i = i' ∧ k = k' := by
  obtain ⟨e, he, hslot⟩ := Option.bind_eq_some_iff.mp h
  obtain ⟨e', he', hslot'⟩ := Option.bind_eq_some_iff.mp h'
  obtain ⟨s, hs, hes⟩ := getElem?_entries he
  obtain ⟨s', hs', hes'⟩ := getElem?_entries he'
  have hnodup : (t.states.flatMap fun s => s.entries.filterMap Entry.slot?).Nodup := by
    rw [← List.filterMap_flatMap, ← allEntries, ht.slots]
    exact List.nodup_range
  obtain ⟨hwithin, hacross⟩ := List.nodup_flatMap.mp hnodup
  have hi : i = i' := by
    refine index_unique (p := fun s => slot ∈ s.entries.filterMap Entry.slot?) ?_ hs ?_ hs' ?_
    · exact hacross.imp fun hdisjoint hboth => hdisjoint hboth.1 hboth.2
    · exact List.mem_filterMap.mpr ⟨e, List.mem_of_getElem? hes, hslot⟩
    · exact List.mem_filterMap.mpr ⟨e', List.mem_of_getElem? hes', hslot'⟩
  subst hi
  obtain rfl : s = s' := Option.some.inj (hs.symm.trans hs')
  refine ⟨rfl, index_unique (p := fun e => e.slot? = some slot) ?_ hes hslot hes' hslot'⟩
  have hdistinct := List.pairwise_filterMap.mp (hwithin s (List.mem_of_getElem? hs))
  exact hdistinct.imp fun hne hboth => hne slot hboth.1 slot hboth.2 rfl

/-! ## Rules that correspond -/

theorem stateNames_nodup (h : build specs = .ok t) : t.stateNames.Nodup := by
  obtain ⟨hflawless, ht⟩ := build_eq_ok_iff_renders.mp h
  rw [ht.names_eq]
  exact hflawless.names

theorem index_of_name (ht : t.stateNames.Nodup) {name : String} (h : t.stateNames[i]? = some name)
    (h' : t.stateNames[j]? = some name) : i = j := by
  have hidx := idxOf?_of_getElem? ht h
  rw [idxOf?_of_getElem? ht h'] at hidx
  exact (Option.some.inj hidx).symm

/-- What a rule becomes in both tables does the same. -/
theorem like_of_becomes {f : String → String} {S : Nat → Nat → Prop} {r : Rule} {e e' : Entry}
    (h : r.Becomes t e) (h' : (r.rename f).Becomes t' e')
    (hS : ∀ {a b}, e.slot? = some a → e'.slot? = some b → S a b) : e.Like (Named f t t') S e' := by
  cases h with
  | pop =>
    cases h'
    exact .pop
  | push htarget =>
    cases h' with
    | push htarget' => exact .push ⟨_, htarget, htarget'⟩
  | @scan guard text opener emission pattern o hread hopener =>
    cases h' with
    | @scan _ _ _ _ pattern' o' hread' hopener' =>
      obtain rfl : pattern = pattern' := by rwa [hread, Except.ok.injEq] at hread'
      rw [← hopener] at hopener'
      refine .scan ?_
      cases o with
      | none =>
        cases o' with
        | none => exact .none
        | some o' => cases hopener'
      | some o =>
        cases o' with
        | none => cases hopener'
        | some o' => exact .some ⟨(Option.some.inj hopener').symm, hS rfl rfl⟩

theorem Renders.state (ht : t.Renders specs) {name : String} (h : t.stateNames[i]? = some name) :
    ∃ spec ∈ specs, spec.name = name ∧ List.Forall₂ (Rule.Becomes t) spec.rules (t.entries i) := by
  rw [stateNames, List.getElem?_map, Option.map_eq_some_iff] at h
  obtain ⟨s, hs, rfl⟩ := h
  obtain ⟨hi, hget⟩ := List.getElem?_eq_some_iff.mp hs
  have hi' : i < specs.length := by rwa [ht.states.length_eq]
  obtain ⟨hname, hrules⟩ := (List.forall₂_iff_get.mp ht.states).2 i hi' hi
  rw [List.get_eq_getElem, List.get_eq_getElem, hget] at hname hrules
  refine ⟨specs[i], List.getElem_mem hi', hname.symm, ?_⟩
  rw [entries, hs]
  exact hrules

theorem Renders.entries_of_mem (ht : t.Renders specs) (hnames : t.stateNames.Nodup) {spec : StateSpec}
    (hspec : spec ∈ specs) (h : t.stateNames[i]? = some spec.name) :
    List.Forall₂ (Rule.Becomes t) spec.rules (t.entries i) := by
  obtain ⟨spec', hspec', hname, hrules⟩ := ht.state h
  rw [ht.names_eq] at hnames
  rwa [List.inj_on_of_nodup_map hnames hspec hspec' hname.symm]

end Tables

/-! ## Variants -/

namespace Variant
variable {f : String → String} {more : StateSpec → List Rule} {specs specs' : List StateSpec} {t t' : Table}
  {i j : Nat}

theorem entries (h : Variant f more specs specs') (hbuild : build specs = .ok t)
    (hbuild' : build specs' = .ok t') (hij : Named f t t' i j) :
    ∃ spec ∈ specs, ∃ es es', t'.entries j = es ++ es' ∧ es'.length = (more spec).length ∧
      List.Forall₂ (Entry.Like (Named f t t') (Paired (Named f t t') t t')) (t.entries i) es := by
  have ht := (build_eq_ok_iff_renders.mp hbuild).2
  have ht' := (build_eq_ok_iff_renders.mp hbuild').2
  obtain ⟨name, hi, hj⟩ := hij
  obtain ⟨spec, hspec, rfl, hrules⟩ := ht.state hi
  have hrules' := ht'.entries_of_mem (stateNames_nodup hbuild') (h.mem spec hspec) hj
  have hlength := hrules.length_eq
  have hlength' := hrules'.length_eq
  simp only [List.length_append, List.length_map] at hlength'
  refine ⟨spec, hspec, (t'.entries j).take spec.rules.length, (t'.entries j).drop spec.rules.length,
    (List.take_append_drop ..).symm, ?_, List.forall₂_iff_get.mpr ⟨?_, fun k hk hk' => ?_⟩⟩
  · rw [List.length_drop]
    omega
  · rw [List.length_take]
    omega
  · rw [List.length_take] at hk'
    have hbecomes := (List.forall₂_iff_get.mp hrules).2 k (by omega) hk
    have hbecomes' := (List.forall₂_iff_get.mp hrules').2 k
      (by simp only [List.length_append, List.length_map]; omega) (by omega)
    simp only [List.get_eq_getElem, List.getElem_take] at hbecomes hbecomes' ⊢
    rw [List.getElem_append_left (by rw [List.length_map]; omega), List.getElem_map] at hbecomes'
    refine like_of_becomes hbecomes hbecomes' fun {a b} ha hb => ⟨i, j, k, ⟨spec.name, hi, hj⟩, ?_, ?_⟩
    · rw [slotAt, List.getElem?_eq_getElem hk]
      exact ha
    · rw [slotAt, List.getElem?_eq_getElem (by omega)]
      exact hb

/-- A variant of a table continues it. -/
theorem continues (h : Variant f more specs specs') (hbuild : build specs = .ok t)
    (hbuild' : build specs' = .ok t') :
    t.Continues (Named f t t') (Paired (Named f t t') t t') t' where
  size := by
    rw [← (build_eq_ok_iff_renders.mp hbuild).2.states.length_eq,
      ← (build_eq_ok_iff_renders.mp hbuild').2.states.length_eq, h.size]
  root := ⟨rootName, (build_eq_ok_iff_renders.mp hbuild).2.root, by
    rw [h.root]
    exact (build_eq_ok_iff_renders.mp hbuild').2.root⟩
  entries hij := by
    obtain ⟨spec, -, es, es', heq, -, hlike⟩ := h.entries hbuild hbuild' hij
    exact ⟨es, es', heq, hlike⟩
  slots := by
    have ht := (build_eq_ok_iff_renders.mp hbuild).2
    have ht' := (build_eq_ok_iff_renders.mp hbuild').2
    -- a slot tells the place of its rule in either table, and the names tell the states that correspond
    rintro a b c d ⟨i, j, k, ⟨name, hi, hj⟩, ha, hb⟩ ⟨i', j', k', ⟨name', hi', hj'⟩, hc, hd⟩
    constructor
    · rintro rfl
      obtain ⟨rfl, rfl⟩ := place_of_slot ht ha hc
      obtain rfl : name = name' := Option.some.inj (hi.symm.trans hi')
      obtain rfl := index_of_name (stateNames_nodup hbuild') hj hj'
      exact Option.some.inj (hb.symm.trans hd)
    · rintro rfl
      obtain ⟨rfl, rfl⟩ := place_of_slot ht' hb hd
      have hmem := List.mem_of_getElem? hi
      have hmem' := List.mem_of_getElem? hi'
      rw [ht.names_eq] at hmem hmem'
      obtain rfl := h.injective name hmem name' hmem' (Option.some.inj (hj.symm.trans hj'))
      obtain rfl := index_of_name (stateNames_nodup hbuild) hi hi'
      exact Option.some.inj (ha.symm.trans hc)

theorem not_longer (h : Variant f (fun _ => []) specs specs') (hbuild : build specs = .ok t)
    (hbuild' : build specs' = .ok t') : ¬ t.Longer (Named f t t') t' := by
  rintro ⟨i, j, hij, hlt⟩
  obtain ⟨spec, -, es, es', heq, hlength, hlike⟩ := h.entries hbuild hbuild' hij
  rw [heq, List.length_append, hlike.length_eq, hlength] at hlt
  exact absurd hlt (Nat.lt_irrefl _)

end Variant

end Table

end TableLexer
