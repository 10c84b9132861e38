import TableLexer.Proofs.Table.Variants

/-!
# States in another order and under other names

`tokenize_renamed`: putting the states of a table in another order and giving them other names, without
making two names one or renaming the root, changes neither that the table is built nor what it does.

Proof. A flawless rule stays so, as the state that it enters is there under its new name
(`Rule.Flawless.rename`). The new table is a variant of the old one without further rules, so scanners for
the two are alike at each step (`Variant.drain`).
-/

namespace TableLexer

theorem Rule.Flawless.rename {names names' : List String} {f : String → String} {r : Rule}
    (h : r.Flawless names) (hnames : ∀ name ∈ names, f name ∈ names') : (r.rename f).Flawless names' := by
  obtain ⟨e, slots', hr⟩ := Table.exists_resolved_of_flawless h 0
  have hrenamed : ∃ e', Table.Resolved names' 0 (r.rename f) e' slots' := by
    cases hr with
    | scan hguard hread hgroups => exact ⟨_, .scan hguard hread hgroups⟩
    | pop hguard => exact ⟨_, .pop hguard⟩
    | push hguard htarget =>
      have hmem := hnames _ (List.isSome_idxOf?.mp (Option.isSome_of_eq_some htarget))
      obtain ⟨state, hstate⟩ := Option.isSome_iff_exists.mp (List.isSome_idxOf?.mpr hmem)
      exact ⟨_, .push hguard hstate⟩
  obtain ⟨e', hr'⟩ := hrenamed
  exact hr'.flawless

namespace Table

/-- What is reported while an input is scanned. -/
def trace (t : Table) (input : String) : List Event := ((Scanner.start t input).drain t).2.events

section Renaming
variable {specs specs' : List StateSpec} {t t' : Table} {f : String → String}

theorem names_of_perm (hperm : specs'.Perm (specs.map (StateSpec.rename f))) :
    (specs'.map (·.name)).Perm ((specs.map (·.name)).map f) := by
  have hnames := hperm.map (·.name)
  rwa [List.map_map, ← Function.comp_def, ← List.map_map] at hnames ⊢

theorem Flawless.rename (h : Flawless specs)
    (hf : ∀ a ∈ specs.map (·.name), ∀ b ∈ specs.map (·.name), f a = f b → a = b)
    (hroot : f rootName = rootName) (hperm : specs'.Perm (specs.map (StateSpec.rename f))) :
    Flawless specs' := by
  have hnames := names_of_perm hperm
  have hmem {name : String} (hname : name ∈ specs.map (·.name)) : f name ∈ specs'.map (·.name) :=
    hnames.mem_iff.mpr (List.mem_map_of_mem hname)
  refine ⟨?_, ?_, fun spec' hspec' r' hr' => ?_⟩
  · exact hnames.nodup_iff.mpr (h.names.map_on fun a ha b hb => hf a ha b hb)
  · rw [← hroot]
    exact hmem h.root
  · obtain ⟨spec, hspec, rfl⟩ := List.mem_map.mp (hperm.mem_iff.mp hspec')
    obtain ⟨r, hr, rfl⟩ := List.mem_map.mp hr'
    exact (h.rules spec hspec r hr).rename fun name hname => hmem hname

theorem variant_of_perm (hf : ∀ a ∈ specs.map (·.name), ∀ b ∈ specs.map (·.name), f a = f b → a = b)
    (hroot : f rootName = rootName) (hperm : specs'.Perm (specs.map (StateSpec.rename f))) :
    Variant f (fun _ => []) specs specs' where
  root := hroot
  injective := hf
  size := by rw [hperm.length_eq, List.length_map]
  mem spec hspec := by
    rw [List.append_nil]
    exact hperm.mem_iff.mpr (List.mem_map_of_mem hspec)

/-- A variant without further rules gives the same tokens and reports the same. -/
theorem Variant.drain (h : Variant f (fun _ => []) specs specs') (hbuild : build specs = .ok t)
    (hbuild' : build specs' = .ok t') (input : String) :
    t'.tokenize input = t.tokenize input ∧ t'.trace input = t.trace input := by
  have ht := h.continues hbuild hbuild'
  rcases (Scanner.Alike.inTandem ht).drain (.start ht input) with ⟨htokens, halike⟩ | ⟨hlonger, -⟩
  · exact ⟨htokens, congrArg List.reverse halike.log_eq⟩
  · exact absurd hlonger (h.not_longer hbuild hbuild')

/-- **The order and the names of states do not matter.** The states of a table that is built, in any order
and under any other names that differ and keep the root, are built into a table that gives the same tokens for
each input and reports the same. -/
theorem tokenize_renamed (hbuild : build specs = .ok t)
    (hf : ∀ a ∈ specs.map (·.name), ∀ b ∈ specs.map (·.name), f a = f b → a = b)
    (hroot : f rootName = rootName) (hperm : specs'.Perm (specs.map (StateSpec.rename f))) :
    ∃ t', build specs' = .ok t' ∧
      ∀ input, t'.tokenize input = t.tokenize input ∧ t'.trace input = t.trace input := by
  obtain ⟨t', hbuild'⟩ := exists_build_iff.mpr ((exists_build_iff.mp ⟨t, hbuild⟩).rename hf hroot hperm)
  exact ⟨t', hbuild', (variant_of_perm hf hroot hperm).drain hbuild hbuild'⟩

end Renaming

/-- A table with a literal in each of its two states. -/
def quotingSpecs : List StateSpec := [
  ⟨"root", [.quoted '"' '\\' .string, (Rule.push "code").after ["("]]⟩,
  ⟨"code", [.quoted '|' '\\' .name, .pop]⟩]

/-- What `quotingSpecs` is built into. -/
def quotingTable : Table := ⟨[
  ⟨"root", [⟨{}, .scan (.ofNode (Pattern.quotedNode '"' '\\')) (some ⟨"\"", 0⟩) (.whole .string)⟩,
    ⟨⟨some ["("], []⟩, .push 1⟩]⟩,
  ⟨"code", [⟨{}, .scan (.ofNode (Pattern.quotedNode '|' '\\')) (some ⟨"|", 1⟩) (.whole .name)⟩,
    ⟨{}, .pop⟩]⟩], 0⟩

/-- `quotingSpecs` in the other order, with another name for the second state. -/
def quotingSpecs' : List StateSpec := [
  ⟨"base", [.quoted '|' '\\' .name, .pop]⟩,
  ⟨"root", [.quoted '"' '\\' .string, (Rule.push "base").after ["("]]⟩]

theorem tokenize_renamed_quotingTable : build quotingSpecs = .ok quotingTable ∧
    ∃ t', build quotingSpecs' = .ok t' ∧
      ∀ input, t'.tokenize input = quotingTable.tokenize input ∧
        t'.trace input = quotingTable.trace input := by
  have hbuild : build quotingSpecs = .ok quotingTable := rfl
  refine ⟨hbuild, tokenize_renamed (f := fun name => if name = "code" then "base" else name) hbuild
    (by decide) (by decide) ?_⟩
  exact List.Perm.swap _ _ _

end Table

end TableLexer
