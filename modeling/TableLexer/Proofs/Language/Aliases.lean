import TableLexer.Language
import TableLexer.Proofs.Unicode.CaseFold

/-!
# Languages by their short names

`findByAlias_exact`: a language is found by its short name in any case of ASCII letters, and by nothing else. No
other language goes by this name, and no name with a character beyond ASCII is found, although names are compared by
full case folding.

Proof. The short names are plain words (`CaseFold.Plain`): what a ligature or another lookalike is folded to is part of
none of them. So comparing with full folding is comparing small letters (`hasAlias_iff`), and no two languages have a
short name in common.
-/

namespace TableLexer.Language
open Unicode

section Names
variable {k l : Language} {name : String}

theorem plain_of_mem_aliases (h : name ∈ l.aliases) : CaseFold.Plain name.toList ∧ name.toLower = name := by
  rw [← String.toList_inj, toList_toLower]
  cases l with
  | etl | eol | emfatic =>
    obtain rfl := List.mem_singleton.mp h
    decide +kernel

theorem hasAlias_iff : l.lexer.hasAlias name = true ↔ name.toLower ∈ l.aliases := by
  show l.aliases.any (CaseFold.eqIgnoringCase · name) = true ↔ _
  rw [List.any_eq_true]
  constructor
  · rintro ⟨short, hshort, heq⟩
    obtain ⟨hplain, hsmall⟩ := plain_of_mem_aliases hshort
    rw [CaseFold.eqIgnoringCase_iff hplain, hsmall] at heq
    rwa [heq]
  · intro h
    obtain ⟨hplain, hsmall⟩ := plain_of_mem_aliases h
    exact ⟨_, h, (CaseFold.eqIgnoringCase_iff hplain).mpr hsmall.symm⟩

theorem eq_of_mem_aliases (hk : name ∈ k.aliases) (hl : name ∈ l.aliases) : k = l := by
  cases k <;> cases l <;> simp_all [aliases]

theorem mem_all (l : Language) : l ∈ all := by
  cases l <;> decide

theorem hasAlias_of_findByAlias? : findByAlias? name = some l → l.lexer.hasAlias name = true :=
  List.find?_some

/-- The language that is found is the one that goes by the name. -/
theorem findByAlias?_iff : findByAlias? name = some l ↔ l.lexer.hasAlias name = true := by
  constructor
  · exact hasAlias_of_findByAlias?
  · intro h
    cases hfound : findByAlias? name with
    | none => exact absurd h (List.find?_eq_none.mp hfound l (mem_all l))
    | some k =>
      have hk := hasAlias_of_findByAlias? hfound
      rw [eq_of_mem_aliases (hasAlias_iff.mp hk) (hasAlias_iff.mp h)]

end Names

/-- **A language is found by its short name**, in any case of ASCII letters, and by nothing else. The language that is
found is the only one to go by the name. A name with a character beyond ASCII in it is not found. -/
theorem findByAlias_exact (name : String) :
    (findByAlias? name = some etl ↔ name.toLower = "etl") ∧
      (findByAlias? name = some eol ↔ name.toLower = "eol") ∧
      (findByAlias? name = some emfatic ↔ name.toLower = "emfatic") ∧
      (∀ l : Language, l.lexer.hasAlias name = true ↔ findByAlias? name = some l) ∧
      ∀ c ∈ name.toList, c ∉ CharSet.ascii → findByAlias? name = none := by
  have hfound (l : Language) : findByAlias? name = some l ↔ name.toLower ∈ l.aliases :=
    findByAlias?_iff.trans hasAlias_iff
  refine ⟨?_, ?_, ?_, fun l => findByAlias?_iff.symm, ?_⟩
  · rw [hfound, aliases, List.mem_singleton]
  · rw [hfound, aliases, List.mem_singleton]
  · rw [hfound, aliases, List.mem_singleton]
  · intro c hc hbeyond
    cases hsome : findByAlias? name with
    | none => rfl
    | some l =>
      -- the small letters of the name are a short name, so its characters are in ASCII
      obtain ⟨hplain, -⟩ := plain_of_mem_aliases ((hfound l).mp hsome)
      have hmem : c.toLower ∈ name.toLower.toList := by
        rw [toList_toLower]
        exact List.mem_map_of_mem hc
      exact absurd (toLower_mem_ascii.mp (hplain.ascii _ hmem)) hbeyond

end TableLexer.Language
