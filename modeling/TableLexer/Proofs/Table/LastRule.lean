import TableLexer.Proofs.Table.Variants

/-!
# A rule added last

`tokenize_lastRule`: a rule that is added at the end of a state acts only where scanning would have made an
error token otherwise.

Proof. The longer table is a variant of the shorter one (`variant_of_append`), so scanners for the two are
alike until the first one makes an error token.
-/

namespace TableLexer.Table

section LastRule
variable {init tail : List StateSpec} {name : String} {rules : List Rule} {rule : Rule} {t t' : Table}

theorem variant_of_append (hnames : ((init ++ ⟨name, rules⟩ :: tail).map (·.name)).Nodup) :
    Variant id (fun spec => if spec.name = name then [rule] else []) (init ++ ⟨name, rules⟩ :: tail)
      (init ++ ⟨name, rules ++ [rule]⟩ :: tail) where
  root := rfl
  injective _ _ _ _ h := h
  size := by rw [List.length_append, List.length_append, List.length_cons, List.length_cons]
  mem spec hspec := by
    have hmiddle := hnames
    rw [List.map_append, List.map_cons, List.nodup_middle, List.nodup_cons, ← List.map_append] at hmiddle
    have hother (h : spec ∈ init ++ tail) : spec.name ≠ name := fun hname =>
      hmiddle.1 (List.mem_map.mpr ⟨spec, h, hname⟩)
    rw [Rule.rename_id, List.map_id, id_eq]
    simp only [List.mem_append, List.mem_cons] at hspec hother ⊢
    rcases hspec with hspec | rfl | hspec
    · rw [if_neg (hother (.inl hspec)), List.append_nil]
      exact .inl hspec
    · rw [if_pos rfl]
      exact .inr (.inl rfl)
    · rw [if_neg (hother (.inr hspec)), List.append_nil]
      exact .inr (.inr hspec)

/-- **A rule added last acts only where scanning failed.** If a table is built with and without a further
rule at the end of a state, then the tokens that the shorter table gives before its first error token are the
first tokens that the longer one gives; without an error token they give the same. -/
theorem tokenize_lastRule (hbuild : build (init ++ ⟨name, rules⟩ :: tail) = .ok t)
    (hbuild' : build (init ++ ⟨name, rules ++ [rule]⟩ :: tail) = .ok t') (input : String) :
    (t.tokenize input).takeWhile (·.kind ≠ .error) <+: t'.tokenize input ∧
      ((∀ token ∈ t.tokenize input, token.kind ≠ .error) → t'.tokenize input = t.tokenize input) := by
  have hvariant : Variant id _ _ (init ++ ⟨name, rules ++ [rule]⟩ :: tail) :=
    variant_of_append (exists_build_iff.mp ⟨t, hbuild⟩).names
  have ht := hvariant.continues hbuild hbuild'
  rcases (Scanner.Alike.inTandem ht).drain (.start ht input) with
    ⟨htokens, -⟩ | ⟨-, ts, token, us, us', herror, htokens, htokens'⟩
  · refine ⟨?_, fun _ => htokens⟩
    rw [tokenize, tokenize, htokens]
    exact List.takeWhile_prefix _
  · rw [tokenize, tokenize, htokens, htokens']
    constructor
    · have hstop : List.takeWhile (·.kind ≠ .error) (token :: us) = [] :=
        List.takeWhile_cons_of_neg (by simp [herror])
      refine List.IsPrefix.trans ?_ (List.prefix_append ts us')
      rw [List.takeWhile_append, hstop, List.append_nil]
      split
      · exact List.prefix_refl ts
      · exact List.takeWhile_prefix _
    · intro hnone
      exact absurd herror (hnone token (List.mem_append_right ts List.mem_cons_self))

end LastRule

/-- A table without the rule for strings. -/
def barTable : Table := ⟨[
  ⟨"root", [⟨{}, .scan (.ofNode (Pattern.quotedNode '|' '\\')) (some ⟨"|", 0⟩) (.whole .name)⟩]⟩,
  ⟨"rest", [⟨{}, .scan (.ofNode (Pattern.quotedNode '#' '\\')) (some ⟨"#", 1⟩) (.whole .text)⟩]⟩], 0⟩

/-- The same table with a rule for strings in its first state. -/
def barQuoteTable : Table := ⟨[
  ⟨"root", [⟨{}, .scan (.ofNode (Pattern.quotedNode '|' '\\')) (some ⟨"|", 0⟩) (.whole .name)⟩,
    ⟨{}, .scan (.ofNode (Pattern.quotedNode '"' '\\')) (some ⟨"\"", 1⟩) (.whole .string)⟩]⟩,
  ⟨"rest", [⟨{}, .scan (.ofNode (Pattern.quotedNode '#' '\\')) (some ⟨"#", 2⟩) (.whole .text)⟩]⟩], 0⟩

/-- The rule for strings that is added changes the number of the rule in the second state. -/
theorem tokenize_lastRule_barTable :
    let rules : List Rule := [.quoted '|' '\\' .name]
    let tail : List StateSpec := [⟨"rest", [.quoted '#' '\\' .text]⟩]
    build ([] ++ ⟨"root", rules⟩ :: tail) = .ok barTable ∧
      build ([] ++ ⟨"root", rules ++ [.quoted '"' '\\' .string]⟩ :: tail) = .ok barQuoteTable ∧
      ∀ input, (barTable.tokenize input).takeWhile (·.kind ≠ .error) <+: barQuoteTable.tokenize input ∧
        ((∀ token ∈ barTable.tokenize input, token.kind ≠ .error) →
          barQuoteTable.tokenize input = barTable.tokenize input) := by
  intro rules tail
  have hbuild : build ([] ++ ⟨"root", rules⟩ :: tail) = .ok barTable := rfl
  have hbuild' : build ([] ++ ⟨"root", rules ++ [.quoted '"' '\\' .string]⟩ :: tail) = .ok barQuoteTable := rfl
  exact ⟨hbuild, hbuild', tokenize_lastRule hbuild hbuild'⟩

end TableLexer.Table
