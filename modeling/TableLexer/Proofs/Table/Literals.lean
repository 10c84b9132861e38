import TableLexer.Proofs.Pattern.Closing
import TableLexer.Proofs.Pattern.Delimited
import TableLexer.Proofs.Table.Build

/-!
# The rules for literals

`resolve_quoted`: a rule for a literal in quotes always resolves, in any state of any table, whatever characters
the quote and the escape character are. If they differ, its pattern matches exactly where the quote stands and
one that is not escaped follows, and the match ends right after the first such quote.

`resolve_delimited`: so does a rule for a literal between two texts, whatever these are. Its pattern matches exactly
where the opener stands and the closer stands somewhere after it, and the match ends right after the first closer
that does not overlap the opener.

Proof. The text of a pattern is made of escaped characters, and it is read as the tree `quotedNode` or
`delimitedNode` for all of them (`Pattern.readNode_quotedPattern`, `Pattern.readNode_delimitedPattern`). What the
trees match is known from the units between the quotes (`Pattern.match?_quotedNode_eq_some`) and from the gap before
the first closer (`Pattern.match?_delimitedNode_iff`).
-/

namespace TableLexer.Table
open Pattern (Unescaped FirstUnescaped Units quotedNode FirstCloser delimitedNode)

/-! ## Literals in quotes -/

section Quoted
variable {quote escape : Char} {before : Option Char} {text rest body : List Char} {m : Pattern.Match}

theorem read_quotedPattern (quote escape : Char) :
    Pattern.read (.ofList (Rule.quotedPattern quote escape)) = .ok (.ofNode (quotedNode quote escape)) := by
  rw [Pattern.read, String.toList_ofList, Pattern.readNode_quotedPattern]
  rfl

theorem exists_match?_quoted_iff (hne : quote ≠ escape) :
    (∃ m, (Pattern.ofNode (quotedNode quote escape)).match? before text = some m) ↔
      ∃ rest body, text = quote :: rest ∧ Unescaped quote escape rest body := by
  constructor
  · rintro ⟨m, hm⟩
    obtain ⟨rest, body, htext, hfirst, -⟩ := (Pattern.match?_quotedNode_eq_some hne).mp hm
    exact ⟨rest, body, htext, hfirst.unescaped⟩
  · rintro ⟨rest, body, htext, hunescaped⟩
    obtain ⟨first, -, hfirst⟩ := hunescaped.exists_first hne
    exact ⟨_, (Pattern.match?_quotedNode_eq_some hne).mpr ⟨rest, first, htext, hfirst, rfl⟩⟩

/-- **Literals in quotes.** A rule for a literal in quotes resolves to an entry with a pattern. It matches at a
position exactly if the quote stands there and a later one has an even number of escape characters right before
it, counted after the first. The match ends right after the first such quote. -/
theorem resolve_quoted (hne : quote ≠ escape) (kind : Kind) : ∃ pattern,
    (∀ names state index slots, resolve names state index slots (.quoted quote escape kind) =
      .ok (⟨{}, .scan pattern (some ⟨quote.toString, slots⟩) (.whole kind)⟩, slots + 1)) ∧
    ∀ before text,
      ((∃ m, pattern.match? before text = some m) ↔
        ∃ rest body, text = quote :: rest ∧ Unescaped quote escape rest body) ∧
      ∀ m, pattern.match? before text = some m →
        ∃ rest body, text = quote :: rest ∧ FirstUnescaped quote escape rest body ∧ m.length = body.length + 2 := by
  refine ⟨.ofNode (quotedNode quote escape), ?_, ?_⟩
  · intro names state index slots
    apply resolve_eq_ok.mpr
    apply Resolved.scan (by simp) (read_quotedPattern quote escape)
    intro kinds hkinds
    cases hkinds
  · intro before text
    refine ⟨exists_match?_quoted_iff hne, ?_⟩
    intro m hm
    obtain ⟨rest, body, htext, hfirst, rfl⟩ := (Pattern.match?_quotedNode_eq_some hne).mp hm
    exact ⟨rest, body, htext, hfirst, rfl⟩

end Quoted

/-- Between hyphens, a caret keeps the next hyphen from ending the literal. -/
theorem resolve_quoted_hyphens :
    ∃ pattern, (∀ names state index slots, resolve names state index slots (.quoted '-' '^' .string) =
        .ok (⟨{}, .scan pattern (some ⟨"-", slots⟩) (.whole .string)⟩, slots + 1)) ∧
      ∃ m, pattern.match? (some '^') "-a^-b-c-".toList = some m ∧ m.length = 6 := by
  have hne : '-' ≠ '^' := by decide
  obtain ⟨pattern, hresolve, hmatch⟩ := resolve_quoted hne .string
  obtain ⟨hiff, hend⟩ := hmatch (some '^') "-a^-b-c-".toList
  have hunits : Units '-' '^' ['a', '^', '-', 'b'] :=
    .plain (by decide) (by decide) (.escaped (.plain (by decide) (by decide) .nil))
  have hfirst : FirstUnescaped '-' '^' ['a', '^', '-', 'b', '-', 'c', '-'] ['a', '^', '-', 'b'] :=
    hunits.firstUnescaped (by decide) (by decide)
  obtain ⟨m, hm⟩ := hiff.mpr ⟨_, _, rfl, hfirst.unescaped⟩
  obtain ⟨rest, body, htext, hbody, hlength⟩ := hend m hm
  have hrest : rest = ['a', '^', '-', 'b', '-', 'c', '-'] := (List.cons.inj htext).2.symm
  rw [hrest] at hbody
  rw [hbody.unique hfirst] at hlength
  exact ⟨pattern, hresolve, m, hm, hlength⟩

/-! ## Literals between two texts -/

theorem resolve_literal {text : String} {pattern : Pattern} (hread : Pattern.read text = .ok pattern)
    (opener : String) (kind : Kind) (names : List String) (state : String) (index slots : Nat) :
    resolve names state index slots ⟨.scan text (some opener) (.whole kind), {}⟩ =
      .ok (⟨{}, .scan pattern (some ⟨opener, slots⟩) (.whole kind)⟩, slots + 1) := by
  apply resolve_eq_ok.mpr
  apply Resolved.scan (by simp) hread
  intro kinds hkinds
  cases hkinds

section Delimited
variable {opener closer : List Char} {before : Option Char} {text : List Char}

theorem read_delimitedPattern (opener closer : List Char) :
    Pattern.read (.ofList (Rule.delimitedPattern opener closer)) = .ok (.ofNode (delimitedNode opener closer)) := by
  rw [Pattern.read, String.toList_ofList, Pattern.readNode_delimitedPattern]
  rfl

theorem exists_match?_delimited_iff :
    (∃ m, (Pattern.ofNode (delimitedNode opener closer)).match? before text = some m) ↔
      ∃ rest, text = opener ++ rest ∧ closer <:+: rest := by
  constructor
  · rintro ⟨m, hm⟩
    obtain ⟨body, rest, htext, hfirst, -⟩ := Pattern.match?_delimitedNode_iff.mp hm
    obtain ⟨after, hcloses⟩ := hfirst.closes
    exact ⟨rest, htext, body, after, hcloses⟩
  · rintro ⟨rest, htext, gap, after, hcloses⟩
    obtain ⟨body, hfirst⟩ := Pattern.exists_firstCloser ⟨after, hcloses⟩
    exact ⟨_, Pattern.match?_delimitedNode_iff.mpr ⟨body, rest, htext, hfirst, rfl⟩⟩

/-- **Literals between two texts.** A rule for a literal between two texts resolves to an entry with a pattern. It
matches at a position exactly if the opener stands there and the closer stands somewhere in the text after the
opener. The match ends right after the first such closer. -/
theorem resolve_delimited (opener closer : String) (kind : Kind) : ∃ pattern,
    (∀ names state index slots, resolve names state index slots (.delimited opener closer kind) =
      .ok (⟨{}, .scan pattern (some ⟨opener, slots⟩) (.whole kind)⟩, slots + 1)) ∧
    ∀ before text,
      ((∃ m, pattern.match? before text = some m) ↔
        ∃ rest, text = opener.toList ++ rest ∧ closer.toList <:+: rest) ∧
      ∀ m, pattern.match? before text = some m →
        ∃ rest body, text = opener.toList ++ rest ∧ FirstCloser closer.toList rest body ∧
          m.length = opener.length + body.length + closer.length := by
  refine ⟨.ofNode (delimitedNode opener.toList closer.toList), ?_, ?_⟩
  · exact resolve_literal (read_delimitedPattern opener.toList closer.toList) opener kind
  · intro before text
    refine ⟨exists_match?_delimited_iff, ?_⟩
    intro m hm
    obtain ⟨body, rest, htext, hfirst, rfl⟩ := Pattern.match?_delimitedNode_iff.mp hm
    refine ⟨rest, body, htext, hfirst, ?_⟩
    simp only [String.length_toList]
    omega

end Delimited

/-- The star of the opener `/*` is no part of a closer `*/`, so the first closer is the second `*/`. -/
example : (Pattern.ofNode (delimitedNode ['/', '*'] ['*', '/'])).match? none "/*/".toList = none ∧
    (Pattern.ofNode (delimitedNode ['/', '*'] ['*', '/'])).match? none "/*/*/*/".toList = some ⟨5, []⟩ :=
  ⟨rfl, rfl⟩

end TableLexer.Table
