import TableLexer.Proofs.Language.Tables

/-!
# Highlighting is local

`tokenize_local`: in the built-in languages the tokens from a boundary on depend on the eight characters
before it and on the text after it only. Nothing else that was before can be seen in them: no literal
that was not closed, no error, no token that was still waiting.

Proof. Without openers the tables are flat and no rule is ever retired, and the tokens are the same
(`tokenize_eq_tokensFrom`). The two pieces of a comment with its line end, or of a guard with its
colon, are found again one by one, so `tokensFrom_local` applies.
-/

namespace TableLexer.Language

theorem exists_tokensFrom (l : Language) : ∃ es, (∀ e ∈ es, e.guard.Reaches 8) ∧ Resumes es ∧
    ∀ input, l.lexer.tokenize input = tokensFrom es [] input.toList 0 :=
  ⟨baseEntries l.rules, fun e he => (reaches_base l.regular_rules e he).2, resumes_base l.regular_rules,
    l.tokenize_eq_tokensFrom⟩

/-- **Highlighting is local**: if the last eight characters of two texts are the same, then with any
text after them, the tokens from a boundary at their end on are the same, except that the offsets
move. -/
theorem tokenize_local (l : Language) {x y : String} (s : String)
    (hend : x.toList.reverse.take 8 = y.toList.reverse.take 8)
    (hx : Token.IsBoundary (byteLength x.toList) (l.lexer.tokenize (x ++ s)))
    (hy : Token.IsBoundary (byteLength y.toList) (l.lexer.tokenize (y ++ s))) :
    ∃ ts : List Token, Token.startingFrom (byteLength x.toList) (l.lexer.tokenize (x ++ s))
        = ts.map (Token.shift (byteLength x.toList)) ∧
      Token.startingFrom (byteLength y.toList) (l.lexer.tokenize (y ++ s))
        = ts.map (Token.shift (byteLength y.toList)) := by
  obtain ⟨es, hreaches, hresumes, htokens⟩ := l.exists_tokensFrom
  rw [htokens, String.toList_append] at hx hy ⊢
  rw [htokens, String.toList_append]
  exact tokensFrom_local (by decide) hreaches hresumes hend hx hy

/-- The colon is found anew where `guard` names a rule, and waits where it is a label; an open quote
and an open comment before it make no difference. -/
theorem tokenize_local_guard :
    let x := "rule guard"
    let y := "\"/* mule guard"
    Token.IsBoundary (byteLength x.toList) (etl.lexer.tokenize (x ++ ": b")) ∧
      Token.IsBoundary (byteLength y.toList) (etl.lexer.tokenize (y ++ ": b")) ∧
      ∃ ts : List Token, Token.startingFrom (byteLength x.toList) (etl.lexer.tokenize (x ++ ": b"))
          = ts.map (Token.shift (byteLength x.toList)) ∧
        Token.startingFrom (byteLength y.toList) (etl.lexer.tokenize (y ++ ": b"))
          = ts.map (Token.shift (byteLength y.toList)) := by
  intro x y
  have hboundaries : Token.IsBoundary (byteLength x.toList) (etl.lexer.tokenize (x ++ ": b")) ∧
      Token.IsBoundary (byteLength y.toList) (etl.lexer.tokenize (y ++ ": b")) := by
    decide +kernel
  obtain ⟨hx, hy⟩ := hboundaries
  exact ⟨hx, hy, tokenize_local etl ": b" (by decide +kernel) hx hy⟩

end TableLexer.Language
