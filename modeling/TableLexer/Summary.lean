import TableLexer.Token

/-!
# Summaries

A few figures about a long list of tokens.
-/

namespace TableLexer

/-- Figures about a list of tokens. -/
structure Summary where
  /-- The number of tokens. -/
  count : Nat
  /-- The number of tokens of each kind that occurs. -/
  kinds : List (Kind × Nat)
  /-- The bytes of the longest token. -/
  longest : Nat
  /-- The last three tokens, or all if there are fewer. -/
  tail : List Token
deriving DecidableEq, Repr

/-- The figures about a list of tokens. -/
def Summary.ofTokens (ts : List Token) : Summary where
  count := ts.length
  kinds := (Kind.all.map fun k => (k, ts.countP (·.kind == k))).filter (0 < ·.2)
  longest := ts.foldl (fun n t => max n (byteLength t.text.toList)) 0
  tail := ts.drop (ts.length - 3)

end TableLexer
