/-!
# The log

What the library reports while it works: that a table was built, that a literal has no end, that
states were changed in a circle.
-/

namespace TableLexer

/-- Something worth a line in the log. -/
inductive Event
  /-- A table was built. -/
  | built (states rules : Nat)
  /-- A literal is opened at an offset and never closed. -/
  | noCloser (opener : String) (offset : Nat)
  /-- The state changed again and again at one offset. -/
  | circle (offset : Nat)
deriving DecidableEq, Repr

/-- The line of an event, with its level. -/
def Event.message : Event → String
  | built states rules => s!"DEBUG compiled lexer table with {states} states and {rules} rules"
  | noCloser opener offset => s!"TRACE no closer for `{opener}` after offset {offset}"
  | circle offset => s!"TRACE rule-states loop without consuming input at offset {offset}"

end TableLexer
