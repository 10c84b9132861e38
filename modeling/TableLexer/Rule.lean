import TableLexer.Kind
import TableLexer.Pattern.Escape

/-!
# Rules

A rule says what to do at a position of the input: take what a pattern matches as tokens, or go to
another state without taking anything. A guard may tie it to the text just before the position.
-/

namespace TableLexer

/-- What becomes of a match. -/
inductive Emission
  /-- One token for the whole match. -/
  | whole (kind : Kind)
  /-- A token for each group in turn, and plain text for what is between them. -/
  | groups (kinds : List Kind)
deriving DecidableEq, Repr

/-- What a rule does. -/
inductive Rule.Body
  /-- Takes what the pattern matches. A rule for a literal also knows the text that opens it. -/
  | scan (pattern : String) (opener : Option String) (emission : Emission)
  /-- Enters a state, and remembers the current one. -/
  | push (state : String)
  /-- Goes back to the state before the last one entered. -/
  | pop
deriving DecidableEq, Repr

/-- A condition on the text before a position. -/
structure Guard where
  /-- If given, one of these must stand right before the position. -/
  after : Option (List String) := none
  /-- None of these may stand right before the position. -/
  notAfter : List String := []
deriving DecidableEq, Repr

/-- A rule of a lexer table. -/
structure Rule where
  body : Rule.Body
  guard : Guard := {}
deriving DecidableEq, Repr

namespace Rule

/-- A rule that makes one token of each match. -/
def token (pattern : String) (kind : Kind) : Rule := ⟨.scan pattern none (.whole kind), {}⟩

/-- A rule that makes a token of each group of a match. -/
def groups (pattern : String) (kinds : List Kind) : Rule :=
  ⟨.scan pattern none (.groups kinds), {}⟩

/-- The pattern of a literal that runs from an opener to the first closer after it. -/
def delimitedPattern (opener closer : List Char) : List Char :=
  Pattern.escaped opener ++ ".*?".toList ++ Pattern.escaped closer

/-- A rule for a literal that runs from an opener to the first closer after it. -/
def delimited (opener closer : String) (kind : Kind) : Rule :=
  ⟨.scan (.ofList (delimitedPattern opener.toList closer.toList)) (some opener) (.whole kind), {}⟩

/-- The pattern of a literal in quotes, in which an escape character makes the next character part
of the literal. -/
def quotedPattern (quote escape : Char) : List Char :=
  let q := Pattern.escaped [quote]
  let e := Pattern.escaped [escape]
  q ++ "(?:[^".toList ++ q ++ e ++ "]|".toList ++ e ++ ".)*".toList ++ q

/-- A rule for a literal in quotes, in which an escape character makes the next character part of
the literal. -/
def quoted (quote escape : Char) (kind : Kind) : Rule :=
  ⟨.scan (.ofList (quotedPattern quote escape)) (some quote.toString) (.whole kind), {}⟩

/-- A rule that always enters a state. -/
def push (state : String) : Rule := ⟨.push state, {}⟩

/-- A rule that always goes back to the state before. -/
def pop : Rule := ⟨.pop, {}⟩

/-- The rule, tied to positions right after one of the given texts. -/
def after (r : Rule) (texts : List String) : Rule :=
  { r with guard := { r.guard with after := some texts } }

/-- The rule, kept from positions right after one of the given texts. -/
def notAfter (r : Rule) (texts : List String) : Rule :=
  { r with guard := { r.guard with notAfter := r.guard.notAfter ++ texts } }

/-- The pattern of a rule, if it has one. -/
def pattern? (r : Rule) : Option String :=
  match r.body with
  | .scan pattern _ _ => some pattern
  | _ => none

end Rule

/-- Whether a text stands right before a position; what is before is given backwards. -/
def endsWith (before : List Char) (text : String) : Bool :=
  text.toList.reverse.isPrefixOf before

/-- Whether a guard lets a rule be tried; what is before the position is given backwards. -/
def Guard.allows (g : Guard) (before : List Char) : Bool :=
  g.after.all (·.any (endsWith before)) && !g.notAfter.any (endsWith before)

end TableLexer
