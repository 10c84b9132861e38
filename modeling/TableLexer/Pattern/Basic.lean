import TableLexer.Unicode.Word

/-!
# Patterns

The tree of a pattern. A pattern reads characters one at a time, looks at the characters on both
sides of a position, and marks where its groups begin and end. What an assertion needs to know is
only the character before and the character after, so `Assertion.holds` takes these two.
-/

namespace TableLexer.Pattern
open Unicode (CharSet)

/-- A condition on a position in the text. -/
inductive Assertion
  | textStart | textEnd
  /-- After a line feed, or at the start of the text. -/
  | lineStart
  /-- Before a line feed, or at the end of the text. -/
  | lineEnd
  /-- As `lineStart`, where a carriage return ends a line too and the two together end one line. -/
  | lineStartCR
  | lineEndCR
  /-- Between a character of the set and one outside, in either order. -/
  | boundary (word : CharSet)
  | notBoundary (word : CharSet)
  | wordStart (word : CharSet)
  | wordEnd (word : CharSet)
  /-- Not after a character of the set. -/
  | wordStartHalf (word : CharSet)
  /-- Not before a character of the set. -/
  | wordEndHalf (word : CharSet)

/-- Whether a condition holds between two characters; `none` stands for an end of the text. -/
def Assertion.holds (a : Assertion) (before after : Option Char) : Bool :=
  match a with
  | textStart => before.isNone
  | textEnd => after.isNone
  | lineStart => before.isNone || before == some '\n'
  | lineEnd => after.isNone || after == some '\n'
  | lineStartCR =>
    before.isNone || before == some '\n' || (before == some '\r' && after != some '\n')
  | lineEndCR =>
    after.isNone || after == some '\r' || (after == some '\n' && before != some '\r')
  | boundary w => before.any w.contains != after.any w.contains
  | notBoundary w => before.any w.contains == after.any w.contains
  | wordStart w => !before.any w.contains && after.any w.contains
  | wordEnd w => before.any w.contains && !after.any w.contains
  | wordStartHalf w => !before.any w.contains
  | wordEndHalf w => !after.any w.contains

/-- The tree of a pattern. Where a node can match in more than one way, the ways are ordered: the
left alternative first, and one more repetition first if the repetition is greedy. -/
inductive Node
  /-- Matches the empty text. -/
  | empty
  /-- Matches one character of the set. -/
  | one (set : CharSet)
  /-- Matches the empty text where the condition holds. -/
  | look (condition : Assertion)
  /-- Marks what the body matches as the group with the given number. -/
  | group (index : Nat) (body : Node)
  | seq (first second : Node)
  | alt (first second : Node)
  /-- Matches the body `least` times up to `most` times, or without limit. -/
  | repeated (body : Node) (least : Nat) (most : Option Nat) (greedy : Bool)
deriving Inhabited

namespace Node

/-- The nodes one after another. -/
def ofSeq : List Node → Node
  | [] => empty
  | [n] => n
  | n :: ns => seq n (ofSeq ns)

/-- The nodes as alternatives. -/
def ofAlts : List Node → Node
  | [] => empty
  | [n] => n
  | n :: ns => alt n (ofAlts ns)

/-- A text, character by character. -/
def ofText (cs : List Char) : Node :=
  ofSeq (cs.map fun c => one (.single c))

/-- A repetition; what is repeated no times at all is empty and has no groups left. -/
def repetition (body : Node) (least : Nat) (most : Option Nat) (greedy : Bool) : Node :=
  if most = some 0 then empty else repeated body least most greedy

/-- The number of groups. -/
def groupCount : Node → Nat
  | empty | one _ | look _ => 0
  | group _ body => body.groupCount + 1
  | seq a b | alt a b => a.groupCount + b.groupCount
  | repeated body _ _ _ => body.groupCount

end Node

end TableLexer.Pattern
