import TableLexer.Pattern.Parser
import TableLexer.Pattern.Program

/-!
# Matching

A pattern is matched at one position of a text. All ways to match advance together, one character
at a time and in order of preference; of two ways that come to the same instruction at the same
position only the preferred one is kept. The first way that accepts wins over all that are less
preferred, however long they are.
-/

namespace TableLexer

/-- A pattern: its tree and the program that matches it, with the place where the program starts. -/
structure Pattern where
  node : Pattern.Node
  program : Pattern.Program
  entry : Nat
deriving Inhabited

namespace Pattern

/-- The pattern of a tree. -/
def ofNode (n : Node) : Pattern :=
  let (entry, program) := n.emit 0 #[.accept]
  { node := n, program, entry }

/-- The pattern that a text describes. A text is refused only for its form: the limits of the regex library
on the nesting (250 levels) and on the size of the compiled pattern (10 MiB) are not modelled. -/
def read (text : String) : Except Fault Pattern :=
  (readNode text.toList).map ofNode

/-- The number of groups. -/
def groupCount (p : Pattern) : Nat := p.node.groupCount

/-- The places that have been marked, latest first: a slot and a number of characters read. -/
abbrev Marks := List (Nat × Nat)

/-- A way to match that waits at an instruction which reads or accepts. -/
structure Thread where
  index : Nat
  marks : Marks

/-- The ways to match at one position: which instructions have been reached, and where ways wait,
the least preferred first. -/
structure Front where
  seen : Array Bool
  threads : List Thread

/-- A position: the number of characters read and the characters on both sides. -/
structure Place where
  count : Nat
  before : Option Char
  after : Option Char

/-- No way yet. -/
def Front.start (p : Program) : Front := ⟨.replicate p.size false, []⟩

/-- Follows the program from an instruction to where it waits. Since an instruction is entered once
only, no way is longer than the program; `fuel` bounds its length. -/
def visit (p : Program) (at_ : Place) : Nat → Nat → Marks → Front → Front
  | 0, _, _, front => front
  | fuel + 1, index, marks, front =>
    if front.seen.getD index true then front
    else
      let front := { front with seen := front.seen.setIfInBounds index true }
      match p.getD index .accept with
      | .accept | .read .. => { front with threads := ⟨index, marks⟩ :: front.threads }
      | .look condition next =>
        if condition.holds at_.before at_.after then visit p at_ fuel next marks front else front
      | .mark slot next => visit p at_ fuel next ((slot, at_.count) :: marks) front
      | .fork first second =>
        visit p at_ fuel second marks (visit p at_ fuel first marks front)

/-- The ways that can be reached from an instruction, added to a front. -/
def enter (p : Program) (at_ : Place) (index : Nat) (marks : Marks) (front : Front) : Front :=
  visit p at_ (p.size + 1) index marks front

/-- The ways that are left after a character has been read, in order of preference. -/
def advance (p : Program) (at_ : Place) (c : Char) (threads : List Thread) : List Thread :=
  let front := threads.foldl (fun front t =>
    match p.getD t.index .accept with
    | .read set next => if set.contains c then enter p at_ next t.marks front else front
    | _ => front) (Front.start p)
  front.threads.reverse

/-- A match: the number of characters in it and the places marked. -/
structure Match where
  length : Nat
  marks : Marks

/-- Whether a way accepts. -/
def Thread.accepts (p : Program) (t : Thread) : Bool :=
  match p.getD t.index .accept with
  | .accept => true
  | _ => false

/-- Matches the text from a place on, given the ways that lead there in order of preference and the
best match so far. -/
def run (p : Program) (count : Nat) (threads : List Thread) (best : Option Match) :
    List Char → Option Match
  | [] =>
    match threads.find? (·.accepts p) with
    | some t => some ⟨count, t.marks⟩
    | none => best
  | c :: cs =>
    let best := match threads.find? (·.accepts p) with
      | some t => some ⟨count, t.marks⟩
      | none => best
    match threads.takeWhile (!·.accepts p) with
    | [] => best
    | live => run p (count + 1) (advance p ⟨count + 1, some c, cs.head?⟩ c live) best cs

/-- The preferred match at the start of a text; `before` is the character before it. -/
def match? (p : Pattern) (before : Option Char) (text : List Char) : Option Match :=
  let front := enter p.program ⟨0, before, text.head?⟩ p.entry [] (Front.start p.program)
  run p.program 0 front.threads.reverse none text

/-- Where a group begins and ends, if it took part in the match. -/
def Match.group? (m : Match) (index : Nat) : Option (Nat × Nat) := do
  let first ← m.marks.lookup (2 * index)
  let last ← m.marks.lookup (2 * index + 1)
  return (first, last)

end Pattern

end TableLexer
