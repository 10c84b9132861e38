import TableLexer.Pattern.Basic

/-!
# Programs

A pattern is run as a program: instructions that read a character, look at the position, mark a
place, or fork into two ways of which the first is preferred. A node is laid out towards a given
continuation: `Node.emit n next p` adds the instructions of `n` to `p` so that they end at `next`,
and says where they begin.
-/

namespace TableLexer.Pattern
open Unicode (CharSet)

/-- An instruction; `next` is where the program goes on. -/
inductive Instr
  | accept
  | read (set : CharSet) (next : Nat)
  | look (condition : Assertion) (next : Nat)
  | mark (slot : Nat) (next : Nat)
  | fork (first second : Nat)
deriving Inhabited

/-- Instructions, each known by its index. -/
abbrev Program := Array Instr

namespace Program

/-- Adds an instruction and gives its index. -/
def add (p : Program) (i : Instr) : Nat × Program := (p.size, p.push i)

/-- A fork between one more repetition and going on, in the order that greed asks for. -/
def choice (greedy : Bool) (again done : Nat) : Instr :=
  if greedy then .fork again done else .fork done again

/-- A way to lay out a part of a program towards a continuation. -/
abbrev Layout := Nat → Program → Nat × Program

/-- The part, `count` times in a row. -/
def emitTimes (body : Layout) : Nat → Layout
  | 0, next, p => (next, p)
  | n + 1, next, p =>
    let (entry, p) := emitTimes body n next p
    body entry p

/-- The part, once or more: after the part, a fork leads back to its beginning. -/
def emitLoop (body : Layout) (greedy : Bool) : Layout := fun next p =>
  let (back, p) := p.add (choice greedy next next)
  let (entry, p) := body back p
  (entry, p.setIfInBounds back (choice greedy entry next))

/-- The part or nothing, where `done` is the continuation of nothing. -/
def emitOption (body : Layout) (greedy : Bool) (done : Nat) : Layout := fun next p =>
  let (entry, p) := body next p
  p.add (choice greedy entry done)

/-- The part up to `count` times; each time may be the last. -/
def emitUpTo (body : Layout) (greedy : Bool) (done : Nat) : Nat → Layout
  | 0, next, p => (next, p)
  | n + 1, next, p =>
    let (entry, p) := emitUpTo body greedy done n next p
    emitOption body greedy done entry p

/-- The part, at least `least` times and at most `most` times. A part that may be absent and has no
limit is laid out as an optional loop, so that a body which matches the empty text keeps its place
in the order of preference. -/
def emitRepeated (body : Layout) (least : Nat) (most : Option Nat) (greedy : Bool) : Layout :=
  fun next p =>
    match least, most with
    | 0, none =>
      let (entry, p) := emitLoop body greedy next p
      p.add (choice greedy entry next)
    | least + 1, none =>
      let (entry, p) := emitLoop body greedy next p
      emitTimes body least entry p
    | least, some most =>
      let (entry, p) := emitUpTo body greedy next (most - least) next p
      emitTimes body least entry p

end Program

open Program in
/-- Lays out a node. -/
def Node.emit : Node → Layout
  | empty, next, p => (next, p)
  | one set, next, p => p.add (.read set next)
  | look condition, next, p => p.add (.look condition next)
  | group index body, next, p =>
    let (close, p) := p.add (.mark (2 * index + 1) next)
    let (entry, p) := body.emit close p
    p.add (.mark (2 * index) entry)
  | seq a b, next, p =>
    let (entry, p) := b.emit next p
    a.emit entry p
  | alt a b, next, p =>
    let (second, p) := b.emit next p
    let (first, p) := a.emit next p
    p.add (.fork first second)
  | repeated body least most greedy, next, p =>
    emitRepeated body.emit least most greedy next p

end TableLexer.Pattern
