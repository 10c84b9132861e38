import TableLexer.Table
import TableLexer.Token
import TableLexer.Unicode.Grapheme

/-!
# Scanning

Scanning goes through the input from left to right. At each position the rules of the current state
are tried in order, and the first one that matches wins, even if a later one would match more. What
no rule matches becomes an error token of one grapheme, so that the tokens always cover the whole
input.

A rule for a literal is retired once its opener stands where it does not match: no closer follows,
so it could not match later either. Rules that only change the state could go round in a circle;
after more such changes at one position than there are states, the scanner goes back to the states
in which it came there and makes an error token.
-/

namespace TableLexer

/-- The states that have been entered: the current one and those below it. -/
structure StateStack where
  top : Nat
  below : List Nat
deriving DecidableEq, Repr

/-- Enters a state. -/
def StateStack.push (s : StateStack) (state : Nat) : StateStack := ⟨state, s.top :: s.below⟩

/-- Goes back to the state before, if there is one. -/
def StateStack.pop (s : StateStack) : StateStack :=
  match s.below with
  | [] => s
  | state :: below => ⟨state, below⟩

/-- The changes of state at one position: the stack on arrival and the number of changes since. -/
structure Detour where
  offset : Nat
  arrival : StateStack
  changes : Nat
deriving DecidableEq, Repr

/-- A scanner in the middle of its work. -/
structure Scanner where
  /-- The input already scanned, backwards. -/
  before : List Char
  /-- The input not yet scanned. -/
  rest : List Char
  /-- The number of bytes already scanned. -/
  offset : Nat
  stack : StateStack
  /-- Tokens that have been found but not handed out. -/
  pending : List Token
  detour : Option Detour
  /-- The slots of the rules that have been retired. -/
  retired : List Nat
  /-- What has been reported, latest first. -/
  log : List Event
deriving Repr

namespace Scanner

/-- A scanner at the start of an input. -/
def start (t : Table) (input : String) : Scanner where
  before := []
  rest := input.toList
  offset := 0
  stack := ⟨t.root, []⟩
  pending := []
  detour := none
  retired := []
  log := []

/-! ## Taking input -/

/-- Makes a token of the next characters. -/
def take (s : Scanner) (kind : Kind) (count : Nat) : Scanner :=
  let taken := s.rest.take count
  { s with
    before := taken.reverse ++ s.before
    rest := s.rest.drop count
    offset := s.offset + byteLength taken
    pending := s.pending ++ [⟨kind, .ofList taken, s.offset⟩] }

/-- Makes tokens of the next pieces of the input. -/
def takeAll (s : Scanner) (pieces : List (Kind × Nat)) : Scanner :=
  pieces.foldl (fun s piece => s.take piece.1 piece.2) s

/-- Makes an error token of one grapheme. -/
def takeError (s : Scanner) : Scanner :=
  s.take .error (Unicode.Grapheme.firstLength s.rest)

/-- How a match is cut into tokens, from a group and a position in the match on. A group that took
no part, is empty or begins before the position makes no token. -/
def cutGroups (m : Pattern.Match) : Nat → Nat → List Kind → List (Kind × Nat)
  | _, position, [] =>
    if position < m.length then [(.text, m.length - position)] else []
  | index, position, kind :: kinds =>
    match m.group? index with
    | none => cutGroups m (index + 1) position kinds
    | some (first, last) =>
      if last ≤ first ∨ first < position then cutGroups m (index + 1) position kinds
      else
        let rest := (kind, last - first) :: cutGroups m (index + 1) last kinds
        if position < first then (.text, first - position) :: rest else rest

/-- How a match is cut into tokens. -/
def cut (m : Pattern.Match) : Emission → List (Kind × Nat)
  | .whole kind => [(kind, m.length)]
  | .groups kinds => cutGroups m 1 0 kinds

/-! ## Rules for literals -/

/-- Whether a rule may still match: it has not been retired. -/
def mayClose (s : Scanner) (opener : Option Opener) : Bool :=
  opener.all fun o => !s.retired.contains o.slot

/-- Retires a rule that did not match although its opener stands here. -/
def retire (s : Scanner) (opener : Option Opener) : Scanner :=
  match opener with
  | none => s
  | some o =>
    if o.text.toList.isPrefixOf s.rest then
      { s with retired := o.slot :: s.retired, log := .noCloser o.text s.offset :: s.log }
    else s

/-! ## Changes of state -/

/-- The detour at the current position, begun if there is none. -/
def currentDetour (s : Scanner) : Detour :=
  match s.detour with
  | some d => if d.offset = s.offset then d else ⟨s.offset, s.stack, 0⟩
  | none => ⟨s.offset, s.stack, 0⟩

/-- Changes the stack of states, or breaks out of a circle. -/
def change (s : Scanner) (t : Table) (move : StateStack → StateStack) : Scanner :=
  let d := s.currentDetour
  if t.states.length < d.changes + 1 then
    takeError { s with stack := d.arrival, detour := none, log := .circle s.offset :: s.log }
  else
    { s with stack := move s.stack, detour := some { d with changes := d.changes + 1 } }

/-! ## Steps -/

/-- What became of a rule: it was used, or it was passed over. -/
inductive Outcome
  | used (s : Scanner)
  | passed (s : Scanner)

/-- Tries a rule. -/
def tryEntry (s : Scanner) (t : Table) (e : Entry) : Outcome :=
  if !e.guard.allows s.before then .passed s
  else match e.action with
    | .push state => .used (s.change t (·.push state))
    | .pop => .used (s.change t (·.pop))
    | .scan pattern opener emission =>
      if !s.mayClose opener then .passed s
      else match pattern.match? s.before.head? s.rest with
        | none => .passed (s.retire opener)
        | some m =>
          if m.length = 0 then .passed (s.retire opener)
          else .used (s.takeAll (cut m emission))

/-- Tries rules in order until one is used; if none is, makes an error token. -/
def tryEntries (t : Table) : List Entry → Scanner → Scanner
  | [], s => s.takeError
  | e :: es, s =>
    match s.tryEntry t e with
    | .used s => s
    | .passed s => tryEntries t es s

/-- Scans until a token is found or the state changes. -/
def step (t : Table) (s : Scanner) : Scanner :=
  tryEntries t (t.entries s.stack.top) s

/-- The next token, found in no more steps than given, and the scanner after it. -/
def nextWithin (t : Table) : Nat → Scanner → Option Token × Scanner
  | steps, s =>
    match s.pending with
    | token :: pending => (some token, { s with pending })
    | [] =>
      match steps, s.rest with
      | _, [] => (none, s)
      | 0, _ => (none, s)
      | steps + 1, _ => nextWithin t steps (s.step t)

/-- The next token and the scanner after it. A position can see as many changes of state as the
table has states; the step after these makes a token. -/
def next (t : Table) (s : Scanner) : Option Token × Scanner :=
  nextWithin t (t.states.length + 1) s

/-- At most so many of the next tokens after those given in reverse, and the scanner after them. -/
def drainWithin (t : Table) : Nat → List Token → Scanner → List Token × Scanner
  | 0, found, s => (found.reverse, s)
  | count + 1, found, s =>
    match s.next t with
    | (some token, s) => drainWithin t count (token :: found) s
    | (none, s) => (found.reverse, s)

/-- All tokens to come and the scanner at the end. Every token has a character at least. -/
def drain (t : Table) (s : Scanner) : List Token × Scanner :=
  drainWithin t (s.pending.length + s.rest.length + 1) [] s

/-- What has been reported, in order. -/
def events (s : Scanner) : List Event := s.log.reverse

end Scanner

/-- The tokens of an input. -/
def Table.tokenize (t : Table) (input : String) : List Token :=
  ((Scanner.start t input).drain t).1

end TableLexer
