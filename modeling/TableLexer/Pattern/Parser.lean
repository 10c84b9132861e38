import TableLexer.Pattern.Class

/-!
# Reading patterns

A pattern is read from left to right in one pass. The groups that are open stand on a stack, each
with what was read before it. Each step of the reader takes at least one character, so the length
of the text bounds their number.
-/

namespace TableLexer.Pattern
open Unicode (CharSet)

/-- A part of a sequence: something that matches, or a change of flags, which cannot be repeated. -/
inductive Piece
  | node (n : Node)
  | flags

/-- What was read before an open group, and the flags to go back to after it. -/
structure Frame where
  alternatives : List Node
  sequence : List Piece
  /-- The number of the group, if it is counted. -/
  index : Option Nat
  flags : Flags

/-- A pattern that is being read. The alternatives and the sequence of the innermost open group
stand in reverse. -/
structure Reader where
  frames : List Frame := []
  alternatives : List Node := []
  sequence : List Piece := []
  flags : Flags := {}
  /-- The number of groups so far. -/
  groups : Nat := 0
  names : List (List Char) := []
  rest : List Char

namespace Reader

/-- The node of a sequence in reverse. -/
def sequenceNode (pieces : List Piece) : Node :=
  .ofSeq (pieces.reverse.filterMap fun
    | .node n => some n
    | .flags => none)

/-- The node of the innermost open group. -/
def groupNode (r : Reader) : Node :=
  .ofAlts (r.alternatives.reverse ++ [sequenceNode r.sequence])

/-- The node of the whole pattern at its end. -/
def finish (r : Reader) : Except Fault Node :=
  if r.frames.isEmpty then .ok r.groupNode else .error .unclosed

/-- Adds a node to the sequence. -/
def push (r : Reader) (n : Node) (rest : List Char) : Reader :=
  { r with sequence := .node n :: r.sequence, rest }

/-! ## Groups -/

/-- Opens a group with a number, if it is counted, and with flags of its own. -/
def openGroup (r : Reader) (index : Option Nat) (flags : Flags) (rest : List Char) : Reader :=
  { r with
    frames := ⟨r.alternatives, r.sequence, index, r.flags⟩ :: r.frames
    alternatives := []
    sequence := []
    flags
    rest }

/-- Opens a group with the next number. -/
def openCounted (r : Reader) (rest : List Char) : Reader :=
  openGroup { r with groups := r.groups + 1 } (some (r.groups + 1)) r.flags rest

/-- Whether a name may begin with the character, or go on with it. -/
def isNameChar (first : Bool) (c : Char) : Bool :=
  c == '_' ||
  if first then Unicode.alphabetic.contains c
  else c == '.' || c == '[' || c == ']' || Unicode.alphanumeric.contains c

/-- Whether a text can name a group. -/
def isGroupName : List Char → Bool
  | [] => false
  | c :: cs => isNameChar true c && cs.all (isNameChar false)

/-- Opens a group with a name; the text starts with the name. -/
def openNamed (r : Reader) (cs : List Char) : Except Fault Reader :=
  let name := cs.takeWhile (· != '>')
  match cs.dropWhile (· != '>') with
  | [] => .error .unclosed
  | _ :: rest =>
    if isGroupName name && !r.names.contains name then
      .ok (openCounted { r with names := name :: r.names } rest)
    else .error .groupName

/-- Reads what follows an opening parenthesis. -/
def readGroup (r : Reader) (cs : List Char) : Except Fault Reader :=
  match r.flags.skip cs with
  | '?' :: '=' :: _ | '?' :: '!' :: _ => .error .lookAround
  | '?' :: '<' :: '=' :: _ | '?' :: '<' :: '!' :: _ => .error .lookAround
  | '?' :: 'P' :: '<' :: rest | '?' :: '<' :: rest => r.openNamed rest
  | '?' :: rest => do
    let (change, last, rest) ← readFlags [] false false rest
    if last = ':' then return r.openGroup none (r.flags.change change) rest
    else if change.isEmpty then .error .nothingToRepeat
    else return { r with
      sequence := .flags :: r.sequence, flags := r.flags.change change, rest }
  | rest => .ok (r.openCounted rest)

/-- Closes the innermost group; the text starts after the parenthesis. -/
def closeGroup (r : Reader) (cs : List Char) : Except Fault Reader :=
  match r.frames with
  | [] => .error .unopenedGroup
  | frame :: frames =>
    let body := r.groupNode
    let node := match frame.index with
      | some i => .group i body
      | none => body
    .ok { r with
      frames
      alternatives := frame.alternatives
      sequence := .node node :: frame.sequence
      flags := frame.flags
      rest := cs }

/-- Ends an alternative. -/
def bar (r : Reader) (cs : List Char) : Reader :=
  { r with
    alternatives := sequenceNode r.sequence :: r.alternatives, sequence := [], rest := cs }

/-! ## Repetitions -/

/-- Repeats the last node of the sequence. -/
def repeatLast (r : Reader) (least : Nat) (most : Option Nat) (lazy : Bool)
    (rest : List Char) : Except Fault Reader :=
  match r.sequence with
  | .node n :: pieces =>
    let greedy := lazy == r.flags.swapGreed
    .ok { r with sequence := .node (.repetition n least most greedy) :: pieces, rest }
  | _ => .error .nothingToRepeat

/-- Whether a question mark follows, which makes a repetition lazy, and the text after it. -/
def readLazy : List Char → Bool × List Char
  | '?' :: rest => (true, rest)
  | rest => (false, rest)

/-- Reads a repetition sign. -/
def repeatSign (r : Reader) (least : Nat) (most : Option Nat) (cs : List Char) :
    Except Fault Reader :=
  let (lazy, rest) := readLazy cs
  r.repeatLast least most lazy rest

/-- The digits at the start of a text and what follows them. -/
def takeDigits (f : Flags) : Nat → List Char → List Char × List Char
  | 0, cs => ([], cs)
  | _ + 1, [] => ([], [])
  | n + 1, c :: cs =>
    if c.isDigit then
      let (digits, rest) := takeDigits f n (f.skip cs)
      (c :: digits, rest)
    else ([], c :: cs)

/-- Reads a decimal number below 2 ^ 32 with white space around it. -/
def readCount (f : Flags) (cs : List Char) : Except Fault (Nat × List Char) :=
  let blank := fun c => decide (c ∈ Unicode.space)
  let cs := cs.dropWhile blank
  let (digits, rest) := takeDigits f cs.length cs
  let n := digits.foldl (fun n d => n * 10 + (d.toNat - 48)) 0
  if digits.isEmpty ∨ UInt32.size ≤ n then .error .count
  else .ok (n, f.skip (rest.dropWhile blank))

/-- Reads a repetition count; the text starts after the opening brace. -/
def repeatCount (r : Reader) (cs : List Char) : Except Fault Reader := do
  let f := r.flags
  let (least, rest) ← readCount f (f.skip cs)
  let (most, rest) ← match rest with
    | ',' :: rest =>
      match f.skip rest with
      | '\x7d' :: rest => pure (none, '\x7d' :: rest)
      | rest => (readCount f rest).map fun (n, rest) => (some n, rest)
    | rest => pure (some least, rest)
  match rest with
  | '\x7d' :: rest =>
    let (lazy, rest) := readLazy (f.skip rest)
    if most.any (· < least) then .error .count
    else r.repeatLast least most lazy rest
  | _ => .error .unclosed

/-! ## The whole pattern -/

/-- Adds an atom to the sequence. Without Unicode a byte above 127 is no character. -/
def pushAtom (r : Reader) (a : Atom) (rest : List Char) : Except Fault Reader :=
  match a with
  | .char c byte =>
    if byte && !r.flags.unicode && 127 < c.toNat then .error .notUnicode
    else .ok (r.push (.one (r.flags.literal c)) rest)
  | .set s => .ok (r.push (.one s) rest)
  | .look a => .ok (r.push (.look a) rest)

/-- The condition that `^` stands for. -/
def lineStart (f : Flags) : Assertion :=
  if !f.multiLine then .textStart else if f.crlf then .lineStartCR else .lineStart

/-- The condition that `$` stands for. -/
def lineEnd (f : Flags) : Assertion :=
  if !f.multiLine then .textEnd else if f.crlf then .lineEndCR else .lineEnd

/-- Reads the next part of the pattern, which begins with the given character. -/
def step (r : Reader) (c : Char) (cs : List Char) : Except Fault Reader :=
  match c with
  | '(' => r.readGroup cs
  | ')' => r.closeGroup cs
  | '|' => .ok (r.bar cs)
  | '[' => (readClass r.flags cs).map fun (s, rest) => r.push (.one s) rest
  | '?' => r.repeatSign 0 (some 1) cs
  | '*' => r.repeatSign 0 none cs
  | '+' => r.repeatSign 1 none cs
  | '\x7b' => r.repeatCount cs
  | '\\' => readEscape r.flags cs >>= fun (a, rest) => r.pushAtom a rest
  | '.' => r.flags.dot.map fun s => r.push (.one s) cs
  | '^' => .ok (r.push (.look (lineStart r.flags)) cs)
  | '$' => .ok (r.push (.look (lineEnd r.flags)) cs)
  | c => .ok (r.push (.one (r.flags.literal c)) cs)

/-- Reads the rest of the pattern, in no more steps than it has characters left. -/
def run : Nat → Reader → Except Fault Node
  | 0, r => r.finish
  | n + 1, r =>
    match r.flags.skip r.rest with
    | [] => r.finish
    | c :: cs => r.step c cs >>= run n

end Reader

/-- The tree of a pattern. -/
def readNode (pattern : List Char) : Except Fault Node :=
  Reader.run (pattern.length + 1) { rest := pattern }

end TableLexer.Pattern
