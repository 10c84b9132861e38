import TableLexer.Pattern.Escape

/-!
# Classes in brackets

A class lists characters, ranges, escapes, named classes such as `[:alpha:]` and further classes,
and may combine such lists by `&&`, `--` and `~~`, which associate to the left. The classes that
are open and the operators that wait for their right side stand on a stack.
-/

namespace TableLexer.Pattern
open Unicode (CharSet)

/-- An operator between two lists of a class. -/
inductive SetOp
  | inter | diff | symmDiff

/-- What waits for the list being read. -/
inductive ClassFrame
  /-- A class, with the members that the list around it had so far. -/
  | bracket (outer : CharSet) (negated : Bool)
  /-- An operator with its left side. -/
  | operand (op : SetOp) (left : CharSet)

/-- How far the start of a class has been read. There `-` is a member, and so is `]` if it comes
first. -/
inductive ClassStart
  | first | hyphens | past
deriving DecidableEq

/-- A class that is being read: what waits, the members of the list so far, and the text left. -/
structure ClassState where
  frames : List ClassFrame
  members : CharSet
  start : ClassStart
  rest : List Char

/-- The value of two sides joined by an operator. -/
def SetOp.apply (op : SetOp) (f : Flags) (left right : CharSet) : CharSet :=
  match op with
  | inter => f.fold left ∩ f.fold right
  | diff => f.fold left \ f.fold right
  | symmDiff => .symmDiff (f.fold left) (f.fold right)

/-- The value of the list that ends here together with the operator that waits for it, and the
frames below. -/
def ClassState.operands (s : ClassState) (f : Flags) : CharSet × List ClassFrame :=
  match s.frames with
  | .operand op left :: frames => (op.apply f left s.members, frames)
  | frames => (s.members, frames)

/-- Opens a class; the text starts after the bracket. -/
def ClassState.openBracket (s : ClassState) (f : Flags) (cs : List Char) : ClassState :=
  let (negated, rest) := match f.skip cs with
    | [] => (false, [])
    | c :: rest => if c = '^' then (true, rest) else (false, c :: rest)
  { frames := .bracket s.members negated :: s.frames
    members := .empty
    start := .first
    rest }

/-- Starts the right side of an operator; the text starts after the operator. -/
def ClassState.operator (s : ClassState) (f : Flags) (op : SetOp) (cs : List Char) : ClassState :=
  let (left, frames) := s.operands f
  { frames := .operand op left :: frames, members := .empty, start := .past, rest := cs }

/-- The state with further members and the given text left. -/
def ClassState.add (s : ClassState) (new : CharSet) (rest : List Char) : ClassState :=
  { s with members := s.members ∪ new, start := .past, rest }

/-- Closes a class; the text starts after the bracket. The second part is the value of the
outermost class once it is closed. -/
def ClassState.close (s : ClassState) (f : Flags) (cs : List Char) :
    Except Fault (ClassState ⊕ CharSet) := do
  let (members, frames) := s.operands f
  match frames with
  | .bracket outer negated :: frames =>
    let set ← f.complement negated (f.fold members)
    if frames.isEmpty then return .inr set
    else return .inl { frames, members := outer ∪ set, start := .past, rest := cs }
  | _ => .error .unclosed

/-! ## Named classes -/

open Unicode.Ascii in
/-- The named classes, which hold ASCII characters only. -/
def namedClass? (name : List Char) : Option CharSet :=
  match String.ofList name with
  | "alnum" => some alnum
  | "alpha" => some alpha
  | "ascii" => some .ascii
  | "blank" => some blank
  | "cntrl" => some control
  | "digit" => some digit
  | "graph" => some graphic
  | "lower" => some lower
  | "print" => some printable
  | "punct" => some punctuation
  | "space" => some space
  | "upper" => some upper
  | "word" => some word
  | "xdigit" => some hexDigit
  | _ => none

/-- Reads a named class such as `:alpha:]` or `:^alpha:]`; the text starts after the bracket. What
has not this form is no named class. -/
def readNamedClass? (cs : List Char) : Option (Bool × CharSet × List Char) :=
  match cs with
  | ':' :: cs =>
    let (negated, cs) := match cs with
      | '^' :: rest => (true, rest)
      | rest => (false, rest)
    match cs.dropWhile (· != ':') with
    | ':' :: ']' :: rest => (namedClass? (cs.takeWhile (· != ':'))).map (negated, ·, rest)
    | _ => none
  | _ => none

/-! ## Members -/

/-- Reads one item of a class: an escape or a character for itself. -/
def readClassAtom (f : Flags) : List Char → Except Fault (Atom × List Char)
  | [] => .error .unclosed
  | c :: cs => if c = '\\' then readEscape f cs else .ok (.char c false, cs)

/-- The next character in sight after a hyphen. Where blanks are passed over, so is the sign that
begins a comment; if nothing else is left, it is the very next character. -/
def peekAfterHyphen (f : Flags) (cs : List Char) : Option Char :=
  let blank := fun c => decide (c ∈ Unicode.space)
  if !f.verbose then cs.head?
  else
    let tail := match cs.dropWhile blank with
      | '#' :: rest => rest.dropWhile blank
      | rest => rest
    tail.head? <|> cs.head?

/-- The members that the characters from `first` to `last` are. Without Unicode a class has ASCII
characters only. -/
def classRange (f : Flags) (first last : Char) : Except Fault CharSet :=
  if !f.unicode && (127 < first.toNat || 127 < last.toNat) then .error .notUnicode
  else if first ≤ last then .ok (.range first last)
  else .error .range

/-- Reads an item or a range. -/
def ClassState.readMember (s : ClassState) (f : Flags) : Except Fault ClassState := do
  let (atom, rest) ← readClassAtom f s.rest
  let single : Except Fault ClassState := match atom with
    | .char c _ => (classRange f c c).map (s.add · rest)
    | .set set => .ok (s.add set rest)
    | .look _ => .error .assertionInClass
  match f.skip rest with
  | [] => .error .unclosed
  | c :: after =>
    if c ≠ '-' then single
    else
      let next := peekAfterHyphen f after
      if next = some ']' ∨ next = some '-' then single
      else do
        let (last, rest) ← readClassAtom f (f.skip after)
        match atom, last with
        | .char a _, .char b _ => (classRange f a b).map (s.add · rest)
        | _, _ => .error .range

/-- Reads the next part of a class; the text begins with the given character. -/
def ClassState.step (s : ClassState) (f : Flags) (c : Char) (cs : List Char) :
    Except Fault (ClassState ⊕ CharSet) :=
  if c = '-' ∧ s.start ≠ .past then
    .ok (.inl { s with members := s.members ∪ .single '-', start := .hyphens, rest := cs })
  else if c = ']' ∧ s.start = .first then .ok (.inl (s.add (.single ']') cs))
  else match c, cs with
    | ']', _ => s.close f cs
    | '&', '&' :: cs => .ok (.inl (s.operator f .inter cs))
    | '-', '-' :: cs => .ok (.inl (s.operator f .diff cs))
    | '~', '~' :: cs => .ok (.inl (s.operator f .symmDiff cs))
    | '[', _ =>
      match readNamedClass? cs with
      | some (negated, set, rest) =>
        (f.complement negated (f.fold set)).map fun set => .inl (s.add set rest)
      | none => .ok (.inl (s.openBracket f cs))
    | _, _ => (ClassState.readMember { s with rest := c :: cs } f).map .inl

/-- Reads the rest of a class, in no more steps than it has characters left. -/
def ClassState.run (f : Flags) : Nat → ClassState → Except Fault (CharSet × List Char)
  | 0, _ => .error .unclosed
  | n + 1, s =>
    match f.skip s.rest with
    | [] => .error .unclosed
    | c :: cs => do
      match ← s.step f c cs with
      | .inl s => run f n s
      | .inr set => return (set, cs)

/-- Reads a class; the text starts after the opening bracket. -/
def readClass (f : Flags) (cs : List Char) : Except Fault (CharSet × List Char) :=
  let start : ClassState := ⟨[], .empty, .past, cs⟩
  (start.openBracket f cs).run f (cs.length + 1)

end TableLexer.Pattern
