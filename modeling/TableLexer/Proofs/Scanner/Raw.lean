import TableLexer.Proofs.Scanner.Flat
import TableLexer.Proofs.Table.Bounds

/-!
# Raw scanners

A raw scanner holds its place in the text as a byte, its states as a list of numbers, and the retired
rules as a flag for each number. Each access to the text, to a state, to a flag or to the record of a
detour may find nothing there, and then what was to be done has no outcome; so has making a token
without text, changing the state with a rule that takes text, and cutting a match by more or fewer kinds
than the pattern has groups.

`RawScanner.of` is a scanner in raw form.
-/

namespace TableLexer

/-! ## Slices -/

/-- The text between two bytes, if they are in order and a character begins or the text ends at both. -/
def slice? (text : List Char) (first last : Nat) : Option (List Char) :=
  (splitAtByte text last).bind fun parts => (splitAtByte parts.1 first).map (·.2)

theorem slice?_append (a b c : List Char) :
    slice? (a ++ (b ++ c)) (byteLength a) (byteLength a + byteLength b) = some b := by
  rw [slice?, ← byteLength_append, ← List.append_assoc, splitAtByte_append, Option.bind_some,
    splitAtByte_append]
  rfl

/-- All states of a stack, the current one first. -/
def StateStack.states (s : StateStack) : List Nat := s.top :: s.below

/-! ## Raw scanners -/

/-- The changes of state at one byte: the states on arrival and the number of changes since. -/
structure RawDetour where
  offset : Nat
  stack : List Nat
  changes : Nat

/-- A scanner that holds numbers and flags and does not know whether they fit the text and the table. -/
structure RawScanner where
  /-- The byte up to which the text has been scanned. -/
  offset : Nat
  /-- The states that have been entered, the current one first. -/
  stack : List Nat
  pending : List Token
  detour : Option RawDetour
  /-- For each rule for literals, whether it has been retired. -/
  unclosed : List Bool

namespace RawScanner

/-- A raw scanner at the start of a text. -/
def start (t : Table) : RawScanner := ⟨0, [t.root], [], none, List.replicate t.literalCount false⟩

section
variable (t : Table) (text : List Char) (r : RawScanner)

/-- The text already scanned. -/
def before? : Option (List Char) := slice? text 0 r.offset

/-- The text not yet scanned. -/
def rest? : Option (List Char) := slice? text r.offset (byteLength text)

/-- Makes a token of the text between two bytes; there are no tokens without text. -/
def pushToken? (kind : Kind) (first last : Nat) : Option RawScanner :=
  if first < last then
    (slice? text first last).map fun piece =>
      { r with pending := r.pending ++ [⟨kind, .ofList piece, first⟩] }
  else none

/-- Makes an error token of one grapheme. -/
def error? : Option RawScanner :=
  (r.rest? text).bind fun rest =>
    let last := byteAfter r.offset rest (Unicode.Grapheme.firstLength rest)
    (r.pushToken? text .error r.offset last).map ({ · with offset := last })

/-- Whether a rule may still match. -/
def mayClose? : Option Opener → Option Bool
  | none => some true
  | some o => r.unclosed[o.slot]?.map (!·)

/-- Retires a rule that did not match although its opener stands here. -/
def failed? : Option Opener → Option RawScanner
  | none => some r
  | some o => (r.rest? text).bind fun rest =>
    if o.text.toList.isPrefixOf rest then
      if o.slot < r.unclosed.length then some { r with unclosed := r.unclosed.set o.slot true }
      else none
    else some r

/-- The record of the detour at the current byte, begun if there is none. -/
def currentDetour : RawDetour :=
  match r.detour with
  | some d => if d.offset = r.offset then d else ⟨r.offset, r.stack, 0⟩
  | none => ⟨r.offset, r.stack, 0⟩

/-- Changes the state, or takes the record of the detour and breaks out of a circle. A rule that takes
text does not come here. -/
def transition? (action : Action) : Option RawScanner :=
  let d := r.currentDetour
  let counted := { r with detour := some { d with changes := d.changes + 1 } }
  if t.states.length < d.changes + 1 then
    counted.detour.bind fun d => error? text { counted with stack := d.stack, detour := none }
  else match action with
    | .push state => some { counted with stack := state :: r.stack }
    | .pop => some { counted with stack := if 1 < r.stack.length then r.stack.tail else r.stack }
    | .scan .. => none

/-- Makes tokens of the groups of a match, from a group and a byte on. -/
def pushGroups? (m : Pattern.Match) (byteOf : Nat → Nat) :
    Nat → Nat → List Kind → RawScanner → Option RawScanner
  | _, cursor, [], r =>
    if cursor < byteOf m.length then r.pushToken? text .text cursor (byteOf m.length) else some r
  | index, cursor, kind :: kinds, r =>
    match m.group? index with
    | none => pushGroups? m byteOf (index + 1) cursor kinds r
    | some (first, last) =>
      if byteOf last ≤ byteOf first ∨ byteOf first < cursor then
        pushGroups? m byteOf (index + 1) cursor kinds r
      else
        (if cursor < byteOf first then r.pushToken? text .text cursor (byteOf first) else some r).bind
          fun r => (r.pushToken? text kind (byteOf first) (byteOf last)).bind
            (pushGroups? m byteOf (index + 1) (byteOf last) kinds)

/-- Makes tokens of a match; a rule with a token for each group has a kind for each group. -/
def emit? (pattern : Pattern) (m : Pattern.Match) (rest : List Char) :
    Emission → Option RawScanner
  | .whole kind =>
    let last := byteAfter r.offset rest m.length
    (r.pushToken? text kind r.offset last).map ({ · with offset := last })
  | .groups kinds =>
    let byteOf := byteAfter r.offset rest
    if pattern.groupCount = kinds.length then
      (r.pushGroups? text m byteOf 1 r.offset kinds).map ({ · with offset := byteOf m.length })
    else none

/-- Tries a rule, and says whether it was used. -/
def attempt? (e : Entry) : Option (Bool × RawScanner) :=
  (r.before? text).bind fun before =>
    if !e.guard.allows before.reverse then some (false, r)
    else match e.action with
      | .push state => (r.transition? t text (.push state)).map (true, ·)
      | .pop => (r.transition? t text .pop).map (true, ·)
      | .scan pattern opener emission =>
        (r.mayClose? opener).bind fun mayClose =>
          if !mayClose then some (false, r)
          else (r.rest? text).bind fun rest =>
            match pattern.match? before.reverse.head? rest with
            | none => (r.failed? text opener).map (false, ·)
            | some m =>
              if m.length = 0 then (r.failed? text opener).map (false, ·)
              else (r.emit? text pattern m rest emission).map (true, ·)

/-- Tries rules in order until one is used; if none is, makes an error token. -/
def attemptAll? : List Entry → RawScanner → Option RawScanner
  | [], r => r.error? text
  | e :: es, r => (r.attempt? t text e).bind fun (used, r) => if used then some r else attemptAll? es r

/-- Scans until a token is found or the state changes. -/
def step? : Option RawScanner :=
  r.stack.head?.bind fun current => t.states[current]?.bind fun state =>
    r.attemptAll? t text state.entries

/-- The next token, found in no more steps than given, and the scanner after it. -/
def nextWithin? : Nat → RawScanner → Option (Option Token × RawScanner)
  | steps, r =>
    match r.pending with
    | token :: pending => some (some token, { r with pending })
    | [] =>
      if byteLength text ≤ r.offset then some (none, r)
      else match steps with
        | 0 => none
        | steps + 1 => (r.step? t text).bind (nextWithin? steps)
end

/-! ## Scanners in raw form -/

/-- The record of a detour in raw form. -/
def ofDetour (d : Detour) : RawDetour := ⟨d.offset, d.arrival.states, d.changes⟩

/-- A scanner in raw form. -/
def of (t : Table) (s : Scanner) : RawScanner where
  offset := s.offset
  stack := s.stack.states
  pending := s.pending
  detour := s.detour.map ofDetour
  unclosed := (List.range t.literalCount).map s.retired.contains

end RawScanner
end TableLexer
