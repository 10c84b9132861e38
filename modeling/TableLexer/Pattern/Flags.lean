import TableLexer.Pattern.Error
import TableLexer.Unicode.Word

/-!
# Flags

Switches that change how the rest of a group is read. `(?i-s)` sets and clears them up to the end
of the group, `(?i-s:…)` for what is in the parentheses. The flag `x` lets white space and comments
stand between the parts of a pattern, and `Flags.skip` passes over them.
-/

namespace TableLexer.Pattern
open Unicode (CharSet)

/-- The switches in force. -/
structure Flags where
  /-- Letters match in either case. -/
  ignoreCase : Bool := false
  /-- Lets `^` and `$` match at every line. -/
  multiLine : Bool := true
  /-- The dot matches line ends too. -/
  dotAll : Bool := true
  /-- Repetitions are lazy unless marked greedy. -/
  swapGreed : Bool := false
  /-- Classes and cases are those of Unicode. -/
  unicode : Bool := true
  /-- A carriage return ends a line too. -/
  crlf : Bool := false
  /-- White space and comments are passed over. -/
  verbose : Bool := false
deriving DecidableEq, Repr

/-- One switch. -/
inductive Flag
  | ignoreCase | multiLine | dotAll | swapGreed | unicode | crlf | verbose
deriving DecidableEq, Repr

/-- The switch with a given letter. -/
def Flag.ofChar? : Char → Option Flag
  | 'i' => some .ignoreCase
  | 'm' => some .multiLine
  | 's' => some .dotAll
  | 'U' => some .swapGreed
  | 'u' => some .unicode
  | 'R' => some .crlf
  | 'x' => some .verbose
  | _ => none

/-- The flags with one switch set or cleared. -/
def Flags.set (f : Flags) (flag : Flag) (on : Bool) : Flags :=
  match flag with
  | .ignoreCase => { f with ignoreCase := on }
  | .multiLine => { f with multiLine := on }
  | .dotAll => { f with dotAll := on }
  | .swapGreed => { f with swapGreed := on }
  | .unicode => { f with unicode := on }
  | .crlf => { f with crlf := on }
  | .verbose => { f with verbose := on }

/-- A change to the flags: switches with their new values. -/
abbrev FlagChange := List (Flag × Bool)

/-- The flags after a change. -/
def Flags.change (f : Flags) (changes : FlagChange) : Flags :=
  changes.foldl (fun f change => f.set change.1 change.2) f

/-- Reads a list of flags up to `:` or `)`. A minus sign clears the flags after it; it stands once
at most and not at the end, and no flag stands twice. Gives the change, the character that ended
the list and the text after that. -/
def readFlags (seen : FlagChange) (negated dangling : Bool) :
    List Char → Except Fault (FlagChange × Char × List Char)
  | [] => .error .unclosed
  | c :: cs =>
    if c = ':' ∨ c = ')' then
      if dangling then .error .flags else .ok (seen.reverse, c, cs)
    else if c = '-' then
      if negated then .error .flags else readFlags seen true true cs
    else
      match Flag.ofChar? c with
      | none => .error .flags
      | some flag =>
        if seen.any (·.1 = flag) then .error .flags
        else readFlags ((flag, !negated) :: seen) negated false cs

/-- The text after white space and comments; a comment runs from `#` to the end of the line. -/
def skipBlank (inComment : Bool) : List Char → List Char
  | [] => []
  | c :: cs =>
    if inComment then skipBlank (c != '\n') cs
    else if c ∈ Unicode.space then skipBlank false cs
    else if c = '#' then skipBlank true cs
    else c :: cs

/-- The text after what the flags allow to pass over. -/
def Flags.skip (f : Flags) (cs : List Char) : List Char :=
  if f.verbose then skipBlank false cs else cs

theorem Flags.skip_of_not_verbose {f : Flags} (h : f.verbose = false) (cs : List Char) :
    f.skip cs = cs := by
  simp [Flags.skip, h]

/-! ## What the flags make of a set or an assertion -/

/-- A set, widened to both cases if the flags ask for it. -/
def Flags.fold (f : Flags) (s : CharSet) : CharSet :=
  if f.ignoreCase then (if f.unicode then .folded s else .foldedAscii s) else s

/-- A set that may be negated. Without Unicode the complement of a class has bytes in it that are
no characters, so it is refused. -/
def Flags.complement (f : Flags) (negated : Bool) (s : CharSet) : Except Fault CharSet :=
  if !negated then .ok s
  else if f.unicode then .ok (.compl s)
  else .error .notUnicode

/-- The set that a single character stands for. -/
def Flags.literal (f : Flags) (c : Char) : CharSet :=
  if !f.ignoreCase then .single c
  else if f.unicode then .ofList (Unicode.CaseFold.variants c)
  else .foldedAscii (.single c)

/-- The word characters. -/
def Flags.word (f : Flags) : CharSet := if f.unicode then Unicode.word else Unicode.Ascii.word

/-- The digits. -/
def Flags.digit (f : Flags) : CharSet := if f.unicode then Unicode.digit else Unicode.Ascii.digit

/-- White space. -/
def Flags.space (f : Flags) : CharSet := if f.unicode then Unicode.space else Unicode.Ascii.space

/-- The set that the dot stands for. -/
def Flags.dot (f : Flags) : Except Fault CharSet :=
  if !f.unicode then .error .notUnicode
  else if f.dotAll then .ok .all
  else if f.crlf then .ok (.compl (.single '\r' ∪ .single '\n'))
  else .ok (.compl (.single '\n'))

end TableLexer.Pattern
