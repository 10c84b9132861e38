import TableLexer.Pattern.Basic
import TableLexer.Pattern.Flags
import TableLexer.Unicode.Property

/-!
# Escapes

What follows a backslash: a character by its code or by a letter, a class of characters, an
assertion, or any ASCII sign that stands for itself. `escaped` is the way back: it writes a text so
that it is read as itself.
-/

namespace TableLexer.Pattern
open Unicode (CharSet)

/-- What one item of a pattern or of a class may be. -/
inductive Atom
  /-- A character; `byte` says that it was given by two hexadecimal digits, which without Unicode
  name a byte. -/
  | char (c : Char) (byte : Bool)
  | set (s : CharSet)
  | look (a : Assertion)

/-- The signs that have a meaning in patterns. -/
def isMeta (c : Char) : Bool :=
  c ∈ ['\\', '.', '+', '*', '?', '(', ')', '|', '[', ']', '\x7b', '\x7d', '^', '$', '#', '&', '-', '~']

/-- A text with a backslash before each sign that has a meaning in patterns. -/
def escaped (cs : List Char) : List Char :=
  cs.flatMap fun c => if isMeta c then ['\\', c] else [c]

/-- Whether a backslash before the character makes it stand for itself. -/
def isEscapable (c : Char) : Bool :=
  c.toNat < 128 && !c.isAlphanum && c != '<' && c != '>'

/-- The text up to a closing brace and the text after it. -/
def readBraced (f : Flags) (inComment : Bool) (seen : List Char) :
    List Char → Except Fault (List Char × List Char)
  | [] => .error .unclosed
  | c :: cs =>
    if inComment then readBraced f (c != '\n') seen cs
    else if f.verbose && c ∈ Unicode.space then readBraced f false seen cs
    else if f.verbose && c == '#' then readBraced f true seen cs
    else if c = '\x7d' then .ok (seen.reverse, cs)
    else readBraced f false (c :: seen) cs

/-! ## Characters by their code -/

/-- The value of a hexadecimal digit. -/
def hexDigit? (c : Char) : Option Nat :=
  if c.isDigit then some (c.toNat - 48)
  else if 'A' ≤ c ∧ c ≤ 'F' then some (c.toNat - 55)
  else if 'a' ≤ c ∧ c ≤ 'f' then some (c.toNat - 87)
  else none

/-- The number written by a list of hexadecimal digits. -/
def hexNumber? (cs : List Char) : Option Nat :=
  cs.foldlM (fun n c => (hexDigit? c).map (n * 16 + ·)) 0

/-- The character with a given code. -/
def charOfCode (n : Nat) : Except Fault Char :=
  if h : n.isValidChar then .ok (Char.ofNatAux n h) else .error .codePoint

/-- Reads a fixed number of hexadecimal digits. -/
def readDigits (f : Flags) : Nat → Nat → List Char → Except Fault (Nat × List Char)
  | 0, value, cs => .ok (value, cs)
  | _ + 1, _, [] => .error .unclosed
  | n + 1, value, c :: cs =>
    match hexDigit? c with
    | none => .error .codePoint
    | some d => readDigits f n (value * 16 + d) (f.skip cs)

/-- Reads the code of a character: as many digits as `width` says, or any number of them in
braces. -/
def readCode (f : Flags) (width : Nat) (cs : List Char) : Except Fault (Atom × List Char) :=
  match f.skip cs with
  | [] => .error .unclosed
  | c :: rest =>
    if c = '\x7b' then do
      let (digits, rest) ← readBraced f false [] rest
      match digits, hexNumber? digits with
      | _ :: _, some n => return (.char (← charOfCode n) false, rest)
      | _, _ => .error .codePoint
    else do
      let (n, rest) ← readDigits f width 0 (c :: rest)
      return (.char (← charOfCode n) (width == 2), rest)

/-! ## Classes -/

/-- The parts of a text before and after the first place where a separator stands. -/
def splitAt? (separator : List Char) : List Char → Option (List Char × List Char)
  | [] => none
  | c :: cs =>
    if separator.isPrefixOf (c :: cs) then some ([], (c :: cs).drop separator.length)
    else (splitAt? separator cs).map fun parts => (c :: parts.1, parts.2)

/-- The characters with a property, given by a name, or by a name and a value with `!=`, `:` or `=`
between them; all three signs mean the same. -/
def property? (name : List Char) : Option CharSet :=
  match splitAt? ['!', '='] name <|> splitAt? [':'] name <|> splitAt? ['='] name with
  | some (name, value) => Unicode.Property.valued? name value
  | none => Unicode.Property.named? name

/-- Reads the name of a property, which is one letter or stands in braces. -/
def readProperty (f : Flags) (negated : Bool) (cs : List Char) :
    Except Fault (Atom × List Char) := do
  let (name, rest) ← match f.skip cs with
    | [] => .error .unclosed
    | c :: rest =>
      if c = '\x7b' then readBraced f false [] rest
      else if c = '\\' then .error .property
      else .ok ([c], rest)
  if !f.unicode then .error .notUnicode
  match property? name with
  | none => .error .property
  | some s => return (.set (← f.complement negated (f.fold s)), rest)

/-! ## Assertions -/

/-- The word boundary with a given name in braces. -/
def namedBoundary? (f : Flags) (name : List Char) : Option Assertion :=
  if name = "start".toList then some (.wordStart f.word)
  else if name = "end".toList then some (.wordEnd f.word)
  else if name = "start-half".toList then some (.wordStartHalf f.word)
  else if name = "end-half".toList then some (.wordEndHalf f.word)
  else none

/-- Reads what follows `\b`: a name in braces, or nothing that belongs to it. A brace that is
followed by no letter is left, for it begins a repetition count. -/
def readBoundary (f : Flags) (cs : List Char) : Except Fault (Atom × List Char) :=
  match cs with
  | [] => .ok (.look (.boundary f.word), cs)
  | c :: rest =>
    if c ≠ '\x7b' then .ok (.look (.boundary f.word), cs)
    else match f.skip rest with
      | [] => .error .unclosed
      | d :: _ =>
        if d.isAlpha || d == '-' then do
          let (name, rest) ← readBraced f false [] rest
          match namedBoundary? f name with
          | some a => return (.look a, rest)
          | none => .error .escape
        else .ok (.look (.boundary f.word), cs)

/-! ## All escapes -/

/-- The characters that have a letter of their own. -/
def controlChar? : Char → Option Char
  | 'a' => some '\x07'
  | 'f' => some '\x0c'
  | 't' => some '\t'
  | 'n' => some '\n'
  | 'r' => some '\r'
  | 'v' => some '\x0b'
  | _ => none

/-- Reads what follows a backslash. -/
def readEscape (f : Flags) : List Char → Except Fault (Atom × List Char)
  | [] => .error .unclosed
  | c :: cs =>
    if isEscapable c then .ok (.char c false, cs)
    else match controlChar? c with
      | some d => .ok (.char d false, cs)
      | none =>
        match c with
        | 'x' => readCode f 2 cs
        | 'u' => readCode f 4 cs
        | 'U' => readCode f 8 cs
        | 'p' => readProperty f false cs
        | 'P' => readProperty f true cs
        | 'd' => .ok (.set f.digit, cs)
        | 's' => .ok (.set f.space, cs)
        | 'w' => .ok (.set f.word, cs)
        | 'D' => (f.complement true f.digit).map fun s => (.set s, cs)
        | 'S' => (f.complement true f.space).map fun s => (.set s, cs)
        | 'W' => (f.complement true f.word).map fun s => (.set s, cs)
        | 'A' => .ok (.look .textStart, cs)
        | 'z' => .ok (.look .textEnd, cs)
        | 'b' => readBoundary f cs
        | 'B' => .ok (.look (.notBoundary f.word), cs)
        | '<' => .ok (.look (.wordStart f.word), cs)
        | '>' => .ok (.look (.wordEnd f.word), cs)
        | _ => .error .escape

theorem isEscapable_of_isMeta {c : Char} (h : isMeta c = true) : isEscapable c = true := by
  simp only [isMeta, decide_eq_true_eq, List.mem_cons, List.not_mem_nil, or_false] at h
  rcases h with rfl | rfl | rfl | rfl | rfl | rfl | rfl | rfl | rfl | rfl | rfl | rfl | rfl | rfl |
    rfl | rfl | rfl | rfl <;> rfl

/-- A backslash before a sign with a meaning is read as that sign. -/
theorem readEscape_meta {f : Flags} {c : Char} (h : isMeta c = true) (cs : List Char) :
    readEscape f (c :: cs) = .ok (.char c false, cs) := by
  simp [readEscape, isEscapable_of_isMeta h]

end TableLexer.Pattern
