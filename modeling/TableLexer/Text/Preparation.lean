import TableLexer.Unicode.Width

/-!
# Preparing a text

Before a text is scanned its line ends may be made uniform, its tabs expanded and a last line end
added. `Preparation.apply` does what is asked for, in this order, and says whether anything had to
change.
-/

namespace TableLexer.Text

/-! ## Line ends and tabs -/

/-- The text with a line feed for each carriage return and line feed. -/
def joinPairs : List Char → List Char
  | '\r' :: '\n' :: cs => '\n' :: joinPairs cs
  | c :: cs => c :: joinPairs cs
  | [] => []

/-- The text with a line feed for each line end: first for the pairs, then for each carriage return
that is left. -/
def unifyLineEnds (cs : List Char) : List Char :=
  (joinPairs cs).map fun c => if c = '\r' then '\n' else c

/-- The text with tabs expanded, from a given column on. -/
def expandFrom (tabSize column : Nat) : List Char → List Char
  | [] => []
  | c :: cs =>
    if c = '\t' then
      let n := tabSize - column % tabSize
      List.replicate n ' ' ++ expandFrom tabSize (column + n) cs
    else if c = '\n' then c :: expandFrom tabSize 0 cs
    else c :: expandFrom tabSize (column + Unicode.Width.ofChar c) cs

/-- The text with spaces for each tab, up to the next column that is a multiple of `tabSize`. -/
def expandTabs (tabSize : Nat) (cs : List Char) : List Char := expandFrom tabSize 0 cs

/-! ## Preparation -/

/-- A prepared text, and whether anything had to change. -/
structure Prepared where
  text : List Char
  changed : Bool
deriving DecidableEq, Repr

/-- Makes a change if the text needs it. -/
def Prepared.edit (p : Prepared) (needed : List Char → Bool) (change : List Char → List Char) :
    Prepared :=
  if needed p.text then ⟨change p.text, true⟩ else p

/-- What is done to a text before it is scanned; by default nothing. -/
structure Preparation where
  /-- Adds a line feed to a text that does not end with one. -/
  ensureNewline : Bool := false
  /-- Makes every line end a line feed. -/
  normalizeNewlines : Bool := false
  /-- If not zero, replaces tabs by spaces up to the next multiple of so many columns. -/
  tabSize : Nat := 0
deriving DecidableEq, Repr

/-- Prepares a text. -/
def Preparation.apply (o : Preparation) (cs : List Char) : Prepared :=
  ((Prepared.mk cs false).edit
      (fun t => o.normalizeNewlines && t.contains '\r') unifyLineEnds
    |>.edit (fun t => decide (0 < o.tabSize) && t.contains '\t') (expandTabs o.tabSize)
    |>.edit (fun t => o.ensureNewline && t.getLast? != some '\n') (· ++ ['\n']))

end TableLexer.Text
