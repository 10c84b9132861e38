import TableLexer.Unicode.Binary

/-!
# Quoted text

A text in double quotes on one line, with what would not show replaced by escapes: the usual ones
for tabs, line ends, quotes and backslashes, and `\u` with the code in braces for the other
characters that have no shape of their own or would merge with the one before.
-/

namespace TableLexer.Text
open Unicode (CharSet)

/-- The hexadecimal digits of a number, in lower case and without leading zeros. -/
def hexDigits (n : Nat) : List Char := Nat.toDigits 16 n

/-- Characters that have no shape: controls, formats, separators but the space, private and
unassigned ones, and what is not shown by default. -/
def invisible : CharSet :=
  (Unicode.Category.control ∪ Unicode.Category.format ∪ Unicode.Category.separator ∪
    Unicode.Category.privateUse ∪ Unicode.Category.unassigned ∪
    Unicode.Binary.defaultIgnorable) \ .single ' '

/-- Characters that merge with the one before. The sound marks of halfwidth katakana have a place of
their own. -/
def merging : CharSet := Unicode.Binary.graphemeExtend \ .range '\uFF9E' '\uFF9F'

/-- A character as it stands between double quotes. -/
def quoteChar (c : Char) : List Char :=
  match c with
  | '\x00' => ['\\', '0']
  | '\t' => ['\\', 't']
  | '\r' => ['\\', 'r']
  | '\n' => ['\\', 'n']
  | '"' => ['\\', '"']
  | '\\' => ['\\', '\\']
  | c =>
    if ' ' ≤ c ∧ c ≤ '~' then [c]
    else if merging.contains c || invisible.contains c then
      ['\\', 'u', '\x7b'] ++ hexDigits c.toNat ++ ['\x7d']
    else [c]

/-- A text in double quotes. -/
def quote (s : String) : String :=
  .ofList ('"' :: s.toList.flatMap quoteChar ++ ['"'])

/-- A list of texts in double quotes. -/
def quoteList (ss : List String) : String :=
  "[" ++ ", ".intercalate (ss.map quote) ++ "]"

end TableLexer.Text
