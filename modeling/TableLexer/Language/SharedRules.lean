import TableLexer.Table

/-!
# What the languages share

All three languages have the same literals, comments, operators and punctuation. Their tables
differ in keywords, in built-in type names and in a few rules of their own, which stand between the
leading and the trailing rules given here.
-/

namespace TableLexer.Language

/-- White space within a line. -/
def spaces : String := "[^\\S\\n]+"

/-- A comment to the end of the line, and the line end if there is one. -/
def lineComment : String := "(//[^\\n]*)(\\n)?"

/-- Floats: in decimal with a point, an exponent or a suffix, and in hexadecimal with a binary
exponent. -/
def float : String :=
  "(?:[0-9][0-9_]*\\.(?:[0-9][0-9_]*)?|\\.[0-9][0-9_]*)(?:[eE][+\\-]?[0-9][0-9_]*)?[fFdD]?" ++
  "|[0-9][eE][+\\-]?[0-9][0-9_]*[fFdD]?" ++
  "|[0-9](?:[eE][+\\-]?[0-9][0-9_]*)?[fFdD]" ++
  "|0[xX](?:[0-9a-fA-F][0-9a-fA-F_]*\\.?" ++
  "|(?:[0-9a-fA-F][0-9a-fA-F_]*)?\\.[0-9a-fA-F][0-9a-fA-F_]*)" ++
  "[pP][+\\-]?[0-9][0-9_]*[fFdD]?"

/-- Integers in base sixteen. -/
def hex : String := "0[xX][0-9a-fA-F][0-9a-fA-F_]*[lL]?"
/-- Integers in base two. -/
def bin : String := "0[bB][01][01_]*[lL]?"
/-- Integers in base eight, which begin with a zero. -/
def oct : String := "0[0-7_]+[lL]?"
/-- Integers in base ten. -/
def integer : String := "0|[1-9][0-9_]*[lL]?"

/-- Signs for operators, each a token of its own. -/
def operators : String := "[~^*!%&\\[\\]<>|+=/?-]"
/-- Signs that separate and enclose. -/
def punctuation : String := "[\x7b\x7d();:.,]"

/-- A pattern for any of some words, each as a whole word. -/
def words (ws : List String) : String := "\\b(?:" ++ "|".intercalate ws ++ ")\\b"

/-- Strings, white space and line comments, which every table tries first. A quote right after a
backslash opens no string. -/
def leadingRules : List Rule := [
  (Rule.quoted '"' '\\' .string).notAfter ["\\"],
  (Rule.quoted '\x27' '\\' .string).notAfter ["\\"],
  .token spaces .whitespace,
  .groups lineComment [.commentSingle, .whitespace]]

/-- Comments over several lines. -/
def blockComment : Rule := .delimited "/*" "*/" .commentMultiline

/-- Numbers, operators, punctuation and what catches the rest, which every table tries last. No
kind of number matches the beginning of a literal that belongs to a later kind. -/
def trailingRules : List Rule := [
  .token float .numberFloat,
  .token hex .numberHex,
  .token bin .numberBin,
  .token oct .numberOct,
  .token integer .numberInteger,
  .token operators .operator,
  .token punctuation .punctuation,
  .token "\\w+" .text,
  .token "\\n" .whitespace]

/-- A table whose root enters a state with the given rules between the leading and the trailing
ones. -/
def specs (rules : List Rule) : List StateSpec := [
  ⟨"root", [.push "base"]⟩,
  ⟨"base", leadingRules ++ rules ++ trailingRules⟩]

end TableLexer.Language
