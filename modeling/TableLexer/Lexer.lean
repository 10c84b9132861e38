import TableLexer.Scanner
import TableLexer.Text.Quoted
import TableLexer.Unicode.CaseFold

/-!
# Lexers

A lexer is a table with what a host needs to find it: a name to show, short names to ask for, and
patterns for the names of files. None of these has a part in scanning.
-/

namespace TableLexer

/-- A table and how to find it. -/
structure Lexer where
  name : String
  aliases : List String
  filenames : List String
  table : Table
deriving Inhabited

namespace Lexer

/-- Whether the lexer goes by a short name, in any case. -/
def hasAlias (l : Lexer) (shortName : String) : Bool :=
  l.aliases.any (Unicode.CaseFold.eqIgnoringCase · shortName)

/-- The tokens of an input. -/
def tokenize (l : Lexer) (input : String) : List Token := l.table.tokenize input

/-- A line about the lexer that leaves the table out. -/
def describe (l : Lexer) : String :=
  "Lexer \x7b name: " ++ Text.quote l.name ++ ", aliases: " ++ Text.quoteList l.aliases ++
    ", filenames: " ++ Text.quoteList l.filenames ++ ", .. \x7d"

end Lexer

end TableLexer
