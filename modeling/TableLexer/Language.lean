import TableLexer.Language.Emfatic
import TableLexer.Language.Eol
import TableLexer.Language.Etl
import TableLexer.Lexer

/-!
# The built-in languages

The lexers that come with the library, and how to find one by its short name.
-/

namespace TableLexer

/-- A language with a built-in lexer. -/
inductive Language
  | etl
  | eol
  | emfatic
deriving DecidableEq, Repr

namespace Language

/-- All languages. -/
def all : List Language := [etl, eol, emfatic]

/-- The name to show. -/
def name : Language → String
  | etl => "ETL"
  | eol => "EOL"
  | emfatic => "Emfatic"

/-- The short names to ask for. -/
def aliases : Language → List String
  | etl => ["etl"]
  | eol => ["eol"]
  | emfatic => ["emfatic"]

/-- Patterns for the names of files. -/
def filenames : Language → List String
  | etl => ["*.etl"]
  | eol => ["*.eol"]
  | emfatic => ["*.emf"]

/-- A table that was built, or one without states. -/
def tableOf : Except TableError Table → Table
  | .ok t => t
  | .error _ => ⟨[], 0⟩

/-- The table of ETL. -/
def etlTable : Table := tableOf Etl.built

/-- The table of EOL. -/
def eolTable : Table := tableOf Eol.built

/-- The table of Emfatic. -/
def emfaticTable : Table := tableOf Emfatic.built

/-- The table of a language. -/
def table : Language → Table
  | etl => etlTable
  | eol => eolTable
  | emfatic => emfaticTable

/-- The lexer of a language. -/
def lexer (l : Language) : Lexer := ⟨l.name, l.aliases, l.filenames, l.table⟩

/-- The first language that goes by a short name, in any case. -/
def findByAlias? (shortName : String) : Option Language :=
  all.find? (·.lexer.hasAlias shortName)

end Language

end TableLexer
