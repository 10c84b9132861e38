import TableLexer.Language.SharedRules

/-!
# Object queries

The table of the object language EOL.
-/

namespace TableLexer.Language.Eol

/-- The reserved words. -/
def reserved : List String := [
  "not", "delete", "import", "for", "while", "in", "and", "or", "operation", "return", "var",
  "throw", "if", "new", "else", "transaction", "abort", "break", "continue", "assert",
  "assertError", "function", "default", "switch", "case", "as", "ext", "driver", "alias",
  "model", "breakAll", "async", "group", "nor", "xor", "implies"]

/-- The built-in types, with the collections that threads may share. -/
def types : List String := [
  "Any", "String", "Integer", "Real", "Boolean", "Native", "Bag", "Set", "List", "Sequence",
  "Map", "OrderedSet", "Collection", "Tuple", "ConcurrentBag", "ConcurrentMap",
  "ConcurrentSet"]

/-- The rules of the language's own. -/
def rules : List Rule := [
  blockComment,
  .token (words reserved) .keywordReserved,
  .token (words ["true", "false", "self"]) .commentPreproc,
  .token (words types) .keywordType]

/-- The table, if it can be built. -/
def built : Except TableError Table := Table.build (specs rules)

end TableLexer.Language.Eol
