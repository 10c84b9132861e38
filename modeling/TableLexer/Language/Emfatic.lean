import TableLexer.Language.SharedRules

/-!
# Metamodels

The table of Emfatic, a textual notation for metamodels.
-/

namespace TableLexer.Language.Emfatic

/-- The reserved words. -/
def reserved : List String := [
  "abstract", "attr", "class", "enum", "extends", "import", "package", "ref", "val", "op",
  "readonly", "volatile", "transient", "unsettable", "derived", "unique", "ordered", "resolve",
  "id", "datatype"]

/-- The built-in types. -/
def types : List String := [
  "boolean", "Boolean", "byte", "Byte", "char", "Character", "double", "Double", "float",
  "Float", "int", "Integer", "long", "Long", "short", "Short", "Date", "String", "Object",
  "Class", "EObject", "EClass"]

/-- The rules of the language's own. -/
def rules : List Rule := [
  -- Annotations look like comments, up to the end of the line.
  .groups "(@[^\\n]*)(\\n)?" [.commentSingle, .whitespace],
  blockComment,
  .token (words reserved) .keywordReserved,
  .token (words ["true", "false", "self"]) .commentPreproc,
  .token (words types) .keywordType]

/-- The table, if it can be built. -/
def built : Except TableError Table := Table.build (specs rules)

end TableLexer.Language.Emfatic
