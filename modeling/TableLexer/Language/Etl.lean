import TableLexer.Language.SharedRules

/-!
# Transformations

The table of the transformation language ETL.
-/

namespace TableLexer.Language.Etl

/-- The rules of the language's own. -/
def rules : List Rule := [
  blockComment,
  .token "@(?:abstract|lazy|primary|greedy)\\b" .keywordType,
  .token "^rule\\b" .nameClass,
  -- These open the indented lines of a rule.
  (Rule.token "(?:transform|to)\\b" .nameFunction).after ["    ", "\t"],
  -- The name of a rule, and of the rule that it extends, one space after the keyword.
  (Rule.token "\\w+" .nameAttribute).after ["rule ", "extends "],
  .token (words ["null"]) .operatorWord,
  .token (words ["var"]) .keywordDeclaration,
  .token (words ["extends"]) .nameEntity,
  .groups "\\b(guard)(:)" [.nameEntity, .punctuation]]

/-- The table, if it can be built. -/
def built : Except TableError Table := Table.build (specs rules)

end TableLexer.Language.Etl
