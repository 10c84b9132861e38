/-!
# Faults in patterns

Why a text is not a pattern.
-/

namespace TableLexer.Pattern

/-- A fault in the text of a pattern. -/
inductive Fault
  /-- The pattern ends inside a group, a class, an escape, a count or a list of flags. -/
  | unclosed
  /-- A closing parenthesis without an opening one. -/
  | unopenedGroup
  /-- Look-ahead and look-behind are not supported. -/
  | lookAround
  /-- A group name that is empty, is in use or has a character that names cannot have. -/
  | groupName
  /-- A flag that is unknown or stands twice, or a stray minus sign. -/
  | flags
  /-- A repetition with nothing to repeat. -/
  | nothingToRepeat
  /-- A repetition count that is no number, is too large or runs downwards. -/
  | count
  /-- An escape that has no meaning, such as a back-reference. -/
  | escape
  /-- The code of a character that does not exist. -/
  | codePoint
  /-- A property that is not known. -/
  | property
  /-- A range in a class that runs downwards or is not between two characters. -/
  | range
  /-- An assertion in a class. -/
  | assertionInClass
  /-- A class that would match part of a character while Unicode is switched off. -/
  | notUnicode
deriving DecidableEq, Repr

end TableLexer.Pattern
