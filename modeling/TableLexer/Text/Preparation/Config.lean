import TableLexer.Text.Preparation

/-!
# Preparations from a configuration

A configuration gives the parts of a preparation by name, or in order as a list. What it leaves out
takes the default, and names that are not known are passed over; a value of the wrong type is
refused.
-/

namespace TableLexer.Text

/-- A value of a configuration. Numbers other than integers have no place in one, so they are told
apart but not kept. -/
inductive Config
  | null
  | bool (value : Bool)
  | int (value : Int)
  | float
  | text (value : String)
  | list (items : List Config)
  | record (fields : List (String × Config))
deriving Inhabited

namespace Config

/-- A truth value. -/
def bool? : Config → Option Bool
  | bool b => some b
  | _ => none

/-- A number of columns, which is below 2 ^ 64. -/
def size? : Config → Option Nat
  | int (.ofNat n) => if n < UInt64.size then some n else none
  | _ => none

/-- What a value is read as, or a default if there is no value. -/
def getD {α : Type} (value : Option Config) (read : Config → Option α) (default : α) : Option α :=
  match value with
  | some v => read v
  | none => some default

end Config

namespace Preparation

/-- The preparation with the given values for its parts. -/
def ofParts? (ensureNewline normalizeNewlines tabSize : Option Config) : Option Preparation := do
  return {
    ensureNewline := ← Config.getD ensureNewline Config.bool? false
    normalizeNewlines := ← Config.getD normalizeNewlines Config.bool? false
    tabSize := ← Config.getD tabSize Config.size? 0 }

/-- The preparation that a configuration gives. -/
def ofConfig? : Config → Option Preparation
  | .record fields =>
    let field := fun name => fields.lookup name
    ofParts? (field "ensure_newline") (field "normalize_newlines") (field "tab_size")
  | .list items =>
    if items.length ≤ 3 then ofParts? items[0]? items[1]? items[2]? else none
  | _ => none

end Preparation

end TableLexer.Text
