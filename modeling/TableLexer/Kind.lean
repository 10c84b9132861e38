/-!
# Kinds of tokens

Kinds form a hierarchy of two levels: a kind such as `Number.Hex` refines `Number`, which a
highlighter falls back on if it has no style for the finer kind. `isWithin_iff` and
`isWithin_trans` say that being within a kind is a partial order.
-/

namespace TableLexer

/-- What a token is. -/
inductive Kind
  | keyword
  | keywordReserved
  /-- The name of a built-in type. -/
  | keywordType
  | keywordDeclaration
  | name
  | nameClass
  | nameFunction
  | nameAttribute
  | nameEntity
  | number
  | numberFloat
  | numberHex
  | numberBin
  | numberOct
  | numberInteger
  | string
  | comment
  /-- A comment that ends with the line. -/
  | commentSingle
  | commentMultiline
  | commentPreproc
  | operator
  /-- An operator spelled as a word. -/
  | operatorWord
  | punctuation
  | whitespace
  /-- Text that no finer rule claimed. -/
  | text
  /-- Text that no rule matched. -/
  | error
deriving DecidableEq, Repr, Inhabited

namespace Kind

/-- All kinds. -/
def all : List Kind := [
  keyword, keywordReserved, keywordType, keywordDeclaration,
  name, nameClass, nameFunction, nameAttribute, nameEntity,
  number, numberFloat, numberHex, numberBin, numberOct, numberInteger,
  string, comment, commentSingle, commentMultiline, commentPreproc,
  operator, operatorWord, punctuation, whitespace, text, error]

/-- The name of a kind, with a dot after the kind that it refines. -/
def label : Kind → String
  | keyword => "Keyword"
  | keywordReserved => "Keyword.Reserved"
  | keywordType => "Keyword.Type"
  | keywordDeclaration => "Keyword.Declaration"
  | name => "Name"
  | nameClass => "Name.Class"
  | nameFunction => "Name.Function"
  | nameAttribute => "Name.Attribute"
  | nameEntity => "Name.Entity"
  | number => "Number"
  | numberFloat => "Number.Float"
  | numberHex => "Number.Hex"
  | numberBin => "Number.Bin"
  | numberOct => "Number.Oct"
  | numberInteger => "Number.Integer"
  | string => "String"
  | comment => "Comment"
  | commentSingle => "Comment.Single"
  | commentMultiline => "Comment.Multiline"
  | commentPreproc => "Comment.Preproc"
  | operator => "Operator"
  | operatorWord => "Operator.Word"
  | punctuation => "Punctuation"
  | whitespace => "Whitespace"
  | text => "Text"
  | error => "Error"

/-- The kind with a given name. -/
def ofLabel? (s : String) : Option Kind := all.find? (·.label == s)

/-- The kind that this one refines. -/
def parent? : Kind → Option Kind
  | keywordReserved | keywordType | keywordDeclaration => some keyword
  | nameClass | nameFunction | nameAttribute | nameEntity => some name
  | numberFloat | numberHex | numberBin | numberOct | numberInteger => some number
  | commentSingle | commentMultiline | commentPreproc => some comment
  | operatorWord => some operator
  | _ => none

/-- Whether a kind is another one or refines it. -/
def isWithin (k outer : Kind) : Bool := k == outer || k.parent? == some outer

instance : ToString Kind := ⟨label⟩

theorem mem_all (k : Kind) : k ∈ all := by cases k <;> decide

theorem ofLabel?_label (k : Kind) : ofLabel? k.label = some k := by cases k <;> decide

theorem parent?_parent? {k outer : Kind} (h : k.parent? = some outer) : outer.parent? = none := by
  cases k <;> simp [parent?] at h <;> subst h <;> rfl

theorem isWithin_iff {k outer : Kind} : k.isWithin outer = true ↔ k = outer ∨ k.parent? = some outer := by
  simp [isWithin]

theorem isWithin_trans {a b c : Kind} (h : a.isWithin b = true) (h' : b.isWithin c = true) :
    a.isWithin c = true := by
  rw [isWithin_iff] at h h' ⊢
  rcases h with rfl | h
  · exact h'
  · rcases h' with rfl | h'
    · exact .inr h
    · rw [parent?_parent? h] at h'; cases h'

end Kind

end TableLexer
