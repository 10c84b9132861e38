import TableLexer.Event
import TableLexer.Pattern.Search
import TableLexer.Rule

/-!
# Lexer tables

A table is a list of named states, each an ordered list of rules; scanning starts in the state
`root`. `Table.build` reads all patterns and resolves all names, so that a fault in a table shows
when it is built and not when some input reaches the faulty rule.
-/

namespace TableLexer

/-- The name of the state in which scanning starts. -/
def rootName : String := "root"

/-- A state as it is written: its name and its rules, in the order in which they are tried. -/
structure StateSpec where
  name : String
  rules : List Rule
deriving DecidableEq, Repr

/-- A fault in a table. A rule is given by its place in its state, from zero. -/
inductive TableError
  /-- There is no state to start in. -/
  | missingRoot
  /-- Two states have one name. -/
  | duplicateState (name : String)
  /-- A rule enters a state that is not there. -/
  | unknownState (state : String) (rule : Nat) (target : String)
  /-- The text of a rule's pattern is no pattern. -/
  | badPattern (state : String) (rule : Nat) (fault : Pattern.Fault)
  /-- The pattern of a rule does not have one group for each kind. -/
  | groupCountMismatch (state : String) (rule kinds groups : Nat)
  /-- A guard asks for one of no texts, so that it never holds. -/
  | emptyGuard (state : String) (rule : Nat)
deriving DecidableEq, Repr

/-- What is said about a fault. -/
def TableError.message : TableError → String
  | missingRoot => "Lexer table has no `root` state."
  | duplicateState name => s!"State `{name}` is defined more than once."
  | unknownState state rule target =>
    s!"Rule {rule} in state `{state}` transitions to undefined state `{target}`."
  | badPattern state rule _ => s!"Rule {rule} in state `{state}` has an invalid pattern."
  | groupCountMismatch state rule kinds groups =>
    s!"Rule {rule} in state `{state}` names {kinds} token kinds for {groups} capture groups."
  | emptyGuard state rule =>
    s!"Rule {rule} in state `{state}` has a lookbehind guard with no alternatives."

/-! ## Built tables -/

/-- The text that opens a literal, and the number of its rule among the rules for literals. -/
structure Opener where
  text : String
  slot : Nat
deriving DecidableEq, Repr

/-- What a rule of a built table does; states are given by their place. -/
inductive Action
  | scan (pattern : Pattern) (opener : Option Opener) (emission : Emission)
  | push (state : Nat)
  | pop

/-- A rule of a built table. -/
structure Entry where
  guard : Guard
  action : Action

/-- A state of a built table. -/
structure State where
  name : String
  entries : List Entry

/-- A built table: its states, and the place of the one to start in. -/
structure Table where
  states : List State
  root : Nat
deriving Inhabited

namespace Table

/-- The names of the states, in order. -/
def stateNames (t : Table) : List String := t.states.map (·.name)

/-- The rules of the state at a place. -/
def entries (t : Table) (state : Nat) : List Entry :=
  match t.states[state]? with
  | some s => s.entries
  | none => []

/-- The number of rules. -/
def ruleCount (t : Table) : Nat := t.states.foldr (fun s n => s.entries.length + n) 0

/-- The event of having built the table. -/
def builtEvent (t : Table) : Event := .built t.states.length t.ruleCount

/-! ## Building -/

/-- The first name that has stood before. -/
def firstRepeated? : List String → List String → Option String
  | _, [] => none
  | seen, name :: names =>
    if seen.contains name then some name else firstRepeated? (name :: seen) names

/-- Resolves a rule. `slots` is the number of rules for literals before it; the new number comes
with the result. -/
def resolve (names : List String) (state : String) (index : Nat) (slots : Nat) (rule : Rule) :
    Except TableError (Entry × Nat) := do
  if rule.guard.after = some [] then .error (.emptyGuard state index)
  match rule.body with
  | .scan text opener emission =>
    let pattern ← (Pattern.read text).mapError (.badPattern state index)
    match emission with
    | .groups kinds =>
      if pattern.groupCount ≠ kinds.length then
        .error (.groupCountMismatch state index kinds.length pattern.groupCount)
    | .whole _ => pure ()
    match opener with
    | some text =>
      return (⟨rule.guard, .scan pattern (some ⟨text, slots⟩) emission⟩, slots + 1)
    | none => return (⟨rule.guard, .scan pattern none emission⟩, slots)
  | .push target =>
    match names.idxOf? target with
    | some i => return (⟨rule.guard, .push i⟩, slots)
    | none => .error (.unknownState state index target)
  | .pop => return (⟨rule.guard, .pop⟩, slots)

/-- Resolves the rules of a state from a given place on. -/
def resolveRules (names : List String) (state : String) :
    Nat → Nat → List Rule → Except TableError (List Entry × Nat)
  | _, slots, [] => .ok ([], slots)
  | index, slots, rule :: rules => do
    let (entry, slots) ← resolve names state index slots rule
    let (entries, slots) ← resolveRules names state (index + 1) slots rules
    return (entry :: entries, slots)

/-- Resolves the states of a table in turn. -/
def resolveStates (names : List String) : Nat → List StateSpec → Except TableError (List State)
  | _, [] => .ok []
  | slots, spec :: specs => do
    let (entries, slots) ← resolveRules names spec.name 0 slots spec.rules
    let states ← resolveStates names slots specs
    return ⟨spec.name, entries⟩ :: states

/-- Builds a table, or says what is wrong with it: first a state that is there twice, then the lack
of a root, then the first faulty rule. -/
def build (specs : List StateSpec) : Except TableError Table :=
  let names := specs.map (·.name)
  match firstRepeated? [] names with
  | some name => .error (.duplicateState name)
  | none =>
    match names.idxOf? rootName with
    | none => .error .missingRoot
    | some root => (resolveStates names 0 specs).map (⟨·, root⟩)

end Table

end TableLexer
