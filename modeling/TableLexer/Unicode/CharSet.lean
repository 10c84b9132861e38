import TableLexer.Unicode.CaseFold

/-!
# Sets of characters

Sets of characters as expressions over ranges and tables, so that a class in a pattern and a
property of the standard are values of one type. `CharSet.contains` is their meaning; the lemmas
below say it once for each operation.
-/

namespace TableLexer.Unicode

/-- A set of characters. -/
inductive CharSet
  /-- No character at all. -/
  | empty
  /-- The characters from the first to the last, both included. -/
  | range (first last : Char)
  /-- The characters of a table. -/
  | codes (table : CodeSet)
  | union (a b : CharSet)
  | inter (a b : CharSet)
  | compl (a : CharSet)
  /-- The characters with a case variant in the set. -/
  | folded (a : CharSet)
  /-- The characters that are in the set up to the case of the letters `a` to `z`. -/
  | foldedAscii (a : CharSet)
deriving Inhabited

namespace CharSet

/-- Whether a character is in the set. -/
def contains : CharSet → Char → Bool
  | empty, _ => false
  | range first last, c => Nat.ble first.toNat c.toNat && Nat.ble c.toNat last.toNat
  | codes table, c => table.contains c
  | union a b, c => a.contains c || b.contains c
  | inter a b, c => a.contains c && b.contains c
  | compl a, c => !a.contains c
  | folded a, c => (CaseFold.variants c).any a.contains
  | foldedAscii a, c => a.contains c || a.contains c.toLower || a.contains c.toUpper

instance : Membership Char CharSet := ⟨fun s c => s.contains c = true⟩
instance : Union CharSet := ⟨union⟩
instance : Inter CharSet := ⟨inter⟩
instance : SDiff CharSet := ⟨fun a b => inter a (compl b)⟩

instance (c : Char) (s : CharSet) : Decidable (c ∈ s) :=
  inferInstanceAs (Decidable (s.contains c = true))

/-- The set of one character. -/
def single (c : Char) : CharSet := range c c

/-- All characters. -/
def all : CharSet := compl empty

/-- The characters below 128. -/
def ascii : CharSet := range '\x00' '\x7f'

/-- The characters in exactly one of two sets. -/
def symmDiff (a b : CharSet) : CharSet := (a \ b) ∪ (b \ a)

/-- The characters of a list. -/
def ofList (cs : List Char) : CharSet := cs.foldr (fun c s => single c ∪ s) empty

theorem mem_iff {c : Char} {s : CharSet} : c ∈ s ↔ s.contains c = true := Iff.rfl

@[simp] theorem not_mem_empty (c : Char) : c ∉ empty := Bool.false_ne_true

@[simp] theorem mem_all (c : Char) : c ∈ all := rfl

@[simp] theorem mem_range {a b c : Char} : c ∈ range a b ↔ a ≤ c ∧ c ≤ b := by
  show (Nat.ble a.toNat c.toNat && Nat.ble c.toNat b.toNat) = true ↔ _
  rw [Bool.and_eq_true, Nat.ble_eq, Nat.ble_eq]
  exact Iff.rfl

@[simp] theorem mem_single {a c : Char} : c ∈ single a ↔ c = a := by
  simp only [single, mem_range]
  constructor
  · rintro ⟨h, h'⟩; exact Char.le_antisymm h' h
  · rintro rfl; exact ⟨Char.le_refl _, Char.le_refl _⟩

@[simp] theorem mem_union {a b : CharSet} {c : Char} : c ∈ a ∪ b ↔ c ∈ a ∨ c ∈ b := by
  show (a.contains c || b.contains c) = true ↔ _
  rw [Bool.or_eq_true]
  exact Iff.rfl

@[simp] theorem mem_inter {a b : CharSet} {c : Char} : c ∈ a ∩ b ↔ c ∈ a ∧ c ∈ b := by
  show (a.contains c && b.contains c) = true ↔ _
  rw [Bool.and_eq_true]
  exact Iff.rfl

@[simp] theorem mem_compl {a : CharSet} {c : Char} : c ∈ compl a ↔ c ∉ a := by
  show (!a.contains c) = true ↔ ¬ a.contains c = true
  rw [Bool.not_eq_true', Bool.not_eq_true]

@[simp] theorem mem_sdiff {a b : CharSet} {c : Char} : c ∈ a \ b ↔ c ∈ a ∧ c ∉ b := by
  show c ∈ a ∩ compl b ↔ _
  rw [mem_inter, mem_compl]

@[simp] theorem mem_folded {a : CharSet} {c : Char} :
    c ∈ folded a ↔ ∃ d ∈ CaseFold.variants c, d ∈ a := by
  show (CaseFold.variants c).any a.contains = true ↔ _
  rw [List.any_eq_true]
  exact Iff.rfl

theorem mem_ofList {cs : List Char} {c : Char} : c ∈ ofList cs ↔ c ∈ cs := by
  induction cs with
  | nil => simp [ofList]
  | cons d cs ih => simp only [ofList, List.foldr_cons, mem_union, mem_single, List.mem_cons] at ih ⊢; rw [ih]

end CharSet

end TableLexer.Unicode
