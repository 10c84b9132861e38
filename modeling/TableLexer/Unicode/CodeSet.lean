/-!
# Sets of code points

A set of code points is a list of arithmetic runs, since the properties of characters come in
blocks and, for cased scripts, in every second place. A map on code points that shifts some runs
and leaves all else alone is a list of such runs, each with the image of its first member.
-/

namespace TableLexer.Unicode

/-- The code points `first`, `first + step`, … up to `last`. -/
structure CodeRun where
  first : Nat
  last : Nat
  step : Nat
deriving DecidableEq, Repr

/-- Whether a code point is in the run. -/
def CodeRun.contains (r : CodeRun) (n : Nat) : Bool :=
  Nat.ble r.first n && Nat.ble n r.last && Nat.beq ((n - r.first) % r.step) 0

/-- A set of code points, as the runs that make it up. -/
abbrev CodeSet := List CodeRun

/-- Whether a character is in the set. -/
def CodeSet.contains (s : CodeSet) (c : Char) : Bool :=
  s.any (·.contains c.toNat)

/-- A run of code points that is moved as a whole, so that its first one goes to `image`. -/
structure CodeShift where
  run : CodeRun
  image : Nat
deriving DecidableEq, Repr

/-- Where a shift sends a code point of its run. -/
def CodeShift.imageOf? (s : CodeShift) (n : Nat) : Option Nat :=
  if s.run.contains n then some (s.image + (n - s.run.first)) else none

/-- The code point of the run that is sent to `n`. -/
def CodeShift.source? (s : CodeShift) (n : Nat) : Option Nat :=
  let m := n - s.image + s.run.first
  if s.image ≤ n ∧ s.run.contains m then some m else none

/-- A map on code points that shifts each of a list of runs and leaves all else alone. -/
abbrev CodeMap := List CodeShift

/-- The image of a character under the map. -/
def CodeMap.apply (m : CodeMap) (c : Char) : Char :=
  match m.findSome? (·.imageOf? c.toNat) with
  | some n => Char.ofNat n
  | none => c

/-- The characters that the map sends to `c` by one of its shifts. -/
def CodeMap.sources (m : CodeMap) (c : Char) : List Char :=
  m.filterMap fun s => (s.source? c.toNat).map Char.ofNat

end TableLexer.Unicode
