import TableLexer.Pattern.Search

/-!
# Backtracking

`search` tries the ways of a program one after another, in order of preference, and `Finds p i x r` says
that this ends with the result `r` from instruction `i` on. Whether it fails does not depend on the marks
(`search_isSome_marks`). `First` is the result of ways that wait at one position.
-/

namespace TableLexer.Pattern

/-! ## Backtracking -/

/-- Where a way to match stands: how many characters it has read, what is on both sides, and what it
has marked. -/
structure Spot where
  count : Nat
  before : Option Char
  text : List Char
  marks : Marks

/-- The position of a spot. -/
def Spot.place (x : Spot) : Place := ⟨x.count, x.before, x.text.head?⟩

/-- The spot with other marks. -/
def Spot.withMarks (x : Spot) (marks : Marks) : Spot := { x with marks }

@[simp] theorem Spot.withMarks_text (x : Spot) (marks : Marks) : (x.withMarks marks).text = x.text := rfl
@[simp] theorem Spot.withMarks_before (x : Spot) (marks : Marks) :
    (x.withMarks marks).before = x.before := rfl

/-- The spot with one more mark. -/
def Spot.mark (x : Spot) (slot : Nat) : Spot := { x with marks := (slot, x.count) :: x.marks }

/-- The spot after the next character. -/
def Spot.next (x : Spot) (c : Char) (cs : List Char) : Spot := ⟨x.count + 1, some c, cs, x.marks⟩

/-- The match that ends at a spot. -/
def Spot.toMatch (x : Spot) : Match := ⟨x.count, x.marks⟩

/-- Tries the ways from an instruction one after another. The result is `none` if the fuel does not
do, and otherwise the first match, if there is one. -/
def search (p : Program) : Nat → Nat → Spot → Option (Option Match)
  | 0, _, _ => none
  | fuel + 1, index, x =>
    match p[index]? with
    | none => some none
    | some .accept => some (some x.toMatch)
    | some (.read set next) =>
      match x.text with
      | [] => some none
      | c :: cs => if set.contains c then search p fuel next (x.next c cs) else some none
    | some (.look condition next) =>
      if condition.holds x.before x.text.head? then search p fuel next x else some none
    | some (.mark slot next) => search p fuel next (x.mark slot)
    | some (.fork first second) =>
      match search p fuel first x with
      | some none => search p fuel second x
      | result => result

attribute [local simp] search

/-- Backtracking from an instruction ends with a result. -/
def Finds (p : Program) (index : Nat) (x : Spot) (result : Option Match) : Prop :=
  ∃ fuel, search p fuel index x = some result

variable {p : Program} {x : Spot}

theorem search_succ {fuel index : Nat} {result : Option Match}
    (h : search p fuel index x = some result) : search p (fuel + 1) index x = some result := by
  induction fuel generalizing index x result with
  | zero => cases h
  | succ fuel ih =>
    rw [search] at h ⊢
    split at h
    · exact h
    · exact h
    · split at h
      · exact h
      · split at h
        · next hc => rw [if_pos hc]; exact ih h
        · next hc => rw [if_neg hc]; exact h
    · split at h
      · next hc => rw [if_pos hc]; exact ih h
      · next hc => rw [if_neg hc]; exact h
    · exact ih h
    · next first second _ =>
      cases hfirst : search p fuel first x with
      | none => rw [hfirst] at h; cases h
      | some r =>
        rw [hfirst] at h
        rw [ih hfirst]
        cases r with
        | none => exact ih h
        | some m => exact h

theorem search_mono {fuel fuel' index : Nat} {result : Option Match}
    (h : search p fuel index x = some result) (hle : fuel ≤ fuel') :
    search p fuel' index x = some result := by
  induction hle with
  | refl => exact h
  | step _ ih => exact search_succ ih

theorem Finds.unique {index : Nat} {r r' : Option Match} (h : Finds p index x r)
    (h' : Finds p index x r') : r = r' := by
  obtain ⟨fuel, h⟩ := h
  obtain ⟨fuel', h'⟩ := h'
  have hmax := search_mono h (Nat.le_max_left fuel fuel')
  rw [search_mono h' (Nat.le_max_right fuel fuel')] at hmax
  cases hmax
  rfl

/-- Marks have no part in whether backtracking ends, nor in whether it fails. -/
theorem search_isSome_marks (fuel index : Nat) (x : Spot) (marks : Marks) :
    (search p fuel index (x.withMarks marks)).map Option.isSome
      = (search p fuel index x).map Option.isSome := by
  induction fuel generalizing index x marks with
  | zero => rfl
  | succ fuel ih =>
    rw [search, search]
    split
    · rfl
    · rfl
    · simp only [Spot.withMarks_text]
      split
      · rfl
      · next c cs _ =>
        split
        · exact ih _ (x.next c cs) marks
        · rfl
    · next condition next _ =>
      simp only [Spot.withMarks_text, Spot.withMarks_before]
      by_cases hc : condition.holds x.before x.text.head? = true
      · simp only [hc, if_true]
        exact ih next x marks
      · simp only [hc, Bool.false_eq_true, if_false]
    · next slot _ _ => exact ih _ (x.mark slot) ((slot, x.count) :: marks)
    · next first second _ =>
      -- with and without marks the first way ends alike, and the second is tried in the same cases
      have hfirst := ih first x marks
      have hsecond := ih second x marks
      revert hfirst
      cases search p fuel first (x.withMarks marks) with
      | none =>
        cases search p fuel first x with
        | none => exact fun _ => rfl
        | some r => exact fun h => (nomatch h)
      | some r =>
        cases search p fuel first x with
        | none => exact fun h => (nomatch h)
        | some r' =>
          cases r with
          | none =>
            cases r' with
            | none => exact fun _ => hsecond
            | some m => exact fun h => (nomatch h)
          | some m =>
            cases r' with
            | none => exact fun h => (nomatch h)
            | some m' => exact fun _ => rfl

theorem search_none_marks {fuel index : Nat} (marks : Marks) (h : search p fuel index x = none) :
    search p fuel index (x.withMarks marks) = none := by
  have hmarks := search_isSome_marks (p := p) fuel index x marks
  rw [h] at hmarks
  exact Option.map_eq_none_iff.mp hmarks

theorem Finds.marks {index : Nat} (h : Finds p index x none) (marks : Marks) :
    Finds p index (x.withMarks marks) none := by
  obtain ⟨fuel, h⟩ := h
  have hmarks := search_isSome_marks (p := p) fuel index x marks
  rw [h] at hmarks
  obtain ⟨r, hr, hnone⟩ := Option.map_eq_some_iff.mp hmarks
  exact ⟨fuel, by rw [hr, Option.isSome_eq_false_iff.mp hnone |> Option.isNone_iff_eq_none.mp]⟩

/-! ### One instruction -/

theorem Finds.accept {index : Nat} (hi : p[index]? = some .accept) :
    Finds p index x (some x.toMatch) := ⟨1, by simp [hi]⟩

theorem Finds.read {index next : Nat} {set : Unicode.CharSet} {c : Char} {cs : List Char}
    {r : Option Match} (hi : p[index]? = some (.read set next)) (htext : x.text = c :: cs)
    (hc : set.contains c = true) (h : Finds p next (x.next c cs) r) : Finds p index x r := by
  obtain ⟨fuel, h⟩ := h
  exact ⟨fuel + 1, by simpa [hi, htext, hc] using h⟩

theorem Finds.read_nil {index next : Nat} {set : Unicode.CharSet}
    (hi : p[index]? = some (.read set next)) (htext : x.text = []) : Finds p index x none :=
  ⟨1, by simp [hi, htext]⟩

theorem Finds.read_other {index next : Nat} {set : Unicode.CharSet} {c : Char} {cs : List Char}
    (hi : p[index]? = some (.read set next)) (htext : x.text = c :: cs)
    (hc : set.contains c = false) : Finds p index x none :=
  ⟨1, by simp [hi, htext, hc]⟩

theorem Finds.look {index next : Nat} {condition : Assertion} {r : Option Match}
    (hi : p[index]? = some (.look condition next))
    (hholds : condition.holds x.before x.text.head? = true) (h : Finds p next x r) :
    Finds p index x r := by
  obtain ⟨fuel, h⟩ := h
  exact ⟨fuel + 1, by simpa [hi, hholds] using h⟩

theorem Finds.look_not {index next : Nat} {condition : Assertion}
    (hi : p[index]? = some (.look condition next))
    (hholds : condition.holds x.before x.text.head? = false) : Finds p index x none :=
  ⟨1, by simp [hi, hholds]⟩

theorem Finds.mark {index next slot : Nat} {r : Option Match}
    (hi : p[index]? = some (.mark slot next)) (h : Finds p next (x.mark slot) r) :
    Finds p index x r := by
  obtain ⟨fuel, h⟩ := h
  exact ⟨fuel + 1, by simpa [hi] using h⟩

theorem Finds.fork {index first second : Nat} {r r' : Option Match}
    (hi : p[index]? = some (.fork first second)) (hfirst : Finds p first x r)
    (hsecond : Finds p second x r') : Finds p index x (r.or r') := by
  obtain ⟨fuel, hfirst⟩ := hfirst
  obtain ⟨fuel', hsecond⟩ := hsecond
  refine ⟨max fuel fuel' + 1, ?_⟩
  rw [search, hi]
  simp only [search_mono hfirst (Nat.le_max_left fuel fuel')]
  cases r with
  | none => exact search_mono hsecond (Nat.le_max_right fuel fuel')
  | some m => rfl

/-! ## Ways in order of preference -/

/-- The result of ways at one position, tried one after another. -/
inductive First (p : Program) (x : Spot) : List Thread → Option Match → Prop
  | nil : First p x [] none
  | hit {t : Thread} {ts : List Thread} {m : Match}
      (h : Finds p t.index (x.withMarks t.marks) (some m)) : First p x (t :: ts) (some m)
  | miss {t : Thread} {ts : List Thread} {r : Option Match}
      (h : Finds p t.index (x.withMarks t.marks) none) (hrest : First p x ts r) :
      First p x (t :: ts) r

theorem First.append_of_some {ts us : List Thread} {m : Match} (h : First p x ts (some m)) :
    First p x (ts ++ us) (some m) := by
  generalize hr : some m = r at h
  induction h with
  | nil => cases hr
  | hit h => exact .hit h
  | miss h _ ih => exact .miss h (ih hr)

theorem First.append_of_none {ts us : List Thread} {r : Option Match} (h : First p x ts none)
    (h' : First p x us r) : First p x (ts ++ us) r := by
  generalize hr : none = r' at h
  induction h with
  | nil => exact h'
  | hit h => cases hr
  | miss h _ ih => exact .miss h (ih hr)

theorem First.singleton {t : Thread} {r : Option Match}
    (h : Finds p t.index (x.withMarks t.marks) r) : First p x [t] r := by
  cases r with
  | none => exact .miss h .nil
  | some m => exact .hit h

end TableLexer.Pattern
