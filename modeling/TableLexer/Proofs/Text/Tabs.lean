import Mathlib.Data.List.DropRight
import TableLexer.Text.Preparation

/-!
# Tabs reach tab stops

`expandTabs_stops`: expanding the tabs of a text keeps all other characters as they stand, and puts in the place of a
tab the fewest spaces, one at least, that make the line written so far a multiple of the tab size wide. So a text can
be expanded line by line.

Proof. The column that `expandFrom` counts is the width of what has been written since the last line feed. A space
adds one to it (`lineWidth_spaces`), so that what it lacks to the next multiple is the least number of spaces that
reaches a tab stop (`reachesStop_iff`). The induction is on the text, for all that may have been written before it
(`expands_iff`).
-/

namespace TableLexer.Text
open Unicode

/-! ## The width of a line -/

/-- The line that is being written: what has been written since the last line feed. -/
def lastLine (written : List Char) : List Char := written.rtakeWhile (· != '\n')

/-- The columns of the line that is being written. -/
def lineWidth (written : List Char) : Nat := Width.ofText (lastLine written)

section Line
variable {written : List Char} {c : Char}

theorem lineWidth_lineFeed : lineWidth (written ++ ['\n']) = 0 := by
  unfold lineWidth lastLine
  rw [List.rtakeWhile_concat_neg _ _ _ (by simp), Width.ofText_nil]

theorem lineWidth_concat (hc : c ≠ '\n') : lineWidth (written ++ [c]) = lineWidth written + Width.ofChar c := by
  unfold lineWidth lastLine
  rw [List.rtakeWhile_concat_pos _ _ _ (by simpa using hc), Width.ofText_append]
  simp

theorem lineWidth_spaces (count : Nat) :
    lineWidth (written ++ List.replicate count ' ') = lineWidth written + count := by
  induction count with
  | zero => simp
  | succ count ih =>
    rw [List.replicate_succ', ← List.append_assoc, lineWidth_concat (by decide), ih, Width.ofChar_space]
    omega

theorem lineWidth_control (hcontrol : Width.isControl c = true) (hc : c ≠ '\n') :
    lineWidth (written ++ [c]) = lineWidth written := by
  rw [lineWidth_concat hc, Width.ofChar_of_isControl hcontrol, Nat.add_zero]

end Line

/-! ## Tab stops -/

/-- After what has been written, so many spaces are the fewest, one at least, that lead to a tab stop. -/
structure ReachesStop (tabSize : Nat) (written : List Char) (count : Nat) : Prop where
  pos : 0 < count
  stops : tabSize ∣ lineWidth (written ++ List.replicate count ' ')
  least : ∀ other, 0 < other → tabSize ∣ lineWidth (written ++ List.replicate other ' ') → count ≤ other

section Stops
variable {tabSize count : Nat} {written text out : List Char}

theorem dvd_add_iff_mod (column : Nat) : tabSize ∣ column + count ↔ tabSize ∣ column % tabSize + count := by
  have hcolumn : column + count = tabSize * (column / tabSize) + (column % tabSize + count) := by
    have := Nat.div_add_mod column tabSize
    omega
  rw [hcolumn]
  exact Nat.dvd_add_right (Nat.dvd_mul_right tabSize _)

/-- The fewest spaces that lead to a tab stop are what the column lacks to the next multiple. -/
theorem reachesStop_iff (h : 0 < tabSize) :
    ReachesStop tabSize written count ↔ count = tabSize - lineWidth written % tabSize := by
  have hlt : lineWidth written % tabSize < tabSize := Nat.mod_lt _ h
  -- whether spaces lead to a stop depends on the remainder of the column alone
  have hstops (other : Nat) : tabSize ∣ lineWidth (written ++ List.replicate other ' ') ↔
      tabSize ∣ lineWidth written % tabSize + other := by
    rw [lineWidth_spaces, dvd_add_iff_mod]
  have hreach : tabSize ∣ lineWidth written % tabSize + (tabSize - lineWidth written % tabSize) :=
    ⟨1, by omega⟩
  constructor
  · intro hcount
    have hle := hcount.least _ (by omega) ((hstops _).mpr hreach)
    have hge := Nat.le_of_dvd (by have := hcount.pos; omega) ((hstops count).mp hcount.stops)
    omega
  · rintro rfl
    refine ⟨by omega, (hstops _).mpr hreach, ?_⟩
    intro other hpos hother
    have hge := Nat.le_of_dvd (by omega) ((hstops other).mp hother)
    omega

theorem ReachesStop.bounds (h : 0 < tabSize) (hcount : ReachesStop tabSize written count) :
    count ≤ tabSize ∧ (tabSize ∣ lineWidth written ↔ count = tabSize) := by
  have hlt : lineWidth written % tabSize < tabSize := Nat.mod_lt _ h
  rw [(reachesStop_iff h).mp hcount, Nat.dvd_iff_mod_eq_zero]
  omega

/-! ## Expanding -/

/-- After what has been written, a text is expanded to an output: a tab becomes the spaces that lead to the next tab
stop, and any other character is kept. -/
inductive Expands (tabSize : Nat) : List Char → List Char → List Char → Prop
  | nil {written : List Char} : Expands tabSize written [] []
  | keep {written text out : List Char} {c : Char} (hc : c ≠ '\t')
      (h : Expands tabSize (written ++ [c]) text out) : Expands tabSize written (c :: text) (c :: out)
  | tab {written text out : List Char} {count : Nat} (hcount : ReachesStop tabSize written count)
      (h : Expands tabSize (written ++ List.replicate count ' ') text out) :
      Expands tabSize written ('\t' :: text) (List.replicate count ' ' ++ out)

theorem expandFrom_tab (tabSize column : Nat) (text : List Char) : expandFrom tabSize column ('\t' :: text) =
    List.replicate (tabSize - column % tabSize) ' '
      ++ expandFrom tabSize (column + (tabSize - column % tabSize)) text := by
  simp [expandFrom]

theorem expandFrom_keep (tabSize : Nat) (written text : List Char) {c : Char} (hc : c ≠ '\t') :
    expandFrom tabSize (lineWidth written) (c :: text)
      = c :: expandFrom tabSize (lineWidth (written ++ [c])) text := by
  by_cases hline : c = '\n'
  · subst hline
    rw [lineWidth_lineFeed]
    simp [expandFrom]
  · rw [lineWidth_concat hline]
    simp [expandFrom, hc, hline]

/-- The column counted is the width of the line, so `expandFrom` gives what a text is expanded to, and nothing else. -/
theorem expands_iff (h : 0 < tabSize) :
    Expands tabSize written text out ↔ out = expandFrom tabSize (lineWidth written) text := by
  induction text generalizing written out with
  | nil =>
    constructor
    · intro hout
      cases hout
      rfl
    · rintro rfl
      exact .nil
  | cons c text ih =>
    by_cases hc : c = '\t'
    · subst hc
      rw [expandFrom_tab, ← lineWidth_spaces]
      constructor
      · intro hout
        cases hout with
        | keep hne => exact absurd rfl hne
        | tab hcount hout => rw [ih.mp hout, (reachesStop_iff h).mp hcount]
      · rintro rfl
        exact .tab ((reachesStop_iff h).mpr rfl) (ih.mpr rfl)
    · rw [expandFrom_keep _ _ _ hc]
      constructor
      · intro hout
        cases hout with
        | keep _ hout => rw [ih.mp hout]
        | tab => exact absurd rfl hc
      · rintro rfl
        exact .keep hc (ih.mpr rfl)

theorem expandFrom_lineFeed (tabSize column : Nat) (x y : List Char) :
    expandFrom tabSize column (x ++ '\n' :: y) = expandFrom tabSize column x ++ '\n' :: expandTabs tabSize y := by
  induction x generalizing column with
  | nil => simp [expandFrom, expandTabs]
  | cons c x ih =>
    rw [List.cons_append, expandFrom, expandFrom]
    split
    · simp only [ih, List.append_assoc]
    split
    · simp only [ih, List.cons_append]
    · simp only [ih, List.cons_append]

theorem mem_expandFrom {column : Nat} {c : Char} (h : c ∈ expandFrom tabSize column text) :
    c = ' ' ∨ (c ≠ '\t' ∧ c ∈ text) := by
  induction text generalizing column with
  | nil => simp [expandFrom] at h
  | cons d text ih =>
    have htext {column : Nat} (h : c ∈ expandFrom tabSize column text) : c = ' ' ∨ (c ≠ '\t' ∧ c ∈ d :: text) := by
      rcases ih h with hspace | ⟨htab, hmem⟩
      · exact .inl hspace
      · exact .inr ⟨htab, List.mem_cons_of_mem d hmem⟩
    rw [expandFrom] at h
    split at h
    · rcases List.mem_append.mp h with h | h
      · exact .inl (List.eq_of_mem_replicate h)
      · exact htext h
    next hd =>
    split at h
    · rcases List.mem_cons.mp h with rfl | h
      · exact .inr ⟨hd, List.mem_cons_self⟩
      · exact htext h
    · rcases List.mem_cons.mp h with rfl | h
      · exact .inr ⟨hd, List.mem_cons_self⟩
      · exact htext h

end Stops

/-- **Tabs reach tab stops.** A text is expanded to what `expandTabs` gives and to nothing else: each tab becomes the
fewest spaces, one at least, that make the line written so far a multiple of the tab size wide, and all other
characters are kept in order. These are at most `tabSize` spaces, and exactly so many where the line is at a tab stop
already. Control codes take no room in the line. Lines are expanded each by itself. -/
theorem expandTabs_stops {tabSize : Nat} (h : 0 < tabSize) :
    (∀ text out, Expands tabSize [] text out ↔ out = expandTabs tabSize text) ∧
      (∀ written count, ReachesStop tabSize written count →
        count ≤ tabSize ∧ (tabSize ∣ lineWidth written ↔ count = tabSize)) ∧
      (∀ written c, Width.isControl c = true → c ≠ '\n' → lineWidth (written ++ [c]) = lineWidth written) ∧
      ∀ x y, expandTabs tabSize (x ++ '\n' :: y) = expandTabs tabSize x ++ '\n' :: expandTabs tabSize y := by
  refine ⟨?_, ?_, ?_, ?_⟩
  · intro text out
    exact expands_iff h
  · intro written count hcount
    exact hcount.bounds h
  · intro written c
    exact lineWidth_control
  · exact expandFrom_lineFeed tabSize 0

/-- A wide character, a control code and a tab at a stop, on the second line. -/
theorem expandTabs_stops_wide :
    0 < 4 ∧ Expands 4 [] "a\n中\r\tb\tc\td".toList "a\n中\r  b   c   d".toList := by
  have hpos : 0 < 4 := by decide
  obtain ⟨hexpands, -⟩ := expandTabs_stops hpos
  exact ⟨hpos, (hexpands _ _).mpr (by decide +kernel)⟩

end TableLexer.Text
