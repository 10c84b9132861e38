import TableLexer.Text.Preparation

/-!
# Line ends in one pass

`apply_normalizeNewlines`: a preparation that only makes line ends uniform takes two steps, first the pairs of a
carriage return and a line feed, then the carriage returns that are left. It gives what one pass from left to right
gives (`unifyInOnePass`), and its result has a line feed for each line end of the text: for each pair, for each
carriage return that no line feed follows, and for each line feed that no carriage return precedes.

Proof. The first step writes a line feed where a pair was, and a carriage return before the pair now stands before
this line feed. The second step does not look at pairs, so the two are not taken for one line end, and the induction
is on the text by the cases of the one pass. Its cases are those of the count as well: behind a line end, or behind a
character within a line, the line ends are those of the rest of the text (`LineEnd.beginsAt_succ`).
-/

namespace TableLexer.Text

/-- One pass from left to right: a line feed for each carriage return with the line feed that may follow it, and all
else as it stands. -/
def unifyInOnePass : List Char → List Char
  | '\r' :: '\n' :: cs => '\n' :: unifyInOnePass cs
  | '\r' :: cs => '\n' :: unifyInOnePass cs
  | c :: cs => c :: unifyInOnePass cs
  | [] => []

/-! ## Two steps and one pass -/

section Steps
variable {c : Char} {cs : List Char}

theorem unifyLineEnds_pair : unifyLineEnds ('\r' :: '\n' :: cs) = '\n' :: unifyLineEnds cs := by
  simp [unifyLineEnds, joinPairs]

theorem joinPairs_cons (h : c = '\r' → ∀ rest, cs ≠ '\n' :: rest) : joinPairs (c :: cs) = c :: joinPairs cs := by
  rw [joinPairs]
  rintro rest rfl rfl
  exact h rfl rest rfl

theorem unifyLineEnds_carriageReturn (h : ∀ rest, cs ≠ '\n' :: rest) :
    unifyLineEnds ('\r' :: cs) = '\n' :: unifyLineEnds cs := by
  simp [unifyLineEnds, joinPairs_cons fun _ => h]

theorem unifyLineEnds_keep (h : c ≠ '\r') : unifyLineEnds (c :: cs) = c :: unifyLineEnds cs := by
  simp [unifyLineEnds, joinPairs_cons fun hc => absurd hc h, h]

/-- Two replacements, one after the other, are one pass. -/
theorem unifyLineEnds_eq (text : List Char) : unifyLineEnds text = unifyInOnePass text := by
  fun_induction unifyInOnePass text with
  | case1 cs ih => rw [unifyLineEnds_pair, ih]
  | case2 cs hpair ih => rw [unifyLineEnds_carriageReturn hpair, ih]
  | case3 c cs _ hreturn ih => rw [unifyLineEnds_keep hreturn, ih]
  | case4 => rfl

theorem unifyInOnePass_eq_self {text : List Char} (h : '\r' ∉ text) : unifyInOnePass text = text := by
  fun_induction unifyInOnePass text with
  | case1 cs => simp at h
  | case2 cs => simp at h
  | case3 c cs _ _ ih => rw [ih fun hmem => h (List.mem_cons_of_mem c hmem)]
  | case4 => rfl

end Steps

/-! ## Line ends -/

/-- The ways for a line to end. -/
inductive LineEnd
  /-- A carriage return and a line feed. -/
  | pair
  /-- A carriage return that no line feed follows. -/
  | carriageReturn
  /-- A line feed that no carriage return precedes. -/
  | lineFeed
deriving DecidableEq, Repr

namespace LineEnd

/-- A line end of this form begins at a position of a text. -/
def BeginsAt (text : List Char) (i : Nat) : LineEnd → Prop
  | pair => text[i]? = some '\r' ∧ text[i + 1]? = some '\n'
  | carriageReturn => text[i]? = some '\r' ∧ text[i + 1]? ≠ some '\n'
  | lineFeed => text[i]? = some '\n' ∧ (i = 0 ∨ text[i - 1]? ≠ some '\r')

instance (text : List Char) (i : Nat) (e : LineEnd) : Decidable (e.BeginsAt text i) :=
  match e with
  | pair => inferInstanceAs (Decidable (_ ∧ _))
  | carriageReturn => inferInstanceAs (Decidable (_ ∧ _))
  | lineFeed => inferInstanceAs (Decidable (_ ∧ _))

/-- The number of line ends of this form in a text. -/
def count (e : LineEnd) (text : List Char) : Nat :=
  (List.range text.length).countP fun i => e.BeginsAt text i

section Count
variable {e : LineEnd} {c : Char} {cs : List Char} {i : Nat}

theorem beginsAt_succ (h : i = 0 → c = '\r' → cs[0]? ≠ some '\n') :
    e.BeginsAt (c :: cs) (i + 1) ↔ e.BeginsAt cs i := by
  cases e with
  | pair => simp [BeginsAt]
  | carriageReturn => simp [BeginsAt]
  | lineFeed =>
    -- the one form that looks back, so at the start of the rest the character before it matters
    cases i with
    | zero => simpa [BeginsAt, imp_not_comm] using h rfl
    | succ i => simp [BeginsAt]

theorem not_beginsAt_one : ¬ e.BeginsAt ('\r' :: '\n' :: cs) 1 := by
  cases e <;> simp [BeginsAt]

theorem countP_range_succ (p : Nat → Bool) (n : Nat) :
    (List.range (n + 1)).countP p = (List.range n).countP (fun i => p (i + 1)) + if p 0 then 1 else 0 := by
  rw [List.range_succ_eq_map, List.countP_cons, List.countP_map]
  rfl

theorem count_cons (h : c = '\r' → cs[0]? ≠ some '\n') :
    e.count (c :: cs) = e.count cs + if e.BeginsAt (c :: cs) 0 then 1 else 0 := by
  simp only [count, List.length_cons, countP_range_succ, beginsAt_succ fun _ => h, decide_eq_true_eq]

theorem count_pair : e.count ('\r' :: '\n' :: cs) = e.count cs + if e = pair then 1 else 0 := by
  have hfirst : e.BeginsAt ('\r' :: '\n' :: cs) 0 ↔ e = pair := by
    cases e <;> simp [BeginsAt]
  have hrest (i : Nat) : e.BeginsAt ('\r' :: '\n' :: cs) (i + 1 + 1) ↔ e.BeginsAt cs i := by
    rw [beginsAt_succ (by simp), beginsAt_succ (by simp)]
  simp only [count, List.length_cons, countP_range_succ, hrest, hfirst, Nat.zero_add, not_beginsAt_one,
    decide_eq_true_eq, if_false, Nat.add_zero]

theorem count_carriageReturn (h : ∀ rest, cs ≠ '\n' :: rest) :
    e.count ('\r' :: cs) = e.count cs + if e = carriageReturn then 1 else 0 := by
  have hnext : cs[0]? ≠ some '\n' := by
    cases cs with
    | nil => simp
    | cons c rest =>
      simp only [List.getElem?_cons_zero, ne_eq, Option.some.injEq]
      rintro rfl
      exact h rest rfl
  have hfirst : e.BeginsAt ('\r' :: cs) 0 ↔ e = carriageReturn := by
    cases e <;> simp [BeginsAt, hnext]
  simp only [count_cons fun _ => hnext, hfirst]

theorem count_keep (h : c ≠ '\r') :
    e.count (c :: cs) = e.count cs + if e = lineFeed ∧ c = '\n' then 1 else 0 := by
  have hfirst : e.BeginsAt (c :: cs) 0 ↔ e = lineFeed ∧ c = '\n' := by
    cases e <;> simp [BeginsAt, h]
  simp only [count_cons fun hc => absurd hc h, hfirst]

end Count

/-- The pass writes a line feed for each line end, and for nothing else. -/
theorem count_unifyInOnePass (text : List Char) :
    (unifyInOnePass text).count '\n' = pair.count text + carriageReturn.count text + lineFeed.count text := by
  fun_induction unifyInOnePass text with
  | case1 cs ih =>
    simp only [List.count_cons_self, ih, count_pair, reduceCtorEq, if_true, if_false]
    omega
  | case2 cs hpair ih =>
    simp only [List.count_cons_self, ih, count_carriageReturn hpair, reduceCtorEq, if_true, if_false]
    omega
  | case3 c cs _ hreturn ih =>
    simp only [List.count_cons, ih, count_keep hreturn, reduceCtorEq, false_and, true_and, beq_iff_eq, if_false]
    omega
  | case4 => rfl

end LineEnd

/-- **Line ends are made uniform as in one pass.** A preparation that asks for nothing else gives what one pass from
left to right gives, and in its result there are as many line feeds as there are line ends in the text: pairs, lone
carriage returns and lone line feeds. -/
theorem apply_normalizeNewlines (text : List Char) :
    (Preparation.apply { normalizeNewlines := true } text).text = unifyInOnePass text ∧
      (Preparation.apply { normalizeNewlines := true } text).text.count '\n'
        = LineEnd.pair.count text + LineEnd.carriageReturn.count text + LineEnd.lineFeed.count text := by
  have happly : Preparation.apply { normalizeNewlines := true } text
      = (Prepared.mk text false).edit (·.contains '\r') unifyLineEnds := by
    simp [Preparation.apply, Prepared.edit]
  have hpass : (Preparation.apply { normalizeNewlines := true } text).text = unifyInOnePass text := by
    rw [happly, Prepared.edit]
    split
    · exact unifyLineEnds_eq text
    · next h => exact (unifyInOnePass_eq_self (by simpa using h)).symm
  refine ⟨hpass, ?_⟩
  rw [hpass]
  exact LineEnd.count_unifyInOnePass text

/-- A carriage return before a pair is a line end of its own, and so is one behind it. -/
example : (Preparation.apply { normalizeNewlines := true } "\r\r\n\r".toList).text = "\n\n\n".toList := by decide

end TableLexer.Text
