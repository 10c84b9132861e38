import TableLexer.Proofs.Text.Tabs

/-!
# A text is prepared in one pass

`apply_normal`: whatever a preparation asks for, its result has it (`Preparation.Meets`), and nothing is changed
exactly where the text has it already, which is where the result is the text. So a prepared text is prepared again
without a change.

Proof. Each of the three edits is made where one condition fails and brings this condition about (`Brings`), and none
of them breaks the condition of an edit before it: expanding tabs writes spaces, and the last edit writes a line feed.
A result that is equal to the text shows that the text had all that was asked for, so then no edit was made.
-/

namespace TableLexer.Text

/-! ## Edits -/

/-- An edit that is made exactly where a condition fails, and brings it about. -/
structure Brings (needed : List Char → Bool) (change : List Char → List Char) (C : List Char → Prop) : Prop where
  needed_iff : ∀ text, needed text = true ↔ ¬ C text
  change : ∀ text, needed text = true → C (change text)

section Edit
variable {p : Prepared} {needed : List Char → Bool} {change : List Char → List Char} {C D : List Char → Prop}

/-- An edit keeps what its change keeps. -/
theorem edit_keeps (hchange : ∀ text, D text → D (change text)) (h : D p.text) :
    D (p.edit needed change).text := by
  unfold Prepared.edit
  split
  · exact hchange p.text h
  · exact h

namespace Brings

theorem of_not_needed {text : List Char} (h : Brings needed change C) (hneeded : ¬ needed text = true) : C text :=
  Classical.not_not.mp fun hC => hneeded ((h.needed_iff text).mpr hC)

theorem meets (h : Brings needed change C) : C (p.edit needed change).text := by
  unfold Prepared.edit
  split
  · next hneeded => exact h.change p.text hneeded
  · next hneeded => exact h.of_not_needed hneeded

theorem edit_eq_self (h : Brings needed change C) (hC : C p.text) : p.edit needed change = p := by
  unfold Prepared.edit
  rw [if_neg]
  intro hneeded
  exact (h.needed_iff p.text).mp hneeded hC

theorem of_unchanged (h : Brings needed change C) (hchanged : (p.edit needed change).changed = false) :
    C p.text ∧ p.edit needed change = p := by
  by_cases hneeded : needed p.text = true
  · simp [Prepared.edit, hneeded] at hchanged
  · have hC := h.of_not_needed hneeded
    exact ⟨hC, h.edit_eq_self hC⟩

end Brings

end Edit

/-! ## What is asked for -/

/-- A text has all that a preparation asks for. -/
structure Preparation.Meets (o : Preparation) (text : List Char) : Prop where
  lineEnds : o.normalizeNewlines = true → '\r' ∉ text
  tabs : 0 < o.tabSize → '\t' ∉ text
  newline : o.ensureNewline = true → text.getLast? = some '\n'

section Conditions
variable (o : Preparation) {text : List Char}

theorem not_mem_unifyLineEnds : '\r' ∉ unifyLineEnds text := by
  intro h
  obtain ⟨c, -, hc⟩ := List.mem_map.mp h
  by_cases hreturn : c = '\r'
  · simp [hreturn] at hc
  · rw [if_neg hreturn] at hc
    exact hreturn hc

theorem not_mem_expandTabs {tabSize : Nat} {c : Char} (hspace : c ≠ ' ') (h : c = '\t' ∨ c ∉ text) :
    c ∉ expandTabs tabSize text := by
  intro hmem
  rcases mem_expandFrom hmem with heq | ⟨htab, htext⟩
  · exact hspace heq
  · exact h.elim htab (absurd htext)

theorem brings_lineEnds : Brings (fun t => o.normalizeNewlines && t.contains '\r') unifyLineEnds
    fun t => o.normalizeNewlines = true → '\r' ∉ t := by
  refine ⟨?_, ?_⟩
  · intro t
    simp
  · intro t _ _
    exact not_mem_unifyLineEnds

theorem brings_tabs : Brings (fun t => decide (0 < o.tabSize) && t.contains '\t') (expandTabs o.tabSize)
    fun t => 0 < o.tabSize → '\t' ∉ t := by
  refine ⟨?_, ?_⟩
  · intro t
    simp
  · intro t _ _
    exact not_mem_expandTabs (by decide) (.inl rfl)

theorem brings_newline : Brings (fun t => o.ensureNewline && t.getLast? != some '\n') (· ++ ['\n'])
    fun t => o.ensureNewline = true → t.getLast? = some '\n' := by
  refine ⟨?_, ?_⟩
  · intro t
    simp
  · intro t _ _
    simp

end Conditions

/-! ## Preparation -/

namespace Preparation
variable {o : Preparation} {text : List Char}

theorem meets_apply (o : Preparation) (text : List Char) : o.Meets (o.apply text).text := by
  have hfeed {c : Char} (hc : c ≠ '\n') (t : List Char) (ht : c ∉ t) : c ∉ t ++ ['\n'] := by
    simp [ht, hc]
  refine ⟨?_, ?_, (brings_newline o).meets⟩
  · intro hlineEnds
    apply edit_keeps (hfeed (by decide))
    apply edit_keeps (D := ('\r' ∉ ·)) fun t ht => not_mem_expandTabs (by decide) (.inr ht)
    exact (brings_lineEnds o).meets hlineEnds
  · intro htabs
    apply edit_keeps (hfeed (by decide))
    exact (brings_tabs o).meets htabs

theorem Meets.apply_eq (h : o.Meets text) : o.apply text = ⟨text, false⟩ := by
  unfold apply
  rw [(brings_lineEnds o).edit_eq_self h.lineEnds, (brings_tabs o).edit_eq_self h.tabs,
    (brings_newline o).edit_eq_self h.newline]

theorem meets_of_unchanged (h : (o.apply text).changed = false) : o.Meets text := by
  unfold apply at h
  obtain ⟨hnewline, hedit⟩ := (brings_newline o).of_unchanged h
  rw [hedit] at h
  obtain ⟨htabs, hedit⟩ := (brings_tabs o).of_unchanged h
  rw [hedit] at h hnewline
  obtain ⟨hlineEnds, hedit⟩ := (brings_lineEnds o).of_unchanged h
  rw [hedit] at htabs hnewline
  exact ⟨hlineEnds, htabs, hnewline⟩

/-- **A text is prepared in one pass.** The result has all that is asked for; nothing is changed if and only if the
text has it already, and if and only if the result is the text; and preparing the result again changes nothing. -/
theorem apply_normal (o : Preparation) (text : List Char) :
    o.Meets (o.apply text).text ∧
      ((o.apply text).changed = false ↔ o.Meets text) ∧
      ((o.apply text).changed = false ↔ (o.apply text).text = text) ∧
      o.apply (o.apply text).text = ⟨(o.apply text).text, false⟩ := by
  have hmeets := meets_apply o text
  have hchanged : (o.apply text).changed = false ↔ o.Meets text := by
    constructor
    · exact meets_of_unchanged
    · intro h
      rw [h.apply_eq]
  refine ⟨hmeets, hchanged, ?_, hmeets.apply_eq⟩
  constructor
  · intro h
    rw [(hchanged.mp h).apply_eq]
  · intro htext
    rw [htext] at hmeets
    exact hchanged.mpr hmeets

end Preparation

/-- A line end that is made uniform leaves the text with one at its end, so none is added. -/
example : Preparation.apply ⟨true, true, 4⟩ "a\tb\r".toList = ⟨"a   b\n".toList, true⟩ := by decide

end TableLexer.Text
