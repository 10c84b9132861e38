import Mathlib.Data.List.Infix
import TableLexer.Unicode.CharSet

/-!
# What agrees with an ASCII word up to case

`CaseFold.eqIgnoringCase_iff`: a word of ASCII characters agrees up to case only with the texts that differ from it in
the case of ASCII letters, unless it has a part that one of eleven characters beyond ASCII is folded to (`Plain`).

Proof. An ASCII character is folded to its small letter (`full_of_ascii`). A character beyond ASCII is folded to a text
with a character beyond ASCII in it, unless it is a long s, a Kelvin sign, a sharp s or one of a few ligatures
(`full_ascii_iff`). For this the tables are gone through run by run: the images of a run are beyond ASCII as a whole,
or the run is one of these characters. So a text that is folded to an ASCII word has ASCII characters and some of the
eleven in it, and what one of those is folded to is a part of the word.
-/

namespace TableLexer.Unicode

/-! ## Characters and maps of characters -/

section Characters
variable {c : Char} {n first last : Nat}

theorem mem_ascii_iff : c ∈ CharSet.ascii ↔ c.toNat < 0x80 := by
  rw [CharSet.mem_iff, CharSet.ascii, CharSet.contains, Bool.and_eq_true, Nat.ble_eq, Nat.ble_eq]
  constructor
  · rintro ⟨-, hlast⟩
    exact Nat.lt_succ_of_le hlast
  · intro h
    exact ⟨Nat.zero_le _, Nat.le_of_lt_succ h⟩

theorem toNat_toLower (c : Char) :
    c.toLower.toNat = if 0x41 ≤ c.toNat ∧ c.toNat ≤ 0x5A then c.toNat + 0x20 else c.toNat := by
  have hupper : (c.val ≥ 'A'.val ∧ c.val ≤ 'Z'.val) ↔ 0x41 ≤ c.toNat ∧ c.toNat ≤ 0x5A := Iff.rfl
  unfold Char.toLower
  split
  · next h =>
    rw [if_pos (hupper.mp h)]
    show (c.val + ('a'.val - 'A'.val)).toNat = _
    rw [UInt32.toNat_add]
    have := (hupper.mp h).2
    show (c.toNat + 0x20) % 4294967296 = _
    omega
  · next h => rw [if_neg fun hc => h (hupper.mpr hc)]

theorem toLower_mem_ascii : c.toLower ∈ CharSet.ascii ↔ c ∈ CharSet.ascii := by
  rw [mem_ascii_iff, mem_ascii_iff, toNat_toLower]
  split <;> omega

theorem toList_toLower (s : String) : s.toLower.toList = s.toList.map Char.toLower :=
  String.toList_map

theorem toNat_ofNat (h : n.isValidChar) : (Char.ofNat n).toNat = n := by
  rw [Char.ofNat, dif_pos h]
  rfl

/-- The code points from one to another are characters, and beyond ASCII. -/
def beyondAscii (first last : Nat) : Bool :=
  (Nat.ble 0x80 first && Nat.ble last 0xD7FF) || (Nat.ble 0xE000 first && Nat.ble last 0x10FFFF)

theorem ofNat_not_mem_ascii (h : beyondAscii first last = true) (hfirst : first ≤ n) (hlast : n ≤ last) :
    Char.ofNat n ∉ CharSet.ascii := by
  simp only [beyondAscii, Bool.or_eq_true, Bool.and_eq_true, Nat.ble_eq] at h
  have hvalid : n.isValidChar := by
    unfold Nat.isValidChar
    omega
  rw [mem_ascii_iff, toNat_ofNat hvalid]
  omega

theorem CodeRun.bounds {r : CodeRun} (h : r.contains n = true) : r.first ≤ n ∧ n ≤ r.last := by
  simp only [CodeRun.contains, Bool.and_eq_true, Nat.ble_eq] at h
  exact h.1

theorem CodeMap.apply_cases (m : CodeMap) (c : Char) :
    m.apply c = c ∨ ∃ s ∈ m, s.run.contains c.toNat = true ∧
      m.apply c = Char.ofNat (s.image + (c.toNat - s.run.first)) := by
  unfold CodeMap.apply
  split
  · next n hn =>
    obtain ⟨s, hs, himage⟩ := List.exists_of_findSome?_eq_some hn
    rw [CodeShift.imageOf?] at himage
    split at himage
    · next hrun => exact .inr ⟨s, hs, hrun, by rw [Option.some.inj himage]⟩
    · cases himage
  · exact .inl rfl

end Characters

namespace CaseFold

/-! ## Characters beyond ASCII -/

/-- The characters beyond ASCII that are folded to ASCII text: the long s, the Kelvin sign, the small and the capital
sharp s, and the ligatures that begin with f or s. -/
def lookalikes : List Char :=
  ['\u017f', '\u212a', '\u00df', '\u1e9e', '\ufb00', '\ufb01', '\ufb02', '\ufb03', '\ufb04', '\ufb05', '\ufb06']

/-- Of a run whose characters are folded to an image followed by a tail: the characters are in ASCII, or the image or
the tail has a character beyond it, or the run is one lookalike. -/
def keepsApart (first last image : Nat) (tail : List Nat) : Bool :=
  Nat.ble last 0x7F || beyondAscii image (image + (last - first)) || tail.any (fun n => beyondAscii n n) ||
    (Nat.beq first last && lookalikes.contains (Char.ofNat first))

theorem simpleTable_keepsApart :
    simpleTable.all (fun s => keepsApart s.run.first s.run.last s.image []) = true := by decide +kernel

theorem expansions_keepsApart :
    expansions.all (fun e => keepsApart e.first e.last e.image e.tail) = true := by decide +kernel

section Beyond
variable {c : Char} {first last image : Nat} {tail : List Nat}

theorem mem_lookalikes_of_keepsApart (h : keepsApart first last image tail = true) (hc : c ∉ CharSet.ascii)
    (hfirst : first ≤ c.toNat) (hlast : c.toNat ≤ last)
    (hfull : ∀ d ∈ Char.ofNat (image + (c.toNat - first)) :: tail.map Char.ofNat, d ∈ CharSet.ascii) :
    c ∈ lookalikes := by
  rw [mem_ascii_iff] at hc
  simp only [keepsApart, Bool.or_eq_true, Bool.and_eq_true, List.any_eq_true, Nat.ble_eq, Nat.beq_eq,
    List.contains_iff_mem] at h
  rcases h with ((hbelow | himage) | ⟨n, hn, htail⟩) | ⟨hone, hmem⟩
  · omega
  · exact absurd (hfull _ List.mem_cons_self) (ofNat_not_mem_ascii himage (by omega) (by omega))
  · exact absurd (hfull _ (List.mem_cons_of_mem _ (List.mem_map_of_mem hn)))
      (ofNat_not_mem_ascii htail (Nat.le_refl n) (Nat.le_refl n))
  · have heq : first = c.toNat := by omega
    rwa [heq, Char.ofNat_toNat] at hmem

/-- Of the characters beyond ASCII only the lookalikes are folded to ASCII text. -/
theorem full_ascii_iff (hc : c ∉ CharSet.ascii) : (∀ d ∈ full c, d ∈ CharSet.ascii) ↔ c ∈ lookalikes := by
  constructor
  · intro h
    unfold full at h
    split at h
    · next e he =>
      have hrun := List.find?_some he
      have hapart := List.all_eq_true.mp expansions_keepsApart e (List.mem_of_find?_eq_some he)
      rw [Bool.and_eq_true, decide_eq_true_eq, decide_eq_true_eq] at hrun
      exact mem_lookalikes_of_keepsApart hapart hc hrun.1 hrun.2 h
    · have hsimple : simple c ∈ CharSet.ascii := h _ List.mem_cons_self
      rcases CodeMap.apply_cases simpleTable c with hsame | ⟨s, hs, hrun, himage⟩
      · exact absurd (hsame ▸ hsimple) hc
      · have hapart := List.all_eq_true.mp simpleTable_keepsApart s hs
        obtain ⟨hfirst, hlast⟩ := CodeRun.bounds hrun
        refine mem_lookalikes_of_keepsApart hapart hc hfirst hlast ?_
        rw [List.map_nil, ← himage]
        exact h
  · intro h
    have hall : lookalikes.all (fun c => (full c).all CharSet.ascii.contains) = true := by decide +kernel
    exact List.all_eq_true.mp (List.all_eq_true.mp hall c h)

end Beyond

/-! ## ASCII characters -/

/-- The shift of the ASCII capital letters. -/
def capitals : CodeShift := ⟨⟨0x41, 0x5A, 1⟩, 0x61⟩

/-- The capital letters are the first run of the table, and all its other runs are beyond ASCII. -/
theorem simpleTable_eq : simpleTable = capitals :: simpleTable.tail ∧
    simpleTable.tail.all (fun s => Nat.ble 0x80 s.run.first) = true := ⟨rfl, by decide +kernel⟩

section Ascii
variable {c : Char} {s : List Char}

theorem simple_of_ascii (hc : c ∈ CharSet.ascii) : simple c = c.toLower := by
  rw [mem_ascii_iff] at hc
  obtain ⟨htable, hbeyond⟩ := simpleTable_eq
  -- of all the runs only the capitals can have an ASCII character
  have hnone : simpleTable.tail.findSome? (·.imageOf? c.toNat) = none := by
    rw [List.findSome?_eq_none_iff]
    intro s hs
    have hfirst := Nat.le_of_ble_eq_true (List.all_eq_true.mp hbeyond s hs)
    rw [CodeShift.imageOf?, if_neg]
    intro hrun
    have := (CodeRun.bounds hrun).1
    omega
  have hcapitals : capitals.run.contains c.toNat = true ↔ 0x41 ≤ c.toNat ∧ c.toNat ≤ 0x5A := by
    simp [CodeRun.contains, capitals, Nat.mod_one]
  rw [← Char.toNat_inj, simple, CodeMap.apply, htable, List.findSome?_cons, hnone, CodeShift.imageOf?, toNat_toLower]
  by_cases hcapital : 0x41 ≤ c.toNat ∧ c.toNat ≤ 0x5A
  · rw [if_pos hcapital, if_pos (hcapitals.mpr hcapital)]
    have himage : capitals.image + (c.toNat - capitals.run.first) = c.toNat + 0x20 := by
      show 0x61 + (c.toNat - 0x41) = _
      omega
    rw [himage]
    exact toNat_ofNat (.inl (by omega))
  · rw [if_neg hcapital, if_neg fun h => hcapital (hcapitals.mp h)]

theorem full_of_ascii (hc : c ∈ CharSet.ascii) : full c = [c.toLower] := by
  have hbeyond : expansions.all (fun e => Nat.ble 0x80 e.first) = true := by decide +kernel
  have hnone : (expansions.find? fun e => e.first ≤ c.toNat && c.toNat ≤ e.last) = none := by
    rw [List.find?_eq_none]
    intro e he
    have hfirst := Nat.le_of_ble_eq_true (List.all_eq_true.mp hbeyond e he)
    rw [mem_ascii_iff] at hc
    simp only [Bool.and_eq_true, decide_eq_true_eq]
    omega
  rw [full, hnone, simple_of_ascii hc]

theorem fullText_of_ascii (hs : ∀ c ∈ s, c ∈ CharSet.ascii) : fullText s = s.map Char.toLower := by
  induction s with
  | nil => rfl
  | cons c s ih =>
    have hrest : fullText s = s.map Char.toLower := ih fun d hd => hs d (List.mem_cons_of_mem c hd)
    rw [fullText, List.flatMap_cons, full_of_ascii (hs c List.mem_cons_self), ← fullText, hrest]
    rfl

end Ascii

/-! ## Words -/

/-- A word in ASCII of which no part is what a character beyond ASCII is folded to. -/
structure Plain (word : List Char) : Prop where
  ascii : ∀ c ∈ word, c ∈ CharSet.ascii
  apart : ∀ c ∈ lookalikes, ¬ full c <:+: word.map Char.toLower

section Words
variable {word s : List Char} {c : Char}

theorem plain_iff : Plain word ↔ word.all CharSet.ascii.contains = true ∧
    lookalikes.all (fun c => (word.map Char.toLower).tails.all fun rest => !(full c).isPrefixOf rest) = true := by
  have hpart (c : Char) : ((word.map Char.toLower).tails.all fun rest => !(full c).isPrefixOf rest) = true ↔
      ¬ full c <:+: word.map Char.toLower := by
    rw [List.infix_iff_prefix_suffix]
    simp only [List.all_eq_true, List.mem_tails, Bool.not_eq_true', ← Bool.not_eq_true, List.isPrefixOf_iff_prefix,
      not_exists, not_and]
    exact forall_congr' fun rest => imp_not_comm
  simp only [List.all_eq_true, hpart]
  exact ⟨fun h => ⟨h.ascii, h.apart⟩, fun h => ⟨h.1, h.2⟩⟩

instance : Decidable (Plain word) := decidable_of_iff _ plain_iff.symm

theorem Plain.ascii_of_fullText (h : Plain word) (hs : fullText s = word.map Char.toLower) (hc : c ∈ s) :
    c ∈ CharSet.ascii := by
  have hpart : full c <:+: word.map Char.toLower := hs ▸ List.infix_flatMap_of_mem hc full
  by_contra hbeyond
  have hfull : ∀ d ∈ full c, d ∈ CharSet.ascii := by
    intro d hd
    obtain ⟨e, he, rfl⟩ := List.mem_map.mp (hpart.subset hd)
    exact toLower_mem_ascii.mpr (h.ascii e he)
  exact h.apart c ((full_ascii_iff hbeyond).mp hfull) hpart

theorem Plain.fullText_eq_iff (h : Plain word) :
    fullText word = fullText s ↔ s.map Char.toLower = word.map Char.toLower := by
  rw [fullText_of_ascii h.ascii]
  constructor
  · intro hs
    rw [hs, fullText_of_ascii fun c => h.ascii_of_fullText hs.symm]
  · intro hs
    rw [fullText_of_ascii, hs]
    -- the small letters of the text are those of the word, and so in ASCII
    intro c hc
    have hmem : c.toLower ∈ word.map Char.toLower := hs ▸ List.mem_map_of_mem hc
    obtain ⟨d, hd, hdc⟩ := List.mem_map.mp hmem
    rw [← toLower_mem_ascii, ← hdc, toLower_mem_ascii]
    exact h.ascii d hd

end Words

/-- **What agrees with a plain word up to case** differs from it in the case of ASCII letters only. -/
theorem eqIgnoringCase_iff {word s : String} (h : Plain word.toList) :
    eqIgnoringCase word s = true ↔ s.toLower = word.toLower := by
  rw [eqIgnoringCase, beq_iff_eq, h.fullText_eq_iff, ← String.toList_inj, toList_toLower, toList_toLower]

/-- A word that is not plain agrees with a text that has a ligature for three of its letters. -/
example : ¬ Plain "office".toList ∧ eqIgnoringCase "office" "o\ufb03ce" = true := by decide +kernel

end CaseFold

end TableLexer.Unicode
