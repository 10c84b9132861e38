import TableLexer.Proofs.Pattern.Words

/-!
# Just the words

A pattern for some words that ends at a word boundary matches where the run of word characters is one of these
words, and nowhere else (`match?_of_spells`). So what it matches is always a whole run (`takesNames_of_spells`),
and of two words one of which begins with the other, the pattern takes the one that stands there, whatever
their order (`match?_wordsNode`).
-/

namespace TableLexer.Pattern

/-- Where the condition holds, the ways of `f` read one of the words; elsewhere there are none. -/
def SpellsOneOf (condition : Spot → Bool) (ws : List (List Char)) (f : Spot → List Spot) : Prop :=
  ∀ x y, y ∈ f x ↔ condition x = true ∧ ∃ w ∈ ws, ∃ rest, x.text = w ++ rest ∧ y = x.skip w rest

namespace SpellsOneOf
variable {condition : Spot → Bool} {ws : List (List Char)} {ns : List Node}

theorem ofText (w : List Char) : SpellsOneOf (fun _ => true) [w] (Node.ofText w).ways := by
  intro x y
  rw [Node.mem_ways_ofText]
  simp

theorem ofAlts (hne : ws ≠ []) : SpellsOneOf (fun _ => true) ws (Node.ofAlts (ws.map .ofText)).ways := by
  induction ws with
  | nil => exact absurd rfl hne
  | cons w ws ih =>
    cases ws with
    | nil => exact ofText w
    | cons w' ws =>
      intro x y
      have hways : (Node.ofAlts ((w :: w' :: ws).map .ofText)).ways x
          = (Node.ofText w).ways x ++ (Node.ofAlts ((w' :: ws).map .ofText)).ways x := rfl
      rw [hways, List.mem_append, ofText w x y, ih (List.cons_ne_nil _ _) x y]
      simp only [true_and, List.mem_cons, List.not_mem_nil, or_false, exists_eq_or_imp, exists_eq_left]

theorem look (h : SpellsOneOf condition ws (Node.ofSeq ns).ways) (a : Assertion) :
    SpellsOneOf (fun x => a.holds x.before x.text.head? && condition x) ws
      (Node.ofSeq (.look a :: ns)).ways := by
  intro x y
  rw [Node.ways_ofSeq_cons, List.mem_flatMap, Bool.and_eq_true, and_assoc, ← h x y]
  constructor
  · rintro ⟨z, hz, hy⟩
    obtain ⟨hholds, rfl⟩ := Node.mem_ways_look.mp hz
    exact ⟨hholds, hy⟩
  · rintro ⟨hholds, hy⟩
    exact ⟨x, Node.mem_ways_look.mpr ⟨hholds, rfl⟩, hy⟩

end SpellsOneOf

/-! ## The run as a whole -/

theorem holds_boundary_after {w rest : List Char} (hw : isName w = true) (before : Option Char) :
    (Assertion.boundary Unicode.word).holds (w.getLast?.or before) rest.head? = true ↔
      rest.head?.any Unicode.word.contains = false := by
  obtain ⟨c, hlast⟩ : ∃ c, w.getLast? = some c := by
    refine Option.ne_none_iff_exists'.mp fun hnone => ?_
    rw [List.getLast?_eq_none_iff.mp hnone] at hw
    cases hw
  have hc : Unicode.word.contains c = true := mem_word_of_isName hw c (List.mem_of_getLast? hlast)
  rw [Assertion.holds, hlast, Option.some_or, Option.any_some, hc]
  simp

theorem holds_boundary_before {text : List Char} (htext : startsName text = true) (before : Option Char) :
    (Assertion.boundary Unicode.word).holds before text.head? = true ↔
      before.any Unicode.word.contains = false := by
  obtain ⟨c, cs, rfl, hc, -⟩ := startsName_iff.mp htext
  have hany : (c :: cs).head?.any Unicode.word.contains = true := hc
  rw [Assertion.holds, hany]
  simp

theorem wordAt_begins (text : List Char) : wordAt text <+: text := List.takeWhile_prefix _

theorem wordAt_append_drop (text : List Char) :
    wordAt text ++ text.dropWhile Unicode.word.contains = text := List.takeWhile_append_dropWhile

theorem not_word_after_wordAt (text : List Char) :
    (text.dropWhile Unicode.word.contains).head?.any Unicode.word.contains = false := by
  have hnot := List.head?_dropWhile_not Unicode.word.contains text
  split at hnot
  next c hc =>
    rw [hc]
    exact hnot
  next hnone =>
    rw [hnone]
    rfl

theorem startsName_of_wordAt {text : List Char} (h : isName (wordAt text) = true) : startsName text = true := by
  rw [← wordAt_append_drop text]
  exact startsName_append (Bool.and_eq_true_iff.mp h).1 _

section Boundary
variable {condition : Spot → Bool} {ws : List (List Char)} {ns : List Node}

/-- Up to a word boundary, the run is read, if it is one of the words. -/
theorem mem_ways_boundary (hws : ∀ w ∈ ws, isName w = true) (h : SpellsOneOf condition ws (Node.ofSeq ns).ways)
    {x y : Spot} : y ∈ (Node.ofSeq (ns ++ [boundary])).ways x ↔ condition x = true ∧ wordAt x.text ∈ ws ∧
      y = x.skip (wordAt x.text) (x.text.dropWhile Unicode.word.contains) := by
  rw [Node.ways_ofSeq_append, List.mem_flatMap]
  constructor
  · rintro ⟨z, hz, hend⟩
    obtain ⟨hcondition, w, hw, rest, htext, rfl⟩ := (h x z).mp hz
    obtain ⟨hholds, rfl⟩ := Node.mem_ways_look.mp hend
    have hrest := (holds_boundary_after (hws w hw) x.before).mp hholds
    have hrun : wordAt x.text = w := by
      rw [htext]
      exact wordAt_append (mem_word_of_isName (hws w hw)) hrest
    have hdrop : x.text.dropWhile Unicode.word.contains = rest := by
      have hsplit := wordAt_append_drop x.text
      rw [hrun, htext] at hsplit
      rw [htext]
      exact List.append_cancel_left hsplit
    rw [hrun, hdrop]
    exact ⟨hcondition, hw, rfl⟩
  · rintro ⟨hcondition, hw, rfl⟩
    refine ⟨_, (h x _).mpr ⟨hcondition, _, hw, _, (wordAt_append_drop x.text).symm, rfl⟩, ?_⟩
    refine Node.mem_ways_look.mpr ⟨?_, rfl⟩
    exact (holds_boundary_after (hws _ hw) x.before).mpr (not_word_after_wordAt x.text)

theorem match?_of_spells (hws : ∀ w ∈ ws, isName w = true) (h : SpellsOneOf condition ws (Node.ofSeq ns).ways)
    (hadvances : (Node.ofSeq (ns ++ [boundary])).Advances) (before : Option Char) (text : List Char) :
    (ofNode (.ofSeq (ns ++ [boundary]))).match? before text =
      if condition ⟨0, before, text, []⟩ = true ∧ wordAt text ∈ ws then some ⟨(wordAt text).length, []⟩
      else none := by
  refine match?_eq_ite hadvances (fun hcondition => ?_) fun y hy => ?_
  · exact ⟨_, (mem_ways_boundary hws h).mpr ⟨hcondition.1, hcondition.2, rfl⟩⟩
  · obtain ⟨hcondition, hword, rfl⟩ := (mem_ways_boundary hws h).mp hy
    refine ⟨⟨hcondition, hword⟩, ?_⟩
    rw [Spot.skip, Spot.toMatch, Nat.zero_add]

/-- Where a pattern matches, it matches the run, and the run is a name. -/
def TakesNames (p : Pattern) : Prop :=
  ∀ before text m, p.match? before text = some m →
    startsName text = true ∧ m.length = (wordAt text).length

/-- A name up to a word boundary is the whole run. -/
theorem takesNames_of_spells (hws : ∀ w ∈ ws, isName w = true) (h : SpellsOneOf condition ws (Node.ofSeq ns).ways)
    (hadvances : (Node.ofSeq (ns ++ [boundary])).Advances) : TakesNames (ofNode (.ofSeq (ns ++ [boundary]))) := by
  intro before text m hm
  rw [match?_of_spells hws h hadvances] at hm
  split at hm
  next hcondition =>
    obtain rfl := Option.some.inj hm
    exact ⟨startsName_of_wordAt (hws _ hcondition.2), rfl⟩
  next => cases hm

end Boundary

section Words
variable {ws : List (List Char)}

theorem spells_words (hne : ws ≠ []) : SpellsOneOf
    (fun x => (Assertion.boundary Unicode.word).holds x.before x.text.head? && true) ws
    (Node.ofSeq [boundary, .ofAlts (ws.map .ofText)]).ways :=
  (SpellsOneOf.ofAlts hne).look _

theorem takesNames_wordsNode (hne : ws ≠ []) (hws : ∀ w ∈ ws, isName w = true) :
    TakesNames (ofNode (wordsNode ws)) :=
  takesNames_of_spells hws (spells_words hne) (advances_wordsNode ws)

/-- A pattern for some words matches the run, if it is one of them and no word character stands before. -/
theorem match?_wordsNode (hne : ws ≠ []) (hws : ∀ w ∈ ws, isName w = true)
    (before : Option Char) (text : List Char) : (ofNode (wordsNode ws)).match? before text =
      if before.any Unicode.word.contains = false ∧ wordAt text ∈ ws then some ⟨(wordAt text).length, []⟩
      else none := by
  have hmatch := match?_of_spells hws (spells_words hne) (advances_wordsNode ws) before text
  refine hmatch.trans (ite_congr (propext ?_) (fun _ => rfl) fun _ => rfl)
  rw [Bool.and_true]
  refine and_congr_left fun hw => ?_
  exact holds_boundary_before (startsName_of_wordAt (hws _ hw)) before

end Words

end TableLexer.Pattern
