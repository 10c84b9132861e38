import TableLexer.Proofs.Pattern.Denotation
import TableLexer.Proofs.Pattern.Opening
import TableLexer.Proofs.Pattern.Parts

/-!
# Trees that are led by the next character

In a firm tree the next character alone decides how to go on: which alternative to take, and whether to go
round once more. `Node.firm` checks this on the tree, from the characters with which a part may begin
(`Node.starts`) and those with which a text of it may grow (`Node.growth`). So the first way of a firm tree
reads the whole of a text that it denotes, unless a character follows with which the text may grow
(`Node.prefers_of_firm`).
-/

namespace TableLexer

/-! ## Sets without common characters -/

namespace Unicode.CharSet

/-- No character from the first to the last is in the set; some such sets are not recognized. -/
def avoids (first last : Char) : CharSet → Bool
  | empty => true
  | range first' last' => Nat.blt last.toNat first'.toNat || Nat.blt last'.toNat first.toNat
  | union a b => a.avoids first last && b.avoids first last
  | _ => false

/-- The sets have no common character; some such sets are not recognized. -/
def apart : CharSet → CharSet → Bool
  | empty, _ => true
  | range first last, s => s.avoids first last
  | union a b, s => a.apart s && b.apart s
  | _, _ => false

theorem not_mem_of_avoids {first last c : Char} {s : CharSet} (h : s.avoids first last = true)
    (hc : first ≤ c ∧ c ≤ last) : c ∉ s := by
  induction s with
  | empty => exact not_mem_empty c
  | range first' last' =>
    rw [avoids, Bool.or_eq_true, Nat.blt_eq, Nat.blt_eq] at h
    rw [mem_range]
    intro hmem
    have hfirst : first.toNat ≤ c.toNat := hc.1
    have hlast : c.toNat ≤ last.toNat := hc.2
    have hfirst' : first'.toNat ≤ c.toNat := hmem.1
    have hlast' : c.toNat ≤ last'.toNat := hmem.2
    omega
  | union a b iha ihb =>
    rw [avoids, Bool.and_eq_true] at h
    intro hmem
    rcases mem_union.mp hmem with hmem | hmem
    · exact iha h.1 hmem
    · exact ihb h.2 hmem
  | codes => cases h
  | inter => cases h
  | compl => cases h
  | folded => cases h
  | foldedAscii => cases h

theorem not_mem_of_apart {s t : CharSet} (h : s.apart t = true) {c : Char} (hc : c ∈ s) : c ∉ t := by
  induction s with
  | empty => exact absurd hc (not_mem_empty c)
  | range first last => exact not_mem_of_avoids h (mem_range.mp hc)
  | union a b iha ihb =>
    rw [apart, Bool.and_eq_true] at h
    rcases mem_union.mp hc with hc | hc
    · exact iha h.1 hc
    · exact ihb h.2 hc
  | codes => cases h
  | inter => cases h
  | compl => cases h
  | folded => cases h
  | foldedAscii => cases h

end Unicode.CharSet

namespace Pattern
open Unicode (CharSet)

/-- The text does not begin with a character of the set. -/
def Misses (set : CharSet) (text : List Char) : Prop := ∀ c ∈ text.head?, c ∉ set

section Misses
variable {set set' : CharSet} {c : Char} {text : List Char}

theorem misses_cons_iff : Misses set (c :: text) ↔ c ∉ set := by
  simp [Misses]

theorem misses_union_iff : Misses (set ∪ set') text ↔ Misses set text ∧ Misses set' text := by
  simp only [Misses, CharSet.mem_union, not_or]
  exact ⟨fun h => ⟨fun c hc => (h c hc).1, fun c hc => (h c hc).2⟩, fun h c hc => ⟨h.1 c hc, h.2 c hc⟩⟩

end Misses

/-! ## How texts begin and grow -/

namespace Node

/-- The characters with which the texts of a tree begin. -/
def starts : Node → CharSet
  | empty | look _ => .empty
  | one set => set
  | group _ body | repeated body _ _ _ => body.starts
  | seq a b => if a.nullable then a.starts ∪ b.starts else a.starts
  | alt a b => a.starts ∪ b.starts

/-- The characters with which a text of the tree may go on to a longer one. -/
def growth : Node → CharSet
  | empty | look _ | one _ => .empty
  | group _ body => body.growth
  | seq a b => if b.nullable then a.growth ∪ b.growth else b.growth
  | alt a b => a.growth ∪ b.growth
  | repeated body _ _ _ => body.starts ∪ body.growth

theorem mem_starts {n : Node} {c : Char} : c ∈ n.starts ↔ n.opens c = true := by
  induction n with
  | empty => exact Iff.rfl
  | look => exact Iff.rfl
  | one set => exact Iff.rfl
  | group _ body ih => exact ih
  | repeated body _ _ _ ih => exact ih
  | alt a b iha ihb => rw [starts, opens, CharSet.mem_union, iha, ihb, Bool.or_eq_true]
  | seq a b iha ihb =>
    rw [starts, opens, Bool.or_eq_true, Bool.and_eq_true, ← iha, ← ihb]
    cases a.nullable <;> simp

theorem mem_starts_of_denotes {n : Node} {c : Char} {w : List Char} (h : n.Denotes (c :: w)) :
    c ∈ n.starts := by
  induction n generalizing w with
  | empty => cases h
  | look => cases h
  | one set =>
    obtain ⟨d, hd, hw⟩ := h
    rw [(List.cons.inj hw).1]
    exact hd
  | group _ body ih => exact ih h
  | alt a b iha ihb => exact CharSet.mem_union.mpr (h.imp iha ihb)
  | seq a b iha ihb =>
    obtain ⟨u, v, huv, hu, hv⟩ := h
    rw [starts]
    cases u with
    | nil =>
      rw [if_pos (nullable_of_denotes hu), CharSet.mem_union]
      rw [List.nil_append] at huv
      exact .inr (ihb (huv ▸ hv))
    | cons d u =>
      obtain rfl := (List.cons.inj huv).1
      have hc : c ∈ a.starts := iha hu
      split
      · exact CharSet.mem_union.mpr (.inl hc)
      · exact hc
  | repeated body least most greedy ih =>
    obtain ⟨ws, hws, -, hbody⟩ := h
    -- the first piece that is not empty
    induction ws with
    | nil => cases hws
    | cons u ws ihws =>
      cases u with
      | nil => exact ihws hws fun v hv => hbody v (List.mem_cons_of_mem _ hv)
      | cons d u =>
        obtain rfl := (List.cons.inj hws).1
        exact ih (hbody _ List.mem_cons_self)

theorem Denotes.misses {n : Node} {v : List Char} (h : n.Denotes v) {set : CharSet}
    (hapart : ∀ c ∈ n.starts, c ∉ set) {rest : List Char} (hrest : n.nullable = true → Misses set rest) :
    Misses set (v ++ rest) := by
  cases v with
  | nil => exact hrest (nullable_of_denotes h)
  | cons c v => exact misses_cons_iff.mpr (hapart c (mem_starts_of_denotes h))

end Node

/-! ## Preferred texts -/

/-- Where the text stands with the rest after it, the first way of `f` reads this text. -/
def Prefers (f : Spot → List Spot) (w rest : List Char) : Prop :=
  ∀ x, x.text = w ++ rest → (f x).head? = some (x.skip w rest)

namespace Prefers
variable {f g : Spot → List Spot} {u v w rest : List Char} {ws : List (List Char)}

theorem singleton (rest : List Char) : Prefers (fun x => [x]) [] rest := by
  intro x hx
  exact congrArg some (Spot.skip_nil hx).symm

theorem flatMap (h : Prefers f u (v ++ rest)) (h' : Prefers g v rest) :
    Prefers (fun x => (f x).flatMap g) (u ++ v) rest := by
  intro x hx
  rw [List.append_assoc] at hx
  rw [← Spot.skip_skip x u v (v ++ rest) rest]
  exact head?_flatMap_of_head? (h x hx) (h' _ rfl)

theorem left (h : Prefers f w rest) : Prefers (fun x => f x ++ g x) w rest := by
  intro x hx
  rw [List.head?_append, h x hx, Option.some_or]

theorem right (h : ∀ x, x.text = w ++ rest → f x = []) (h' : Prefers g w rest) :
    Prefers (fun x => f x ++ g x) w rest := by
  intro x hx
  show (f x ++ g x).head? = _
  rw [h x hx]
  exact h' x hx

theorem times (h : ∀ u us, u :: us <:+ ws → Prefers f u (us.flatten ++ rest)) :
    Prefers (times f ws.length) ws.flatten rest := by
  induction ws with
  | nil => exact singleton rest
  | cons u ws ih =>
    refine (h u ws (List.suffix_refl _)).flatMap (ih fun v vs hvs => ?_)
    exact h v vs (hvs.trans (List.suffix_cons u ws))

/-- As many pieces as there are, up to where `f` has no way. -/
theorem upTo (h : ∀ u us, u :: us <:+ ws → Prefers f u (us.flatten ++ rest))
    (hend : ∀ x, x.text = rest → f x = []) {count : Nat} (hcount : ws.length ≤ count) :
    Prefers (upTo f true count) ws.flatten rest := by
  induction ws generalizing count with
  | nil =>
    intro x hx
    cases count with
    | zero => exact singleton rest x hx
    | succ count =>
      rw [Pattern.upTo, if_pos rfl, hend x hx]
      exact singleton rest x hx
  | cons u ws ih =>
    cases count with
    | zero => simp at hcount
    | succ count =>
      have hws : Prefers (Pattern.upTo f true count) ws.flatten rest := by
        refine ih (fun v vs hvs => h v vs (hvs.trans (List.suffix_cons u ws))) ?_
        exact Nat.le_of_succ_le_succ hcount
      exact ((h u ws (List.suffix_refl _)).flatMap hws).left

theorem loop (h : ∀ u us, u :: us <:+ ws → Prefers f u (us.flatten ++ rest))
    (hend : ∀ x, x.text = rest → f x = []) (hws : ∀ u ∈ ws, u ≠ []) :
    Prefers (loop f true) ws.flatten rest := by
  intro x hx
  refine upTo h hend ?_ x hx
  rw [hx, List.length_append]
  exact Nat.le_trans (length_le_length_flatten hws) (Nat.le_add_right _ _)

end Prefers

/-! ## Refused texts -/

/-- Where the text stands, the tree has no way. -/
def Node.Refuses (n : Node) (text : List Char) : Prop := ∀ x, x.text = text → n.ways x = []

/-- A tree that reads something refuses a text that does not begin as its own do. -/
theorem Node.Refuses.of_misses {n : Node} {text : List Char} (hnullable : n.nullable = false)
    (h : Misses n.starts text) : n.Refuses text := by
  intro x hx
  refine List.eq_nil_iff_forall_not_mem.mpr fun y hy => ?_
  have hlt := length_lt_of_mem_ways hnullable hy
  cases text with
  | nil =>
    rw [hx] at hlt
    exact Nat.not_lt_zero _ hlt
  | cons c text =>
    have hopens : n.opens c = false := by
      rw [← Bool.not_eq_true, ← mem_starts]
      exact misses_cons_iff.mp h
    have hstay := (ways_stay hopens x (by rw [hx]; rfl) y hy).1
    rw [hstay] at hlt
    exact Nat.lt_irrefl _ hlt

/-! ## Firm trees -/

namespace Node

/-- A repetition with these limits goes round once at most. -/
def once (least : Nat) : Option Nat → Bool
  | none => false
  | some most => Nat.ble (max least most) 1

theorem le_one_of_once {least count : Nat} {most : Option Nat} (h : once least most = true)
    (hmost : ∀ m ∈ most, count ≤ max least m) : count ≤ 1 := by
  cases most with
  | none => cases h
  | some most => exact Nat.le_trans (hmost most rfl) (Nat.ble_eq.mp h)

/-- The next character decides how to go on, at each place of the tree. -/
def firm : Node → Bool
  | empty | one _ => true
  | look _ | group _ _ => false
  | seq a b => a.firm && b.firm && a.growth.apart b.starts
  | alt a b => a.firm && b.firm && !a.nullable && !b.nullable && a.starts.apart b.starts
  | repeated body least most greedy =>
    body.firm && greedy && !body.nullable && (once least most || body.growth.apart body.starts)

theorem misses_flatten {body : Node} {ws : List (List Char)} (hws : ∀ u ∈ ws, body.Denotes u)
    (hnullable : body.nullable = false) {set : CharSet} (hapart : ∀ c ∈ body.starts, c ∉ set)
    {rest : List Char} (hrest : Misses set rest) : Misses set (ws.flatten ++ rest) := by
  cases ws with
  | nil => exact hrest
  | cons u ws =>
    rw [List.flatten_cons, List.append_assoc]
    refine (hws u List.mem_cons_self).misses hapart fun hnull => ?_
    rw [hnullable] at hnull
    cases hnull

section Repeated
variable {body : Node} {least : Nat} {most : Option Nat} {ws : List (List Char)} {rest : List Char}

/-- In a loop that the next character decides, no piece is followed by a character with which it may grow. -/
theorem misses_growth_of_suffix
    (hround : once least most = true ∨ body.growth.apart body.starts = true)
    (hmost : ∀ m ∈ most, ws.length ≤ max least m) (hnullable : body.nullable = false)
    (hws : ∀ u ∈ ws, body.Denotes u) (hrest : Misses body.growth rest) {u : List Char}
    {us : List (List Char)} (hsuffix : u :: us <:+ ws) : Misses body.growth (us.flatten ++ rest) := by
  rcases hround with hround | hapart
  · have hone := le_one_of_once hround hmost
    have hlength := hsuffix.length_le
    rw [List.length_cons] at hlength
    obtain rfl : us = [] := List.length_eq_zero_iff.mp (by omega)
    exact hrest
  · refine misses_flatten (fun v hv => ?_) hnullable (fun c hc hgrowth => ?_) hrest
    · exact hws v (hsuffix.subset (List.mem_cons_of_mem _ hv))
    · exact CharSet.not_mem_of_apart hapart hgrowth hc

/-- A loop that prefers to go round reads as many pieces as its limits allow, each of which is preferred
where the later ones follow, up to a text that its body refuses. -/
theorem prefers_repeated (hleast : least ≤ ws.length) (hmost : ∀ m ∈ most, ws.length ≤ max least m)
    (hws : ∀ u ∈ ws, u ≠ []) (h : ∀ u us, u :: us <:+ ws → Prefers body.ways u (us.flatten ++ rest))
    (hend : body.Refuses rest) : Prefers (repeated body least most true).ways ws.flatten rest := by
  obtain ⟨init, more, rfl, hinit⟩ : ∃ init more, ws = init ++ more ∧ init.length = least :=
    ⟨ws.take least, ws.drop least, (List.take_append_drop least ws).symm, List.length_take_of_le hleast⟩
  have htimes : Prefers (times body.ways least) init.flatten (more.flatten ++ rest) := by
    rw [← hinit]
    refine .times fun u us hsuffix => ?_
    obtain ⟨before, rfl⟩ := hsuffix
    rw [← List.append_assoc, ← List.flatten_append]
    exact h u (us ++ more) ⟨before, by simp⟩
  have hmore (u : List Char) (us : List (List Char)) (hsuffix : u :: us <:+ more) :
      Prefers body.ways u (us.flatten ++ rest) := h u us (hsuffix.trans (List.suffix_append _ _))
  rw [List.flatten_append]
  cases most with
  | some most =>
    have hle := hmost most rfl
    rw [List.length_append] at hle
    exact htimes.flatMap (.upTo hmore hend (by omega))
  | none => exact htimes.flatMap (.loop hmore hend fun u hu => hws u (List.mem_append_right _ hu))

end Repeated

/-- **The first way of a firm tree reads the whole of a text that it denotes**, if what follows is no
character with which the text may grow. -/
theorem prefers_of_firm {n : Node} (h : n.firm = true) {w rest : List Char} (hw : n.Denotes w)
    (hrest : Misses n.growth rest) : Prefers n.ways w rest := by
  induction n generalizing w rest with
  | look => cases h
  | group => cases h
  | empty =>
    obtain rfl : w = [] := hw
    exact .singleton rest
  | one set =>
    obtain ⟨c, hc, rfl⟩ := hw
    intro x hx
    have hcontains : set.contains c = true := hc
    have htext : x.text = c :: rest := hx
    rw [ways, htext]
    simp only [hcontains, if_true]
    rfl
  | seq a b iha ihb =>
    simp only [firm, Bool.and_eq_true] at h
    obtain ⟨⟨ha, hb⟩, hapart⟩ := h
    obtain ⟨u, v, rfl, hu, hv⟩ := hw
    rw [growth] at hrest
    -- what follows the first part is the second part, or if this is empty, what follows the whole
    have hnext : Misses a.growth (v ++ rest) := by
      refine hv.misses (fun c hc hgrowth => CharSet.not_mem_of_apart hapart hgrowth hc) fun hnull => ?_
      rw [if_pos hnull] at hrest
      exact (misses_union_iff.mp hrest).1
    have hlast : Misses b.growth rest := by
      split at hrest
      · exact (misses_union_iff.mp hrest).2
      · exact hrest
    exact (iha ha hu hnext).flatMap (ihb hb hv hlast)
  | alt a b iha ihb =>
    simp only [firm, Bool.and_eq_true, Bool.not_eq_true'] at h
    obtain ⟨⟨⟨⟨ha, hb⟩, hnull⟩, hnull'⟩, hapart⟩ := h
    obtain ⟨hrest, hrest'⟩ := misses_union_iff.mp hrest
    rcases hw with hw | hw
    · exact (iha ha hw hrest).left
    · refine .right (Refuses.of_misses hnull ?_) (ihb hb hw hrest')
      refine hw.misses (fun c hc hstart => CharSet.not_mem_of_apart hapart hstart hc) fun hnull => ?_
      rw [hnull'] at hnull
      cases hnull
  | repeated body least most greedy ih =>
    simp only [firm, Bool.and_eq_true, Bool.or_eq_true, Bool.not_eq_true'] at h
    obtain ⟨⟨⟨hbody, rfl⟩, hnull⟩, hround⟩ := h
    obtain ⟨ws, rfl, ⟨hleast, hmost⟩, hws⟩ := hw
    obtain ⟨hstarts, hgrowth⟩ := misses_union_iff.mp hrest
    have hne : ∀ u ∈ ws, u ≠ [] := by
      rintro u hu rfl
      rw [nullable_of_denotes (hws [] hu)] at hnull
      cases hnull
    refine prefers_repeated hleast hmost hne (fun u us hsuffix => ?_) (.of_misses hnull hstarts)
    have hu : body.Denotes u := hws u (hsuffix.subset List.mem_cons_self)
    exact ih hbody hu (misses_growth_of_suffix hround hmost hnull hws hgrowth hsuffix)

end Node

/-! ## Matches -/

section Matches
variable {n : Node} {w rest text : List Char}

theorem match?_of_prefers (hadvances : n.Advances) (h : Prefers n.ways w rest) (before : Option Char) :
    (ofNode n).match? before (w ++ rest) = some ⟨w.length, []⟩ := by
  rw [match?_ofNode hadvances, h ⟨0, before, w ++ rest, []⟩ rfl]
  simp [Spot.skip, Spot.toMatch]

theorem match?_of_refuses (hadvances : n.Advances) (h : n.Refuses text) (before : Option Char) :
    (ofNode n).match? before text = none := by
  rw [match?_ofNode hadvances, h ⟨0, before, text, []⟩ rfl]
  rfl

end Matches

end Pattern

end TableLexer
