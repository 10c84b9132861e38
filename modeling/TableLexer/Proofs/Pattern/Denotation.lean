import TableLexer.Proofs.Pattern.Layout

/-!
# What a tree denotes

`Node.Denotes` says which texts a tree matches as a whole. It is the usual meaning of a regular expression,
by recursion on the tree, with no regard to preference; conditions are taken to hold. In a tree without
conditions, the ways read just the texts that it denotes (`Node.ways_yield`), so it matches a text as a whole
if one of its ways reads all of it (`Node.denotes_iff`), which can be decided.
-/

namespace TableLexer.Pattern

/-- The text is made of pieces with the property `P`, whose number has the property `N`. -/
def Pieces (P : List Char → Prop) (N : Nat → Prop) (w : List Char) : Prop :=
  ∃ ws : List (List Char), w = ws.flatten ∧ N ws.length ∧ ∀ u ∈ ws, P u

/-- The texts that a tree matches as a whole; conditions are taken to hold. -/
def Node.Denotes : Node → List Char → Prop
  | empty, w | look _, w => w = []
  | one set, w => ∃ c ∈ set, w = [c]
  | group _ body, w => body.Denotes w
  | seq a b, w => ∃ u v, w = u ++ v ∧ a.Denotes u ∧ b.Denotes v
  | alt a b, w => a.Denotes w ∨ b.Denotes w
  | repeated body least most _, w => Pieces body.Denotes (fun k => least ≤ k ∧ ∀ m ∈ most, k ≤ max least m) w

/-- The text is a pattern that matches another text as a whole. -/
def MatchesWhole (text : String) (w : List Char) : Prop := ∃ n, readNode text.toList = .ok n ∧ n.Denotes w

/-! ## Pieces -/

section Pieces
variable {P : List Char → Prop} {N : Nat → Prop} {w : List Char}

theorem pieces_zero_iff : Pieces P (· = 0) w ↔ w = [] := by
  constructor
  · rintro ⟨ws, rfl, hlength, -⟩
    rw [List.length_eq_zero_iff.mp hlength]
    rfl
  · rintro rfl
    exact ⟨[], rfl, rfl, by simp⟩

theorem pieces_succ_iff : Pieces P (fun k => 0 < k ∧ N (k - 1)) w ↔ ∃ u v, w = u ++ v ∧ P u ∧ Pieces P N v := by
  constructor
  · rintro ⟨ws, rfl, ⟨hpos, hN⟩, hws⟩
    cases ws with
    | nil => simp at hpos
    | cons u ws =>
      simp only [List.mem_cons, forall_eq_or_imp] at hws
      exact ⟨u, ws.flatten, by simp, hws.1, ws, rfl, by simpa using hN, hws.2⟩
  · rintro ⟨u, _, rfl, hu, ws, rfl, hN, hws⟩
    exact ⟨u :: ws, by simp, by simpa using hN, by simpa using ⟨hu, hws⟩⟩

/-- So many pieces and then others. -/
theorem pieces_append_iff {count : Nat} : Pieces P (fun k => count ≤ k ∧ N (k - count)) w ↔
    ∃ u v, w = u ++ v ∧ Pieces P (· = count) u ∧ Pieces P N v := by
  constructor
  · rintro ⟨ws, rfl, ⟨hle, hN⟩, hws⟩
    refine ⟨(ws.take count).flatten, (ws.drop count).flatten, ?_, ⟨ws.take count, rfl, ?_, ?_⟩,
      ws.drop count, rfl, ?_, ?_⟩
    · rw [← List.flatten_append, List.take_append_drop]
    · rw [List.length_take]
      omega
    · exact fun u hu => hws u (List.mem_of_mem_take hu)
    · rw [List.length_drop]
      exact hN
    · exact fun u hu => hws u (List.mem_of_mem_drop hu)
  · rintro ⟨_, _, rfl, ⟨us, rfl, rfl, hus⟩, vs, rfl, hN, hvs⟩
    refine ⟨us ++ vs, by simp, by simpa using hN, fun u hu => ?_⟩
    exact (List.mem_append.mp hu).elim (hus u) (hvs u)

theorem Pieces.congr {N' : Nat → Prop} (h : ∀ k, N k ↔ N' k) : Pieces P N w ↔ Pieces P N' w := by
  simp only [Pieces, h]

theorem length_le_length_flatten {ws : List (List Char)} (h : ∀ u ∈ ws, u ≠ []) :
    ws.length ≤ ws.flatten.length := by
  induction ws with
  | nil => exact Nat.le_refl _
  | cons u ws ih =>
    have hpos := List.length_pos_iff.mpr (h u List.mem_cons_self)
    have hle := ih fun v hv => h v (List.mem_cons_of_mem _ hv)
    simp only [List.length_cons, List.flatten_cons, List.length_append]
    omega

end Pieces

/-! ## Ways and texts -/

/-- From each spot, the ways of `f` read just the texts with the property `P`. -/
def Yields (f : Spot → List Spot) (P : List Char → Prop) : Prop :=
  ∀ x rest, (∃ y ∈ f x, y.text = rest) ↔ ∃ w, x.text = w ++ rest ∧ P w

namespace Yields
variable {f g : Spot → List Spot} {P Q : List Char → Prop}

theorem congr (h : Yields f P) (hPQ : ∀ w, Q w ↔ P w) : Yields f Q := by
  intro x rest
  rw [h x rest]
  simp only [hPQ]

theorem singleton : Yields (fun x => [x]) (· = []) := by
  intro x rest
  simp

theorem flatMap (h : Yields f P) (h' : Yields g Q) :
    Yields (fun x => (f x).flatMap g) fun w => ∃ u v, w = u ++ v ∧ P u ∧ Q v := by
  intro x rest
  constructor
  · rintro ⟨z, hz, hrest⟩
    obtain ⟨y, hy, hz⟩ := List.mem_flatMap.mp hz
    obtain ⟨u, hu, hPu⟩ := (h x y.text).mp ⟨y, hy, rfl⟩
    obtain ⟨v, hv, hQv⟩ := (h' y rest).mp ⟨z, hz, hrest⟩
    exact ⟨u ++ v, by rw [hu, hv, List.append_assoc], u, v, rfl, hPu, hQv⟩
  · rintro ⟨_, htext, u, v, rfl, hPu, hQv⟩
    obtain ⟨y, hy, hytext⟩ := (h x (v ++ rest)).mpr ⟨u, by rw [htext, List.append_assoc], hPu⟩
    obtain ⟨z, hz, hztext⟩ := (h' y rest).mpr ⟨v, hytext, hQv⟩
    exact ⟨z, List.mem_flatMap.mpr ⟨y, hy, hz⟩, hztext⟩

theorem append (h : Yields f P) (h' : Yields g Q) :
    Yields (fun x => f x ++ g x) fun w => P w ∨ Q w := by
  intro x rest
  have hleft := h x rest
  have hright := h' x rest
  constructor
  · rintro ⟨y, hy, hrest⟩
    rcases List.mem_append.mp hy with hy | hy
    · obtain ⟨w, htext, hw⟩ := hleft.mp ⟨y, hy, hrest⟩
      exact ⟨w, htext, .inl hw⟩
    · obtain ⟨w, htext, hw⟩ := hright.mp ⟨y, hy, hrest⟩
      exact ⟨w, htext, .inr hw⟩
  · rintro ⟨w, htext, hw | hw⟩
    · obtain ⟨y, hy, hrest⟩ := hleft.mpr ⟨w, htext, hw⟩
      exact ⟨y, List.mem_append_left _ hy, hrest⟩
    · obtain ⟨y, hy, hrest⟩ := hright.mpr ⟨w, htext, hw⟩
      exact ⟨y, List.mem_append_right _ hy, hrest⟩

theorem times (h : Yields f P) (count : Nat) : Yields (times f count) (Pieces P (· = count)) := by
  induction count with
  | zero => exact singleton.congr fun w => pieces_zero_iff
  | succ count ih =>
    refine (h.flatMap ih).congr fun w => ?_
    rw [← pieces_succ_iff]
    exact Pieces.congr fun k => by omega

theorem upTo (h : Yields f P) (greedy : Bool) (count : Nat) :
    Yields (upTo f greedy count) (Pieces P (· ≤ count)) := by
  induction count with
  | zero => exact singleton.congr fun w => (Pieces.congr fun k => by omega).trans pieces_zero_iff
  | succ count ih =>
    have hparts : Yields (fun x => (f x).flatMap (Pattern.upTo f greedy count) ++ [x])
        (Pieces P (· ≤ count + 1)) := by
      refine ((h.flatMap ih).append singleton).congr fun w => ?_
      rw [← pieces_succ_iff, ← pieces_zero_iff (P := P)]
      constructor
      · rintro ⟨ws, hw, hlength, hws⟩
        by_cases hzero : ws.length = 0
        · exact .inr ⟨ws, hw, hzero, hws⟩
        · exact .inl ⟨ws, hw, by omega, hws⟩
      · rintro (⟨ws, hw, hlength, hws⟩ | ⟨ws, hw, hlength, hws⟩)
        · exact ⟨ws, hw, by omega, hws⟩
        · exact ⟨ws, hw, by omega, hws⟩
    -- the order of the two parts makes no difference
    intro x rest
    rw [← hparts x rest]
    simp only [mem_upTo_succ, List.mem_append, List.mem_singleton, or_comm]

theorem loop (h : Yields f P) (hP : ¬ P []) (greedy : Bool) :
    Yields (loop f greedy) (Pieces P fun _ => True) := by
  intro x rest
  rw [Pattern.loop, h.upTo greedy x.text.length x rest]
  constructor
  · rintro ⟨w, htext, ws, hw, -, hws⟩
    exact ⟨w, htext, ws, hw, trivial, hws⟩
  · rintro ⟨w, htext, ws, rfl, -, hws⟩
    have hle : ws.length ≤ ws.flatten.length := by
      refine length_le_length_flatten fun u hu => ?_
      rintro rfl
      exact hP (hws [] hu)
    refine ⟨ws.flatten, htext, ws, rfl, ?_, hws⟩
    rw [htext, List.length_append]
    omega

end Yields

/-! ## Trees without conditions -/

namespace Node

/-- The tree has no conditions. -/
def plain : Node → Bool
  | empty | one _ => true
  | look _ => false
  | group _ body | repeated body _ _ _ => body.plain
  | seq a b | alt a b => a.plain && b.plain

theorem nullable_of_denotes {n : Node} (h : n.Denotes []) : n.nullable = true := by
  induction n with
  | empty => rfl
  | look => rfl
  | one set =>
    obtain ⟨c, -, hc⟩ := h
    cases hc
  | group _ body ih => exact ih h
  | seq a b iha ihb =>
    obtain ⟨u, v, huv, hu, hv⟩ := h
    obtain ⟨rfl, rfl⟩ := List.append_eq_nil_iff.mp huv.symm
    rw [nullable, iha hu, ihb hv]
    rfl
  | alt a b iha ihb =>
    rw [nullable, Bool.or_eq_true]
    exact h.imp iha ihb
  | repeated body least most greedy ih =>
    obtain ⟨ws, hws, hlength, hbody⟩ := h
    rw [nullable, Bool.or_eq_true, beq_iff_eq]
    cases ws with
    | nil => exact .inl (Nat.le_zero.mp hlength.1)
    | cons u ws =>
      rw [List.flatten_cons] at hws
      obtain ⟨rfl, -⟩ := List.append_eq_nil_iff.mp hws.symm
      exact .inr (ih (hbody [] List.mem_cons_self))

/-- **Without conditions, the ways of a tree read just the texts that it denotes.** -/
theorem ways_yield {n : Node} (h : n.plain = true) (hadvances : n.Advances) : Yields n.ways n.Denotes := by
  induction n with
  | empty => exact .singleton
  | look => cases h
  | one set =>
    intro x rest
    constructor
    · rintro ⟨y, hy, rfl⟩
      obtain ⟨c, cs, htext, hc, rfl⟩ := mem_ways_one.mp hy
      exact ⟨[c], htext, c, hc, rfl⟩
    · rintro ⟨_, htext, c, hc, rfl⟩
      exact ⟨_, mem_ways_one.mpr ⟨c, rest, htext, hc, rfl⟩, rfl⟩
  | group index body ih =>
    intro x rest
    refine Iff.trans ?_ (ih h hadvances (x.mark (2 * index)) rest)
    simp only [ways, List.mem_map]
    constructor
    · rintro ⟨_, ⟨y, hy, rfl⟩, hrest⟩
      exact ⟨y, hy, hrest⟩
    · rintro ⟨y, hy, hrest⟩
      exact ⟨_, ⟨y, hy, rfl⟩, hrest⟩
  | seq a b iha ihb =>
    rw [plain, Bool.and_eq_true] at h
    exact (iha h.1 hadvances.1).flatMap (ihb h.2 hadvances.2)
  | alt a b iha ihb =>
    rw [plain, Bool.and_eq_true] at h
    exact (iha h.1 hadvances.1).append (ihb h.2 hadvances.2)
  | repeated body least most greedy ih =>
    have hbody := ih h hadvances.1
    cases most with
    | none =>
      -- without a bound, each round has to read something for the loop to end
      have hnil : ¬ body.Denotes [] := by
        intro hnil
        have hnullable := hadvances.2 rfl
        rw [nullable_of_denotes hnil] at hnullable
        cases hnullable
      refine ((hbody.times least).flatMap (hbody.loop hnil greedy)).congr fun w => ?_
      rw [← pieces_append_iff]
      exact Pieces.congr fun k => by simp
    | some most =>
      refine ((hbody.times least).flatMap (hbody.upTo greedy (most - least))).congr fun w => ?_
      rw [← pieces_append_iff]
      refine Pieces.congr fun k => ?_
      simp only [Option.mem_def, Option.some.injEq, forall_eq']
      omega

/-- A tree without conditions matches a text as a whole if one of its ways reads all of it. -/
theorem denotes_iff {n : Node} (h : n.plain = true) (hadvances : n.Advances) {w : List Char} :
    n.Denotes w ↔ ∃ y ∈ n.ways ⟨0, none, w, []⟩, y.text = [] := by
  rw [ways_yield h hadvances ⟨0, none, w, []⟩ []]
  simp

/-! ## Parts of a tree -/

theorem denotes_ofSeq_cons {n : Node} {ns : List Node} {w : List Char} : (ofSeq (n :: ns)).Denotes w ↔
    ∃ u v, w = u ++ v ∧ n.Denotes u ∧ (ofSeq ns).Denotes v := by
  cases ns with
  | nil =>
    constructor
    · intro h
      exact ⟨w, [], (List.append_nil w).symm, h, rfl⟩
    · rintro ⟨u, v, rfl, hu, rfl⟩
      rw [List.append_nil]
      exact hu
  | cons n' ns => rfl

theorem denotes_ofSeq_append {ns ns' : List Node} {w : List Char} : (ofSeq (ns ++ ns')).Denotes w ↔
    ∃ u v, w = u ++ v ∧ (ofSeq ns).Denotes u ∧ (ofSeq ns').Denotes v := by
  induction ns generalizing w with
  | nil =>
    constructor
    · intro h
      exact ⟨[], w, rfl, rfl, h⟩
    · rintro ⟨u, v, rfl, rfl, hv⟩
      exact hv
  | cons n ns ih =>
    rw [List.cons_append, denotes_ofSeq_cons]
    constructor
    · rintro ⟨u, v, rfl, hu, hv⟩
      obtain ⟨v, v', rfl, hv, hv'⟩ := ih.mp hv
      exact ⟨u ++ v, v', (List.append_assoc u v v').symm, denotes_ofSeq_cons.mpr ⟨u, v, rfl, hu, hv⟩, hv'⟩
    · rintro ⟨_, v', rfl, h, hv'⟩
      obtain ⟨u, v, rfl, hu, hv⟩ := denotes_ofSeq_cons.mp h
      exact ⟨u, v ++ v', List.append_assoc u v v', hu, ih.mpr ⟨v, v', rfl, hv, hv'⟩⟩

/-- A run of characters of a set. -/
def run (set : Unicode.CharSet) (least : Nat) : Node := .repeated (.one set) least none true

/-- What may be left out. -/
def optional (n : Node) : Node := .repeated n 0 (some 1) true

theorem denotes_run {set : Unicode.CharSet} {least : Nat} {w : List Char} :
    (run set least).Denotes w ↔ least ≤ w.length ∧ ∀ c ∈ w, c ∈ set := by
  constructor
  · rintro ⟨ws, rfl, hlength, hws⟩
    have hsingle : ∀ u ∈ ws, ∃ c ∈ set, u = [c] := hws
    constructor
    · refine Nat.le_trans hlength.1 (length_le_length_flatten fun u hu => ?_)
      obtain ⟨c, -, rfl⟩ := hsingle u hu
      exact List.cons_ne_nil _ _
    · intro d hd
      obtain ⟨u, hu, hd⟩ := List.mem_flatten.mp hd
      obtain ⟨c, hc, rfl⟩ := hsingle u hu
      rwa [List.mem_singleton.mp hd]
  · rintro ⟨hle, hw⟩
    refine ⟨w.map ([·]), ?_, ⟨?_, by simp⟩, fun u hu => ?_⟩
    · rw [← List.flatMap_def, List.flatMap_singleton']
    · rw [List.length_map]
      exact hle
    · obtain ⟨c, hc, rfl⟩ := List.mem_map.mp hu
      exact ⟨c, hw c hc, rfl⟩

theorem denotes_optional {n : Node} {w : List Char} : (optional n).Denotes w ↔ w = [] ∨ n.Denotes w := by
  constructor
  · rintro ⟨ws, rfl, hlength, hws⟩
    have hone : ws.length ≤ 1 := hlength.2 1 rfl
    match ws, hone with
    | [], _ => exact .inl rfl
    | [u], _ =>
      rw [List.flatten_singleton]
      exact .inr (hws u List.mem_cons_self)
  · rintro (rfl | hw)
    · exact ⟨[], rfl, by simp, by simp⟩
    · exact ⟨[w], List.flatten_singleton.symm, by simp, by simpa using hw⟩

end Node

end TableLexer.Pattern
