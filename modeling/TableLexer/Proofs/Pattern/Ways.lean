import TableLexer.Proofs.Pattern.Lockstep

/-!
# The ways in which a tree matches

`Node.ways` lists all ways in which a tree matches, in order of preference, by recursion on the tree.
A way reads a piece of the text (`Node.ways_lead`). A loop whose body reads a character each time is
one round and then the loop again, or nothing (`loop_eq`); `mem_ways_ofText`, `mem_loop_one` and
`head?_loop_one` say what this comes to for texts and for runs of characters of a set.
-/

namespace TableLexer.Pattern

/-! ## Ways -/

/-- The ways of `f` taken `count` times in a row. -/
def times (f : Spot → List Spot) : Nat → Spot → List Spot
  | 0, x => [x]
  | count + 1, x => (f x).flatMap (times f count)

/-- The ways of `f` taken up to `count` times in a row, where each time may be the last. -/
def upTo (f : Spot → List Spot) (greedy : Bool) : Nat → Spot → List Spot
  | 0, x => [x]
  | count + 1, x =>
    let more := (f x).flatMap (upTo f greedy count)
    if greedy then more ++ [x] else x :: more

/-- The ways of `f` taken any number of times in a row. If each time takes a character at least, the
length of the text bounds their number. -/
def loop (f : Spot → List Spot) (greedy : Bool) (x : Spot) : List Spot :=
  upTo f greedy x.text.length x

theorem mem_upTo_succ {f : Spot → List Spot} {greedy : Bool} {count : Nat} {x y : Spot} :
    y ∈ upTo f greedy (count + 1) x ↔ y = x ∨ y ∈ (f x).flatMap (upTo f greedy count) := by
  rw [upTo]
  cases greedy with
  | false => exact List.mem_cons
  | true =>
    rw [if_pos rfl, List.mem_append, List.mem_singleton]
    exact Or.comm

/-- The ways in which a tree matches from a spot on, in order of preference, each given by the spot
where it ends. -/
def Node.ways : Node → Spot → List Spot
  | empty, x => [x]
  | one set, x =>
    match x.text with
    | [] => []
    | c :: cs => if set.contains c then [x.next c cs] else []
  | look condition, x => if condition.holds x.before x.text.head? then [x] else []
  | group index body, x => (body.ways (x.mark (2 * index))).map (·.mark (2 * index + 1))
  | seq a b, x => (a.ways x).flatMap b.ways
  | alt a b, x => a.ways x ++ b.ways x
  | repeated body least none greedy, x => (times body.ways least x).flatMap (loop body.ways greedy)
  | repeated body least (some most) greedy, x =>
    (times body.ways least x).flatMap (upTo body.ways greedy (most - least))

/-- Whether a tree can match the empty text; conditions are taken to hold. -/
def Node.nullable : Node → Bool
  | empty | look _ => true
  | one _ => false
  | group _ body => body.nullable
  | seq a b => a.nullable && b.nullable
  | alt a b => a.nullable || b.nullable
  | repeated body least _ _ => least == 0 || body.nullable

/-- Every loop without limit reads a character each time round. -/
def Node.Advances : Node → Prop
  | empty | look _ | one _ => True
  | group _ body => body.Advances
  | seq a b | alt a b => a.Advances ∧ b.Advances
  | repeated body _ most _ => body.Advances ∧ (most = none → body.nullable = false)

instance Node.decidableAdvances : (n : Node) → Decidable n.Advances
  | empty | look _ | one _ => inferInstanceAs (Decidable True)
  | group _ body => decidableAdvances body
  | seq a b | alt a b =>
    have := decidableAdvances a
    have := decidableAdvances b
    inferInstanceAs (Decidable (a.Advances ∧ b.Advances))
  | repeated body _ most _ =>
    have := decidableAdvances body
    inferInstanceAs (Decidable (body.Advances ∧ (most = none → body.nullable = false)))

/-! ## Where ways lead -/

/-- One spot is reached from another by reading some characters. -/
structure Leads (x y : Spot) (taken : List Char) : Prop where
  text : x.text = taken ++ y.text
  count : y.count = x.count + taken.length
  before : y.before = taken.getLast?.or x.before

theorem Leads.refl (x : Spot) : Leads x x [] := ⟨rfl, rfl, rfl⟩

theorem Leads.trans {x y z : Spot} {taken taken' : List Char} (h : Leads x y taken)
    (h' : Leads y z taken') : Leads x z (taken ++ taken') := by
  refine ⟨?_, ?_, ?_⟩
  · rw [h.text, h'.text, List.append_assoc]
  · rw [h'.count, h.count, List.length_append, Nat.add_assoc]
  · rw [h'.before, h.before, List.getLast?_append, Option.or_assoc]

theorem Leads.next {x : Spot} {c : Char} {cs : List Char} (h : x.text = c :: cs) :
    Leads x (x.next c cs) [c] := ⟨h, rfl, rfl⟩

/-- All ways of `f` lead on, reading at least `least` characters. -/
def AllLead (f : Spot → List Spot) (least : Nat) : Prop :=
  ∀ x, ∀ y ∈ f x, ∃ taken, Leads x y taken ∧ least ≤ taken.length

variable {f g : Spot → List Spot} {least least' : Nat}

theorem AllLead.mono (h : AllLead f least) (hle : least' ≤ least) : AllLead f least' := by
  intro x y hy
  obtain ⟨taken, hleads, hlength⟩ := h x y hy
  exact ⟨taken, hleads, Nat.le_trans hle hlength⟩

theorem AllLead.singleton : AllLead (fun x => [x]) 0 := by
  intro x y hy
  rw [List.mem_singleton.mp hy]
  exact ⟨[], .refl x, Nat.le_refl _⟩

theorem AllLead.flatMap (h : AllLead f least) (h' : AllLead g least') :
    AllLead (fun x => (f x).flatMap g) (least + least') := by
  intro x z hz
  obtain ⟨y, hy, hz⟩ := List.mem_flatMap.mp hz
  obtain ⟨taken, hleads, hlength⟩ := h x y hy
  obtain ⟨taken', hleads', hlength'⟩ := h' y z hz
  exact ⟨taken ++ taken', hleads.trans hleads', by rw [List.length_append]; omega⟩

theorem AllLead.times (h : AllLead f least) (count : Nat) :
    AllLead (times f count) (count * least) := by
  induction count with
  | zero => exact AllLead.singleton.mono (by omega)
  | succ count ih => exact (h.flatMap ih).mono (by rw [Nat.succ_mul]; omega)

theorem AllLead.upTo (h : AllLead f least) (greedy : Bool) (count : Nat) :
    AllLead (upTo f greedy count) 0 := by
  induction count with
  | zero => exact .singleton
  | succ count ih =>
    intro x y hy
    rcases mem_upTo_succ.mp hy with rfl | hy
    · exact ⟨[], .refl y, Nat.le_refl _⟩
    · exact (h.flatMap ih).mono (Nat.zero_le _) x y hy

theorem Node.ways_lead (n : Node) : AllLead n.ways (if n.nullable then 0 else 1) := by
  induction n with
  | empty => exact .singleton
  | one set =>
    intro x y hy
    rw [ways] at hy
    cases htext : x.text with
    | nil => rw [htext] at hy; cases hy
    | cons c cs =>
      rw [htext] at hy
      simp only at hy
      split at hy
      · rw [List.mem_singleton.mp hy]
        exact ⟨[c], .next htext, Nat.le_refl _⟩
      · cases hy
  | look condition =>
    intro x y hy
    rw [ways] at hy
    split at hy
    · exact AllLead.singleton x y hy
    · cases hy
  | group index body ih =>
    intro x y hy
    rw [ways] at hy
    obtain ⟨z, hz, rfl⟩ := List.mem_map.mp hy
    obtain ⟨taken, hleads, hlength⟩ := ih _ z hz
    exact ⟨taken, ⟨hleads.text, hleads.count, hleads.before⟩, hlength⟩
  | seq a b iha ihb =>
    refine (iha.flatMap ihb).mono ?_
    rw [nullable]
    cases a.nullable <;> cases b.nullable <;> simp
  | alt a b iha ihb =>
    intro x y hy
    rw [nullable]
    rcases List.mem_append.mp hy with hy | hy
    · exact iha.mono (by cases a.nullable <;> cases b.nullable <;> simp) x y hy
    · exact ihb.mono (by cases a.nullable <;> cases b.nullable <;> simp) x y hy
  | repeated body least most greedy ih =>
    intro x z hz
    -- only the rounds that have to be made count, since the others may be left out
    obtain ⟨y, hy, count, hz⟩ : ∃ y ∈ times body.ways least x, ∃ count,
        z ∈ upTo body.ways greedy count y := by
      cases most with
      | none =>
        obtain ⟨y, hy, hz⟩ := List.mem_flatMap.mp hz
        exact ⟨y, hy, _, hz⟩
      | some most =>
        obtain ⟨y, hy, hz⟩ := List.mem_flatMap.mp hz
        exact ⟨y, hy, _, hz⟩
    obtain ⟨taken, hleads, hlength⟩ := ih.times least x y hy
    obtain ⟨taken', hleads', -⟩ := ih.upTo greedy count y z hz
    refine ⟨taken ++ taken', hleads.trans hleads', ?_⟩
    rw [List.length_append, nullable]
    cases hbody : body.nullable with
    | true => simp
    | false =>
      rw [hbody] at hlength
      simp only [Bool.false_eq_true, if_false, Nat.mul_one, Bool.or_false, beq_iff_eq] at hlength ⊢
      split <;> omega

theorem Node.length_lt_of_mem_ways {n : Node} (h : n.nullable = false) {x y : Spot}
    (hy : y ∈ n.ways x) : y.text.length < x.text.length := by
  obtain ⟨taken, hleads, hlength⟩ := n.ways_lead x y hy
  rw [h] at hlength
  rw [hleads.text, List.length_append]
  simp only [Bool.false_eq_true, if_false] at hlength
  omega

/-! ## Loops -/

/-- Each way of `f` reads a character at least. -/
def Shortens (f : Spot → List Spot) : Prop := ∀ x, ∀ y ∈ f x, y.text.length < x.text.length

/-- Going round more often than there are characters adds no ways. -/
theorem upTo_eq_of_le (h : Shortens f) (greedy : Bool) {count count' : Nat} {x : Spot}
    (hcount : x.text.length ≤ count) (hcount' : x.text.length ≤ count') :
    upTo f greedy count x = upTo f greedy count' x := by
  have hend {y : Spot} (hy : y.text.length = 0) : f y = [] :=
    List.eq_nil_iff_forall_not_mem.mpr fun z hz => by
      have := h y z hz
      omega
  induction count generalizing count' x with
  | zero =>
    cases count' with
    | zero => rfl
    | succ count' => simp [upTo, hend (by omega : x.text.length = 0)]
  | succ count ih =>
    cases count' with
    | zero => simp [upTo, hend (by omega : x.text.length = 0)]
    | succ count' =>
      have hmore : (f x).flatMap (upTo f greedy count) = (f x).flatMap (upTo f greedy count') := by
        rw [List.flatMap_def, List.flatMap_def, List.map_congr_left fun y hy => ?_]
        have := h x y hy
        exact ih (by omega) (by omega)
      simp only [upTo, hmore]

theorem loop_eq (h : Shortens f) (greedy : Bool) (x : Spot) : loop f greedy x =
    if greedy then (f x).flatMap (loop f greedy) ++ [x] else x :: (f x).flatMap (loop f greedy) := by
  have hround : loop f greedy x = upTo f greedy (x.text.length + 1) x :=
    upTo_eq_of_le h greedy (Nat.le_refl _) (Nat.le_succ _)
  have hmore : (f x).flatMap (upTo f greedy x.text.length) = (f x).flatMap (loop f greedy) := by
    rw [List.flatMap_def, List.flatMap_def, List.map_congr_left fun y hy => ?_]
    exact upTo_eq_of_le h greedy (Nat.le_of_lt (h x y hy)) (Nat.le_refl _)
  rw [hround, upTo, hmore]

theorem mem_loop (h : Shortens f) {greedy : Bool} {x y : Spot} :
    y ∈ loop f greedy x ↔ y = x ∨ ∃ z ∈ f x, y ∈ loop f greedy z := by
  rw [loop_eq h]
  cases greedy with
  | true =>
    rw [if_pos rfl, List.mem_append, List.mem_singleton, List.mem_flatMap]
    exact Or.comm
  | false => rw [if_neg Bool.false_ne_true, List.mem_cons, List.mem_flatMap]

/-! ## Sequences and texts -/

/-- The spot after a piece of the text has been read. -/
def Spot.skip (x : Spot) (taken rest : List Char) : Spot :=
  ⟨x.count + taken.length, taken.getLast?.or x.before, rest, x.marks⟩

theorem Spot.skip_nil {x : Spot} {text : List Char} (h : x.text = text) : x.skip [] text = x := by
  rw [← h]
  rfl

theorem Spot.skip_skip (x : Spot) (a b rest rest' : List Char) :
    (x.skip a rest).skip b rest' = x.skip (a ++ b) rest' := by
  simp only [skip, List.length_append, List.getLast?_append, Option.or_assoc, Nat.add_assoc]

theorem Spot.next_eq_skip (x : Spot) (c : Char) (cs : List Char) : x.next c cs = x.skip [c] cs := rfl

namespace Node
variable {x y : Spot} {ns : List Node}

theorem ways_ofSeq_cons (n : Node) (ns : List Node) (x : Spot) :
    (ofSeq (n :: ns)).ways x = (n.ways x).flatMap (ofSeq ns).ways := by
  cases ns with
  | nil =>
    have hempty : (ofSeq []).ways = fun x => [x] := rfl
    rw [hempty, List.flatMap_singleton']
    rfl
  | cons n' ns => rfl

theorem ways_ofSeq_append (ns ns' : List Node) (x : Spot) :
    (ofSeq (ns ++ ns')).ways x = ((ofSeq ns).ways x).flatMap (ofSeq ns').ways := by
  induction ns generalizing x with
  | nil => exact (List.append_nil _).symm
  | cons n ns ih =>
    rw [List.cons_append, ways_ofSeq_cons, ways_ofSeq_cons, List.flatMap_assoc]
    exact congrArg (fun g => (n.ways x).flatMap g) (funext ih)

theorem advances_ofSeq (h : ∀ n ∈ ns, n.Advances) : (ofSeq ns).Advances := by
  induction ns with
  | nil => trivial
  | cons n ns ih =>
    have hn := h n List.mem_cons_self
    have hns := ih fun m hm => h m (List.mem_cons_of_mem _ hm)
    cases ns with
    | nil => exact hn
    | cons n' ns => exact ⟨hn, hns⟩

theorem advances_ofAlts (h : ∀ n ∈ ns, n.Advances) : (ofAlts ns).Advances := by
  induction ns with
  | nil => trivial
  | cons n ns ih =>
    have hn := h n List.mem_cons_self
    have hns := ih fun m hm => h m (List.mem_cons_of_mem _ hm)
    cases ns with
    | nil => exact hn
    | cons n' ns => exact ⟨hn, hns⟩

theorem mem_ways_one {set : Unicode.CharSet} :
    y ∈ (one set).ways x ↔ ∃ c cs, x.text = c :: cs ∧ c ∈ set ∧ y = x.skip [c] cs := by
  rw [ways]
  cases htext : x.text with
  | nil => simp
  | cons c cs =>
    simp only [List.cons.injEq, Unicode.CharSet.mem_iff]
    constructor
    · intro hy
      split at hy
      · next hc => exact ⟨c, cs, ⟨rfl, rfl⟩, hc, List.mem_singleton.mp hy⟩
      · cases hy
    · rintro ⟨_, _, ⟨rfl, rfl⟩, hc, rfl⟩
      rw [if_pos hc]
      exact List.mem_singleton_self _

theorem mem_ways_look {condition : Assertion} :
    y ∈ (look condition).ways x ↔ condition.holds x.before x.text.head? = true ∧ y = x := by
  rw [ways]
  split
  next hholds => rw [List.mem_singleton, and_iff_right hholds]
  next hholds => exact ⟨fun h => (nomatch h), fun h => absurd h.1 hholds⟩

theorem shortens_one (set : Unicode.CharSet) : Shortens (one set).ways :=
  fun _ _ hy => length_lt_of_mem_ways rfl hy

/-- A text matches where it stands. -/
theorem mem_ways_ofText {cs : List Char} :
    y ∈ (ofText cs).ways x ↔ ∃ rest, x.text = cs ++ rest ∧ y = x.skip cs rest := by
  induction cs generalizing x with
  | nil =>
    constructor
    · intro hy
      rw [List.mem_singleton.mp hy]
      exact ⟨x.text, rfl, rfl⟩
    · rintro ⟨rest, htext, rfl⟩
      rw [List.nil_append] at htext
      rw [← htext]
      exact List.mem_singleton_self x
  | cons c cs ih =>
    have hways : (ofText (c :: cs)).ways x
        = ((one (.single c)).ways x).flatMap (ofText cs).ways := ways_ofSeq_cons _ _ x
    rw [hways, List.mem_flatMap]
    constructor
    · rintro ⟨z, hz, hy⟩
      obtain ⟨d, ds, htext, hd, rfl⟩ := mem_ways_one.mp hz
      obtain ⟨rest, hrest, rfl⟩ := ih.mp hy
      rw [Unicode.CharSet.mem_single.mp hd] at htext ⊢
      refine ⟨rest, ?_, Spot.skip_skip x [c] cs ds rest⟩
      rw [htext, show ds = cs ++ rest from hrest]
      rfl
    · rintro ⟨rest, htext, rfl⟩
      refine ⟨x.skip [c] (cs ++ rest), mem_ways_one.mpr ?_, ih.mpr ⟨rest, rfl, ?_⟩⟩
      · exact ⟨c, cs ++ rest, htext, Unicode.CharSet.mem_single.mpr rfl, rfl⟩
      · exact (Spot.skip_skip x [c] cs _ rest).symm

theorem advances_ofText (cs : List Char) : (ofText cs).Advances := by
  refine advances_ofSeq fun n hn => ?_
  obtain ⟨c, -, rfl⟩ := List.mem_map.mp hn
  trivial

/-- A loop over a set goes over a run of its characters. -/
theorem mem_loop_one {set : Unicode.CharSet} {greedy : Bool} :
    y ∈ loop (one set).ways greedy x ↔
      ∃ taken rest, x.text = taken ++ rest ∧ (∀ c ∈ taken, c ∈ set) ∧ y = x.skip taken rest := by
  generalize htext : x.text = text
  induction text generalizing x with
  | nil =>
    rw [mem_loop (shortens_one set)]
    constructor
    · rintro (rfl | ⟨z, hz, -⟩)
      · exact ⟨[], [], rfl, fun _ hc => absurd hc List.not_mem_nil, (Spot.skip_nil htext).symm⟩
      · obtain ⟨c, cs, hcons, -⟩ := mem_ways_one.mp hz
        rw [htext] at hcons
        cases hcons
    · rintro ⟨taken, rest, hsplit, -, rfl⟩
      obtain ⟨rfl, rfl⟩ := List.append_eq_nil_iff.mp hsplit.symm
      exact .inl (Spot.skip_nil htext)
  | cons c cs ih =>
    rw [mem_loop (shortens_one set)]
    constructor
    · rintro (rfl | ⟨z, hz, hy⟩)
      · exact ⟨[], c :: cs, rfl, fun _ hc => absurd hc List.not_mem_nil, (Spot.skip_nil htext).symm⟩
      · obtain ⟨d, ds, hcons, hd, rfl⟩ := mem_ways_one.mp hz
        rw [htext] at hcons
        cases hcons
        obtain ⟨taken, rest, hsplit, htaken, rfl⟩ := (ih rfl).mp hy
        refine ⟨c :: taken, rest, by rw [hsplit]; rfl, fun d hd => ?_, Spot.skip_skip x [c] taken _ rest⟩
        rcases List.mem_cons.mp hd with rfl | hd
        · assumption
        · exact htaken d hd
    · rintro ⟨taken, rest, hsplit, htaken, rfl⟩
      cases taken with
      | nil =>
        rw [List.nil_append] at hsplit
        exact .inl (Spot.skip_nil (htext.trans hsplit))
      | cons d taken =>
        cases hsplit
        refine .inr ⟨x.skip [c] (taken ++ rest), mem_ways_one.mpr ?_, (ih rfl).mpr ?_⟩
        · exact ⟨c, _, htext, htaken c List.mem_cons_self, rfl⟩
        · exact ⟨taken, rest, rfl, fun d hd => htaken d (List.mem_cons_of_mem _ hd),
            (Spot.skip_skip x [c] taken _ rest).symm⟩

/-- A greedy loop over a set prefers the longest run of its characters. -/
theorem head?_loop_one (set : Unicode.CharSet) (x : Spot) :
    (loop (one set).ways true x).head? =
      some (x.skip (x.text.takeWhile set.contains) (x.text.dropWhile set.contains)) := by
  generalize htext : x.text = text
  induction text generalizing x with
  | nil =>
    have hone : (one set).ways x = [] := by rw [ways, htext]
    rw [loop_eq (shortens_one set), if_pos rfl, hone]
    exact congrArg some (Spot.skip_nil htext).symm
  | cons c cs ih =>
    rw [loop_eq (shortens_one set), if_pos rfl, ways, htext]
    by_cases hc : set.contains c
    · have hhead := ih (x.skip [c] cs) rfl
      simp only [hc, if_true, List.flatMap_singleton, List.head?_append, Spot.next_eq_skip, hhead,
        Option.some_or, List.takeWhile_cons, List.dropWhile_cons, Spot.skip_skip]
      rfl
    · simp only [hc, List.takeWhile_cons, List.dropWhile_cons]
      exact congrArg some (Spot.skip_nil htext).symm

end Node

end TableLexer.Pattern
