import TableLexer.Proofs.Pattern.Ways

/-!
# The match is the first way

`match?_ofNode`: the match of a pattern is the first of the ways of its tree, as long as no loop of
the tree has a body that can be empty (`Node.Advances`).

Proof. A layout realizes a list of ways if backtracking from where it begins tries these ways, each
followed by what comes at the continuation (`Realizes`). Each way of laying out a part keeps this
(`Realizes.times`, `Realizes.upTo`, `Realizes.loop`), so that `Node.emit` realizes `Node.ways`. Only a
loop needs its body to advance: what its fork finds is found by induction on the text that is left.
-/

namespace TableLexer.Pattern
open Program (Layout)

variable {f g : Spot → List Spot}

/-! ## Layouts -/

/-- A program that begins with another. -/
def Extends (p p' : Program) : Prop := p.size ≤ p'.size ∧ ∀ i < p.size, p'[i]? = p[i]?

theorem Extends.refl (p : Program) : Extends p p := ⟨Nat.le_refl _, fun _ _ => rfl⟩

theorem Extends.trans {p p' p'' : Program} (h : Extends p p') (h' : Extends p' p'') :
    Extends p p'' :=
  ⟨Nat.le_trans h.1 h'.1, fun i hi => (h'.2 i (Nat.lt_of_lt_of_le hi h.1)).trans (h.2 i hi)⟩

theorem Extends.push (p : Program) (i : Instr) : Extends p (p.push i) := by
  refine ⟨by simp, fun j hj => ?_⟩
  rw [Array.getElem?_push, if_neg (Nat.ne_of_lt hj)]

/-- A program has the instructions of another from an index on. -/
def HasFrom (P p : Program) (first : Nat) : Prop := ∀ i, first ≤ i → i < p.size → P[i]? = p[i]?

theorem HasFrom.mono {P p : Program} {first first' : Nat} (h : HasFrom P p first)
    (hle : first ≤ first') : HasFrom P p first' := fun i hi => h i (Nat.le_trans hle hi)

theorem HasFrom.of_extends {P p p' : Program} {first : Nat} (h : HasFrom P p' first)
    (hextends : Extends p p') : HasFrom P p first :=
  fun i hfirst hi => (h i hfirst (Nat.lt_of_lt_of_le hi hextends.1)).trans (hextends.2 i hi)

theorem HasFrom.push_self {P p : Program} {first : Nat} {i : Instr} (h : HasFrom P (p.push i) first)
    (hle : first ≤ p.size) : P[p.size]? = some i := by
  rw [h p.size hle (by simp), Array.getElem?_push, if_pos rfl]

/-- A layout adds a part of a program that realizes a list of ways: in every program with this part,
backtracking from its entry tries these ways in order, each followed by what the continuation finds. -/
structure Realizes (layout : Layout) (f : Spot → List Spot) : Prop where
  extend : ∀ next p, Extends p (layout next p).2
  find : ∀ next p P, HasFrom P (layout next p).2 p.size → ∀ x (k : Spot → Option Match),
    (∀ y ∈ f x, Finds P next y (k y)) → Finds P (layout next p).1 x ((f x).findSome? k)

theorem findSome?_flatMap {α β γ : Type} (l : List α) (f : α → List β) (k : β → Option γ) :
    (l.flatMap f).findSome? k = l.findSome? fun a => (f a).findSome? k := by
  induction l with
  | nil => rfl
  | cons a l ih =>
    rw [List.flatMap_cons, List.findSome?_append, ih, List.findSome?_cons]
    cases (f a).findSome? k <;> rfl

namespace Realizes
variable {layout layout' : Layout}

theorem empty : Realizes (fun next p => (next, p)) fun x => [x] := by
  refine ⟨fun next p => .refl p, fun next p P hP x k hk => ?_⟩
  have h := hk x (List.mem_singleton_self x)
  rw [List.findSome?_singleton]
  exact h

/-- One part after another; the later part is laid out first. -/
theorem seq (h : Realizes layout f) (h' : Realizes layout' g) :
    Realizes (fun next p => layout (layout' next p).1 (layout' next p).2)
      fun x => (f x).flatMap g := by
  refine ⟨fun next p => (h'.extend next p).trans (h.extend _ _), fun next p P hP x k hk => ?_⟩
  have hextend := h'.extend next p
  rw [findSome?_flatMap]
  refine h.find _ _ P (hP.mono hextend.1) x _ fun y hy => ?_
  refine h'.find next p P (hP.of_extends (h.extend _ _)) y k fun z hz => ?_
  exact hk z (List.mem_flatMap.mpr ⟨y, hy, hz⟩)

theorem times (h : Realizes layout f) (count : Nat) :
    Realizes (Program.emitTimes layout count) (times f count) := by
  induction count with
  | zero => exact empty
  | succ count ih => exact h.seq ih

theorem choice {P : Program} {index again done : Nat} {greedy : Bool} {x : Spot} {r r' : Option Match}
    (hi : P[index]? = some (Program.choice greedy again done)) (hagain : Finds P again x r)
    (hdone : Finds P done x r') : Finds P index x (if greedy then r.or r' else r'.or r) := by
  cases greedy with
  | true => exact .fork hi hagain hdone
  | false => exact .fork hi hdone hagain

theorem upTo_succ_findSome? (f : Spot → List Spot) (greedy : Bool) (count : Nat) (x : Spot)
    (k : Spot → Option Match) : (upTo f greedy (count + 1) x).findSome? k =
      if greedy then ((f x).findSome? fun y => (upTo f greedy count y).findSome? k).or (k x)
      else (k x).or ((f x).findSome? fun y => (upTo f greedy count y).findSome? k) := by
  rw [Pattern.upTo, ← findSome?_flatMap]
  cases greedy with
  | true => simp
  | false =>
    simp only [Bool.false_eq_true, if_false, List.findSome?_cons]
    cases k x <;> rfl

theorem upTo (h : Realizes layout f) (greedy : Bool) (count : Nat) :
    Realizes (fun next => Program.emitUpTo layout greedy next count next) (upTo f greedy count) := by
  induction count with
  | zero => exact empty
  | succ count ih =>
    refine ⟨fun next p => ?_, fun next p P hP x k hk => ?_⟩
    · exact (ih.extend next p).trans ((h.extend _ _).trans (.push _ _))
    · have hinner := ih.extend next p
      have hbody := h.extend (Program.emitUpTo layout greedy next count next p).1
        (Program.emitUpTo layout greedy next count next p).2
      have hfork := hP.push_self (hinner.trans hbody).1
      have hP' := hP.of_extends (.push _ _)
      rw [upTo_succ_findSome?]
      refine choice hfork ?_ (hk x ?_)
      · refine h.find _ _ P (hP'.mono hinner.1) x _ fun y hy => ?_
        refine ih.find next p P (hP'.of_extends hbody) y k fun z hz => hk z ?_
        exact mem_upTo_succ.mpr (.inr (List.mem_flatMap.mpr ⟨y, hy, hz⟩))
      · exact mem_upTo_succ.mpr (.inl rfl)

/-- What a fork finds that leads round a loop again or on from it. -/
theorem roundLoop {P : Program} {index again next : Nat} {greedy : Bool} {x : Spot}
    {k : Spot → Option Match} (hf : Shortens f)
    (hfork : P[index]? = some (Program.choice greedy again next))
    (hk : ∀ y ∈ Pattern.loop f greedy x, Finds P next y (k y))
    (hagain : (∀ y ∈ (f x).flatMap (Pattern.loop f greedy), Finds P next y (k y)) →
      Finds P again x (((f x).flatMap (Pattern.loop f greedy)).findSome? k)) :
    Finds P index x ((Pattern.loop f greedy x).findSome? k) := by
  rw [loop_eq hf] at hk ⊢
  cases greedy with
  | true =>
    have hdone := hk x (List.mem_append_right _ (List.mem_singleton_self x))
    rw [if_pos rfl, List.findSome?_append, List.findSome?_singleton]
    exact choice hfork (hagain fun y hy => hk y (List.mem_append_left _ hy)) hdone
  | false =>
    have hdone := hk x List.mem_cons_self
    have hchoice := choice hfork (hagain fun y hy => hk y (List.mem_cons_of_mem _ hy)) hdone
    rw [if_neg Bool.false_ne_true, List.findSome?_cons]
    rw [if_neg Bool.false_ne_true] at hchoice
    cases hkx : k x with
    | none => rw [hkx] at hchoice; exact hchoice
    | some m => rw [hkx] at hchoice; exact hchoice

/-- The loop tries the body again where its fork stands, by induction on the text that is left. -/
theorem loop (h : Realizes layout f) (hf : Shortens f) (greedy : Bool) :
    Realizes (Program.emitLoop layout greedy) fun x => (f x).flatMap (loop f greedy) := by
  have hback (next : Nat) (p : Program) : Extends p (layout p.size (p.push
      (Program.choice greedy next next))).2 := (Extends.push p _).trans (h.extend _ _)
  refine ⟨fun next p => ?_, fun next p P hP => ?_⟩
  · refine ⟨?_, fun i hi => ?_⟩
    · rw [Program.emitLoop]
      simp only [Program.add, Array.size_setIfInBounds]
      exact (hback next p).1
    · rw [Program.emitLoop]
      simp only [Program.add]
      rw [Array.getElem?_setIfInBounds_ne (Nat.ne_of_gt hi)]
      exact (hback next p).2 i hi
  · have hsize : p.size < (layout p.size (p.push (Program.choice greedy next next))).2.size := by
      have hle := (h.extend p.size (p.push (Program.choice greedy next next))).1
      rw [Array.size_push] at hle
      omega
    generalize hlayout : layout p.size (p.push (Program.choice greedy next next)) = laid at hsize
    have hemit : Program.emitLoop layout greedy next p
        = (laid.1, laid.2.setIfInBounds p.size (Program.choice greedy laid.1 next)) := by
      simp only [Program.emitLoop, Program.add, hlayout]
    rw [hemit] at hP ⊢
    -- the fork is laid out first and set once the entry of the body is known
    have hfork : P[p.size]? = some (Program.choice greedy laid.1 next) := by
      rw [hP p.size (Nat.le_refl _) (by simpa using hsize), Array.getElem?_setIfInBounds_self_of_lt hsize]
    have hbody : HasFrom P laid.2 (p.size + 1) := by
      intro i hi hlt
      rw [hP i (by omega) (by simpa using hlt), Array.getElem?_setIfInBounds_ne (by omega)]
    have hentry : ∀ x (k : Spot → Option Match), (∀ y ∈ f x, Finds P p.size y (k y)) →
        Finds P laid.1 x ((f x).findSome? k) := by
      have hfind := h.find p.size (p.push (Program.choice greedy next next)) P
      rw [hlayout, Array.size_push] at hfind
      exact hfind hbody
    -- the body leads back to the fork with less text than before
    have hround : ∀ n x, x.text.length = n → ∀ k : Spot → Option Match,
        (∀ y ∈ Pattern.loop f greedy x, Finds P next y (k y)) →
          Finds P p.size x ((Pattern.loop f greedy x).findSome? k) := by
      intro n
      induction n using Nat.strongRecOn with
      | ind n ih =>
        intro x hx k hk
        refine roundLoop hf hfork hk fun hmore => ?_
        rw [findSome?_flatMap]
        refine hentry x _ fun y hy => ?_
        exact ih _ (hx ▸ hf x y hy) y rfl k fun z hz => hmore z (List.mem_flatMap.mpr ⟨y, hy, hz⟩)
    intro x k hk
    rw [findSome?_flatMap]
    exact hentry x _ fun y hy => hround _ y rfl k fun z hz => hk z (List.mem_flatMap.mpr ⟨y, hy, hz⟩)

theorem optionalLoop (h : Realizes layout f) (hf : Shortens f) (greedy : Bool) :
    Realizes (Program.emitRepeated layout 0 none greedy) (Pattern.loop f greedy) := by
  have hloop := h.loop hf greedy
  refine ⟨fun next p => (hloop.extend next p).trans (.push _ _), fun next p P hP x k hk => ?_⟩
  have hfork := hP.push_self (hloop.extend next p).1
  exact roundLoop hf hfork hk (hloop.find next p P (hP.of_extends (.push _ _)) x k)

theorem times_succ_flatMap (f : Spot → List Spot) (count : Nat) (g : Spot → List Spot) (x : Spot) :
    (Pattern.times f (count + 1) x).flatMap g
      = (Pattern.times f count x).flatMap fun y => (f y).flatMap g := by
  induction count generalizing x with
  | zero => simp [Pattern.times]
  | succ count ih =>
    rw [Pattern.times, Pattern.times, List.flatMap_assoc, List.flatMap_assoc]
    exact congrArg (fun h => (f x).flatMap h) (funext ih)

theorem loopFrom (h : Realizes layout f) (hf : Shortens f) (greedy : Bool) (least : Nat) :
    Realizes (Program.emitRepeated layout least none greedy)
      fun x => (Pattern.times f least x).flatMap (Pattern.loop f greedy) := by
  cases least with
  | zero =>
    have hzero : (fun x => (Pattern.times f 0 x).flatMap (Pattern.loop f greedy))
        = Pattern.loop f greedy := by
      funext x
      simp [Pattern.times]
    rw [hzero]
    exact h.optionalLoop hf greedy
  | succ least =>
    have hsucc : (fun x => (Pattern.times f (least + 1) x).flatMap (Pattern.loop f greedy))
        = fun x => (Pattern.times f least x).flatMap fun y => (f y).flatMap (Pattern.loop f greedy) := by
      funext x
      exact times_succ_flatMap f least _ x
    rw [hsucc]
    exact (h.times least).seq (h.loop hf greedy)

theorem group (h : Realizes layout f) (index : Nat) :
    Realizes (fun next p =>
        let (close, p) := p.add (.mark (2 * index + 1) next)
        let (entry, p) := layout close p
        p.add (.mark (2 * index) entry))
      fun x => (f (x.mark (2 * index))).map (·.mark (2 * index + 1)) := by
  refine ⟨fun next p => ?_, fun next p P hP x k hk => ?_⟩
  · exact (Extends.push p _).trans ((h.extend _ _).trans (.push _ _))
  · have hclose : Extends p (p.push (.mark (2 * index + 1) next)) := .push p _
    have hbody := h.extend p.size (p.push (.mark (2 * index + 1) next))
    refine .mark (hP.push_self (hclose.trans hbody).1) ?_
    have hP' := hP.of_extends (.push _ _)
    rw [List.findSome?_map]
    refine h.find p.size _ P (hP'.mono hclose.1) _ _ fun y hy => ?_
    refine .mark ((hP'.of_extends hbody).push_self (Nat.le_refl _)) ?_
    exact hk _ (List.mem_map.mpr ⟨y, hy, rfl⟩)

end Realizes

/-! ## Trees -/

theorem Node.emit_realizes (n : Node) (h : n.Advances) : Realizes n.emit n.ways := by
  induction n with
  | empty => exact .empty
  | one set =>
    refine ⟨fun next p => .push p _, fun next p P hP x k hk => ?_⟩
    have hread := hP.push_self (Nat.le_refl _)
    rw [ways] at hk ⊢
    cases htext : x.text with
    | nil => exact .read_nil hread htext
    | cons c cs =>
      rw [htext] at hk
      simp only at hk ⊢
      cases hc : set.contains c with
      | false => exact .read_other hread htext hc
      | true =>
        rw [hc, if_pos rfl] at hk
        rw [if_pos rfl, List.findSome?_singleton]
        exact .read hread htext hc (hk _ (List.mem_singleton_self _))
  | look condition =>
    refine ⟨fun next p => .push p _, fun next p P hP x k hk => ?_⟩
    have hlook := hP.push_self (Nat.le_refl _)
    rw [ways] at hk ⊢
    cases hholds : condition.holds x.before x.text.head? with
    | false => exact .look_not hlook hholds
    | true =>
      rw [hholds, if_pos rfl] at hk
      rw [if_pos rfl, List.findSome?_singleton]
      exact .look hlook hholds (hk _ (List.mem_singleton_self _))
  | group index body ih => exact (ih h).group index
  | seq a b iha ihb => exact (iha h.1).seq (ihb h.2)
  | alt a b iha ihb =>
    have ha := iha h.1
    have hb := ihb h.2
    refine ⟨fun next p => ?_, fun next p P hP x k hk => ?_⟩
    · exact (hb.extend next p).trans ((ha.extend _ _).trans (.push _ _))
    · have hsecond := hb.extend next p
      have hfirst := ha.extend next (b.emit next p).2
      have hP' := hP.of_extends (.push _ _)
      rw [ways, List.findSome?_append]
      refine .fork (hP.push_self (hsecond.trans hfirst).1) ?_ ?_
      · exact ha.find next _ P (hP'.mono hsecond.1) x k fun y hy => hk y (List.mem_append_left _ hy)
      · exact hb.find next p P (hP'.of_extends hfirst) x k fun y hy => hk y (List.mem_append_right _ hy)
  | repeated body least most greedy ih =>
    have hbody := ih h.1
    cases most with
    | none =>
      have hshortens : Shortens body.ways := fun x y hy => length_lt_of_mem_ways (h.2 rfl) hy
      exact hbody.loopFrom hshortens greedy least
    | some most =>
      have hemit : (repeated body least (some most) greedy).emit = fun next p =>
          Program.emitTimes body.emit least (Program.emitUpTo body.emit greedy next (most - least) next p).1
            (Program.emitUpTo body.emit greedy next (most - least) next p).2 := by
        funext next p
        cases least <;> rfl
      rw [hemit]
      exact (hbody.times least).seq (hbody.upTo greedy (most - least))

/-- **The match of a pattern is the first of its ways.** -/
theorem match?_ofNode {n : Node} (h : n.Advances) (before : Option Char) (text : List Char) :
    (ofNode n).match? before text = (n.ways ⟨0, before, text, []⟩).head?.map Spot.toMatch := by
  have hrealizes := n.emit_realizes h
  have haccept : (n.emit 0 #[.accept]).2[0]? = some .accept :=
    ((hrealizes.extend 0 #[.accept]).2 0 (by simp)).trans rfl
  refine match?_of_finds ?_
  have hfind := hrealizes.find 0 #[.accept] (n.emit 0 #[.accept]).2 (fun _ _ _ => rfl)
    ⟨0, before, text, []⟩ (fun y => some y.toMatch) fun y _ => .accept haccept
  have hhead : (n.ways ⟨0, before, text, []⟩).findSome? (fun y => some y.toMatch)
      = (n.ways ⟨0, before, text, []⟩).head?.map Spot.toMatch := by
    cases n.ways ⟨0, before, text, []⟩ <;> rfl
  rw [hhead] at hfind
  exact hfind

theorem match?_eq_ite {n : Node} (hadvances : n.Advances) {before : Option Char} {text : List Char}
    {condition : Prop} [Decidable condition] {m : Match}
    (hsome : condition → ∃ y, y ∈ n.ways ⟨0, before, text, []⟩)
    (hall : ∀ y ∈ n.ways ⟨0, before, text, []⟩, condition ∧ y.toMatch = m) :
    (ofNode n).match? before text = if condition then some m else none := by
  rw [match?_ofNode hadvances]
  cases hways : n.ways ⟨0, before, text, []⟩ with
  | nil =>
    rw [if_neg fun hcondition => ?_]
    · rfl
    · obtain ⟨y, hy⟩ := hsome hcondition
      rw [hways] at hy
      cases hy
  | cons y ys =>
    obtain ⟨hcondition, hy⟩ := hall y (by rw [hways]; exact List.mem_cons_self)
    rw [if_pos hcondition, List.head?_cons, Option.map_some, hy]

end TableLexer.Pattern
