import TableLexer.Proofs.Pattern.Span

/-!
# The groups of a pattern

`match?_group_mem`: what takes part in a match as a group is a group of the tree.

Proof. A program marks only for the groups of its tree, since each way of laying out a part adds only
instructions of the part and forks (`Node.emit_marks`).
-/

namespace TableLexer.Pattern
open Program (Layout)

/-- The numbers of the groups, in the order in which they open. -/
def Node.groupNumbers : Node → List Nat
  | empty | one _ | look _ => []
  | group index body => index :: body.groupNumbers
  | seq a b | alt a b => a.groupNumbers ++ b.groupNumbers
  | repeated body _ _ _ => body.groupNumbers

/-! ## The marks of a program -/

/-- All marks of a program are of some slots. -/
def Program.MarksIn (S : Nat → Prop) (p : Program) : Prop :=
  ∀ (index : Nat) slot next, p[index]? = some (.mark slot next) → S slot

/-- A layout adds only marks of some slots. -/
def Layout.MarksIn (S : Nat → Prop) (layout : Layout) : Prop :=
  ∀ next p, p.MarksIn S → (layout next p).2.MarksIn S

section Layouts
variable {S : Nat → Prop} {p : Program} {layout layout' : Layout}

theorem Program.MarksIn.push (h : p.MarksIn S) {i : Instr} (hi : ∀ slot next, i = .mark slot next → S slot) :
    Program.MarksIn S (p.push i) := by
  intro index slot next hindex
  rw [Array.getElem?_push] at hindex
  split at hindex
  · exact hi slot next (Option.some.inj hindex)
  · exact h index slot next hindex

theorem Program.MarksIn.push_choice (h : p.MarksIn S) (greedy : Bool) (again done : Nat) :
    Program.MarksIn S (p.push (choice greedy again done)) := by
  refine h.push fun slot next hmark => ?_
  cases greedy <;> cases hmark

theorem Program.MarksIn.setIfInBounds (h : p.MarksIn S) (index : Nat) (greedy : Bool) (again done : Nat) :
    Program.MarksIn S (p.setIfInBounds index (choice greedy again done)) := by
  intro i slot next hi
  rw [Array.getElem?_setIfInBounds] at hi
  split at hi
  · split at hi
    · cases greedy <;> cases hi
    · cases hi
  · exact h i slot next hi

namespace Layout.MarksIn

theorem empty : MarksIn S fun next p => (next, p) := fun _ _ h => h

theorem seq (h : MarksIn S layout) (h' : MarksIn S layout') :
    MarksIn S fun next p => layout (layout' next p).1 (layout' next p).2 :=
  fun next p hp => h _ _ (h' next p hp)

theorem times (h : MarksIn S layout) (count : Nat) : MarksIn S (Program.emitTimes layout count) := by
  induction count with
  | zero => exact empty
  | succ count ih => exact h.seq ih

theorem loop (h : MarksIn S layout) (greedy : Bool) : MarksIn S (Program.emitLoop layout greedy) :=
  fun _ _ hp => (h _ _ (hp.push_choice _ _ _)).setIfInBounds _ _ _ _

theorem upTo (h : MarksIn S layout) (greedy : Bool) (done count : Nat) :
    MarksIn S (Program.emitUpTo layout greedy done count) := by
  induction count with
  | zero => exact empty
  | succ count ih => exact fun next p hp => (h _ _ (ih next p hp)).push_choice _ _ _

theorem repeated (h : MarksIn S layout) (least : Nat) (most : Option Nat) (greedy : Bool) :
    MarksIn S (Program.emitRepeated layout least most greedy) := by
  intro next p hp
  cases most with
  | none =>
    cases least with
    | zero => exact (h.loop greedy next p hp).push_choice _ _ _
    | succ least => exact (h.times least).seq (h.loop greedy) next p hp
  | some most =>
    have hupTo := h.upTo greedy next (most - least) next p hp
    cases least with
    | zero => exact h.times 0 _ _ hupTo
    | succ least => exact h.times (least + 1) _ _ hupTo

end Layout.MarksIn

/-- A tree is laid out with the marks of its groups only. -/
theorem Node.emit_marks (n : Node)
    (hS : ∀ index ∈ n.groupNumbers, S (2 * index) ∧ S (2 * index + 1)) : Layout.MarksIn S n.emit := by
  induction n with
  | empty => exact .empty
  | one set => exact fun next p hp => hp.push fun _ _ hmark => nomatch hmark
  | look condition => exact fun next p hp => hp.push fun _ _ hmark => nomatch hmark
  | group index body ih =>
    obtain ⟨hfirst, hlast⟩ := hS index List.mem_cons_self
    have hbody := ih fun i hi => hS i (List.mem_cons_of_mem _ hi)
    intro next p hp
    have hclose : Program.MarksIn S (p.push (.mark (2 * index + 1) next)) :=
      hp.push fun _ _ hmark => by cases hmark; exact hlast
    exact (hbody _ _ hclose).push fun _ _ hmark => by cases hmark; exact hfirst
  | seq a b iha ihb =>
    exact (iha fun i hi => hS i (List.mem_append_left _ hi)).seq
      (ihb fun i hi => hS i (List.mem_append_right _ hi))
  | alt a b iha ihb =>
    intro next p hp
    have hb := ihb (fun i hi => hS i (List.mem_append_right _ hi)) next p hp
    exact (iha (fun i hi => hS i (List.mem_append_left _ hi)) next _ hb).push fun _ _ hmark => nomatch hmark
  | repeated body least most greedy ih => exact (ih hS).repeated least most greedy

end Layouts

/-- What takes part in a match as a group is a group of the tree. -/
theorem match?_group_mem {n : Node} {before : Option Char} {text : List Char} {m : Match}
    (h : (ofNode n).match? before text = some m) {index first last : Nat}
    (hgroup : m.group? index = some (first, last)) : index ∈ n.groupNumbers := by
  have hprogram : (ofNode n).program.MarksIn fun slot => slot / 2 ∈ n.groupNumbers := by
    refine n.emit_marks (fun i hi => ?_) 0 #[.accept] fun i slot next hi => ?_
    · have hfirst : 2 * i / 2 = i := by omega
      have hlast : (2 * i + 1) / 2 = i := by omega
      rw [hfirst, hlast]
      exact ⟨hi, hi⟩
    · cases i with
      | zero => cases hi
      | succ i => cases hi
  have hkept : Kept (ofNode n).program fun _ mark => mark.1 / 2 ∈ n.groupNumbers := by
    refine ⟨fun _ i slot next hi => hprogram i slot next ?_, fun _ _ hmark => hmark⟩
    rw [Array.getD_eq_getD_getElem?] at hi
    cases hinstr : (ofNode n).program[i]? with
    | none => rw [hinstr] at hi; cases hi
    | some instr => rw [hinstr] at hi; exact congrArg some hi
  have hmark := (match?_marks hkept h).2 _ (Match.group?_eq_some hgroup).1
  rwa [show (2 * index) / 2 = index by omega] at hmark

end TableLexer.Pattern
