import TableLexer.Pattern.Parser

/-!
# Texts read as themselves

A text in which the signs with a meaning are escaped is read character by character, wherever it
stands in a pattern, as long as blanks are not passed over: `run_escaped` says what it adds to the
sequence.
-/

namespace TableLexer.Pattern

namespace Reader

theorem step_of_not_isMeta (r : Reader) {c : Char} (h : isMeta c = false) (cs : List Char) :
    r.step c cs = .ok (r.push (.one (r.flags.literal c)) cs) := by
  unfold step
  split
  case h_13 => rfl
  all_goals exact absurd h (by decide)

theorem step_backslash_meta (r : Reader) {c : Char} (h : isMeta c = true) (cs : List Char) :
    r.step '\\' (c :: cs) = .ok (r.push (.one (r.flags.literal c)) cs) := by
  simp [step, readEscape_meta h, pushAtom, bind, Except.bind]

/-- Reading one escaped character adds the character to the sequence. -/
theorem run_escaped_cons (r : Reader) (hr : r.flags.verbose = false) (c : Char)
    (cs : List Char) (n : Nat) :
    run (n + 1) { r with rest := escaped [c] ++ cs }
      = run n (r.push (.one (r.flags.literal c)) cs) := by
  have hskip := Flags.skip_of_not_verbose hr
  cases h : isMeta c with
  | true =>
    simp only [escaped, List.flatMap_cons, List.flatMap_nil, h, if_true, List.append_nil,
      List.cons_append, List.nil_append, run, hskip, step_backslash_meta _ h]
    rfl
  | false =>
    simp only [escaped, List.flatMap_cons, List.flatMap_nil, h, Bool.false_eq_true, if_false,
      List.append_nil, List.cons_append, List.nil_append, run, hskip, step_of_not_isMeta _ h]
    rfl

theorem run_escaped (cs rest : List Char) (n : Nat) (r : Reader)
    (hr : r.flags.verbose = false) :
    run (cs.length + n) { r with rest := escaped cs ++ rest }
      = run n { r with
          sequence := (cs.map fun c => .node (.one (r.flags.literal c))).reverse ++ r.sequence
          rest } := by
  induction cs generalizing r with
  | nil => simp [escaped]
  | cons c cs ih =>
    have hsplit : escaped (c :: cs) ++ rest = escaped [c] ++ (escaped cs ++ rest) := by
      simp [escaped]
    have hlength : (c :: cs).length + n = cs.length + n + 1 := by
      simp only [List.length_cons]; omega
    rw [hsplit, hlength, run_escaped_cons r hr]
    exact (ih (r.push (.one (r.flags.literal c)) (escaped cs ++ rest)) hr).trans (by simp [push])

theorem run_nil (n : Nat) {r : Reader} (h : r.rest = []) (hr : r.flags.verbose = false) :
    run n r = r.finish := by
  cases n with
  | zero => rfl
  | succ n => simp [run, Flags.skip_of_not_verbose hr, h]

theorem sequenceNode_map_node (ns : List Node) :
    sequenceNode (ns.map .node).reverse = .ofSeq ns := by
  rw [sequenceNode, List.reverse_reverse, List.filterMap_map]
  exact congrArg Node.ofSeq List.filterMap_some

end Reader

theorem length_le_length_escaped (cs : List Char) : cs.length ≤ (escaped cs).length := by
  induction cs with
  | nil => exact Nat.zero_le _
  | cons c cs ih =>
    have h : 1 ≤ (if isMeta c then ['\\', c] else [c]).length := by split <;> simp
    simp only [escaped, List.flatMap_cons, List.length_append, List.length_cons] at ih ⊢
    omega

end TableLexer.Pattern
