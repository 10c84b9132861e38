import TableLexer.Proofs.Pattern.Span
import TableLexer.Scanner

/-!
# What a step can do

A step passes over some rules and then does one of four things (`step_effect`): it makes an error
token, enters a state, leaves one, or cuts a match into tokens. Passing over rules does no more than
retire some of them and report it (`Passes`). The pieces of a match are not empty and make up the
match (`cut_pos`, `pieceLength_cut`).
-/

namespace TableLexer

/-- The number of characters in some pieces. -/
def pieceLength (ps : List (Kind × Nat)) : Nat := ps.foldr (fun p n => p.2 + n) 0

@[simp] theorem pieceLength_nil : pieceLength [] = 0 := rfl

@[simp] theorem pieceLength_cons (p : Kind × Nat) (ps : List (Kind × Nat)) :
    pieceLength (p :: ps) = p.2 + pieceLength ps := rfl

namespace Scanner

/-! ## Passing over rules -/

/-- Passing over rules leads from `s` to `s'`: nothing but the retired rules and the log may differ,
and what the log gained are openers without closers, all at the current offset. -/
structure Passes (s s' : Scanner) : Prop where
  frame : s' = { s with retired := s'.retired, log := s'.log }
  log : ∃ reports, s'.log = reports ++ s.log ∧
    ∀ event ∈ reports, ∃ opener, event = .noCloser opener s.offset

namespace Passes
variable {s s' s'' : Scanner}

theorem before (h : Passes s s') : s'.before = s.before := by rw [h.frame]
theorem rest (h : Passes s s') : s'.rest = s.rest := by rw [h.frame]
theorem offset (h : Passes s s') : s'.offset = s.offset := by rw [h.frame]
theorem stack (h : Passes s s') : s'.stack = s.stack := by rw [h.frame]
theorem pending (h : Passes s s') : s'.pending = s.pending := by rw [h.frame]
theorem detour (h : Passes s s') : s'.detour = s.detour := by rw [h.frame]

theorem refl (s : Scanner) : Passes s s := ⟨rfl, [], rfl, fun _ h => absurd h List.not_mem_nil⟩

theorem trans (h : Passes s s') (h' : Passes s' s'') : Passes s s'' := by
  obtain ⟨reports, hlog, hreports⟩ := h.log
  obtain ⟨reports', hlog', hreports'⟩ := h'.log
  refine ⟨?_, reports' ++ reports, by rw [hlog', hlog, List.append_assoc], fun event hevent => ?_⟩
  · rw [h'.frame, h.frame]
  · rcases List.mem_append.mp hevent with hevent | hevent
    · rw [← h.offset]
      exact hreports' event hevent
    · exact hreports event hevent

end Passes

theorem retire_passes (s : Scanner) (opener : Option Opener) : Passes s (s.retire opener) := by
  unfold retire
  split
  · exact .refl s
  · next o =>
    split
    · refine ⟨rfl, [.noCloser o.text s.offset], rfl, fun event hevent => ?_⟩
      exact ⟨o.text, List.mem_singleton.mp hevent⟩
    · exact .refl s

/-! ## The effect of a step -/

/-- What the rules `es` can do to a scanner in the end. -/
inductive Effect (t : Table) (es : List Entry) (s : Scanner) : Scanner → Prop
  | error : Effect t es s s.takeError
  | push {e : Entry} {state : Nat} (he : e ∈ es) (hallows : e.guard.allows s.before = true)
      (haction : e.action = .push state) : Effect t es s (s.change t (·.push state))
  | pop {e : Entry} (he : e ∈ es) (hallows : e.guard.allows s.before = true)
      (haction : e.action = .pop) : Effect t es s (s.change t (·.pop))
  | scan {e : Entry} {pattern : Pattern} {opener : Option Opener} {emission : Emission}
      {m : Pattern.Match} (he : e ∈ es) (hallows : e.guard.allows s.before = true)
      (haction : e.action = .scan pattern opener emission)
      (hmatch : pattern.match? s.before.head? s.rest = some m) (hpos : 0 < m.length) :
      Effect t es s (s.takeAll (cut m emission))

theorem Effect.mono {t : Table} {es es' : List Entry} {s s' : Scanner} (h : Effect t es s s')
    (hsub : ∀ e ∈ es, e ∈ es') : Effect t es' s s' := by
  cases h with
  | error => exact .error
  | push he hallows haction => exact .push (hsub _ he) hallows haction
  | pop he hallows haction => exact .pop (hsub _ he) hallows haction
  | scan he hallows haction hmatch hpos => exact .scan (hsub _ he) hallows haction hmatch hpos

/-- A rule that was tried was passed over, or used. -/
theorem tryEntry_cases (s : Scanner) (t : Table) (e : Entry) :
    (∃ s', s.tryEntry t e = .passed s' ∧ Passes s s') ∨
      ∃ s', s.tryEntry t e = .used s' ∧ Effect t [e] s s' := by
  have he : e ∈ [e] := List.mem_singleton_self e
  by_cases hallows : e.guard.allows s.before = true
  · rw [tryEntry, if_neg (by simp [hallows])]
    cases haction : e.action with
    | push state => exact .inr ⟨_, rfl, .push he hallows haction⟩
    | pop => exact .inr ⟨_, rfl, .pop he hallows haction⟩
    | scan pattern opener emission =>
      simp only
      split
      · exact .inl ⟨_, rfl, .refl s⟩
      cases hmatch : pattern.match? s.before.head? s.rest with
      | none => exact .inl ⟨_, rfl, retire_passes s opener⟩
      | some m =>
        simp only
        split
        · exact .inl ⟨_, rfl, retire_passes s opener⟩
        · next hlength =>
          exact .inr ⟨_, rfl, .scan he hallows haction hmatch (Nat.pos_of_ne_zero hlength)⟩
  · rw [tryEntry, if_pos (by simp [hallows])]
    exact .inl ⟨_, rfl, .refl s⟩

theorem tryEntries_effect (t : Table) (es : List Entry) (s : Scanner) :
    ∃ s', Passes s s' ∧ Effect t es s' (tryEntries t es s) := by
  induction es generalizing s with
  | nil => exact ⟨s, .refl s, .error⟩
  | cons e es ih =>
    rw [tryEntries]
    rcases tryEntry_cases s t e with ⟨s', htry, hpass⟩ | ⟨s', htry, heffect⟩
    · obtain ⟨s'', hpass', heffect⟩ := ih s'
      rw [htry]
      exact ⟨s'', hpass.trans hpass', heffect.mono fun _ => List.mem_cons_of_mem e⟩
    · rw [htry]
      exact ⟨s, .refl s, heffect.mono fun _ h => List.mem_singleton.mp h ▸ List.mem_cons_self⟩

theorem step_effect (t : Table) (s : Scanner) :
    ∃ s', Passes s s' ∧ Effect t (t.entries s.stack.top) s' (step t s) :=
  tryEntries_effect t _ s

/-! ## The pieces of a match -/

theorem cutGroups_pos (m : Pattern.Match) (index position : Nat) (kinds : List Kind) :
    ∀ piece ∈ cutGroups m index position kinds, 0 < piece.2 := by
  induction kinds generalizing index position with
  | nil =>
    intro piece hpiece
    rw [cutGroups] at hpiece
    split at hpiece
    · rw [List.mem_singleton.mp hpiece]
      simp only; omega
    · exact absurd hpiece List.not_mem_nil
  | cons kind kinds ih =>
    intro piece hpiece
    rw [cutGroups] at hpiece
    split at hpiece
    · exact ih _ _ piece hpiece
    split at hpiece
    · exact ih _ _ piece hpiece
    · next first last _ hgroup =>
      have hrest : ∀ piece ∈ (kind, last - first) :: cutGroups m (index + 1) last kinds,
          0 < piece.2 := by
        intro piece hpiece
        rcases List.mem_cons.mp hpiece with rfl | hpiece
        · simp only; omega
        · exact ih _ _ piece hpiece
      simp only at hpiece
      split at hpiece
      · rcases List.mem_cons.mp hpiece with rfl | hpiece
        · simp only; omega
        · exact hrest piece hpiece
      · exact hrest piece hpiece

theorem pieceLength_cutGroups (m : Pattern.Match)
    (hm : ∀ index first last, m.group? index = some (first, last) → last ≤ m.length)
    (index position : Nat) (kinds : List Kind) (hposition : position ≤ m.length) :
    pieceLength (cutGroups m index position kinds) = m.length - position := by
  induction kinds generalizing index position with
  | nil =>
    rw [cutGroups]
    split
    · simp
    · rw [pieceLength_nil]; omega
  | cons kind kinds ih =>
    rw [cutGroups]
    split
    · exact ih _ _ hposition
    · next first last hgroup =>
      have hlast := hm index first last hgroup
      split
      · exact ih _ _ hposition
      · simp only
        split
        · simp only [pieceLength_cons, ih _ _ hlast]; omega
        · simp only [pieceLength_cons, ih _ _ hlast]; omega

theorem cut_pos {m : Pattern.Match} (hpos : 0 < m.length) (emission : Emission) :
    ∀ piece ∈ cut m emission, 0 < piece.2 := by
  cases emission with
  | whole kind =>
    intro piece hpiece
    rw [List.mem_singleton.mp hpiece]
    exact hpos
  | groups kinds => exact cutGroups_pos m 1 0 kinds

/-- The pieces of a match make up the match. -/
theorem pieceLength_cut {p : Pattern} {before : Option Char} {text : List Char} {m : Pattern.Match}
    (hmatch : p.match? before text = some m) (emission : Emission) :
    pieceLength (cut m emission) = m.length := by
  cases emission with
  | whole kind => simp [cut]
  | groups kinds =>
    exact pieceLength_cutGroups m (fun _ _ _ => Pattern.match?_group_le hmatch) 1 0 kinds (Nat.zero_le _)

theorem cut_ne_nil {p : Pattern} {before : Option Char} {text : List Char} {m : Pattern.Match}
    (hmatch : p.match? before text = some m) (hpos : 0 < m.length) (emission : Emission) :
    cut m emission ≠ [] := by
  intro hnil
  have hlength := pieceLength_cut hmatch emission
  rw [hnil, pieceLength_nil] at hlength
  omega

end Scanner

end TableLexer
