import TableLexer.Proofs.Scanner.Tandem
import TableLexer.Proofs.Table.Openers

/-!
# Retiring rules is not seen

`tokenize_withoutOpeners`: a table whose rules were made by the constructors of `Rule` gives the same
tokens as the table in which each rule for a literal is an ordinary rule with the same pattern, kind and
guard, so that it is tried at every position.

Proof. A rule is retired where it took nothing at its opener; then it takes nothing from there on, by
`Table.Settles`. So the retired rules of a scanner are rules that take nothing on any part of the text
to come (`Agree.spent`), and passing over such a rule is what trying it would come to. The two scanners
go on in step, and differ in the retired rules and the log only (`step_agree`).
-/

namespace TableLexer

namespace Scanner

/-! ## Scanners that agree -/

/-- A scanner with everything but the retired rules and the log. -/
def bare (s : Scanner) : Scanner := { s with retired := [], log := [] }

/-- A scanner agrees with one for the table without openers: they differ in the retired rules and the
log only, and the retired rules take nothing on any part of the text to come. -/
structure Agree (t : Table) (s s' : Scanner) : Prop where
  bare : s'.bare = s.bare
  spent : ∀ guard pattern o emission, ⟨guard, .scan pattern (some o) emission⟩ ∈ t.allEntries →
    o.slot ∈ s.retired → ∀ before text, text <:+ s.rest → pattern.TakesNothing before text

theorem bare_take (s : Scanner) (kind : Kind) (count : Nat) :
    (s.take kind count).bare = s.bare.take kind count := rfl

theorem bare_takeAll (s : Scanner) (pieces : List (Kind × Nat)) :
    (s.takeAll pieces).bare = s.bare.takeAll pieces := by
  induction pieces generalizing s with
  | nil => rfl
  | cons piece pieces ih => exact ih (s.take piece.1 piece.2)

theorem takeAll_retired (s : Scanner) (pieces : List (Kind × Nat)) :
    (s.takeAll pieces).retired = s.retired := by
  induction pieces generalizing s with
  | nil => rfl
  | cons piece pieces ih => exact ih (s.take piece.1 piece.2)

theorem takeAll_rest (s : Scanner) (pieces : List (Kind × Nat)) :
    (s.takeAll pieces).rest <:+ s.rest := by
  induction pieces generalizing s with
  | nil => exact List.suffix_refl _
  | cons piece pieces ih => exact (ih (s.take piece.1 piece.2)).trans (List.drop_suffix _ _)

theorem bare_change (s : Scanner) {t t' : Table} (h : t'.states.length = t.states.length)
    (move : StateStack → StateStack) : (s.change t move).bare = (s.bare.change t' move).bare := by
  have hdetour : s.bare.currentDetour = s.currentDetour := rfl
  unfold change
  simp only [hdetour, h]
  split <;> rfl

theorem change_retired (s : Scanner) (t : Table) (move : StateStack → StateStack) :
    (s.change t move).retired = s.retired := by
  unfold change
  simp only
  split <;> rfl

theorem change_rest (s : Scanner) (t : Table) (move : StateStack → StateStack) :
    (s.change t move).rest <:+ s.rest := by
  unfold change
  simp only
  split
  · exact List.drop_suffix _ _
  · exact List.suffix_refl _

namespace Agree
variable {t : Table} {s s' : Scanner}

theorem start (t : Table) (input : String) :
    Agree t (Scanner.start t input) (Scanner.start t.withoutOpeners input) :=
  ⟨rfl, fun _ _ _ _ _ hretired => absurd hretired List.not_mem_nil⟩

/-- Scanners that agree still do so after anything that retires no rule and reads on. -/
theorem of_bare (h : Agree t s s') {r r' : Scanner} (hbare : r'.bare = r.bare)
    (hretired : r.retired = s.retired) (hrest : r.rest <:+ s.rest) : Agree t r r' := by
  refine ⟨hbare, fun guard pattern o emission he hslot before text htext => ?_⟩
  rw [hretired] at hslot
  exact h.spent guard pattern o emission he hslot before text (htext.trans hrest)

theorem before_eq (h : Agree t s s') : s'.before = s.before := congrArg (·.before) h.bare
theorem rest_eq (h : Agree t s s') : s'.rest = s.rest := congrArg (·.rest) h.bare
theorem stack_eq (h : Agree t s s') : s'.stack = s.stack := congrArg (·.stack) h.bare
theorem pending_eq (h : Agree t s s') : s'.pending = s.pending := congrArg (·.pending) h.bare

theorem takeAll (h : Agree t s s') (pieces : List (Kind × Nat)) :
    Agree t (s.takeAll pieces) (s'.takeAll pieces) := by
  refine h.of_bare ?_ (takeAll_retired s pieces) (takeAll_rest s pieces)
  rw [bare_takeAll, bare_takeAll, h.bare]

theorem takeError (h : Agree t s s') : Agree t s.takeError s'.takeError := by
  refine h.of_bare ?_ rfl (List.drop_suffix _ _)
  rw [Scanner.takeError, Scanner.takeError, bare_take, bare_take, h.bare, h.rest_eq]

theorem change (h : Agree t s s') (move : StateStack → StateStack) :
    Agree t (s.change t move) (s'.change t.withoutOpeners move) := by
  have hlength : t.withoutOpeners.states.length = t.states.length := List.length_map _
  refine h.of_bare ?_ (change_retired s t move) (change_rest s t move)
  rw [bare_change s hlength, bare_change s' rfl, h.bare]

theorem handOut (h : Agree t s s') (pending : List Token) :
    Agree t { s with pending } { s' with pending } := by
  refine h.of_bare ?_ rfl (List.suffix_refl _)
  exact congrArg (fun r : Scanner => { r with pending }) h.bare

/-- Retiring a rule that takes nothing here keeps the scanners in agreement. -/
theorem retire (h : Agree t s s') (ht : t.Settles) {guard : Guard} {pattern : Pattern}
    {opener : Option Opener} {emission : Emission}
    (he : ⟨guard, .scan pattern opener emission⟩ ∈ t.allEntries)
    (hnothing : pattern.TakesNothing s.before.head? s.rest) : Agree t (s.retire opener) s' := by
  unfold Scanner.retire
  split
  · exact h
  next o =>
  split
  next hopener =>
    refine ⟨h.bare, fun guard' pattern' o' emission' he' hslot before text htext => ?_⟩
    rcases List.mem_cons.mp hslot with hslot | hslot
    · obtain ⟨slots, hnumbered⟩ := ht.numbered
      rw [hnumbered.unique _ _ _ _ he' _ _ _ _ he hslot]
      have hprefix : o.text.toList <+: s.rest := List.isPrefixOf_iff_prefix.mp hopener
      exact ht.settles _ _ _ _ he _ _ hprefix hnothing before text htext
    · exact h.spent _ _ _ _ he' hslot before text htext
  · exact h

end Agree

/-! ## Steps -/

section Scan
variable {s : Scanner} {guard : Guard} {pattern : Pattern}

/-- A rule that takes nothing is passed over, and perhaps retired. -/
theorem tryEntry_of_takesNothing (t : Table) (opener : Option Opener) (emission : Emission)
    (hallows : guard.allows s.before = true)
    (hnothing : pattern.TakesNothing s.before.head? s.rest) :
    ∃ r, s.tryEntry t ⟨guard, .scan pattern opener emission⟩ = .passed r ∧
      (r = s ∨ r = s.retire opener) := by
  simp only [tryEntry, hallows, Bool.not_true, Bool.false_eq_true, if_false]
  split
  · exact ⟨s, rfl, .inl rfl⟩
  cases hm : pattern.match? s.before.head? s.rest with
  | none => exact ⟨_, rfl, .inr rfl⟩
  | some m => exact ⟨s.retire opener, if_pos (hnothing m hm), .inr rfl⟩

/-- A rule that takes something and has not been retired is used. -/
theorem tryEntry_of_match {t : Table} {opener : Option Opener} {emission : Emission}
    (hallows : guard.allows s.before = true) (hclose : s.mayClose opener = true) {m : Pattern.Match}
    (hm : pattern.match? s.before.head? s.rest = some m) (hlength : m.length ≠ 0) :
    s.tryEntry t ⟨guard, .scan pattern opener emission⟩ = .used (s.takeAll (cut m emission)) := by
  simp only [tryEntry, hallows, hclose, hm, Bool.not_true, Bool.false_eq_true, if_false]
  rw [if_neg hlength]

end Scan

theorem tryEntry_agree {t : Table} (ht : t.Settles) {s s' : Scanner} (h : Agree t s s') {e : Entry}
    (he : e ∈ t.allEntries) :
    (∃ r, s.tryEntry t e = .passed r ∧
        s'.tryEntry t.withoutOpeners e.withoutOpener = .passed s' ∧ Agree t r s') ∨
      ∃ r r', s.tryEntry t e = .used r ∧
        s'.tryEntry t.withoutOpeners e.withoutOpener = .used r' ∧ Agree t r r' := by
  obtain ⟨guard, action⟩ := e
  cases hallows : guard.allows s.before with
  | false =>
    have hallows' : guard.allows s'.before = false := by rw [h.before_eq, hallows]
    refine .inl ⟨s, ?_, ?_, h⟩
    · rw [tryEntry, if_pos (by simp [hallows])]
    · cases action <;> simp only [tryEntry, Entry.withoutOpener, hallows', Bool.not_false, if_true]
  | true =>
    have hallows' : guard.allows s'.before = true := by rw [h.before_eq, hallows]
    cases action with
    | push state =>
      refine .inr ⟨_, _, ?_, ?_, h.change (·.push state)⟩
      · simp [tryEntry, hallows]
      · simp [tryEntry, Entry.withoutOpener, hallows']
    | pop =>
      refine .inr ⟨_, _, ?_, ?_, h.change (·.pop)⟩
      · simp [tryEntry, hallows]
      · simp [tryEntry, Entry.withoutOpener, hallows']
    | scan pattern opener emission =>
      have hsame : pattern.match? s'.before.head? s'.rest = pattern.match? s.before.head? s.rest := by
        rw [h.before_eq, h.rest_eq]
      by_cases hnothing : pattern.TakesNothing s.before.head? s.rest
      · have hnothing' : pattern.TakesNothing s'.before.head? s'.rest := fun m hm => hnothing m (hsame ▸ hm)
        obtain ⟨r, hr, hcases⟩ := tryEntry_of_takesNothing t opener emission hallows hnothing
        obtain ⟨r', hr', hcases'⟩ := tryEntry_of_takesNothing t.withoutOpeners none emission
          hallows' hnothing'
        have hr's : r' = s' := hcases'.elim id id
        rw [hr's] at hr'
        refine .inl ⟨r, hr, hr', ?_⟩
        rcases hcases with rfl | rfl
        · exact h
        · exact h.retire ht he hnothing
      · obtain ⟨m, hm, hlength⟩ : ∃ m, pattern.match? s.before.head? s.rest = some m ∧ m.length ≠ 0 := by
          simpa [Pattern.TakesNothing] using hnothing
        have hclose : s.mayClose opener = true := by
          cases opener with
          | none => rfl
          | some o =>
            -- a retired rule would take nothing
            rw [mayClose, Option.all_some, Bool.not_eq_true', List.contains_eq_mem, decide_eq_false_iff_not]
            exact fun hslot => hnothing (h.spent _ _ _ _ he hslot _ _ (List.suffix_refl _))
        refine .inr ⟨_, _, tryEntry_of_match hallows hclose hm hlength, ?_, h.takeAll _⟩
        exact tryEntry_of_match hallows' rfl (hsame.trans hm) hlength

theorem tryEntries_agree {t : Table} (ht : t.Settles) {es : List Entry}
    (hes : ∀ e ∈ es, e ∈ t.allEntries) {s s' : Scanner} (h : Agree t s s') :
    Agree t (tryEntries t es s) (tryEntries t.withoutOpeners (es.map Entry.withoutOpener) s') := by
  induction es generalizing s with
  | nil => exact h.takeError
  | cons e es ih =>
    rw [List.map_cons, tryEntries, tryEntries]
    rcases tryEntry_agree ht h (hes e List.mem_cons_self) with
      ⟨r, hr, hr', hagree⟩ | ⟨r, r', hr, hr', hagree⟩
    · rw [hr, hr']
      exact ih (fun e' he' => hes e' (List.mem_cons_of_mem _ he')) hagree
    · rw [hr, hr']
      exact hagree

theorem step_agree {t : Table} (ht : t.Settles) {s s' : Scanner} (h : Agree t s s') :
    Agree t (step t s) (step t.withoutOpeners s') := by
  rw [step, step, h.stack_eq, Table.entries_withoutOpeners]
  exact tryEntries_agree ht (fun e he => Table.mem_allEntries he) h

theorem Agree.inTandem {t : Table} (ht : t.Settles) : InTandem t t.withoutOpeners False (Agree t) where
  size := List.length_map _
  rest := rest_eq
  pending := pending_eq
  handOut := handOut
  step h := .inl (step_agree ht h)

end Scanner

namespace Table

/-- In a table whose literals settle, the openers make no difference to the tokens. -/
theorem Settles.tokenize_eq {t : Table} (h : t.Settles) (input : String) :
    t.withoutOpeners.tokenize input = t.tokenize input := by
  rcases (Scanner.Agree.inTandem h).drain (.start t input) with ⟨htokens, -⟩ | ⟨hfalse, -⟩
  · exact htokens
  · exact hfalse.elim

/-- **Retiring rules is not seen.** Any table whose rules the constructors made gives the tokens that it
gives with each rule for a literal turned into an ordinary rule with the same pattern, kind and guard. -/
theorem tokenize_withoutOpeners {specs : List StateSpec} {t : Table} (hbuild : build specs = .ok t)
    (hmade : ∀ spec ∈ specs, ∀ r ∈ spec.rules, r.Made) :
    ∃ t', build (specs.map StateSpec.withoutOpeners) = .ok t' ∧
      ∀ input, t'.tokenize input = t.tokenize input :=
  ⟨t.withoutOpeners, build_withoutOpeners hbuild, (settles_of_build hbuild hmade).tokenize_eq⟩

/-- A table with a literal of each kind, one of them behind a guard. -/
def literalSpecs : List StateSpec := [⟨"root", [
  .delimited "/*" "*/" .commentMultiline,
  (Rule.quoted '"' '\\' .string).notAfter ["\\"]]⟩]

/-- What `literalSpecs` is built into. -/
def literalTable : Table := ⟨[⟨"root", [
  ⟨{}, .scan (.ofNode (Pattern.delimitedNode ['/', '*'] ['*', '/'])) (some ⟨"/*", 0⟩) (.whole .commentMultiline)⟩,
  ⟨⟨none, ["\\"]⟩, .scan (.ofNode (Pattern.quotedNode '"' '\\')) (some ⟨"\"", 1⟩) (.whole .string)⟩]⟩], 0⟩

theorem tokenize_withoutOpeners_literalTable : build literalSpecs = .ok literalTable ∧
    ∃ t', build (literalSpecs.map StateSpec.withoutOpeners) = .ok t' ∧
      ∀ input, t'.tokenize input = literalTable.tokenize input := by
  have hbuild : build literalSpecs = .ok literalTable := rfl
  refine ⟨hbuild, tokenize_withoutOpeners hbuild fun spec hspec r hr => ?_⟩
  cases List.mem_singleton.mp hspec
  simp only [List.mem_cons, List.not_mem_nil, or_false] at hr
  rcases hr with rfl | rfl
  · exact .delimited ..
  · exact (Rule.Made.quoted ..).notAfter _

end Table

end TableLexer
