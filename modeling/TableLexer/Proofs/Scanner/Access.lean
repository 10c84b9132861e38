import TableLexer.Proofs.Scanner.Flat
import TableLexer.Proofs.Scanner.Raw

/-!
# Scanning reaches for nothing that is not there

`next_never_fails`: over a table that was built, no access of the raw scanner finds nothing there, and
the raw scanner goes through what the scanner goes through.

Proof. What is accessed is there because of the table (`Table.Sound`), because the offset is the length
of the text before it (`Covers`), and because all states on the stack are states of the table
(`InBounds`), which every step keeps. With that each raw operation gives the raw form of what the
operation gives.
-/

namespace TableLexer

/-! ## States on the stack -/

namespace StateStack

theorem mem_push {s : StateStack} {state new : Nat} :
    state ∈ (s.push new).states ↔ state = new ∨ state ∈ s.states := List.mem_cons

theorem mem_of_mem_pop {s : StateStack} {state : Nat} (h : state ∈ s.pop.states) :
    state ∈ s.states := by
  obtain ⟨top, below⟩ := s
  cases below with
  | nil => exact h
  | cons next below => exact List.mem_cons_of_mem _ h

end StateStack

namespace Scanner

/-- All states that the scanner is in, or would go back to, are states of the table. -/
structure InBounds (t : Table) (s : Scanner) : Prop where
  stack : ∀ state ∈ s.stack.states, state < t.states.length
  arrival : ∀ d, s.detour = some d → ∀ state ∈ d.arrival.states, state < t.states.length

namespace InBounds
variable {t : Table} {s s' : Scanner}

theorem start (h : t.Sound) (input : String) : InBounds t (.start t input) :=
  ⟨fun _ hstate => List.mem_singleton.mp hstate ▸ h.root, fun _ hd => nomatch hd⟩

theorem of_same (h : InBounds t s) (hstack : s'.stack = s.stack) (hdetour : s'.detour = s.detour) :
    InBounds t s' :=
  ⟨by rw [hstack]; exact h.stack, by rw [hdetour]; exact h.arrival⟩

theorem currentDetour (h : InBounds t s) :
    ∀ state ∈ s.currentDetour.arrival.states, state < t.states.length := by
  rw [Scanner.currentDetour]
  split
  · next d hd =>
    split
    · exact h.arrival d hd
    · exact h.stack
  · exact h.stack

theorem change (h : InBounds t s) {move : StateStack → StateStack}
    (hmove : ∀ state ∈ (move s.stack).states, state < t.states.length) :
    InBounds t (s.change t move) := by
  by_cases hchanges : s.currentDetour.changes < t.states.length
  · rw [change_of_le move hchanges]
    refine ⟨hmove, fun d hd => ?_⟩
    cases hd
    exact h.currentDetour
  · rw [change_of_lt move (by omega)]
    exact ⟨h.currentDetour, fun _ hd => nomatch hd⟩

theorem step (ht : t.Sound) (h : InBounds t s) : InBounds t (Scanner.step t s) := by
  obtain ⟨s', hpass, heffect⟩ := step_effect t s
  have h' : InBounds t s' := h.of_same hpass.stack hpass.detour
  generalize Scanner.step t s = after at heffect
  cases heffect with
  | error => exact h'.of_same rfl rfl
  | push he _ haction =>
    refine h'.change fun state hstate => ?_
    rcases StateStack.mem_push.mp hstate with rfl | hstate
    · exact ht.target _ (Table.mem_allEntries he) _ haction
    · exact h'.stack _ hstate
  | pop => exact h'.change fun state hstate => h'.stack _ (StateStack.mem_of_mem_pop hstate)
  | scan =>
    rw [takeAll_eq]
    exact h'.of_same rfl rfl

theorem run (ht : t.Sound) {input : String} {past : List Scanner} (h : Run t input (s :: past)) :
    InBounds t s := by
  refine Run.invariant (.start ht input) (fun hbounds hmove => ?_) h
  cases hmove with
  | handOut => exact hbounds.of_same rfl rfl
  | step => exact hbounds.step ht

end InBounds

end Scanner

namespace RawScanner

theorem of_start (t : Table) (input : String) : of t (.start t input) = start t := by
  have hflags : (List.range t.literalCount).map (Scanner.start t input).retired.contains
      = List.replicate t.literalCount false := by
    rw [List.eq_replicate_iff]
    refine ⟨by rw [List.length_map, List.length_range], fun flag hflag => ?_⟩
    obtain ⟨slot, -, rfl⟩ := List.mem_map.mp hflag
    rfl
  rw [of, hflags]
  rfl

section Access
variable {t : Table} {text : List Char} {returned : List Token} {s : Scanner}

/-! ## Access to the text -/

theorem before?_of (h : s.Covers text returned) : (of t s).before? text = some s.before.reverse := by
  have hslice := slice?_append [] s.before.reverse s.rest
  rw [List.nil_append, h.whole, byteLength_nil, Nat.zero_add, ← h.offset] at hslice
  exact hslice

theorem rest?_of (h : s.Covers text returned) : (of t s).rest? text = some s.rest := by
  have hslice := slice?_append s.before.reverse s.rest []
  rw [List.append_nil, ← byteLength_append, h.whole, ← h.offset] at hslice
  exact hslice

theorem slice?_byteAfter (h : s.Covers text returned) {first last : Nat} (hle : first ≤ last) :
    slice? text (byteAfter s.offset s.rest first) (byteAfter s.offset s.rest last)
      = some ((s.rest.drop first).take (last - first)) := by
  have hslice := slice?_append (s.before.reverse ++ s.rest.take first)
    ((s.rest.drop first).take (last - first)) ((s.rest.drop first).drop (last - first))
  have htext : s.before.reverse ++ s.rest.take first ++ ((s.rest.drop first).take (last - first)
      ++ (s.rest.drop first).drop (last - first)) = text := by
    rw [List.take_append_drop, List.append_assoc, List.take_append_drop, h.whole]
  rw [htext, byteLength_append, ← h.offset] at hslice
  rw [← byteAfter_add _ hle]
  exact hslice

theorem pushToken?_of (h : s.Covers text returned) (kind : Kind) {first last : Nat}
    (hlt : first < last) (hlast : last ≤ s.rest.length) (r : RawScanner) :
    r.pushToken? text kind (byteAfter s.offset s.rest first) (byteAfter s.offset s.rest last) = some { r with
      pending := r.pending ++ [.between s.offset s.rest kind first last] } := by
  rw [pushToken?, if_pos (byteAfter_lt _ hlt hlast), slice?_byteAfter h (Nat.le_of_lt hlt)]
  rfl

/-- Making a token of the next characters, and moving on to its end, is taking them. -/
theorem take_of (h : s.Covers text returned) (kind : Kind) {count : Nat} (hpos : 0 < count)
    (hcount : count ≤ s.rest.length) :
    ((of t s).pushToken? text kind s.offset (byteAfter s.offset s.rest count)).map
      ({ · with offset := byteAfter s.offset s.rest count }) = some (of t (s.take kind count)) := by
  have hpush := pushToken?_of h kind hpos hcount (of t s)
  rw [byteAfter_zero] at hpush
  rw [hpush]
  rfl

theorem error?_of (h : s.Covers text returned) (hrest : s.rest ≠ []) :
    (of t s).error? text = some (of t s.takeError) := by
  rw [error?, rest?_of h, Option.bind_some]
  exact take_of h .error (Unicode.Grapheme.firstLength_pos hrest) (Unicode.Grapheme.firstLength_le _)

/-! ## Access to the flags -/

theorem mayClose?_of {opener : Option Opener} (h : ∀ o, opener = some o → o.slot < t.literalCount) :
    (of t s).mayClose? opener = some (s.mayClose opener) := by
  cases opener with
  | none => rfl
  | some o =>
    have hslot : (List.range t.literalCount)[o.slot]? = some o.slot :=
      List.getElem?_range (h o rfl)
    simp only [mayClose?, of, List.getElem?_map, hslot, Option.map_some, Scanner.mayClose,
      Option.all_some]

theorem length_unclosed (t : Table) (s : Scanner) : (of t s).unclosed.length = t.literalCount := by
  simp only [of, List.length_map, List.length_range]

theorem set_flags (retired : List Nat) (count slot : Nat) :
    ((List.range count).map retired.contains).set slot true
      = (List.range count).map (slot :: retired).contains := by
  refine List.ext_getElem? fun i => ?_
  rw [List.getElem?_set, List.getElem?_map, List.getElem?_map, List.length_map, List.length_range]
  by_cases hi : i < count
  · rw [List.getElem?_range hi, Option.map_some, Option.map_some]
    by_cases hslot : slot = i
    · subst hslot
      simp [hi]
    · rw [if_neg hslot, List.contains_cons, beq_false_of_ne (Ne.symm hslot), Bool.false_or]
  · have hnone : (List.range count)[i]? = none := by
      rw [List.getElem?_eq_none_iff, List.length_range]
      omega
    simp [hnone]
    omega

theorem failed?_of (h : s.Covers text returned) {opener : Option Opener}
    (hslot : ∀ o, opener = some o → o.slot < t.literalCount) :
    (of t s).failed? text opener = some (of t (s.retire opener)) := by
  cases opener with
  | none => rfl
  | some o =>
    have hlength : o.slot < (of t s).unclosed.length := by
      rw [length_unclosed]
      exact hslot o rfl
    rw [failed?, rest?_of h, Option.bind_some, Scanner.retire, if_pos hlength]
    split
    · simp only [of, set_flags]
    · rfl

/-! ## Changes of state -/

theorem currentDetour_of (t : Table) (s : Scanner) :
    (of t s).currentDetour = ofDetour s.currentDetour := by
  simp only [currentDetour, of, Scanner.currentDetour]
  cases s.detour with
  | none => rfl
  | some d => exact (apply_ite ofDetour (d.offset = s.offset) d ⟨s.offset, s.stack, 0⟩).symm

/-- The record of the detour is there when a circle is broken. -/
theorem transition?_circle (h : s.Covers text returned) (hrest : s.rest ≠ [])
    (hchanges : t.states.length ≤ s.currentDetour.changes) (action : Action)
    (move : StateStack → StateStack) :
    (of t s).transition? t text action = some (of t (s.change t move)) := by
  have hcovers : Scanner.Covers text returned { s with
      stack := s.currentDetour.arrival, detour := none, log := .circle s.offset :: s.log } :=
    h.of_same rfl rfl rfl rfl
  have hmany : t.states.length < s.currentDetour.changes + 1 := Nat.lt_succ_of_le hchanges
  simp only [transition?, currentDetour_of, ofDetour]
  rw [if_pos hmany, Scanner.change_of_lt move hchanges]
  exact error?_of hcovers hrest

theorem transition?_push (h : s.Covers text returned) (hrest : s.rest ≠ []) (state : Nat) :
    (of t s).transition? t text (.push state) = some (of t (s.change t (·.push state))) := by
  by_cases hchanges : s.currentDetour.changes < t.states.length
  · have hfew : ¬ t.states.length < s.currentDetour.changes + 1 := by omega
    simp only [transition?, currentDetour_of, ofDetour]
    rw [if_neg hfew, Scanner.change_of_le _ hchanges]
    rfl
  · exact transition?_circle h hrest (by omega) _ _

theorem states_pop (stack : StateStack) :
    stack.pop.states = if 1 < stack.states.length then stack.states.tail else stack.states := by
  obtain ⟨top, below⟩ := stack
  cases below with
  | nil => rfl
  | cons state below => simp [StateStack.pop, StateStack.states]

theorem transition?_pop (h : s.Covers text returned) (hrest : s.rest ≠ []) :
    (of t s).transition? t text .pop = some (of t (s.change t (·.pop))) := by
  by_cases hchanges : s.currentDetour.changes < t.states.length
  · have hfew : ¬ t.states.length < s.currentDetour.changes + 1 := by omega
    simp only [transition?, currentDetour_of, ofDetour]
    rw [if_neg hfew, Scanner.change_of_le _ hchanges]
    simp only [of, states_pop]
    rfl
  · exact transition?_circle h hrest (by omega) _ _

/-! ## Tokens of a match -/

/-- Making tokens of the groups of a match is cutting it. -/
theorem pushGroups?_of (h : s.Covers text returned) {m : Pattern.Match}
    (hgroup : ∀ index first last, m.group? index = some (first, last) → last ≤ m.length)
    (hlength : m.length ≤ s.rest.length) (index : Nat) {position : Nat}
    (hposition : position ≤ m.length) (kinds : List Kind) (r : RawScanner) :
    r.pushGroups? text m (byteAfter s.offset s.rest) index (byteAfter s.offset s.rest position) kinds = some { r with
      pending := r.pending ++ Token.ofPieces (byteAfter s.offset s.rest position)
        (Scanner.cutGroups m index position kinds) (s.rest.drop position) } := by
  induction kinds generalizing index position r with
  | nil =>
    simp only [pushGroups?, Scanner.cutGroups, byteAfter_lt_iff _ hlength]
    split
    · next hlt =>
      rw [pushToken?_of h .text hlt hlength, Token.ofPieces_between _ .text (Nat.le_of_lt hlt)]
      rfl
    · simp only [Token.ofPieces, List.append_nil]
  | cons kind kinds ih =>
    rw [pushGroups?, Scanner.cutGroups]
    cases hmatch : m.group? index with
    | none => exact ih _ hposition r
    | some span =>
      obtain ⟨first, last⟩ := span
      have hlast : last ≤ m.length := hgroup _ _ _ hmatch
      -- bytes are compared just as the characters before them are counted
      have hskip : (byteAfter s.offset s.rest last ≤ byteAfter s.offset s.rest first ∨
          byteAfter s.offset s.rest first < byteAfter s.offset s.rest position) ↔
          (last ≤ first ∨ first < position) := by
        rw [byteAfter_lt_iff _ (by omega), ← Nat.not_lt, byteAfter_lt_iff _ (by omega), Nat.not_lt]
      simp only [hskip]
      split
      · exact ih _ hposition r
      next hnot =>
      have hfirst : first < last := by omega
      simp only [byteAfter_lt_iff _ (show first ≤ s.rest.length by omega)]
      split
      · next hlt =>
        rw [pushToken?_of h .text hlt (by omega), Option.bind_some,
          pushToken?_of h kind hfirst (by omega), Option.bind_some, ih _ hlast,
          Token.ofPieces_between _ .text (Nat.le_of_lt hlt), Token.ofPieces_between _ kind (Nat.le_of_lt hfirst)]
        simp only [List.append_assoc, List.cons_append, List.nil_append]
      · next hge =>
        obtain rfl : first = position := by omega
        rw [Option.bind_some, pushToken?_of h kind hfirst (by omega), Option.bind_some, ih _ hlast,
          Token.ofPieces_between _ kind (Nat.le_of_lt hfirst)]
        simp only [List.append_assoc, List.cons_append, List.nil_append]

theorem emit?_of (h : s.Covers text returned) {pattern : Pattern} {m : Pattern.Match}
    (hmatch : pattern.match? s.before.head? s.rest = some m) (hpos : 0 < m.length)
    {emission : Emission}
    (hgroups : ∀ kinds, emission = .groups kinds → pattern.groupCount = kinds.length) :
    (of t s).emit? text pattern m s.rest emission
      = some (of t (s.takeAll (Scanner.cut m emission))) := by
  have hlength := Pattern.match?_length_le hmatch
  cases emission with
  | whole kind => exact take_of h kind hpos hlength
  | groups kinds =>
    have hpush := pushGroups?_of h (fun _ _ _ => Pattern.match?_group_le hmatch) hlength 1
      (Nat.zero_le _) kinds (of t s)
    rw [byteAfter_zero] at hpush
    have hcut : pieceLength (Scanner.cutGroups m 1 0 kinds) = m.length :=
      Scanner.pieceLength_cut hmatch (.groups kinds)
    rw [emit?, if_pos (hgroups kinds rfl), Scanner.takeAll_eq, Scanner.cut, hcut]
    exact congrArg (Option.map _) hpush

/-! ## Steps -/

/-- What became of a rule, in raw form. -/
def ofOutcome (t : Table) : Scanner.Outcome → Bool × RawScanner
  | .used s => (true, of t s)
  | .passed s => (false, of t s)

variable (hsound : t.Sound)
include hsound

theorem attempt?_of (h : s.Covers text returned) (hrest : s.rest ≠ []) {e : Entry}
    (he : e ∈ t.allEntries) :
    (of t s).attempt? t text e = some (ofOutcome t (s.tryEntry t e)) := by
  rw [attempt?, before?_of h, Option.bind_some, List.reverse_reverse, Scanner.tryEntry]
  split
  · rfl
  cases haction : e.action with
  | push state =>
    simp only
    rw [transition?_push h hrest]
    rfl
  | pop =>
    simp only
    rw [transition?_pop h hrest]
    rfl
  | scan pattern opener emission =>
    have hslot : ∀ o, opener = some o → o.slot < t.literalCount := by
      rintro o rfl
      exact hsound.slot_lt he haction
    simp only [mayClose?_of hslot, Option.bind_some]
    split
    · rfl
    rw [rest?_of h, Option.bind_some]
    cases hmatch : pattern.match? s.before.head? s.rest with
    | none =>
      simp only
      rw [failed?_of h hslot]
      rfl
    | some m =>
      simp only
      split
      · rw [failed?_of h hslot]
        rfl
      next hlength =>
      have hgroups : ∀ kinds, emission = .groups kinds → pattern.groupCount = kinds.length := by
        rintro kinds rfl
        exact hsound.groups e he _ _ _ haction
      rw [emit?_of h hmatch (Nat.pos_of_ne_zero hlength) hgroups]
      rfl

theorem attemptAll?_of {es : List Entry} (hes : ∀ e ∈ es, e ∈ t.allEntries)
    (h : s.Covers text returned) (hrest : s.rest ≠ []) :
    (of t s).attemptAll? t text es = some (of t (Scanner.tryEntries t es s)) := by
  induction es generalizing s with
  | nil => exact error?_of h hrest
  | cons e es ih =>
    rw [attemptAll?, attempt?_of hsound h hrest (hes e List.mem_cons_self), Option.bind_some,
      Scanner.tryEntries]
    rcases Scanner.tryEntry_cases s t e with ⟨s', htry, hpass⟩ | ⟨s', htry, -⟩
    · rw [htry]
      have hcovers : s'.Covers text returned :=
        h.of_same hpass.before hpass.rest hpass.offset hpass.pending
      exact ih (fun e' he' => hes e' (List.mem_cons_of_mem _ he')) hcovers (by rwa [hpass.rest])
    · rw [htry]
      rfl

theorem step?_of (h : s.Covers text returned) (hbounds : s.InBounds t) (hrest : s.rest ≠ []) :
    (of t s).step? t text = some (of t (Scanner.step t s)) := by
  have htop : s.stack.top < t.states.length := hbounds.stack _ List.mem_cons_self
  have hstate : t.states[s.stack.top]? = some t.states[s.stack.top] := List.getElem?_eq_getElem htop
  have hentries : t.entries s.stack.top = t.states[s.stack.top].entries := by
    rw [Table.entries, hstate]
  have hhead : (of t s).stack.head? = some s.stack.top := rfl
  rw [step?, hhead, Option.bind_some, hstate, Option.bind_some, Scanner.step, hentries]
  refine attemptAll?_of hsound (fun e he => ?_) h hrest
  rw [← hentries] at he
  exact Table.mem_allEntries he

/-- The loop of `next` never stops for want of a step to make. -/
theorem nextWithin?_of {input : String} {past : List Scanner} (hrun : Scanner.Run t input (s :: past))
    {count steps : Nat} {result : Option Token × Scanner}
    (hreturns : Scanner.Returns t s count result) (hcount : count ≤ steps) :
    (of t s).nextWithin? t input.toList steps = some (result.1, of t result.2) := by
  induction hreturns generalizing past steps with
  | token hpending =>
    rw [nextWithin?.eq_def]
    simp only [of, hpending]
  | @done s hpending hrest =>
    obtain ⟨returned, hcovers⟩ := Scanner.Covers.run hrun
    have hwhole := hcovers.whole
    rw [hrest, List.append_nil] at hwhole
    -- the raw scanner stops where its offset is the end of the text
    have hend : byteLength input.toList ≤ (of t s).offset := by
      rw [← hwhole, ← hcovers.offset]
      exact Nat.le_refl _
    rw [nextWithin?.eq_def]
    simp only [show (of t s).pending = [] from hpending, if_pos hend]
  | @step s count result hpending hrest hreturns ih =>
    obtain ⟨returned, hcovers⟩ := Scanner.Covers.run hrun
    obtain ⟨steps, rfl⟩ := Nat.exists_eq_add_of_lt (Nat.lt_of_lt_of_le (Nat.succ_pos count) hcount)
    have hmore : ¬ byteLength input.toList ≤ (of t s).offset := by
      rw [← hcovers.whole, byteLength_append, ← hcovers.offset]
      have := byteLength_pos hrest
      change ¬ s.offset + byteLength s.rest ≤ s.offset
      omega
    rw [nextWithin?.eq_def]
    simp only [show (of t s).pending = [] from hpending, if_neg hmore]
    rw [step?_of hsound hcovers (.run hsound hrun) hrest, Option.bind_some]
    exact ih (hrun.move (.step hpending hrest)) (by omega)

end Access

theorem slice?_token {text : List Char} {returned : List Token} {s : Scanner}
    (h : s.Covers text returned) {token : Token} (htoken : token ∈ returned ++ s.pending) :
    slice? text token.offset token.finish = some token.text.toList ∧
      token.offset < token.finish ∧ token.finish ≤ byteLength text := by
  obtain ⟨first, last, hsplit⟩ := List.append_of_mem htoken
  have hrow := h.inRow
  rw [hsplit, Token.InRow.append, Nat.zero_add] at hrow
  obtain ⟨-, hoffset, htext, -⟩ := hrow
  have hwhole : Token.join first ++ (token.text.toList ++ (Token.join last ++ s.rest)) = text := by
    have hjoin : Token.join (token :: last) = token.text.toList ++ Token.join last := rfl
    rw [← h.whole, ← h.scanned, hsplit, Token.join_append, hjoin, List.append_assoc,
      List.append_assoc]
  have hslice := slice?_append (Token.join first) token.text.toList (Token.join last ++ s.rest)
  have hpos := byteLength_text_pos htext
  have hlength := congrArg byteLength hwhole
  rw [byteLength_append, byteLength_append] at hlength
  rw [hwhole, ← hoffset] at hslice
  rw [Token.finish]
  exact ⟨hslice, by omega, by omega⟩

/-- **Scanning reaches for nothing that is not there.** Over a table that was built, wherever a run
comes to: there is a state on the stack, and all states on it or entered by a rule are states of the
table; the rules for literals are those of the table's source, each with a number of its own that has
a flag; a rule with a token for each group has a kind for each; the text so far, the text to come and
the texts of the tokens lie between bytes where characters begin; and the raw scanner starts as the
scanner does, makes each step and finds each token that the scanner does. -/
theorem next_never_fails {specs : List StateSpec} {t : Table} (hbuild : Table.build specs = .ok t)
    {input : String} {s : Scanner} {past : List Scanner} (hrun : Scanner.Run t input (s :: past)) :
    let r := of t s
    of t (.start t input) = start t ∧
      (r.stack ≠ [] ∧ ∀ state ∈ r.stack, state < t.states.length) ∧
      (∀ e ∈ t.allEntries, ∀ state, e.action = .push state → state < t.states.length) ∧
      (t.allEntries.map (·.opener?.map (·.text)) = (specs.flatMap (·.rules)).map Rule.opener? ∧
        (t.allEntries.filterMap Entry.slot?).Nodup ∧
        ∀ slot ∈ t.allEntries.filterMap Entry.slot?, slot < r.unclosed.length) ∧
      (∀ e ∈ t.allEntries, ∀ pattern opener kinds,
        e.action = .scan pattern opener (.groups kinds) → kinds.length = pattern.groupCount) ∧
      (r.before? input.toList = some s.before.reverse ∧ r.rest? input.toList = some s.rest ∧
        ∀ token ∈ r.pending, slice? input.toList token.offset token.finish = some token.text.toList ∧
          token.offset < token.finish ∧ token.finish ≤ byteLength input.toList) ∧
      (s.rest ≠ [] → r.step? t input.toList = some (of t (Scanner.step t s))) ∧
      r.nextWithin? t input.toList (t.states.length + 1)
        = some ((s.next t).1, of t (s.next t).2) := by
  intro r
  have hsound := Table.sound_of_build hbuild
  have hbounds := Scanner.InBounds.run hsound hrun
  obtain ⟨returned, hcovers⟩ := Scanner.Covers.run hrun
  obtain ⟨count, hcount, hreturns⟩ := Scanner.returns_next t s
  refine ⟨of_start t input, ⟨List.cons_ne_nil _ _, hbounds.stack⟩, hsound.target,
    ⟨Table.openers_of_build hbuild, ?_, fun slot hslot => ?_⟩,
    fun e he pattern opener kinds haction => (hsound.groups e he _ _ _ haction).symm,
    ⟨before?_of hcovers, rest?_of hcovers, fun token htoken => ?_⟩,
    fun hrest => step?_of hsound hcovers hbounds hrest, nextWithin?_of hsound hrun hreturns hcount⟩
  · rw [hsound.slots]
    exact List.nodup_range
  · rw [hsound.slots] at hslot
    exact Nat.lt_of_lt_of_eq (List.mem_range.mp hslot) (length_unclosed t s).symm
  · exact slice?_token hcovers (List.mem_append_right _ htoken)

/-- A table with literals, groups and two states. -/
def nestedSpecs : List StateSpec := [
  ⟨"root", [.delimited "/*" "*/" .commentMultiline, .groups "(a)(b)?" [.keyword, .name],
    .push "string"]⟩,
  ⟨"string", [.quoted '"' '\\' .string, .pop]⟩]

/-- What `nestedSpecs` is built into. -/
def nestedTable : Table := ⟨[
  ⟨"root", [
    ⟨{}, .scan (.ofNode (Pattern.delimitedNode ['/', '*'] ['*', '/'])) (some ⟨"/*", 0⟩)
      (.whole .commentMultiline)⟩,
    ⟨{}, .scan (.ofNode (.ofSeq [.group 1 (.one (.single 'a')),
      .repeated (.group 2 (.one (.single 'b'))) 0 (some 1) true])) none (.groups [.keyword, .name])⟩,
    ⟨{}, .push 1⟩]⟩,
  ⟨"string", [
    ⟨{}, .scan (.ofNode (Pattern.quotedNode '"' '\\')) (some ⟨"\"", 1⟩) (.whole .string)⟩,
    ⟨{}, .pop⟩]⟩], 0⟩

theorem next_never_fails_nestedTable :
    let s := Scanner.step nestedTable (.start nestedTable "\"\"ab/**/")
    Table.build nestedSpecs = .ok nestedTable ∧
      Scanner.Run nestedTable "\"\"ab/**/" [s, .start nestedTable "\"\"ab/**/"] ∧
      (of nestedTable s).stack = [1, 0] ∧ (∀ state ∈ (of nestedTable s).stack, state < 2) ∧
      (of nestedTable s).nextWithin? nestedTable "\"\"ab/**/".toList 3
        = some ((s.next nestedTable).1, of nestedTable (s.next nestedTable).2) := by
  intro s
  have hbuild : Table.build nestedSpecs = .ok nestedTable := rfl
  have hrun : Scanner.Run nestedTable "\"\"ab/**/" [s, .start nestedTable "\"\"ab/**/"] :=
    Scanner.Run.start.move (.step rfl (by decide))
  obtain ⟨-, ⟨-, hstack⟩, -, -, -, -, -, hnext⟩ := next_never_fails hbuild hrun
  exact ⟨hbuild, hrun, rfl, hstack, hnext⟩

end RawScanner
end TableLexer
