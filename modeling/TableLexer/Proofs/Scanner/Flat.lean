import TableLexer.Proofs.Scanner.Coverage

/-!
# Tables that scan in one state

A table is flat if its root does nothing but enter a state whose rules all take matches and are never
retired. Then scanning has no memory but the text: `tokenize_eq_tokensFrom` says that the tokens are
those of `tokensFrom`, which goes from position to position and takes at each what the first rule takes
that takes something (`pieces`).
-/

namespace TableLexer

/-! ## What is taken at a position -/

/-- The pieces that a rule takes at a position, if it takes something. -/
def Entry.pieces? (e : Entry) (before text : List Char) : Option (List (Kind × Nat)) :=
  match e.action with
  | .scan pattern _ emission =>
    if e.guard.allows before then
      match pattern.match? before.head? text with
      | none => none
      | some m => if m.length = 0 then none else some (Scanner.cut m emission)
    else none
  | _ => none

/-- The pieces that some rules take at a position: those of the first rule that takes something, or
one grapheme as an error. -/
def pieces (es : List Entry) (before text : List Char) : List (Kind × Nat) :=
  match es.findSome? (·.pieces? before text) with
  | some ps => ps
  | none => [(.error, Unicode.Grapheme.firstLength text)]

theorem Entry.pieces?_eq_some {e : Entry} {before text : List Char} {ps : List (Kind × Nat)}
    (h : e.pieces? before text = some ps) : ∃ pattern opener emission m,
      e.action = .scan pattern opener emission ∧ e.guard.allows before = true ∧
        pattern.match? before.head? text = some m ∧ 0 < m.length ∧ ps = Scanner.cut m emission := by
  obtain ⟨guard, action⟩ := e
  cases action with
  | push state => cases h
  | pop => cases h
  | scan pattern opener emission =>
    simp only [pieces?] at h
    split at h
    next hallows =>
      split at h
      · cases h
      next m hm =>
      split at h
      · cases h
      next hlength =>
      exact ⟨pattern, opener, emission, m, rfl, hallows, hm, Nat.pos_of_ne_zero hlength,
        (Option.some.inj h).symm⟩
    next => cases h

variable {es : List Entry} {before text : List Char}

theorem pieces_spec (es : List Entry) (before : List Char) (htext : text ≠ []) :
    pieces es before text ≠ [] ∧ (∀ p ∈ pieces es before text, 0 < p.2) ∧
      pieceLength (pieces es before text) ≤ text.length := by
  rw [pieces]
  split
  next ps hps =>
    obtain ⟨e, -, he⟩ := List.exists_of_findSome?_eq_some hps
    obtain ⟨pattern, opener, emission, m, -, -, hm, hpos, rfl⟩ := Entry.pieces?_eq_some he
    refine ⟨Scanner.cut_ne_nil hm hpos emission, Scanner.cut_pos hpos emission, ?_⟩
    rw [Scanner.pieceLength_cut hm]
    exact Pattern.match?_length_le hm
  next =>
    refine ⟨List.cons_ne_nil _ _, fun p hp => ?_, ?_⟩
    · rw [List.mem_singleton.mp hp]
      exact Unicode.Grapheme.firstLength_pos htext
    · rw [pieceLength_cons, pieceLength_nil, Nat.add_zero]
      exact Unicode.Grapheme.firstLength_le text

theorem pieceLength_pos {ps : List (Kind × Nat)} (hne : ps ≠ []) (hpos : ∀ p ∈ ps, 0 < p.2) :
    0 < pieceLength ps := by
  cases ps with
  | nil => exact absurd rfl hne
  | cons p ps =>
    have hp := hpos p List.mem_cons_self
    rw [pieceLength_cons]
    omega

theorem length_le_pieceLength {ps : List (Kind × Nat)} (hpos : ∀ p ∈ ps, 0 < p.2) :
    ps.length ≤ pieceLength ps := by
  induction ps with
  | nil => exact Nat.zero_le _
  | cons p ps ih =>
    have hp := hpos p List.mem_cons_self
    have hps := ih fun q hq => hpos q (List.mem_cons_of_mem _ hq)
    rw [pieceLength_cons, List.length_cons]
    omega

/-! ## Bytes and characters -/

/-- The byte after so many characters of a text that begins at an offset. -/
def byteAfter (offset : Nat) (text : List Char) (count : Nat) : Nat :=
  offset + byteLength (text.take count)

section Bytes
variable (offset : Nat) {text : List Char} {first last : Nat}

theorem byteAfter_zero (text : List Char) : byteAfter offset text 0 = offset := rfl

theorem byteAfter_add (h : first ≤ last) :
    byteAfter offset text first + byteLength ((text.drop first).take (last - first))
      = byteAfter offset text last := by
  obtain ⟨count, rfl⟩ := Nat.exists_eq_add_of_le h
  rw [byteAfter, byteAfter, List.take_add, byteLength_append, Nat.add_sub_cancel_left, Nat.add_assoc]

theorem byteAfter_le (h : first ≤ last) : byteAfter offset text first ≤ byteAfter offset text last := by
  rw [← byteAfter_add offset h]
  omega

theorem byteAfter_lt (h : first < last) (hlast : last ≤ text.length) :
    byteAfter offset text first < byteAfter offset text last := by
  have hpos : 0 < byteLength ((text.drop first).take (last - first)) := by
    refine byteLength_pos fun hnil => ?_
    have hlength := congrArg List.length hnil
    rw [List.length_take, List.length_drop, List.length_nil] at hlength
    omega
  rw [← byteAfter_add offset (Nat.le_of_lt h)]
  omega

theorem byteAfter_lt_iff (hlast : last ≤ text.length) :
    byteAfter offset text first < byteAfter offset text last ↔ first < last := by
  constructor
  · intro h
    refine Nat.lt_of_not_le fun hle => ?_
    exact Nat.not_lt.mpr (byteAfter_le offset hle) h
  · exact fun h => byteAfter_lt offset h hlast

end Bytes

/-! ## The tokens of pieces -/

/-- The tokens that the next pieces of a text make. -/
def Token.ofPieces : Nat → List (Kind × Nat) → List Char → List Token
  | _, [], _ => []
  | offset, p :: ps, text =>
    ⟨p.1, .ofList (text.take p.2), offset⟩ ::
      ofPieces (offset + byteLength (text.take p.2)) ps (text.drop p.2)

/-- The token of the characters between two places of a text that begins at an offset. -/
def Token.between (offset : Nat) (text : List Char) (kind : Kind) (first last : Nat) : Token :=
  ⟨kind, .ofList ((text.drop first).take (last - first)), byteAfter offset text first⟩

theorem Token.ofPieces_between (offset : Nat) {text : List Char} (kind : Kind) {first last : Nat}
    (h : first ≤ last) (ps : List (Kind × Nat)) :
    ofPieces (byteAfter offset text first) ((kind, last - first) :: ps) (text.drop first)
      = between offset text kind first last ::
        ofPieces (byteAfter offset text last) ps (text.drop last) := by
  rw [ofPieces, between]
  simp only
  rw [byteAfter_add offset h, List.drop_drop, Nat.add_sub_cancel' h]

theorem Token.length_ofPieces (offset : Nat) (ps : List (Kind × Nat)) (text : List Char) :
    (ofPieces offset ps text).length = ps.length := by
  induction ps generalizing offset text with
  | nil => rfl
  | cons p ps ih => rw [ofPieces, List.length_cons, List.length_cons, ih]

theorem Token.join_ofPieces (offset : Nat) (ps : List (Kind × Nat)) (text : List Char) :
    join (ofPieces offset ps text) = text.take (pieceLength ps) := by
  induction ps generalizing offset text with
  | nil => simp [ofPieces, join]
  | cons p ps ih =>
    have hjoin : join (ofPieces offset (p :: ps) text) = text.take p.2 ++
        join (ofPieces (offset + byteLength (text.take p.2)) ps (text.drop p.2)) := by
      simp [ofPieces, join]
    rw [hjoin, ih, pieceLength_cons, List.take_add]

theorem Token.inRow_ofPieces (offset : Nat) {ps : List (Kind × Nat)} {text : List Char}
    (hpos : ∀ p ∈ ps, 0 < p.2) (hlength : pieceLength ps ≤ text.length) :
    InRow offset (ofPieces offset ps text) := by
  induction ps generalizing offset text with
  | nil => trivial
  | cons p ps ih =>
    have hp := hpos p List.mem_cons_self
    rw [pieceLength_cons] at hlength
    refine ⟨rfl, ?_, ?_⟩
    · intro hempty
      have htake := congrArg List.length (String.ofList_eq_empty_iff.mp hempty)
      rw [List.length_take, List.length_nil] at htake
      omega
    · rw [Token.finish, String.toList_ofList]
      refine ih _ (fun q hq => hpos q (List.mem_cons_of_mem _ hq)) ?_
      rw [List.length_drop]
      omega

namespace Scanner

theorem takeAll_eq (s : Scanner) (ps : List (Kind × Nat)) : s.takeAll ps = { s with
    before := (s.rest.take (pieceLength ps)).reverse ++ s.before
    rest := s.rest.drop (pieceLength ps)
    offset := s.offset + byteLength (s.rest.take (pieceLength ps))
    pending := s.pending ++ Token.ofPieces s.offset ps s.rest } := by
  induction ps generalizing s with
  | nil => simp [takeAll, Token.ofPieces]
  | cons p ps ih =>
    have hcons : s.takeAll (p :: ps) = (s.take p.1 p.2).takeAll ps := rfl
    rw [hcons, ih, pieceLength_cons, List.take_add, byteLength_append, List.reverse_append]
    simp only [take, Token.ofPieces, List.append_assoc, List.drop_drop, Nat.add_assoc,
      List.cons_append, List.nil_append]

end Scanner

/-! ## Tokens from a position on -/

/-- The number of characters that some rules take at a position. -/
def takenAt (es : List Entry) (before text : List Char) : Nat := pieceLength (pieces es before text)

theorem takenAt_pos (es : List Entry) (before : List Char) (htext : text ≠ []) :
    0 < takenAt es before text :=
  have ⟨hne, hpos, _⟩ := pieces_spec es before htext
  pieceLength_pos hne hpos

/-- The tokens that some rules give from a position on. -/
def tokensFrom (es : List Entry) (before text : List Char) (offset : Nat) : List Token :=
  if _h : text = [] then []
  else
    let count := takenAt es before text
    Token.ofPieces offset (pieces es before text) text ++
      tokensFrom es ((text.take count).reverse ++ before) (text.drop count)
        (offset + byteLength (text.take count))
termination_by text.length
decreasing_by
  have hcount := takenAt_pos es before _h
  have htext := List.length_pos_iff.mpr _h
  rw [List.length_drop]
  omega

theorem tokensFrom_nil (es : List Entry) (before : List Char) (offset : Nat) :
    tokensFrom es before [] offset = [] := by
  rw [tokensFrom.eq_def]
  exact dif_pos rfl

theorem tokensFrom_of_ne (es : List Entry) (before : List Char) (offset : Nat) (htext : text ≠ []) :
    tokensFrom es before text offset = Token.ofPieces offset (pieces es before text) text ++
      tokensFrom es ((text.take (takenAt es before text)).reverse ++ before)
        (text.drop (takenAt es before text))
        (offset + byteLength (text.take (takenAt es before text))) := by
  rw [tokensFrom.eq_def]
  exact dif_neg htext

/-- The tokens from a position on cover the text to come, in a row. -/
theorem tokensFrom_covers (es : List Entry) (before text : List Char) (offset : Nat) :
    Token.join (tokensFrom es before text offset) = text ∧
      Token.InRow offset (tokensFrom es before text offset) := by
  generalize hn : text.length = n
  induction n using Nat.strongRecOn generalizing before text offset with
  | ind n ih =>
    by_cases htext : text = []
    · rw [htext, tokensFrom_nil]
      exact ⟨rfl, trivial⟩
    have hcount := takenAt_pos es before htext
    have hlength := List.length_pos_iff.mpr htext
    obtain ⟨hjoin, hrow⟩ := ih _ (by rw [List.length_drop]; omega)
      ((text.take (takenAt es before text)).reverse ++ before) (text.drop (takenAt es before text))
      (offset + byteLength (text.take (takenAt es before text))) rfl
    obtain ⟨-, hpos, hle⟩ := pieces_spec es before htext
    rw [tokensFrom_of_ne es before offset htext]
    constructor
    · rw [Token.join_append, hjoin, Token.join_ofPieces]
      exact List.take_append_drop _ _
    · rw [Token.InRow.append, Token.join_ofPieces]
      exact ⟨Token.inRow_ofPieces offset hpos hle, hrow⟩

/-! ## Flat tables -/

/-- A rule that takes matches and is never retired. -/
def Entry.Plain (e : Entry) : Prop :=
  ∃ guard pattern emission, e = ⟨guard, .scan pattern none emission⟩

/-- A table whose root does nothing but enter a state whose rules are all plain. -/
structure Table.Flat (t : Table) (base : Nat) (es : List Entry) : Prop where
  size : 0 < t.states.length
  root : t.entries t.root = [⟨{}, .push base⟩]
  base : t.entries base = es
  plain : ∀ e ∈ es, e.Plain

namespace Scanner

theorem tryEntry_plain (s : Scanner) (t : Table) {e : Entry} (h : e.Plain) :
    s.tryEntry t e = match e.pieces? s.before s.rest with
      | some ps => .used (s.takeAll ps)
      | none => .passed s := by
  obtain ⟨guard, pattern, emission, rfl⟩ := h
  cases hallows : guard.allows s.before with
  | false => simp [tryEntry, Entry.pieces?, hallows]
  | true =>
    simp only [tryEntry, Entry.pieces?, hallows, Bool.not_true, Bool.false_eq_true, if_false, if_true,
      mayClose, Option.all_none]
    cases hm : pattern.match? s.before.head? s.rest with
    | none => rfl
    | some m =>
      simp only
      split <;> rfl

theorem tryEntries_plain (t : Table) {es : List Entry} (h : ∀ e ∈ es, e.Plain) (s : Scanner) :
    tryEntries t es s = s.takeAll (pieces es s.before s.rest) := by
  induction es with
  | nil => rfl
  | cons e es ih =>
    rw [tryEntries, tryEntry_plain s t (h e List.mem_cons_self), pieces, List.findSome?_cons]
    cases e.pieces? s.before s.rest with
    | some ps => rfl
    | none => exact ih fun e' he' => h e' (List.mem_cons_of_mem _ he')

section Flat
variable {t : Table} {base : Nat} {es : List Entry} {s : Scanner}

theorem step_flat (h : t.Flat base es) (htop : s.stack.top = base) :
    step t s = s.takeAll (pieces es s.before s.rest) := by
  rw [step, htop, h.base, tryEntries_plain t h.plain]

/-- In the state of the rules, the next token is the first of those at the position. -/
theorem nextWithin_flat (h : t.Flat base es) (htop : s.stack.top = base) (hpending : s.pending = [])
    (hrest : s.rest ≠ []) (steps : Nat) : ∃ token pending,
      Token.ofPieces s.offset (pieces es s.before s.rest) s.rest = token :: pending ∧
        nextWithin t (steps + 1) s =
          (some token, { s.takeAll (pieces es s.before s.rest) with pending }) := by
  obtain ⟨hne, -, -⟩ := pieces_spec es s.before hrest
  obtain ⟨p, ps, hps⟩ := List.exists_cons_of_ne_nil hne
  have htokens : (s.takeAll (pieces es s.before s.rest)).pending
      = Token.ofPieces s.offset (pieces es s.before s.rest) s.rest := by
    rw [takeAll_eq, hpending, List.nil_append]
  refine ⟨_, _, by rw [hps, Token.ofPieces], ?_⟩
  rw [nextWithin_succ t steps hpending hrest, step_flat h htop]
  refine nextWithin_of_pending t steps ?_
  rw [htokens, hps, Token.ofPieces]

theorem drainWithin_flat (h : t.Flat base es) (count : Nat) (found : List Token)
    (htop : s.stack.top = base) (hcount : s.pending.length + s.rest.length < count) :
    (drainWithin t count found s).1 =
      found.reverse ++ (s.pending ++ tokensFrom es s.before s.rest s.offset) := by
  induction count generalizing s found with
  | zero => omega
  | succ count ih =>
    rw [drainWithin, next]
    cases hpending : s.pending with
    | cons token pending =>
      rw [nextWithin_of_pending t _ hpending]
      simp only
      rw [hpending, List.length_cons] at hcount
      refine (ih (s := { s with pending }) (token :: found) htop (by simp only; omega)).trans ?_
      simp only [List.reverse_cons, List.append_assoc, List.cons_append, List.nil_append]
    | nil =>
      by_cases hrest : s.rest = []
      · rw [nextWithin_of_done t _ hpending hrest, hrest, tokensFrom_nil]
        exact (List.append_nil _).symm
      · obtain ⟨token, pending, htokens, hnext⟩ :=
          nextWithin_flat h htop hpending hrest t.states.length
        obtain ⟨-, hpos, hle⟩ := pieces_spec es s.before hrest
        have hlength := congrArg List.length htokens
        rw [Token.length_ofPieces, List.length_cons] at hlength
        have hfew := length_le_pieceLength hpos
        rw [hnext, takeAll_eq, tokensFrom_of_ne es s.before s.offset hrest, htokens, takenAt]
        refine (ih (token :: found) ?_ ?_).trans ?_
        · exact htop
        · simp only [List.length_drop]
          omega
        · simp only [List.reverse_cons, List.append_assoc, List.cons_append, List.nil_append]

/-- If the root only enters a state, the first step does so. -/
theorem step_start (hsize : 0 < t.states.length) (hroot : t.entries t.root = [⟨{}, .push base⟩]) (input : String) :
    step t (start t input) =
      { start t input with stack := ⟨base, [t.root]⟩, detour := some ⟨0, ⟨t.root, []⟩, 1⟩ } := by
  have hentries : t.entries (start t input).stack.top = [⟨{}, .push base⟩] := hroot
  rw [step, hentries]
  exact change_of_le (s := start t input) (·.push base) hsize

theorem next_start (h : t.Flat base es) (input : String) (hinput : input.toList ≠ []) :
    ∃ s : Scanner, s.stack.top = base ∧ s.pending = [] ∧ s.before = [] ∧ s.rest = input.toList ∧
      s.offset = 0 ∧ (start t input).next t = s.next t := by
  obtain ⟨size, hsize⟩ : ∃ size, t.states.length = size + 1 :=
    Nat.exists_eq_add_one.mpr h.size
  let s : Scanner := { start t input with
    stack := ⟨base, [t.root]⟩, detour := some ⟨0, ⟨t.root, []⟩, 1⟩ }
  have hstep : step t (start t input) = s := step_start h.size h.root input
  refine ⟨s, rfl, rfl, rfl, rfl, rfl, ?_⟩
  obtain ⟨token, pending, htokens, hnext⟩ := nextWithin_flat (s := s) h rfl rfl hinput size
  obtain ⟨token', pending', htokens', hnext'⟩ := nextWithin_flat (s := s) h rfl rfl hinput (size + 1)
  rw [htokens] at htokens'
  cases htokens'
  rw [next, nextWithin_succ t _ rfl hinput, hstep, next, hsize, hnext, hnext']

end Flat

end Scanner

/-- **A flat table has no memory but the text**: its tokens are those that its rules give from the
start on. -/
theorem Table.Flat.tokenize_eq {t : Table} {base : Nat} {es : List Entry} (h : t.Flat base es)
    (input : String) : t.tokenize input = tokensFrom es [] input.toList 0 := by
  rw [tokenize, Scanner.drain]
  by_cases hinput : input.toList = []
  · have hdone := Scanner.nextWithin_of_done t (t.states.length + 1) (s := Scanner.start t input) rfl hinput
    rw [Scanner.drainWithin, Scanner.next, hdone, hinput, tokensFrom_nil]
    rfl
  · obtain ⟨s, htop, hpending, hbefore, hrest, hoffset, hnext⟩ := Scanner.next_start h input hinput
    have hdrain : (Scanner.drainWithin t (input.toList.length + 1) [] s).1 = _ :=
      Scanner.drainWithin_flat h _ [] htop (by rw [hpending, hrest, List.length_nil]; omega)
    rw [hpending, hbefore, hrest, hoffset] at hdrain
    have hlength : (Scanner.start t input).pending.length + (Scanner.start t input).rest.length + 1
        = input.toList.length + 1 := congrArg (· + 1) (Nat.zero_add _)
    rw [hlength, Scanner.drainWithin, hnext]
    exact hdrain

end TableLexer
