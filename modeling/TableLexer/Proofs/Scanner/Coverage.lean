import TableLexer.Proofs.Scanner.Progress

/-!
# Scanning loses nothing

`session_lossless`: whatever is asked of a scanner, the tokens handed out and those that wait make up
exactly the input before the offset, the text to come is exactly the input from the offset on, the
tokens follow one another without gap or overlap, and a scanner that has no more tokens has handed
out the whole input.

Proof. `Covers` is kept by every step: whatever a step takes, it takes from the start of the text to
come, puts it into one token, and moves the offset by its bytes (`Covers.take`). The tokens handed
out and those that wait are one list that is only ever added to at its end, so that handing out a
token changes nothing (`Covers.handOut`).
-/

namespace TableLexer

/-! ## Positions given by bytes -/

/-- The parts of a text before and after a byte, if a character begins or the text ends there. -/
def splitAtByte : List Char → Nat → Option (List Char × List Char)
  | cs, 0 => some ([], cs)
  | [], _ + 1 => none
  | c :: cs, n + 1 =>
    if c.utf8Size ≤ n + 1 then
      (splitAtByte cs (n + 1 - c.utf8Size)).map fun parts => (c :: parts.1, parts.2)
    else none

theorem splitAtByte_append (a b : List Char) : splitAtByte (a ++ b) (byteLength a) = some (a, b) := by
  induction a with
  | nil => simp [splitAtByte]
  | cons c a ih =>
    have hc : 0 < c.utf8Size := c.utf8Size_pos
    obtain ⟨n, hn⟩ : ∃ n, byteLength (c :: a) = n + 1 := ⟨byteLength (c :: a) - 1, by
      rw [byteLength_cons]; omega⟩
    rw [hn, List.cons_append, splitAtByte, ← hn, byteLength_cons, if_pos (Nat.le_add_right _ _),
      Nat.add_sub_cancel_left, ih]
    rfl

theorem byteLength_pos {cs : List Char} (h : cs ≠ []) : 0 < byteLength cs := by
  cases cs with
  | nil => exact absurd rfl h
  | cons c cs =>
    rw [byteLength_cons]
    have := c.utf8Size_pos
    omega

/-! ## Tokens in a row -/

/-- The tokens are not empty and follow one another without gap or overlap from an offset on. -/
def Token.InRow : Nat → List Token → Prop
  | _, [] => True
  | offset, t :: ts => t.offset = offset ∧ t.text ≠ "" ∧ InRow t.finish ts

theorem Token.InRow.append {ts us : List Token} {offset : Nat} :
    InRow offset (ts ++ us) ↔ InRow offset ts ∧ InRow (offset + byteLength (join ts)) us := by
  induction ts generalizing offset with
  | nil => simp [InRow, join]
  | cons t ts ih =>
    have hjoin : join (t :: ts) = t.text.toList ++ join ts := rfl
    simp only [List.cons_append, InRow, ih, hjoin, byteLength_append, Token.finish]
    constructor
    · rintro ⟨rfl, htext, hts, hus⟩
      exact ⟨⟨rfl, htext, hts⟩, by rwa [← Nat.add_assoc]⟩
    · rintro ⟨⟨rfl, htext, hts⟩, hus⟩
      exact ⟨rfl, htext, hts, by rwa [Nat.add_assoc]⟩

theorem Token.InRow.mem {ts : List Token} {offset : Nat} (h : InRow offset ts) :
    ∀ t ∈ ts, t.text ≠ "" ∧ offset ≤ t.offset := by
  induction ts generalizing offset with
  | nil => exact fun t ht => absurd ht List.not_mem_nil
  | cons u ts ih =>
    obtain ⟨rfl, htext, hts⟩ := h
    intro t ht
    rcases List.mem_cons.mp ht with rfl | ht
    · exact ⟨htext, Nat.le_refl _⟩
    · obtain ⟨htext', hle⟩ := ih hts t ht
      exact ⟨htext', by rw [Token.finish] at hle; omega⟩

theorem byteLength_text_pos {t : Token} (h : t.text ≠ "") : 0 < byteLength t.text.toList :=
  byteLength_pos fun hnil => h (String.toList_eq_nil_iff.mp hnil)

theorem Token.InRow.pairwise {ts : List Token} {offset : Nat} (h : InRow offset ts) :
    ts.Pairwise (·.offset < ·.offset) := by
  induction ts generalizing offset with
  | nil => exact .nil
  | cons t ts ih =>
    obtain ⟨rfl, htext, hts⟩ := h
    refine .cons (fun u hu => ?_) (ih hts)
    have hpos := byteLength_text_pos htext
    have hle := (hts.mem u hu).2
    rw [Token.finish] at hle
    omega

namespace Scanner

/-! ## The invariant -/

/-- What has been handed out and what waits make up what was scanned of the input. -/
structure Covers (text : List Char) (returned : List Token) (s : Scanner) : Prop where
  whole : s.before.reverse ++ s.rest = text
  scanned : Token.join (returned ++ s.pending) = s.before.reverse
  offset : s.offset = byteLength s.before.reverse
  inRow : Token.InRow 0 (returned ++ s.pending)

namespace Covers
variable {text : List Char} {returned : List Token} {s s' : Scanner}

theorem start (t : Table) (input : String) :
    Covers input.toList [] (Scanner.start t input) :=
  ⟨rfl, rfl, rfl, trivial⟩

theorem take (h : Covers text returned s) (kind : Kind) {count : Nat} (hcount : 0 < count)
    (hrest : s.rest ≠ []) : Covers text returned (s.take kind count) := by
  have htaken : s.rest.take count ≠ [] := by
    rw [Ne, List.take_eq_nil_iff]
    rintro (hzero | hnil)
    · omega
    · exact hrest hnil
  refine ⟨?_, ?_, ?_, ?_⟩
  · simp only [Scanner.take, List.reverse_append, List.reverse_reverse, List.append_assoc,
      List.take_append_drop]
    exact h.whole
  · simp only [Scanner.take, ← List.append_assoc, Token.join_append, List.reverse_append,
      List.reverse_reverse]
    rw [← Token.join_append, h.scanned]
    simp [Token.join]
  · simp only [Scanner.take, List.reverse_append, List.reverse_reverse, byteLength_append, h.offset]
  · simp only [Scanner.take, ← List.append_assoc]
    rw [Token.InRow.append]
    refine ⟨h.inRow, ?_, ?_, trivial⟩
    · rw [h.scanned, h.offset, Nat.zero_add]
    · intro hempty
      exact htaken (String.ofList_eq_empty_iff.mp hempty)

theorem takeAll (h : Covers text returned s) {pieces : List (Kind × Nat)}
    (hpos : ∀ piece ∈ pieces, 0 < piece.2) (hlength : pieceLength pieces ≤ s.rest.length) :
    Covers text returned (s.takeAll pieces) := by
  induction pieces generalizing s with
  | nil => exact h
  | cons piece pieces ih =>
    rw [pieceLength_cons] at hlength
    have hpiece := hpos piece List.mem_cons_self
    have hrest : s.rest ≠ [] := fun hnil => by rw [hnil, List.length_nil] at hlength; omega
    refine ih (h.take piece.1 hpiece hrest) (fun p hp => hpos p (List.mem_cons_of_mem _ hp)) ?_
    simp only [Scanner.take, List.length_drop]
    omega

theorem takeError (h : Covers text returned s) (hrest : s.rest ≠ []) :
    Covers text returned s.takeError :=
  h.take .error (Unicode.Grapheme.firstLength_pos hrest) hrest

/-- Only what was scanned and what waits matters. -/
theorem of_same (h : Covers text returned s) (hbefore : s'.before = s.before)
    (hrest : s'.rest = s.rest) (hoffset : s'.offset = s.offset) (hpending : s'.pending = s.pending) :
    Covers text returned s' := by
  refine ⟨?_, ?_, ?_, ?_⟩
  · rw [hbefore, hrest, h.whole]
  · rw [hbefore, hpending, h.scanned]
  · rw [hbefore, hoffset, h.offset]
  · rw [hpending]
    exact h.inRow

theorem change (h : Covers text returned s) (t : Table) (move : StateStack → StateStack)
    (hrest : s.rest ≠ []) : Covers text returned (s.change t move) := by
  simp only [Scanner.change]
  split
  · refine takeError (s := { s with stack := _, detour := _, log := _ }) ?_ hrest
    exact h.of_same rfl rfl rfl rfl
  · exact h.of_same rfl rfl rfl rfl

theorem step (h : Covers text returned s) (t : Table) (hrest : s.rest ≠ []) :
    Covers text returned (Scanner.step t s) := by
  obtain ⟨s', hpass, heffect⟩ := step_effect t s
  have h' : Covers text returned s' :=
    h.of_same hpass.before hpass.rest hpass.offset hpass.pending
  have hrest' : s'.rest ≠ [] := by rwa [hpass.rest]
  generalize Scanner.step t s = after at heffect
  cases heffect with
  | error => exact h'.takeError hrest'
  | push he hallows haction => exact h'.change t _ hrest'
  | pop he hallows haction => exact h'.change t _ hrest'
  | scan he hallows haction hmatch hpos =>
    refine h'.takeAll (cut_pos hpos _) ?_
    rw [pieceLength_cut hmatch]
    exact Pattern.match?_length_le hmatch

theorem handOut {token : Token} {pending : List Token} (h : Covers text returned s)
    (hpending : s.pending = token :: pending) :
    Covers text (returned ++ [token]) { s with pending } := by
  have hsame : returned ++ [token] ++ pending = returned ++ s.pending := by
    rw [hpending, List.append_assoc]; rfl
  refine ⟨h.whole, ?_, h.offset, ?_⟩
  · rw [hsame]
    exact h.scanned
  · rw [hsame]
    exact h.inRow

theorem run {t : Table} {input : String} {past : List Scanner} (h : Run t input (s :: past)) :
    ∃ returned, Covers input.toList returned s := by
  refine Run.invariant (P := fun s => ∃ returned, Covers input.toList returned s)
    ⟨[], .start t input⟩ (fun ⟨returned, hcovers⟩ hmove => ?_) h
  cases hmove with
  | handOut hpending => exact ⟨_, hcovers.handOut hpending⟩
  | step _ hrest => exact ⟨returned, hcovers.step t hrest⟩

theorem returned_eq (h : Covers text returned s) (hpending : s.pending = []) (hrest : s.rest = []) :
    Token.join returned = text := by
  rw [← h.whole, ← h.scanned, hpending, hrest, List.append_nil, List.append_nil]

theorem eq_nil_of_returned (h : Covers text returned s) (hreturned : Token.join returned = text) :
    s.pending = [] ∧ s.rest = [] := by
  have hscanned := h.scanned
  have hwhole := h.whole
  rw [Token.join_append] at hscanned
  rw [← hscanned, List.append_assoc, hreturned] at hwhole
  obtain ⟨hjoin, hrest⟩ := List.append_eq_nil_iff.mp (List.append_right_eq_self.mp hwhole)
  refine ⟨?_, hrest⟩
  cases hpending : s.pending with
  | nil => rfl
  | cons token pending =>
    have hrow := (Token.InRow.append.mp h.inRow).2.mem token (by rw [hpending]; exact List.mem_cons_self)
    rw [hpending] at hjoin
    exact absurd (String.toList_eq_nil_iff.mp (List.append_eq_nil_iff.mp hjoin).1) hrow.1

theorem returns (h : Covers text returned s) {t : Table} {count : Nat}
    {result : Option Token × Scanner} (hreturns : Returns t s count result) :
    Covers text (returned ++ result.1.toList) result.2 ∧
      (result.1 = none → result.2.pending = [] ∧ result.2.rest = []) ∧
      s.offset ≤ result.2.offset := by
  induction hreturns with
  | token hpending =>
    exact ⟨h.handOut hpending, fun hnone => (nomatch hnone), Nat.le_refl _⟩
  | done hpending hrest =>
    refine ⟨?_, fun _ => ⟨hpending, hrest⟩, Nat.le_refl _⟩
    rw [Option.toList_none, List.append_nil]
    exact h
  | step hpending hrest hreturns ih =>
    obtain ⟨hcovers, hnone, hoffset⟩ := ih (h.step _ hrest)
    refine ⟨hcovers, hnone, Nat.le_trans ?_ hoffset⟩
    rcases step_progress _ hrest with ⟨-, hlt, -⟩ | ⟨-, -, heq, -⟩
    · exact Nat.le_of_lt hlt
    · exact Nat.le_of_eq heq.symm

theorem next (h : Covers text returned s) (t : Table) :
    Covers text (returned ++ (s.next t).1.toList) (s.next t).2 ∧
      ((s.next t).1 = none → (s.next t).2.pending = [] ∧ (s.next t).2.rest = []) ∧
      s.offset ≤ (s.next t).2.offset :=
  have ⟨_, _, hreturns⟩ := returns_next t s
  h.returns hreturns

theorem next_eq_none_iff (h : Covers text returned s) (t : Table) :
    (s.next t).1 = none ↔ Token.join returned = text := by
  obtain ⟨hcovers, hdone, -⟩ := h.next t
  constructor
  · intro hnone
    obtain ⟨hpending, hrest⟩ := hdone hnone
    rw [hnone, Option.toList_none, List.append_nil] at hcovers
    exact hcovers.returned_eq hpending hrest
  · intro hreturned
    obtain ⟨hpending, hrest⟩ := h.eq_nil_of_returned hreturned
    rw [Scanner.next, nextWithin_of_done t _ hpending hrest]

end Covers

end Scanner

/-! ## Sessions -/

/-- What can be asked of a scanner. -/
inductive Call
  | next | offset | rest
deriving DecidableEq, Repr

/-- What a scanner answers. -/
inductive Answer
  | token (t : Option Token)
  | offset (n : Nat)
  | rest (text : List Char)
deriving DecidableEq, Repr

/-- A scanner with the tokens that it has handed out so far, in order. -/
structure Session where
  scanner : Scanner
  returned : List Token

namespace Session

/-- A session on an input at its start. -/
def start (t : Table) (input : String) : Session := ⟨.start t input, []⟩

/-- The answer to a call and the session after it. -/
def call (t : Table) (x : Session) : Call → Answer × Session
  | .next =>
    let (token, scanner) := x.scanner.next t
    (.token token, ⟨scanner, x.returned ++ token.toList⟩)
  | .offset => (.offset x.scanner.offset, x)
  | .rest => (.rest x.scanner.rest, x)

/-- The session after a sequence of calls. -/
def after (t : Table) (x : Session) (calls : List Call) : Session :=
  calls.foldl (fun x c => (x.call t c).2) x

/-- What has been handed out and what waits make up what was scanned. -/
def Covers (text : List Char) (x : Session) : Prop := Scanner.Covers text x.returned x.scanner

variable {text : List Char} {x : Session}

theorem Covers.call (h : Covers text x) (t : Table) (c : Call) :
    Covers text (x.call t c).2 ∧ x.scanner.offset ≤ (x.call t c).2.scanner.offset := by
  cases c with
  | next =>
    obtain ⟨hcovers, -, hoffset⟩ := Scanner.Covers.next h t
    exact ⟨hcovers, hoffset⟩
  | offset => exact ⟨h, Nat.le_refl _⟩
  | rest => exact ⟨h, Nat.le_refl _⟩

theorem Covers.after (h : Covers text x) (t : Table) (calls : List Call) :
    Covers text (x.after t calls) ∧ x.scanner.offset ≤ (x.after t calls).scanner.offset := by
  induction calls generalizing x with
  | nil => exact ⟨h, Nat.le_refl _⟩
  | cons c calls ih =>
    obtain ⟨hcovers, hoffset⟩ := h.call t c
    obtain ⟨hcovers', hoffset'⟩ := ih hcovers
    exact ⟨hcovers', Nat.le_trans hoffset hoffset'⟩

theorem returned_prefix_after (t : Table) (x : Session) (calls : List Call) :
    x.returned <+: (x.after t calls).returned := by
  induction calls generalizing x with
  | nil => exact List.prefix_refl _
  | cons c calls ih =>
    refine List.IsPrefix.trans ?_ (ih (x.call t c).2)
    cases c with
    | next => exact List.prefix_append _ _
    | offset => exact List.prefix_refl _
    | rest => exact List.prefix_refl _

theorem Covers.splitAtByte (h : Covers text x) : splitAtByte text x.scanner.offset
    = some (Token.join x.returned ++ Token.join x.scanner.pending, x.scanner.rest) := by
  rw [← Token.join_append, h.scanned, h.offset, ← h.whole]
  exact splitAtByte_append _ _

/-- A token that was handed out begins where those before it end. -/
theorem Covers.token (h : Covers text x) {before after : List Token} {token : Token}
    (hreturned : x.returned = before ++ token :: after) :
    token.text ≠ "" ∧ token.offset = byteLength (Token.join before) := by
  have hrow := (Token.InRow.append.mp h.inRow).1
  rw [hreturned, Token.InRow.append] at hrow
  obtain ⟨-, hoffset, htext, -⟩ := hrow
  exact ⟨htext, by rw [hoffset, Nat.zero_add]⟩

/-- **Scanning loses nothing**, after any sequence of calls: the offset splits the input into the
tokens so far, waiting ones included, and the text to come; every token handed out is not empty and
begins where those before it end; the offset never goes back; and there is no next token exactly
when the whole input has been handed out, which then stays so. -/
theorem session_lossless (t : Table) (input : String) (calls : List Call) :
    let x := (start t input).after t calls
    (∃ offset rest, (x.call t .offset).1 = .offset offset ∧ (x.call t .rest).1 = .rest rest ∧
        TableLexer.splitAtByte input.toList offset
          = some (Token.join x.returned ++ Token.join x.scanner.pending, rest)) ∧
      (∀ before token after, x.returned = before ++ token :: after →
        token.text ≠ "" ∧ token.offset = byteLength (Token.join before)) ∧
      x.returned.Pairwise (·.offset < ·.offset) ∧
      (∀ more, x.scanner.offset ≤ (x.after t more).scanner.offset) ∧
      ((x.call t .next).1 = .token none ↔ Token.join x.returned = input.toList) ∧
      ((x.call t .next).1 = .token none →
        ∀ more, ((x.after t more).call t .next).1 = .token none) := by
  intro x
  have hstart : Covers input.toList (start t input) := Scanner.Covers.start t input
  have h : Covers input.toList x := (hstart.after t calls).1
  have hnext {y : Session} (hy : Covers input.toList y) :
      (y.call t .next).1 = .token none ↔ Token.join y.returned = input.toList := by
    rw [← hy.next_eq_none_iff t]
    exact ⟨fun h => Answer.token.inj h, congrArg Answer.token⟩
  refine ⟨⟨_, _, rfl, rfl, h.splitAtByte⟩, fun _ _ _ => h.token, ?_, fun more => (h.after t more).2,
    hnext h, fun hnone more => ?_⟩
  · exact (Token.InRow.append.mp h.inRow).1.pairwise
  · have hmore := (h.after t more).1
    rw [hnext hmore]
    -- what was handed out later comes after the whole input, so it is nothing
    obtain ⟨later, hlater⟩ := returned_prefix_after t x more
    have hwhole := hmore.whole
    have hscanned := hmore.scanned
    rw [← hlater, Token.join_append, Token.join_append, (hnext h).mp hnone] at hscanned
    rw [← hscanned, List.append_assoc, List.append_assoc, List.append_right_eq_self] at hwhole
    rw [← hlater, Token.join_append, (hnext h).mp hnone, (List.append_eq_nil_iff.mp hwhole).1,
      List.append_nil]

end Session

end TableLexer
