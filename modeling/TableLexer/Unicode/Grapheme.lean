import TableLexer.Unicode.Grapheme.Class

/-!
# Graphemes

What a reader takes for one character may be several: a letter with its marks, a Hangul syllable,
a flag, a family of emoji. `Grapheme.firstLength` counts the characters of the first grapheme of a
text by the rules of extended grapheme clusters. Line feed is joined to no character before it but a
carriage return, which is `joins_lineFeed`.
-/

namespace TableLexer.Unicode.Grapheme

/-- The break class of a character. -/
inductive Class
  | carriageReturn | lineFeed | control | extend | joiner | regional | prepended | spacing
  | leading | vowel | trailing | openSyllable | closedSyllable | other
deriving DecidableEq, Repr

/-- Whether nothing is joined on either side of the class. -/
def Class.isControl : Class → Bool
  | .carriageReturn | .lineFeed | .control => true
  | _ => false

/-- The class of a character; most of ASCII is decided without the tables. -/
def classOf (c : Char) : Class :=
  if c = '\n' then .lineFeed
  else if c = '\r' then .carriageReturn
  else if ' ' ≤ c ∧ c ≤ '~' then .other
  else if control.contains c then .control
  else if extend.contains c then .extend
  else if joiner.contains c then .joiner
  else if regionalIndicator.contains c then .regional
  else if prepended.contains c then .prepended
  else if spacingMark.contains c then .spacing
  else if leadingJamo.contains c then .leading
  else if vowelJamo.contains c then .vowel
  else if trailingJamo.contains c then .trailing
  else if openSyllable.contains c then .openSyllable
  else if closedSyllable.contains c then .closedSyllable
  else .other

/-- How far a pictograph has been followed by extenders and then a joiner. -/
inductive EmojiState
  | none | pictograph | joined
deriving DecidableEq

/-- How far a consonant has been followed by extenders and at least one linker. -/
inductive ConjunctState
  | none | consonant | linked
deriving DecidableEq

/-- What the rules need to know of the grapheme so far. -/
structure Context where
  last : Class
  /-- Whether an odd number of regional indicators ends the grapheme. -/
  oddRegional : Bool
  emoji : EmojiState
  conjunct : ConjunctState

/-- The emoji state after a further character. -/
def EmojiState.next (s : EmojiState) (c : Char) (k : Class) : EmojiState :=
  if pictographic.contains c then .pictograph
  else match s, k with
    | .pictograph, .extend => .pictograph
    | .pictograph, .joiner => .joined
    | _, _ => .none

/-- The conjunct state after a further character. -/
def ConjunctState.next (s : ConjunctState) (c : Char) : ConjunctState :=
  if conjunctConsonant.contains c then .consonant
  else match s with
    | .none => .none
    | s =>
      if conjunctLinker.contains c then .linked
      else if conjunctExtend.contains c then s
      else .none

/-- The context after the first character of a grapheme. -/
def Context.start (c : Char) : Context :=
  let k := classOf c
  { last := k
    oddRegional := k = .regional
    emoji := EmojiState.none.next c k
    conjunct := ConjunctState.none.next c }

/-- The context after a further character. -/
def Context.push (x : Context) (c : Char) : Context :=
  let k := classOf c
  { last := k
    oddRegional := k = .regional && !x.oddRegional
    emoji := x.emoji.next c k
    conjunct := x.conjunct.next c }

/-- Whether a character belongs to the grapheme before it. -/
def Context.joins (x : Context) (c : Char) : Bool :=
  match x.last, classOf c with
  | .carriageReturn, .lineFeed => true
  | p, k =>
    if p.isControl || k.isControl then false
    else match p, k with
      | .leading, .leading | .leading, .vowel => true
      | .leading, .openSyllable | .leading, .closedSyllable => true
      | .openSyllable, .vowel | .openSyllable, .trailing => true
      | .vowel, .vowel | .vowel, .trailing => true
      | .closedSyllable, .trailing | .trailing, .trailing => true
      | _, .extend | _, .joiner | _, .spacing => true
      | .prepended, _ => true
      | _, _ =>
        (x.conjunct = .linked && conjunctConsonant.contains c)
          || (x.emoji = .joined && pictographic.contains c)
          || (x.oddRegional && k = .regional)

/-- The number of characters at the start of a text that join the grapheme before it. -/
def followers : Context → List Char → Nat
  | _, [] => 0
  | x, c :: cs => if x.joins c then followers (x.push c) cs + 1 else 0

/-- The number of characters in the first grapheme of a text. -/
def firstLength : List Char → Nat
  | [] => 0
  | c :: cs => followers (.start c) cs + 1

theorem followers_le (x : Context) (cs : List Char) : followers x cs ≤ cs.length := by
  induction cs generalizing x with
  | nil => simp [followers]
  | cons c cs ih =>
    simp only [followers, List.length_cons]
    split
    · exact Nat.succ_le_succ (ih _)
    · exact Nat.zero_le _

theorem firstLength_le (cs : List Char) : firstLength cs ≤ cs.length := by
  cases cs with
  | nil => simp [firstLength]
  | cons c cs => simpa [firstLength] using followers_le (.start c) cs

theorem firstLength_pos {cs : List Char} (h : cs ≠ []) : 0 < firstLength cs := by
  cases cs with
  | nil => exact absurd rfl h
  | cons c cs => simp [firstLength]

theorem joins_lineFeed (x : Context) : x.joins '\n' = true ↔ x.last = .carriageReturn := by
  obtain ⟨last, a, b, c⟩ := x
  have h : classOf '\n' = .lineFeed := rfl
  cases last <;> simp [Context.joins, h, Class.isControl]

theorem classOf_ne_carriageReturn {c : Char} (h : c ≠ '\r') : classOf c ≠ .carriageReturn := by
  have hite {p : Prop} [Decidable p] {k k' : Class} (hk : k ≠ .carriageReturn) (hk' : k' ≠ .carriageReturn) :
      (if p then k else k') ≠ .carriageReturn := by
    split
    · exact hk
    · exact hk'
  rw [classOf, if_neg h]
  repeat' apply hite
  all_goals decide

theorem not_joins_carriageReturn (x : Context) {c : Char} (h : classOf c = .carriageReturn) : x.joins c = false := by
  obtain ⟨last, a, b, d⟩ := x
  cases last <;> simp [Context.joins, h, Class.isControl]

theorem lineFeed_not_mem_take_followers {x : Context} (h : x.last ≠ .carriageReturn) (cs : List Char) :
    '\n' ∉ cs.take (followers x cs) := by
  induction cs generalizing x with
  | nil => simp
  | cons c cs ih =>
    rw [followers]
    split
    next hjoins =>
      have hclass : classOf c ≠ .carriageReturn := by
        intro hclass
        rw [not_joins_carriageReturn x hclass] at hjoins
        cases hjoins
      rw [List.take_succ_cons, List.mem_cons, not_or]
      constructor
      · rintro rfl
        exact h ((joins_lineFeed x).mp hjoins)
      · exact ih hclass
    next => simp

/-- A grapheme that begins neither with a line feed nor with a carriage return has no line feed in it. -/
theorem lineFeed_not_mem_take_firstLength {c : Char} (hline : c ≠ '\n') (hreturn : c ≠ '\r') (cs : List Char) :
    '\n' ∉ (c :: cs).take (firstLength (c :: cs)) := by
  rw [firstLength, List.take_succ_cons, List.mem_cons, not_or]
  exact ⟨Ne.symm hline, lineFeed_not_mem_take_followers (classOf_ne_carriageReturn hreturn) cs⟩

end TableLexer.Unicode.Grapheme
