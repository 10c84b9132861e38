import TableLexer.Proofs.Pattern.Groups
import TableLexer.Proofs.Scanner.Flat
import TableLexer.Proofs.Table.Build

/-!
# The tokens of groups

`tryEntry_groups`: a rule with a kind for each group cuts a match into tokens that follow one another and
make up the match. If the groups come in order (`InOrder`), each group that lies in no group of lower
number makes exactly one token, with its own kind, and all that is outside of the groups is text.

Order is needed: a group that ends before one of lower number begins, as one of an earlier repetition can,
is passed over as if it lay inside, and what it matched is text (`tryEntry_groups_swapped`).

Proof. The groups are gone through by number. The position is where those gone through end (`Reached`), so
a group in order begins at the position or later, or lies inside one gone through. What is between the
position and the next group is outside of all groups, also of those to come (`Reached.outside`).
-/

namespace TableLexer

namespace Pattern.Match

/-- A group that took part in the match and is not empty, and where it begins and ends. -/
def Spans (m : Match) (index first last : Nat) : Prop :=
  m.group? index = some (first, last) ∧ first < last

/-- Each group begins where all groups of lower number have ended, or lies inside one of them. -/
def InOrder (m : Match) : Prop :=
  ∀ index first last, m.Spans index first last →
    (∀ i f l, i < index → m.Spans i f l → l ≤ first) ∨
      ∃ i f l, i < index ∧ m.Spans i f l ∧ f ≤ first ∧ last ≤ l

/-- A part of the match that is outside of all groups. -/
structure Outside (m : Match) (first last : Nat) : Prop where
  lt : first < last
  le : last ≤ m.length
  groups : ∀ i f l, m.Spans i f l → l ≤ first ∨ last ≤ f

/-- The groups below `index` end at `position`, the last of them. -/
structure Reached (m : Match) (index position : Nat) : Prop where
  ended : ∀ i f l, i < index → m.Spans i f l → l ≤ position
  least : ∀ place, (∀ i f l, i < index → m.Spans i f l → l ≤ place) → position ≤ place

variable {m : Match} {index position first last : Nat}

theorem Spans.unique {first' last' : Nat} (h : m.Spans index first last)
    (h' : m.Spans index first' last') : first' = first ∧ last' = last := by
  have heq := h.1.symm.trans h'.1
  cases heq
  exact ⟨rfl, rfl⟩

namespace Reached

theorem start (hnumbers : ∀ i f l, m.Spans i f l → 1 ≤ i) : m.Reached 1 0 :=
  ⟨fun i f l hi hspan => absurd (hnumbers i f l hspan) (by omega), fun _ _ => Nat.zero_le _⟩

theorem pass (h : m.Reached index position) (hpass : ∀ f l, m.Spans index f l → l ≤ position) :
    m.Reached (index + 1) position := by
  refine ⟨fun i f l hi hspan => ?_, fun place hplace => ?_⟩
  · rcases Nat.lt_succ_iff_lt_or_eq.mp hi with hi | rfl
    · exact h.ended i f l hi hspan
    · exact hpass f l hspan
  · exact h.least place fun i f l hi => hplace i f l (Nat.lt_succ_of_lt hi)

theorem take (h : m.Reached index position) (hspan : m.Spans index first last)
    (hle : position ≤ last) : m.Reached (index + 1) last := by
  refine ⟨fun i f l hi hspan' => ?_, fun place hplace => ?_⟩
  · rcases Nat.lt_succ_iff_lt_or_eq.mp hi with hi | rfl
    · exact Nat.le_trans (h.ended i f l hi hspan') hle
    · exact Nat.le_of_eq (hspan.unique hspan').2
  · exact hplace index first last (Nat.lt_succ_self _) hspan

theorem next (h : m.Reached index position) (horder : m.InOrder) (hspan : m.Spans index first last) :
    position ≤ first ∨ ∃ i f l, i < index ∧ m.Spans i f l ∧ f ≤ first ∧ last ≤ l :=
  (horder index first last hspan).imp (h.least first) id

/-- What is between the position and the next group is outside of all groups. -/
theorem outside (h : m.Reached index position) (horder : m.InOrder) (hspan : m.Spans index first last)
    (hlt : position < first) (hle : first ≤ m.length) : m.Outside position first := by
  refine ⟨hlt, hle, fun i => ?_⟩
  -- a group to come begins after this one or lies inside one of lower number
  induction i using Nat.strongRecOn with
  | ind i ih =>
    intro f l hspan'
    by_cases hi : i < index
    · exact .inl (h.ended i f l hi hspan')
    · by_cases heq : i = index
      · subst heq
        exact .inr (Nat.le_of_eq (hspan.unique hspan').1.symm)
      · rcases horder i f l hspan' with hafter | ⟨i', f', l', hi', hspan'', hf, hl⟩
        · have := hafter index first last (by omega) hspan
          have := hspan.2
          exact .inr (by omega)
        · rcases ih i' hi' f' l' hspan'' with hbefore | hafter
          · exact .inl (by omega)
          · exact .inr (by omega)

theorem outside_end (h : m.Reached index position) (hall : ∀ i f l, m.Spans i f l → i < index)
    (hlt : position < m.length) : m.Outside position m.length :=
  ⟨hlt, Nat.le_refl _, fun i f l hspan => .inl (h.ended i f l (hall i f l hspan) hspan)⟩

end Reached

end Pattern.Match

namespace Scanner
open Pattern (Match)

/-! ## Cutting at one group -/

section Cut
variable {m : Match} {index position first last : Nat} {kind : Kind} {kinds : List Kind}

theorem cutGroups_pass (h : ∀ f l, m.Spans index f l → f < position) :
    cutGroups m index position (kind :: kinds) = cutGroups m (index + 1) position kinds := by
  rw [cutGroups]
  cases hgroup : m.group? index with
  | none => rfl
  | some span =>
    obtain ⟨f, l⟩ := span
    refine if_pos ?_
    by_cases hempty : l ≤ f
    · exact .inl hempty
    · exact .inr (h f l ⟨hgroup, by omega⟩)

theorem cutGroups_take (h : m.Spans index first last) (hle : position ≤ first) :
    cutGroups m index position (kind :: kinds) =
      if position < first then
        (.text, first - position) :: (kind, last - first) :: cutGroups m (index + 1) last kinds
      else (kind, last - first) :: cutGroups m (index + 1) last kinds := by
  have hlt := h.2
  rw [cutGroups, h.1]
  exact if_neg (by omega)

end Cut

/-! ## Labels -/

/-- The tokens of the match from a position on, once so many groups have been gone through: each group to
come that lies in no group of lower number has its token, each token is of a group or of what is outside
of all groups, and all that is outside from the position on is in such a token. -/
structure LabelledFrom (offset : Nat) (text : List Char) (m : Match) (kinds : List Kind)
    (done position : Nat) (tokens : List Token) : Prop where
  group : ∀ index first last, done < index → m.Spans index first last →
    (∀ i f l, i < index → m.Spans i f l → ¬ (f ≤ first ∧ last ≤ l)) →
    ∃ kind, kinds[index - 1]? = some kind ∧ .between offset text kind first last ∈ tokens
  only : ∀ token ∈ tokens,
    (∃ index kind first last, kinds[index - 1]? = some kind ∧ m.Spans index first last ∧
      token = .between offset text kind first last) ∨
    ∃ first last, m.Outside first last ∧ token = .between offset text .text first last
  outside : ∀ place, position ≤ place → place < m.length →
    (∀ i f l, m.Spans i f l → place < f ∨ l ≤ place) →
    ∃ first last, m.Outside first last ∧ first ≤ place ∧ place < last ∧
      .between offset text .text first last ∈ tokens

namespace LabelledFrom
variable {offset : Nat} {text : List Char} {m : Match} {kinds : List Kind} {done position : Nat}
  {tokens : List Token}

theorem pass (h : LabelledFrom offset text m kinds (done + 1) position tokens)
    (hinside : ∀ first last, m.Spans (done + 1) first last →
      ∃ i f l, i < done + 1 ∧ m.Spans i f l ∧ f ≤ first ∧ last ≤ l) :
    LabelledFrom offset text m kinds done position tokens := by
  refine ⟨fun index first last hindex hspan houter => ?_, h.only, h.outside⟩
  rcases Nat.lt_or_eq_of_le (Nat.succ_le_of_lt hindex) with hlt | rfl
  · exact h.group index first last hlt hspan houter
  · obtain ⟨i, f, l, hi, hspan', hf, hl⟩ := hinside first last hspan
    exact absurd ⟨hf, hl⟩ (houter i f l hi hspan')

theorem take {first last : Nat} {kind : Kind}
    (h : LabelledFrom offset text m kinds (done + 1) last tokens) (hkind : kinds[done]? = some kind)
    (hspan : m.Spans (done + 1) first last) :
    LabelledFrom offset text m kinds done first (.between offset text kind first last :: tokens) := by
  refine ⟨fun index f l hindex hspan' houter => ?_, fun token htoken => ?_, fun place hfirst hplace hout => ?_⟩
  · rcases Nat.lt_or_eq_of_le (Nat.succ_le_of_lt hindex) with hlt | rfl
    · obtain ⟨kind', hkind', hmem⟩ := h.group index f l hlt hspan' houter
      exact ⟨kind', hkind', List.mem_cons_of_mem _ hmem⟩
    · obtain ⟨rfl, rfl⟩ := hspan.unique hspan'
      exact ⟨kind, hkind, List.mem_cons_self⟩
  · rcases List.mem_cons.mp htoken with rfl | htoken
    · exact .inl ⟨done + 1, kind, first, last, hkind, hspan, rfl⟩
    · exact h.only token htoken
  · have hlast : last ≤ place := (hout _ _ _ hspan).resolve_left (by omega)
    obtain ⟨f, l, houtside, hf, hl, hmem⟩ := h.outside place hlast hplace hout
    exact ⟨f, l, houtside, hf, hl, List.mem_cons_of_mem _ hmem⟩

theorem fill {first : Nat} (h : LabelledFrom offset text m kinds done first tokens)
    (houtside : m.Outside position first) :
    LabelledFrom offset text m kinds done position
      (.between offset text .text position first :: tokens) := by
  refine ⟨fun index f l hindex hspan houter => ?_, fun token htoken => ?_, fun place hposition hplace hout => ?_⟩
  · obtain ⟨kind, hkind, hmem⟩ := h.group index f l hindex hspan houter
    exact ⟨kind, hkind, List.mem_cons_of_mem _ hmem⟩
  · rcases List.mem_cons.mp htoken with rfl | htoken
    · exact .inr ⟨position, first, houtside, rfl⟩
    · exact h.only token htoken
  · by_cases hlt : place < first
    · exact ⟨position, first, houtside, hposition, hlt, List.mem_cons_self⟩
    · obtain ⟨f, l, houtside', hf, hl, hmem⟩ := h.outside place (by omega) hplace hout
      exact ⟨f, l, houtside', hf, hl, List.mem_cons_of_mem _ hmem⟩

theorem nil (hall : ∀ i f l, m.Spans i f l → i ≤ done) :
    LabelledFrom offset text m kinds done m.length [] :=
  ⟨fun index first last hindex hspan => absurd (hall _ _ _ hspan) (by omega),
    fun token htoken => absurd htoken List.not_mem_nil, fun place hposition hplace => absurd hplace (by omega)⟩

/-- The tokens from a position on, when the groups come in order. -/
theorem of_reached (horder : m.InOrder)
    (hwithin : ∀ i f l, m.Spans i f l → i ≤ kinds.length ∧ l ≤ m.length)
    (hreached : m.Reached (done + 1) position) (hposition : position ≤ m.length) :
    LabelledFrom offset text m kinds done position
      (Token.ofPieces (byteAfter offset text position)
        (cutGroups m (done + 1) position (kinds.drop done)) (text.drop position)) := by
  generalize hrest : kinds.drop done = rest
  induction rest generalizing done position with
  | nil =>
    have hlength : kinds.length ≤ done := List.drop_eq_nil_iff.mp hrest
    have hall : ∀ i f l, m.Spans i f l → i ≤ done := fun i f l hspan =>
      Nat.le_trans (hwithin i f l hspan).1 hlength
    rw [cutGroups]
    split
    · next hlt =>
      rw [Token.ofPieces_between offset .text (Nat.le_of_lt hlt)]
      exact (LabelledFrom.nil hall).fill
        (hreached.outside_end (fun i f l hspan => Nat.lt_succ_of_le (hall i f l hspan)) hlt)
    · obtain rfl : position = m.length := by omega
      exact .nil hall
  | cons kind rest ih =>
    have hkind : kinds[done]? = some kind := by
      rw [← List.head?_drop, hrest, List.head?_cons]
    have hrest' : kinds.drop (done + 1) = rest := by
      rw [← List.drop_drop, hrest, List.drop_one, List.tail_cons]
    -- the next group has a token of its own, or it lies inside one gone through
    by_cases hspan : ∃ first last, m.Spans (done + 1) first last ∧ position ≤ first
    · obtain ⟨first, last, hspan, hle⟩ := hspan
      have hlt := hspan.2
      have hlast := (hwithin _ _ _ hspan).2
      have hnext := ih (hreached.take hspan (by omega)) hlast hrest'
      rw [cutGroups_take hspan hle]
      split
      · next hgap =>
        rw [Token.ofPieces_between offset .text hle, Token.ofPieces_between offset kind (Nat.le_of_lt hlt)]
        exact (hnext.take hkind hspan).fill (hreached.outside horder hspan hgap (by omega))
      · obtain rfl : position = first := by omega
        rw [Token.ofPieces_between offset kind (Nat.le_of_lt hlt)]
        exact hnext.take hkind hspan
    · have hinside : ∀ first last, m.Spans (done + 1) first last →
          ∃ i f l, i < done + 1 ∧ m.Spans i f l ∧ f ≤ first ∧ last ≤ l := fun first last hspan' =>
        (hreached.next horder hspan').resolve_left fun hle => hspan ⟨first, last, hspan', hle⟩
      have hends : ∀ first last, m.Spans (done + 1) first last → last ≤ position := by
        intro first last hspan'
        obtain ⟨i, f, l, hi, hspan'', -, hl⟩ := hinside first last hspan'
        exact Nat.le_trans hl (hreached.ended i f l hi hspan'')
      rw [cutGroups_pass fun first last hspan' => Nat.lt_of_lt_of_le hspan'.2 (hends first last hspan')]
      exact (ih (hreached.pass hends) hposition hrest').pass hinside

end LabelledFrom

/-- **Groups label what they matched.** A rule with a kind for each group of its pattern takes a match that
is not empty, and its tokens follow one another and make up the match. If the groups come in order, then
each group that is not empty and lies in no group of lower number has exactly one token, of its own kind;
each token is of a group or is text outside of all groups; and all that is outside of all groups is in such
a token of text. -/
theorem tryEntry_groups {text : String} {kinds : List Kind} {n : Pattern.Node}
    (hread : Pattern.readNode text.toList = .ok n)
    (hnumbers : n.groupNumbers = List.range' 1 kinds.length) {guard : Guard} {names : List String}
    {state : String} {index slots slots' : Nat} {e : Entry}
    (hresolve : Table.resolve names state index slots ⟨(Rule.groups text kinds).body, guard⟩
      = .ok (e, slots'))
    (t : Table) {s : Scanner} (hallows : guard.allows s.before = true) {m : Match}
    (hmatch : (Pattern.ofNode n).match? s.before.head? s.rest = some m) (hpos : 0 < m.length) :
    ∃ tokens : List Token, s.tryEntry t e = .used { s with
          before := (s.rest.take m.length).reverse ++ s.before
          rest := s.rest.drop m.length
          offset := byteAfter s.offset s.rest m.length
          pending := s.pending ++ tokens } ∧
        Token.join tokens = s.rest.take m.length ∧ Token.InRow s.offset tokens ∧
        (m.InOrder →
          (∀ index first last, m.Spans index first last →
            (∀ i f l, i < index → m.Spans i f l → ¬ (f ≤ first ∧ last ≤ l)) →
            ∃ kind, kinds[index - 1]? = some kind ∧
              tokens.count (.between s.offset s.rest kind first last) = 1) ∧
          (∀ token ∈ tokens,
            (∃ index kind first last, kinds[index - 1]? = some kind ∧ m.Spans index first last ∧
              token = .between s.offset s.rest kind first last) ∨
            ∃ first last, m.Outside first last ∧ token = .between s.offset s.rest .text first last) ∧
          ∀ place < m.length, (∀ i f l, m.Spans i f l → place < f ∨ l ≤ place) →
            ∃ first last, m.Outside first last ∧ first ≤ place ∧ place < last ∧
              .between s.offset s.rest .text first last ∈ tokens) := by
  have hentry : e = ⟨guard, .scan (Pattern.ofNode n) none (.groups kinds)⟩ := by
    generalize hrule : (⟨(Rule.groups text kinds).body, guard⟩ : Rule) = rule at hresolve
    cases Table.resolve_eq_ok.mp hresolve with
    | @scan _ _ _ _ pattern _ hread' =>
      cases hrule
      rw [Pattern.read, hread] at hread'
      cases hread'
      rfl
    | push => cases hrule
    | pop => cases hrule
  have hlength := Pattern.match?_length_le hmatch
  have hcut : pieceLength (cutGroups m 1 0 kinds) = m.length := pieceLength_cut hmatch (.groups kinds)
  have htry : s.tryEntry t e = .used (s.takeAll (cutGroups m 1 0 kinds)) := by
    subst hentry
    simp only [tryEntry, hallows, mayClose, Option.all_none, hmatch, Nat.ne_of_gt hpos, if_false,
      Bool.not_true, Bool.false_eq_true, cut]
  have hrow : Token.InRow s.offset (Token.ofPieces s.offset (cutGroups m 1 0 kinds) s.rest) :=
    Token.inRow_ofPieces s.offset (cutGroups_pos m 1 0 kinds) (by omega)
  refine ⟨Token.ofPieces s.offset (cutGroups m 1 0 kinds) s.rest, ?_, ?_, hrow, fun horder => ?_⟩
  · rw [htry, takeAll_eq, hcut]
    rfl
  · rw [Token.join_ofPieces, hcut]
  have hwithin : ∀ i f l, m.Spans i f l → 1 ≤ i ∧ i ≤ kinds.length ∧ l ≤ m.length := by
    intro i f l hspan
    have hmem := Pattern.match?_group_mem hmatch hspan.1
    rw [hnumbers, List.mem_range'_1] at hmem
    exact ⟨hmem.1, by omega, Pattern.match?_group_le hmatch hspan.1⟩
  have hlabelled : LabelledFrom s.offset s.rest m kinds 0 0
      (Token.ofPieces s.offset (cutGroups m 1 0 kinds) s.rest) :=
    .of_reached horder (fun i f l hspan => (hwithin i f l hspan).2)
      (.start fun i f l hspan => (hwithin i f l hspan).1) (Nat.zero_le _)
  -- tokens in a row begin at different places, so each of them is there once
  have hnodup : (Token.ofPieces s.offset (cutGroups m 1 0 kinds) s.rest).Nodup :=
    hrow.pairwise.imp fun hlt heq => Nat.ne_of_lt hlt (congrArg Token.offset heq)
  refine ⟨fun index first last hspan houter => ?_, hlabelled.only,
    fun place => hlabelled.outside place (Nat.zero_le _)⟩
  obtain ⟨kind, hkind, hmem⟩ := hlabelled.group index first last (hwithin _ _ _ hspan).1 hspan houter
  exact ⟨kind, hkind, by rw [hnodup.count, if_pos hmem]⟩

/-- Two groups with a dash between them. -/
def dashedNode : Pattern.Node :=
  .ofSeq [.group 1 (.one (.single 'a')), .one (.single '-'), .group 2 (.one (.single 'b'))]

/-- The match of these groups. -/
def dashedMatch : Match := ⟨3, [(5, 3), (4, 2), (3, 1), (2, 0)]⟩

theorem dashedMatch_spans {index first last : Nat} (h : dashedMatch.Spans index first last) :
    (index = 1 ∧ first = 0 ∧ last = 1) ∨ (index = 2 ∧ first = 2 ∧ last = 3) := by
  have hmarks := Pattern.Match.group?_eq_some h.1
  simp only [dashedMatch, List.mem_cons, List.not_mem_nil, Prod.mk.injEq, or_false] at hmarks
  omega

theorem dashedMatch_inOrder : dashedMatch.InOrder := by
  intro index first last hspan
  refine .inl fun i f l hi hspan' => ?_
  have := dashedMatch_spans hspan
  have := dashedMatch_spans hspan'
  omega

theorem tryEntry_groups_dashed :
    let s := Scanner.start ⟨[], 0⟩ "a-b"
    let e : Entry := ⟨{}, .scan (.ofNode dashedNode) none (.groups [.keyword, .name])⟩
    dashedMatch.InOrder ∧ (Pattern.ofNode dashedNode).match? none s.rest = some dashedMatch ∧
      ∃ s', s.tryEntry ⟨[], 0⟩ e = .used s' ∧ s'.offset = 3 ∧
        s'.pending.count ⟨.keyword, "a", 0⟩ = 1 ∧ s'.pending.count ⟨.name, "b", 2⟩ = 1 := by
  intro s e
  have hmatch : (Pattern.ofNode dashedNode).match? s.before.head? s.rest = some dashedMatch := rfl
  have hread : Pattern.readNode "(a)-(b)".toList = .ok dashedNode := rfl
  have hresolve : Table.resolve [] "root" 0 0 ⟨(Rule.groups "(a)-(b)" [.keyword, .name]).body, {}⟩
      = .ok (e, 0) := rfl
  obtain ⟨tokens, htry, -, -, hlabels⟩ :=
    tryEntry_groups hread rfl hresolve ⟨[], 0⟩ rfl hmatch (by decide)
  obtain ⟨hgroup, -, -⟩ := hlabels dashedMatch_inOrder
  refine ⟨dashedMatch_inOrder, hmatch, _, htry, rfl, ?_, ?_⟩
  · obtain ⟨kind, hkind, hcount⟩ := hgroup 1 0 1 ⟨rfl, by decide⟩ fun i f l hi hspan => by
      have := dashedMatch_spans hspan
      omega
    cases hkind
    exact hcount
  · obtain ⟨kind, hkind, hcount⟩ := hgroup 2 2 3 ⟨rfl, by decide⟩ fun i f l hi hspan => by
      have := dashedMatch_spans hspan
      omega
    cases hkind
    exact hcount

/-- Two groups of which either may be the last that takes part. -/
def swappedNode : Pattern.Node :=
  .repeated (.alt (.group 1 (.one (.single 'a'))) (.group 2 (.one (.single 'b')))) 1 none true

/-- A table with one rule, for these groups. -/
def swappedSpecs : List StateSpec := [⟨"root", [.groups "(?:(a)|(b))+" [.keyword, .name]]⟩]

/-- What `swappedSpecs` is built into. -/
def swappedTable : Table :=
  ⟨[⟨"root", [⟨{}, .scan (.ofNode swappedNode) none (.groups [.keyword, .name])⟩]⟩], 0⟩

/-- The second group ends before the first begins, so that it has no token of its kind, and what it
matched is text. -/
theorem tryEntry_groups_swapped : Table.build swappedSpecs = .ok swappedTable ∧
    swappedNode.groupNumbers = List.range' 1 2 ∧
    (∃ m, (Pattern.ofNode swappedNode).match? none ['b', 'a'] = some m ∧ m.length = 2 ∧
      m.Spans 1 1 2 ∧ m.Spans 2 0 1) ∧
    swappedTable.tokenize "ba" = [⟨.text, "b", 0⟩, ⟨.keyword, "a", 1⟩] :=
  ⟨rfl, rfl, ⟨_, rfl, rfl, ⟨rfl, by decide⟩, ⟨rfl, by decide⟩⟩, by decide +kernel⟩

end Scanner

end TableLexer
