import TableLexer.Proofs.Language.Starts

/-!
# Words of ETL

`tokenize_roles`: in ETL, a token that begins with a word character is the whole run of word characters, and its
kind is that of the first role that applies to the run. What role applies depends on what stands before the run,
and for guards on the character after it. A guard is followed by a colon as a token of its own.

Proof. Of the rules of ETL, those for comments and modifiers take nothing at a word character, and each of the
others takes the run just where its role applies (`Role.pieces?_rule`). So the first rule that takes something
belongs to the first role (`findSome?_of_ite`); where there is none, the trailing rules are left.
-/

namespace TableLexer.Language
open Pattern (wordAt startsName isName readNode runNode)

/-! ## Roles -/

/-- One of some texts stands right before a position. -/
def endsIn (before : List Char) (texts : List String) : Bool := texts.any (·.toList.isSuffixOf before)

/-- A word character stands right before a position. -/
def endsInWord (before : List Char) : Bool := before.getLast?.any Unicode.word.contains

/-- What a word is in a transformation. -/
inductive Role
  /-- The word that begins a rule. -/
  | opening
  /-- A word that opens an indented line of a rule. -/
  | clause
  /-- The name of a rule. -/
  | name
  | null
  | declaration
  | extension
  /-- The label of a guard. -/
  | guard
  | plain
deriving DecidableEq, Repr

namespace Role

/-- The roles with rules of their own in ETL, in the order of the rules. -/
def special : List Role := [opening, clause, name, null, declaration, extension, guard]

/-- Whether a word may have the role after what stands before it and before the next character. -/
def applies (before : List Char) (word : String) (next : Option Char) : Role → Bool
  | opening => (before.isEmpty || before.getLast? == some '\n') && word == "rule"
  | clause => endsIn before ["    ", "\t"] && (word == "transform" || word == "to")
  | name => endsIn before ["rule ", "extends "]
  | null => !endsInWord before && word == "null"
  | declaration => !endsInWord before && word == "var"
  | extension => !endsInWord before && word == "extends"
  | guard => !endsInWord before && word == "guard" && next == some ':'
  | plain => !word.toList.head?.any Unicode.Ascii.digit.contains

/-- The role of a word: the first one that applies. -/
def of? (before : List Char) (word : String) (next : Option Char) : Option Role :=
  (special ++ [plain]).find? (applies before word next)

/-- The kind of the words with a role. -/
def kind : Role → Kind
  | opening => .nameClass
  | clause => .nameFunction
  | name => .nameAttribute
  | null => .operatorWord
  | declaration => .keywordDeclaration
  | extension => .nameEntity
  | guard => .nameEntity
  | plain => .text

/-- The pieces that are taken of a word with a role. -/
def pieces (count : Nat) : Role → List (Kind × Nat)
  | guard => [(.nameEntity, count), (.punctuation, 1)]
  | role => [(role.kind, count)]

/-- The rule for a role. -/
def rule : Role → Rule
  | opening => .token "^rule\\b" .nameClass
  | clause => (Rule.token "(?:transform|to)\\b" .nameFunction).after ["    ", "\t"]
  | name => nameRule
  | null => .token (words ["null"]) .operatorWord
  | declaration => .token (words ["var"]) .keywordDeclaration
  | extension => .token (words ["extends"]) .nameEntity
  | guard => .groups "\\b(guard)(:)" [.nameEntity, .punctuation]
  | plain => wordRule

theorem pieces_eq_cons (role : Role) (count : Nat) : ∃ ps, role.pieces count = (role.kind, count) :: ps := by
  cases role <;> exact ⟨_, rfl⟩

end Role

/-- The rule for the modifiers of a rule. -/
def modifierRule : Rule := .token "@(?:abstract|lazy|primary|greedy)\\b" .keywordType

theorem etl_rules_eq : Etl.rules = [blockComment, modifierRule] ++ Role.special.map Role.rule := rfl

/-! ## What the rules take of a word -/

/-- Word characters up to where they end. -/
structure IsRun (w rest : List Char) : Prop where
  ne : w ≠ []
  word : ∀ c ∈ w, c ∈ Unicode.word
  ends : ∀ c ∈ rest.head?, c ∉ Unicode.word

section Run
variable {before w rest : List Char}

theorem IsRun.length_ne_zero (h : IsRun w rest) : w.length ≠ 0 := fun hzero =>
  h.ne (List.length_eq_zero_iff.mp hzero)

theorem IsRun.wordAt (h : IsRun w rest) : wordAt (w ++ rest) = w :=
  Pattern.wordAt_append h.word (any_word_eq_false h.ends)

theorem IsRun.exists_cons (h : IsRun w rest) : ∃ c cs, w = c :: cs ∧ c ∈ Unicode.word := by
  obtain ⟨c, cs, rfl⟩ := List.exists_cons_of_ne_nil h.ne
  exact ⟨c, cs, rfl, h.word c List.mem_cons_self⟩

theorem IsRun.isPrefixOf_iff (h : IsRun w rest) {name : List Char} (hname : ∀ c ∈ name, c ∈ Unicode.word)
    {sign : Char} (hsign : sign ∉ Unicode.word) :
    (name ++ [sign]).isPrefixOf (w ++ rest) = true ↔ w = name ∧ rest.head? = some sign := by
  rw [List.isPrefixOf_iff_prefix]
  constructor
  · rintro ⟨more, hmore⟩
    rw [List.append_assoc, List.singleton_append] at hmore
    have hw : w = name := by
      rw [← h.wordAt, ← hmore]
      exact Pattern.wordAt_append hname (Bool.eq_false_iff.mpr hsign)
    subst hw
    rw [← List.append_cancel_left hmore]
    exact ⟨rfl, rfl⟩
  · rintro ⟨rfl, hnext⟩
    obtain ⟨more, rfl⟩ := List.head?_eq_some_iff.mp hnext
    exact ⟨more, by rw [List.append_assoc, List.singleton_append]⟩

/-- A guard that ties a rule to some texts lets it be tried after them. -/
theorem allows_after (texts : List String) (before : List Char) :
    Guard.allows ⟨some texts, []⟩ before.reverse = endsIn before texts := Bool.and_true _

theorem any_head?_reverse (before : List Char) :
    before.reverse.head?.any Unicode.word.contains = endsInWord before := by
  rw [endsInWord, List.head?_reverse]

namespace Role

theorem pieces?_opening (h : IsRun w rest) : opening.rule.pieces? before.reverse (w ++ rest) =
    if opening.applies before (.ofList w) rest.head? = true then some (opening.pieces w.length) else none := by
  have hreads : opening.rule.Reads ruleNode (.whole .nameClass) := .token readNode_rule (by decide) _
  have hmatch := Pattern.match?_of_spells (by decide) spells_rule (by decide) before.reverse.head? (w ++ rest)
  rw [h.wordAt] at hmatch
  refine (hreads.pieces?_eq_ite h.length_ne_zero hmatch).trans (if_congr ?_ rfl rfl)
  have hallows : opening.rule.guard.allows before.reverse = true := rfl
  simp only [hallows, true_and, Bool.and_true, Pattern.Assertion.holds, List.head?_reverse, List.mem_singleton,
    applies, Bool.and_eq_true, Bool.or_eq_true, beq_iff_eq, ofList_eq_iff, Option.isNone_iff_eq_none,
    List.getLast?_eq_none_iff, List.isEmpty_iff]

theorem pieces?_clause (h : IsRun w rest) : clause.rule.pieces? before.reverse (w ++ rest) =
    if clause.applies before (.ofList w) rest.head? = true then some (clause.pieces w.length) else none := by
  have hreads : clause.rule.Reads transformNode (.whole .nameFunction) :=
    (Rule.Reads.token readNode_transform (by decide) _).after _
  have hmatch := Pattern.match?_of_spells (by decide) spells_transform (by decide) before.reverse.head? (w ++ rest)
  rw [h.wordAt] at hmatch
  refine (hreads.pieces?_eq_ite h.length_ne_zero hmatch).trans (if_congr ?_ rfl rfl)
  have hallows : clause.rule.guard.allows before.reverse = endsIn before ["    ", "\t"] := allows_after _ before
  rw [mem_map_toList_iff]
  simp only [hallows, true_and, applies, Bool.and_eq_true, Bool.or_eq_true, beq_iff_eq, List.mem_cons,
    List.not_mem_nil, or_false]

theorem pieces?_name (h : IsRun w rest) : name.rule.pieces? before.reverse (w ++ rest) =
    if name.applies before (.ofList w) rest.head? = true then some (name.pieces w.length) else none := by
  have hreads : name.rule.Reads runNode (.whole .nameAttribute) := (reads_run .nameAttribute).after _
  have hmatch := Pattern.match?_runNode before.reverse.head? (w ++ rest)
  rw [h.wordAt, ← ite_not] at hmatch
  refine (hreads.pieces?_eq_ite h.length_ne_zero hmatch).trans (if_congr ?_ rfl rfl)
  have hallows : name.rule.guard.allows before.reverse = endsIn before ["rule ", "extends "] :=
    allows_after _ before
  rw [hallows, and_iff_left h.ne]
  rfl

theorem pieces?_keyword (h : IsRun w rest) {text : String} (hname : isName text.toList = true) (kind : Kind) :
    (Rule.token (words [text]) kind).pieces? before.reverse (w ++ rest) =
      if (!endsInWord before && String.ofList w == text) = true then some [(kind, w.length)] else none := by
  have hword : wordAt (w ++ rest) ≠ [] := by
    rw [h.wordAt]
    exact h.ne
  have htake := pieces?_words (List.cons_ne_nil text []) (by simpa using hname) kind hword before.reverse
  rw [h.wordAt, any_head?_reverse] at htake
  refine htake.trans (if_congr ?_ rfl rfl)
  simp only [List.mem_singleton, Bool.and_eq_true, Bool.not_eq_true', beq_iff_eq]

theorem pieces?_guard (h : IsRun w rest) : guard.rule.pieces? before.reverse (w ++ rest) =
    if guard.applies before (.ofList w) rest.head? = true then some (guard.pieces w.length) else none := by
  have hreads : guard.rule.Reads (Pattern.labelled (.boundary Unicode.word) "guard".toList ':')
      (.groups [.nameEntity, .punctuation]) :=
    ⟨⟨_, none, rfl, readNode_guard⟩, Pattern.advances_labelled _ _ _, .labelled (by decide) _ _⟩
  have hmatch := Pattern.match?_labelled (.boundary Unicode.word) "guard".toList ':' before.reverse.head?
    (w ++ rest)
  have htake := hreads.pieces?_eq_ite (Nat.succ_ne_zero _) hmatch
  rw [Pattern.cut_two (by decide)] at htake
  have hcondition :
      ((Pattern.Assertion.boundary Unicode.word).holds before.reverse.head? (w ++ rest).head? = true ∧
      ("guard".toList ++ [':']).isPrefixOf (w ++ rest) = true) ↔
        (endsInWord before = false ∧ w = "guard".toList) ∧ rest.head? = some ':' := by
    rw [h.isPrefixOf_iff (Pattern.mem_word_of_isName (by decide)) (by decide), and_assoc]
    refine and_congr_left fun hw => ?_
    have hname : startsName (w ++ rest) = true := by
      rw [hw.1]
      exact Pattern.startsName_append (by decide) _
    rw [Pattern.holds_boundary_before hname, any_head?_reverse]
  have happlies : guard.applies before (.ofList w) rest.head? = true ↔
      (endsInWord before = false ∧ w = "guard".toList) ∧ rest.head? = some ':' := by
    simp only [applies, Bool.and_eq_true, Bool.not_eq_true', beq_iff_eq, ofList_eq_iff]
  by_cases hguard : guard.applies before (.ofList w) rest.head? = true
  · have hw : w = "guard".toList := (happlies.mp hguard).1.2
    rw [htake, if_pos hguard, if_pos ⟨rfl, hcondition.mpr (happlies.mp hguard)⟩, hw]
    rfl
  · rw [htake, if_neg hguard, if_neg fun htaken => hguard (happlies.mpr (hcondition.mp htaken.2))]

/-- The rule for a role takes a word just where the role applies. -/
theorem pieces?_rule (h : IsRun w rest) {role : Role} (hrole : role ∈ special) :
    role.rule.pieces? before.reverse (w ++ rest) =
      if role.applies before (.ofList w) rest.head? = true then some (role.pieces w.length) else none := by
  cases role with
  | opening => exact pieces?_opening h
  | clause => exact pieces?_clause h
  | name => exact pieces?_name h
  | null => exact pieces?_keyword h (by decide) _
  | declaration => exact pieces?_keyword h (by decide) _
  | extension => exact pieces?_keyword h (by decide) _
  | guard => exact pieces?_guard h
  | plain => exact absurd hrole (by decide)

end Role

theorem startsIn_modifierRule : modifierRule.StartsIn (.single '@') :=
  ⟨_, _, .token readNode_modifier (by decide) _, fun _ hc => (Pattern.Node.opens_ofSeq_one _ _).symm.trans hc⟩

theorem findSome?_of_ite {α β : Type} {f : α → Option β} {p : α → Bool} {g : α → β} {l : List α}
    (h : ∀ a ∈ l, f a = if p a = true then some (g a) else none) : l.findSome? f = (l.find? p).map g := by
  induction l with
  | nil => rfl
  | cons a l ih =>
    rw [List.findSome?_cons, h a List.mem_cons_self, List.find?_cons,
      ih fun b hb => h b (List.mem_cons_of_mem _ hb)]
    cases p a <;> rfl

theorem pieces_role (h : IsRun w rest) {role : Role} (hrole : Role.of? before (.ofList w) rest.head? = some role) :
    pieces (baseEntries Etl.rules) before.reverse (w ++ rest) = role.pieces w.length := by
  have hspecial : (Role.special.map Role.rule).findSome? (·.pieces? before.reverse (w ++ rest))
      = (Role.special.find? (Role.applies before (.ofList w) rest.head?)).map (Role.pieces w.length) := by
    rw [List.findSome?_map]
    exact findSome?_of_ite fun role hrole => Role.pieces?_rule h hrole
  have hrun := h.wordAt
  rw [Role.of?, List.find?_append] at hrole
  obtain ⟨c, cs, rfl, hword⟩ := h.exists_cons
  have hinitial : c ∉ initials := not_mem_initials_of_word hword
  have hcomment := startsIn_blockComment.pieces?_eq_none hinitial before.reverse (cs ++ rest)
  have hmodifier := startsIn_modifierRule.pieces?_eq_none (not_mem_at_of_word hword) before.reverse (cs ++ rest)
  rw [← List.cons_append] at hcomment hmodifier
  rw [pieces, List.cons_append, findSome?_base hinitial, ← List.cons_append, etl_rules_eq,
    List.findSome?_append, hspecial, List.findSome?_cons, hcomment, List.findSome?_cons, hmodifier,
    List.findSome?_nil, Option.none_or]
  cases hfind : Role.special.find? (Role.applies before (.ofList (c :: cs)) rest.head?) with
  | some role' =>
    rw [hfind] at hrole
    cases hrole
    rfl
  | none =>
    -- no rule for a role takes the word, so it is left to the trailing rules
    rw [hfind, Option.none_or] at hrole
    have hplain := List.find?_some hrole
    obtain rfl := List.mem_singleton.mp (List.mem_of_find?_eq_some hrole)
    have hname : startsName (c :: cs ++ rest) = true := by
      refine Pattern.startsName_iff.mpr ⟨c, _, rfl, hword, ?_⟩
      simpa [Role.applies, Unicode.CharSet.mem_iff] using hplain
    rw [findSome?_trailingRules hname, hrun]
    rfl

end Run

/-- **Words of ETL.** A token that begins with a word character is the whole run of word characters. Its kind is
that of the first role that applies, and the label of a guard is followed by a colon. -/
theorem tokenize_roles (input : String) : ∀ t ∈ etl.lexer.tokenize input, ∀ before w rest,
    input.toList = before ++ (w ++ rest) → t.offset = byteLength before → IsRun w rest →
      ∀ role, Role.of? before (.ofList w) rest.head? = some role →
        t = ⟨role.kind, .ofList w, byteLength before⟩ ∧
        (role = .guard →
          ∃ us vs, etl.lexer.tokenize input = us ++ t :: ⟨.punctuation, ":", t.finish⟩ :: vs) := by
  intro t ht before w rest hinput hoffset hrun role hrole
  have hpieces : pieces (baseEntries etl.rules) before.reverse (w ++ rest) = role.pieces w.length :=
    pieces_role hrun hrole
  obtain ⟨ps, hps⟩ := role.pieces_eq_cons w.length
  have htoken := token_eq_of_pieces ht hinput hoffset (List.prefix_append w rest) (hpieces.trans hps)
  refine ⟨htoken, ?_⟩
  rintro rfl
  have happlies := List.find?_some hrole
  simp only [Role.applies, Bool.and_eq_true, beq_iff_eq] at happlies
  obtain ⟨more, rfl⟩ := List.head?_eq_some_iff.mp happlies.2
  exact exists_next_of_pieces ht hinput hoffset hpieces

/-- The label at the start is followed by the colon. -/
theorem tokenize_roles_guard :
    let input := "guard: true"
    IsRun "guard".toList ": true".toList ∧ Role.of? [] "guard" (some ':') = some .guard ∧
      ∃ us vs, etl.lexer.tokenize input = us ++ ⟨.nameEntity, "guard", 0⟩ :: ⟨.punctuation, ":", 5⟩ :: vs := by
  intro input
  have hrun : IsRun "guard".toList ": true".toList := by
    refine ⟨by decide, Pattern.mem_word_of_isName (by decide), fun c hc => ?_⟩
    cases hc
    decide
  have hrole : Role.of? [] "guard" (some ':') = some .guard := by decide
  obtain ⟨t, ht, hoffset⟩ : ∃ t ∈ etl.lexer.tokenize input, t.offset = 0 :=
    exists_token_at_start etl (by decide)
  have hword : String.ofList "guard".toList = "guard" := String.ofList_toList
  have hlabel := tokenize_roles input t ht [] _ _ (by decide) hoffset hrun .guard (by
    rw [hword]
    exact hrole)
  rw [hword] at hlabel
  obtain ⟨us, vs, hsplit⟩ := hlabel.2 rfl
  have hfinish : t.finish = 5 := by
    rw [hlabel.1]
    decide
  rw [hfinish, hlabel.1] at hsplit
  exact ⟨hrun, hrole, us, vs, hsplit⟩

end TableLexer.Language
