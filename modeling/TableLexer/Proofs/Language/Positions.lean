import TableLexer.Proofs.Language.Tables

/-!
# What stands at a position

A token of a language is the first piece that the rules take where it begins (`exists_pieces`,
`pieces_of_token`). If it is no error, it comes from a rule that makes tokens of its kind
(`exists_rule_of_kind`).

Proof. The pieces of a match are found again one by one (`resumes_base`), so each token is a first piece. A
text is split at a byte in one way only, so the offset of a token tells its position.
-/

namespace TableLexer

/-- The kinds of the tokens that a rule makes, apart from the text between groups. -/
def Rule.kinds (r : Rule) : List Kind :=
  match r.body with
  | .scan _ _ (.whole kind) => [kind]
  | .scan _ _ (.groups kinds) => kinds
  | _ => []

theorem Scanner.kind_of_mem_cutGroups (m : Pattern.Match) (index position : Nat) (kinds : List Kind) :
    ∀ p ∈ cutGroups m index position kinds, p.1 = .text ∨ p.1 ∈ kinds := by
  induction kinds generalizing index position with
  | nil =>
    intro p hp
    rw [cutGroups] at hp
    split at hp
    · exact .inl (congrArg Prod.fst (List.mem_singleton.mp hp))
    · exact absurd hp List.not_mem_nil
  | cons kind kinds ih =>
    have hlater (position : Nat) : ∀ p ∈ cutGroups m (index + 1) position kinds,
        p.1 = .text ∨ p.1 ∈ kind :: kinds := fun p hp =>
      (ih _ _ p hp).imp_right (List.mem_cons_of_mem _)
    intro p hp
    rw [cutGroups] at hp
    split at hp
    · exact hlater _ p hp
    split at hp
    · exact hlater _ p hp
    next first last _ _ =>
    have hgroup : ∀ p ∈ (kind, last - first) :: cutGroups m (index + 1) last kinds,
        p.1 = .text ∨ p.1 ∈ kind :: kinds := by
      intro p hp
      rcases List.mem_cons.mp hp with rfl | hp
      · exact .inr List.mem_cons_self
      · exact hlater _ p hp
    simp only at hp
    split at hp
    · rcases List.mem_cons.mp hp with rfl | hp
      · exact .inl rfl
      · exact hgroup p hp
    · exact hgroup p hp

theorem Rule.Reads.kind_of_mem_pieces {r : Rule} {n : Pattern.Node} {emission : Emission}
    (h : r.Reads n emission) {e : Entry} (he : r.plain? = some e) {before text : List Char}
    {ps : List (Kind × Nat)} (hps : e.pieces? before text = some ps) :
    ∀ p ∈ ps, p.1 = .text ∨ p.1 ∈ r.kinds := by
  obtain ⟨m, -, -, rfl⟩ := h.pieces?_eq_some he hps
  obtain ⟨text, opener, hbody, -⟩ := h.body
  rw [Rule.kinds, hbody]
  cases emission with
  | whole kind =>
    intro p hp
    rw [List.mem_singleton.mp hp]
    exact .inr List.mem_cons_self
  | groups kinds => exact Scanner.kind_of_mem_cutGroups m 1 0 kinds

theorem Token.eq_of_fields {t u : Token} (hkind : t.kind = u.kind) (htext : t.text = u.text)
    (hoffset : t.offset = u.offset) : t = u := by
  cases t
  cases u
  cases hkind
  cases htext
  cases hoffset
  rfl

theorem Token.exists_of_join {ts : List Token} {before rest : List Char} {c : Char}
    (h : join ts = before ++ c :: rest) : ∃ us t vs u v,
      ts = us ++ t :: vs ∧ t.text.toList = u ++ c :: v ∧ before = join us ++ u := by
  induction ts generalizing before with
  | nil =>
    have hlength := congrArg List.length h
    simp [join] at hlength
  | cons t ts ih =>
    have hjoin : t.text.toList ++ join ts = before ++ c :: rest := h
    have hlater {before' : List Char} (hbefore : before = t.text.toList ++ before')
        (hts : join ts = before' ++ c :: rest) : ∃ us t' vs u v,
          t :: ts = us ++ t' :: vs ∧ t'.text.toList = u ++ c :: v ∧ before = join us ++ u := by
      obtain ⟨us, t', vs, u, v, rfl, htext, rfl⟩ := ih hts
      refine ⟨t :: us, t', vs, u, v, rfl, htext, ?_⟩
      rw [hbefore, ← List.append_assoc]
      rfl
    -- the character is in the first text or in the later ones
    rcases List.append_eq_append_iff.mp hjoin with ⟨before', hbefore, hts⟩ | ⟨more, htext, hmore⟩
    · exact hlater hbefore hts
    · cases more with
      | nil =>
        rw [List.append_nil] at htext
        have hbefore : before = t.text.toList ++ [] := by rw [htext, List.append_nil]
        exact hlater hbefore hmore.symm
      | cons d v =>
        obtain ⟨rfl, -⟩ := List.cons.inj hmore
        exact ⟨[], t, ts, before, v, rfl, htext, rfl⟩

namespace Language

section Positions
variable {own : List Rule} {before text : List Char} {p : Kind × Nat} {ps : List (Kind × Nat)}

/-- What is no error comes from a rule that makes tokens of this kind. -/
theorem exists_rule_of_kind (h : ∀ r ∈ own, r.Regular signs)
    (hps : pieces (baseEntries own) before text = p :: ps) (herror : p.1 ≠ .error) :
    ∃ r ∈ baseRules own, ∃ e, r.plain? = some e ∧ e.pieces? before text = some (p :: ps) ∧
      (p.1 = .text ∨ p.1 ∈ r.kinds) := by
  rw [pieces] at hps
  split at hps
  next found hfound =>
    subst hps
    obtain ⟨e, he, hpieces⟩ := List.exists_of_findSome?_eq_some hfound
    obtain ⟨r, hr, hentry⟩ := List.mem_filterMap.mp he
    obtain ⟨n, emission, hreads, -⟩ := (regular_base h r hr).reads
    exact ⟨r, hr, e, hentry, hpieces, hreads.kind_of_mem_pieces hentry hpieces p List.mem_cons_self⟩
  next =>
    cases hps
    exact absurd rfl herror

end Positions

section Tokens
variable {l : Language} {input : String} {t : Token}

theorem exists_pieces (ht : t ∈ l.lexer.tokenize input) : ∃ before rest p ps,
    input.toList = before ++ rest ∧ rest ≠ [] ∧ pieces (baseEntries l.rules) before.reverse rest = p :: ps ∧
      t = ⟨p.1, .ofList (rest.take p.2), byteLength before⟩ := by
  rw [l.tokenize_eq_tokensFrom] at ht
  obtain ⟨before, rest, p, ps, hinput, hrest, hpieces, rfl⟩ :=
    exists_pieces_of_mem (resumes_base l.regular_rules) ht
  rw [List.append_nil] at hpieces
  exact ⟨before, rest, p, ps, hinput, hrest, hpieces, by rw [Nat.zero_add]⟩

theorem pieces_of_token (ht : t ∈ l.lexer.tokenize input) {before rest : List Char}
    (hinput : input.toList = before ++ rest) (hoffset : t.offset = byteLength before) : ∃ p ps,
      pieces (baseEntries l.rules) before.reverse rest = p :: ps ∧
      t = ⟨p.1, .ofList (rest.take p.2), byteLength before⟩ := by
  obtain ⟨before', rest', p, ps, hinput', -, hpieces, rfl⟩ := exists_pieces ht
  -- both positions are where the text splits at the offset
  have hsame : some (before', rest') = some (before, rest) := by
    rw [← splitAtByte_append, ← splitAtByte_append, ← hinput', hinput, ← hoffset]
  cases hsame
  exact ⟨p, ps, hpieces, rfl⟩

theorem token_eq_of_pieces (ht : t ∈ l.lexer.tokenize input) {before rest : List Char}
    (hinput : input.toList = before ++ rest) (hoffset : t.offset = byteLength before) {w : List Char}
    (hw : w <+: rest) {kind : Kind} {ps : List (Kind × Nat)}
    (hpieces : pieces (baseEntries l.rules) before.reverse rest = (kind, w.length) :: ps) :
    t = ⟨kind, .ofList w, byteLength before⟩ := by
  obtain ⟨p, ps', hpieces', rfl⟩ := pieces_of_token ht hinput hoffset
  rw [hpieces] at hpieces'
  obtain rfl := (List.cons.inj hpieces').1
  rw [← List.prefix_iff_eq_take.mp hw]

theorem kind_eq_of_pieces (ht : t ∈ l.lexer.tokenize input) {before rest : List Char}
    (hinput : input.toList = before ++ rest) (hoffset : t.offset = byteLength before) {kind : Kind} {count : Nat}
    {ps : List (Kind × Nat)} (hpieces : pieces (baseEntries l.rules) before.reverse rest = (kind, count) :: ps) :
    t.kind = kind := by
  obtain ⟨p, ps', hpieces', rfl⟩ := pieces_of_token ht hinput hoffset
  rw [hpieces] at hpieces'
  obtain rfl := (List.cons.inj hpieces').1
  rfl

/-- From a token on, the tokens are those that scanning anew gives where it begins. -/
theorem exists_tokens_before (ht : t ∈ l.lexer.tokenize input) {before rest : List Char}
    (hinput : input.toList = before ++ rest) (hoffset : t.offset = byteLength before) :
    ∃ us, l.lexer.tokenize input
      = us ++ tokensFrom (baseEntries l.rules) before.reverse rest (byteLength before) := by
  rw [l.tokenize_eq_tokensFrom, hinput] at ht ⊢
  obtain ⟨-, hrow⟩ := tokensFrom_covers (baseEntries l.rules) [] (before ++ rest) 0
  have hboundary : Token.IsBoundary (byteLength before) (tokensFrom (baseEntries l.rules) [] (before ++ rest) 0) :=
    ⟨t, ht, .inl hoffset⟩
  obtain ⟨us, vs, hsplit, hus⟩ := hrow.exists_split hboundary
  have hstart := (hsplit ▸ hrow).startingFrom_append
  rw [hus, ← hsplit, startingFrom_tokensFrom (resumes_base l.regular_rules) hboundary] at hstart
  exact ⟨us, by rw [hsplit, hstart]⟩

theorem exists_next_of_pieces (ht : t ∈ l.lexer.tokenize input) {before w more : List Char} {sign : Char}
    (hinput : input.toList = before ++ (w ++ sign :: more)) (hoffset : t.offset = byteLength before)
    {kind kind' : Kind}
    (hpieces : pieces (baseEntries l.rules) before.reverse (w ++ sign :: more) = [(kind, w.length), (kind', 1)]) :
    ∃ us vs, l.lexer.tokenize input = us ++ t :: ⟨kind', .ofList [sign], t.finish⟩ :: vs := by
  have htoken := token_eq_of_pieces ht hinput hoffset (List.prefix_append w _) hpieces
  have hfinish : t.finish = byteLength before + byteLength w := by
    rw [htoken, Token.finish, String.toList_ofList]
  have hne : w ++ sign :: more ≠ [] := List.append_ne_nil_of_right_ne_nil _ (List.cons_ne_nil _ _)
  obtain ⟨us, hsplit⟩ := exists_tokens_before ht hinput hoffset
  rw [tokensFrom_of_ne _ _ _ hne, hpieces] at hsplit
  simp only [Token.ofPieces, List.take_left, List.drop_left, List.take_succ_cons, List.take_zero] at hsplit
  rw [hfinish, htoken]
  exact ⟨us, _, hsplit⟩

theorem exists_token_of_char (l : Language) {before rest : List Char} {c : Char}
    (hinput : input.toList = before ++ c :: rest) : ∃ t ∈ l.lexer.tokenize input, ∃ u v,
      t.text.toList = u ++ c :: v ∧ t.offset + byteLength u = byteLength before := by
  rw [l.tokenize_eq_tokensFrom]
  obtain ⟨hjoin, hrow⟩ := tokensFrom_covers (baseEntries l.rules) [] input.toList 0
  obtain ⟨us, t, vs, u, v, hts, htext, rfl⟩ := Token.exists_of_join (hjoin.trans hinput)
  rw [hts] at hrow ⊢
  obtain ⟨-, hoffset, -⟩ := Token.InRow.append.mp hrow
  refine ⟨t, by simp, u, v, htext, ?_⟩
  rw [hoffset, byteLength_append, Nat.zero_add]

theorem exists_token_at_start (l : Language) {input : String} (hinput : input.toList ≠ []) :
    ∃ t ∈ l.lexer.tokenize input, t.offset = 0 := by
  obtain ⟨p, ps, -, -, htokens⟩ := tokensFrom_cons (resumes_base l.regular_rules) [] 0 hinput
  rw [l.tokenize_eq_tokensFrom, htokens]
  exact ⟨_, List.mem_cons_self, rfl⟩

end Tokens

end Language

end TableLexer
