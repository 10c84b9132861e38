import TableLexer.Proofs.Language.Roles
import TableLexer.Proofs.Language.SharedRules

/-!
# Comments and annotations

`tokenize_comments`: a token that begins with two slashes is a comment to the end of the line, and one that begins
with `/*` is a comment to the first `*/` after that, if there is one; any other slash is an operator. A token that
begins with `@` is a comment to the end of the line in Emfatic, one of four modifiers or an error in ETL, and an
error in EOL. There are no other comments.

Proof. At a slash, only the rules for the two kinds of comments may take something before the one for operators
does (`findSome?_slash`). At an `@`, the rules of a language's own decide (`findSome?_at`). Which rules make
comments is read off the kinds of the rules (`eq_remarkRule_of_kind`, `eq_blockComment_of_kind`).
-/

namespace TableLexer.Language
open Pattern (lineAt wordAt FirstCloser)

/-! ## At a slash -/

section Slash
variable {before rest : List Char}

theorem findSome?_leadingRules_slash (before rest : List Char) :
    leadingRules.findSome? (·.pieces? before ('/' :: rest)) = lineCommentRule.pieces? before ('/' :: rest) := by
  refine findSome?_eq_of_mem (by simp [leadingRules, lineCommentRule]) fun r hr => ?_
  rw [leadingRules_eq] at hr
  simp only [quotes, spaceRules, leadingRules, List.map_cons, List.map_nil, List.drop_succ_cons, List.drop_zero,
    List.mem_append, List.mem_cons, List.not_mem_nil, or_false] at hr
  have hquiet (quote : Char) (h : Pattern.Quiet (Rule.quotedPattern quote '\\') ['/']) :
      (stringRule quote).pieces? before ('/' :: rest) = none :=
    ((Rule.Regular.quoted h .string).notAfter (by decide)).takes_none List.mem_cons_self before rest
  rcases hr with (rfl | rfl) | rfl | rfl
  · exact .inr (hquiet '"' (by decide))
  · exact .inr (hquiet '\x27' (by decide))
  · have hspaces : (Rule.token spaces .whitespace).Regular ['/'] := .token (by decide) _
    exact .inr (hspaces.takes_none List.mem_cons_self before rest)
  · exact .inl rfl

theorem findSome?_rules_slash (l : Language) (before rest : List Char) :
    l.rules.findSome? (·.pieces? before ('/' :: rest)) = blockComment.pieces? before ('/' :: rest) := by
  apply findSome?_eq_of_mem l.blockComment_mem_rules
  intro r hr
  apply (l.eq_blockComment_or_regular r hr).imp_right
  intro hregular
  exact hregular.takes_none List.mem_cons_self before rest

theorem findSome?_slash (l : Language) (before rest : List Char) :
    (baseEntries l.rules).findSome? (·.pieces? before ('/' :: rest))
      = ((lineCommentRule.pieces? before ('/' :: rest)).or (blockComment.pieces? before ('/' :: rest))).or
          (some [(.operator, 1)]) := by
  have hoperator : '/' ∈ operatorSigns := by decide
  rw [baseEntries, findSome?_plain?, baseRules, List.findSome?_append, List.findSome?_append,
    findSome?_leadingRules_slash, findSome?_rules_slash, findSome?_trailingRules_operator hoperator]

theorem pieces_lineComment (l : Language) (before body : List Char) :
    pieces (baseEntries l.rules) before ('/' :: '/' :: body) =
      (.commentSingle, (['/', '/'] ++ lineAt body).length) :: if '\n' ∈ body then [(.whitespace, 1)] else [] := by
  have htext : '/' :: '/' :: body = ['/', '/'] ++ body := rfl
  rw [pieces, findSome?_slash, htext,
    (reads_lineCommentRule.pieces?_remark_iff (by decide) rfl).mpr ⟨body, rfl, rfl⟩, Option.some_or, Option.some_or]

theorem pieces?_lineComment_eq_none (hline : rest.head? ≠ some '/') (before : List Char) :
    lineCommentRule.pieces? before ('/' :: rest) = none := by
  apply Option.eq_none_iff_forall_ne_some.mpr
  intro ps hps
  obtain ⟨body, htext, -⟩ := (reads_lineCommentRule.pieces?_remark_iff (by decide) rfl).mp hps
  obtain rfl := (List.cons.inj htext).2
  exact hline rfl

theorem pieces_blockComment (l : Language) (before : List Char) {body : List Char}
    (hfirst : FirstCloser ['*', '/'] rest body) : pieces (baseEntries l.rules) before ('/' :: '*' :: rest)
      = [(.commentMultiline, ('/' :: '*' :: body ++ ['*', '/']).length)] := by
  have hline : ('*' :: rest).head? ≠ some '/' := by
    intro hslash
    cases hslash
  rw [pieces, findSome?_slash, pieces?_lineComment_eq_none hline,
    pieces?_blockComment_iff.mpr ⟨rest, body, rfl, hfirst, rfl⟩, Option.none_or, Option.some_or]

theorem pieces_slash (l : Language) (before : List Char) (hline : rest.head? ≠ some '/')
    (hblock : ∀ more, rest = '*' :: more → ¬ ['*', '/'] <:+: more) :
    pieces (baseEntries l.rules) before ('/' :: rest) = [(.operator, 1)] := by
  have hnone : blockComment.pieces? before ('/' :: rest) = none := by
    apply Option.eq_none_iff_forall_ne_some.mpr
    intro ps hps
    obtain ⟨more, body, htext, hfirst, -⟩ := pieces?_blockComment_iff.mp hps
    obtain ⟨after, hmore⟩ := hfirst.closes
    exact hblock more (List.cons.inj htext).2 ⟨body, after, hmore⟩
  rw [pieces, findSome?_slash, pieces?_lineComment_eq_none hline, hnone, Option.none_or, Option.none_or]

end Slash

/-! ## At an `@` -/

section At
variable {before : List Char}

theorem findSome?_at (own : List Rule) (before rest : List Char) :
    (baseEntries own).findSome? (·.pieces? before ('@' :: rest))
      = own.findSome? (·.pieces? before ('@' :: rest)) := by
  have htrailing : trailingRules.findSome? (·.pieces? before ('@' :: rest)) = none :=
    findSome?_trailingRules_eq_none (by decide) (by decide) (by decide) (by decide) (by decide) before rest
  have hinitial : '@' ∉ initials := by decide
  rw [findSome?_base hinitial, htrailing, Option.or_none]

theorem pieces_at_emfatic (before body : List Char) : pieces (baseEntries emfatic.rules) before ('@' :: body) =
    (.commentSingle, (['@'] ++ lineAt body).length) :: if '\n' ∈ body then [(.whitespace, 1)] else [] := by
  have htext : '@' :: body = ['@'] ++ body := rfl
  have hrules : emfatic.rules = annotationRule :: Emfatic.rules.tail := rfl
  rw [pieces, findSome?_at, hrules, List.findSome?_cons, htext,
    (reads_annotationRule.pieces?_remark_iff (by decide) rfl).mpr ⟨body, rfl, rfl⟩]

theorem Keywords.takes_none {r : Rule} (h : Keywords r) {c : Char} (hc : c ∉ Unicode.word)
    (before rest : List Char) : r.pieces? before (c :: rest) = none := by
  obtain ⟨ws, kind, -, hnames, hreads⟩ := h.reads
  rw [Rule.pieces?_of_plain? hreads.plain?]
  exact hreads.pieces?_eq_none hreads.plain? (Pattern.opens_wordsNode hnames hc) before rest

theorem pieces_at_eol (before rest : List Char) : pieces (baseEntries eol.rules) before ('@' :: rest)
    = [(.error, Unicode.Grapheme.firstLength ('@' :: rest))] := by
  have hnone : eol.rules.findSome? (·.pieces? before ('@' :: rest)) = none := by
    apply List.findSome?_eq_none_iff.mpr
    intro r hr
    rcases mem_eol_rules hr with rfl | hkeywords
    · exact startsIn_blockComment.pieces?_eq_none (by decide) before rest
    · exact hkeywords.takes_none (by decide) before rest
  rw [pieces, findSome?_at, hnone]

/-! ## Modifiers -/

/-- The words that may stand after an `@` before a rule of ETL. -/
def modifiers : List String := ["abstract", "lazy", "primary", "greedy"]

/-- The pattern for modifiers matches an `@` and the run after it, if it is one of the words. -/
theorem match?_modifierNode (before : Option Char) (rest : List Char) :
    (Pattern.ofNode modifierNode).match? before ('@' :: rest) =
      if String.ofList (wordAt rest) ∈ modifiers then some ⟨(wordAt rest).length + 1, []⟩ else none := by
  have hspells : Pattern.SpellsOneOf (fun _ => true) (modifiers.map String.toList)
      (Pattern.Node.ofSeq [.ofAlts ((modifiers.map String.toList).map .ofText)]).ways := .ofAlts (by decide)
  have hnames : ∀ w ∈ modifiers.map String.toList, Pattern.isName w = true := by decide
  let x : Pattern.Spot := ⟨0, before, '@' :: rest, []⟩
  have hways {y : Pattern.Spot} : y ∈ modifierNode.ways x ↔ wordAt rest ∈ modifiers.map String.toList ∧
      y = (x.skip ['@'] rest).skip (wordAt rest) (rest.dropWhile Unicode.word.contains) := by
    have hword := Pattern.mem_ways_boundary hnames hspells (x := x.skip ['@'] rest) (y := y)
    rw [modifierNode, Pattern.Node.ways_ofSeq_cons, List.mem_flatMap]
    constructor
    · rintro ⟨z, hz, hy⟩
      obtain ⟨c, more, htext, hc, rfl⟩ := Pattern.Node.mem_ways_one.mp hz
      cases htext
      exact (hword.mp hy).2
    · rintro ⟨hmem, hy⟩
      have hat : '@' ∈ Unicode.CharSet.single '@' := Unicode.CharSet.mem_single.mpr rfl
      exact ⟨_, Pattern.Node.mem_ways_one.mpr ⟨'@', rest, rfl, hat, rfl⟩, hword.mpr ⟨rfl, hmem, hy⟩⟩
  refine Pattern.match?_eq_ite (by decide) ?_ ?_
  · intro hword
    exact ⟨_, hways.mpr ⟨mem_map_toList_iff.mpr hword, rfl⟩⟩
  · intro y hy
    obtain ⟨hword, rfl⟩ := hways.mp hy
    refine ⟨mem_map_toList_iff.mp hword, ?_⟩
    rw [Pattern.Spot.skip, Pattern.Spot.toMatch, Nat.add_comm]
    rfl

theorem Role.takes_none_at (role : Role) (before rest : List Char) :
    role.rule.pieces? before ('@' :: rest) = none := by
  have hquiet (h : role.rule.Regular ['@']) : role.rule.pieces? before ('@' :: rest) = none :=
    h.takes_none List.mem_cons_self before rest
  have hkeywords (h : Keywords role.rule) : role.rule.pieces? before ('@' :: rest) = none :=
    h.takes_none (by decide) before rest
  cases role with
  | opening => exact hquiet (.token (by decide) _)
  | clause => exact hquiet ((Rule.Regular.token (by decide) _).after (by decide) (by decide))
  | name => exact hquiet ((Rule.Regular.token (by decide) _).after (by decide) (by decide))
  | null => exact hkeywords (.mk (by decide) (by decide) _)
  | declaration => exact hkeywords (.mk (by decide) (by decide) _)
  | extension => exact hkeywords (.mk (by decide) (by decide) _)
  | guard => exact hquiet (.groups (by decide) readNode_guard (.labelled (by decide) _ _))
  | plain => exact hquiet (.token (by decide) _)

theorem pieces_at_etl (before rest : List Char) : pieces (baseEntries etl.rules) before ('@' :: rest) =
    if String.ofList (wordAt rest) ∈ modifiers then [(.keywordType, ('@' :: wordAt rest).length)]
    else [(.error, Unicode.Grapheme.firstLength ('@' :: rest))] := by
  have hreads : modifierRule.Reads modifierNode (.whole .keywordType) := .token readNode_modifier (by decide) _
  have htake := hreads.pieces?_eq_ite (Nat.succ_ne_zero _) (match?_modifierNode before.head? rest)
  have hrules : etl.rules = [blockComment, modifierRule] ++ Role.special.map Role.rule := rfl
  have hcomment := startsIn_blockComment.pieces?_eq_none (c := '@') (by decide) before rest
  have hroles : (Role.special.map Role.rule).findSome? (·.pieces? before ('@' :: rest)) = none := by
    apply List.findSome?_eq_none_iff.mpr
    exact List.forall_mem_map.mpr fun role _ => role.takes_none_at before rest
  rw [pieces, findSome?_at, hrules, List.findSome?_append, hroles, Option.or_none, List.findSome?_cons, hcomment,
    List.findSome?_cons, htake]
  by_cases hword : String.ofList (wordAt rest) ∈ modifiers
  · rw [if_pos ⟨rfl, hword⟩, if_pos hword]
    rfl
  · rw [if_neg fun h => hword h.2, if_neg hword]
    rfl

end At

/-! ## Which rules make comments -/

theorem eq_remarkRule_of_kind (l : Language) : ∀ r ∈ baseRules l.rules, .commentSingle ∈ r.kinds →
    r = lineCommentRule ∨ l = emfatic ∧ r = annotationRule := by
  cases l <;> decide

theorem eq_blockComment_of_kind (l : Language) : ∀ r ∈ baseRules l.rules, .commentMultiline ∈ r.kinds →
    r = blockComment := by
  cases l <;> decide

/-! ## Comments in a text -/

/-- The token runs from an opening to the end of the line, and the line end after it is the next token. -/
structure IsLineComment (ts : List Token) (t : Token) (opening body : List Char) : Prop where
  kind : t.kind = .commentSingle
  text : t.text = .ofList (opening ++ lineAt body)
  next : '\n' ∈ body → ∃ us vs, ts = us ++ t :: ⟨.whitespace, "\n", t.finish⟩ :: vs

section Tokens
variable {l : Language} {input : String} {t : Token} {before rest : List Char}

theorem isLineComment_of_pieces (ht : t ∈ l.lexer.tokenize input) {opening body : List Char}
    (hinput : input.toList = before ++ (opening ++ body)) (hoffset : t.offset = byteLength before)
    (hpieces : pieces (baseEntries l.rules) before.reverse (opening ++ body) =
      (.commentSingle, (opening ++ lineAt body).length) :: if '\n' ∈ body then [(.whitespace, 1)] else []) :
    IsLineComment (l.lexer.tokenize input) t opening body := by
  have hbegins : opening ++ lineAt body <+: opening ++ body :=
    (List.prefix_append_right_inj opening).mpr (List.takeWhile_prefix _)
  have htoken := token_eq_of_pieces ht hinput hoffset hbegins hpieces
  refine ⟨by rw [htoken], by rw [htoken], ?_⟩
  intro hline
  obtain ⟨more, hmore⟩ := Pattern.exists_append_lineAt hline
  have hsplit : opening ++ body = (opening ++ lineAt body) ++ '\n' :: more := by
    rw [List.append_assoc, ← hmore]
  rw [if_pos hline, hsplit] at hpieces
  rw [hsplit] at hinput
  exact exists_next_of_pieces ht hinput hoffset hpieces

theorem isLineComment_of_slashes (ht : t ∈ l.lexer.tokenize input) {body : List Char}
    (hinput : input.toList = before ++ '/' :: '/' :: body) (hoffset : t.offset = byteLength before) :
    IsLineComment (l.lexer.tokenize input) t ['/', '/'] body :=
  isLineComment_of_pieces ht hinput hoffset (pieces_lineComment l before.reverse body)

theorem exists_blockComment (ht : t ∈ l.lexer.tokenize input) (hinput : input.toList = before ++ '/' :: '*' :: rest)
    (hoffset : t.offset = byteLength before) (hcloser : ['*', '/'] <:+: rest) :
    ∃ body, FirstCloser ['*', '/'] rest body ∧ t.kind = .commentMultiline ∧
      t.text = .ofList ('/' :: '*' :: body ++ ['*', '/']) := by
  obtain ⟨gap, after, hgap⟩ := hcloser
  obtain ⟨body, hfirst⟩ := Pattern.exists_firstCloser ⟨after, hgap⟩
  have hbegins : '/' :: '*' :: body ++ ['*', '/'] <+: '/' :: '*' :: rest :=
    (List.prefix_append_right_inj ['/', '*']).mpr hfirst.closes
  have htoken := token_eq_of_pieces ht hinput hoffset hbegins (pieces_blockComment l before.reverse hfirst)
  exact ⟨body, hfirst, by rw [htoken], by rw [htoken]⟩

theorem eq_operator_of_slash (ht : t ∈ l.lexer.tokenize input) (hinput : input.toList = before ++ '/' :: rest)
    (hoffset : t.offset = byteLength before) (hline : rest.head? ≠ some '/')
    (hblock : ∀ more, rest = '*' :: more → ¬ ['*', '/'] <:+: more) : t.kind = .operator ∧ t.text = "/" := by
  have hbegins : ['/'] <+: '/' :: rest := List.prefix_append ['/'] rest
  have htoken := token_eq_of_pieces ht hinput hoffset hbegins (pieces_slash l before.reverse hline hblock)
  exact ⟨by rw [htoken], by rw [htoken]⟩

end Tokens

section Modifiers
variable {input : String} {t : Token} {before rest : List Char}

theorem eq_modifier (ht : t ∈ etl.lexer.tokenize input) (hinput : input.toList = before ++ '@' :: rest)
    (hoffset : t.offset = byteLength before) (hword : String.ofList (wordAt rest) ∈ modifiers) :
    t.kind = .keywordType ∧ t.text = .ofList ('@' :: wordAt rest) := by
  have hpieces := pieces_at_etl before.reverse rest
  rw [if_pos hword] at hpieces
  have hbegins : '@' :: wordAt rest <+: '@' :: rest := List.cons_prefix_cons.mpr ⟨rfl, Pattern.wordAt_begins rest⟩
  have htoken := token_eq_of_pieces ht hinput hoffset hbegins hpieces
  exact ⟨by rw [htoken], by rw [htoken]⟩

theorem kind_eq_error_of_not_modifier (ht : t ∈ etl.lexer.tokenize input)
    (hinput : input.toList = before ++ '@' :: rest) (hoffset : t.offset = byteLength before)
    (hword : String.ofList (wordAt rest) ∉ modifiers) : t.kind = .error := by
  have hpieces := pieces_at_etl before.reverse rest
  rw [if_neg hword] at hpieces
  exact kind_eq_of_pieces ht hinput hoffset hpieces

end Modifiers

/-- **Comments and annotations.** A token that begins with two slashes is a comment to the end of the line, and one
that begins with a slash and an asterisk is a comment to the first end of a block comment after that, if there is
one. Any other slash is an operator. A token that begins with an `@` is a comment to the end of the line in Emfatic,
a modifier or an error in ETL, and an error in EOL. All comments are of one of these forms. -/
theorem tokenize_comments (l : Language) (input : String) : ∀ t ∈ l.lexer.tokenize input,
    (∀ before rest, input.toList = before ++ rest → t.offset = byteLength before →
      (∀ body, rest = '/' :: '/' :: body → IsLineComment (l.lexer.tokenize input) t ['/', '/'] body) ∧
      (∀ more, rest = '/' :: '*' :: more → ['*', '/'] <:+: more → ∃ body, FirstCloser ['*', '/'] more body ∧
        t.kind = .commentMultiline ∧ t.text = .ofList ('/' :: '*' :: body ++ ['*', '/'])) ∧
      (∀ more, rest = '/' :: more → more.head? ≠ some '/' →
        (∀ after, more = '*' :: after → ¬ ['*', '/'] <:+: after) → t.kind = .operator ∧ t.text = "/") ∧
      (∀ body, rest = '@' :: body →
        (l = emfatic → IsLineComment (l.lexer.tokenize input) t ['@'] body) ∧
        (l = etl → .ofList (wordAt body) ∈ modifiers →
          t.kind = .keywordType ∧ t.text = .ofList ('@' :: wordAt body)) ∧
        (l = etl → .ofList (wordAt body) ∉ modifiers → t.kind = .error) ∧
        (l = eol → t.kind = .error))) ∧
    (t.kind = .commentSingle → ∃ before body, t.offset = byteLength before ∧
      (input.toList = before ++ '/' :: '/' :: body ∨ l = emfatic ∧ input.toList = before ++ '@' :: body)) ∧
    (t.kind = .commentMultiline → ∃ before more body, input.toList = before ++ '/' :: '*' :: more ∧
      t.offset = byteLength before ∧ FirstCloser ['*', '/'] more body) := by
  intro t ht
  refine ⟨?_, ?_, ?_⟩
  · intro before rest hinput hoffset
    refine ⟨?_, ?_, ?_, ?_⟩
    · rintro body rfl
      exact isLineComment_of_slashes ht hinput hoffset
    · rintro more rfl hcloser
      exact exists_blockComment ht hinput hoffset hcloser
    · rintro more rfl hline hblock
      exact eq_operator_of_slash ht hinput hoffset hline hblock
    · rintro body rfl
      refine ⟨?_, ?_, ?_, ?_⟩
      · rintro rfl
        exact isLineComment_of_pieces ht hinput hoffset (pieces_at_emfatic before.reverse body)
      · rintro rfl hword
        exact eq_modifier ht hinput hoffset hword
      · rintro rfl hword
        exact kind_eq_error_of_not_modifier ht hinput hoffset hword
      · rintro rfl
        exact kind_eq_of_pieces ht hinput hoffset (pieces_at_eol before.reverse body)
  · intro hkind
    obtain ⟨before, rest, r, p, ps, hinput, rfl, hr, htake, hmem⟩ := exists_rule_of_token ht
      (by simp [hkind]) (by simp [hkind])
    rw [hkind] at hmem
    -- the kind of the token tells the rule, and the rule how the token begins
    rcases l.eq_remarkRule_of_kind r hr hmem with rfl | ⟨hl, rfl⟩
    · obtain ⟨body, rfl, -⟩ := (reads_lineCommentRule.pieces?_remark_iff (by decide) rfl).mp htake
      exact ⟨before, body, rfl, .inl hinput⟩
    · obtain ⟨body, rfl, -⟩ := (reads_annotationRule.pieces?_remark_iff (by decide) rfl).mp htake
      exact ⟨before, body, rfl, .inr ⟨hl, hinput⟩⟩
  · intro hkind
    obtain ⟨before, rest, r, p, ps, hinput, rfl, hr, htake, hmem⟩ := exists_rule_of_token ht
      (by simp [hkind]) (by simp [hkind])
    rw [hkind] at hmem
    obtain rfl := l.eq_blockComment_of_kind r hr hmem
    obtain ⟨more, body, rfl, hfirst, -⟩ := pieces?_blockComment_iff.mp htake
    exact ⟨before, more, body, hinput, rfl, hfirst⟩

/-- The annotation within the comment is part of it, and the line end after it is a token of its own. -/
theorem tokenize_comments_line :
    let input := "//@a\nb"
    ∃ us vs, emfatic.lexer.tokenize input = us ++ ⟨.commentSingle, "//@a", 0⟩ :: ⟨.whitespace, "\n", 4⟩ :: vs := by
  intro input
  have hinput : input.toList = [] ++ '/' :: '/' :: "@a\nb".toList := by decide
  obtain ⟨t, ht, hoffset⟩ : ∃ t ∈ emfatic.lexer.tokenize input, t.offset = 0 :=
    exists_token_at_start emfatic (by decide)
  have hcomment := ((tokenize_comments emfatic input t ht).1 [] _ hinput hoffset).1 _ rfl
  have htext : t.text = "//@a" := hcomment.text.trans (by decide)
  obtain ⟨us, vs, hsplit⟩ := hcomment.next (by decide)
  have htoken : t = ⟨.commentSingle, "//@a", 0⟩ := Token.eq_of_fields hcomment.kind htext hoffset
  have hfinish : t.finish = 4 := by
    rw [htoken]
    decide
  rw [hfinish, htoken] at hsplit
  exact ⟨us, vs, hsplit⟩

end TableLexer.Language
