import TableLexer.Proofs.Language.Roles
import TableLexer.Proofs.Language.SharedRules
import TableLexer.Proofs.Pattern.Alphabet

/-!
# Lines

`tokenize_lines`: each line end of the input is a token of its own, unless it is within a string or a comment over
several lines. White space is either a line end or a run within a line that goes as far as it can.

Proof. Few patterns read a line end at all: those for strings, for block comments and for line ends, and the line
end after a remark, which is a piece of its own (`rule_cases`). So a first piece with a line end in it is of one of
the first two kinds, or begins with the line end (`kind_of_lineFeed_mem`). This holds of errors as well, because a
grapheme has a line feed in it only after a carriage return (`lineFeed_not_mem_take_firstLength`), and the rule
for white space takes that.
-/

namespace TableLexer
open Pattern (readNode lineAt)

/-! ## Rules that do not read line ends -/

/-- The text is a pattern that does not read a line end. -/
def Pattern.Lineless (text : List Char) : Prop :=
  ∃ n, readNode text = .ok n ∧ n.Advances ∧ n.reads '\n' = false

instance Pattern.decidableLineless (text : List Char) : Decidable (Lineless text) :=
  decidableTree text fun n => n.Advances ∧ n.reads '\n' = false

/-- The pattern of the rule does not read a line end. -/
def Rule.Lineless (r : Rule) : Prop := ∃ n emission, r.Reads n emission ∧ n.reads '\n' = false

namespace Rule.Lineless
variable {r : Rule}

theorem token {text : String} (h : Pattern.Lineless text.toList) (kind : Kind) : (Rule.token text kind).Lineless := by
  obtain ⟨n, hread, hadvances, hn⟩ := h
  exact ⟨n, _, .token hread hadvances kind, hn⟩

theorem after (h : r.Lineless) (texts : List String) : (r.after texts).Lineless := by
  obtain ⟨n, emission, hreads, hn⟩ := h
  exact ⟨n, emission, hreads.after texts, hn⟩

theorem lineFeed_not_mem (h : r.Lineless) {before text : List Char} {p : Kind × Nat} {ps : List (Kind × Nat)}
    (htake : r.pieces? before text = some (p :: ps)) : '\n' ∉ text.take p.2 := by
  obtain ⟨n, emission, hreads, hn⟩ := h
  obtain ⟨-, m, hm, -, hcut⟩ := hreads.pieces?_iff.mp htake
  have hlength : p.2 ≤ m.length := by
    rw [← Scanner.pieceLength_cut hm emission, ← hcut, pieceLength_cons]
    exact Nat.le_add_right _ _
  intro hmem
  exact Pattern.not_mem_of_match? hreads.advances hn hm (List.take_subset_take_left _ hlength hmem)

end Rule.Lineless

namespace Language

theorem Keywords.lineless {r : Rule} (h : Keywords r) : r.Lineless := by
  obtain ⟨ws, kind, -, hnames, hreads⟩ := h.reads
  exact ⟨_, _, hreads, Pattern.reads_wordsNode hnames (by decide)⟩

theorem Role.lineless (role : Role) : role.rule.Lineless := by
  cases role with
  | opening => exact .token (by decide) _
  | clause => exact (Rule.Lineless.token (by decide) _).after _
  | name => exact (Rule.Lineless.token (by decide) _).after _
  | null => exact (Keywords.mk (by decide) (by decide) _).lineless
  | declaration => exact (Keywords.mk (by decide) (by decide) _).lineless
  | extension => exact (Keywords.mk (by decide) (by decide) _).lineless
  | guard =>
    refine ⟨_, _, ⟨⟨_, none, rfl, readNode_guard⟩, Pattern.advances_labelled _ _ _, .labelled (by decide) _ _⟩, ?_⟩
    decide
  | plain => exact .token (by decide) _

theorem lineless_rules (l : Language) :
    ∀ r ∈ l.rules, r = blockComment ∨ r = annotationRule ∨ r.Lineless := by
  intro r hr
  cases l with
  | etl =>
    rw [rules, etl_rules_eq, List.mem_append, List.mem_map] at hr
    simp only [List.mem_cons, List.not_mem_nil, or_false] at hr
    rcases hr with (rfl | rfl) | ⟨role, -, rfl⟩
    · exact .inl rfl
    · exact .inr (.inr (.token (by decide) _))
    · exact .inr (.inr role.lineless)
  | eol => exact (mem_eol_rules hr).imp_right fun hkeywords => .inr hkeywords.lineless
  | emfatic =>
    rcases mem_emfatic_rules hr with rfl | hcomment | hkeywords
    · exact .inr (.inl rfl)
    · exact .inl hcomment
    · exact .inr (.inr hkeywords.lineless)

theorem lineless_trailingRules : ∀ r ∈ trailingRules, r = lineEndRule ∨ r.Lineless := by
  intro r hr
  simp only [trailingRules, List.mem_cons, List.not_mem_nil, or_false] at hr
  rcases hr with rfl | rfl | rfl | rfl | rfl | rfl | rfl | rfl | rfl
  · exact .inr ⟨_, _, .token readNode_float (by decide) _, by decide⟩
  all_goals first
    | exact .inl rfl
    | exact .inr (.token (by decide) _)

theorem rule_cases (l : Language) : ∀ r ∈ baseRules l.rules, (∃ quote ∈ quotes, r = stringRule quote) ∨
    r = blockComment ∨ (r = lineCommentRule ∨ r = annotationRule) ∨ r = lineEndRule ∨ r.Lineless := by
  intro r hr
  rw [baseRules, leadingRules_eq, List.mem_append, List.mem_append, List.mem_append] at hr
  rcases hr with ((hr | hr) | hr) | hr
  · obtain ⟨quote, hquote, rfl⟩ := List.mem_map.mp hr
    exact .inl ⟨quote, hquote, rfl⟩
  · simp only [spaceRules, leadingRules, List.drop_succ_cons, List.drop_zero, List.mem_cons, List.not_mem_nil,
      or_false] at hr
    rcases hr with rfl | rfl
    · exact .inr (.inr (.inr (.inr (.token (by decide) _))))
    · exact .inr (.inr (.inl (.inl rfl)))
  · rcases l.lineless_rules r hr with hcomment | hannotation | hlineless
    · exact .inr (.inl hcomment)
    · exact .inr (.inr (.inl (.inr hannotation)))
    · exact .inr (.inr (.inr (.inr hlineless)))
  · exact .inr (.inr (.inr (lineless_trailingRules r hr)))

/-! ## Line ends in what is taken -/

section Position
variable {l : Language} {before text : List Char} {p : Kind × Nat} {ps : List (Kind × Nat)}

theorem lineFeed_not_mem_remark {r : Rule} {opening : List Char} {kind kind' : Kind}
    (h : r.Reads (Pattern.remark opening) (.groups [kind, kind'])) (hguard : r.guard = {}) (hopening : opening ≠ [])
    (hline : '\n' ∉ opening) (htake : r.pieces? before text = some (p :: ps)) : '\n' ∉ text.take p.2 := by
  obtain ⟨body, rfl, hps⟩ := (h.pieces?_remark_iff hopening hguard).mp htake
  obtain ⟨rfl, -⟩ := List.cons.inj hps
  have hbegins : opening ++ lineAt body <+: opening ++ body :=
    (List.prefix_append_right_inj opening).mpr (List.takeWhile_prefix _)
  rw [← List.prefix_iff_eq_take.mp hbegins, List.mem_append, not_or]
  exact ⟨hline, Pattern.not_mem_lineAt body⟩

theorem kind_of_lineFeed_taken {r : Rule} (hr : r ∈ baseRules l.rules)
    (htake : r.pieces? before text = some (p :: ps)) (hmem : '\n' ∈ text.take p.2) :
    p.1 = .string ∨ p.1 = .commentMultiline ∨ text.head? = some '\n' := by
  rcases l.rule_cases r hr with ⟨quote, hquote, rfl⟩ | rfl | (rfl | rfl) | rfl | hlineless
  · rw [Rule.pieces?_of_plain? (plain?_stringRule quote)] at htake
    obtain ⟨-, rest, body, -, -, hps⟩ := (pieces?_stringEntry_iff hquote).mp htake
    obtain ⟨rfl, -⟩ := List.cons.inj hps
    exact .inl rfl
  · obtain ⟨rest, body, -, -, hps⟩ := pieces?_blockComment_iff.mp htake
    obtain ⟨rfl, -⟩ := List.cons.inj hps
    exact .inr (.inl rfl)
  · exact absurd hmem (lineFeed_not_mem_remark reads_lineCommentRule rfl (by decide) (by decide) htake)
  · exact absurd hmem (lineFeed_not_mem_remark reads_annotationRule rfl (by decide) (by decide) htake)
  · obtain ⟨rest, rfl, -⟩ := pieces?_lineEndRule_iff.mp htake
    exact .inr (.inr rfl)
  · exact absurd hmem (hlineless.lineFeed_not_mem htake)

theorem kind_of_lineFeed_mem (hpieces : pieces (baseEntries l.rules) before text = p :: ps)
    (hmem : '\n' ∈ text.take p.2) : p.1 = .string ∨ p.1 = .commentMultiline ∨ text.head? = some '\n' := by
  by_cases herror : p.1 = .error
  · obtain ⟨hlength, hnone⟩ := takes_none_of_error l hpieces herror
    cases text with
    | nil => simp at hmem
    | cons c rest =>
      by_cases hline : c = '\n'
      · exact .inr (.inr (by rw [hline]; rfl))
      · -- only a carriage return would go with the line end, and that is white space
        have hreturn : c ≠ '\r' := by
          rintro rfl
          exact takes_blank (by decide) before rest (hnone spaceRule (spaceRule_mem l))
        rw [hlength] at hmem
        exact absurd hmem (Unicode.Grapheme.lineFeed_not_mem_take_firstLength hline hreturn rest)
  · obtain ⟨r, hr, e, hentry, htake, -⟩ := exists_rule_of_kind l.regular_rules hpieces herror
    exact kind_of_lineFeed_taken hr ((Rule.pieces?_of_plain? hentry before text).trans htake) hmem

end Position

/-! ## Lines of a text -/

section Tokens
variable {l : Language} {input : String} {t : Token}

/-- A token with a line end in it is a string, a block comment or the line end alone. -/
theorem eq_lineEnd_of_mem (ht : t ∈ l.lexer.tokenize input) {u v : List Char}
    (htext : t.text.toList = u ++ '\n' :: v) :
    t.kind = .string ∨ t.kind = .commentMultiline ∨ (u = [] ∧ t = ⟨.whitespace, "\n", t.offset⟩) := by
  obtain ⟨before, rest, p, ps, hinput, -, hpieces, rfl⟩ := exists_pieces ht
  rw [String.toList_ofList] at htext
  have hmem : '\n' ∈ rest.take p.2 := by
    rw [htext]
    simp
  rcases kind_of_lineFeed_mem hpieces hmem with hstring | hcomment | hhead
  · exact .inl hstring
  · exact .inr (.inl hcomment)
  · obtain ⟨more, rfl⟩ := List.head?_eq_some_iff.mp hhead
    rw [pieces_lineEnd l.regular_rules] at hpieces
    obtain ⟨rfl, -⟩ := List.cons.inj hpieces
    have hu : u = [] := by
      have hlength := congrArg List.length htext
      simp only [List.take_succ_cons, List.take_zero, List.length_append, List.length_cons, List.length_nil]
        at hlength
      apply List.length_eq_zero_iff.mp
      omega
    exact .inr (.inr ⟨hu, rfl⟩)

theorem eq_rule_of_whitespace (l : Language) : ∀ r ∈ baseRules l.rules, .whitespace ∈ r.kinds →
    r = spaceRule ∨ r = lineCommentRule ∨ r = annotationRule ∨ r = lineEndRule := by
  cases l <;> decide

theorem kind_of_remark {r : Rule} {opening : List Char} {kind kind' : Kind}
    (h : r.Reads (Pattern.remark opening) (.groups [kind, kind'])) (hguard : r.guard = {}) (hopening : opening ≠ [])
    {before text : List Char} {p : Kind × Nat} {ps : List (Kind × Nat)}
    (htake : r.pieces? before text = some (p :: ps)) : p.1 = kind := by
  obtain ⟨body, -, hps⟩ := (h.pieces?_remark_iff hopening hguard).mp htake
  obtain ⟨rfl, -⟩ := List.cons.inj hps
  rfl

theorem not_blank_after (text : List Char) :
    ∀ c ∈ (text.dropWhile blank.contains).head?, c = '\n' ∨ c ∉ Unicode.space := by
  intro c hc
  have hnot := List.head?_dropWhile_not blank.contains text
  rw [hc] at hnot
  by_cases hline : c = '\n'
  · exact .inl hline
  · right
    intro hspace
    have hblank : blank.contains c = true := mem_blank.mpr ⟨hspace, hline⟩
    simp [hblank] at hnot

/-- White space is a line end, or it goes on up to a line end or something else. -/
theorem whitespace_cases (ht : t ∈ l.lexer.tokenize input) (hkind : t.kind = .whitespace) :
    t.text = "\n" ∨ ∃ before w rest, input.toList = before ++ (w ++ rest) ∧
      t = ⟨.whitespace, .ofList w, byteLength before⟩ ∧ w ≠ [] ∧ (∀ c ∈ w, c ∈ Unicode.space ∧ c ≠ '\n') ∧
      ∀ c ∈ rest.head?, c = '\n' ∨ c ∉ Unicode.space := by
  obtain ⟨before, text, r, p, ps, hinput, rfl, hr, htake, hmem⟩ := exists_rule_of_token ht
    (by simp [hkind]) (by simp [hkind])
  rw [hkind] at hmem
  have hcomment (h : p.1 = .commentSingle) : False := by
    have hboth : Kind.commentSingle = .whitespace := h.symm.trans hkind
    cases hboth
  -- remarks make white space too, but only after a comment, as their second piece
  rcases l.eq_rule_of_whitespace r hr hmem with rfl | rfl | rfl | rfl
  · obtain ⟨hne, hps⟩ := pieces?_spaceRule_iff.mp htake
    obtain ⟨rfl, -⟩ := List.cons.inj hps
    have hsplit : text = blanksAt text ++ text.dropWhile blank.contains := List.takeWhile_append_dropWhile.symm
    have htaken : text.take (blanksAt text).length = blanksAt text :=
      (List.prefix_iff_eq_take.mp (List.takeWhile_prefix _)).symm
    refine .inr ⟨before, blanksAt text, text.dropWhile blank.contains, ?_, ?_, hne, ?_, not_blank_after text⟩
    · rw [← hsplit, hinput]
    · simp only [htaken]
    · intro c hc
      exact mem_blank.mp (List.mem_takeWhile_imp hc)
  · exact (hcomment (kind_of_remark reads_lineCommentRule rfl (by decide) htake)).elim
  · exact (hcomment (kind_of_remark reads_annotationRule rfl (by decide) htake)).elim
  · obtain ⟨rest, rfl, hps⟩ := pieces?_lineEndRule_iff.mp htake
    obtain ⟨rfl, -⟩ := List.cons.inj hps
    exact .inl rfl

end Tokens

/-- **Lines.** Each line end of the input is within a string or within a comment over several lines, or it is a
token of its own. White space is a line end, or it is a run of other white space that ends where the input ends,
before a line end or before something that is no white space. -/
theorem tokenize_lines (l : Language) (input : String) :
    (∀ before rest, input.toList = before ++ '\n' :: rest → ∃ t ∈ l.lexer.tokenize input,
      t.offset ≤ byteLength before ∧ byteLength before < t.finish ∧
      (t.kind = .string ∨ t.kind = .commentMultiline ∨ t = ⟨.whitespace, "\n", byteLength before⟩)) ∧
    ∀ t ∈ l.lexer.tokenize input, t.kind = .whitespace →
      t.text = "\n" ∨ ∃ before w rest, input.toList = before ++ (w ++ rest) ∧
        t = ⟨.whitespace, .ofList w, byteLength before⟩ ∧ w ≠ [] ∧ (∀ c ∈ w, c ∈ Unicode.space ∧ c ≠ '\n') ∧
        ∀ c ∈ rest.head?, c = '\n' ∨ c ∉ Unicode.space := by
  constructor
  · intro before rest hinput
    obtain ⟨t, ht, u, v, htext, hoffset⟩ := exists_token_of_char l hinput
    have hfinish : t.finish = byteLength before + byteLength ('\n' :: v) := by
      rw [Token.finish, htext, byteLength_append, ← Nat.add_assoc, hoffset]
    have hpos : 0 < byteLength ('\n' :: v) := byteLength_pos (List.cons_ne_nil _ _)
    refine ⟨t, ht, by omega, by omega, ?_⟩
    rcases eq_lineEnd_of_mem ht htext with hstring | hcomment | ⟨rfl, htoken⟩
    · exact .inl hstring
    · exact .inr (.inl hcomment)
    · rw [byteLength_nil, Nat.add_zero] at hoffset
      rw [hoffset] at htoken
      exact .inr (.inr htoken)
  · intro t ht hkind
    exact whitespace_cases ht hkind

theorem tokenize_lines_start : (⟨.whitespace, "\n", 0⟩ : Token) ∈ etl.lexer.tokenize "\n// a" := by
  obtain ⟨hlines, hspaces⟩ := tokenize_lines etl "\n// a"
  have hinput : "\n// a".toList = [] ++ '\n' :: "// a".toList := by decide
  obtain ⟨t, ht, hle, -, -⟩ := hlines [] _ hinput
  have hoffset : t.offset = byteLength [] := Nat.le_zero.mp hle
  have hkind : t.kind = .whitespace := kind_eq_of_pieces ht hinput hoffset (pieces_lineEnd etl.regular_rules _ _)
  rcases hspaces t ht hkind with htext | ⟨before, w, rest, hsplit, rfl, hne, hw, -⟩
  · have htoken : t = ⟨.whitespace, "\n", 0⟩ := Token.eq_of_fields hkind htext hoffset
    exact htoken ▸ ht
  · -- a run within a line would begin with the line end
    cases before with
    | cons c before =>
      have hpos : 0 < byteLength (c :: before) := byteLength_pos (List.cons_ne_nil _ _)
      exact absurd hoffset (Nat.ne_of_gt hpos)
    | nil =>
      cases w with
      | nil => exact absurd rfl hne
      | cons c w =>
        obtain ⟨rfl, -⟩ := List.cons.inj (hinput.symm.trans hsplit)
        exact absurd rfl (hw '\n' List.mem_cons_self).2

end Language

end TableLexer
