import TableLexer.Language
import TableLexer.Proofs.Language.Rules
import TableLexer.Proofs.Pattern.Words
import TableLexer.Proofs.Scanner.Retirement

/-!
# The tables of the built-in languages

All rules of the three languages are regular (`regular_base`, `regular_rules`), so their tables are built,
and without openers they are flat tables in which a line end and a colon are taken by themselves
(`exists_flat`). The tokens of a language are those of its rules, from position to position
(`tokenize_eq_tokensFrom`).
-/

namespace TableLexer.Language
open Pattern (Quiet readNode remark labelled isName wordsNode)

/-! ## Patterns -/

/-- The characters with which second pieces of matches begin. -/
def seconds : List Char := ['\n', ':']

/-- The characters that open strings. -/
def quotes : List Char := ['"', '\x27']

/-- The characters with which only the patterns begin that are made for them. -/
def signs : List Char := seconds ++ quotes

theorem readNode_words {ws : List String} (hne : ws ≠ []) (hnames : ∀ w ∈ ws, isName w.toList = true) :
    readNode (words ws).toList = .ok (wordsNode (ws.map String.toList)) := by
  have hplain : (ws.map String.toList).map Pattern.escaped = ws.map String.toList := by
    rw [List.map_map]
    exact List.map_congr_left fun w hw => Pattern.escaped_of_isName (hnames w hw)
  have hpattern : (words ws).toList = '\\' :: 'b' :: '(' :: '?' :: ':' ::
      (['|'].intercalate ((ws.map String.toList).map Pattern.escaped) ++ [')']) ++ ['\\', 'b'] := by
    rw [words, String.toList_append, String.toList_append, String.toList_intercalate, hplain,
      List.append_assoc, ← List.cons_append]
    simp
  cases ws with
  | nil => exact absurd rfl hne
  | cons w ws =>
    rw [hpattern]
    exact Pattern.readNode_anyWord w.toList (ws.map String.toList)

theorem quiet_float : Quiet float.toList signs := by
  unfold float
  rewrite [String.toList_append, String.toList_append, String.toList_append, String.toList_append,
    String.toList_append]
  decide +kernel

theorem readNode_lineComment : readNode lineComment.toList = .ok (remark ['/', '/']) := rfl

theorem readNode_annotation : readNode "(@[^\\n]*)(\\n)?".toList = .ok (remark ['@']) := rfl

theorem readNode_guard : readNode "\\b(guard)(:)".toList =
    .ok (labelled (.boundary Unicode.word) ['g', 'u', 'a', 'r', 'd'] ':') := rfl

/-! ## Rules -/

/-- A rule for any of some names, each as a whole word. -/
inductive Keywords : Rule → Prop
  | mk {ws : List String} (hne : ws ≠ []) (hnames : ∀ w ∈ ws, isName w.toList = true) (kind : Kind) :
    Keywords (.token (words ws) kind)

theorem Keywords.reads {r : Rule} (h : Keywords r) : ∃ ws kind, ws ≠ [] ∧ (∀ w ∈ ws, isName w = true) ∧
    r.Reads (wordsNode ws) (.whole kind) := by
  obtain @⟨ws, hne, hnames, kind⟩ := h
  exact ⟨ws.map String.toList, kind, fun hnil => hne (List.map_eq_nil_iff.mp hnil),
    List.forall_mem_map.mpr hnames, .token (readNode_words hne hnames) (Pattern.advances_wordsNode _) kind⟩

theorem Keywords.regular {r : Rule} (h : Keywords r) : r.Regular ('/' :: signs) := by
  obtain @⟨ws, hne, hnames, kind⟩ := h
  refine .token ⟨_, readNode_words hne hnames, Pattern.advances_wordsNode _, fun c hc => ?_⟩ kind
  refine Pattern.opens_wordsNode (List.forall_mem_map.mpr hnames) ?_
  simp only [signs, seconds, quotes, List.cons_append, List.nil_append, List.mem_cons, List.not_mem_nil,
    or_false] at hc
  rcases hc with rfl | rfl | rfl | rfl | rfl <;> decide

/-- The rule for strings in one of the quotes. -/
def stringRule (quote : Char) : Rule := (Rule.quoted quote '\\' .string).notAfter ["\\"]

/-- White space and line comments. -/
def spaceRules : List Rule := leadingRules.drop 2

theorem leadingRules_eq : leadingRules = quotes.map stringRule ++ spaceRules := rfl

theorem regular_stringRule {quote : Char} (h : quote ∈ quotes) : (stringRule quote).Regular seconds := by
  simp only [quotes, List.mem_cons, List.not_mem_nil, or_false] at h
  rcases h with rfl | rfl <;> exact (Rule.Regular.quoted (by decide) _).notAfter (by decide)

theorem regular_spaceRules : ∀ r ∈ spaceRules, r.Regular signs := by
  intro r hr
  simp only [spaceRules, leadingRules, List.drop_succ_cons, List.drop_zero, List.mem_cons, List.not_mem_nil,
    or_false] at hr
  rcases hr with rfl | rfl
  · exact .token (by decide) _
  · exact .groups (by decide) readNode_lineComment (.remark (by decide) _)

/-- The rule for comments to the end of the line. -/
def lineCommentRule : Rule := .groups lineComment [.commentSingle, .whitespace]

theorem reads_lineCommentRule : lineCommentRule.Reads (remark ['/', '/']) (.groups [.commentSingle, .whitespace]) :=
  ⟨⟨_, none, rfl, readNode_lineComment⟩, Pattern.advances_remark _, .remark (by decide) _⟩

theorem regular_blockComment : blockComment.Regular signs := .delimited (by decide) _

theorem reads_blockComment :
    blockComment.Reads (Pattern.delimitedNode ['/', '*'] ['*', '/']) (.whole .commentMultiline) := by
  have hread := Pattern.readNode_delimitedPattern "/*".toList "*/".toList
  rw [← String.toList_ofList (l := Rule.delimitedPattern "/*".toList "*/".toList)] at hread
  exact ⟨⟨_, _, rfl, hread⟩, Pattern.advances_delimitedNode _ _, .whole _ _⟩

/-- Numbers and operators. -/
def numberRules : List Rule := trailingRules.take 6

theorem regular_numberRules : ∀ r ∈ numberRules, r.Regular signs := by
  intro r hr
  simp only [numberRules, trailingRules, List.take_succ_cons, List.take_zero, List.mem_cons,
    List.not_mem_nil, or_false] at hr
  rcases hr with rfl | rfl | rfl | rfl | rfl | rfl
  · exact .token quiet_float _
  all_goals exact .token (by decide) _

theorem regular_of_mem_etl {r : Rule} (h : r ∈ Etl.rules) : r = blockComment ∨ r.Regular ('/' :: signs) := by
  simp only [Etl.rules, List.mem_cons, List.not_mem_nil, or_false] at h
  rcases h with rfl | rfl | rfl | rfl | rfl | rfl | rfl | rfl | rfl
  · exact .inl rfl
  · exact .inr (.token (by decide) _)
  · exact .inr (.token (by decide) _)
  · exact .inr ((Rule.Regular.token (by decide) _).after (by decide) (by decide))
  · exact .inr ((Rule.Regular.token (by decide) _).after (by decide) (by decide))
  · exact .inr (Keywords.mk (by decide) (by decide) _).regular
  · exact .inr (Keywords.mk (by decide) (by decide) _).regular
  · exact .inr (Keywords.mk (by decide) (by decide) _).regular
  · exact .inr (.groups (by decide) readNode_guard (.labelled (by decide) _ _))

theorem mem_eol_rules {r : Rule} (h : r ∈ Eol.rules) : r = blockComment ∨ Keywords r := by
  simp only [Eol.rules, List.mem_cons, List.not_mem_nil, or_false] at h
  rcases h with rfl | rfl | rfl | rfl
  · exact .inl rfl
  all_goals exact .inr (.mk (by decide) (by decide) _)

/-- The rule for what looks like a comment in a metamodel. -/
def annotationRule : Rule := .groups "(@[^\\n]*)(\\n)?" [.commentSingle, .whitespace]

theorem reads_annotationRule : annotationRule.Reads (remark ['@']) (.groups [.commentSingle, .whitespace]) :=
  ⟨⟨_, none, rfl, readNode_annotation⟩, Pattern.advances_remark _, .remark (by decide) _⟩

theorem mem_emfatic_rules {r : Rule} (h : r ∈ Emfatic.rules) :
    r = annotationRule ∨ r = blockComment ∨ Keywords r := by
  simp only [Emfatic.rules, List.mem_cons, List.not_mem_nil, or_false] at h
  rcases h with rfl | rfl | rfl | rfl | rfl
  · exact .inl rfl
  · exact .inr (.inl rfl)
  all_goals exact .inr (.inr (.mk (by decide) (by decide) _))

/-! ## The state of the rules -/

/-- The rules of the state in which a language with some rules of its own scans. -/
def baseRules (own : List Rule) : List Rule := leadingRules ++ own ++ trailingRules

/-- The entries of these rules without openers. -/
def baseEntries (own : List Rule) : List Entry := (baseRules own).filterMap Rule.plain?

/-- The rule for punctuation. -/
def punctuationRule : Rule := .token punctuation .punctuation

/-- The rule for words that are nothing else. -/
def wordRule : Rule := .token "\\w+" .text

/-- The rule for line ends. -/
def lineEndRule : Rule := .token "\\n" .whitespace

theorem regular_punctuationRule : punctuationRule.Regular ('\n' :: quotes) := .token (by decide) _

theorem regular_wordRule : wordRule.Regular signs := .token (by decide) _

theorem regular_lineEndRule : lineEndRule.Regular quotes := .token (by decide) _

theorem trailingRules_eq :
    trailingRules = numberRules ++ punctuationRule :: wordRule :: lineEndRule :: [] := rfl

section Base
variable {own : List Rule}

theorem regular_initial (h : ∀ r ∈ own, r.Regular signs) :
    ∀ r ∈ leadingRules ++ own ++ numberRules, r.Regular seconds := by
  intro r hr
  have hsub : seconds ⊆ signs := List.subset_append_left seconds quotes
  rw [leadingRules_eq] at hr
  simp only [List.mem_append, List.mem_map] at hr
  rcases hr with ((⟨quote, hquote, rfl⟩ | hr) | hr) | hr
  · exact regular_stringRule hquote
  · exact (regular_spaceRules r hr).mono hsub
  · exact (h r hr).mono hsub
  · exact (regular_numberRules r hr).mono hsub

theorem regular_base (h : ∀ r ∈ own, r.Regular signs) : ∀ r ∈ baseRules own, r.Regular [] := by
  intro r hr
  rw [baseRules, trailingRules_eq, ← List.append_assoc] at hr
  rcases List.mem_append.mp hr with hr | hr
  · exact (regular_initial h r hr).mono (List.nil_subset _)
  · simp only [List.mem_cons, List.not_mem_nil, or_false] at hr
    rcases hr with rfl | rfl | rfl
    · exact regular_punctuationRule.mono (List.nil_subset _)
    · exact regular_wordRule.mono (List.nil_subset _)
    · exact regular_lineEndRule.mono (List.nil_subset _)

theorem plain?_one {text : String} {set : Unicode.CharSet} (kind : Kind)
    (hread : readNode text.toList = .ok (.one set)) : (Rule.token text kind).plain?
      = some ⟨{}, .scan (.ofNode (.one set)) none (.whole kind)⟩ :=
  (Rule.Reads.token hread trivial kind).plain?

theorem filterMap_plain? {init tail : List Rule} {r : Rule} {e : Entry} (h : r.plain? = some e) :
    (init ++ r :: tail).filterMap Rule.plain?
      = init.filterMap Rule.plain? ++ e :: tail.filterMap Rule.plain? := by
  rw [List.filterMap_append, List.filterMap_cons_some h]

theorem pieces?_eq_none_of_regular {rules : List Rule} {cs : List Char}
    (h : ∀ r ∈ rules, r.Regular cs) {c : Char} (hc : c ∈ cs) (before text : List Char) :
    ∀ e ∈ rules.filterMap Rule.plain?, e.pieces? before (c :: text) = none := by
  intro e he
  obtain ⟨r, hr, hentry⟩ := List.mem_filterMap.mp he
  exact (h r hr).pieces?_eq_none hentry hc before text

theorem pieces_colon (h : ∀ r ∈ own, r.Regular signs) (before text : List Char) :
    pieces (baseEntries own) before (':' :: text) = [(.punctuation, 1)] := by
  obtain ⟨set, hread, hset⟩ : ∃ set, readNode punctuation.toList = .ok (.one set) ∧
      set.contains ':' = true := ⟨_, rfl, by decide⟩
  have hentry : punctuationRule.plain? = some _ := plain?_one .punctuation hread
  rw [baseEntries, baseRules, trailingRules_eq, ← List.append_assoc, filterMap_plain? hentry]
  refine pieces_append ?_ (pieces?_one hset .punctuation before text)
  exact pieces?_eq_none_of_regular (regular_initial h) (by decide) before text

theorem pieces_lineEnd (h : ∀ r ∈ own, r.Regular signs) (before text : List Char) :
    pieces (baseEntries own) before ('\n' :: text) = [(.whitespace, 1)] := by
  obtain ⟨set, hread, hset⟩ : ∃ set, readNode "\\n".toList = .ok (.one set) ∧
      set.contains '\n' = true := ⟨_, rfl, by decide⟩
  have hrules : baseRules own = (leadingRules ++ own ++ numberRules ++ [punctuationRule, wordRule])
      ++ lineEndRule :: [] := by
    rw [baseRules, trailingRules_eq]
    simp only [List.append_assoc, List.cons_append, List.nil_append]
  have hentry : lineEndRule.plain? = some _ := plain?_one .whitespace hread
  rw [baseEntries, hrules, filterMap_plain? hentry]
  refine pieces_append ?_ (pieces?_one hset .whitespace before text)
  have hregular : ∀ r ∈ leadingRules ++ own ++ numberRules ++ [punctuationRule, wordRule],
      r.Regular ['\n'] := by
    intro r hr
    rcases List.mem_append.mp hr with hr | hr
    · exact (regular_initial h r hr).mono (List.cons_subset_cons _ (List.nil_subset _))
    · simp only [List.mem_cons, List.not_mem_nil, or_false] at hr
      rcases hr with rfl | rfl
      · exact regular_punctuationRule.mono (List.cons_subset_cons _ (List.nil_subset _))
      · exact regular_wordRule.mono (List.cons_subset_cons _ (List.nil_subset _))
  exact pieces?_eq_none_of_regular hregular List.mem_cons_self before text

theorem resumes_base (h : ∀ r ∈ own, r.Regular signs) : Resumes (baseEntries own) :=
  resumes_of_regular (regular_base h) (pieces_lineEnd h) (pieces_colon h)

theorem reaches_base (h : ∀ r ∈ own, r.Regular signs) :
    ∀ e ∈ baseEntries own, e.Plain ∧ e.guard.Reaches 8 := by
  intro e he
  obtain ⟨r, hr, hentry⟩ := List.mem_filterMap.mp he
  have hregular := regular_base h r hr
  obtain ⟨n, emission, hreads, -⟩ := hregular.reads
  obtain rfl := Option.some.inj (hreads.plain?.symm.trans hentry)
  exact ⟨⟨_, _, _, rfl⟩, hregular.reaches⟩

/-! ## The table -/

/-- The table of a language is built, and without openers it is flat. -/
theorem exists_flat (h : ∀ r ∈ own, r.Regular signs) : ∃ t, Table.build (specs own) = .ok t ∧
    t.Settles ∧ t.withoutOpeners.Flat 1 (baseEntries own) := by
  have hregular := regular_base h
  obtain ⟨es, slots, hes⟩ := Rule.Regular.resolvedRules hregular ["root", "base"] 0
  have hpush (slots : Nat) : Table.ResolvedRules ["root", "base"] slots [.push "base"]
      [⟨{}, .push 1⟩] slots := .cons (.push (fun h => nomatch h) rfl) .nil
  have hbuild : Table.build (specs own) = .ok ⟨[⟨"root", [⟨{}, .push 1⟩]⟩, ⟨"base", es⟩], 0⟩ :=
    Table.build_eq_ok.mpr ⟨rfl, rfl, .cons (hpush 0) (.cons hes .nil)⟩
  refine ⟨_, hbuild, Table.settles_of_build hbuild fun spec hspec r hr => ?_, ?_⟩
  · simp only [specs, List.mem_cons, List.not_mem_nil, or_false] at hspec
    rcases hspec with rfl | rfl
    · rw [List.mem_singleton.mp hr]
      exact .push "base"
    · exact (hregular r hr).made
  · -- building without openers gives both the explicit table and the one made from the first
    have hplain := Rule.Regular.resolvedRules_withoutOpener hregular ["root", "base"] 0
    have hbuild' : Table.build ((specs own).map StateSpec.withoutOpeners)
        = .ok ⟨[⟨"root", [⟨{}, .push 1⟩]⟩, ⟨"base", baseEntries own⟩], 0⟩ :=
      Table.build_eq_ok.mpr ⟨rfl, rfl, .cons (hpush 0) (.cons hplain .nil)⟩
    rw [← Except.ok.inj (hbuild'.symm.trans (Table.build_withoutOpeners hbuild))]
    exact ⟨Nat.succ_pos _, rfl, rfl, fun e he => (reaches_base h e he).1⟩

end Base

/-- The rules of a language's own. -/
def rules : Language → List Rule
  | etl => Etl.rules
  | eol => Eol.rules
  | emfatic => Emfatic.rules

theorem table_eq (l : Language) : l.table = tableOf (Table.build (specs l.rules)) := by
  cases l <;> rfl

/-- Of the rules of a language's own, only the one for block comments begins with a slash. -/
theorem eq_blockComment_or_regular (l : Language) :
    ∀ r ∈ l.rules, r = blockComment ∨ r.Regular ('/' :: signs) := by
  intro r hr
  cases l with
  | etl => exact regular_of_mem_etl hr
  | eol => exact (mem_eol_rules hr).imp_right Keywords.regular
  | emfatic =>
    rcases mem_emfatic_rules hr with rfl | hcomment | hkeywords
    · exact .inr (.groups (by decide) readNode_annotation (.remark (by decide) _))
    · exact .inl hcomment
    · exact .inr hkeywords.regular

theorem blockComment_mem_rules (l : Language) : blockComment ∈ l.rules := by
  cases l with
  | etl => exact List.mem_cons_self
  | eol => exact List.mem_cons_self
  | emfatic => exact List.mem_cons_of_mem _ List.mem_cons_self

theorem regular_rules (l : Language) : ∀ r ∈ l.rules, r.Regular signs := by
  intro r hr
  rcases l.eq_blockComment_or_regular r hr with rfl | hregular
  · exact regular_blockComment
  · exact hregular.mono (List.subset_cons_self _ _)

/-- The tokens of a language are those of its rules without openers. -/
theorem tokenize_eq_tokensFrom (l : Language) (input : String) :
    l.lexer.tokenize input = tokensFrom (baseEntries l.rules) [] input.toList 0 := by
  obtain ⟨t, hbuild, hsettles, hflat⟩ := exists_flat l.regular_rules
  have htable : l.table = t := by rw [l.table_eq, hbuild]; rfl
  have htokens : l.lexer.tokenize input = t.tokenize input := congrArg (·.tokenize input) htable
  rw [htokens, ← hsettles.tokenize_eq, hflat.tokenize_eq]

end TableLexer.Language
