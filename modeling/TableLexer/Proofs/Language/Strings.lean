import TableLexer.Proofs.Language.Positions
import TableLexer.Proofs.Pattern.Closing

/-!
# Strings

`tokenize_strings`: in the built-in languages, a token that begins at a quote is a string up to the first
quote of the same kind that is not escaped, if there is one and no backslash stands right before the token;
otherwise it is an error. There are no other strings.

Proof. Where a quote stands, only the rule for strings in this quote may take something
(`findSome?_quote`), and no other rules make strings (`eq_stringRule_of_kind`). What the rule takes is known
from its guard and its pattern (`pieces?_stringEntry_iff`).
-/

namespace TableLexer.Language
open Pattern (Unescaped FirstUnescaped quotedNode)

/-! ## The rules for strings -/

/-- The entry of the rule for strings in one of the quotes. -/
def stringEntry (quote : Char) : Entry :=
  ⟨⟨none, ["\\"]⟩, .scan (.ofNode (quotedNode quote '\\')) none (.whole .string)⟩

theorem ne_backslash {quote : Char} (h : quote ∈ quotes) : quote ≠ '\\' := by
  rintro rfl
  revert h
  decide

theorem reads_stringRule (quote : Char) : (stringRule quote).Reads (quotedNode quote '\\') (.whole .string) := by
  have hread := Pattern.readNode_quotedPattern quote '\\'
  rw [← String.toList_ofList (l := Rule.quotedPattern quote '\\')] at hread
  exact ⟨⟨_, _, rfl, hread⟩, Pattern.advances_quotedNode _ _, .whole _ _⟩

theorem plain?_stringRule (quote : Char) : (stringRule quote).plain? = some (stringEntry quote) :=
  (reads_stringRule quote).plain?

theorem allows_stringEntry (quote : Char) (before : List Char) :
    (stringEntry quote).guard.allows before = true ↔ before.head? ≠ some '\\' := by
  show (true && !(['\\'].isPrefixOf before || false)) = true ↔ _
  cases before with
  | nil => simp
  | cons c before =>
    by_cases hc : c = '\\'
    · simp [List.isPrefixOf, hc]
    · simp [List.isPrefixOf, hc, Ne.symm hc]

section Entries
variable {quote : Char} {before text : List Char} {ps : List (Kind × Nat)}

/-- What the rule takes: a literal in quotes that does not begin right after a backslash. -/
theorem pieces?_stringEntry_iff (hquote : quote ∈ quotes) :
    (stringEntry quote).pieces? before text = some ps ↔ before.head? ≠ some '\\' ∧
      ∃ rest body, text = quote :: rest ∧ FirstUnescaped quote '\\' rest body ∧
        ps = [(.string, body.length + 2)] := by
  have hne := ne_backslash hquote
  constructor
  · intro hps
    obtain ⟨pattern, opener, emission, m, haction, hallows, hm, -, rfl⟩ := Entry.pieces?_eq_some hps
    cases haction
    obtain ⟨rest, body, htext, hfirst, rfl⟩ := (Pattern.match?_quotedNode_eq_some hne).mp hm
    exact ⟨(allows_stringEntry quote before).mp hallows, rest, body, htext, hfirst, rfl⟩
  · rintro ⟨hbefore, rest, body, rfl, hfirst, rfl⟩
    have hallows := (allows_stringEntry quote before).mpr hbefore
    have hm : (Pattern.ofNode (quotedNode quote '\\')).match? before.head? (quote :: rest)
        = some ⟨body.length + 2, []⟩ :=
      (Pattern.match?_quotedNode_eq_some hne).mpr ⟨rest, body, rfl, hfirst, rfl⟩
    simp only [stringEntry] at hallows
    simp only [stringEntry, Entry.pieces?, hallows, if_true, hm]
    rfl

end Entries

/-! ## Other rules -/

section Rules
variable {own : List Rule} {quote : Char} {before text : List Char}

theorem regular_stringRule_of_ne {other : Char} (hquote : quote ∈ quotes) (hother : other ∈ quotes)
    (hne : other ≠ quote) : (stringRule other).Regular [quote] := by
  simp only [quotes, List.mem_cons, List.not_mem_nil, or_false] at hquote hother
  rcases hquote with rfl | rfl <;> rcases hother with rfl | rfl
  · exact absurd rfl hne
  · exact (Rule.Regular.quoted (by decide) _).notAfter (by decide)
  · exact (Rule.Regular.quoted (by decide) _).notAfter (by decide)
  · exact absurd rfl hne

theorem eq_stringRule_or_regular (h : ∀ r ∈ own, r.Regular signs) (hquote : quote ∈ quotes) :
    ∀ r ∈ baseRules own, r = stringRule quote ∨ r.Regular [quote] := by
  have hquotes : [quote] ⊆ quotes := List.cons_subset.mpr ⟨hquote, List.nil_subset _⟩
  have hsigns : [quote] ⊆ signs := List.subset_append_of_subset_right seconds hquotes
  intro r hr
  rw [baseRules, leadingRules_eq, trailingRules_eq] at hr
  simp only [List.mem_append, List.mem_map, List.mem_cons, List.not_mem_nil, or_false] at hr
  rcases hr with ((⟨other, hother, rfl⟩ | hr) | hr) | hr | rfl | rfl | rfl
  · by_cases hne : other = quote
    · exact .inl (by rw [hne])
    · exact .inr (regular_stringRule_of_ne hquote hother hne)
  · exact .inr ((regular_spaceRules r hr).mono hsigns)
  · exact .inr ((h r hr).mono hsigns)
  · exact .inr ((regular_numberRules r hr).mono hsigns)
  · exact .inr (regular_punctuationRule.mono (List.subset_cons_of_subset _ hquotes))
  · exact .inr (regular_wordRule.mono hsigns)
  · exact .inr (regular_lineEndRule.mono hquotes)

theorem findSome?_quote (h : ∀ r ∈ own, r.Regular signs) (hquote : quote ∈ quotes) (before rest : List Char) :
    (baseEntries own).findSome? (·.pieces? before (quote :: rest))
      = (stringEntry quote).pieces? before (quote :: rest) := by
  have hrule : stringRule quote ∈ baseRules own := by
    rw [baseRules, leadingRules_eq, List.append_assoc, List.append_assoc]
    exact List.mem_append_left _ (List.mem_map_of_mem hquote)
  have hentry := plain?_stringRule quote
  refine findSome?_eq_of_mem (List.mem_filterMap.mpr ⟨_, hrule, hentry⟩) fun e he => ?_
  obtain ⟨r, hr, he⟩ := List.mem_filterMap.mp he
  rcases eq_stringRule_or_regular h hquote r hr with rfl | hregular
  · exact .inl (Option.some.inj (he.symm.trans hentry))
  · exact .inr (hregular.pieces?_eq_none he List.mem_cons_self before rest)

theorem pieces_string (h : ∀ r ∈ own, r.Regular signs) (hquote : quote ∈ quotes)
    (hbefore : before.head? ≠ some '\\') {rest body : List Char}
    (hfirst : FirstUnescaped quote '\\' rest body) :
    pieces (baseEntries own) before (quote :: rest) = [(.string, body.length + 2)] := by
  rw [pieces, findSome?_quote h hquote,
    (pieces?_stringEntry_iff hquote).mpr ⟨hbefore, rest, body, rfl, hfirst, rfl⟩]

theorem pieces_unclosed (h : ∀ r ∈ own, r.Regular signs) (hquote : quote ∈ quotes) {rest : List Char}
    (hnone : before.head? = some '\\' ∨ ∀ body, ¬ Unescaped quote '\\' rest body) :
    pieces (baseEntries own) before (quote :: rest)
      = [(.error, Unicode.Grapheme.firstLength (quote :: rest))] := by
  have hnothing : (stringEntry quote).pieces? before (quote :: rest) = none := by
    refine Option.eq_none_iff_forall_not_mem.mpr fun ps hps => ?_
    obtain ⟨hbefore, rest', body, hrest, hfirst, -⟩ := (pieces?_stringEntry_iff hquote).mp hps
    obtain rfl := (List.cons.inj hrest).2
    rcases hnone with hback | hnone
    · exact hbefore hback
    · exact hnone body hfirst.unescaped
  rw [pieces, findSome?_quote h hquote, hnothing]

end Rules

theorem eq_stringRule_of_kind (l : Language) {r : Rule} (hr : r ∈ baseRules l.rules)
    (hkind : .string ∈ r.kinds) : ∃ quote ∈ quotes, r = stringRule quote := by
  have hothers : ∀ r ∈ spaceRules ++ (l.rules ++ trailingRules), .string ∉ r.kinds := by
    cases l <;> decide
  rw [baseRules, leadingRules_eq, List.append_assoc, List.append_assoc] at hr
  rcases List.mem_append.mp hr with hr | hr
  · obtain ⟨quote, hquote, rfl⟩ := List.mem_map.mp hr
    exact ⟨quote, hquote, rfl⟩
  · exact absurd hkind (hothers r hr)

/-! ## Strings in a text -/

theorem take_of_firstUnescaped {quote escape : Char} {rest body : List Char}
    (h : FirstUnescaped quote escape rest body) :
    (quote :: rest).take (body.length + 2) = quote :: (body ++ [quote]) := by
  have htake := List.prefix_iff_eq_take.mp h.unescaped.quote
  rw [List.length_append, List.length_singleton] at htake
  rw [List.take_succ_cons, ← htake]

/-- **Strings of the built-in languages.** A token that begins at a quote is an error if a backslash stands
right before it. Otherwise it is a string that ends with the first later quote of the same kind with an even
number of backslashes right before it, counted after the opening quote, and an error if there is none. All
strings are of this form. -/
theorem tokenize_strings (l : Language) (input : String) : ∀ t ∈ l.lexer.tokenize input,
    (∀ before quote rest, quote ∈ quotes → input.toList = before ++ quote :: rest →
      t.offset = byteLength before →
        (before.getLast? = some '\\' → t.kind = .error) ∧
        (before.getLast? ≠ some '\\' → (∃ body, Unescaped quote '\\' rest body) →
          ∃ body, FirstUnescaped quote '\\' rest body ∧ t.kind = .string ∧
            t.text = .ofList (quote :: (body ++ [quote]))) ∧
        (before.getLast? ≠ some '\\' → (¬ ∃ body, Unescaped quote '\\' rest body) → t.kind = .error)) ∧
      (t.kind = .string → ∃ before quote rest body, quote ∈ quotes ∧ input.toList = before ++ quote :: rest ∧
        t.offset = byteLength before ∧ before.getLast? ≠ some '\\' ∧ FirstUnescaped quote '\\' rest body ∧
        t.text = .ofList (quote :: (body ++ [quote]))) := by
  intro t ht
  constructor
  · intro before quote rest hquote hinput hoffset
    obtain ⟨p, ps, hpieces, rfl⟩ := pieces_of_token ht hinput hoffset
    have herror (hnone : before.getLast? = some '\\' ∨ ∀ body, ¬ Unescaped quote '\\' rest body) :
        p.1 = .error := by
      rw [pieces_unclosed l.regular_rules hquote (by rwa [List.head?_reverse])] at hpieces
      exact congrArg Prod.fst (List.cons.inj hpieces).1.symm
    refine ⟨fun hback => herror (.inl hback), fun hback hclosing => ?_, fun _ hnone => ?_⟩
    · obtain ⟨body, hunescaped⟩ := hclosing
      obtain ⟨body, -, hfirst⟩ := hunescaped.exists_first (ne_backslash hquote)
      rw [pieces_string l.regular_rules hquote (by rwa [List.head?_reverse]) hfirst] at hpieces
      obtain rfl := (List.cons.inj hpieces).1
      exact ⟨body, hfirst, rfl, by rw [take_of_firstUnescaped hfirst]⟩
    · exact herror (.inr fun body hunescaped => hnone ⟨body, hunescaped⟩)
  · intro hkind
    obtain ⟨before, text, p, ps, hinput, -, hpieces, rfl⟩ := exists_pieces ht
    have hstring : p.1 = .string := hkind
    -- a string is no error, so a rule made it, which is the one for its quote
    obtain ⟨r, hr, e, hentry, hps, htext | hmem⟩ := exists_rule_of_kind l.regular_rules hpieces (by
      rw [hstring]
      decide)
    · rw [hstring] at htext
      cases htext
    rw [hstring] at hmem
    obtain ⟨quote, hquote, rfl⟩ := eq_stringRule_of_kind l hr hmem
    obtain rfl := Option.some.inj (hentry.symm.trans (plain?_stringRule quote))
    obtain ⟨hbefore, rest, body, rfl, hfirst, hbody⟩ := (pieces?_stringEntry_iff hquote).mp hps
    obtain rfl := (List.cons.inj hbody).1
    rw [List.head?_reverse] at hbefore
    exact ⟨before, quote, rest, body, hquote, hinput, rfl, hbefore, hfirst,
      by rw [take_of_firstUnescaped hfirst]⟩

/-- The quote after the backslash does not end the string, and neither does the other quote. -/
theorem tokenize_strings_escaped :
    let rest := ['\\', '"', '\x27', '"', ' ', 'b']
    let token : Token := ⟨.string, "\"\\\"'\"", 0⟩
    token ∈ eol.lexer.tokenize "\"\\\"'\" b" ∧ FirstUnescaped '"' '\\' rest ['\\', '"', '\x27'] := by
  intro rest token
  have hunits : Pattern.Units '"' '\\' ['\\', '"', '\x27'] :=
    .escaped (.plain (by decide) (by decide) .nil)
  have hfirst : FirstUnescaped '"' '\\' rest ['\\', '"', '\x27'] :=
    hunits.firstUnescaped (by decide) (by decide)
  obtain ⟨t, ht, hoffset⟩ : ∃ t ∈ eol.lexer.tokenize "\"\\\"'\" b", t.offset = 0 :=
    exists_token_at_start eol (by decide)
  have hquote := (tokenize_strings eol _ t ht).1 [] '"' rest (by decide) (by decide) hoffset
  obtain ⟨body, hbody, hkind, htext⟩ := hquote.2.1 (by decide) ⟨_, hfirst.unescaped⟩
  rw [hbody.unique hfirst] at htext
  have htoken : t = token := Token.eq_of_fields hkind htext hoffset
  exact ⟨htoken ▸ ht, hfirst⟩

end TableLexer.Language
