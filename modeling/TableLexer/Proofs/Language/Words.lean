import TableLexer.Proofs.Language.Starts

/-!
# Words of EOL and Emfatic

`tokenize_words`: in EOL and Emfatic, a token that begins with a word character other than a digit is the whole
run of word characters. It is a keyword, a constant or a type if it is on the list and no word character stands
before it, and plain text otherwise.

Proof. Where a word begins, only the three rules for words may take something before the trailing rules do
(`pieces_word`). Each takes the run if it is on its list (`pieces?_words`), whichever words on the
list begin with each other, and no word is on two lists (`Vocabulary.Parted`).
-/

namespace TableLexer
open Pattern (wordAt startsName isName)

namespace Language

/-! ## Vocabularies -/

/-- The words of a language that are no plain text, apart from the constants. -/
structure Vocabulary where
  reserved : List String
  types : List String

/-- The constants of all languages with a vocabulary. -/
def constants : List String := ["true", "false", "self"]

/-- The vocabulary of a language, if it has one. -/
def vocabulary? : Language → Option Vocabulary
  | etl => none
  | eol => some ⟨Eol.reserved, Eol.types⟩
  | emfatic => some ⟨Emfatic.reserved, Emfatic.types⟩

namespace Vocabulary

/-- The rules for the words. -/
def rules (v : Vocabulary) : List Rule := [
  .token (words v.reserved) .keywordReserved,
  .token (words constants) .commentPreproc,
  .token (words v.types) .keywordType]

/-- The lists are made of names, and no word is on two of them. -/
structure Parted (v : Vocabulary) : Prop where
  reserved : v.reserved ≠ [] ∧ ∀ w ∈ v.reserved, isName w.toList = true
  types : v.types ≠ [] ∧ ∀ w ∈ v.types, isName w.toList = true
  constants : ∀ w ∈ constants, w ∉ v.reserved
  others : ∀ w ∈ v.types, w ∉ v.reserved ∧ w ∉ Language.constants

/-- The kind of a word. -/
def kind (v : Vocabulary) (w : String) : Kind :=
  if w ∈ v.reserved then .keywordReserved
  else if w ∈ constants then .commentPreproc
  else if w ∈ v.types then .keywordType
  else .text

end Vocabulary

variable {l : Language} {v : Vocabulary}

theorem parted (hv : l.vocabulary? = some v) : v.Parted := by
  cases l with
  | etl => cases hv
  | eol =>
    cases hv
    exact ⟨by decide, by decide, by decide, by decide⟩
  | emfatic =>
    cases hv
    exact ⟨by decide, by decide, by decide, by decide⟩

theorem rules_eq (hv : l.vocabulary? = some v) :
    ∃ init, l.rules = init ++ v.rules ∧ ∀ r ∈ init, r = annotationRule ∨ r = blockComment := by
  cases l with
  | etl => cases hv
  | eol =>
    cases hv
    exact ⟨[blockComment], rfl, by simp⟩
  | emfatic =>
    cases hv
    exact ⟨[annotationRule, blockComment], rfl, by simp⟩

/-! ## What is taken where a word begins -/

theorem startsIn_annotationRule : annotationRule.StartsIn (.single '@') := by
  refine ⟨_, _, reads_annotationRule, fun c hc => ?_⟩
  rwa [Pattern.opens_remark] at hc

section Position
variable {before text : List Char}

theorem findSome?_vocabulary (h : v.Parted) (hword : wordAt text ≠ []) :
    (v.rules.findSome? (·.pieces? before text)).getD [(.text, (wordAt text).length)] =
      [(if before.head?.any Unicode.word.contains then .text else v.kind (.ofList (wordAt text)),
        (wordAt text).length)] := by
  have hconstants : ∀ w ∈ constants, isName w.toList = true := by decide
  rw [Vocabulary.rules, List.findSome?_cons, List.findSome?_cons, List.findSome?_cons,
    pieces?_words h.reserved.1 h.reserved.2 _ hword, pieces?_words (by decide) hconstants _ hword,
    pieces?_words h.types.1 h.types.2 _ hword, Vocabulary.kind]
  by_cases hinside : before.head?.any Unicode.word.contains = true
  · simp [hinside]
  · rw [Bool.not_eq_true] at hinside
    simp only [hinside, true_and, Bool.false_eq_true, if_false]
    by_cases hreserved : String.ofList (wordAt text) ∈ v.reserved
    · simp only [hreserved, if_true, Option.getD_some]
    by_cases hconstant : String.ofList (wordAt text) ∈ constants
    · simp only [hreserved, hconstant, if_true, if_false, Option.getD_some]
    by_cases htype : String.ofList (wordAt text) ∈ v.types
    · simp only [hreserved, hconstant, htype, if_true, if_false, Option.getD_some]
    · simp only [hreserved, hconstant, htype, if_false, List.findSome?_nil, Option.getD_none]

theorem pieces_word (hv : l.vocabulary? = some v) (hname : startsName text = true) (before : List Char) :
    pieces (baseEntries l.rules) before text =
      [(if before.head?.any Unicode.word.contains then .text else v.kind (.ofList (wordAt text)),
        (wordAt text).length)] := by
  obtain ⟨init, hrules, hinit⟩ := rules_eq hv
  obtain ⟨c, cs, rfl, hword, -⟩ := Pattern.startsName_iff.mp hname
  have hcomments : init.findSome? (·.pieces? before (c :: cs)) = none := by
    refine List.findSome?_eq_none_iff.mpr fun r hr => ?_
    rcases hinit r hr with rfl | rfl
    · exact startsIn_annotationRule.pieces?_eq_none (not_mem_at_of_word hword) before cs
    · exact startsIn_blockComment.pieces?_eq_none (not_mem_initials_of_word hword) before cs
  rw [pieces, findSome?_base (not_mem_initials_of_word hword), findSome?_trailingRules hname,
    hrules, List.findSome?_append, hcomments, Option.none_or]
  rw [← findSome?_vocabulary (parted hv) (Pattern.wordAt_ne_nil_iff.mpr ⟨c, cs, rfl, hword⟩)]
  cases v.rules.findSome? (·.pieces? before (c :: cs)) <;> rfl

end Position

/-- **Words of EOL and Emfatic.** A token that begins with a word character other than a digit is the run of word
characters. Where no word character stands before it, its kind tells on which list it is, if on any; elsewhere it
is plain text. -/
theorem tokenize_words (hv : l.vocabulary? = some v) (input : String) : ∀ t ∈ l.lexer.tokenize input,
    ∀ before rest, input.toList = before ++ rest → t.offset = byteLength before → startsName rest = true →
      t.text = .ofList (wordAt rest) ∧
      ((∀ c ∈ before.getLast?, c ∉ Unicode.word) →
        (t.text ∈ v.reserved → t.kind = .keywordReserved) ∧
        (t.text ∈ constants → t.kind = .commentPreproc) ∧
        (t.text ∈ v.types → t.kind = .keywordType) ∧
        (t.text ∉ v.reserved → t.text ∉ constants → t.text ∉ v.types → t.kind = .text)) ∧
      ((∃ c ∈ before.getLast?, c ∈ Unicode.word) → t.kind = .text) := by
  intro t ht before rest hinput hoffset hname
  have hpieces := pieces_word hv hname before.reverse
  rw [List.head?_reverse] at hpieces
  obtain rfl := token_eq_of_pieces ht hinput hoffset (Pattern.wordAt_begins rest) hpieces
  have hparted := parted hv
  refine ⟨rfl, fun hbefore => ?_, fun hbefore => ?_⟩
  · simp only [any_word_eq_false hbefore, Bool.false_eq_true, if_false, Vocabulary.kind]
    refine ⟨fun h => if_pos h, fun h => ?_, fun h => ?_, fun hreserved hconstant htype => ?_⟩
    · rw [if_neg (hparted.constants _ h), if_pos h]
    · rw [if_neg (hparted.others _ h).1, if_neg (hparted.others _ h).2, if_pos h]
    · rw [if_neg hreserved, if_neg hconstant, if_neg htype]
  · exact if_pos (any_word_iff.mpr hbefore)

/-- Of the reserved words `break` and `breakAll`, the longer one stands there. -/
theorem tokenize_words_breakAll :
    let input := "breakAll;"
    let token : Token := ⟨.keywordReserved, "breakAll", 0⟩
    eol.vocabulary? = some ⟨Eol.reserved, Eol.types⟩ ∧ startsName input.toList = true ∧
      token ∈ eol.lexer.tokenize input := by
  intro input token
  have hname : startsName input.toList = true := by decide
  obtain ⟨t, ht, hoffset⟩ : ∃ t ∈ eol.lexer.tokenize input, t.offset = 0 :=
    exists_token_at_start eol (by decide)
  obtain ⟨htext, houtside, -⟩ := tokenize_words (l := eol) rfl input t ht [] _ rfl hoffset hname
  have hword : t.text = "breakAll" := htext.trans (by decide)
  have hstart : ∀ c ∈ ([] : List Char).getLast?, c ∉ Unicode.word := by
    intro c hc
    cases hc
  have hreserved : "breakAll" ∈ Eol.reserved := by decide
  have hkind := (houtside hstart).1 (hword.symm ▸ hreserved)
  have htoken : t = token := Token.eq_of_fields hkind hword hoffset
  exact ⟨rfl, hname, htoken ▸ ht⟩

end Language

end TableLexer
