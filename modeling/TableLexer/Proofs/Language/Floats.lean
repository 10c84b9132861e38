import TableLexer.Proofs.Language.Numbers

/-!
# Floats without a point

`tokenize_scaledDigits`: digits with an exponent or a suffix but without a point are one float if there is
just one digit. Of several digits, the first token is an integer and leaves the exponent or the suffix to
later tokens (`firstInteger`).

Proof. The patterns for floats have one digit before an exponent or a suffix where there is no point, so they
refuse several digits (`floatNode_excludes_scaledDigits`). Those in bases sixteen and two do as well, so the
pattern in base eight or ten takes what it can of the digits.
-/

namespace TableLexer.Language
open Pattern (Node Excludes Meets Misses Prefers)
open Unicode (CharSet)
open Pattern.Node (ofSeq ofAlts one run optional)

/-! ## Digits with a scale -/

/-- A digit, and then digits and underscores. -/
def IsDigits (w : List Char) : Prop :=
  ∃ c cs, w = c :: cs ∧ c ∈ Unicode.Ascii.digit ∧ ∀ d ∈ cs, d ∈ Unicode.Ascii.digit ∨ d = '_'

/-- The letters that may end a float. -/
def suffixes : List Char := ['f', 'F', 'd', 'D']

/-- What makes digits a float: an exponent, perhaps with a suffix, or a suffix. -/
inductive IsScale : List Char → Prop
  | exponent {e : Char} {sign digits suffix : List Char} (he : e ∈ ['e', 'E']) (hsign : sign ∈ [[], ['+'], ['-']])
      (hdigits : IsDigits digits) (hsuffix : suffix = [] ∨ ∃ c ∈ suffixes, suffix = [c]) :
      IsScale (e :: (sign ++ (digits ++ suffix)))
  | suffix {c : Char} (hc : c ∈ suffixes) : IsScale [c]

/-- The tree of an exponent, perhaps with a suffix, or of a suffix. -/
def scaleNode : Node := .alt (ofSeq (exponentNodes 'e' 'E' ++ [optional (one suffix)])) (one suffix)

theorem mem_decimal {c : Char} (hc : c ∈ Unicode.Ascii.digit) : c ∈ decimal :=
  CharSet.mem_union.mpr (.inr hc)

theorem mem_spaced_decimal {c : Char} (hc : c ∈ Unicode.Ascii.digit ∨ c = '_') : c ∈ spaced decimal :=
  CharSet.mem_union.mpr (hc.imp mem_decimal CharSet.mem_single.mpr)

theorem mem_suffix {c : Char} (hc : c ∈ suffixes) : c ∈ suffix := by
  simp only [suffixes, List.mem_cons, List.not_mem_nil, or_false] at hc
  rcases hc with rfl | rfl | rfl | rfl <;> decide

theorem IsDigits.denotes {w : List Char} (h : IsDigits w) : (ofSeq (digitsNodes decimal)).Denotes w := by
  obtain ⟨c, cs, rfl, hc, hcs⟩ := h
  refine ⟨[c], cs, rfl, ⟨c, mem_decimal hc, rfl⟩, Node.denotes_run.mpr ⟨Nat.zero_le _, fun d hd => ?_⟩⟩
  exact mem_spaced_decimal (hcs d hd)

theorem denotes_suffix {w : List Char} (h : w = [] ∨ ∃ c ∈ suffixes, w = [c]) :
    (optional (one suffix)).Denotes w := by
  refine Node.denotes_optional.mpr (h.imp_right fun h => ?_)
  obtain ⟨c, hc, rfl⟩ := h
  exact ⟨c, mem_suffix hc, rfl⟩

theorem IsScale.denotes {w : List Char} (h : IsScale w) : scaleNode.Denotes w := by
  cases h with
  | suffix hc => exact .inr ⟨_, mem_suffix hc, rfl⟩
  | @exponent e sign digits suffix he hsign hdigits hsuffix =>
    have hletter : (one (either 'e' 'E')).Denotes [e] := by
      refine ⟨e, ?_, rfl⟩
      simp only [List.mem_cons, List.not_mem_nil, or_false] at he
      rcases he with rfl | rfl <;> decide
    have hsign : (optional (one (either '+' '-'))).Denotes sign := by
      refine Node.denotes_optional.mpr ?_
      simp only [List.mem_cons, List.not_mem_nil, or_false] at hsign
      rcases hsign with rfl | rfl | rfl
      · exact .inl rfl
      · exact .inr ⟨'+', by decide, rfl⟩
      · exact .inr ⟨'-', by decide, rfl⟩
    have hend : (ofSeq (digitsNodes decimal ++ [optional (one Language.suffix)])).Denotes (digits ++ suffix) :=
      Node.denotes_ofSeq_append.mpr ⟨digits, suffix, rfl, hdigits.denotes, denotes_suffix hsuffix⟩
    exact .inl ⟨[e], _, rfl, hletter, sign, _, rfl, hsign, hend⟩

theorem floatNode_denotes {c : Char} (hc : c ∈ Unicode.Ascii.digit) {s : List Char} (hs : IsScale s) :
    floatNode.Denotes (c :: s) := by
  have hdigit : (one decimal).Denotes [c] := ⟨c, mem_decimal hc, rfl⟩
  rcases hs.denotes with hexponent | hsuffix
  · exact .inr (.inl ⟨[c], s, rfl, hdigit, hexponent⟩)
  · exact .inr (.inr (.inl ⟨[c], s, rfl, hdigit, [], s, rfl, Node.denotes_optional.mpr (.inl rfl), hsuffix⟩))

/-! ## Several digits with a scale -/

/-- The tree of several digits with a scale, of which the first is in the set. -/
def scaledDigits (first : CharSet) : Node := ofSeq [one first, run (spaced decimal) 1, scaleNode]

theorem floatNode_excludes_scaledDigits {first : CharSet} (hfirst : first.apart (.single '.') = true) :
    Excludes beyond floatNode (scaledDigits first) :=
  floatNode_excludes (pointedNode_excludes_run hfirst (fun _ hc => hc) rfl rfl) rfl rfl
    (.of_second rfl rfl rfl _ _)

theorem hexNode_excludes_scaledDigits (first : CharSet) : Excludes beyond hexNode (scaledDigits first) :=
  .of_second rfl rfl rfl _ _

theorem binNode_excludes_scaledDigits (first : CharSet) : Excludes beyond binNode (scaledDigits first) :=
  .of_second rfl rfl rfl _ _

theorem mem_positive {c : Char} (hc : c ∈ Unicode.Ascii.digit) (hzero : c ≠ '0') :
    c ∈ positive := by
  have hrange {a b : Char} : c ∈ CharSet.range a b ↔ a.toNat ≤ c.toNat ∧ c.toNat ≤ b.toNat := CharSet.mem_range
  have hne : c.toNat ≠ 48 := fun h => hzero (Char.ext (UInt32.toNat_inj.mp h))
  refine CharSet.mem_union.mpr (.inr ?_)
  rw [Unicode.Ascii.digit, hrange] at hc
  rw [hrange]
  simp only [Char.reduceToNat] at hc ⊢
  omega

theorem digit_of_positive {c : Char} (hc : c ∈ positive) : c ∈ Unicode.Ascii.digit := by
  have hrange : c ∈ CharSet.range '1' '9' := (CharSet.mem_union.mp hc).resolve_left (CharSet.not_mem_empty c)
  rw [CharSet.mem_range] at hrange
  exact CharSet.mem_range.mpr ⟨Char.le_trans (by decide) hrange.1, hrange.2⟩

section Several
variable {c : Char} {digits scale rest : List Char}

theorem scaledDigits_denotes {first : CharSet} (hc : c ∈ first) (hne : digits ≠ [])
    (hdigits : ∀ d ∈ digits, d ∈ spaced decimal) (hscale : IsScale scale) :
    (scaledDigits first).Denotes (c :: (digits ++ scale)) :=
  ⟨[c], _, rfl, ⟨c, hc, rfl⟩, digits, scale, rfl,
    Node.denotes_run.mpr ⟨List.length_pos_iff.mpr hne, hdigits⟩, hscale.denotes⟩

theorem IsScale.misses (h : IsScale scale) {set : CharSet} (hapart : scaleNode.starts.apart set = true)
    (rest : List Char) : Misses set (scale ++ rest) := by
  refine h.denotes.misses (fun c hc => CharSet.not_mem_of_apart hapart hc) fun hnull => ?_
  cases hnull

theorem zero_mem_single : '0' ∈ CharSet.single '0' := CharSet.mem_single.mpr rfl

theorem refuses_severalDigits {first : CharSet} (hc : c ∈ first) (hfirst : first.apart (.single '.') = true)
    (hne : digits ≠ []) (hdigits : ∀ d ∈ digits, d ∈ spaced decimal) (hscale : IsScale scale)
    (hrest : Meets beyond rest) :
    ∀ q ∈ numeralNodes.take 3, q.1.Refuses (c :: digits ++ (scale ++ rest)) := by
  have hdenotes := scaledDigits_denotes hc hne hdigits hscale
  have htext : c :: digits ++ (scale ++ rest) = c :: (digits ++ scale) ++ rest := by
    rw [List.cons_append, List.cons_append, List.append_assoc]
  intro q hq
  simp only [numeralNodes, List.take_succ_cons, List.take_zero, List.mem_cons, List.not_mem_nil,
    or_false] at hq
  rw [htext]
  rcases hq with rfl | rfl | rfl
  · exact floatNode_excludes_scaledDigits hfirst _ _ hdenotes hrest
  · exact hexNode_excludes_scaledDigits first _ _ hdenotes hrest
  · exact binNode_excludes_scaledDigits first _ _ hdenotes hrest

theorem octNode_refuses (hc : c ∈ positive) (text : List Char) : octNode.Refuses (c :: text) := by
  refine .of_misses rfl (Pattern.misses_cons_iff.mpr ?_)
  exact CharSet.not_mem_of_apart (s := positive) rfl hc

theorem integerNode_prefers (hc : c ∈ positive) (hdigits : ∀ d ∈ digits, d ∈ spaced decimal)
    (hscale : IsScale scale) (rest : List Char) :
    Prefers integerNode.ways (c :: digits) (scale ++ rest) := by
  have hpositive : positiveNode.Denotes (c :: digits) :=
    ⟨[c], digits, rfl, ⟨c, hc, rfl⟩, digits, [], (List.append_nil _).symm,
      Node.denotes_run.mpr ⟨Nat.zero_le _, hdigits⟩, Node.denotes_optional.mpr (.inl rfl)⟩
  exact Node.prefers_of_firm rfl (.inr hpositive) (hscale.misses rfl rest)

/-- After a zero, the pattern in base eight takes what it can of the digits. -/
theorem octNode_prefers {octals more : List Char} (hne : octals ≠ [])
    (hoctals : ∀ d ∈ octals, d ∈ spaced octal) (hmore : ∀ d ∈ more, d ∈ spaced decimal)
    (hend : Misses (spaced octal) more) (hscale : IsScale scale) (rest : List Char) :
    Prefers octNode.ways ('0' :: octals) (more ++ (scale ++ rest)) := by
  have hdenotes : octNode.Denotes ('0' :: octals) :=
    ⟨['0'], octals, rfl, ⟨'0', by decide, rfl⟩, octals, [], (List.append_nil _).symm,
      Node.denotes_run.mpr ⟨List.length_pos_iff.mpr hne, hoctals⟩, Node.denotes_optional.mpr (.inl rfl)⟩
  refine Node.prefers_of_firm rfl hdenotes ?_
  cases more with
  | nil => exact hscale.misses rfl rest
  | cons d more =>
    have hletter : d ∉ either 'l' 'L' :=
      CharSet.not_mem_of_apart (s := spaced decimal) rfl (hmore d List.mem_cons_self)
    have hgrowth : octNode.growth = (spaced octal ∪ .empty) ∪ (either 'l' 'L' ∪ .empty) := rfl
    rw [hgrowth, List.cons_append, Pattern.misses_cons_iff]
    simp only [CharSet.mem_union, CharSet.not_mem_empty, or_false, not_or]
    exact ⟨Pattern.misses_cons_iff.mp hend, hletter⟩

/-- Where the digits after a zero have no place in base eight, the zero is all that is taken. -/
theorem octNode_refuses_zero {d : Char} (hd : d ∉ spaced octal) (text : List Char) :
    octNode.Refuses ('0' :: d :: text) :=
  .one_seq (.of_misses rfl (Pattern.misses_cons_iff.mpr hd)) _ _

theorem integerNode_prefers_zero (text : List Char) : Prefers integerNode.ways ['0'] text := by
  have hzero : Prefers (one (.single '0')).ways ['0'] text :=
    Node.prefers_of_firm rfl ⟨'0', CharSet.mem_single.mpr rfl, rfl⟩ fun c _ => CharSet.not_mem_empty c
  exact hzero.left

end Several

/-! ## What is taken -/

/-- What is taken of several digits: all of them, or if the first one is a zero, those before the first one that
has no place in base eight. -/
def firstInteger (digits : List Char) : Kind × List Char :=
  if digits.head? = some '0' then
    let octals := digits.takeWhile (spaced octal).contains
    (if octals.length = 1 then .numberInteger else .numberOct, octals)
  else (.numberInteger, digits)

theorem firstInteger_begins (digits : List Char) : (firstInteger digits).2 <+: digits := by
  unfold firstInteger
  split
  · exact List.takeWhile_prefix _
  · exact List.prefix_refl _

section Position
variable {l : Language} {before digits octals more scale rest : List Char} {c d : Char}

theorem pieces_integer (hfree : FreeOfNames l before) (hc : c ∈ Unicode.Ascii.digit)
    (hrefuses : ∀ q ∈ numeralNodes.take 3, q.1.Refuses (c :: digits ++ rest))
    (hoctal : octNode.Refuses (c :: digits ++ rest)) (hprefers : Prefers integerNode.ways (c :: digits) rest) :
    pieces (baseEntries l.rules) before.reverse (c :: digits ++ rest)
      = [(.numberInteger, (c :: digits).length)] := by
  have hall : numeralNodes
      = (numeralNodes.take 3 ++ [(octNode, .numberOct)]) ++ (integerNode, .numberInteger) :: [] := rfl
  refine pieces_numeral hfree hall (.inl hc) (fun q hq => ?_) hprefers
  rcases List.mem_append.mp hq with hq | hq
  · exact hrefuses q hq
  · rw [List.mem_singleton.mp hq]
    exact hoctal

theorem pieces_positiveDigits (hfree : FreeOfNames l before) (hc : c ∈ positive) (hne : digits ≠ [])
    (hdigits : ∀ d ∈ digits, d ∈ spaced decimal) (hscale : IsScale scale) (hrest : Meets beyond rest) :
    pieces (baseEntries l.rules) before.reverse (c :: digits ++ (scale ++ rest))
      = [(.numberInteger, (c :: digits).length)] :=
  pieces_integer hfree (digit_of_positive hc) (refuses_severalDigits hc rfl hne hdigits hscale hrest)
    (octNode_refuses hc _) (integerNode_prefers hc hdigits hscale rest)

theorem pieces_octals (hfree : FreeOfNames l before) (hne : octals ≠ [])
    (hoctals : ∀ d ∈ octals, d ∈ spaced octal) (hmore : ∀ d ∈ more, d ∈ spaced decimal)
    (hend : Misses (spaced octal) more) (hscale : IsScale scale) (hrest : Meets beyond rest) :
    pieces (baseEntries l.rules) before.reverse ('0' :: octals ++ (more ++ (scale ++ rest)))
      = [(.numberOct, ('0' :: octals).length)] := by
  have hall : numeralNodes = numeralNodes.take 3 ++ (octNode, .numberOct) :: numeralNodes.drop 4 := rfl
  refine pieces_numeral hfree hall (.inl (by decide)) ?_ (octNode_prefers hne hoctals hmore hend hscale rest)
  have hdigits : ∀ d ∈ octals ++ more, d ∈ spaced decimal := fun d hd =>
    (List.mem_append.mp hd).elim (fun hd => spaced_octal_subset d (hoctals d hd)) (hmore d)
  have htext : '0' :: octals ++ (more ++ (scale ++ rest)) = '0' :: (octals ++ more) ++ (scale ++ rest) := by
    rw [List.cons_append, List.cons_append, List.append_assoc]
  rw [htext]
  exact refuses_severalDigits zero_mem_single rfl (List.append_ne_nil_of_left_ne_nil hne more) hdigits hscale hrest

theorem pieces_zero (hfree : FreeOfNames l before) (hd : d ∉ spaced octal)
    (hdigits : ∀ d' ∈ d :: more, d' ∈ spaced decimal) (hscale : IsScale scale) (hrest : Meets beyond rest) :
    pieces (baseEntries l.rules) before.reverse ('0' :: d :: more ++ (scale ++ rest)) = [(.numberInteger, 1)] := by
  have hrefuses := refuses_severalDigits zero_mem_single rfl (List.cons_ne_nil d more) hdigits hscale hrest
  have htext : '0' :: d :: more ++ (scale ++ rest) = ['0'] ++ (d :: more ++ (scale ++ rest)) := rfl
  rw [htext] at hrefuses ⊢
  exact pieces_integer hfree (by decide) hrefuses (octNode_refuses_zero hd _) (integerNode_prefers_zero _)

/-- What is taken of several digits with a scale. -/
theorem pieces_severalDigits (hfree : FreeOfNames l before) (hdigits : IsDigits digits)
    (hlength : 1 < digits.length) (hscale : IsScale scale) (hrest : Meets beyond rest) :
    pieces (baseEntries l.rules) before.reverse (digits ++ (scale ++ rest))
      = [((firstInteger digits).1, (firstInteger digits).2.length)] := by
  obtain ⟨c, cs, rfl, hc, hmore⟩ := hdigits
  have hne : cs ≠ [] := by
    rintro rfl
    exact Nat.lt_irrefl _ hlength
  have hcs : ∀ d ∈ cs, d ∈ spaced decimal := fun d hd => mem_spaced_decimal (hmore d hd)
  by_cases hzero : c = '0'
  · subst hzero
    -- after a zero, the pattern in base eight is tried before the one for integers
    obtain ⟨octals, hoctals⟩ : ∃ octals, cs.takeWhile (spaced octal).contains = octals := ⟨_, rfl⟩
    obtain ⟨more, hrun⟩ : ∃ more, cs.dropWhile (spaced octal).contains = more := ⟨_, rfl⟩
    have hfirst : firstInteger ('0' :: cs) =
        (if ('0' :: octals).length = 1 then .numberInteger else .numberOct, '0' :: octals) := by
      rw [← hoctals]
      rfl
    have hsplit : cs = octals ++ more := by rw [← hoctals, ← hrun, List.takeWhile_append_dropWhile]
    have hend : Misses (spaced octal) more := by
      intro d hd
      have hnot := List.head?_dropWhile_not (spaced octal).contains cs
      rw [hrun, hd] at hnot
      exact Bool.eq_false_iff.mp hnot
    have hin : ∀ d ∈ octals, d ∈ spaced octal := by
      rw [← hoctals]
      exact List.all_eq_true.mp List.all_takeWhile
    rw [hfirst]
    subst hsplit
    cases octals with
    | nil =>
      cases more with
      | nil => exact absurd rfl hne
      | cons d more => exact pieces_zero hfree (Pattern.misses_cons_iff.mp hend) hcs hscale hrest
    | cons d octals =>
      have hmore : ∀ d ∈ more, d ∈ spaced decimal := fun d' hd' => hcs d' (List.mem_append_right _ hd')
      have htext : '0' :: (d :: octals ++ more) ++ (scale ++ rest)
          = '0' :: d :: octals ++ (more ++ (scale ++ rest)) := by
        simp only [List.cons_append, List.append_assoc]
      rw [htext, if_neg (by simp)]
      exact pieces_octals hfree (List.cons_ne_nil d octals) hin hmore hend hscale hrest
  · have hfirst : firstInteger (c :: cs) = (.numberInteger, c :: cs) := by
      rw [firstInteger, if_neg]
      simpa using hzero
    rw [hfirst]
    exact pieces_positiveDigits hfree (mem_positive hc hzero) hne hcs hscale hrest

end Position

/-! ## Tokens -/

/-- **Decimal floats without a point.** Where a token begins, in ETL not right after `rule ` or `extends `, a
digit with an exponent or a suffix up to the end or a character that is neither a word character nor a point is
one float. Of several digits with an exponent or a suffix, the token is an integer in base ten or eight that
ends before the exponent or the suffix, or earlier. -/
theorem tokenize_scaledDigits (l : Language) (input : String) : ∀ t ∈ l.lexer.tokenize input,
    ∀ before digits scale rest, input.toList = before ++ (digits ++ (scale ++ rest)) →
      t.offset = byteLength before → (l = etl → ∀ text ∈ ["rule ", "extends "], ¬ text.toList <:+ before) →
      (∀ c ∈ rest.head?, c ∉ Unicode.word ∧ c ≠ '.') → IsDigits digits → IsScale scale →
      (digits.length = 1 → t = ⟨.numberFloat, .ofList (digits ++ scale), byteLength before⟩) ∧
      (1 < digits.length → t = ⟨(firstInteger digits).1, .ofList (firstInteger digits).2, byteLength before⟩) := by
  intro t ht before digits scale rest hinput hoffset hfree hrest hdigits hscale
  have hmeets : Meets beyond rest := fun c hc => mem_beyond (hrest c hc).1 (hrest c hc).2
  constructor
  · intro hlength
    obtain ⟨c, cs, rfl, hc, -⟩ := hdigits
    obtain rfl : cs = [] := List.length_eq_zero_iff.mp (Nat.succ.inj hlength)
    have hpieces := pieces_number (l := l) hfree (q := (floatNode, .numberFloat)) List.mem_cons_self
      (floatNode_denotes hc hscale) hmeets
    exact token_eq_of_pieces ht hinput hoffset (List.prefix_append ([c] ++ scale) rest) hpieces
  · intro hlength
    have hprefix := (firstInteger_begins digits).trans (List.prefix_append digits (scale ++ rest))
    exact token_eq_of_pieces ht hinput hoffset hprefix
      (pieces_severalDigits hfree hdigits hlength hscale hmeets)

theorem isDigits_singleton {c : Char} (hc : c ∈ Unicode.Ascii.digit) : IsDigits [c] :=
  ⟨c, [], rfl, hc, fun _ hd => absurd hd List.not_mem_nil⟩

theorem isScale_exponent {c : Char} (hc : c ∈ Unicode.Ascii.digit) : IsScale ['e', c] := by
  have hscale : IsScale ('e' :: ([] ++ ([c] ++ []))) :=
    .exponent (by decide) (by decide) (isDigits_singleton hc) (.inl rfl)
  exact hscale

theorem tokenize_scaledDigits_oneDigit :
    let token : Token := ⟨.numberFloat, "1e5", 0⟩
    token ∈ emfatic.lexer.tokenize "1e5;" ∧ IsDigits ['1'] ∧ IsScale ['e', '5'] := by
  intro token
  have hdigits : IsDigits ['1'] := isDigits_singleton (by decide)
  have hscale : IsScale ['e', '5'] := isScale_exponent (by decide)
  have hrest : ∀ c ∈ [';'].head?, c ∉ Unicode.word ∧ c ≠ '.' := by
    intro c hc
    cases hc
    decide
  obtain ⟨t, ht, hoffset⟩ : ∃ t ∈ emfatic.lexer.tokenize "1e5;", t.offset = 0 :=
    exists_token_at_start emfatic (by decide)
  have htoken := tokenize_scaledDigits emfatic _ t ht [] ['1'] ['e', '5'] [';'] (by decide) hoffset
    (fun h => by cases h) hrest hdigits hscale
  have hone : t = token := htoken.1 rfl
  exact ⟨hone ▸ ht, hdigits, hscale⟩

/-- Two digits with an exponent are no float: the digits are an integer. -/
theorem tokenize_twoDigits_exponent :
    IsDigits ['1', '2'] ∧ IsScale ['e', '5'] ∧ "12e5".toList = ['1', '2'] ++ ['e', '5'] ∧
      (⟨.numberInteger, "12", 0⟩ : Token) ∈ eol.lexer.tokenize "12e5" ∧
      (⟨.numberFloat, "12e5", 0⟩ : Token) ∉ eol.lexer.tokenize "12e5" := by
  have hdigits : IsDigits ['1', '2'] := ⟨'1', ['2'], rfl, by decide, fun d hd => by
    rw [List.mem_singleton.mp hd]
    exact .inl (by decide)⟩
  have hscale : IsScale ['e', '5'] := isScale_exponent (by decide)
  have hfree : FreeOfNames eol [] := fun h => by cases h
  have hmeets : Meets beyond [] := by
    intro c hc
    cases hc
  have hpieces := pieces_severalDigits (l := eol) hfree hdigits (by decide) hscale hmeets
  have hfirst : firstInteger ['1', '2'] = (.numberInteger, ['1', '2']) := by decide
  rw [hfirst] at hpieces
  have htoken : ∀ t ∈ eol.lexer.tokenize "12e5", t.offset = 0 → t = ⟨.numberInteger, .ofList ['1', '2'], 0⟩ := by
    intro t ht hoffset
    have hinput : "12e5".toList = [] ++ (['1', '2'] ++ (['e', '5'] ++ [])) := by decide
    exact token_eq_of_pieces ht hinput hoffset (List.prefix_append ['1', '2'] _) hpieces
  obtain ⟨t, ht, hoffset⟩ : ∃ t ∈ eol.lexer.tokenize "12e5", t.offset = 0 :=
    exists_token_at_start eol (by decide)
  refine ⟨hdigits, hscale, by decide, htoken t ht hoffset ▸ ht, fun hfloat => ?_⟩
  cases htoken _ hfloat rfl

end TableLexer.Language
