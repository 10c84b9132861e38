import TableLexer.Proofs.Pattern.Enclosed

/-!
# Where a literal in quotes ends

`match?_quotedNode_iff`: if quote and escape character differ, the pattern for a literal in quotes matches
up to the first quote that has an even number of escape characters right before it, counted after the
opening quote, and it does not match if there is no such quote.

Proof. Between the quotes the pattern reads whole units. A text of whole units has an even number of escape
characters at its end (`Units.even`), and before a quote within it the number is odd (`Units.odd`). So units
lead to the first quote with an even number before it and to no other (`Units.firstUnescaped`), and if there
is one with an even number, units lead to one (`exists_units`).
-/

namespace TableLexer.Pattern

/-! ## Escaped quotes -/

/-- The number of escape characters at the end of a text. -/
def trailing (escape : Char) (text : List Char) : Nat := (text.reverse.takeWhile (· == escape)).length

/-- A quote stands in the text after `body`, and an even number of escape characters right before it. -/
structure Unescaped (quote escape : Char) (text body : List Char) : Prop where
  quote : body ++ [quote] <+: text
  even : trailing escape body % 2 = 0

/-- The quote after `body` is the first one in the text that is not escaped. -/
structure FirstUnescaped (quote escape : Char) (text body : List Char) : Prop where
  unescaped : Unescaped quote escape text body
  first : ∀ body', Unescaped quote escape text body' → body.length ≤ body'.length

section Units
variable {quote escape c : Char} {text body body' : List Char}

theorem trailing_le (escape : Char) (body : List Char) : trailing escape body ≤ body.length := by
  have hlength := (List.takeWhile_prefix (l := body.reverse) (· == escape)).length_le
  rwa [List.length_reverse] at hlength

theorem trailing_cons (escape c : Char) (body : List Char) : trailing escape (c :: body) =
    if trailing escape body = body.length ∧ c = escape then body.length + 1 else trailing escape body := by
  rw [trailing, trailing, List.reverse_cons, List.takeWhile_append, List.length_reverse]
  by_cases hall : (body.reverse.takeWhile (· == escape)).length = body.length
  · rw [if_pos hall]
    by_cases hc : c = escape
    · rw [if_pos ⟨hall, hc⟩, hc]
      simp
    · rw [if_neg (hc ·.2), hall]
      simp [hc]
  · rw [if_neg hall, if_neg (hall ·.1)]

theorem trailing_cons_of_ne (hc : c ≠ escape) (body : List Char) :
    trailing escape (c :: body) = trailing escape body := by
  rw [trailing_cons, if_neg (hc ·.2)]

theorem trailing_escaped (escape c : Char) (body : List Char) :
    trailing escape (escape :: c :: body) % 2 = trailing escape body % 2 := by
  have hle := trailing_le escape body
  rw [trailing_cons, trailing_cons, List.length_cons]
  by_cases hall : trailing escape body = body.length ∧ c = escape
  · rw [if_pos hall, if_pos ⟨rfl, rfl⟩]
    omega
  · rw [if_neg hall, if_neg fun h => by omega]

/-! ## Units -/

theorem Units.even (h : Units quote escape body) : trailing escape body % 2 = 0 := by
  induction h with
  | nil => rfl
  | plain _ hescape _ ih => rwa [trailing_cons_of_ne hescape]
  | escaped _ ih => rwa [trailing_escaped]

theorem Units.odd (hne : quote ≠ escape) (h : Units quote escape body) (hquote : body' ++ [quote] <+: body) :
    trailing escape body' % 2 = 1 := by
  induction h generalizing body' with
  | nil => simp at hquote
  | @plain c body hplain hescape _ ih =>
    cases body' with
    | nil => exact absurd (List.cons_prefix_cons.mp hquote).1.symm hplain
    | cons d body' =>
      obtain ⟨hd, hrest⟩ := List.cons_prefix_cons.mp hquote
      rw [hd, trailing_cons_of_ne hescape]
      exact ih hrest
  | @escaped c body _ ih =>
    cases body' with
    | nil => exact absurd (List.cons_prefix_cons.mp hquote).1 hne
    | cons d body' =>
      obtain ⟨hd, hrest⟩ := List.cons_prefix_cons.mp hquote
      rw [hd]
      cases body' with
      | nil => simp [trailing]
      | cons d' body' =>
        rw [trailing_escaped]
        exact ih (List.cons_prefix_cons.mp hrest).2

/-- If a quote is not escaped, units lead to a quote. -/
theorem exists_units (rest : List Char) : ∀ body, trailing escape body % 2 = 0 →
    ∃ body', Units quote escape body' ∧ body' ++ [quote] <+: body ++ quote :: rest
  | [], _ => ⟨[], .nil, rest, rfl⟩
  | c :: body, heven => by
    by_cases hc : c = quote
    · exact ⟨[], .nil, body ++ quote :: rest, by rw [hc]; rfl⟩
    -- an escape character takes the next one with it into a unit
    by_cases hescape : c = escape
    · rw [hescape] at heven ⊢
      match body with
      | [] => simp [trailing] at heven
      | d :: body =>
        rw [trailing_escaped] at heven
        obtain ⟨body', hunits, hprefix⟩ := exists_units rest body heven
        refine ⟨escape :: d :: body', .escaped hunits, ?_⟩
        exact List.cons_prefix_cons.mpr ⟨rfl, List.cons_prefix_cons.mpr ⟨rfl, hprefix⟩⟩
    · rw [trailing_cons_of_ne hescape] at heven
      obtain ⟨body', hunits, hprefix⟩ := exists_units rest body heven
      exact ⟨c :: body', .plain hc hescape hunits, List.cons_prefix_cons.mpr ⟨rfl, hprefix⟩⟩

theorem Units.firstUnescaped (hne : quote ≠ escape) (h : Units quote escape body)
    (hquote : body ++ [quote] <+: text) : FirstUnescaped quote escape text body := by
  refine ⟨⟨hquote, h.even⟩, fun body' h' => Nat.le_of_not_lt fun hlt => ?_⟩
  -- a quote before the end would be within the units, and so escaped
  have hwithin : body' ++ [quote] <+: body := by
    refine List.prefix_of_prefix_length_le h'.quote ((List.prefix_append body [quote]).trans hquote) ?_
    rw [List.length_append, List.length_singleton]
    omega
  have hodd := h.odd hne hwithin
  have heven := h'.even
  omega

theorem FirstUnescaped.unique (h : FirstUnescaped quote escape text body)
    (h' : FirstUnescaped quote escape text body') : body = body' := by
  have hlength := Nat.le_antisymm (h.first _ h'.unescaped) (h'.first _ h.unescaped)
  have hprefix := (List.prefix_append body [quote]).trans h.unescaped.quote
  have hprefix' := (List.prefix_append body' [quote]).trans h'.unescaped.quote
  exact (List.prefix_of_prefix_length_le hprefix hprefix' (Nat.le_of_eq hlength)).eq_of_length hlength

theorem Unescaped.exists_first (hne : quote ≠ escape) (h : Unescaped quote escape text body) :
    ∃ body', Units quote escape body' ∧ FirstUnescaped quote escape text body' := by
  obtain ⟨rest, rfl⟩ := h.quote
  obtain ⟨body', hunits, hquote⟩ : ∃ body', Units quote escape body' ∧
    body' ++ [quote] <+: body ++ quote :: rest := exists_units rest body h.even
  rw [List.append_cons body] at hquote
  exact ⟨body', hunits, hunits.firstUnescaped hne hquote⟩

end Units

/-! ## Matches -/

section Matches
variable {quote escape : Char} {before : Option Char} {text body : List Char} {m : Match}

/-- All ways of the pattern lead to the first quote that is not escaped. -/
theorem mem_ways_quotedNode_iff (hne : quote ≠ escape) {x y : Spot} (htext : x.text = quote :: text) :
    y ∈ (quotedNode quote escape).ways x ↔ ∃ body, FirstUnescaped quote escape text body ∧
      y = x.skip (quote :: (body ++ [quote])) (text.drop (body.length + 1)) := by
  have hrest (body rest : List Char) : (body ++ quote :: rest).drop (body.length + 1) = rest := by
    rw [List.append_cons, List.drop_left' (by simp)]
  rw [mem_ways_quotedNode, htext]
  constructor
  · rintro ⟨body, rest, heq, hunits, rfl⟩
    obtain rfl := (List.cons.inj heq).2
    refine ⟨body, hunits.firstUnescaped hne ⟨rest, by simp⟩, ?_⟩
    rw [hrest]
  · rintro ⟨body, hfirst, rfl⟩
    obtain ⟨body', hunits, hfirst'⟩ := hfirst.unescaped.exists_first hne
    obtain rfl := hfirst.unique hfirst'
    obtain ⟨rest, rfl⟩ := hfirst.unescaped.quote
    rw [List.append_assoc, List.singleton_append, hrest]
    exact ⟨body, rest, rfl, hunits, rfl⟩

theorem exists_of_match?_quotedNode (hm : (ofNode (quotedNode quote escape)).match? before text = some m) :
    ∃ rest, text = quote :: rest := by
  rw [match?_ofNode (advances_quotedNode quote escape)] at hm
  obtain ⟨y, hy, -⟩ := Option.map_eq_some_iff.mp hm
  obtain ⟨body, rest, htext, -⟩ := mem_ways_quotedNode.mp (List.mem_of_mem_head? hy)
  exact ⟨_, htext⟩

theorem match?_quotedNode_iff (hne : quote ≠ escape) :
    (ofNode (quotedNode quote escape)).match? before (quote :: text) = some m ↔
      ∃ body, FirstUnescaped quote escape text body ∧ m = ⟨body.length + 2, []⟩ := by
  have hways {y : Spot} := mem_ways_quotedNode_iff (y := y) hne (x := ⟨0, before, quote :: text, []⟩) rfl
  have hmatch (body : List Char) (rest : List Char) : (Spot.skip ⟨0, before, quote :: text, []⟩
      (quote :: (body ++ [quote])) rest).toMatch = ⟨body.length + 2, []⟩ := by
    simp [Spot.skip, Spot.toMatch]
  rw [match?_ofNode (advances_quotedNode quote escape), Option.map_eq_some_iff]
  constructor
  · rintro ⟨y, hy, rfl⟩
    obtain ⟨body, hfirst, rfl⟩ := hways.mp (List.mem_of_mem_head? hy)
    exact ⟨body, hfirst, hmatch body _⟩
  · rintro ⟨body, hfirst, rfl⟩
    have hmem := hways.mpr ⟨body, hfirst, rfl⟩
    obtain ⟨y, hy⟩ : ∃ y, ((quotedNode quote escape).ways ⟨0, before, quote :: text, []⟩).head? = some y :=
      Option.isSome_iff_exists.mp (List.isSome_head?.mpr (List.ne_nil_of_mem hmem))
    obtain ⟨body', hfirst', rfl⟩ := hways.mp (List.mem_of_mem_head? hy)
    obtain rfl := hfirst.unique hfirst'
    exact ⟨_, hy, hmatch body _⟩

theorem match?_quotedNode_eq_some (hne : quote ≠ escape) :
    (ofNode (quotedNode quote escape)).match? before text = some m ↔
      ∃ rest body, text = quote :: rest ∧ FirstUnescaped quote escape rest body ∧ m = ⟨body.length + 2, []⟩ := by
  constructor
  · intro hm
    obtain ⟨rest, rfl⟩ := exists_of_match?_quotedNode hm
    obtain ⟨body, hfirst, hm⟩ := (match?_quotedNode_iff hne).mp hm
    exact ⟨rest, body, rfl, hfirst, hm⟩
  · rintro ⟨rest, body, rfl, hfirst, hm⟩
    exact (match?_quotedNode_iff hne).mpr ⟨body, hfirst, hm⟩

end Matches

end TableLexer.Pattern
