import TableLexer.Proofs.Pattern.Reading

/-!
# Literals that do not close

A pattern for a literal that takes nothing where its opener stands takes nothing from there on
(`settles_delimited`, `settles_quoted`): what it would need to close is not in the text that is left.

Proof. Between an opener and a closer there may be anything, so a closer that ends a later literal ends
this one too. In quotes the text is read in units, plain characters and escaped ones
(`mem_ways_quotedNode`). A quote further on that opens a literal is either met between two units, where it
ends this literal, or it is the second character of a unit; then the two readings run in step from there on
(`Closes.of_quote`).
-/

namespace TableLexer.Pattern
open Unicode (CharSet)

/-! ## Patterns that take nothing -/

/-- A pattern takes nothing at the start of a text: it does not match, or matches the empty text. -/
def TakesNothing (p : Pattern) (before : Option Char) (text : List Char) : Prop :=
  ∀ m, p.match? before text = some m → m.length = 0

/-- Once a pattern takes nothing although its opener stands there, it takes nothing from there on. -/
def Settles (p : Pattern) (opener : List Char) : Prop :=
  ∀ before text, opener <+: text → p.TakesNothing before text →
    ∀ before' text', text' <:+ text → p.TakesNothing before' text'

theorem takesNothing_ofNode_iff {n : Node} (h : n.Advances) {before : Option Char} {text : List Char}
    (hreads : ∀ y ∈ n.ways ⟨0, before, text, []⟩, y.count ≠ 0) :
    (ofNode n).TakesNothing before text ↔ n.ways ⟨0, before, text, []⟩ = [] := by
  constructor
  · intro hnothing
    cases hways : n.ways ⟨0, before, text, []⟩ with
    | nil => rfl
    | cons y ys =>
      have hm := hnothing y.toMatch (by rw [match?_ofNode h, hways]; rfl)
      exact absurd hm (hreads y (by rw [hways]; exact List.mem_cons_self))
  · intro hways m hm
    rw [match?_ofNode h, hways] at hm
    cases hm

/-! ## Between two texts -/

section Delimited
variable {opener closer : List Char} {x y : Spot}

theorem advances_delimitedNode (opener closer : List Char) : (delimitedNode opener closer).Advances := by
  refine Node.advances_ofSeq fun n hn => ?_
  simp only [List.mem_append, List.mem_map, List.mem_singleton] at hn
  rcases hn with (⟨c, -, rfl⟩ | rfl) | ⟨c, -, rfl⟩
  · trivial
  · exact ⟨trivial, fun _ => rfl⟩
  · trivial

/-- Loops that may be left out are loops from where they stand. -/
theorem ways_star (body : Node) (greedy : Bool) (x : Spot) :
    (Node.repeated body 0 none greedy).ways x = loop body.ways greedy x := by
  rw [Node.ways, times, List.flatMap_singleton]

theorem mem_ways_delimitedNode : y ∈ (delimitedNode opener closer).ways x ↔
    ∃ gap rest, x.text = opener ++ (gap ++ (closer ++ rest)) ∧
      y = x.skip (opener ++ (gap ++ closer)) rest := by
  have hways : (delimitedNode opener closer).ways x = (((Node.ofText opener).ways x).flatMap
      (loop (Node.one .all).ways false)).flatMap (Node.ofText closer).ways := by
    rw [delimitedNode, Node.ways_ofSeq_append, Node.ways_ofSeq_append]
    have hgap : (Node.ofSeq [.repeated (.one .all) 0 none false]).ways = loop (Node.one .all).ways false :=
      funext (ways_star _ _)
    rw [hgap]
    rfl
  rw [hways]
  constructor
  · intro hy
    obtain ⟨z, hz, hy⟩ := List.mem_flatMap.mp hy
    obtain ⟨w, hw, hz⟩ := List.mem_flatMap.mp hz
    obtain ⟨after, hafter, rfl⟩ := Node.mem_ways_ofText.mp hw
    obtain ⟨gap, after', hgap, -, rfl⟩ := Node.mem_loop_one.mp hz
    obtain ⟨rest, hrest, rfl⟩ := Node.mem_ways_ofText.mp hy
    have hgap' : after = gap ++ after' := hgap
    have hrest' : after' = closer ++ rest := hrest
    refine ⟨gap, rest, by rw [hafter, hgap', hrest'], ?_⟩
    rw [Spot.skip_skip, Spot.skip_skip]
  · rintro ⟨gap, rest, htext, rfl⟩
    refine List.mem_flatMap.mpr ⟨x.skip (opener ++ gap) (closer ++ rest), ?_, ?_⟩
    · refine List.mem_flatMap.mpr ⟨x.skip opener (gap ++ (closer ++ rest)), ?_, ?_⟩
      · exact Node.mem_ways_ofText.mpr ⟨_, htext, rfl⟩
      · exact Node.mem_loop_one.mpr
          ⟨gap, closer ++ rest, rfl, fun c _ => CharSet.mem_all c, (Spot.skip_skip ..).symm⟩
    · refine Node.mem_ways_ofText.mpr ⟨rest, rfl, ?_⟩
      rw [Spot.skip_skip, List.append_assoc]

theorem takesNothing_delimited_iff (h : opener ++ closer ≠ []) {before : Option Char}
    {text : List Char} : (ofNode (delimitedNode opener closer)).TakesNothing before text ↔
      ∀ gap rest, text ≠ opener ++ (gap ++ (closer ++ rest)) := by
  have hpos : 0 < opener.length + closer.length := by
    rw [← List.length_append]
    exact List.length_pos_iff.mpr h
  have hreads : ∀ y ∈ (delimitedNode opener closer).ways ⟨0, before, text, []⟩, y.count ≠ 0 := by
    intro y hy
    obtain ⟨gap, rest, -, rfl⟩ := mem_ways_delimitedNode.mp hy
    simp only [Spot.skip, List.length_append]
    omega
  rw [takesNothing_ofNode_iff (advances_delimitedNode opener closer) hreads, List.eq_nil_iff_forall_not_mem]
  constructor
  · intro hnone gap rest htext
    exact hnone _ (mem_ways_delimitedNode.mpr ⟨gap, rest, htext, rfl⟩)
  · intro hnone y hy
    obtain ⟨gap, rest, htext, -⟩ := mem_ways_delimitedNode.mp hy
    exact hnone gap rest htext

/-- Without opener and closer there is nothing to take: the lazy loop ends at once. -/
theorem takesNothing_delimited_nil (before : Option Char) (text : List Char) :
    (ofNode (delimitedNode [] [])).TakesNothing before text := by
  intro m hm
  rw [match?_ofNode (advances_delimitedNode [] [])] at hm
  have hways : (delimitedNode [] []).ways ⟨0, before, text, []⟩
      = loop (Node.one .all).ways false ⟨0, before, text, []⟩ := ways_star _ _ _
  rw [hways, loop_eq (Node.shortens_one _), if_neg Bool.false_ne_true] at hm
  cases hm
  rfl

theorem settles_delimited (opener closer : List Char) :
    (ofNode (delimitedNode opener closer)).Settles opener := by
  rintro before text ⟨after, rfl⟩ hnothing before' text' ⟨skipped, hsuffix⟩
  by_cases h : opener ++ closer = []
  · obtain ⟨rfl, rfl⟩ := List.append_eq_nil_iff.mp h
    exact takesNothing_delimited_nil before' text'
  rw [takesNothing_delimited_iff h] at hnothing ⊢
  rintro gap rest rfl
  -- the closer of the later literal comes after this opener, which is no longer than what precedes it
  have hcloser : closer ++ rest <:+ after := by
    have hlater : closer ++ rest <:+ opener ++ after :=
      ⟨skipped ++ (opener ++ gap), by rw [← hsuffix]; simp only [List.append_assoc]⟩
    refine List.suffix_of_suffix_length_le hlater (List.suffix_append opener after) ?_
    have hlength := congrArg List.length hsuffix
    simp only [List.length_append] at hlength ⊢
    omega
  obtain ⟨gap', hgap'⟩ := hcloser
  exact hnothing gap' rest (by rw [hgap'])

end Delimited

/-! ## In quotes -/

/-- The text after an opening quote goes on to a closing one. -/
inductive Closes (quote escape : Char) : List Char → Prop
  | here (rest) : Closes quote escape (quote :: rest)
  | plain {c rest} : c ≠ quote → c ≠ escape → Closes quote escape rest → Closes quote escape (c :: rest)
  | escaped {c rest} : Closes quote escape rest → Closes quote escape (escape :: c :: rest)

/-- A text of whole units: plain characters and escaped ones. -/
inductive Units (quote escape : Char) : List Char → Prop
  | nil : Units quote escape []
  | plain {c body} : c ≠ quote → c ≠ escape → Units quote escape body → Units quote escape (c :: body)
  | escaped {c body} : Units quote escape body → Units quote escape (escape :: c :: body)

theorem closes_iff {quote escape : Char} {text : List Char} : Closes quote escape text ↔
    ∃ body rest, Units quote escape body ∧ text = body ++ quote :: rest := by
  constructor
  · intro h
    induction h with
    | here rest => exact ⟨[], rest, .nil, rfl⟩
    | @plain c _ hquote hescape _ ih =>
      obtain ⟨body, rest, hbody, rfl⟩ := ih
      exact ⟨c :: body, rest, .plain hquote hescape hbody, rfl⟩
    | @escaped c _ _ ih =>
      obtain ⟨body, rest, hbody, rfl⟩ := ih
      exact ⟨escape :: c :: body, rest, .escaped hbody, rfl⟩
  · rintro ⟨body, rest, hbody, rfl⟩
    induction hbody with
    | nil => exact .here rest
    | plain hquote hescape _ ih => exact .plain hquote hescape ih
    | escaped _ ih => exact .escaped ih

/-- A quote from which a literal could go on to a closing quote lets a literal around it close. -/
theorem Closes.of_quote {quote escape : Char} {rest : List Char} (h : Closes quote escape rest) :
    ∀ skipped, Closes quote escape (skipped ++ quote :: rest)
  | [] => .here rest
  | c :: skipped => by
    by_cases hquote : c = quote
    · rw [hquote]
      exact .here _
    by_cases hescape : c = escape
    · rw [hescape]
      match skipped with
      | [] => exact .escaped h
      | d :: skipped => exact .escaped (h.of_quote skipped)
    · exact .plain hquote hescape (h.of_quote skipped)

section Quoted
variable {quote escape : Char} {x y : Spot}

theorem mem_plainSet {c : Char} : c ∈ plainSet quote escape ↔ c ≠ quote ∧ c ≠ escape := by
  have hrange (a : Char) : c ∈ CharSet.range a a ↔ c = a := CharSet.mem_single
  simp only [plainSet, CharSet.mem_compl, CharSet.mem_union, CharSet.not_mem_empty, hrange, false_or,
    not_or]

theorem mem_ways_quotedPart : y ∈ (quotedPart quote escape).ways x ↔
    (∃ c rest, x.text = c :: rest ∧ (c ≠ quote ∧ c ≠ escape) ∧ y = x.skip [c] rest) ∨
      ∃ c rest, x.text = escape :: c :: rest ∧ y = x.skip [escape, c] rest := by
  rw [quotedPart, Node.ways, List.mem_append, Node.mem_ways_one]
  simp only [mem_plainSet]
  refine or_congr Iff.rfl ?_
  rw [Node.ways, List.mem_flatMap]
  constructor
  · rintro ⟨z, hz, hy⟩
    obtain ⟨d, after, htext, hd, rfl⟩ := Node.mem_ways_one.mp hz
    obtain ⟨c, rest, hafter, -, rfl⟩ := Node.mem_ways_one.mp hy
    rw [CharSet.mem_single.mp hd] at htext ⊢
    exact ⟨c, rest, by rw [htext, show after = c :: rest from hafter], Spot.skip_skip ..⟩
  · rintro ⟨c, rest, htext, rfl⟩
    refine ⟨x.skip [escape] (c :: rest), ?_, ?_⟩
    · exact Node.mem_ways_one.mpr ⟨escape, _, htext, CharSet.mem_single.mpr rfl, rfl⟩
    · exact Node.mem_ways_one.mpr
        ⟨c, rest, rfl, CharSet.mem_all c, (Spot.skip_skip x [escape] [c] _ rest).symm⟩

theorem shortens_quotedPart (quote escape : Char) : Shortens (quotedPart quote escape).ways :=
  fun _ _ hy => Node.length_lt_of_mem_ways rfl hy

theorem mem_quotedLoop : y ∈ loop (quotedPart quote escape).ways true x ↔
    y = x ∨ ∃ z ∈ (quotedPart quote escape).ways x, y ∈ loop (quotedPart quote escape).ways true z :=
  mem_loop (shortens_quotedPart quote escape)

theorem mem_quotedLoop_iff : y ∈ loop (quotedPart quote escape).ways true x ↔
    ∃ body rest, x.text = body ++ rest ∧ Units quote escape body ∧ y = x.skip body rest := by
  constructor
  · intro hy
    generalize hn : x.text.length = n
    induction n using Nat.strongRecOn generalizing x with
    | ind n ih =>
      rcases mem_quotedLoop.mp hy with rfl | ⟨z, hz, hy⟩
      · exact ⟨[], y.text, rfl, .nil, (Spot.skip_nil rfl).symm⟩
      obtain ⟨body, rest, hrest, hbody, rfl⟩ := ih _ (hn ▸ shortens_quotedPart quote escape x z hz) hy rfl
      rcases mem_ways_quotedPart.mp hz with ⟨c, after, htext, hc, rfl⟩ | ⟨c, after, htext, rfl⟩
      · refine ⟨c :: body, rest, ?_, .plain hc.1 hc.2 hbody, Spot.skip_skip ..⟩
        rw [htext, show after = body ++ rest from hrest]
        rfl
      · refine ⟨escape :: c :: body, rest, ?_, .escaped hbody, Spot.skip_skip ..⟩
        rw [htext, show after = body ++ rest from hrest]
        rfl
  · rintro ⟨body, rest, htext, hbody, rfl⟩
    induction hbody generalizing x with
    | nil => exact mem_quotedLoop.mpr (.inl (Spot.skip_nil htext))
    | @plain c body hquote hescape hbody ih =>
      have hunit : x.skip [c] (body ++ rest) ∈ (quotedPart quote escape).ways x :=
        mem_ways_quotedPart.mpr (.inl ⟨c, _, htext, ⟨hquote, hescape⟩, rfl⟩)
      refine mem_quotedLoop.mpr (.inr ⟨_, hunit, ?_⟩)
      have hloop := ih (x := x.skip [c] (body ++ rest)) rfl
      rwa [Spot.skip_skip] at hloop
    | @escaped c body hbody ih =>
      have hunit : x.skip [escape, c] (body ++ rest) ∈ (quotedPart quote escape).ways x :=
        mem_ways_quotedPart.mpr (.inr ⟨c, _, htext, rfl⟩)
      refine mem_quotedLoop.mpr (.inr ⟨_, hunit, ?_⟩)
      have hloop := ih (x := x.skip [escape, c] (body ++ rest)) rfl
      rwa [Spot.skip_skip] at hloop

theorem advances_quotedNode (quote escape : Char) : (quotedNode quote escape).Advances := by
  refine ⟨trivial, ⟨⟨trivial, trivial, trivial⟩, fun _ => rfl⟩, trivial⟩

theorem mem_ways_quotedNode : y ∈ (quotedNode quote escape).ways x ↔
    ∃ body rest, x.text = quote :: (body ++ quote :: rest) ∧ Units quote escape body ∧
      y = x.skip (quote :: (body ++ [quote])) rest := by
  have hways : (quotedNode quote escape).ways x = ((Node.one (.single quote)).ways x).flatMap fun y =>
      (loop (quotedPart quote escape).ways true y).flatMap (Node.one (.single quote)).ways := by
    rw [quotedNode, Node.ways_ofSeq_cons]
    refine congrArg (fun f => ((Node.one (.single quote)).ways x).flatMap f) (funext fun y => ?_)
    rw [Node.ways_ofSeq_cons, ways_star]
    rfl
  rw [hways]
  constructor
  · intro hy
    obtain ⟨z, hz, hy⟩ := List.mem_flatMap.mp hy
    obtain ⟨w, hw, hy⟩ := List.mem_flatMap.mp hy
    obtain ⟨c, after, htext, hc, rfl⟩ := Node.mem_ways_one.mp hz
    obtain ⟨body, after', hbody, hunits, rfl⟩ := mem_quotedLoop_iff.mp hw
    obtain ⟨d, rest, hclosing, hd, rfl⟩ := Node.mem_ways_one.mp hy
    rw [CharSet.mem_single.mp hc] at htext ⊢
    rw [CharSet.mem_single.mp hd] at hclosing ⊢
    refine ⟨body, rest, ?_, hunits, ?_⟩
    · rw [htext, show after = body ++ after' from hbody, show after' = quote :: rest from hclosing]
    · rw [Spot.skip_skip, Spot.skip_skip]
      rfl
  · rintro ⟨body, rest, htext, hunits, rfl⟩
    have hquote : quote ∈ CharSet.single quote := CharSet.mem_single.mpr rfl
    refine List.mem_flatMap.mpr ⟨x.skip [quote] (body ++ quote :: rest), ?_, ?_⟩
    · exact Node.mem_ways_one.mpr ⟨quote, _, htext, hquote, rfl⟩
    refine List.mem_flatMap.mpr ⟨x.skip (quote :: body) (quote :: rest), ?_, ?_⟩
    · exact mem_quotedLoop_iff.mpr ⟨body, _, rfl, hunits, (Spot.skip_skip x [quote] body _ _).symm⟩
    · exact Node.mem_ways_one.mpr ⟨quote, rest, rfl, hquote, (Spot.skip_skip x (quote :: body) _ _ _).symm⟩

theorem takesNothing_quoted_iff {before : Option Char} {text : List Char} :
    (ofNode (quotedNode quote escape)).TakesNothing before text ↔
      ∀ rest, text = quote :: rest → ¬ Closes quote escape rest := by
  have hreads : ∀ y ∈ (quotedNode quote escape).ways ⟨0, before, text, []⟩, y.count ≠ 0 := by
    intro y hy
    obtain ⟨body, rest, -, -, rfl⟩ := mem_ways_quotedNode.mp hy
    simp only [Spot.skip, List.length_cons]
    omega
  rw [takesNothing_ofNode_iff (advances_quotedNode quote escape) hreads, List.eq_nil_iff_forall_not_mem]
  constructor
  · rintro hnone rest rfl hcloses
    obtain ⟨body, after, hunits, rfl⟩ := closes_iff.mp hcloses
    exact hnone _ (mem_ways_quotedNode.mpr ⟨body, after, rfl, hunits, rfl⟩)
  · intro hnone y hy
    obtain ⟨body, rest, htext, hunits, -⟩ := mem_ways_quotedNode.mp hy
    exact hnone _ htext (closes_iff.mpr ⟨body, rest, hunits, rfl⟩)

theorem settles_quoted (quote escape : Char) : (ofNode (quotedNode quote escape)).Settles [quote] := by
  rintro before text ⟨after, rfl⟩ hnothing before' text' ⟨skipped, hsuffix⟩
  rw [takesNothing_quoted_iff] at hnothing ⊢
  rintro rest rfl hcloses
  refine hnothing after rfl ?_
  match skipped with
  | [] =>
    cases hsuffix
    exact hcloses
  | c :: skipped =>
    cases hsuffix
    exact hcloses.of_quote skipped

end Quoted

end TableLexer.Pattern
