import TableLexer.Proofs.Scanner.Flat

/-!
# Later tokens do not depend on what was before

`tokensFrom_local`: with rules that look back no more than `reach` characters and whose pieces are found
again one by one, the tokens from a boundary on depend on the last `reach` characters before it and on
the text after it only; the offsets move with the boundary.

Proof. `tokensFrom` uses the text before a position for guards and conditions only, so it may be
exchanged for one with the same end (`tokensFrom_rebase`). If the two pieces of a match are found again
one by one (`Resumes`), then scanning may start anew after any token (`tokensFrom_split`), and a boundary
is a place between two tokens.
-/

namespace TableLexer

/-! ## Looking back -/

/-- The texts that a guard looks for. -/
def Guard.texts (g : Guard) : List String := g.after.getD [] ++ g.notAfter

/-- The guard looks back no more than so many characters. -/
def Guard.Reaches (g : Guard) (reach : Nat) : Prop := ∀ text ∈ g.texts, text.toList.length ≤ reach

variable {reach : Nat} {before before' : List Char}

theorem endsWith_congr (h : before.take reach = before'.take reach) {text : String}
    (hlength : text.toList.length ≤ reach) : endsWith before text = endsWith before' text := by
  have htake (cs : List Char) : cs.take text.toList.length = (cs.take reach).take text.toList.length := by
    rw [List.take_take, Nat.min_eq_left hlength]
  rw [Bool.eq_iff_iff, endsWith, endsWith, List.isPrefixOf_iff_prefix, List.isPrefixOf_iff_prefix,
    List.prefix_iff_eq_take, List.prefix_iff_eq_take, List.length_reverse, htake before, htake before', h]

theorem Guard.Reaches.allows_congr {g : Guard} (hg : g.Reaches reach)
    (h : before.take reach = before'.take reach) : g.allows before = g.allows before' := by
  have hany (texts : List String) (htexts : ∀ text ∈ texts, text ∈ g.texts) :
      texts.any (endsWith before) = texts.any (endsWith before') := by
    induction texts with
    | nil => rfl
    | cons text texts ih =>
      rw [List.any_cons, List.any_cons, endsWith_congr h (hg text (htexts text List.mem_cons_self)),
        ih fun text' h' => htexts text' (List.mem_cons_of_mem _ h')]
  obtain ⟨after, notAfter⟩ := g
  rw [allows, allows, hany notAfter fun text ht => List.mem_append_right _ ht]
  cases after with
  | none => rfl
  | some texts =>
    rw [Option.all_some, Option.all_some, hany texts fun text ht => List.mem_append_left _ ht]

theorem head?_congr (hreach : 0 < reach) (h : before.take reach = before'.take reach) :
    before.head? = before'.head? := by
  have htake (cs : List Char) : cs.head? = (cs.take reach).head? := by
    rw [List.head?_take, if_neg (by omega)]
  rw [htake before, htake before', h]

variable {es : List Entry} {text : List Char}

theorem pieces_congr (hreach : 0 < reach) (hes : ∀ e ∈ es, e.guard.Reaches reach)
    (h : before.take reach = before'.take reach) (text : List Char) :
    pieces es before text = pieces es before' text := by
  have hfind : es.findSome? (·.pieces? before text) = es.findSome? (·.pieces? before' text) := by
    induction es with
    | nil => rfl
    | cons e es ih =>
      have he : e.pieces? before text = e.pieces? before' text := by
        simp only [Entry.pieces?, (hes e List.mem_cons_self).allows_congr h, head?_congr hreach h]
      rw [List.findSome?_cons, List.findSome?_cons, he, ih fun e' he' => hes e' (List.mem_cons_of_mem _ he')]
  rw [pieces, pieces, hfind]

/-! ## Moving tokens -/

/-- The token further on by so many bytes. -/
def Token.shift (distance : Nat) (t : Token) : Token := { t with offset := t.offset + distance }

theorem Token.ofPieces_shift (offset distance : Nat) (ps : List (Kind × Nat)) (text : List Char) :
    ofPieces (offset + distance) ps text = (ofPieces offset ps text).map (shift distance) := by
  induction ps generalizing offset text with
  | nil => rfl
  | cons p ps ih =>
    rw [ofPieces, ofPieces, List.map_cons, ← ih, Nat.add_right_comm]
    rfl

theorem take_append_congr (h : before.take reach = before'.take reach) (taken : List Char) :
    (taken ++ before).take reach = (taken ++ before').take reach := by
  have htake (cs : List Char) :
      cs.take (reach - taken.length) = (cs.take reach).take (reach - taken.length) := by
    rw [List.take_take, Nat.min_eq_left (by omega)]
  rw [List.take_append, List.take_append, htake before, htake before', h]

/-- The tokens from a position on do not depend on what is before, beyond the reach of the rules, and
move with the position. -/
theorem tokensFrom_rebase (hreach : 0 < reach) (hes : ∀ e ∈ es, e.guard.Reaches reach)
    (h : before.take reach = before'.take reach) (text : List Char) (offset distance : Nat) :
    tokensFrom es before' text (offset + distance)
      = (tokensFrom es before text offset).map (Token.shift distance) := by
  generalize hn : text.length = n
  induction n using Nat.strongRecOn generalizing before before' text offset with
  | ind n ih =>
    by_cases htext : text = []
    · rw [htext, tokensFrom_nil, tokensFrom_nil]
      rfl
    have hcount := takenAt_pos es before htext
    have hlength := List.length_pos_iff.mpr htext
    have hpieces := pieces_congr hreach hes h text
    have htaken : takenAt es before' text = takenAt es before text := by
      rw [takenAt, takenAt, hpieces]
    rw [tokensFrom_of_ne es before' _ htext, tokensFrom_of_ne es before _ htext, htaken, ← hpieces,
      List.map_append, Token.ofPieces_shift, Nat.add_right_comm]
    rw [ih _ (by rw [List.length_drop]; omega) (take_append_congr h _) _ _ rfl]

/-! ## Starting anew -/

/-- At each position the rules take one piece, or two of which the second is found again by itself. -/
def Resumes (es : List Entry) : Prop :=
  ∀ before text, text ≠ [] → (∃ p, pieces es before text = [p]) ∨
    ∃ p q, pieces es before text = [p, q] ∧ ∀ before', pieces es before' (text.drop p.2) = [q]

theorem tokensFrom_cons (h : Resumes es) (before : List Char) (offset : Nat) (htext : text ≠ []) :
    ∃ p ps, pieces es before text = p :: ps ∧ p.2 ≤ text.length ∧ tokensFrom es before text offset =
      ⟨p.1, .ofList (text.take p.2), offset⟩ :: tokensFrom es ((text.take p.2).reverse ++ before)
        (text.drop p.2) (offset + byteLength (text.take p.2)) := by
  obtain ⟨-, hpos, hle⟩ := pieces_spec es before htext
  rcases h before text htext with ⟨p, hp⟩ | ⟨p, q, hpq, hresume⟩
  · have htaken : takenAt es before text = p.2 := by
      rw [takenAt, hp]
      exact Nat.add_zero _
    refine ⟨p, [], hp, htaken ▸ hle, ?_⟩
    rw [tokensFrom_of_ne es before offset htext, htaken, hp]
    rfl
  · have htaken : takenAt es before text = p.2 + q.2 := by
      rw [takenAt, hpq]
      simp
    have hlength : p.2 + q.2 ≤ text.length := htaken ▸ hle
    have hq : 0 < q.2 := hpos q (by rw [hpq]; simp)
    have hrest : text.drop p.2 ≠ [] := by
      rw [Ne, List.drop_eq_nil_iff]
      omega
    have htaken' (before' : List Char) : takenAt es before' (text.drop p.2) = q.2 := by
      rw [takenAt, hresume]
      exact Nat.add_zero _
    refine ⟨p, [q], hpq, by omega, ?_⟩
    rw [tokensFrom_of_ne es before offset htext, htaken, hpq, tokensFrom_of_ne es _ _ hrest, htaken',
      hresume, List.take_add, List.reverse_append, byteLength_append, List.append_assoc, List.drop_drop,
      Nat.add_assoc]
    rfl

/-- Scanning may start anew after any token. -/
theorem tokensFrom_split (h : Resumes es) {ts us : List Token} {offset : Nat}
    (hsplit : tokensFrom es before text offset = ts ++ us) :
    us = tokensFrom es ((Token.join ts).reverse ++ before) (text.drop (Token.join ts).length)
      (offset + byteLength (Token.join ts)) := by
  induction ts generalizing before text offset with
  | nil => exact hsplit.symm
  | cons t ts ih =>
    have htext : text ≠ [] := by
      rintro rfl
      rw [tokensFrom_nil] at hsplit
      cases hsplit
    obtain ⟨p, -, -, hcount, htokens⟩ := tokensFrom_cons h before offset htext
    rw [htokens] at hsplit
    obtain ⟨rfl, hrest⟩ := List.cons.inj hsplit
    have hjoin : Token.join (⟨p.1, .ofList (text.take p.2), offset⟩ :: ts)
        = text.take p.2 ++ Token.join ts := by
      simp [Token.join]
    rw [ih hrest, hjoin, List.reverse_append, List.append_assoc, List.length_append, List.length_take,
      Nat.min_eq_left hcount, List.drop_drop, byteLength_append, Nat.add_assoc]

theorem exists_pieces_of_mem (h : Resumes es) {t : Token} {offset : Nat}
    (ht : t ∈ tokensFrom es before text offset) : ∃ taken rest p ps, text = taken ++ rest ∧ rest ≠ [] ∧
      pieces es (taken.reverse ++ before) rest = p :: ps ∧
      t = ⟨p.1, .ofList (rest.take p.2), offset + byteLength taken⟩ := by
  obtain ⟨us, vs, hsplit⟩ := List.append_of_mem ht
  obtain ⟨hjoin, -⟩ := tokensFrom_covers es before text offset
  have hanew := tokensFrom_split h hsplit
  rw [hsplit, Token.join_append] at hjoin
  obtain ⟨rest, hrest⟩ : ∃ rest, rest = text.drop (Token.join us).length := ⟨_, rfl⟩
  have htext : text = Token.join us ++ rest := by rw [hrest, ← hjoin, List.drop_left]
  rw [← hrest] at hanew
  have hne : rest ≠ [] := by
    rintro rfl
    rw [tokensFrom_nil] at hanew
    cases hanew
  obtain ⟨p, ps, hpieces, -, htokens⟩ := tokensFrom_cons h ((Token.join us).reverse ++ before)
    (offset + byteLength (Token.join us)) hne
  rw [htokens] at hanew
  exact ⟨Token.join us, rest, p, ps, htext, hne, hpieces, (List.cons.inj hanew).1⟩

/-! ## Boundaries -/

/-- A token begins or ends at the byte. -/
def Token.IsBoundary (n : Nat) (ts : List Token) : Prop := ∃ t ∈ ts, t.offset = n ∨ t.finish = n

instance Token.decidableIsBoundary (n : Nat) (ts : List Token) : Decidable (IsBoundary n ts) :=
  inferInstanceAs (Decidable (∃ t ∈ ts, t.offset = n ∨ t.finish = n))

/-- The tokens from a byte on. -/
def Token.startingFrom (n : Nat) (ts : List Token) : List Token := ts.filter (n ≤ ·.offset)

theorem Token.InRow.exists_split {ts : List Token} {offset n : Nat} (h : InRow offset ts)
    (hn : IsBoundary n ts) : ∃ us vs, ts = us ++ vs ∧ offset + byteLength (join us) = n := by
  obtain ⟨t, ht, hn⟩ := hn
  obtain ⟨us, vs, rfl⟩ := List.append_of_mem ht
  obtain ⟨-, hoffset, -, -⟩ := InRow.append.mp h
  rcases hn with rfl | rfl
  · exact ⟨us, t :: vs, rfl, hoffset.symm⟩
  · refine ⟨us ++ [t], vs, by rw [List.append_assoc]; rfl, ?_⟩
    have hjoin : join (us ++ [t]) = join us ++ t.text.toList := by simp [join]
    rw [hjoin, byteLength_append, finish, hoffset, Nat.add_assoc]

theorem Token.InRow.offset_lt {ts : List Token} {offset : Nat} (h : InRow offset ts) :
    ∀ t ∈ ts, t.offset < offset + byteLength (join ts) := by
  intro t ht
  obtain ⟨us, vs, rfl⟩ := List.append_of_mem ht
  obtain ⟨-, hoffset, htext, -⟩ := InRow.append.mp h
  have hpos := byteLength_text_pos htext
  have hjoin : join (us ++ t :: vs) = join us ++ (t.text.toList ++ join vs) := by simp [join]
  rw [hjoin, byteLength_append, byteLength_append]
  omega

theorem Token.InRow.startingFrom_append {us vs : List Token} {offset : Nat}
    (h : InRow offset (us ++ vs)) :
    startingFrom (offset + byteLength (join us)) (us ++ vs) = vs := by
  obtain ⟨hus, hvs⟩ := InRow.append.mp h
  have hbefore : us.filter (offset + byteLength (join us) ≤ ·.offset) = [] := by
    rw [List.filter_eq_nil_iff]
    intro t ht
    have := hus.offset_lt t ht
    simp only [decide_eq_true_eq]
    omega
  have hafter : vs.filter (offset + byteLength (join us) ≤ ·.offset) = vs := by
    rw [List.filter_eq_self]
    intro t ht
    exact decide_eq_true (hvs.mem t ht).2
  rw [startingFrom, List.filter_append, hbefore, hafter, List.nil_append]

theorem startingFrom_tokensFrom (h : Resumes es) {x s : List Char}
    (hx : Token.IsBoundary (byteLength x) (tokensFrom es [] (x ++ s) 0)) :
    Token.startingFrom (byteLength x) (tokensFrom es [] (x ++ s) 0)
      = tokensFrom es x.reverse s (byteLength x) := by
  obtain ⟨hjoin, hrow⟩ := tokensFrom_covers es [] (x ++ s) 0
  obtain ⟨us, vs, hsplit, hus⟩ := hrow.exists_split hx
  rw [Nat.zero_add] at hus
  rw [hsplit, Token.join_append] at hjoin
  -- a text is split at a byte in one way only
  have hsame : some (Token.join us, Token.join vs) = some (x, s) := by
    rw [← splitAtByte_append, ← splitAtByte_append, hjoin, hus]
  obtain ⟨rfl, rfl⟩ := Prod.mk.inj (Option.some.inj hsame)
  have hstart := (hsplit ▸ hrow).startingFrom_append
  rw [Nat.zero_add] at hstart
  have hanew := tokensFrom_split h hsplit
  rw [List.append_nil, List.drop_left, Nat.zero_add] at hanew
  rw [hsplit, hstart]
  exact hanew

/-- Two texts with the same end, followed by the same text: from a boundary there the tokens are the
same, except that their offsets move. -/
theorem tokensFrom_local (hreach : 0 < reach) (hes : ∀ e ∈ es, e.guard.Reaches reach) (h : Resumes es)
    {x y s : List Char} (hend : x.reverse.take reach = y.reverse.take reach)
    (hx : Token.IsBoundary (byteLength x) (tokensFrom es [] (x ++ s) 0))
    (hy : Token.IsBoundary (byteLength y) (tokensFrom es [] (y ++ s) 0)) :
    ∃ ts : List Token, Token.startingFrom (byteLength x) (tokensFrom es [] (x ++ s) 0)
        = ts.map (Token.shift (byteLength x)) ∧
      Token.startingFrom (byteLength y) (tokensFrom es [] (y ++ s) 0)
        = ts.map (Token.shift (byteLength y)) := by
  refine ⟨tokensFrom es x.reverse s 0, ?_, ?_⟩
  · rw [startingFrom_tokensFrom h hx, ← tokensFrom_rebase hreach hes rfl, Nat.zero_add]
  · rw [startingFrom_tokensFrom h hy, ← tokensFrom_rebase hreach hes hend, Nat.zero_add]

end TableLexer
