import Mathlib.Data.List.TakeWhile
import TableLexer.Proofs.Pattern.Enclosed
import TableLexer.Scanner

/-!
# Patterns of two parts

Two shapes of patterns with two groups: a text from an opening to the end of the line, with the line
end as a second part (`remark`), and a word with a sign right after it (`labelled`). What they match is
cut into one piece, or into two of which the second is the single character that comes next
(`cut_remark`, `cut_labelled`).
-/

namespace TableLexer.Pattern
open Unicode (CharSet)

/-! ## First ways -/

theorem head?_flatMap_of_head? {α β : Type} {l : List α} {f : α → List β} {a : α} {b : β}
    (ha : l.head? = some a) (hb : (f a).head? = some b) : (l.flatMap f).head? = some b := by
  cases l with
  | nil => cases ha
  | cons a' l =>
    cases ha
    rw [List.flatMap_cons, List.head?_append, hb]
    rfl

theorem head?_ways_ofText {cs rest : List Char} {x : Spot} (h : x.text = cs ++ rest) :
    ((Node.ofText cs).ways x).head? = some (x.skip cs rest) := by
  have hmem : x.skip cs rest ∈ (Node.ofText cs).ways x := Node.mem_ways_ofText.mpr ⟨rest, h, rfl⟩
  obtain ⟨y, hy⟩ := Option.isSome_iff_exists.mp (List.isSome_head?.mpr (List.ne_nil_of_mem hmem))
  obtain ⟨rest', hrest', rfl⟩ := Node.mem_ways_ofText.mp (List.mem_of_mem_head? hy)
  rw [hy, List.append_cancel_left (h.symm.trans hrest')]

/-! ## Cutting -/

theorem cut_one {count : Nat} (hcount : 0 < count) (kind kind' : Kind) :
    Scanner.cut ⟨count, [(3, count), (2, 0)]⟩ (.groups [kind, kind']) = [(kind, count)] := by
  have hfirst : Match.group? ⟨count, [(3, count), (2, 0)]⟩ 1 = some (0, count) := rfl
  have hsecond : Match.group? ⟨count, [(3, count), (2, 0)]⟩ 2 = none := rfl
  rw [Scanner.cut, Scanner.cutGroups, hfirst]
  simp only
  rw [if_neg (by omega), if_neg (by omega), Scanner.cutGroups, hsecond]
  simp [Scanner.cutGroups]

theorem cut_two {count : Nat} (hcount : 0 < count) (kind kind' : Kind) :
    Scanner.cut ⟨count + 1, [(5, count + 1), (4, count), (3, count), (2, 0)]⟩ (.groups [kind, kind'])
      = [(kind, count), (kind', 1)] := by
  let m : Match := ⟨count + 1, [(5, count + 1), (4, count), (3, count), (2, 0)]⟩
  have hfirst : m.group? 1 = some (0, count) := rfl
  have hsecond : m.group? 2 = some (count, count + 1) := rfl
  show Scanner.cutGroups m 1 0 [kind, kind'] = _
  rw [Scanner.cutGroups, hfirst]
  simp only
  rw [if_neg (by omega), if_neg (by omega), Scanner.cutGroups, hsecond]
  simp only
  rw [if_neg (by omega), if_neg (by omega)]
  simp [Scanner.cutGroups, m]

/-! ## To the end of the line -/

/-- The characters within a line. -/
def inLine : CharSet := .compl (.empty ∪ .range '\n' '\n')

/-- The tree of a pattern that runs from an opening to the end of the line. -/
def lineNode (opening : List Char) : Node :=
  .ofSeq (opening.map (fun c => .one (.single c)) ++ [.repeated (.one inLine) 0 none true])

/-- The tree of a pattern that takes a line end if there is one. -/
def lineEndNode : Node := .repeated (.group 2 (.one (.single '\n'))) 0 (some 1) true

/-- The tree of a pattern that runs from an opening to the end of the line, and of the line end. -/
def remark (opening : List Char) : Node := .seq (.group 1 (lineNode opening)) lineEndNode

theorem advances_remark (opening : List Char) : (remark opening).Advances := by
  refine ⟨Node.advances_ofSeq fun n hn => ?_, trivial, fun h => nomatch h⟩
  rcases List.mem_append.mp hn with hn | hn
  · obtain ⟨c, -, rfl⟩ := List.mem_map.mp hn
    trivial
  · rw [List.mem_singleton.mp hn]
    exact ⟨trivial, fun _ => rfl⟩

theorem contains_inLine (c : Char) : inLine.contains c = (c != '\n') := by
  have hrange : c ∈ CharSet.range '\n' '\n' ↔ c = '\n' := CharSet.mem_single
  have hempty : c ∉ CharSet.empty := Bool.false_ne_true
  rw [Bool.eq_iff_iff, ← CharSet.mem_iff, inLine, CharSet.mem_compl, CharSet.mem_union, hrange, bne_iff_ne]
  simp [hempty]

/-- What is left of the line with which a text begins. -/
def lineAt (text : List Char) : List Char := text.takeWhile (· != '\n')

theorem takeWhile_inLine (text : List Char) : text.takeWhile inLine.contains = lineAt text := by
  rw [funext contains_inLine, lineAt]

theorem not_mem_lineAt (text : List Char) : '\n' ∉ lineAt text := by
  intro hmem
  have hline := List.mem_takeWhile_imp hmem
  simp at hline

theorem lineAt_eq_self {text : List Char} (h : '\n' ∉ text) : lineAt text = text := by
  apply List.takeWhile_eq_self_iff.mpr
  intro c hc
  apply bne_iff_ne.mpr
  rintro rfl
  exact h hc

theorem exists_append_lineAt {text : List Char} (h : '\n' ∈ text) : ∃ rest, text = lineAt text ++ '\n' :: rest := by
  induction text with
  | nil => cases h
  | cons c text ih =>
    by_cases hc : c = '\n'
    · exact ⟨text, by simp [lineAt, hc]⟩
    · obtain ⟨rest, hrest⟩ := ih ((List.mem_cons.mp h).resolve_left (Ne.symm hc))
      have hline : lineAt (c :: text) = c :: lineAt text := List.takeWhile_cons_of_pos (bne_iff_ne.mpr hc)
      refine ⟨rest, ?_⟩
      rw [hline, List.cons_append, ← hrest]

section Remark
variable {opening body rest text : List Char} {x : Spot}

theorem ways_lineNode (opening : List Char) (x : Spot) : (lineNode opening).ways x =
    ((Node.ofText opening).ways x).flatMap (loop (Node.one inLine).ways true) := by
  rw [lineNode, Node.ways_ofSeq_append]
  have hloop : (Node.ofSeq [.repeated (.one inLine) 0 none true]).ways
      = loop (Node.one inLine).ways true := funext (ways_star _ _)
  rw [hloop]
  rfl

/-- The first way goes on to the end of the line. -/
theorem head?_ways_lineNode (h : x.text = opening ++ body) : ((lineNode opening).ways x).head? =
    some (x.skip (opening ++ body.takeWhile inLine.contains) (body.dropWhile inLine.contains)) := by
  rw [ways_lineNode]
  refine head?_flatMap_of_head? (head?_ways_ofText h) ?_
  rw [Node.head?_loop_one, Spot.skip_skip]
  rfl

theorem ways_lineEndNode (x : Spot) : lineEndNode.ways x =
    (((Node.one (.single '\n')).ways (x.mark 4)).map (·.mark 5)) ++ [x] := by
  simp [lineEndNode, Node.ways, times, upTo]

theorem head?_ways_lineEndNode_nil (h : x.text = []) : (lineEndNode.ways x).head? = some x := by
  have hmark : (x.mark 4).text = [] := h
  rw [ways_lineEndNode, Node.ways, hmark]
  rfl

theorem head?_ways_lineEndNode_cons (h : x.text = '\n' :: rest) :
    (lineEndNode.ways x).head? = some (((x.mark 4).skip ['\n'] rest).mark 5) := by
  have hmark : (x.mark 4).text = '\n' :: rest := h
  rw [ways_lineEndNode, Node.ways, hmark]
  rfl

/-- What a remark matches of its opening and what follows: the line, and the line end if there is one. -/
def remarkMatch (opening body : List Char) : Match :=
  let count := (opening ++ lineAt body).length
  if '\n' ∈ body then ⟨count + 1, [(5, count + 1), (4, count), (3, count), (2, 0)]⟩
  else ⟨count, [(3, count), (2, 0)]⟩

theorem match?_remark (opening body : List Char) (before : Option Char) :
    (ofNode (remark opening)).match? before (opening ++ body) = some (remarkMatch opening body) := by
  let x : Spot := ⟨0, before, opening ++ body, []⟩
  let line := opening ++ lineAt body
  let tail := body.dropWhile inLine.contains
  let z : Spot := (x.mark 2).skip line tail
  have hsplit : body = lineAt body ++ tail := by
    rw [← takeWhile_inLine]
    exact List.takeWhile_append_dropWhile.symm
  have hz : ((Node.group 1 (lineNode opening)).ways x).head? = some (z.mark 3) := by
    have hline : ((lineNode opening).ways (x.mark 2)).head? = some z := by
      have htext : (x.mark 2).text = opening ++ body := rfl
      rw [head?_ways_lineNode htext, takeWhile_inLine]
    rw [Node.ways, List.head?_map, hline]
    rfl
  have hcount : z.count = line.length := Nat.zero_add _
  rw [match?_ofNode (advances_remark opening), remarkMatch]
  split
  next hmem =>
    obtain ⟨rest, hrest⟩ := exists_append_lineAt hmem
    have htail : tail = '\n' :: rest := List.append_cancel_left (hsplit.symm.trans hrest)
    have hway := head?_flatMap_of_head? hz (head?_ways_lineEndNode_cons (x := z.mark 3) htail)
    refine (congrArg (Option.map Spot.toMatch) hway).trans ?_
    simp only [Option.map_some, Spot.toMatch, Spot.mark, Spot.skip, hcount]
    rfl
  next hmem =>
    have htail : tail = [] := by
      rw [lineAt_eq_self hmem] at hsplit
      exact List.self_eq_append_right.mp hsplit
    have hway := head?_flatMap_of_head? hz (head?_ways_lineEndNode_nil (x := z.mark 3) htail)
    refine (congrArg (Option.map Spot.toMatch) hway).trans ?_
    simp only [Option.map_some, Spot.toMatch, Spot.mark, hcount]
    rfl

theorem cut_remarkMatch (hopening : opening ≠ []) (body : List Char) (kind kind' : Kind) :
    Scanner.cut (remarkMatch opening body) (.groups [kind, kind'])
      = (kind, (opening ++ lineAt body).length) :: if '\n' ∈ body then [(kind', 1)] else [] := by
  have hcount : 0 < (opening ++ lineAt body).length := by
    have := List.length_pos_iff.mpr hopening
    rw [List.length_append]
    omega
  rw [remarkMatch]
  split
  · exact cut_two hcount kind kind'
  · exact cut_one hcount kind kind'

theorem exists_of_match?_remark {before : Option Char} {m : Match}
    (hm : (ofNode (remark opening)).match? before text = some m) :
    ∃ body, text = opening ++ body ∧ m = remarkMatch opening body := by
  have hways := hm
  rw [match?_ofNode (advances_remark opening)] at hways
  obtain ⟨y, hy, -⟩ := Option.map_eq_some_iff.mp hways
  obtain ⟨z, hz, -⟩ := List.mem_flatMap.mp (List.mem_of_mem_head? hy)
  obtain ⟨w, hw, -⟩ := List.mem_map.mp hz
  rw [ways_lineNode] at hw
  obtain ⟨v, hv, -⟩ := List.mem_flatMap.mp hw
  obtain ⟨body, hbody, -⟩ := Node.mem_ways_ofText.mp hv
  have htext : text = opening ++ body := hbody
  rw [htext, match?_remark] at hm
  exact ⟨body, htext, (Option.some.inj hm).symm⟩

/-- What a remark matches is cut into the line and the line end, if there is one. -/
theorem cut_remark (hopening : opening ≠ []) {before : Option Char} {m : Match}
    (hm : (ofNode (remark opening)).match? before text = some m) (kind kind' : Kind) :
    ∃ count, Scanner.cut m (.groups [kind, kind']) = [(kind, count)] ∨
      (Scanner.cut m (.groups [kind, kind']) = [(kind, count), (kind', 1)] ∧
        ∃ rest, text.drop count = '\n' :: rest) := by
  obtain ⟨body, rfl, rfl⟩ := exists_of_match?_remark hm
  refine ⟨(opening ++ lineAt body).length, ?_⟩
  rw [cut_remarkMatch hopening]
  split
  next hmem =>
    obtain ⟨rest, hrest⟩ := exists_append_lineAt hmem
    refine .inr ⟨rfl, rest, ?_⟩
    have hbody : opening ++ body = (opening ++ lineAt body) ++ '\n' :: rest := by
      rw [List.append_assoc, ← hrest]
    rw [hbody, List.drop_left]
  next => exact .inl rfl

end Remark

/-! ## A word with a sign -/

/-- The tree of a pattern for a word, where a condition holds, and a sign right after it. -/
def labelled (condition : Assertion) (word : List Char) (sign : Char) : Node :=
  .ofSeq [.look condition, .group 1 (.ofText word), .group 2 (.one (.single sign))]

section Labelled
variable {condition : Assertion} {word text : List Char} {sign : Char}

theorem advances_labelled (condition : Assertion) (word : List Char) (sign : Char) :
    (labelled condition word sign).Advances :=
  ⟨trivial, Node.advances_ofText word, trivial⟩

theorem mem_ways_labelled {x y : Spot} : y ∈ (labelled condition word sign).ways x ↔
    condition.holds x.before x.text.head? = true ∧ ∃ rest, x.text = word ++ sign :: rest ∧
      y = (((((x.mark 2).skip word (sign :: rest)).mark 3).mark 4).skip [sign] rest).mark 5 := by
  constructor
  · intro h
    obtain ⟨w, hw, hy⟩ := List.mem_flatMap.mp h
    obtain ⟨hholds, rfl⟩ := Node.mem_ways_look.mp hw
    obtain ⟨z, hz, hy⟩ := List.mem_flatMap.mp hy
    obtain ⟨v, hv, rfl⟩ := List.mem_map.mp hz
    obtain ⟨u, hu, rfl⟩ := List.mem_map.mp hy
    obtain ⟨after, hafter, rfl⟩ := Node.mem_ways_ofText.mp hv
    obtain ⟨c, rest, htext, hc, rfl⟩ := Node.mem_ways_one.mp hu
    obtain rfl := CharSet.mem_single.mp hc
    obtain rfl : after = c :: rest := htext
    exact ⟨hholds, rest, hafter, rfl⟩
  · rintro ⟨hholds, rest, htext, rfl⟩
    have hword : (x.mark 2).skip word (sign :: rest) ∈ (Node.ofText word).ways (x.mark 2) :=
      Node.mem_ways_ofText.mpr ⟨_, htext, rfl⟩
    have hsign : ((((x.mark 2).skip word (sign :: rest)).mark 3).mark 4).skip [sign] rest ∈
        (Node.one (.single sign)).ways ((((x.mark 2).skip word (sign :: rest)).mark 3).mark 4) :=
      Node.mem_ways_one.mpr ⟨sign, rest, rfl, CharSet.mem_single.mpr rfl, rfl⟩
    exact List.mem_flatMap.mpr ⟨x, Node.mem_ways_look.mpr ⟨hholds, rfl⟩,
      List.mem_flatMap.mpr ⟨_, List.mem_map_of_mem hword, List.mem_map_of_mem hsign⟩⟩

/-- A labelled word matches where the condition holds and the word and the sign stand. -/
theorem match?_labelled (condition : Assertion) (word : List Char) (sign : Char) (before : Option Char)
    (text : List Char) : (ofNode (labelled condition word sign)).match? before text =
      if condition.holds before text.head? = true ∧ (word ++ [sign]).isPrefixOf text = true then
        some ⟨word.length + 1, [(5, word.length + 1), (4, word.length), (3, word.length), (2, 0)]⟩
      else none := by
  refine match?_eq_ite (advances_labelled condition word sign) ?_ fun y hy => ?_
  · rintro ⟨hholds, hprefix⟩
    obtain ⟨rest, htext⟩ := List.isPrefixOf_iff_prefix.mp hprefix
    rw [List.append_assoc] at htext
    exact ⟨_, mem_ways_labelled.mpr ⟨hholds, rest, htext.symm, rfl⟩⟩
  · obtain ⟨hholds, rest, htext, rfl⟩ := mem_ways_labelled.mp hy
    refine ⟨⟨hholds, List.isPrefixOf_iff_prefix.mpr ⟨rest, ?_⟩⟩, ?_⟩
    · rw [List.append_assoc]
      exact htext.symm
    · simp only [Spot.toMatch, Spot.mark, Spot.skip, Nat.zero_add, List.length_singleton]

theorem cut_labelled (hword : word ≠ []) {before : Option Char} {m : Match}
    (hm : (ofNode (labelled condition word sign)).match? before text = some m) (kind kind' : Kind) :
    Scanner.cut m (.groups [kind, kind']) = [(kind, word.length), (kind', 1)] ∧
      ∃ rest, text = word ++ sign :: rest := by
  rw [match?_labelled] at hm
  split at hm
  next h =>
    obtain rfl := Option.some.inj hm
    obtain ⟨rest, htext⟩ := List.isPrefixOf_iff_prefix.mp h.2
    rw [List.append_assoc] at htext
    exact ⟨cut_two (List.length_pos_iff.mpr hword) kind kind', rest, htext.symm⟩
  next => cases hm

end Labelled

end TableLexer.Pattern
