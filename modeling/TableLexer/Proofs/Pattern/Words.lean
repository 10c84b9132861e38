import TableLexer.Proofs.Pattern.Opening

/-!
# Whole words

What stands at a position as far as words go: the run of word characters there (`wordAt`), and whether a
name begins there, which is a run that does not begin with a digit (`startsName`). The pattern for any word
matches the run (`match?_runNode`). A pattern for numbers or signs does not begin with a name, which shows in
its tree (`Node.opens_of_nameless`).

The trees of the patterns for keywords are found for all lists of words (`readNode_anyWord`).
-/

namespace TableLexer.Pattern
open Unicode (CharSet)

/-! ## Runs and names -/

/-- The run of word characters with which a text begins. -/
def wordAt (text : List Char) : List Char := text.takeWhile Unicode.word.contains

/-- A name may begin with the character: it is a word character, but no digit of ASCII. -/
def beginsName (c : Char) : Bool := Unicode.word.contains c && !Unicode.Ascii.digit.contains c

/-- The text begins with a name. -/
def startsName (text : List Char) : Bool := text.head?.any beginsName

/-- The text is a name. -/
def isName (text : List Char) : Bool := startsName text && text.all Unicode.word.contains

theorem startsName_iff {text : List Char} : startsName text = true ↔
    ∃ c cs, text = c :: cs ∧ c ∈ Unicode.word ∧ c ∉ Unicode.Ascii.digit := by
  cases text with
  | nil => simp [startsName]
  | cons c cs => simp [startsName, beginsName, CharSet.mem_iff]

theorem wordAt_ne_nil_iff {text : List Char} :
    wordAt text ≠ [] ↔ ∃ c cs, text = c :: cs ∧ c ∈ Unicode.word := by
  cases text with
  | nil => simp [wordAt]
  | cons c cs =>
    rw [wordAt, List.takeWhile_cons]
    cases hc : Unicode.word.contains c <;> simp [hc, CharSet.mem_iff]

theorem startsName_append {w : List Char} (h : startsName w = true) (rest : List Char) :
    startsName (w ++ rest) = true := by
  cases w with
  | nil => cases h
  | cons c w => exact h

theorem mem_word_of_isName {w : List Char} (h : isName w = true) : ∀ c ∈ w, c ∈ Unicode.word :=
  List.all_eq_true.mp (Bool.and_eq_true_iff.mp h).2

theorem escaped_of_isName {w : List Char} (h : isName w = true) : escaped w = w := by
  have hplain : ∀ c ∈ w, (if isMeta c then ['\\', c] else [c]) = [c] := by
    intro c hc
    refine if_neg fun hmeta => ?_
    have hword := mem_word_of_isName h c hc
    simp only [isMeta, decide_eq_true_eq, List.mem_cons, List.not_mem_nil, or_false] at hmeta
    rcases hmeta with rfl | rfl | rfl | rfl | rfl | rfl | rfl | rfl | rfl | rfl | rfl | rfl | rfl |
      rfl | rfl | rfl | rfl | rfl <;> cases hword
  rw [escaped, List.flatMap_def, List.map_congr_left hplain, ← List.flatMap_def, List.flatMap_singleton']

theorem wordAt_append {w rest : List Char} (hw : ∀ c ∈ w, c ∈ Unicode.word)
    (hrest : rest.head?.any Unicode.word.contains = false) : wordAt (w ++ rest) = w := by
  rw [wordAt, List.takeWhile_append_of_pos hw]
  cases rest with
  | nil => exact List.append_nil w
  | cons c rest =>
    have hc : Unicode.word.contains c = false := hrest
    rw [List.takeWhile_cons, hc]
    exact List.append_nil w

/-! ## Runs -/

/-- A pattern for a run of characters of a set goes on as long as there are any. -/
theorem match?_repeated_one (set : CharSet) (before : Option Char) (text : List Char) :
    (ofNode (.repeated (.one set) 1 none true)).match? before text =
      if text.takeWhile set.contains = [] then none else some ⟨(text.takeWhile set.contains).length, []⟩ := by
  have hadvances : (Node.repeated (.one set) 1 none true).Advances := ⟨trivial, fun _ => rfl⟩
  rw [match?_ofNode hadvances, Node.ways]
  cases text with
  | nil => rfl
  | cons c cs =>
    have hfirst : times (Node.one set).ways 1 ⟨0, before, c :: cs, []⟩ =
        if set.contains c then [⟨1, some c, cs, []⟩] else [] := by
      simp only [times, Node.ways]
      cases set.contains c <;> rfl
    rw [hfirst, List.takeWhile_cons]
    split
    · rw [List.flatMap_singleton, Node.head?_loop_one, if_neg (List.cons_ne_nil _ _), List.length_cons,
        Nat.add_comm]
      rfl
    · rfl

/-- The tree of the pattern for a run. -/
def runNode : Node := .repeated (.one Unicode.word) 1 none true

theorem advances_runNode : runNode.Advances := ⟨trivial, fun _ => rfl⟩

theorem match?_runNode (before : Option Char) (text : List Char) : (ofNode runNode).match? before text =
    if wordAt text = [] then none else some ⟨(wordAt text).length, []⟩ := match?_repeated_one _ before text

/-! ## Patterns that begin with no name -/

/-- No name begins with a character of the set; some such sets are not recognized. -/
def namelessSet : CharSet → Bool
  | .empty => true
  | .range first last =>
    (Unicode.Ascii.digit.contains first && Unicode.Ascii.digit.contains last) ||
      (first == last && !beginsName first)
  | .union a b => namelessSet a && namelessSet b
  | _ => false

/-- Nothing that the tree matches begins with a name; some such trees are not recognized. -/
def Node.nameless : Node → Bool
  | empty | look _ => true
  | one set => namelessSet set
  | group _ body => body.nameless
  | seq a b => a.nameless && (!a.nullable || b.nameless)
  | alt a b => a.nameless && b.nameless
  | repeated body _ _ _ => body.nameless

theorem not_mem_of_namelessSet {set : CharSet} (h : namelessSet set = true) {c : Char}
    (hc : beginsName c = true) : set.contains c = false := by
  induction set with
  | empty => rfl
  | range first last =>
    rw [namelessSet, Bool.or_eq_true, Bool.and_eq_true, Bool.and_eq_true, beq_iff_eq] at h
    rw [← Bool.not_eq_true, ← CharSet.mem_iff, CharSet.mem_range]
    rintro ⟨hfirst, hlast⟩
    rcases h with ⟨hdigit, hdigit'⟩ | ⟨rfl, hnone⟩
    · obtain ⟨hzero, -⟩ := CharSet.mem_range.mp hdigit
      obtain ⟨-, hnine⟩ := CharSet.mem_range.mp hdigit'
      have hmem : c ∈ Unicode.Ascii.digit :=
        CharSet.mem_range.mpr ⟨Char.le_trans hzero hfirst, Char.le_trans hlast hnine⟩
      rw [beginsName, CharSet.mem_iff.mp hmem, Bool.not_true, Bool.and_false] at hc
      cases hc
    · rw [Char.le_antisymm hfirst hlast, hc] at hnone
      cases hnone
  | union a b iha ihb =>
    rw [namelessSet, Bool.and_eq_true] at h
    rw [CharSet.contains, iha h.1, ihb h.2]
    rfl
  | codes => cases h
  | inter => cases h
  | compl => cases h
  | folded => cases h
  | foldedAscii => cases h

theorem Node.opens_of_nameless {n : Node} (h : n.nameless = true) {c : Char}
    (hc : beginsName c = true) : n.opens c = false := by
  induction n with
  | empty => rfl
  | look => rfl
  | one set => exact not_mem_of_namelessSet h hc
  | group _ body ih => exact ih h
  | repeated body _ _ _ ih => exact ih h
  | seq a b iha ihb =>
    rw [nameless, Bool.and_eq_true, Bool.or_eq_true, Bool.not_eq_true'] at h
    rw [opens, iha h.1, Bool.false_or, Bool.and_eq_false_iff]
    exact h.2.imp id ihb
  | alt a b iha ihb =>
    rw [nameless, Bool.and_eq_true] at h
    rw [opens, iha h.1, ihb h.2]
    rfl

/-! ## Reading the patterns for keywords -/

/-- The tree of a word boundary. -/
def boundary : Node := .look (.boundary Unicode.word)

/-- A word boundary before anything but a brace. -/
theorem Reads.boundary {part : List Char} {ns : List Node} (h : Reads part ns) {c : Char}
    (hpart : part.head? = some c) (hc : c ≠ '\x7b') :
    Reads ('\\' :: 'b' :: part) (boundary :: ns) := by
  obtain ⟨cs, rfl⟩ := List.head?_eq_some_iff.mp hpart
  obtain ⟨steps, hle, hrun⟩ := h
  refine ⟨steps + 1, by simp only [List.length_cons] at hle ⊢; omega, fun n r rest hr => ?_⟩
  have hstep : Reader.step r '\\' ('b' :: c :: (cs ++ rest))
      = .ok (r.push Pattern.boundary (c :: (cs ++ rest))) := by
    have hbound : readBoundary r.flags (c :: (cs ++ rest))
        = .ok (.look (.boundary Unicode.word), c :: (cs ++ rest)) := by
      rw [readBoundary, if_pos hc, hr]
      rfl
    show (readBoundary r.flags (c :: (cs ++ rest)) >>= fun a => r.pushAtom a.1 a.2) = _
    rw [hbound]
    rfl
  rw [Nat.add_right_comm]
  refine (Reader.run_cons (r := { r with rest := '\\' :: 'b' :: c :: (cs ++ rest) }) _ rfl ?_ hstep).trans ?_
  · rw [hr]
  · refine (hrun n (r.push Pattern.boundary (c :: (cs ++ rest))) rest hr).trans ?_
    simp only [Reader.push, List.map_cons, List.reverse_cons, List.append_assoc, List.cons_append,
      List.nil_append]

theorem readNode_append_boundary {part : List Char} {ns : List Node} (h : Reads part ns) :
    readNode (part ++ ['\\', 'b']) = .ok (.ofSeq (ns ++ [boundary])) := by
  obtain ⟨steps, hle, hrun⟩ := h
  obtain ⟨n, hn⟩ : ∃ n, (part ++ ['\\', 'b']).length + 1 = steps + (n + 1) :=
    ⟨part.length + 2 - steps, by simp only [List.length_append, List.length_cons, List.length_nil]; omega⟩
  rw [readNode, hn, hrun (n + 1) { rest := part ++ ['\\', 'b'] } ['\\', 'b'] rfl, List.append_nil]
  have hboundary : Reader.run (n + 1) { sequence := (ns.map .node).reverse, rest := ['\\', 'b'] }
      = Reader.run n { sequence := ((ns ++ [boundary]).map .node).reverse, rest := [] } := by
    rw [List.map_append, List.reverse_append]
    exact Reader.run_cons n rfl rfl rfl
  refine hboundary.trans ?_
  rw [Reader.run_nil n rfl rfl]
  simp only [Reader.finish, Reader.groupNode, Reader.sequenceNode_map_node]
  rfl

theorem Reader.run_alternatives (w : List Char) (ws : List (List Char)) :
    ∃ steps ≤ (['|'].intercalate ((w :: ws).map escaped)).length + 1,
      ∀ n (outer : Frame) frames done groups names rest, outer.index = none →
        run (steps + n) ⟨outer :: frames, done, [], {}, groups, names,
            ['|'].intercalate ((w :: ws).map escaped) ++ ')' :: rest⟩
          = run n ⟨frames, outer.alternatives,
              .node (.ofAlts (done.reverse ++ (w :: ws).map .ofText)) :: outer.sequence,
              outer.flags, groups, names, rest⟩ := by
  -- a text is read up to the sign after it
  have htext (w : List Char) (n : Nat) (frames : List Frame) done groups names (rest : List Char) :
      run (w.length + 1 + n) ⟨frames, done, [], {}, groups, names, escaped w ++ rest⟩
        = run (n + 1) ⟨frames, done, ((w.map fun c => .one (.single c)).map .node).reverse, {}, groups,
            names, rest⟩ := by
    rw [Nat.add_assoc, Nat.add_comm 1, List.map_map]
    exact (run_escaped w rest (n + 1) ⟨frames, done, [], {}, groups, names, []⟩ rfl).trans
      (by rw [List.append_nil]; rfl)
  induction ws generalizing w with
  | nil =>
    refine ⟨w.length + 1, ?_, fun n outer frames done groups names rest hindex => ?_⟩
    · have := length_le_length_escaped w
      simpa using this
    · obtain ⟨alternatives, sequence, index, flags⟩ := outer
      obtain rfl : index = none := hindex
      have hall : ['|'].intercalate ([w].map escaped) = escaped w := by simp
      rw [hall, htext]
      refine run_cons n rfl rfl ?_
      rw [step, closeGroup, groupNode, sequenceNode_map_node]
      rfl
  | cons w' ws ih =>
    obtain ⟨steps, hle, hrun⟩ := ih w'
    have hall : ['|'].intercalate ((w :: w' :: ws).map escaped)
        = escaped w ++ '|' :: ['|'].intercalate ((w' :: ws).map escaped) := by simp
    refine ⟨w.length + 1 + steps, ?_, fun n outer frames done groups names rest hindex => ?_⟩
    · have := length_le_length_escaped w
      rw [hall, List.length_append, List.length_cons]
      omega
    · rw [hall, Nat.add_assoc, List.append_assoc, htext]
      refine (run_cons (steps + n) rfl rfl rfl).trans ?_
      rw [bar, sequenceNode_map_node]
      refine (hrun n outer frames _ groups names rest hindex).trans ?_
      rw [List.reverse_cons, List.append_assoc]
      rfl

/-- A group that is not counted, with a text in each alternative. -/
theorem Reads.anyOf (w : List Char) (ws : List (List Char)) :
    Reads ('(' :: '?' :: ':' :: (['|'].intercalate ((w :: ws).map Pattern.escaped) ++ [')']))
      [.ofAlts ((w :: ws).map .ofText)] := by
  obtain ⟨steps, hle, hrun⟩ := Reader.run_alternatives w ws
  refine ⟨steps + 1, ?_, fun n r rest hr => ?_⟩
  · simp only [List.length_cons, List.length_append]
    omega
  obtain ⟨frames, alternatives, sequence, flags, groups, names, old⟩ := r
  subst hr
  rw [List.cons_append, List.cons_append, List.cons_append, List.append_assoc, Nat.add_right_comm]
  refine (Reader.run_cons (steps + n) rfl rfl rfl).trans ?_
  exact hrun n ⟨alternatives, sequence, none, {}⟩ frames [] groups names rest rfl

/-- The tree of the pattern for any of some words. -/
def wordsNode (ws : List (List Char)) : Node :=
  .ofSeq [boundary, .ofAlts (ws.map .ofText), boundary]

theorem readNode_anyWord (w : List Char) (ws : List (List Char)) :
    readNode ('\\' :: 'b' :: '(' :: '?' :: ':' :: (['|'].intercalate ((w :: ws).map escaped) ++ [')'])
      ++ ['\\', 'b']) = .ok (wordsNode (w :: ws)) :=
  readNode_append_boundary ((Reads.anyOf w ws).boundary rfl (by decide))

section Words
variable {ws : List (List Char)}

theorem advances_wordsNode (ws : List (List Char)) : (wordsNode ws).Advances := by
  refine ⟨trivial, Node.advances_ofAlts fun n hn => ?_, trivial⟩
  obtain ⟨w, -, rfl⟩ := List.mem_map.mp hn
  exact Node.advances_ofText w

theorem opens_wordsNode (h : ∀ w ∈ ws, isName w = true) {c : Char} (hc : c ∉ Unicode.word) :
    (wordsNode ws).opens c = false := by
  have halts : (Node.ofAlts (ws.map .ofText)).opens c = false := by
    rw [Node.opens_ofAlts, List.any_map, List.any_eq_false]
    intro w hw hopens
    obtain ⟨cs, rfl⟩ := List.head?_eq_some_iff.mp (Node.opens_ofText hopens)
    exact hc (mem_word_of_isName (h _ hw) c List.mem_cons_self)
  have hend : (Node.ofSeq [boundary]).opens c = false := rfl
  rw [wordsNode, Node.opens_ofSeq_cons, Node.opens_ofSeq_cons, halts, hend, Bool.and_false,
    Bool.or_false, Bool.and_false]
  rfl

end Words

end TableLexer.Pattern
