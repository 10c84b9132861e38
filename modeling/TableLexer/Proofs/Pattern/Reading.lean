import TableLexer.Pattern.Literal
import TableLexer.Proofs.Pattern.Layout
import TableLexer.Rule

/-!
# Reading the patterns of literals

The reader takes a pattern part by part (`Reads`), so what a part adds to the sequence is said once,
whatever the pattern goes on with. From the parts come the trees of the two patterns for literals,
`readNode_delimitedPattern` and `readNode_quotedPattern`, for all openers, closers, quotes and
escapes.
-/

namespace TableLexer.Pattern
open Unicode (CharSet)

/-! ## Reading part by part -/

/-- Reading a part of a pattern adds nodes to the sequence, whatever the pattern goes on with. -/
def Reads (part : List Char) (ns : List Node) : Prop :=
  ∃ steps ≤ part.length, ∀ n (r : Reader) rest, r.flags = {} →
    Reader.run (steps + n) { r with rest := part ++ rest }
      = Reader.run n { r with sequence := (ns.map .node).reverse ++ r.sequence, rest }

namespace Reads
variable {part part' : List Char} {ns ns' : List Node}

theorem append (h : Reads part ns) (h' : Reads part' ns') : Reads (part ++ part') (ns ++ ns') := by
  obtain ⟨steps, hle, hrun⟩ := h
  obtain ⟨steps', hle', hrun'⟩ := h'
  refine ⟨steps + steps', by rw [List.length_append]; omega, fun n r rest hr => ?_⟩
  rw [List.append_assoc, Nat.add_assoc, hrun _ r _ hr,
    hrun' n { r with sequence := (ns.map .node).reverse ++ r.sequence } rest hr]
  simp only [List.map_append, List.reverse_append, List.append_assoc]

theorem escaped (cs : List Char) : Reads (escaped cs) (cs.map fun c => .one (.single c)) := by
  refine ⟨cs.length, length_le_length_escaped cs, fun n r rest hr => ?_⟩
  rw [Reader.run_escaped cs rest n r (by rw [hr]), hr, List.map_map]
  rfl

theorem anything : Reads ".*?".toList [.repeated (.one .all) 0 none false] := by
  refine ⟨2, by decide, fun n r rest hr => ?_⟩
  obtain ⟨frames, alternatives, sequence, flags, groups, names, old⟩ := r
  subst hr
  rw [Nat.add_comm]
  rfl

theorem readNode (h : Reads part ns) : readNode part = .ok (.ofSeq ns) := by
  obtain ⟨steps, hle, hrun⟩ := h
  obtain ⟨n, hn⟩ : ∃ n, part.length + 1 = steps + n := ⟨part.length + 1 - steps, by omega⟩
  have hall := hrun n { rest := part } [] rfl
  rw [List.append_nil, ← hn] at hall
  rw [Pattern.readNode, hall, Reader.run_nil n rfl rfl]
  simp only [Reader.finish, Reader.groupNode, List.append_nil, Reader.sequenceNode_map_node]
  rfl

end Reads

/-! ## Literals between two texts -/

/-- The tree of the pattern of a literal from an opener to the first closer after it. -/
def delimitedNode (opener closer : List Char) : Node :=
  .ofSeq (opener.map (fun c => .one (.single c)) ++ [.repeated (.one .all) 0 none false]
    ++ closer.map fun c => .one (.single c))

theorem readNode_delimitedPattern (opener closer : List Char) :
    readNode (Rule.delimitedPattern opener closer) = .ok (delimitedNode opener closer) :=
  (((Reads.escaped opener).append .anything).append (.escaped closer)).readNode

/-! ## Classes of escaped characters -/

/-- An escaped character in a class is a member, unless a range begins with it. -/
theorem ClassState.run_escaped {s : ClassState} {c d : Char} {cs : List Char} (hd : d ≠ '-') (n : Nat)
    (hrest : s.rest = escaped [c] ++ d :: cs) :
    s.run {} (n + 1) = (s.add (.range c c) (d :: cs)).run {} n := by
  have hrange : classRange {} c c = .ok (.range c c) := by
    simp [classRange]
  cases hc : isMeta c with
  | true =>
    have hrest' : s.rest = '\\' :: c :: d :: cs := by rw [hrest]; simp [escaped, hc]
    have hatom : readClassAtom {} ('\\' :: c :: d :: cs) = .ok (.char c false, d :: cs) :=
      readEscape_meta hc _
    simp [run, Flags.skip, hrest', step, readMember, hatom, hd, hrange, bind, Except.bind, Except.map]
    rfl
  | false =>
    have hrest' : s.rest = c :: d :: cs := by rw [hrest]; simp [escaped, hc]
    have hne (m : Char) (hm : isMeta m = true) : c ≠ m := by rintro rfl; rw [hc] at hm; cases hm
    have hatom : readClassAtom {} (c :: d :: cs) = .ok (.char c false, d :: cs) :=
      if_neg (hne '\\' rfl)
    have hmember : ({ s with rest := c :: d :: cs } : ClassState).readMember {}
        = .ok (s.add (.range c c) (d :: cs)) := by
      simp [readMember, hatom, hd, hrange, bind, Except.bind, Except.map, Flags.skip]
      rfl
    have hstep : s.step {} c (d :: cs) = .ok (.inl (s.add (.range c c) (d :: cs))) := by
      rw [step, if_neg fun h => hne '-' rfl h.1, if_neg fun h => hne ']' rfl h.1]
      · rw [hmember]
        rfl
      · exact hne ']' rfl
      · exact hne '[' rfl
      · exact fun _ h => absurd h (hne '&' rfl)
      · exact fun _ h => absurd h (hne '-' rfl)
      · exact fun _ h => absurd h (hne '~' rfl)
    simp [run, Flags.skip, hrest', hstep, bind, Except.bind]

theorem readClass_escaped (a b : Char) (cs : List Char) :
    readClass {} ('^' :: (escaped [a] ++ (escaped [b] ++ ']' :: cs)))
      = .ok (.compl (.empty ∪ .range a a ∪ .range b b), cs) := by
  obtain ⟨d, ds, hd, hsplit⟩ : ∃ d ds, d ≠ '-' ∧ escaped [b] ++ ']' :: cs = d :: ds := by
    cases h : isMeta b with
    | true => exact ⟨'\\', b :: ']' :: cs, by decide, by simp [escaped, h]⟩
    | false =>
      have hb : b ≠ '-' := by rintro rfl; cases h
      exact ⟨b, ']' :: cs, hb, by simp [escaped, h]⟩
  have hsteps : 3 ≤ ('^' :: (escaped [a] ++ (escaped [b] ++ ']' :: cs))).length + 1 := by
    simp only [List.length_cons, List.length_append]
    omega
  obtain ⟨n, hn⟩ := Nat.exists_eq_add_of_le' hsteps
  rw [readClass, hn, hsplit, ClassState.run_escaped hd _ rfl,
    ClassState.run_escaped (d := ']') (by decide) _ hsplit.symm]
  rfl

/-! ## Literals in quotes -/

/-- The characters that stand for themselves in quotes. -/
def plainSet (quote escape : Char) : CharSet :=
  .compl (.empty ∪ .range quote quote ∪ .range escape escape)

/-- What may stand in quotes: a plain character, or any character after an escape. -/
def quotedPart (quote escape : Char) : Node :=
  .alt (.one (plainSet quote escape)) (.seq (.one (.single escape)) (.one .all))

/-- The tree of the pattern of a literal in quotes. -/
def quotedNode (quote escape : Char) : Node :=
  .ofSeq [.one (.single quote), .repeated (quotedPart quote escape) 0 none true, .one (.single quote)]

theorem readLazy_escaped (c : Char) (cs : List Char) :
    Reader.readLazy (escaped [c] ++ cs) = (false, escaped [c] ++ cs) := by
  cases h : isMeta c with
  | true => simp [escaped, h, Reader.readLazy]
  | false =>
    have hc : c ≠ '?' := by rintro rfl; cases h
    simp [escaped, h, Reader.readLazy, hc]

theorem Reader.run_cons {r r' : Reader} {c : Char} {cs : List Char} (n : Nat)
    (hrest : r.rest = c :: cs) (hr : r.flags.verbose = false) (hstep : r.step c cs = .ok r') :
    Reader.run (n + 1) r = Reader.run n r' := by
  rw [Reader.run, Flags.skip_of_not_verbose hr, hrest]
  simp only [hstep]
  rfl

/-- What is between the quotes is read together with the closing quote, which ends the repetition. -/
theorem Reads.quotedBody (quote escape : Char) :
    Reads ("(?:[^".toList ++ Pattern.escaped [quote] ++ Pattern.escaped [escape] ++ "]|".toList
        ++ Pattern.escaped [escape] ++ ".)*".toList ++ Pattern.escaped [quote])
      [.repeated (quotedPart quote escape) 0 none true, .one (.single quote)] := by
  have hquote := length_le_length_escaped [quote]
  refine ⟨8, ?_, fun n r rest hr => ?_⟩
  · simp only [List.length_append]
    have hsigns : "(?:[^".toList.length + "]|".toList.length + ".)*".toList.length = 10 := rfl
    omega
  obtain ⟨frames, alternatives, sequence, flags, groups, names, old⟩ := r
  subst hr
  let outer : Reader := ⟨frames, alternatives, sequence, {}, groups, names, rest⟩
  let inner := outer.openGroup none {}
  let plain := Node.one (plainSet quote escape)
  let ending := Pattern.escaped [quote] ++ rest
  let second := Pattern.escaped [escape] ++ '.' :: ')' :: '*' :: ending
  let first := '^' :: (Pattern.escaped [quote] ++ (Pattern.escaped [escape] ++ ']' :: '|' :: second))
  -- a class is read by one step of the reader, and a star looks at the character after it
  have hclass : (inner ('[' :: first)).step '[' first = .ok ((inner []).push plain ('|' :: second)) := by
    show (readClass {} first).map _ = _
    rw [readClass_escaped]
    rfl
  have hstar : Reader.run (n + 2) { outer with
      sequence := .node (quotedPart quote escape) :: sequence, rest := '*' :: ending }
        = Reader.run (n + 1) { outer with
            sequence := .node (.repeated (quotedPart quote escape) 0 none true) :: sequence
            rest := ending } := by
    refine Reader.run_cons _ rfl rfl ?_
    rw [Reader.step, Reader.repeatSign, readLazy_escaped]
    rfl
  have hsigns : "(?:[^".toList ++ Pattern.escaped [quote] ++ Pattern.escaped [escape] ++ "]|".toList
      ++ Pattern.escaped [escape] ++ ".)*".toList ++ Pattern.escaped [quote] ++ rest
        = '(' :: '?' :: ':' :: '[' :: first := by
    simp only [List.append_assoc]
    rfl
  rw [hsigns, Nat.add_comm]
  calc Reader.run (n + 8) { outer with rest := '(' :: '?' :: ':' :: '[' :: first }
      = Reader.run (n + 7) (inner ('[' :: first)) := Reader.run_cons _ rfl rfl rfl
    _ = Reader.run (n + 6) ((inner []).push plain ('|' :: second)) := Reader.run_cons _ rfl rfl hclass
    _ = Reader.run (n + 5) { inner second with alternatives := [plain] } := Reader.run_cons _ rfl rfl rfl
    _ = Reader.run (n + 4) { inner ('.' :: ')' :: '*' :: ending) with
          alternatives := [plain], sequence := [.node (.one (.single escape))] } :=
      Reader.run_escaped_cons { inner [] with alternatives := [plain] } rfl escape _ _
    _ = Reader.run (n + 3) { inner (')' :: '*' :: ending) with
          alternatives := [plain]
          sequence := [.node (.one .all), .node (.one (.single escape))] } := Reader.run_cons _ rfl rfl rfl
    _ = Reader.run (n + 2) { outer with
          sequence := .node (quotedPart quote escape) :: sequence, rest := '*' :: ending } :=
      Reader.run_cons _ rfl rfl rfl
    _ = _ := hstar
    _ = _ := Reader.run_escaped_cons { outer with
          sequence := .node (.repeated (quotedPart quote escape) 0 none true) :: sequence } rfl quote rest n

theorem readNode_quotedPattern (quote escape : Char) :
    readNode (Rule.quotedPattern quote escape) = .ok (quotedNode quote escape) := by
  have hreads := (Reads.escaped [quote]).append (.quotedBody quote escape)
  have hpattern : Rule.quotedPattern quote escape = escaped [quote] ++
      ("(?:[^".toList ++ escaped [quote] ++ escaped [escape] ++ "]|".toList ++ escaped [escape]
        ++ ".)*".toList ++ escaped [quote]) := by
    simp only [Rule.quotedPattern, List.append_assoc]
  rw [hpattern, hreads.readNode]
  rfl

end TableLexer.Pattern
