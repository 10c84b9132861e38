import TableLexer.Proofs.Pattern.Opening
import TableLexer.Proofs.Pattern.Parts
import TableLexer.Proofs.Scanner.Locality
import TableLexer.Proofs.Table.Openers

/-!
# Rules that scan in one state

What the built-in languages ask of a rule (`Rule.Regular`): a constructor made it, its pattern can be
read, its guard looks back eight characters at most, it cannot begin with certain characters, and a
match makes one piece or is a remark or a labelled word. Regular rules resolve, with their openers and
without them.
-/

namespace TableLexer
open Pattern (readNode remark labelled)

/-! ## Patterns that cannot begin with some characters -/

/-- The text is a pattern that cannot begin with any of some characters. -/
def Pattern.Quiet (text cs : List Char) : Prop :=
  ∃ n, readNode text = .ok n ∧ n.Advances ∧ ∀ c ∈ cs, n.opens c = false

/-- What is asked of the tree of a pattern is decided by reading the pattern. -/
def Pattern.decidableTree (text : List Char) (p : Node → Prop) [DecidablePred p] :
    Decidable (∃ n, readNode text = .ok n ∧ p n) :=
  match readNode text with
  | .error _ => isFalse fun ⟨_, hread, _⟩ => nomatch hread
  | .ok n => decidable_of_iff (p n)
      ⟨fun hn => ⟨n, rfl, hn⟩, fun ⟨_, hread, hn⟩ => Except.ok.inj hread ▸ hn⟩

instance Pattern.decidableQuiet (text cs : List Char) : Decidable (Quiet text cs) :=
  have : DecidablePred fun n : Node => n.Advances ∧ ∀ c ∈ cs, n.opens c = false := fun n =>
    have : Decidable (∀ c ∈ cs, n.opens c = false) := List.decidableBAll _ cs
    inferInstance
  decidableTree text fun n => n.Advances ∧ ∀ c ∈ cs, n.opens c = false

theorem Pattern.opens_remark (c : Char) (cs : List Char) (d : Char) :
    (remark (c :: cs)).opens d = (Unicode.CharSet.single c).contains d := by
  have hline : (lineNode (c :: cs)).opens d = (Unicode.CharSet.single c).contains d :=
    Node.opens_ofSeq_one _ _
  have hnullable : (lineNode (c :: cs)).nullable = false := by cases cs <;> rfl
  rw [remark, Node.opens, Node.opens, Node.nullable, hline, hnullable, Bool.false_and, Bool.or_false]

/-! ## Regular rules -/

/-- A match makes one piece, or it is a remark or a labelled word and its second piece is a line end
or a colon. -/
inductive Splits : Pattern.Node → Emission → Prop
  | whole (n : Pattern.Node) (kind : Kind) : Splits n (.whole kind)
  | remark {opening : List Char} (h : opening ≠ []) (kind : Kind) :
      Splits (remark opening) (.groups [kind, .whitespace])
  | labelled {word : List Char} (h : word ≠ []) (condition : Pattern.Assertion) (kind : Kind) :
      Splits (labelled condition word ':') (.groups [kind, .punctuation])

/-- A rule whose pattern is read as a tree with which it can be built. -/
structure Rule.Reads (r : Rule) (n : Pattern.Node) (emission : Emission) : Prop where
  body : ∃ text opener, r.body = .scan text opener emission ∧ readNode text.toList = .ok n
  advances : n.Advances
  splits : Splits n emission

theorem Rule.Reads.token {text : String} {n : Pattern.Node} (hread : readNode text.toList = .ok n)
    (hadvances : n.Advances) (kind : Kind) : (Rule.token text kind).Reads n (.whole kind) :=
  ⟨⟨text, none, rfl, hread⟩, hadvances, .whole n kind⟩

theorem Rule.Reads.after {r : Rule} {n : Pattern.Node} {emission : Emission} (h : r.Reads n emission)
    (texts : List String) : (r.after texts).Reads n emission :=
  ⟨h.body, h.advances, h.splits⟩

theorem Rule.Reads.notAfter {r : Rule} {n : Pattern.Node} {emission : Emission} (h : r.Reads n emission)
    (texts : List String) : (r.notAfter texts).Reads n emission :=
  ⟨h.body, h.advances, h.splits⟩

/-- A rule of a state that scans by itself; it cannot begin with any of the characters `cs`. -/
structure Rule.Regular (cs : List Char) (r : Rule) : Prop where
  made : r.Made
  satisfiable : r.guard.after ≠ some []
  reaches : r.guard.Reaches 8
  reads : ∃ n emission, r.Reads n emission ∧ ∀ c ∈ cs, n.opens c = false

/-- The entry of a rule for matches, in a table without openers. -/
def Rule.plain? (r : Rule) : Option Entry :=
  match r.body with
  | .scan text _ emission =>
    match Pattern.read text with
    | .ok pattern => some ⟨r.guard, .scan pattern none emission⟩
    | .error _ => none
  | _ => none

theorem Rule.Reads.plain? {r : Rule} {n : Pattern.Node} {emission : Emission}
    (h : r.Reads n emission) : r.plain? = some ⟨r.guard, .scan (.ofNode n) none emission⟩ := by
  obtain ⟨text, opener, hbody, hread⟩ := h.body
  simp only [Rule.plain?, hbody, Pattern.read, hread]
  rfl

theorem groupCount_ofSeq {ns : List Pattern.Node} (h : ∀ n ∈ ns, n.groupCount = 0) :
    (Pattern.Node.ofSeq ns).groupCount = 0 := by
  induction ns with
  | nil => rfl
  | cons n ns ih =>
    have hn := h n List.mem_cons_self
    have hns := ih fun n' hn' => h n' (List.mem_cons_of_mem _ hn')
    cases ns with
    | nil => exact hn
    | cons n' ns =>
      show n.groupCount + (Pattern.Node.ofSeq (n' :: ns)).groupCount = 0
      rw [hn, hns]

theorem groupCount_singles (cs : List Char) :
    ∀ n ∈ cs.map fun c => Pattern.Node.one (.single c), n.groupCount = 0 := by
  intro n hn
  obtain ⟨c, -, rfl⟩ := List.mem_map.mp hn
  rfl

theorem Splits.groupCount {n : Pattern.Node} {kinds : List Kind} (h : Splits n (.groups kinds)) :
    n.groupCount = kinds.length := by
  cases h with
  | @remark opening h kind =>
    have hline : (Pattern.lineNode opening).groupCount = 0 := by
      refine groupCount_ofSeq fun n hn => ?_
      rcases List.mem_append.mp hn with hn | hn
      · exact groupCount_singles opening n hn
      · rw [List.mem_singleton.mp hn]
        rfl
    show (Pattern.lineNode opening).groupCount + 1 + 1 = 2
    rw [hline]
  | @labelled word h condition kind =>
    have hword : (Pattern.Node.ofText word).groupCount = 0 :=
      groupCount_ofSeq (groupCount_singles word)
    show 0 + ((Pattern.Node.ofText word).groupCount + 1 + (0 + 1)) = 2
    rw [hword]

namespace Rule.Regular
variable {cs cs' : List Char} {r : Rule} {names : List String} {slots : Nat}

theorem mono (h : r.Regular cs) (hsub : cs' ⊆ cs) : r.Regular cs' := by
  obtain ⟨n, emission, hreads, hquiet⟩ := h.reads
  exact ⟨h.made, h.satisfiable, h.reaches, n, emission, hreads, fun c hc => hquiet c (hsub hc)⟩

theorem resolved (h : r.Regular cs) (names : List String) (slots : Nat) :
    ∃ e slots', Table.Resolved names slots r e slots' := by
  obtain ⟨n, emission, hreads, -⟩ := h.reads
  obtain ⟨text, opener, hbody, hread⟩ := hreads.body
  obtain ⟨body, guard⟩ := r
  obtain rfl : body = .scan text opener emission := hbody
  have hpattern : Pattern.read text = .ok (.ofNode n) := by rw [Pattern.read, hread]; rfl
  refine ⟨_, _, .scan h.satisfiable hpattern fun kinds hkinds => ?_⟩
  subst hkinds
  exact hreads.splits.groupCount

theorem resolvedRules {rules : List Rule} (h : ∀ r ∈ rules, r.Regular cs) (names : List String)
    (slots : Nat) : ∃ es slots', Table.ResolvedRules names slots rules es slots' := by
  induction rules generalizing slots with
  | nil => exact ⟨[], slots, .nil⟩
  | cons r rules ih =>
    obtain ⟨e, slots', hr⟩ := (h r List.mem_cons_self).resolved names slots
    obtain ⟨es, slots'', hrules⟩ := ih (fun r' hr' => h r' (List.mem_cons_of_mem _ hr')) slots'
    exact ⟨e :: es, slots'', .cons hr hrules⟩

theorem resolvedRules_withoutOpener {rules : List Rule} (h : ∀ r ∈ rules, r.Regular cs)
    (names : List String) (slots : Nat) : Table.ResolvedRules names slots
      (rules.map Rule.withoutOpener) (rules.filterMap Rule.plain?) slots := by
  induction rules with
  | nil => exact .nil
  | cons r rules ih =>
    obtain ⟨n, emission, hreads, -⟩ := (h r List.mem_cons_self).reads
    obtain ⟨text, opener, hbody, hread⟩ := hreads.body
    obtain ⟨e, slots', hr⟩ := (h r List.mem_cons_self).resolved names slots
    have hrules := ih fun r' hr' => h r' (List.mem_cons_of_mem _ hr')
    have hentry : e.withoutOpener = ⟨r.guard, .scan (.ofNode n) none emission⟩ := by
      obtain ⟨body, guard⟩ := r
      obtain rfl : body = .scan text opener emission := hbody
      cases hr with
      | scan hguard hpattern hgroups =>
        rw [Pattern.read, hread] at hpattern
        rw [← Except.ok.inj hpattern]
        rfl
    rw [List.map_cons, List.filterMap_cons_some hreads.plain?, ← hentry]
    exact .cons (hr.withoutOpener slots) hrules

/-! ## The constructors -/

theorem of_scan {text : String} {opener : Option String} {emission : Emission} {n : Pattern.Node}
    (hmade : r.Made) (hguard : r.guard = {}) (hbody : r.body = .scan text opener emission)
    (hread : readNode text.toList = .ok n) (hadvances : n.Advances) (hsplits : Splits n emission)
    (hquiet : ∀ c ∈ cs, n.opens c = false) : r.Regular cs := by
  refine ⟨hmade, ?_, ?_, n, emission, ⟨⟨text, opener, hbody, hread⟩, hadvances, hsplits⟩, hquiet⟩
  · rw [hguard]
    exact fun h => nomatch h
  · rw [hguard]
    exact fun text ht => absurd ht List.not_mem_nil

theorem token {text : String} (h : Pattern.Quiet text.toList cs) (kind : Kind) :
    (Rule.token text kind).Regular cs := by
  obtain ⟨n, hread, hadvances, hquiet⟩ := h
  exact of_scan (.token text kind) rfl rfl hread hadvances (.whole n kind) hquiet

theorem delimited {opener closer : String}
    (h : Pattern.Quiet (Rule.delimitedPattern opener.toList closer.toList) cs) (kind : Kind) :
    (Rule.delimited opener closer kind).Regular cs := by
  obtain ⟨n, hread, hadvances, hquiet⟩ := h
  rw [← String.toList_ofList (l := Rule.delimitedPattern opener.toList closer.toList)] at hread
  exact of_scan (.delimited opener closer kind) rfl rfl hread hadvances (.whole n kind) hquiet

theorem quoted {quote escape : Char} (h : Pattern.Quiet (Rule.quotedPattern quote escape) cs)
    (kind : Kind) : (Rule.quoted quote escape kind).Regular cs := by
  obtain ⟨n, hread, hadvances, hquiet⟩ := h
  rw [← String.toList_ofList (l := Rule.quotedPattern quote escape)] at hread
  exact of_scan (.quoted quote escape kind) rfl rfl hread hadvances (.whole n kind) hquiet

theorem groups {text : String} {n : Pattern.Node} {kinds : List Kind}
    (h : Pattern.Quiet text.toList cs) (hread : readNode text.toList = .ok n)
    (hsplits : Splits n (.groups kinds)) : (Rule.groups text kinds).Regular cs := by
  obtain ⟨n', hread', hadvances, hquiet⟩ := h
  obtain rfl := Except.ok.inj (hread.symm.trans hread')
  exact of_scan (.groups text kinds) rfl rfl hread hadvances hsplits hquiet

theorem after (h : r.Regular cs) {texts : List String} (hne : texts ≠ [])
    (hreach : ∀ text ∈ texts, text.toList.length ≤ 8) : (r.after texts).Regular cs := by
  obtain ⟨n, emission, hreads, hquiet⟩ := h.reads
  refine ⟨h.made.after texts, fun hnil => hne (Option.some.inj hnil), fun text ht => ?_, n, emission,
    hreads.after texts, hquiet⟩
  rcases List.mem_append.mp ht with ht | ht
  · exact hreach text ht
  · exact h.reaches text (List.mem_append_right _ ht)

theorem notAfter (h : r.Regular cs) {texts : List String}
    (hreach : ∀ text ∈ texts, text.toList.length ≤ 8) : (r.notAfter texts).Regular cs := by
  obtain ⟨n, emission, hreads, hquiet⟩ := h.reads
  refine ⟨h.made.notAfter texts, h.satisfiable, fun text ht => ?_, n, emission,
    hreads.notAfter texts, hquiet⟩
  rcases List.mem_append.mp ht with ht | ht
  · exact h.reaches text (List.mem_append_left _ ht)
  · rcases List.mem_append.mp ht with ht | ht
    · exact h.reaches text (List.mem_append_right _ ht)
    · exact hreach text ht

end Rule.Regular

/-! ## Entries -/

section Entries
variable {cs : List Char} {es : List Entry} {e : Entry}

theorem Rule.Reads.pieces?_eq_some {r : Rule} {n : Pattern.Node} {emission : Emission}
    (h : r.Reads n emission) (he : r.plain? = some e) {before text : List Char}
    {ps : List (Kind × Nat)} (hps : e.pieces? before text = some ps) :
    ∃ m, (Pattern.ofNode n).match? before.head? text = some m ∧ r.guard.allows before = true ∧
      ps = Scanner.cut m emission := by
  obtain rfl := Option.some.inj (h.plain?.symm.trans he)
  obtain ⟨pattern, opener, emission', m, haction, hallows, hm, -, rfl⟩ := Entry.pieces?_eq_some hps
  cases haction
  exact ⟨m, hm, hallows, rfl⟩

/-- A rule takes nothing where a character stands that its pattern cannot begin with. -/
theorem Rule.Reads.pieces?_eq_none {r : Rule} {n : Pattern.Node} {emission : Emission}
    (h : r.Reads n emission) (he : r.plain? = some e) {c : Char} (hc : n.opens c = false)
    (before text : List Char) : e.pieces? before (c :: text) = none := by
  obtain rfl := Option.some.inj (h.plain?.symm.trans he)
  have hnothing := Pattern.takesNothing_of_not_opens h.advances hc before.head? text
  simp only [Entry.pieces?]
  split
  · split
    · rfl
    next m hm => exact if_pos (hnothing m hm)
  · rfl

theorem Rule.Regular.pieces?_eq_none {r : Rule} (h : r.Regular cs) (he : r.plain? = some e) {c : Char}
    (hc : c ∈ cs) (before text : List Char) : e.pieces? before (c :: text) = none := by
  obtain ⟨n, emission, hreads, hquiet⟩ := h.reads
  exact hreads.pieces?_eq_none he (hquiet c hc) before text

/-- Where a regular rule takes two pieces, the second is a line end or a colon. -/
theorem Rule.Regular.pieces?_cases {r : Rule} (h : r.Regular cs) (he : r.plain? = some e)
    {before text : List Char} {ps : List (Kind × Nat)} (hps : e.pieces? before text = some ps) :
    (∃ p, ps = [p]) ∨ ∃ kind count rest,
      (ps = [(kind, count), (.whitespace, 1)] ∧ text.drop count = '\n' :: rest) ∨
      (ps = [(kind, count), (.punctuation, 1)] ∧ text.drop count = ':' :: rest) := by
  obtain ⟨n, emission, hreads, -⟩ := h.reads
  obtain ⟨m, hm, -, rfl⟩ := hreads.pieces?_eq_some he hps
  cases hreads.splits with
  | whole n kind => exact .inl ⟨_, rfl⟩
  | remark hopening kind =>
    obtain ⟨count, hone | ⟨htwo, rest, hrest⟩⟩ := Pattern.cut_remark hopening hm kind .whitespace
    · exact .inl ⟨_, hone⟩
    · exact .inr ⟨kind, count, rest, .inl ⟨htwo, hrest⟩⟩
  | labelled hword condition kind =>
    obtain ⟨htwo, rest, rfl⟩ := Pattern.cut_labelled hword hm kind .punctuation
    exact .inr ⟨kind, _, rest, .inr ⟨htwo, List.drop_left⟩⟩

theorem pieces?_one {set : Unicode.CharSet} {c : Char} (hc : set.contains c = true) (kind : Kind)
    (before text : List Char) :
    Entry.pieces? ⟨{}, .scan (.ofNode (.one set)) none (.whole kind)⟩ before (c :: text)
      = some [(kind, 1)] := by
  have hm : (Pattern.ofNode (.one set)).match? before.head? (c :: text) = some ⟨1, []⟩ := by
    have hadvances : (Pattern.Node.one set).Advances := trivial
    rw [Pattern.match?_ofNode hadvances, Pattern.Node.ways]
    simp only [hc, if_true]
    rfl
  have hallows : Guard.allows {} before = true := rfl
  simp only [Entry.pieces?, hallows, if_true, hm]
  rfl

theorem findSome?_eq_of_mem {α β : Type} {f : α → Option β} {a : α} {l : List α} (ha : a ∈ l)
    (h : ∀ b ∈ l, b = a ∨ f b = none) : l.findSome? f = f a := by
  cases hf : f a with
  | none =>
    refine List.findSome?_eq_none_iff.mpr fun b hb => ?_
    rcases h b hb with rfl | hnone
    · exact hf
    · exact hnone
  | some y =>
    cases hfind : l.findSome? f with
    | none => rw [List.findSome?_eq_none_iff.mp hfind a ha] at hf; cases hf
    | some z =>
      obtain ⟨b, hb, hz⟩ := List.exists_of_findSome?_eq_some hfind
      rcases h b hb with rfl | hnone
      · rw [← hz, hf]
      · rw [hnone] at hz; cases hz

theorem pieces_append {init tail : List Entry} {before text : List Char} {ps : List (Kind × Nat)}
    (hinit : ∀ e ∈ init, e.pieces? before text = none) (he : e.pieces? before text = some ps) :
    pieces (init ++ e :: tail) before text = ps := by
  have hnone : init.findSome? (·.pieces? before text) = none := List.findSome?_eq_none_iff.mpr hinit
  rw [pieces, List.findSome?_append, hnone, Option.none_or, List.findSome?_cons, he]

/-- If a line end and a colon are each taken by themselves, whatever is before, regular rules take one
piece at each position, or two of which the second is found again by itself. -/
theorem resumes_of_regular {rules : List Rule} (h : ∀ r ∈ rules, r.Regular cs)
    (hline : ∀ before text, pieces (rules.filterMap Rule.plain?) before ('\n' :: text) = [(.whitespace, 1)])
    (hcolon : ∀ before text,
      pieces (rules.filterMap Rule.plain?) before (':' :: text) = [(.punctuation, 1)]) :
    Resumes (rules.filterMap Rule.plain?) := by
  intro before text htext
  cases hfind : (rules.filterMap Rule.plain?).findSome? (·.pieces? before text) with
  | none =>
    refine .inl ⟨(.error, Unicode.Grapheme.firstLength text), ?_⟩
    rw [pieces, hfind]
  | some ps =>
    have hps : pieces (rules.filterMap Rule.plain?) before text = ps := by rw [pieces, hfind]
    obtain ⟨e, hmem, he⟩ := List.exists_of_findSome?_eq_some hfind
    obtain ⟨r, hr, hentry⟩ := List.mem_filterMap.mp hmem
    rw [hps]
    rcases (h r hr).pieces?_cases hentry he with hone | ⟨kind, count, rest, ⟨rfl, hrest⟩ | ⟨rfl, hrest⟩⟩
    · exact .inl hone
    · exact .inr ⟨_, _, rfl, fun before' => by rw [hrest, hline]⟩
    · exact .inr ⟨_, _, rfl, fun before' => by rw [hrest, hcolon]⟩

end Entries

end TableLexer
