import Mathlib.Data.List.Forall2
import TableLexer.Proofs.Pattern.Words
import TableLexer.Proofs.Scanner.Locality

/-!
# Rules that cut alike

`tokensFrom_agree`: if at every position of a text the first pieces that two lists of rules take have the
same length, and the same kind unless a name begins there, then the two lists cut the text into the same
pieces, of the same kinds unless they begin with a name. Only first pieces are compared: if the pieces of
a match are found again one by one, scanning may start anew after the first.
-/

namespace TableLexer
open Pattern (startsName)

/-- Two tokens are the same piece of a text, and of the same kind unless it begins with a name. -/
structure Token.Agrees (t u : Token) : Prop where
  offset : t.offset = u.offset
  text : t.text = u.text
  kind : startsName t.text.toList = false → t.kind = u.kind

/-- The first pieces that two lists of rules take at a position have the same length, and the same kind
unless a name begins there. -/
def CutAlike (es es' : List Entry) (before text : List Char) : Prop :=
  ∃ p ps p' ps', pieces es before text = p :: ps ∧ pieces es' before text = p' :: ps' ∧
    p.2 = p'.2 ∧ (startsName text = false → p.1 = p'.1)

variable {es es' : List Entry} {before text : List Char}

theorem CutAlike.of_eq (htext : text ≠ []) (h : pieces es before text = pieces es' before text) :
    CutAlike es es' before text := by
  obtain ⟨p, ps, hps⟩ := List.exists_cons_of_ne_nil (pieces_spec es before htext).1
  exact ⟨p, ps, p, ps, hps, h ▸ hps, rfl, fun _ => rfl⟩

theorem startsName_take {count : Nat} (hcount : 0 < count) (text : List Char) :
    startsName (text.take count) = startsName text := by
  rw [startsName, startsName, List.head?_take, if_neg (by omega)]

/-- **Rules that cut alike at every position give the same pieces**, of the same kinds unless they begin
with a name. -/
theorem tokensFrom_agree (hes : Resumes es) (hes' : Resumes es') {input : List Char}
    (halike : ∀ before text, before.reverse ++ text = input → text ≠ [] → CutAlike es es' before text)
    (hinput : before.reverse ++ text = input) (offset : Nat) :
    List.Forall₂ Token.Agrees (tokensFrom es before text offset) (tokensFrom es' before text offset) := by
  generalize hn : text.length = n
  induction n using Nat.strongRecOn generalizing before text offset with
  | ind n ih =>
    by_cases htext : text = []
    · rw [htext, tokensFrom_nil, tokensFrom_nil]
      exact .nil
    obtain ⟨p, ps, p', ps', hps, hps', hcount, hkind⟩ := halike before text hinput htext
    obtain ⟨q, qs, hq, -, htokens⟩ := tokensFrom_cons hes before offset htext
    obtain ⟨q', qs', hq', -, htokens'⟩ := tokensFrom_cons hes' before offset htext
    obtain ⟨rfl, -⟩ := List.cons.inj (hps.symm.trans hq)
    obtain ⟨rfl, -⟩ := List.cons.inj (hps'.symm.trans hq')
    have hpos : 0 < p.2 := (pieces_spec es before htext).2.1 p (by rw [hps]; exact List.mem_cons_self)
    have hlength := List.length_pos_iff.mpr htext
    rw [htokens, htokens', ← hcount]
    refine .cons ⟨rfl, rfl, fun hname => hkind ?_⟩ (ih _ (by rw [List.length_drop]; omega) ?_ _ rfl)
    · rwa [String.toList_ofList, startsName_take hpos] at hname
    · rw [List.reverse_append, List.reverse_reverse, List.append_assoc, List.take_append_drop]
      exact hinput

end TableLexer
