import TableLexer.Kind
import TableLexer.Text.Quoted

/-!
# Tokens

A token is a piece of the input with its kind and the byte at which it begins. `Token.finish` is
the byte after it.
-/

namespace TableLexer

/-- The number of bytes that characters take in UTF-8. -/
def byteLength (cs : List Char) : Nat := cs.foldr (fun c n => c.utf8Size + n) 0

/-- A piece of the input. -/
structure Token where
  kind : Kind
  text : String
  /-- The byte of the input at which the text begins. -/
  offset : Nat
deriving DecidableEq, Repr, Inhabited

/-- The byte of the input after the token. -/
def Token.finish (t : Token) : Nat := t.offset + byteLength t.text.toList

instance : ToString Token := ⟨fun t => t.kind.label ++ "\t" ++ Text.quote t.text⟩

/-- The text that a list of tokens covers. -/
def Token.join (ts : List Token) : List Char := ts.flatMap (·.text.toList)

@[simp] theorem byteLength_nil : byteLength [] = 0 := rfl

@[simp] theorem byteLength_cons (c : Char) (cs : List Char) :
    byteLength (c :: cs) = c.utf8Size + byteLength cs := rfl

theorem byteLength_append (a b : List Char) :
    byteLength (a ++ b) = byteLength a + byteLength b := by
  induction a with
  | nil => simp
  | cons c a ih => simp [ih, Nat.add_assoc]

theorem Token.join_append (ts us : List Token) :
    Token.join (ts ++ us) = Token.join ts ++ Token.join us := by
  simp [Token.join]

end TableLexer
