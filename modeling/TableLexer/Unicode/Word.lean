import TableLexer.Unicode.Binary

/-!
# Words, digits and white space

The three classes that patterns use most, over all of Unicode and over ASCII alone. Each Unicode
class starts with its ASCII part, so that an ASCII character is decided without the tables:
`mem_extendAscii` says that the two agree there.
-/

namespace TableLexer.Unicode

namespace Ascii

/-- The digits `0` to `9`. -/
def digit : CharSet := .range '0' '9'

/-- The letters `A` to `Z`. -/
def upper : CharSet := .range 'A' 'Z'

/-- The letters `a` to `z`. -/
def lower : CharSet := .range 'a' 'z'

/-- Letters in either case. -/
def alpha : CharSet := upper ∪ lower

/-- Letters and digits. -/
def alnum : CharSet := digit ∪ alpha

/-- Space and tab. -/
def blank : CharSet := .single ' ' ∪ .single '\t'

/-- Control codes. -/
def control : CharSet := .range '\x00' '\x1f' ∪ .single '\x7f'

/-- Characters with a shape of their own. -/
def graphic : CharSet := .range '!' '~'

/-- Characters with a shape, and the space. -/
def printable : CharSet := .range ' ' '~'

/-- Characters with a shape that are neither letters nor digits. -/
def punctuation : CharSet := graphic \ alnum

/-- Digits in base sixteen, in either case. -/
def hexDigit : CharSet := digit ∪ .range 'A' 'F' ∪ .range 'a' 'f'

/-- Tab, line feed, vertical tab, form feed, carriage return and space. -/
def space : CharSet := .range '\t' '\r' ∪ .single ' '

/-- Letters, digits and the underscore. -/
def word : CharSet := alnum ∪ .single '_'

end Ascii

/-- A class that has the given members in ASCII and takes the others from a second class. -/
def extendAscii (here beyond : CharSet) : CharSet :=
  (CharSet.ascii ∩ here) ∪ (.compl .ascii ∩ beyond)

/-- Decimal digits. -/
def digit : CharSet := extendAscii Ascii.digit Category.decimalNumber

/-- White space. -/
def space : CharSet := extendAscii Ascii.space Binary.whiteSpace

/-- Word characters: letters and what else is alphabetic, marks, digits, connectors, joiners. -/
def word : CharSet :=
  extendAscii Ascii.word
    (Binary.alphabetic ∪ Category.mark ∪ Category.decimalNumber ∪
      Category.connectorPunctuation ∪ Binary.joinControl)

/-- Alphabetic characters. -/
def alphabetic : CharSet := extendAscii Ascii.alpha Binary.alphabetic

/-- Alphabetic characters and numbers. -/
def alphanumeric : CharSet := extendAscii Ascii.alnum (Binary.alphabetic ∪ Category.number)

theorem mem_extendAscii {here beyond : CharSet} {c : Char} (h : c ∈ CharSet.ascii) :
    c ∈ extendAscii here beyond ↔ c ∈ here := by
  simp [extendAscii, h]

theorem mem_space_ascii {c : Char} (h : c ∈ CharSet.ascii) : c ∈ space ↔ c ∈ Ascii.space :=
  mem_extendAscii h

theorem mem_word_ascii {c : Char} (h : c ∈ CharSet.ascii) : c ∈ word ↔ c ∈ Ascii.word :=
  mem_extendAscii h

end TableLexer.Unicode
