import TableLexer.Unicode.Grapheme.Class
import TableLexer.Unicode.Script
import TableLexer.Unicode.Word

/-!
# Break classes

The classes by which the standard (version 16) finds the borders of graphemes, words and sentences, derived
from categories, scripts and binary properties as the standard derives them. Patterns name these; a text is
cut into graphemes by the classes of `Grapheme`, which are those of version 17. The two agree on Hangul.
-/

namespace TableLexer.Unicode

/-- A character of which a run of others takes its line breaks from a dictionary. -/
def complexContext : CharSet := .codes [
  ⟨0xE01, 0xE3A, 1⟩, ⟨0xE40, 0xE4E, 1⟩, ⟨0xE81, 0xE82, 1⟩, ⟨0xE84, 0xE84, 1⟩, ⟨0xE86, 0xE8A, 1⟩,
  ⟨0xE8C, 0xEA3, 1⟩, ⟨0xEA5, 0xEA5, 1⟩, ⟨0xEA7, 0xEBD, 1⟩, ⟨0xEC0, 0xEC4, 1⟩, ⟨0xEC6, 0xEC6, 1⟩,
  ⟨0xEC8, 0xECE, 1⟩, ⟨0xEDC, 0xEDF, 1⟩, ⟨0x1000, 0x103F, 1⟩, ⟨0x1050, 0x108F, 1⟩,
  ⟨0x109A, 0x109F, 1⟩, ⟨0x1780, 0x17D3, 1⟩, ⟨0x17D7, 0x17D7, 1⟩, ⟨0x17DC, 0x17DD, 1⟩,
  ⟨0x1950, 0x196D, 1⟩, ⟨0x1970, 0x1974, 1⟩, ⟨0x1980, 0x19AB, 1⟩, ⟨0x19B0, 0x19C9, 1⟩,
  ⟨0x19DA, 0x19DA, 1⟩, ⟨0x19DE, 0x19DF, 1⟩, ⟨0x1A20, 0x1A5E, 1⟩, ⟨0x1A60, 0x1A7C, 1⟩,
  ⟨0x1AA0, 0x1AAD, 1⟩, ⟨0xA9E0, 0xA9EF, 1⟩, ⟨0xA9FA, 0xA9FE, 1⟩, ⟨0xAA60, 0xAAC2, 1⟩,
  ⟨0xAADB, 0xAADF, 1⟩, ⟨0x11700, 0x1171A, 1⟩, ⟨0x1171D, 0x1172B, 1⟩, ⟨0x1173A, 0x1173B, 1⟩,
  ⟨0x1173F, 0x11746, 1⟩]

/-- Digits that are not so by category, and signs that belong to a number. -/
def numberSign : CharSet := .codes [
  ⟨0x600, 0x605, 1⟩, ⟨0x66B, 0x66B, 1⟩, ⟨0x6DD, 0x6DD, 1⟩, ⟨0x890, 0x891, 1⟩, ⟨0x8E2, 0x8E2, 1⟩,
  ⟨0x19DA, 0x19DA, 1⟩, ⟨0x110BD, 0x110BD, 1⟩, ⟨0x110CD, 0x110CD, 1⟩]

/-- Marks and other characters that never stand at the start of a word. -/
def breakExtend : CharSet :=
  (Binary.graphemeExtend ∪ Category.spacingMark ∪ Binary.emojiModifier) \ .single '\u200D'

/-- The break class of digits. -/
def breakNumeric : CharSet := Category.decimalNumber ∪ numberSign

namespace GraphemeBreak

/-- Characters that extend the grapheme before them. -/
def extend : CharSet := Binary.graphemeExtend ∪ Binary.emojiModifier

/-- Characters that join the grapheme after them. -/
def prepended : CharSet :=
  Binary.prependedConcatenationMark ∪ .codes [
    ⟨0xD4E, 0xD4E, 1⟩, ⟨0x111C2, 0x111C3, 1⟩, ⟨0x113D1, 0x113D1, 1⟩, ⟨0x1193F, 0x1193F, 1⟩,
    ⟨0x11941, 0x11941, 1⟩, ⟨0x11A3A, 0x11A3A, 1⟩, ⟨0x11A84, 0x11A89, 1⟩, ⟨0x11D46, 0x11D46, 1⟩,
    ⟨0x11F02, 0x11F02, 1⟩]

/-- Controls other than carriage return and line feed. -/
def control : CharSet :=
  (Category.lineSeparator ∪ Category.paragraphSeparator ∪ Category.control ∪ Category.format ∪
      (Category.unassigned ∩ Binary.defaultIgnorable)) \
    (.single '\r' ∪ .single '\n' ∪ .single '\u200D' ∪ extend ∪ prepended)

/-- Marks that take up space and yet do not join the grapheme before them. -/
def separateMark : CharSet := .codes [
  ⟨0x102B, 0x102C, 1⟩, ⟨0x1038, 0x1038, 1⟩, ⟨0x1062, 0x1064, 1⟩, ⟨0x1067, 0x106D, 1⟩,
  ⟨0x1083, 0x1083, 1⟩, ⟨0x1087, 0x108C, 1⟩, ⟨0x108F, 0x108F, 1⟩, ⟨0x109A, 0x109C, 1⟩,
  ⟨0x1A61, 0x1A61, 1⟩, ⟨0x1A63, 0x1A64, 1⟩, ⟨0xAA7B, 0xAA7B, 1⟩, ⟨0xAA7D, 0xAA7D, 1⟩,
  ⟨0x11720, 0x11721, 1⟩]

/-- Spacing marks that join the grapheme before them. -/
def spacingMark : CharSet :=
  (Category.spacingMark ∪ .single '\u0E33' ∪ .single '\u0EB3') \ (extend ∪ separateMark)

/-- The names of the classes and the classes; the short name stands first. -/
def classes : List (List String × CharSet) := [
  (["cr"], .single '\r'), (["lf"], .single '\n'), (["cn", "control"], control),
  (["ex", "extend"], extend), (["zwj"], .single '\u200D'),
  (["ri", "regionalindicator"], Binary.regionalIndicator), (["pp", "prepend"], prepended),
  (["sm", "spacingmark"], spacingMark), (["l"], Grapheme.leadingJamo), (["v"], Grapheme.vowelJamo),
  (["t"], Grapheme.trailingJamo), (["lv"], Grapheme.openSyllable),
  (["lvt"], Grapheme.closedSyllable)]

end GraphemeBreak

namespace WordBreak

/-- Line ends other than carriage return and line feed. -/
def newline : CharSet := .codes [⟨0xB, 0xC, 1⟩, ⟨0x85, 0x85, 1⟩, ⟨0x2028, 0x2029, 1⟩]

/-- Format characters. -/
def format : CharSet :=
  Category.format \ (.range '\u200B' '\u200D' ∪ breakExtend ∪ numberSign ∪ .single '\u070F')

/-- Katakana and its signs. -/
def katakana : CharSet :=
  .codes Script.katakana.own ∪ .codes [
    ⟨0x3031, 0x3035, 1⟩, ⟨0x309B, 0x309C, 1⟩, ⟨0x30A0, 0x30A0, 1⟩, ⟨0x30FC, 0x30FC, 1⟩,
    ⟨0xFF70, 0xFF70, 1⟩]

/-- Hebrew letters. -/
def hebrewLetter : CharSet := .codes Script.hebrew.own ∩ Category.otherLetter

/-- Characters that take part in words like letters do. -/
def letterLike : CharSet := .codes [
  ⟨0x2C2, 0x2C5, 1⟩, ⟨0x2D2, 0x2D7, 1⟩, ⟨0x2DE, 0x2DF, 1⟩, ⟨0x2E5, 0x2EB, 1⟩, ⟨0x2ED, 0x2ED, 1⟩,
  ⟨0x2EF, 0x2FF, 1⟩, ⟨0x55A, 0x55C, 1⟩, ⟨0x55E, 0x55E, 1⟩, ⟨0x58A, 0x58A, 1⟩, ⟨0x5F3, 0x5F3, 1⟩,
  ⟨0x70F, 0x70F, 1⟩, ⟨0xA708, 0xA716, 1⟩, ⟨0xA720, 0xA721, 1⟩, ⟨0xA789, 0xA78A, 1⟩,
  ⟨0xAB5B, 0xAB5B, 1⟩]

/-- Letters of words that are set apart by spaces. -/
def aLetter : CharSet :=
  (Binary.alphabetic ∪ letterLike) \
    (Binary.ideographic ∪ katakana ∪ hebrewLetter ∪ complexContext ∪ .codes Script.hiragana.own ∪
      breakExtend)

/-- Signs that may stand between two letters of a word. -/
def midLetter : CharSet := .codes [
  ⟨0x3A, 0x3A, 1⟩, ⟨0xB7, 0xB7, 1⟩, ⟨0x387, 0x387, 1⟩, ⟨0x55F, 0x55F, 1⟩, ⟨0x5F4, 0x5F4, 1⟩,
  ⟨0x2027, 0x2027, 1⟩, ⟨0xFE13, 0xFE13, 1⟩, ⟨0xFE55, 0xFE55, 1⟩, ⟨0xFF1A, 0xFF1A, 1⟩]

/-- Signs that may stand between two digits of a number. -/
def midNum : CharSet := .codes [
  ⟨0x2C, 0x2C, 1⟩, ⟨0x3B, 0x3B, 1⟩, ⟨0x37E, 0x37E, 1⟩, ⟨0x589, 0x589, 1⟩, ⟨0x60C, 0x60D, 1⟩,
  ⟨0x66C, 0x66C, 1⟩, ⟨0x7F8, 0x7F8, 1⟩, ⟨0x2044, 0x2044, 1⟩, ⟨0xFE50, 0xFE50, 1⟩,
  ⟨0xFE54, 0xFE54, 1⟩, ⟨0xFF0C, 0xFF0C, 1⟩, ⟨0xFF1B, 0xFF1B, 1⟩]

/-- Signs that may stand between two letters or between two digits. -/
def midNumLet : CharSet := .codes [
  ⟨0x2E, 0x2E, 1⟩, ⟨0x2018, 0x2019, 1⟩, ⟨0x2024, 0x2024, 1⟩, ⟨0xFE52, 0xFE52, 1⟩,
  ⟨0xFF07, 0xFF07, 1⟩, ⟨0xFF0E, 0xFF0E, 1⟩]

/-- Connectors, which join letters, digits and katakana. -/
def extendNumLet : CharSet := Category.connectorPunctuation ∪ .single '\u202F'

/-- Spaces that are kept together. -/
def segmentSpace : CharSet :=
  Category.spaceSeparator \ .codes [⟨0xA0, 0xA0, 1⟩, ⟨0x2007, 0x2007, 1⟩, ⟨0x202F, 0x202F, 1⟩]

/-- The names of the classes and the classes; the short name stands first. -/
def classes : List (List String × CharSet) := [
  (["cr"], .single '\r'), (["lf"], .single '\n'), (["nl", "newline"], newline),
  (["extend"], breakExtend), (["zwj"], .single '\u200D'),
  (["ri", "regionalindicator"], Binary.regionalIndicator), (["fo", "format"], format),
  (["ka", "katakana"], katakana), (["hl", "hebrewletter"], hebrewLetter),
  (["le", "aletter"], aLetter), (["sq", "singlequote"], .single '\x27'),
  (["dq", "doublequote"], .single '"'), (["mb", "midnumlet"], midNumLet),
  (["ml", "midletter"], midLetter), (["mn", "midnum"], midNum), (["nu", "numeric"], breakNumeric),
  (["ex", "extendnumlet"], extendNumLet), (["wsegspace"], segmentSpace)]

end WordBreak

namespace SentenceBreak

/-- Line ends other than carriage return and line feed. -/
def separator : CharSet := .codes [⟨0x85, 0x85, 1⟩, ⟨0x2028, 0x2029, 1⟩]

/-- Format characters. -/
def format : CharSet := WordBreak.format ∪ .single '\u200B' ∪ .single '\u070F'

/-- White space within a line. -/
def blank : CharSet := Binary.whiteSpace \ (separator ∪ .single '\n' ∪ .single '\r')

/-- Characters that belong to the one before. -/
def sentenceExtend : CharSet :=
  (breakExtend ∪ .single '\u200D') \ Binary.emojiModifier

/-- Georgian letters, whose case does not mark the start of a sentence. -/
def georgian : CharSet := .codes [⟨0x10D0, 0x10FA, 1⟩, ⟨0x10FD, 0x10FF, 1⟩, ⟨0x1C90, 0x1CBF, 1⟩]

/-- Lowercase letters. -/
def lower : CharSet := Binary.lowercase \ (sentenceExtend ∪ georgian)

/-- Uppercase letters. -/
def upper : CharSet :=
  (Binary.uppercase ∪ Category.titlecaseLetter) \ (sentenceExtend ∪ georgian)

/-- Letters without case. -/
def otherLetter : CharSet :=
  (Binary.alphabetic ∪ .single '\u05F3') \ (lower ∪ upper ∪ sentenceExtend)

/-- Digits. -/
def numeric : CharSet := breakNumeric ∪ .single '\u066C'

/-- Full stops, which may also stand in an abbreviation. -/
def fullStop : CharSet := .codes [
  ⟨0x2E, 0x2E, 1⟩, ⟨0x2024, 0x2024, 1⟩, ⟨0xFE52, 0xFE52, 1⟩, ⟨0xFF0E, 0xFF0E, 1⟩]

/-- Other signs that end a sentence. -/
def terminator : CharSet := Binary.sentenceTerminal \ fullStop

/-- Quotation marks that are not so by category. -/
def otherQuote : CharSet := .codes [
  ⟨0x22, 0x22, 1⟩, ⟨0x27, 0x27, 1⟩, ⟨0x275B, 0x2760, 1⟩, ⟨0x2E00, 0x2E01, 1⟩, ⟨0x2E06, 0x2E08, 1⟩,
  ⟨0x2E0B, 0x2E0B, 1⟩, ⟨0x1F676, 0x1F678, 1⟩]

/-- Brackets and quotation marks. -/
def closing : CharSet :=
  (Category.openPunctuation ∪ Category.closePunctuation ∪ Category.initialPunctuation ∪
    Category.finalPunctuation ∪ otherQuote) \ (fullStop ∪ terminator ∪ .single '\u05F3')

/-- Signs after which a sentence goes on. -/
def continuation : CharSet := .codes [
  ⟨0x2C, 0x2D, 1⟩, ⟨0x3A, 0x3B, 1⟩, ⟨0x37E, 0x37E, 1⟩, ⟨0x55D, 0x55D, 1⟩, ⟨0x60C, 0x60D, 1⟩,
  ⟨0x7F8, 0x7F8, 1⟩, ⟨0x1802, 0x1802, 1⟩, ⟨0x1808, 0x1808, 1⟩, ⟨0x2013, 0x2014, 1⟩,
  ⟨0x3001, 0x3001, 1⟩, ⟨0xFE10, 0xFE11, 1⟩, ⟨0xFE13, 0xFE14, 1⟩, ⟨0xFE31, 0xFE32, 1⟩,
  ⟨0xFE50, 0xFE51, 1⟩, ⟨0xFE54, 0xFE55, 1⟩, ⟨0xFE58, 0xFE58, 1⟩, ⟨0xFE63, 0xFE63, 1⟩,
  ⟨0xFF0C, 0xFF0D, 1⟩, ⟨0xFF1A, 0xFF1B, 1⟩, ⟨0xFF64, 0xFF64, 1⟩]

/-- The names of the classes and the classes; the short name stands first. -/
def classes : List (List String × CharSet) := [
  (["cr"], .single '\r'), (["lf"], .single '\n'), (["ex", "extend"], sentenceExtend),
  (["se", "sep"], separator), (["fo", "format"], format), (["sp"], blank),
  (["lo", "lower"], lower), (["up", "upper"], upper), (["le", "oletter"], otherLetter),
  (["nu", "numeric"], numeric), (["at", "aterm"], fullStop), (["st", "sterm"], terminator),
  (["cl", "close"], closing), (["sc", "scontinue"], continuation)]

end SentenceBreak

end TableLexer.Unicode
