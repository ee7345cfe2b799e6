import ChomskyChart.Unicode.Ranges

/-!
# White space

The Unicode property White_Space: what separates words, surrounds a line and may stand
between the lexemes of a grammar text. Zero-width spaces and the byte order mark are not in it.
-/
namespace ChomskyChart.Unicode

/-- The ranges of White_Space, which later versions of the standard leave as they are. -/
def whiteSpace : Ranges where toList :=
  [(0x0009, 0x000D), (0x0020, 0x0020), (0x0085, 0x0085), (0x00A0, 0x00A0), (0x1680, 0x1680),
   (0x2000, 0x200A), (0x2028, 0x2029), (0x202F, 0x202F), (0x205F, 0x205F), (0x3000, 0x3000)]

/-- A character that separates words. -/
def isWhiteSpace (c : Char) : Bool := whiteSpace.contains c.toNat

end ChomskyChart.Unicode
