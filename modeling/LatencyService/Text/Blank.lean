/-
White space in the sense of the Unicode property White_Space, and the texts
that hold nothing else. The property is wider than the ASCII blanks: it holds
the no-break space, the ideographic space and the line and paragraph
separators, but not the zero-width characters.
-/

namespace LatencyService

/-- The character has the property White_Space. -/
def isBlankChar (char : Char) : Bool :=
  let code := char.toNat
  (0x09 ≤ code && code ≤ 0x0D) || code == 0x20 || code == 0x85 || code == 0xA0 ||
    code == 0x1680 || (0x2000 ≤ code && code ≤ 0x200A) || code == 0x2028 || code == 0x2029 ||
    code == 0x202F || code == 0x205F || code == 0x3000

theorem isBlankChar_of_isWhitespace {char : Char} (blank : char.isWhitespace = true) :
    isBlankChar char = true := by
  simp only [Char.isWhitespace, Bool.or_eq_true, decide_eq_true_eq] at blank
  rcases blank with ((rfl | rfl) | rfl) | rfl <;> decide

namespace Blank

/-- The characters without the blanks at both ends. -/
def trimChars (chars : List Char) : List Char :=
  ((chars.dropWhile isBlankChar).reverse.dropWhile isBlankChar).reverse

/-- The text without the blanks at both ends. -/
def trim (text : String) : String := String.ofList (trimChars text.toList)

/-- The text holds nothing but blanks. -/
def isBlank (text : String) : Bool := text.toList.all isBlankChar

end Blank

end LatencyService
