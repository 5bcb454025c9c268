/-!
# Blanks

The characters that separate words, and the functions that remove or unify them.
-/

namespace SqlGateway.Text

/-- White space of every script: spaces, tabs, line and paragraph separators, and
    the four information separators below the space. -/
def isBlank (c : Char) : Bool :=
  let code := c.toNat
  (9 ≤ code && code ≤ 13) || (28 ≤ code && code ≤ 32) || code == 0x85 || code == 0xa0
    || code == 0x1680 || (0x2000 ≤ code && code ≤ 0x200a) || code == 0x2028 || code == 0x2029
    || code == 0x202f || code == 0x205f || code == 0x3000

/-- The text without the blanks at its start. -/
def trimStart (text : List Char) : List Char :=
  text.dropWhile isBlank

/-- The text without the blanks at its end. -/
def trimEnd (text : List Char) : List Char :=
  (text.reverse.dropWhile isBlank).reverse

/-- The text without the blanks at its two ends. -/
def trim (text : List Char) : List Char :=
  trimEnd (trimStart text)

/-- Every end of a line becomes a line feed: a carriage return, with a line feed behind it
    or without. -/
def unifyLineEnds : List Char → List Char
  | '\r' :: '\n' :: rest => '\n' :: unifyLineEnds rest
  | '\r' :: rest => '\n' :: unifyLineEnds rest
  | c :: rest => c :: unifyLineEnds rest
  | [] => []

/-- Every run of blanks becomes one space. The flag says that the characters just
    before were blanks whose space has been written. -/
def squeezeFrom (inRun : Bool) : List Char → List Char
  | [] => []
  | c :: rest =>
      if isBlank c then
        if inRun then squeezeFrom true rest else ' ' :: squeezeFrom true rest
      else c :: squeezeFrom false rest

/-- Every run of blanks becomes one space, and none is left at the two ends. -/
def squeeze (text : List Char) : List Char :=
  trim (squeezeFrom false text)

/-- Blanks around a number in a text. The four information separators do not count as
    such. -/
def isPadding (c : Char) : Bool :=
  isBlank c && !(28 ≤ c.toNat && c.toNat ≤ 31)

/-- The text without padding at its two ends. -/
def unpadded (text : List Char) : List Char :=
  ((text.dropWhile isPadding).reverse.dropWhile isPadding).reverse

/-- Every white space character of ASCII is blank. -/
theorem isBlank_of_isWhitespace (c : Char) (white : c.isWhitespace = true) : isBlank c = true := by
  simp only [Char.isWhitespace, Bool.or_eq_true, decide_eq_true_eq] at white
  rcases white with ((rfl | rfl) | rfl) | rfl <;> decide

/-- Trimming the end keeps what follows the last blank out of the result. -/
theorem trimEnd_append_of_blank (text : List Char) (c : Char) (blank : isBlank c = true) :
    trimEnd (text ++ [c]) = trimEnd text := by
  simp [trimEnd, blank]

end SqlGateway.Text
