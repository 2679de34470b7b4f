/-!
# Blank characters

The characters that separate words in any script, and texts without a margin of them.

* `isBlank`: the 25 characters of the Unicode property White_Space;
* `trim`: a text without the blanks at its two ends;
* `splitOn`: the pieces of a text between the occurrences of a character.
-/

namespace SchemaDiagram.Text

/-- **Blank.** The character has the property White_Space. -/
def isBlank (c : Char) : Bool :=
  let n := c.toNat
  (0x09 ≤ n && n ≤ 0x0d) || n == 0x20 || n == 0x85 || n == 0xa0 || n == 0x1680 ||
    (0x2000 ≤ n && n ≤ 0x200a) || n == 0x2028 || n == 0x2029 || n == 0x202f || n == 0x205f ||
    n == 0x3000

/-- A text without the blanks at its start. -/
def trimStart (cs : List Char) : List Char := cs.dropWhile isBlank

/-- A text without the blanks at its end. -/
def trimEnd (cs : List Char) : List Char := (trimStart cs.reverse).reverse

/-- **Trimming.** A text without the blanks at its two ends. -/
def trim (s : String) : String := String.ofList (trimEnd (trimStart s.toList))

/-- The pieces of a list between the occurrences of a separator; there is one more of them
than separators. -/
def pieces (separator : Char) : List Char → List (List Char)
  | [] => [[]]
  | c :: cs =>
    if c = separator then [] :: pieces separator cs
    else match pieces separator cs with
      | [] => [[c]]
      | piece :: rest => (c :: piece) :: rest

/-- **Splitting** a text at every occurrence of a character. -/
def splitOn (separator : Char) (s : String) : List String :=
  (pieces separator s.toList).map String.ofList

end SchemaDiagram.Text
