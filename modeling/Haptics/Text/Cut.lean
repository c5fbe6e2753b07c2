/-!
# Cutting a text

A text is cut at the characters that satisfy a test; lines, words and the names of a path are
three uses of the one cut.  Blanks are the characters with the Unicode property `White_Space`.
-/

namespace Haptics.Text

/-! ## Blanks -/

/-- The Unicode property `White_Space`, as ranges of code points in ascending order. -/
def blankRanges : List (Nat × Nat) :=
  [(0x09, 0x0d), (0x20, 0x20), (0x85, 0x85), (0xa0, 0xa0), (0x1680, 0x1680), (0x2000, 0x200a),
   (0x2028, 0x2029), (0x202f, 0x202f), (0x205f, 0x205f), (0x3000, 0x3000)]

def isBlank (c : Char) : Bool :=
  blankRanges.any fun range => range.1 ≤ c.toNat && c.toNat ≤ range.2

/-! ## Trimming -/

/-- The text without the characters at either end that satisfy the test. -/
def trimEnds (test : Char → Bool) (cs : List Char) : List Char :=
  ((cs.dropWhile test).reverse.dropWhile test).reverse

def trim (text : String) : String :=
  String.ofList (trimEnds isBlank text.toList)

/-! ## Cutting -/

/-- The pieces between the characters that satisfy the test; there is one more of them than
there are such characters. -/
def cutAt (test : Char → Bool) : List Char → List (List Char)
  | [] => [[]]
  | c :: rest =>
    if test c then [] :: cutAt test rest
    else
      match cutAt test rest with
      | [] => [[c]]
      | piece :: pieces => (c :: piece) :: pieces

/-- The runs of characters that fail the test. -/
def runs (test : Char → Bool) (cs : List Char) : List (List Char) :=
  (cutAt test cs).filter fun piece => !piece.isEmpty

/-- The words of a text: its runs of characters that are not blank. -/
def words (text : String) : List String :=
  (runs isBlank text.toList).map String.ofList

/-- A line without the carriage return before its newline. -/
def dropReturn (line : List Char) : List Char :=
  if line.getLast? = some '\r' then line.dropLast else line

/-- Of the pieces between newlines all but the last are ended by one; the last is a line only if
it holds anything, and then keeps all its characters. -/
def endLines : List (List Char) → List (List Char)
  | [] => []
  | [last] => if last.isEmpty then [] else [last]
  | line :: rest => dropReturn line :: endLines rest

def lines (text : String) : List String :=
  (endLines (cutAt (· == '\n') text.toList)).map String.ofList

/-- The parts before and after the first occurrence of a character, if there is one. -/
def splitFirst (separator : Char) : List Char → Option (List Char × List Char)
  | [] => none
  | c :: rest =>
    if c = separator then some ([], rest)
    else (splitFirst separator rest).map fun parts => (c :: parts.1, parts.2)

/-! ## Letters -/

/-- The text with ASCII capitals lowered; all other characters stay. -/
def lowerAscii (text : String) : String :=
  String.ofList (text.toList.map Char.toLower)

end Haptics.Text
