import Haptics.Numeral.Decimal
import Haptics.Text.Cut
import Haptics.Toml.Value

/-!
# TOML scalars

Strings, keys, numbers, truth values, dates and times.  A reader takes the characters from where
it stands and gives back what it read and the characters after it.
-/

namespace Haptics.Toml

abbrev Reading (α : Type) := Option (α × List Char)

/-! ## Characters -/

/-- Whether a character may stand in comments and in strings of one line: a tab, or no control
character. -/
def isPrintable (c : Char) : Bool :=
  c == '\t' || (0x20 ≤ c.toNat && c.toNat != 0x7f)

def hexDigit? (c : Char) : Option Nat :=
  if c.isDigit then some (c.toNat - '0'.toNat)
  else if 'a' ≤ c ∧ c ≤ 'f' then some (c.toNat - 'a'.toNat + 10)
  else if 'A' ≤ c ∧ c ≤ 'F' then some (c.toNat - 'A'.toNat + 10)
  else none

/-- Reads a code point of so many hexadecimal digits. -/
def readCodePoint (count : Nat) (cs : List Char) : Reading Char :=
  let digits := cs.take count
  match digits.mapM hexDigit? with
  | none => none
  | some values =>
    let code := values.foldl (fun code digit => 16 * code + digit) 0
    if digits.length = count ∧ code.isValidChar then some (Char.ofNat code, cs.drop count)
    else none

def readEscape : List Char → Reading Char
  | 'b' :: rest => some ('\x08', rest)
  | 't' :: rest => some ('\t', rest)
  | 'n' :: rest => some ('\n', rest)
  | 'f' :: rest => some ('\x0c', rest)
  | 'r' :: rest => some ('\r', rest)
  | 'e' :: rest => some ('\x1b', rest)
  | '"' :: rest => some ('"', rest)
  | '\\' :: rest => some ('\\', rest)
  | 'x' :: rest => readCodePoint 2 rest
  | 'u' :: rest => readCodePoint 4 rest
  | 'U' :: rest => readCodePoint 8 rest
  | _ => none

/-! ## Strings -/

/-- Reads a quoted string of one line from behind its opening mark. -/
def readQuoted : Nat → List Char → Reading (List Char)
  | 0, _ => none
  | fuel + 1, cs =>
    match cs with
    | [] => none
    | '"' :: rest => some ([], rest)
    | '\\' :: rest =>
      match readEscape rest with
      | none => none
      | some (c, rest) => (readQuoted fuel rest).map fun r => (c :: r.1, r.2)
    | c :: rest =>
      if isPrintable c then (readQuoted fuel rest).map fun r => (c :: r.1, r.2) else none

/-- Reads a string of one line that is taken as it stands, from behind its opening mark. -/
def readPlain : List Char → Reading (List Char)
  | [] => none
  | '\'' :: rest => some ([], rest)
  | c :: rest =>
    if isPrintable c then (readPlain rest).map fun r => (c :: r.1, r.2) else none

/-- The newline at the start of the text, if there is one, and what follows it. -/
def newline? : List Char → Option (List Char)
  | '\n' :: rest => some rest
  | '\r' :: '\n' :: rest => some rest
  | _ => none

def dropNewline (cs : List Char) : List Char :=
  (newline? cs).getD cs

/-- Whether a character is a space or a tab. -/
def isGap (c : Char) : Bool :=
  c == ' ' || c == '\t'

/-- What follows a backslash that ends its line, without the gaps and newlines there. -/
def joinLines? (cs : List Char) : Option (List Char) :=
  (newline? (cs.dropWhile isGap)).map fun rest =>
    rest.dropWhile fun c => isGap c || c == '\n' || c == '\r'

/-- Reads a string of several lines from behind its opening marks.  Up to two marks before the
closing three belong to the string. -/
def readLong (mark : Char) (escapes : Bool) : Nat → List Char → Reading (List Char)
  | 0, _ => none
  | fuel + 1, cs =>
    let keep (c : Char) (rest : List Char) : Reading (List Char) :=
      (readLong mark escapes fuel rest).map fun r => (c :: r.1, r.2)
    let marks := cs.takeWhile (· == mark)
    if 3 ≤ marks.length then
      let extra := min (marks.length - 3) 2
      some (List.replicate extra mark, cs.drop (extra + 3))
    else
      match cs with
      | [] => none
      | c :: rest =>
        if escapes ∧ c = '\\' then
          match joinLines? rest with
          | some rest => readLong mark escapes fuel rest
          | none =>
            match readEscape rest with
            | some (c, rest) => keep c rest
            | none => none
        else
          match newline? cs with
          | some rest => keep '\n' rest
          | none => if isPrintable c then keep c rest else none

/-- Reads a string of any of the four forms. -/
def readString (cs : List Char) : Reading String :=
  let result :=
    match cs with
    | '"' :: '"' :: '"' :: rest => readLong '"' true (rest.length + 1) (dropNewline rest)
    | '\'' :: '\'' :: '\'' :: rest => readLong '\'' false (rest.length + 1) (dropNewline rest)
    | '"' :: rest => readQuoted (rest.length + 1) rest
    | '\'' :: rest => readPlain rest
    | _ => none
  result.map fun r => (String.ofList r.1, r.2)

/-! ## Keys -/

/-- Whether a character may stand in a key without quotes. -/
def isBare (c : Char) : Bool :=
  c.isAlphanum || c == '_' || c == '-'

def readKeyPart (cs : List Char) : Reading String :=
  match cs with
  | '"' :: rest => (readQuoted (rest.length + 1) rest).map fun r => (String.ofList r.1, r.2)
  | '\'' :: rest => (readPlain rest).map fun r => (String.ofList r.1, r.2)
  | _ =>
    let part := cs.takeWhile isBare
    if part = [] then none else some (String.ofList part, cs.dropWhile isBare)

/-- Reads a key: parts with dots between them, and gaps around both. -/
def readKey : Nat → List Char → Reading (List String)
  | 0, _ => none
  | fuel + 1, cs =>
    match readKeyPart (cs.dropWhile isGap) with
    | none => none
    | some (part, rest) =>
      match rest.dropWhile isGap with
      | '.' :: rest => (readKey fuel rest).map fun r => (part :: r.1, r.2)
      | rest => some ([part], rest)

/-! ## Numbers -/

/-- Digits with single underscores between them, without the underscores. -/
def joinedDigits? (isDigit : Char → Bool) (cs : List Char) : Option (List Char) :=
  let groups := Text.cutAt (· == '_') cs
  if groups.all fun group => group ≠ [] ∧ group.all isDigit then some groups.flatten else none

/-- The number that digits in a base write. -/
def valueInBase (base : Nat) (digits : List Char) : Nat :=
  digits.foldl (fun value c => base * value + (hexDigit? c).getD 0) 0

/-- The decimal digits of a whole number, which has no leading zero. -/
def wholeDigits? (cs : List Char) : Option (List Char) :=
  match joinedDigits? Char.isDigit cs with
  | some ('0' :: _ :: _) => none
  | digits => digits

/-- An integer in base sixteen, eight or two, which has no sign. -/
def basedInteger? : List Char → Option Nat
  | '0' :: 'x' :: cs =>
    (joinedDigits? (fun c => (hexDigit? c).isSome) cs).map (valueInBase 16)
  | '0' :: 'o' :: cs =>
    (joinedDigits? (fun c => '0' ≤ c && c ≤ '7') cs).map (valueInBase 8)
  | '0' :: 'b' :: cs =>
    (joinedDigits? (fun c => c == '0' || c == '1') cs).map (valueInBase 2)
  | _ => none

/-- The least integer of 128 bits with a sign. -/
def leastInteger : Int := -170141183460469231731687303715884105728

/-- The greatest integer of 128 bits without a sign. -/
def greatestInteger : Int := 340282366920938463463374607431768211455

/-- An integer.  It must fit 128 bits, with a sign or without one. -/
def integer? (cs : List Char) : Option Int :=
  let value : Option Int :=
    match basedInteger? cs with
    | some value => some value
    | none =>
      let (negative, digits) := Numeral.splitSign cs
      (wholeDigits? digits).map fun digits =>
        let value : Int := valueInBase 10 digits
        if negative then -value else value
  value.filter fun value => leastInteger ≤ value && value ≤ greatestInteger

def exponent? : Option (List Char) → Option Int
  | none => some 0
  | some cs =>
    let (negative, digits) := Numeral.splitSign cs
    (joinedDigits? Char.isDigit digits).map fun digits =>
      let value : Int := valueInBase 10 digits
      if negative then -value else value

/-- The parts of a text before and after a mark, or the text alone. -/
def splitOptional (isMark : Char → Bool) (cs : List Char) : List Char × Option (List Char) :=
  match cs.dropWhile fun c => !isMark c with
  | [] => (cs, none)
  | _ :: after => (cs.takeWhile (fun c => !isMark c), some after)

/-- The magnitude of a float written in digits, with a point, an exponent or both. -/
def positional? (cs : List Char) : Option Numeral.Magnitude :=
  let (mantissa, exponent) := splitOptional (fun c => c == 'e' || c == 'E') cs
  let (whole, fraction) := splitOptional (· == '.') mantissa
  if exponent = none ∧ fraction = none then none
  else
    match wholeDigits? whole, fraction.mapM (joinedDigits? Char.isDigit), exponent? exponent with
    | some whole, some fraction, some exponent =>
      let fraction := fraction.getD []
      some (.decimal (valueInBase 10 (whole ++ fraction)) (exponent - fraction.length))
    | _, _, _ => none

/-- A float.  Digits must write a finite one. -/
def float? (cs : List Char) : Option Float :=
  let (negative, rest) := Numeral.splitSign cs
  let magnitude :=
    if rest = "inf".toList then some (1.0 / 0.0)
    else if rest = "nan".toList then some (0.0 / 0.0)
    else ((positional? rest).map Numeral.Magnitude.toFloat).filter Float.isFinite
  magnitude.map fun value => if negative then -value else value

/-! ## Dates and times -/

/-- The number that exactly so many digits at the start of the text write. -/
def fixedDigits (count : Nat) (cs : List Char) : Reading Nat :=
  let digits := cs.take count
  if digits.length = count ∧ digits.all Char.isDigit then
    some (valueInBase 10 digits, cs.drop count)
  else none

/-- The text after a character that it must start with. -/
def expect (c : Char) : List Char → Option (List Char)
  | d :: rest => if d = c then some rest else none
  | [] => none

def daysOfMonth (year month : Nat) : Nat :=
  if month = 2 then
    if year % 4 = 0 ∧ (year % 100 ≠ 0 ∨ year % 400 = 0) then 29 else 28
  else if month ∈ [4, 6, 9, 11] then 30
  else 31

def skipDate (cs : List Char) : Option (List Char) := do
  let (year, cs) ← fixedDigits 4 cs
  let cs ← expect '-' cs
  let (month, cs) ← fixedDigits 2 cs
  let cs ← expect '-' cs
  let (day, cs) ← fixedDigits 2 cs
  if 1 ≤ month ∧ month ≤ 12 ∧ 1 ≤ day ∧ day ≤ daysOfMonth year month then some cs else none

def skipMinutes (cs : List Char) : Option (List Char) := do
  let (hour, cs) ← fixedDigits 2 cs
  let cs ← expect ':' cs
  let (minute, cs) ← fixedDigits 2 cs
  if hour ≤ 23 ∧ minute ≤ 59 then some cs else none

/-- The text after a fraction of a second, which may be missing. -/
def skipFraction : List Char → Option (List Char)
  | '.' :: rest =>
    if rest.takeWhile Char.isDigit = [] then none else some (rest.dropWhile Char.isDigit)
  | cs => some cs

/-- The text after a time; seconds may be missing, and a leap second counts. -/
def skipTime (cs : List Char) : Option (List Char) := do
  let cs ← skipMinutes cs
  match cs with
  | ':' :: rest =>
    let (second, rest) ← fixedDigits 2 rest
    if second ≤ 60 then skipFraction rest else none
  | cs => some cs

/-- The text after an offset from universal time, which may be missing. -/
def skipOffset : List Char → Option (List Char)
  | 'Z' :: rest => some rest
  | 'z' :: rest => some rest
  | '+' :: rest => skipMinutes rest
  | '-' :: rest => skipMinutes rest
  | cs => some cs

/-- Whether the text is a date, a time, or both with or without an offset. -/
def isDateTime (cs : List Char) : Bool :=
  match skipDate cs with
  | some [] => true
  | some (separator :: rest) =>
    (separator == 'T' || separator == 't' || separator == ' ')
      && (skipTime rest).bind skipOffset == some []
  | none => skipTime cs == some []

/-! ## All scalars without quotes -/

/-- Whether a character may stand in a scalar without quotes. -/
def isScalarChar (c : Char) : Bool :=
  c.isAlphanum || c == '_' || c == '-' || c == '+' || c == '.' || c == ':'

def scalar? (cs : List Char) : Option Value :=
  if cs = "true".toList then some (.boolean true)
  else if cs = "false".toList then some (.boolean false)
  else if isDateTime cs then some .dateTime
  else
    match integer? cs with
    | some value => some (.integer value)
    | none => (float? cs).map Value.float

/-- Reads a scalar without quotes.  One space may stand between a date and a time. -/
def readScalar (cs : List Char) : Reading Value :=
  let token := cs.takeWhile isScalarChar
  let rest := cs.dropWhile isScalarChar
  match skipDate token, rest with
  | some [], ' ' :: c :: more =>
    if c.isDigit then
      let time := (c :: more).takeWhile isScalarChar
      (scalar? (token ++ ' ' :: time)).map fun value =>
        (value, (c :: more).dropWhile isScalarChar)
    else (scalar? token).map fun value => (value, rest)
  | _, _ => (scalar? token).map fun value => (value, rest)

end Haptics.Toml
