import Haptics.Numeral.Decimal
import Haptics.Text.Cut

/-!
# Factory data

At the factory each unit is given a file of `key: value` lines.  Keys and values are trimmed of
spaces and tabs, empty lines and lines that start with `#` are skipped, and of two lines for one
key the later counts.  A value is a text, a scalar, or scalars between blanks.
-/

namespace Haptics

/-- A factory file: where it was read from, its lines, and the values by key. -/
structure FactoryData where
  path : Option String := none
  lines : List String := []
  /-- Values by key, of two for one key the earlier. -/
  entries : List (String × String) := []
deriving DecidableEq, Repr

namespace FactoryData

/-- Whether a character is trimmed from keys and values. -/
def isPadding (c : Char) : Bool :=
  c == ' ' || c == '\t'

def strip (cs : List Char) : String :=
  String.ofList (Text.trimEnds isPadding cs)

/-- The key and value of a line, if it has them. -/
def entry? (line : String) : Option (String × String) :=
  match line.toList with
  | [] => none
  | '#' :: _ => none
  | cs => (Text.splitFirst ':' cs).map fun parts => (strip parts.1, strip parts.2)

def ofText (text : String) : FactoryData :=
  let lines := Text.lines text
  { lines := lines, entries := (lines.filterMap entry?).reverse }

def text? (data : FactoryData) (key : String) : Option String :=
  data.entries.lookup key

/-! ## Scalars -/

class Scannable (α : Type) where
  scan : String → Option α

instance : Scannable UInt32 where
  scan text := (Numeral.readWord text).toOption

instance : Scannable Int64 where
  scan text := (Numeral.readInt64 text).toOption

instance : Scannable Float where
  scan text := (Numeral.readFloat text).toOption

instance : Scannable Float32 where
  scan text := (Numeral.readFloat32 text).toOption

instance : Scannable Bool where
  scan
    | "true" => some true
    | "false" => some false
    | _ => none

/-- The scalar that is the whole value of a key. -/
def scalar? (α : Type) [Scannable α] (data : FactoryData) (key : String) : Option α :=
  (data.text? key).bind Scannable.scan

/-- The scalars of a key whose value is exactly `count` of them. -/
def scalars? (α : Type) [Scannable α] (count : Nat) (data : FactoryData) (key : String) :
    Option (List α) :=
  ((data.text? key).bind fun value => (Text.words value).mapM Scannable.scan).filter
    fun values => values.length == count

end FactoryData
end Haptics
