/-!
# TOML values

A document is a table of values.  How a table came to be decides what may still be added to it,
so each one carries its origin; the functions here add entries and open tables under those rules
and refuse all else.
-/

namespace Haptics.Toml

inductive Origin where
  /-- It has a header of its own. -/
  | header
  /-- It lies on the way to a table that has a header. -/
  | implied
  /-- It lies on the way of a dotted key. -/
  | dotted
  /-- It is written as one value and complete. -/
  | inline
deriving DecidableEq, Repr

inductive Value where
  | string (text : String)
  | integer (value : Int)
  | float (value : Float)
  | boolean (value : Bool)
  | dateTime
  | array (items : List Value)
  | table (origin : Origin) (entries : List (String × Value))
  /-- Tables opened by headers in double brackets, the latest first. -/
  | tables (items : List Value)

mutual

/-- How deep arrays and tables that are written as one value lie within one another. -/
def Value.depth : Value → Nat
  | .array items => depthOfItems items + 1
  | .table .inline entries => depthOfEntries entries + 1
  | .table _ entries => depthOfEntries entries
  | .tables items => depthOfItems items
  | _ => 0

def depthOfItems : List Value → Nat
  | [] => 0
  | item :: rest => max item.depth (depthOfItems rest)

def depthOfEntries : List (String × Value) → Nat
  | [] => 0
  | (_, value) :: rest => max value.depth (depthOfEntries rest)

end

def Value.depthLimit : Nat := 80

/-- The entries of a table, each key once. -/
abbrev Entries := List (String × Value)

namespace Entries

def assign (entries : Entries) (key : String) (value : Value) : Entries :=
  (key, value) :: entries.filter fun entry => entry.1 != key

/-- Adds a value at a dotted key.  Tables on the way are made; they may be extended only if they
were made by dotted keys or, above the last of them, by headers further down.  Of tables in double
brackets the latest may be passed through, but not extended itself. -/
def insert (entries : Entries) : List String → Value → Option Entries
  | [], _ => none
  | [key], value =>
    match entries.lookup key with
    | some _ => none
    | none => some (assign entries key value)
  | key :: next :: rest, value =>
    let extend (origin : Origin) (inner : Entries) : Option Entries :=
      (insert inner (next :: rest) value).map fun inner =>
        assign entries key (.table origin inner)
    match entries.lookup key with
    | none => extend .dotted []
    | some (.table .dotted inner) => extend .dotted inner
    | some (.table .implied inner) => if rest = [] then none else extend .implied inner
    | some (.tables (.table origin inner :: earlier)) =>
      if rest = [] then none
      else
        (insert inner (next :: rest) value).map fun inner =>
          assign entries key (.tables (.table origin inner :: earlier))
    | some _ => none

/-- Applies a function to the entries at the end of a path; of tables in double brackets the
latest is meant, and tables missing on the way are implied. -/
def within (entries : Entries) (path : List String) (f : Entries → Option Entries) :
    Option Entries :=
  match path with
  | [] => f entries
  | key :: rest =>
    match entries.lookup key with
    | none =>
      (within [] rest f).map fun inner => assign entries key (.table .implied inner)
    | some (.table .inline _) => none
    | some (.table origin inner) =>
      (within inner rest f).map fun inner => assign entries key (.table origin inner)
    | some (.tables (.table origin inner :: earlier)) =>
      (within inner rest f).map fun inner =>
        assign entries key (.tables (.table origin inner :: earlier))
    | some _ => none

/-- Opens a table at a key: a new one, or one that was only implied so far. -/
def openTable (key : String) (entries : Entries) : Option Entries :=
  match entries.lookup key with
  | none => some (assign entries key (.table .header []))
  | some (.table .implied inner) => some (assign entries key (.table .header inner))
  | some _ => none

/-- Opens a further table at a key that holds none but such tables. -/
def openFurther (key : String) (entries : Entries) : Option Entries :=
  match entries.lookup key with
  | none => some (assign entries key (.tables [.table .header []]))
  | some (.tables items) => some (assign entries key (.tables (.table .header [] :: items)))
  | some _ => none

end Entries
end Haptics.Toml
