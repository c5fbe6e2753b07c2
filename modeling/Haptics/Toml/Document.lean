import Haptics.Toml.Scalar

/-!
# TOML documents

A document is lines of key and value below headers that open tables.  A text that breaks any rule
of the format is no document at all.
-/

namespace Haptics.Toml

/-! ## Between values -/

/-- Skips gaps, newlines and comments. -/
def skipSpace (inComment : Bool) : List Char → Option (List Char)
  | [] => some []
  | '\n' :: rest => skipSpace false rest
  | '\r' :: '\n' :: rest => skipSpace false rest
  | c :: rest =>
    if inComment then if isPrintable c then skipSpace true rest else none
    else if isGap c then skipSpace false rest
    else if c = '#' then skipSpace true rest
    else some (c :: rest)

/-- Skips the rest of a line, which may hold nothing but gaps and a comment. -/
def endLine (cs : List Char) : Option (List Char) :=
  let cs := cs.dropWhile isGap
  let cs :=
    match cs with
    | '#' :: rest => rest.dropWhile isPrintable
    | cs => cs
  match cs with
  | [] => some []
  | cs => newline? cs

/-! ## Values -/

mutual

def readValue : Nat → List Char → Reading Value
  | 0, _ => none
  | fuel + 1, cs =>
    match cs with
    | '[' :: rest => (readItems fuel rest).map fun r => (.array r.1, r.2)
    | '\x7b' :: rest => (readInline fuel [] rest).map fun r => (.table .inline r.1, r.2)
    | c :: _ =>
      if c = '"' ∨ c = '\'' then (readString cs).map fun r => (.string r.1, r.2)
      else readScalar cs
    | [] => none

/-- Reads the items of an array from behind its opening bracket or a comma. -/
def readItems : Nat → List Char → Reading (List Value)
  | 0, _ => none
  | fuel + 1, cs =>
    match skipSpace false cs with
    | none => none
    | some (']' :: rest) => some ([], rest)
    | some cs =>
      match readValue fuel cs with
      | none => none
      | some (value, rest) =>
        match skipSpace false rest with
        | some (',' :: rest) => (readItems fuel rest).map fun r => (value :: r.1, r.2)
        | some (']' :: rest) => some ([value], rest)
        | _ => none

/-- Reads the entries of a table written as one value, from behind its opening brace or a
comma. -/
def readInline : Nat → Entries → List Char → Reading Entries
  | 0, _, _ => none
  | fuel + 1, entries, cs =>
    match skipSpace false cs with
    | none => none
    | some ('\x7d' :: rest) => some (entries, rest)
    | some cs =>
      match readPair fuel cs with
      | none => none
      | some ((key, value), rest) =>
        match entries.insert key value, skipSpace false rest with
        | some entries, some (',' :: rest) => readInline fuel entries rest
        | some entries, some ('\x7d' :: rest) => some (entries, rest)
        | _, _ => none

/-- Reads a key, an equals sign and a value. -/
def readPair : Nat → List Char → Reading (List String × Value)
  | 0, _ => none
  | fuel + 1, cs =>
    match readKey (cs.length + 1) cs with
    | some (key, '=' :: rest) =>
      (readValue fuel (rest.dropWhile isGap)).map fun r => ((key, r.1), r.2)
    | _ => none

end

/-! ## Lines -/

/-- Reads the header of a table, and opens it.  The path of the table goes with the entries. -/
def readHeader (entries : Entries) (cs : List Char) : Reading (List String × Entries) :=
  let (further, cs) :=
    match cs with
    | '[' :: rest => (true, rest)
    | cs => (false, cs)
  match readKey (cs.length + 1) cs with
  | none => none
  | some (path, rest) =>
    let close : Option (List Char) :=
      match further, rest with
      | true, ']' :: ']' :: rest => some rest
      | false, ']' :: rest => some rest
      | _, _ => none
    match close, path.getLast? with
    | some rest, some key =>
      let opened := if further then Entries.openFurther key else Entries.openTable key
      (entries.within path.dropLast opened).map fun entries => ((path, entries), rest)
    | _, _ => none

/-- Adds a value that is not nested too deep at a key of the table at `path`. -/
def addAt (entries : Entries) (path key : List String) (value : Value) : Option Entries :=
  if value.depth ≤ Value.depthLimit then
    entries.within path fun inner => inner.insert key value
  else none

/-- Reads lines; keys go into the table at `path`. -/
def readLines : Nat → List String → Entries → List Char → Option Entries
  | 0, _, _, _ => none
  | fuel + 1, path, entries, cs =>
    match skipSpace false cs with
    | none => none
    | some [] => some entries
    | some ('[' :: rest) =>
      match readHeader entries rest with
      | none => none
      | some ((path, entries), rest) => (endLine rest).bind (readLines fuel path entries)
    | some cs =>
      match readPair (cs.length + 1) cs with
      | none => none
      | some ((key, value), rest) =>
        match addAt entries path key value with
        | none => none
        | some entries => (endLine rest).bind (readLines fuel path entries)

/-- The characters of a text without a byte order mark at its start. -/
def dropMark (text : String) : List Char :=
  match text.toList with
  | '\ufeff' :: rest => rest
  | cs => cs

def readDocument (text : String) : Option Entries :=
  let cs := dropMark text
  readLines (cs.length + 1) [] [] cs

end Haptics.Toml
