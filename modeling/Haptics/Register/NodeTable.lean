import Haptics.FileTree
import Haptics.Register.Fault

/-!
# Node tables

A driver's registers appear as files below a common base.  A node table maps channels to such
nodes, decides once for each whether it is there, and keeps the last few accesses for diagnosis.
-/

namespace Haptics

/-- The node of a channel. -/
structure Node where
  name : String
  path : String
  /-- Whether anything stood at the path when the channel was mapped. -/
  present : Bool
deriving DecidableEq, Repr

inductive Operation where
  | set
  | get
deriving DecidableEq, Repr

def Operation.name : Operation → String
  | .set => "set"
  | .get => "get"

structure Traffic where
  operation : Operation
  node : String
  value : String
deriving DecidableEq, Repr

def Traffic.text (t : Traffic) : String :=
  s!"{t.operation.name} '{t.node}' = '{t.value}'"

def historySize : Nat := 32

/-- Appends an access to a history and drops what is older than its last entries. -/
def remember (history : List Traffic) (access : Traffic) : List Traffic :=
  let all := history ++ [access]
  all.drop (all.length - historySize)

/-- Channels mapped to nodes in a file tree. -/
structure NodeTable where
  files : FileTree
  /-- The path that node names are relative to. -/
  base : String
  /-- Nodes by channel, of two for one channel the earlier. -/
  nodes : List (Channel × Node) := []
  /-- Files that reports quote in full. -/
  quoted : List String := []
  /-- The last accesses, the oldest first. -/
  history : List Traffic := []

namespace NodeTable

/-- Maps a channel to the node of a name, in place of any node it had. -/
def attach (table : NodeTable) (channel : Channel) (name : String) : NodeTable :=
  let path := FileTree.join table.base name
  let node : Node := ⟨name, path, table.files.contains path⟩
  { table with nodes := (channel, node) :: table.nodes }

def attachAll (table : NodeTable) (names : List (Channel × String)) : NodeTable :=
  names.foldl (fun table item => table.attach item.1 item.2) table

/-- The node of a channel, if the channel is mapped to one. -/
def node? (table : NodeTable) (channel : Channel) : Option Node :=
  table.nodes.lookup channel

/-- The node of a channel, if it was there when the channel was mapped. -/
def present? (table : NodeTable) (channel : Channel) : Option Node :=
  (table.node? channel).filter fun node => node.present

def has (table : NodeTable) (channel : Channel) : Bool :=
  (table.present? channel).isSome

def note (table : NodeTable) (operation : Operation) (node : Node) (value : String) :
    NodeTable :=
  { table with history := remember table.history ⟨operation, node.name, value⟩ }

/-- Writes a value and a newline in place of what a channel's node holds.  The access is kept
whether or not it succeeds. -/
def set (table : NodeTable) (channel : Channel) (value : RegisterValue) :
    Except Fault Unit × NodeTable :=
  match table.present? channel with
  | none => (.error (.notExposed channel), table)
  | some node =>
    let noted := table.note .set node value.toText
    match table.files.overwrite node.path (value.toText ++ "\n") with
    | .ok files => (.ok (), { noted with files := files })
    | .error fault => (.error (.node fault), noted)

/-- Reads a channel's node.  The access is kept whether or not it succeeds. -/
def get (table : NodeTable) (channel : Channel) : Except Fault RegisterValue × NodeTable :=
  match table.present? channel with
  | none => (.error (.notExposed channel), table)
  | some node =>
    match table.files.readText node.path with
    | .ok raw =>
      let value := RegisterValue.ofText raw
      (.ok value, table.note .get node value.toText)
    | .error fault => (.error (.node fault), table.note .get node "")

/-- The kept accesses, the oldest first. -/
def records (table : NodeTable) : List String :=
  table.history.map Traffic.text

/-! ## Reports -/

/-- A quoted file: its path and its lines, or its path alone if it cannot be read. -/
def quotedLines (table : NodeTable) (path : String) : List String :=
  let content :=
    match table.files.readText (FileTree.join table.base path) with
    | .ok text => Text.lines text
    | .error _ => []
  s!"  {path}:" :: content.map fun line => s!"    {line}"

/-- A mapped channel: its name and its node's, and whether the node is missing. -/
def nodeLine (channel : Channel) (node : Node) : String :=
  let missing := if node.present then "" else " (missing)"
  s!"    {channel.name}: {node.name}{missing}"

/-- The quoted files, the mapped channels and the kept accesses. -/
def reportLines (table : NodeTable) : List String :=
  let nodes := Channel.all.filterMap fun channel => (table.node? channel).map (nodeLine channel)
  "Kernel:" :: table.quoted.flatMap table.quotedLines
    ++ "  Nodes:" :: nodes
    ++ "  Records:" :: table.records.map fun record => s!"    {record}"

def report (table : NodeTable) : String :=
  String.join (table.reportLines.map fun line => line ++ "\n")

end NodeTable
end Haptics
