import Haptics.Cli

/-!
# The program

The command line on a real file system: the files that a run may touch are read into a tree, and
those that it changed are written back.
-/

namespace Haptics.Main

def step (location : Location) (name : String) : Location :=
  if name = "." then location
  else if name = ".." then location.dropLast
  else location ++ [name]

/-- The locations that a path passes through, and those above them. -/
def passed (workingDirectory : Location) (path : String) : List Location :=
  let names := FileTree.names path
  let start := if FileTree.isAbsolute path then [] else workingDirectory
  let stops := (List.range (names.length + 1)).map fun count => (names.take count).foldl step start
  (stops.flatMap Location.path).eraseDups

def pathOf (location : Location) : String :=
  "/" ++ "/".intercalate location

/-- Adds to a tree what stands at a location, unless a file stands above it. -/
def addLocation (tree : FileTree) (location : Location) : IO FileTree := do
  try
    let bytes ← IO.FS.readBinFile (pathOf location)
    return tree.put location (Contents.ofBytes bytes)
  catch
    | .noFileOrDirectory .. => return tree
    | _ =>
      return if tree.find? location.dropLast = some .directory then tree.makeDirectory location
        else tree

def addPath (tree : FileTree) (path : String) : IO FileTree :=
  (passed tree.workingDirectory path).foldlM addLocation tree

/-- The paths that a run may read or write. -/
def pathsOf (environment : List (String × String)) : List String :=
  let sources := Sources.ofEnvironment environment
  let nodes :=
    match environment.lookup Cli.baseVariable with
    | none => []
    | some base =>
      (Drv2624.nodeNames ++ Cs40l25.nodeNames).map (fun item => FileTree.join base item.2)
        ++ [Drv2624.defaultTemperature]
  sources.factory.toList ++ sources.properties.toList ++ nodes

def readEnvironment : IO (List (String × String)) := do
  let names := [Cli.baseVariable, Sources.factoryVariable, Sources.propertiesVariable]
  let pairs ← names.mapM fun name => return (← IO.getEnv name).map fun value => (name, value)
  return pairs.filterMap id

/-- Runs the program on the files of the machine. -/
def execute (arguments : List String) : IO UInt32 := do
  let environment ← readEnvironment
  let current ← IO.currentDir
  let start := FileTree.empty ((FileTree.names (toString current)).foldl step [])
  let before ← (pathsOf environment).foldlM addPath start
  let (exit, after) := Cli.run arguments environment before
  for (location, contents) in FileTree.changes before after do
    if let some (.text value) := contents then
      IO.FS.writeFile (pathOf location) value
  IO.print exit.output
  IO.eprint exit.errors
  return exit.code

end Haptics.Main

def main (arguments : List String) : IO UInt32 :=
  Haptics.Main.execute arguments
