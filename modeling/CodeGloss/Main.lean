import CodeGloss.Command.CommandLine
import CodeGloss.Script.Read

/-!
# The program

The files and variables that a command line names are looked up first, the
command runs on what was found, and then its lines and its file are written.
-/

open CodeGloss CodeGloss.Command CodeGloss.Files CodeGloss.Translator CodeGloss.Settings

namespace CodeGloss.Main

/-- What stands at a path on the disk. -/
def lookAt (path : String) : IO (Option Node) := do
  try
    let place ← IO.FS.realPath path
    if ← place.isDir then return some .folder
    let content ← IO.FS.readBinFile place
    return some (.file (.bytes content.toList))
  catch _ => return none

/-- Put what stands at a path, and at every path on the way to it, into a tree. -/
def load (tree : Tree) (path : Path) : IO Tree :=
  (List.range path.names.length).foldlM (fun tree count => do
    let part := { path with names := path.names.take (count + 1) }
    match tree.locate part, ← lookAt (String.ofList part.text) with
    | .ok place, some node => return if Tree.isStart place then tree else tree.put place node
    | _, _ => return tree) tree

/-- The variables that the program reads. -/
def variableNames : List String :=
  [dictionaryVariable, logLevelVariable, "HOME"]

def readEnvironment : IO Environment :=
  variableNames.foldlM (fun environment name => do
    match ← IO.getEnv name with
    | some value => return environment.set name.toList value.toList
    | none => return environment) ⟨[]⟩

/-- The files and variables that a command line is about. -/
def readHost (frontend : Frontend) (arguments : List Argument) : IO Host := do
  let environment ← readEnvironment
  let standard := (termFilePath environment none).toOption.toList.filter (· != bundledPath)
  let named := ((frontend.read arguments).toOption.map Opening.paths).getD []
  let tree ← (standard ++ named).foldlM load bundledTree
  return ⟨tree, environment⟩

/-- Print lines, if there are any. -/
def printLines (stream : IO.FS.Stream) (lines : List (List Char)) : IO Unit :=
  lines.forM fun line => stream.putStr (String.ofList (line ++ ['\n']))

/-- Write the file of a command line. -/
def writeFile (written : Option Written) : IO Unit :=
  match written with
  | some (path, content) => IO.FS.writeBinFile (String.ofList path.text) ⟨content.toArray⟩
  | none => pure ()

/-- Write how a command line ended. -/
def writeEnding (frontend : Frontend) (ending : Ending) : IO Unit := do
  let output ← IO.getStdout
  let log ← IO.getStderr
  match ending with
  | .usage _ => printLines log (frontend.help [])
  | .failed _ => printLines log ["The command broke off.".toList]
  | .shown screen threshold =>
      printLines log (logLines screen threshold)
      printLines output screen.lines

end CodeGloss.Main

def main (arguments : List String) : IO UInt32 := do
  let frontend := Frontend.terminal
  let arguments := arguments.map String.toList
  let host ← CodeGloss.Main.readHost frontend arguments
  let execution := run frontend Script.parser host arguments
  CodeGloss.Main.writeFile execution.written
  CodeGloss.Main.writeEnding frontend execution.ending
  return execution.ending.exitCode.toUInt32
