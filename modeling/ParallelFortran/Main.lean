import ParallelFortran.Command.Catalog

/-! The command line. Files and directories that its words name are read before a command runs, and
what it leaves behind is written afterwards. -/

namespace ParallelFortran.CommandLine

partial def filesBelow (name : String) : IO (List (String × Bytes)) := do
  let path := (← IO.currentDir) / name
  if ← path.isDir then
    let entries ← path.readDir
    let found ← entries.toList.mapM fun entry =>
      filesBelow (if name == "." then entry.fileName else Build.pathIn name entry.fileName)
    return found.flatten
  else if ← path.pathExists then
    return [(name, (← IO.FS.readBinFile path).toList)]
  else return []

def valueIn (word : String) : String :=
  if word.contains '=' then Text.after "=" word else word

end ParallelFortran.CommandLine

open ParallelFortran CommandLine

def main (words : List String) : IO UInt32 := do
  let named ← (words.drop 1).mapM fun word => filesBelow (valueIn word)
  let here ← if words.head? == some "objects" then filesBelow "." else pure []
  let others ← if words.head? == some "accuracy" || words.head? == some "reorder" then
      filesBelow "in.dat"
    else pure []
  let standardInput ← if words.head? == some "join" then (← IO.getStdin).readToEnd else pure ""
  let inputs : Command.Inputs :=
    { disk := Table.ofList (here.filter (! ·.1.contains '/') ++ others ++ named.flatten), standardInput }
  let result := Command.run words inputs
  for (name, content) in result.files.entries do
    let path := (← IO.currentDir) / name
    if let some parent := path.parent then IO.FS.createDirAll parent
    IO.FS.writeBinFile path ⟨content.toArray⟩
  IO.print result.output.printed
  IO.eprint result.output.notes
  return UInt32.ofNat result.status
