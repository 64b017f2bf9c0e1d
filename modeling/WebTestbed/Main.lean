import WebTestbed.Program
import WebTestbed.Shell.Process

/-! The command line program. It works on the files below the working directory, in which the
commands that it runs are scripts. -/

namespace WebTestbed

/-- Reads the files below a directory. A file that starts as scripts do is taken for executable. -/
partial def loadTree (dir : String) (l : Location) : IO (List (Location × FileNode)) := do
  let mut found := []
  for e in ← (← IO.FS.realPath dir).readDir do
    let path := dir ++ "/" ++ e.fileName
    let here := l ++ [e.fileName]
    if ← (← IO.FS.realPath path).isDir then
      found := found ++ (here, FileNode.directory) :: (← loadTree path here)
    else
      let content := (← IO.FS.readBinFile path).toList
      found := found ++ [(here, .file content ((Shell.interpreter? content).isSome))]
  return found

def pathOf (l : Location) : String :=
  "/" ++ Text.joinWith "/" l

def saveTree (old new : FileTree) : IO Unit := do
  for (l, n) in old.entries.reverse do
    if (new.node? l).isNone then
      match n with
      | .directory => IO.FS.removeDirAll (pathOf l)
      | .file .. => if (new.node? l.dropLast).isSome then IO.FS.removeFile (pathOf l)
  for (l, n) in new.entries.mergeSort fun a b => a.1.length ≤ b.1.length do
    if old.node? l ≠ some n then
      match n with
      | .directory => IO.FS.createDirAll (pathOf l)
      | .file content executable =>
        IO.FS.writeBinFile (pathOf l) ⟨content.toArray⟩
        if executable then
          IO.setAccessRights (pathOf l)
            ⟨⟨true, true, true⟩, ⟨true, false, true⟩, ⟨true, false, true⟩⟩

def printBytes (stream : IO.FS.Stream) (bytes : Bytes) : IO Unit := do
  stream.write ⟨bytes.toArray⟩
  stream.flush

/-- Scripts that take more steps than this are taken for such as never end. -/
def scriptSteps : Nat := 100000

def runHere (args : List String) : IO UInt32 := do
  let dir := (← IO.currentDir).toString
  let place := (Path.mk dir).names
  let choice : Program.ModuleChoice := ⟨← IO.getEnv "SSL", ← IO.getEnv "MPM"⟩
  let old : FileTree := FileTree.ofWorkDir place
  let old := { old with entries := old.entries ++ (← loadTree dir place) }
  match Program.run (Command.run (Shell.start scriptSteps)) elapsedStamp choice old args with
  | .error _ =>
    printBytes (← IO.getStderr) (Utf8.encode "error: see --help for the arguments\n")
    return 2
  | .ok none =>
    printBytes (← IO.getStderr) (Utf8.encode (Fault.endless.message ++ "\n"))
    return UInt32.ofNat Program.exitAborted
  | .ok (some e) =>
    saveTree old e.files
    printBytes (← IO.getStdout) e.output
    printBytes (← IO.getStderr) e.errors
    return UInt32.ofNat e.exit

end WebTestbed

def main (args : List String) : IO UInt32 :=
  WebTestbed.runHere args
