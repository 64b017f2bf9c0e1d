import WebTestbed.Files.Path
import WebTestbed.Text.Utf8

/-! A tree of files and directories, and what can be done with it. -/
namespace WebTestbed

inductive FileError where
  | notFound
  | permissionDenied
  | alreadyExists
  | notADirectory
  | isADirectory
  | invalidArgument
  | directoryNotEmpty
  | busy
  | notAProgram
  | invalidText
  deriving DecidableEq, Repr

namespace FileError

def reason : FileError → String
  | notFound => "No such file or directory"
  | permissionDenied => "Permission denied"
  | alreadyExists => "File exists"
  | notADirectory => "Not a directory"
  | isADirectory => "Is a directory"
  | invalidArgument => "Invalid argument"
  | directoryNotEmpty => "Directory not empty"
  | busy => "Device or resource busy"
  | notAProgram => "Exec format error"
  | invalidText => "stream did not contain valid UTF-8"

def number? : FileError → Option Nat
  | notFound => some 2
  | permissionDenied => some 13
  | alreadyExists => some 17
  | notADirectory => some 20
  | isADirectory => some 21
  | invalidArgument => some 22
  | directoryNotEmpty => some 39
  | busy => some 16
  | notAProgram => some 8
  | invalidText => none

def message (e : FileError) : String :=
  e.reason ++ match e.number? with
    | some n => " (os error " ++ toString n ++ ")"
    | none => ""

end FileError

/-- The names that lead from the root to a place in the tree. -/
abbrev Location := List String

inductive FileNode where
  | file (content : Bytes) (executable : Bool)
  | directory
  deriving DecidableEq, Repr

namespace FileNode

def isDirectory : FileNode → Bool
  | directory => true
  | file .. => false

def executable : FileNode → Bool
  | directory => true
  | file _ x => x

end FileNode

/-- The files and directories below the root, each with its location, and the working directory. -/
structure FileTree where
  workDir : Location
  entries : List (Location × FileNode)
  deriving DecidableEq, Repr

namespace FileTree

def ofWorkDir (workDir : Location) : FileTree :=
  ⟨workDir, (List.range workDir.length).map fun n => (workDir.take (n + 1), .directory)⟩

/-- What is at a location. The root is a directory. -/
def node? (t : FileTree) (l : Location) : Option FileNode :=
  if l.isEmpty then some .directory else t.entries.lookup l

def assign (l : Location) (n : FileNode) : List (Location × FileNode) → List (Location × FileNode)
  | [] => [(l, n)]
  | e :: r => if e.1 = l then (l, n) :: r else e :: assign l n r

def set (t : FileTree) (l : Location) (n : FileNode) : FileTree :=
  { t with entries := assign l n t.entries }

def erase (t : FileTree) (l : Location) : FileTree :=
  { t with entries := t.entries.filter (·.1 ≠ l) }

def eraseBelow (t : FileTree) (l : Location) : FileTree :=
  { t with entries := t.entries.filter fun e => !(l.isPrefixOf e.1 && l ≠ e.1) }

/-- Follows names from a directory. All but the last have to be directories. -/
def follow (t : FileTree) (start : Location) : List String → Except FileError Location
  | [] => .ok start
  | name :: r =>
    if name = "." then follow t start r
    else if name = ".." then follow t start.dropLast r
    else match t.node? (start ++ [name]), r with
      | none, [] => .ok (start ++ [name])
      | none, _ => .error .notFound
      | some .directory, _ => follow t (start ++ [name]) r
      | some (.file ..), [] => .ok (start ++ [name])
      | some (.file ..), _ => .error .notADirectory

def locate (t : FileTree) (p : Path) : Except FileError Location :=
  if p.text.isEmpty then .error .notFound
  else follow t (if p.isAbsolute then [] else t.workDir) p.names

def leadsTo (t : FileTree) (p : Path) (l : Location) : Bool :=
  match t.locate p with
  | .ok l' => l' = l
  | .error _ => false

/-- What a path names, if there is anything. A file is not found behind a slash at the end. -/
def find (t : FileTree) (p : Path) : Except FileError (Location × FileNode) := do
  let l ← t.locate p
  match t.node? l with
  | none => .error .notFound
  | some .directory => return (l, .directory)
  | some n => if p.endsInSlash then .error .notADirectory else return (l, n)

def found? (t : FileTree) (p : Path) : Option FileNode :=
  match t.find p with
  | .ok (_, n) => some n
  | .error _ => none

def contains (t : FileTree) (p : Path) : Bool :=
  (t.found? p).isSome

def isFile (t : FileTree) (p : Path) : Bool :=
  (t.found? p).any (!·.isDirectory)

def isDirectory (t : FileTree) (p : Path) : Bool :=
  (t.found? p).any (·.isDirectory)

def read (t : FileTree) (p : Path) : Except FileError Bytes := do
  match ← t.find p with
  | (_, .file content _) => return content
  | (_, .directory) => .error .isADirectory

def readText (t : FileTree) (p : Path) : Except FileError String := do
  match Utf8.decode? (← t.read p) with
  | some s => return String.ofList s
  | none => .error .invalidText

/-- Where a file can be written: its location, its content and whether it is executable. A file that
is not there yet is empty and not executable. -/
def writable (t : FileTree) (p : Path) : Except FileError (Location × Bytes × Bool) := do
  let l ← t.locate p
  match t.node? l with
  | none => if p.endsInSlash then .error .isADirectory else return (l, [], false)
  | some .directory => .error .isADirectory
  | some (.file content executable) =>
    if p.endsInSlash then .error .notADirectory else return (l, content, executable)

def write (t : FileTree) (p : Path) (content : Bytes) : Except FileError FileTree := do
  let (l, _, executable) ← t.writable p
  return t.set l (.file content executable)

def append (t : FileTree) (p : Path) (more : Bytes) : Except FileError FileTree := do
  let (l, content, executable) ← t.writable p
  return t.set l (.file (content ++ more) executable)

def setExecutable (t : FileTree) (p : Path) (executable : Bool) : Except FileError FileTree := do
  match ← t.find p with
  | (l, .file content _) => return t.set l (.file content executable)
  | (_, .directory) => return t

/-- Copies a file and whether it is executable. The target loses its content first; so does a file
that is copied to itself. -/
def copyFile (t : FileTree) (source target : Path) : Except FileError FileTree := do
  match ← t.find source with
  | (_, .directory) => .error .invalidArgument
  | (start, .file content executable) =>
    let (l, _) ← t.writable target
    return t.set l (.file (if l = start then [] else content) executable)

def removeFile (t : FileTree) (p : Path) : Except FileError FileTree := do
  match ← t.find p with
  | (l, .file ..) => return t.erase l
  | (_, .directory) => .error .isADirectory

def makeDirectory (t : FileTree) (p : Path) : Except FileError FileTree := do
  let l ← t.locate p
  match t.node? l with
  | none => return t.set l .directory
  | some _ => .error .alreadyExists

/-- Makes a directory and those it is in, `fuel` of them at most. -/
def makeDirectoriesFrom (t : FileTree) (p : Path) : Nat → Except FileError FileTree
  | 0 => .error .notFound
  | fuel + 1 =>
    if p.text.isEmpty then .ok t
    else match t.makeDirectory p with
      | .ok t => .ok t
      | .error .notFound => do
        let t ← match p.parent? with
          | some q => t.makeDirectoriesFrom q fuel
          | none => .error .notFound
        match t.makeDirectory p with
        | .ok t => return t
        | .error e => if t.isDirectory p then return t else .error e
      | .error e => if t.isDirectory p then .ok t else .error e

def makeDirectories (t : FileTree) (p : Path) : Except FileError FileTree :=
  t.makeDirectoriesFrom p (p.names.length + 2)

def children (t : FileTree) (l : Location) : List (String × FileNode) :=
  t.entries.filterMap fun e =>
    if e.1.dropLast = l then e.1.getLast?.map fun name => (name, e.2) else none

def list (t : FileTree) (p : Path) : Except FileError (List (String × FileNode)) := do
  match ← t.find p with
  | (l, .directory) => return (t.children l).mergeSort fun a b => a.1 ≤ b.1
  | (_, .file ..) => .error .notADirectory

/-- All that is below a location, each with the names that lead to it from there. -/
def below (t : FileTree) (l : Location) : List (Location × FileNode) :=
  t.entries.filterMap fun e =>
    if l.isPrefixOf e.1 && l ≠ e.1 then some (e.1.drop l.length, e.2) else none

def emptyDirectory (t : FileTree) (p : Path) : Except FileError FileTree := do
  match ← t.find p with
  | (l, .directory) => return t.eraseBelow l
  | (_, .file ..) => .error .notADirectory

def removeDirectory (t : FileTree) (p : Path) : Except FileError FileTree := do
  match ← t.find p with
  | (l, .directory) =>
    if p.names.getLast? = some "." then .error .invalidArgument
    else if p.names.getLast? = some ".." || !(t.below l).isEmpty then .error .directoryNotEmpty
    else if l.isEmpty then .error .busy
    else return t.erase l
  | (_, .file ..) => .error .notADirectory

/-- Takes away a directory that was emptied. It is left where its path led through what was in it. -/
def removeEmptied (t : FileTree) (p : Path) : Except FileError FileTree :=
  match t.removeDirectory p with
  | .error .notFound => .ok t
  | r => r

def removeTree (t : FileTree) (p : Path) : Except FileError FileTree := do
  (← t.emptyDirectory p).removeEmptied p

end WebTestbed.FileTree
