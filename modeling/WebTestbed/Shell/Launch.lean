import WebTestbed.Shell.Programs

/-! What the words of a command start. -/
namespace WebTestbed.Shell

inductive Launch where
  | program (run : Program) (args : List String)
  | shell (name : String) (args : List String)
  /-- A script that is a file, with the options of its first line and its arguments. -/
  | script (name : String) (content : Bytes) (options args : List String)
  | environment (args : List String)

def shellNames : List String := ["sh", "dash", "bash"]

def programNamed? (name : String) (args : List String) : Option Launch :=
  if shellNames.contains name then some (.shell name args)
  else if name = "env" then some (.environment args)
  else (programs.lookup name).map (.program · args)

def systemProgram? (path : String) (args : List String) : Option Launch :=
  let p : Path := ⟨path⟩
  match p.names.getLast?, p.parent? with
  | some name, some dir =>
    if programDirectories.contains dir.text then programNamed? name args else none
  | _, _ => none

def interpreter? (content : Bytes) : Option (List String) :=
  match content with
  | 35 :: 33 :: r => some (Text.words (Utf8.lossyString (r.takeWhile (· ≠ 10))))
  | _ => none

def interpreted (name : String) (content : Bytes) (args : List String) :
    List String → Except FileError Launch
  | [] => .error .notAProgram
  | "/usr/bin/env" :: i :: r =>
    if shellNames.contains i then .ok (.script name content r args)
    else ((programNamed? i (r ++ name :: args)).map .ok).getD (.error .notFound)
  | i :: r =>
    match systemProgram? i (r ++ name :: args) with
    | some (.shell ..) => .ok (.script name content r args)
    | some l => .ok l
    | none => .error .notFound

/-- What the words start, found in the files or among the programs. -/
def resolve (t : FileTree) (args : List String) : Except FileError Launch :=
  match args with
  | [] => .error .notFound
  | name :: rest =>
    if name = "." || name = ".." then .error .permissionDenied
    else if !name.contains '/' then ((programNamed? name rest).map .ok).getD (.error .notFound)
    else if systemDirectories.contains name || systemFiles.contains name || name = "/dev/null" then
      .error .permissionDenied
    else match systemProgram? name rest with
      | some l => .ok l
      | none => do
        match (← t.find ⟨name⟩).2 with
        | .directory => throw .permissionDenied
        | .file _ false => throw .permissionDenied
        | .file content true =>
          match interpreter? content with
          | none => throw .notAProgram
          | some words => interpreted name content rest words

def programPath? (name : String) : Option String :=
  if (programNamed? name []).isSome then some ("/usr/bin/" ++ name) else none

end WebTestbed.Shell
