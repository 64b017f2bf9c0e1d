import WebTestbed.Shell.Program

/-! Programs that look at files and change them. -/
namespace WebTestbed.Shell.Program

def touch : Program := fun args =>
  forFiles "touch" "cannot touch" (operands args) fun t p =>
    if (t.find p).isOk then .ok t else t.write p []

def mkdir : Program := fun args =>
  forFiles "mkdir" "cannot create directory" (operands args) fun t p =>
    if hasOption args 'p' then t.makeDirectories p else t.makeDirectory p

def rmdir : Program := fun args =>
  forFiles "rmdir" "failed to remove" (operands args) fun t p => t.removeDirectory p

def rm : Program := fun args => do
  let forced := hasOption args 'f'
  if forced && (operands args).isEmpty then return 0
  forFiles "rm" "cannot remove" (operands args) fun t p =>
    let deep := hasOption args 'r' || hasOption args 'R'
    match if deep && t.isDirectory p then t.removeTree p else t.removeFile p with
    | .error .notFound => if forced then .ok t else .error .notFound
    | r => r

def copyTarget (t : FileTree) (source target : Path) : Path :=
  if t.isDirectory target then target.join ⟨(source.names.getLast?).getD ""⟩ else target

/-- Makes files at a place out of others; `change` is given each one and its place. -/
def placeFiles (program : String) (change : FileTree → Path → Path → Except FileError FileTree) :
    Program := fun args => do
  match operands args with
  | [] => usage program "missing file operand"
  | [source] => usage program ("missing destination file operand after '" ++ source ++ "'")
  | words =>
    let target : Path := ⟨words.getLast?.getD ""⟩
    let mut status := 0
    for name in words.dropLast do
      let m ← get
      match m.files.find ⟨name⟩ with
      | .error e =>
        complain program ("cannot stat '" ++ name ++ "': " ++ e.reason)
        status := 1
      | .ok (l, n) =>
        let place := copyTarget m.files ⟨name⟩ target
        if !n.isDirectory && m.files.leadsTo place l then
          complain program ("'" ++ name ++ "' and '" ++ place.text ++ "' are the same file")
          status := 1
        else match change m.files ⟨name⟩ place with
        | .ok t => set { m with files := t }
        | .error .invalidArgument =>
          complain program ("-r not specified; omitting directory '" ++ name ++ "'")
          status := 1
        | .error e =>
          complain program ("cannot create regular file '" ++ place.text ++ "': " ++ e.reason)
          status := 1
    return status

def cp : Program :=
  placeFiles "cp" fun t source target => t.copyFile source target

def mv : Program :=
  placeFiles "mv" fun t source target => do (← t.copyFile source target).removeFile source

def modeExecutable? (mode : String) : Option Bool :=
  if mode.toList.all Char.isDigit then
    some (mode.toList.reverse[2]?.any fun c => c.toNat % 2 = 1)
  else if !mode.contains 'x' then none
  else some (!mode.contains '-')

def chmod : Program := fun args =>
  match args with
  | mode :: names =>
    forFiles "chmod" "cannot access" names fun t p => do
      let (_, n) ← t.find p
      t.setExecutable p ((modeExecutable? mode).getD n.executable)
  | [] => usage "chmod" "missing operand"

/-- The names in directories, in their order; those that start with a dot only if asked for. -/
def ls : Program := fun args => do
  let mut status := 0
  let mut lines := []
  for name in if (operands args).isEmpty then ["."] else operands args do
    let t := (← get).files
    match t.find ⟨name⟩ with
    | .error e =>
      complain "ls" ("cannot access '" ++ name ++ "': " ++ e.reason)
      status := 2
    | .ok (_, n) =>
      if n.isDirectory && !hasOption args 'd' then
        let names := ((t.list ⟨name⟩).toOption.getD []).map (·.1)
        let shown := if hasOption args 'a' then "." :: ".." :: names
          else if hasOption args 'A' then names else names.filter (!·.startsWith ".")
        lines := lines ++ shown
      else lines := lines ++ [name]
  Step.printText (String.join (lines.map (· ++ "\n")))
  return status

def pwd : Program := fun _ => do
  Step.printText ("/" ++ Text.joinWith "/" (← get).files.workDir ++ "\n")
  return 0

def basename : Program := fun args => do
  match operands args with
  | [] => usage "basename" "missing operand"
  | path :: more =>
    let name := ((Path.mk path).names.getLast?).getD (if path.isEmpty then "" else "/")
    let ending := more.headD ""
    let shorter := (name.take (name.length - ending.length)).toString
    Step.printText ((if name.endsWith ending && name ≠ ending then shorter else name) ++ "\n")
    return 0

def dirname : Program := fun args => do
  match operands args with
  | [] => usage "dirname" "missing operand"
  | paths =>
    for path in paths do
      let p := ((Path.mk path).parent?.map (·.text)).getD (if path.startsWith "/" then "/" else ".")
      Step.printText ((if p.isEmpty then "." else p) ++ "\n")
    return 0

end WebTestbed.Shell.Program
