import WebTestbed.Environment.Basic
import WebTestbed.Text.Template

/-! The directory of the server under test, made from the sources of the tests. -/
namespace WebTestbed

structure ServerRoot where
  env : Environment
  sourceDir : Path
  modules : List String
  deriving DecidableEq, Repr

inductive SetupError where
  | missingModules (missing shared : List String)
  | unknownVariable (e : Template.UnknownVariable)
  | file (e : FileError)
  deriving DecidableEq, Repr

def SetupError.message : SetupError → String
  | missingModules missing shared =>
    "unable to find modules: " ++ Text.quoteList missing ++
      " (DSOs: " ++ Text.quoteList shared ++ ")"
  | unknownVariable e => e.message
  | file e => e.message

/-- A change of files that may fail; what it did until then stays. -/
abbrev Change := ExceptT SetupError (StateM FileTree)

namespace Change

def ofFiles (f : FileTree → Except FileError FileTree) : Change Unit := do
  match f (← get) with
  | .ok t => set t
  | .error e => throw (.file e)

def ofRead (f : FileTree → Except FileError α) : Change α := do
  match f (← get) with
  | .ok a => return a
  | .error e => throw (.file e)

end Change

namespace ServerRoot

def defaultModules : List String :=
  ["log_config", "logio", "unixd", "version", "watchdog", "authn_core", "authz_host",
    "authz_groupfile", "authz_user", "authz_core", "access_compat", "auth_basic", "cache",
    "cache_disk", "cache_socache", "socache_shmcb", "dumpio", "reqtimeout", "filter", "mime", "env",
    "headers", "setenvif", "slotmem_shm", "status", "autoindex", "cgid", "dir", "alias", "rewrite",
    "deflate", "proxy", "proxy_http", "proxy_balancer", "proxy_hcheck"]

def ofEnvironment (e : Environment) : ServerRoot :=
  ⟨e, e.testDir, defaultModules⟩

def withSourceDir (s : ServerRoot) (p : Path) : ServerRoot :=
  { s with sourceDir := p }

def withModules (s : ServerRoot) (names : List String) : ServerRoot :=
  { s with modules := names }

def addModules (s : ServerRoot) (names : List String) : ServerRoot :=
  { s with modules := s.modules ++ names }

def ensure (name : String) (names : List String) : List String :=
  if names.contains name then names else names ++ [name]

/-- The modules to load: those given, and the MPM and TLS modules of the environment. -/
def moduleNames (s : ServerRoot) : List String :=
  let names := ensure s.env.mpmModule s.modules
  match s.env.tls with
  | none => names
  | some m => ensure m.name names

def moduleFile (e : Environment) (name : String) : Path :=
  e.moduleDir.join ⟨"mod_" ++ name ++ ".so"⟩

def loadLine (e : Environment) (name : String) : String :=
  "LoadModule " ++ name ++ "_module   \"" ++ (moduleFile e name).text ++ "\""

/-- The line for a module: the directive if its file is there, a comment if the server has it built
in. -/
def moduleLine? (e : Environment) (t : FileTree) (name : String) : Option String :=
  if t.isFile (moduleFile e name) then some (loadLine e name)
  else if e.staticModules.contains name then some ("#built static: " ++ loadLine e name)
  else none

def missingModules (e : Environment) (t : FileTree) (names : List String) : List String :=
  names.filter fun n => (moduleLine? e t n).isNone

/-- Writes the lines of the modules. Modules that are nowhere are an error, after the others are
written. -/
def writeModules (s : ServerRoot) (names : List String) : Change Unit := do
  Change.ofFiles (·.write s.env.modulesConfFile [])
  let t ← get
  Change.ofFiles (·.write s.env.modulesConfFile
    (Utf8.encode (Text.unlines (names.filterMap (moduleLine? s.env t)))))
  let missing := missingModules s.env t names
  if missing.isEmpty then return () else throw (.missingModules missing s.env.sharedModules)

def templateSuffix : List Char := ".template".toList

def templateStem? (name : String) : Option String :=
  let s := name.toList.reverse
  if templateSuffix.reverse.isPrefixOf s && templateSuffix.length < s.length then
    some (String.ofList (s.drop templateSuffix.length).reverse)
  else none

def valueOf? (e : Environment) (name : String) : Option String :=
  e.templateVariables.lookup name

def confSources (s : ServerRoot) : Path :=
  s.sourceDir.join "conf"

/-- Puts a configuration source into its place: a template with the values of its variables, any
other file as it is. -/
def placeSource (s : ServerRoot) (name : String) : Change Unit := do
  let source := s.confSources.join name
  match templateStem? name with
  | some stem =>
    let text ← Change.ofRead (·.readText source)
    match Template.expand (valueOf? s.env) text with
    | .error e => throw (.unknownVariable e)
    | .ok text => Change.ofFiles (·.write (s.env.confDir.join stem) (Utf8.encode text))
  | none => Change.ofFiles (·.copyFile source (s.env.confDir.join name))

def placeSources (s : ServerRoot) (names : List String) : Change Unit :=
  names.forM s.placeSource

def fileNames (t : FileTree) (p : Path) : Except FileError (List String) := do
  return ((← t.list p).filter fun e => !e.2.isDirectory).map (·.1)

def makeConf (s : ServerRoot) : Change Unit := do
  if (← get).isDirectory s.confSources then
    s.placeSources (← Change.ofRead (fileNames · s.confSources))

def makeDirs (s : ServerRoot) : Change Unit := do
  if (← get).contains s.env.genDir then
    Change.ofFiles (·.emptyDirectory s.env.genDir)
    Change.ofFiles (·.removeEmptied s.env.genDir)
  Change.ofFiles (·.makeDirectories s.env.genDir)
  Change.ofFiles (·.makeDirectories s.env.logsDir)
  Change.ofFiles (·.makeDirectories s.env.confDir)

/-- Directories before what is in them. -/
def inOrder (l : List (Location × FileNode)) : List (Location × FileNode) :=
  l.mergeSort fun a b => !decide (b.1 < a.1)

def copyTree (source target : Path) : Change Unit := do
  Change.ofFiles (·.makeDirectories target)
  let (l, _) ← Change.ofRead (·.find source)
  (inOrder ((← get).below l)).forM fun e =>
    let name : Path := ⟨Text.joinWith "/" e.1⟩
    if e.2.isDirectory then Change.ofFiles (·.makeDirectories (target.join name))
    else Change.ofFiles (·.copyFile (source.join name) (target.join name))

def isProgram (name : String) : Bool :=
  Path.extension? name = some "py"

def enablePrograms (dir : Path) : Change Unit := do
  if (← get).isDirectory dir then
    let names := (← Change.ofRead (·.list dir)).map (·.1)
    (names.filter isProgram).forM fun name => Change.ofFiles (·.setExecutable (dir.join name) true)

def docsSources (s : ServerRoot) : Path :=
  s.sourceDir.join "htdocs"

def makeDocs (s : ServerRoot) : Change Unit := do
  if (← get).isDirectory s.docsSources then copyTree s.docsSources s.env.docsDir
  else Change.ofFiles (·.makeDirectories s.env.docsDir)
  enablePrograms (s.env.docsDir.join "cgi")

def make (s : ServerRoot) : Change Unit := do
  s.makeDirs
  s.makeConf
  s.writeModules s.moduleNames
  s.makeDocs

def lacksConf (s : ServerRoot) (t : FileTree) : Bool :=
  match s.makeDirs.run.run t with
  | (.ok _, t) => !t.isDirectory s.confSources
  | (.error _, _) => false

def source : String := "httpd_harness::setup"

def setUp (s : ServerRoot) : Action σ (Except SetupError Unit) := do
  Action.tell .info source ("setting up server in " ++ s.env.serverDir.text)
  let session ← get
  if s.lacksConf session.files then
    Action.tell .debug source ("no configuration sources in " ++ s.confSources.text)
  let (r, t) := s.make.run.run session.files
  modify fun session => { session with files := t }
  return r

end WebTestbed.ServerRoot
