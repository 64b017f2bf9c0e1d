import WebTestbed.Files.FileTree
import WebTestbed.Settings.Basic
import WebTestbed.Settings.Ini
import WebTestbed.Text.Numeral
import WebTestbed.Text.Quoted

/-! Loading the settings: what a settings file names replaces the default. -/
namespace WebTestbed.Settings

inductive LoadError where
  | unreadable
  | malformed
  | wrongValue (setting found expected : String)
  | noSection (name found : String)
  deriving DecidableEq, Repr

def LoadError.message (file : String) : LoadError → String
  | unreadable => FileError.message .invalidText
  | malformed => "malformed settings in " ++ file
  | wrongValue setting found expected =>
    "invalid type: " ++ found ++ ", expected " ++ expected ++ " for key \x60" ++ setting ++
      "\x60 in " ++ file
  | noSection name found =>
    "invalid type: " ++ found ++ ", expected struct " ++ String.ofList
      (match name.toList with
        | c :: r => c.toUpper :: r
        | [] => [])

/-- Settings by name: texts, tables of settings, and lists, of which nothing is read. -/
inductive Node where
  | text (s : String)
  | table (fields : List (String × Node))
  | list

namespace Node

def description : Node → String
  | text s => "string " ++ Text.quote s
  | table _ => "map"
  | list => "sequence"

def fields : Node → List (String × Node)
  | table fs => fs
  | _ => []

def assign (name : String) (v : Node) : List (String × Node) → List (String × Node)
  | [] => [(name, v)]
  | f :: r => if f.1 = name then (name, v) :: r else f :: assign name v r

def get? (n : Node) (name : String) : Option Node :=
  n.fields.lookup name

/-- Adds a setting to a table, which anything else becomes first. -/
def set (n : Node) (name : String) (v : Node) : Node :=
  table (assign name v n.fields)

inductive Step where
  | child (name : String)
  | item
  deriving DecidableEq, Repr

/-- Puts a setting where the steps lead; what is in their way becomes a table or a list. -/
def place (v : Node) : List Step → Node → Node
  | [], _ => v
  | .child name :: r, n => n.set name (place v r ((n.get? name).getD (table [])))
  | .item :: _, _ => list

/-- Adds a setting to the root. The settings of a table are added one by one. -/
def merge (root : Node) (name : String) (v : Node) : Node :=
  match v with
  | table fs => root.set name
      (fs.foldl (fun n f => n.set f.1 f.2) (table ((root.get? name).getD (table [])).fields))
  | v => root.set name v

def isNameChar (c : Char) : Bool :=
  c.isAlphanum || c = ' ' || c = '_' || c = '-'

/-- Whether a text is the number of an item: a whole number of 64 bits, maybe between blanks. -/
def isIndex (s : List Char) : Bool :=
  let blank (c : Char) : Bool := c = ' ' || c = '\t'
  match ((s.dropWhile blank).reverse.dropWhile blank).reverse with
  | '-' :: r => (Numeral.read? r).any (· ≤ Nat.pow 2 63)
  | r => (Numeral.read? r).any (· < Nat.pow 2 63)

def readSteps? : Nat → List Char → Option (List Step)
  | _, [] => some []
  | 0, _ => none
  | fuel + 1, '.' :: r =>
    let name := r.takeWhile isNameChar
    if name.isEmpty then none
    else (readSteps? fuel (r.dropWhile isNameChar)).map (.child (String.ofList name) :: ·)
  | fuel + 1, '[' :: r => match Text.cut ']' r with
    | some (n, r) => if isIndex n then (readSteps? fuel r).map (.item :: ·) else none
    | none => none
  | _, _ => none

/-- The name that a key starts with and the steps after it; a key that leads nowhere is a name. -/
def readKey (key : String) : String × List Step :=
  let s := key.toList
  let name := s.takeWhile isNameChar
  if name.isEmpty then (key, [])
  else match readSteps? s.length (s.dropWhile isNameChar) with
    | some steps => (String.ofList name, steps)
    | none => (key, [])

def addKey (root : Node) (key : String) (v : Node) : Node :=
  match readKey key with
  | (name, []) => root.merge name v
  | (name, steps) => place v (.child name :: steps) root

/-- A table of texts; of two that have one name the last counts. -/
def ofProperties (l : Ini.Properties) : List (String × Node) :=
  l.foldl (fun fs p => assign p.1 (text p.2) fs) []

/-- What stands at the top of a settings file. A section replaces what has its name. -/
def ofSections (s : Ini.Sections) : List (String × Node) :=
  s.named.foldl (fun fs p => assign p.1 (table (ofProperties p.2)) fs) (ofProperties s.general)

end Node

def toNode (s : Settings) : Node :=
  .table [
    ("global", .table [("prefix", .text s.programs.installDir), ("bindir", .text s.programs.binDir),
      ("apxs", .text s.programs.apxs), ("apachectl", .text s.programs.apachectl),
      ("curl_bin", .text s.programs.curl), ("nghttp", .text s.programs.nghttp),
      ("h2load", .text s.programs.h2load)]),
    ("test", .table [("http_port", .text (toString s.test.httpPort.toNat)),
      ("https_port", .text (toString s.test.httpsPort.toNat)),
      ("proxy_port", .text (toString s.test.proxyPort.toNat)), ("http_tld", .text s.test.domain),
      ("test_dir", .text s.test.testDir), ("gen_dir", .text s.test.genDir)]),
    ("httpd", .table [("dso_modules", .text s.server.sharedModules),
      ("static_modules", .text s.server.staticModules), ("libexecdir", .text s.server.moduleDir)])]

def readSection (n : Node) (name : String) : Except LoadError Node :=
  match n.get? name with
  | some (.table fs) => .ok (.table fs)
  | some v => .error (.noSection name v.description)
  | none => .error (.noSection name "unit value")

def readString (sectionName : String) (n : Node) (name : String) : Except LoadError String :=
  match n.get? name with
  | some (.text s) => .ok s
  | some v => .error (.wrongValue (sectionName ++ "." ++ name) v.description "a string")
  | none => .error (.wrongValue (sectionName ++ "." ++ name) "unit value" "a string")

/-- The number that a text stands for: a word for yes or no, or a number of 64 bits. -/
def number? (s : String) : Option Nat :=
  let word := Text.lowercase s
  if ["true", "on", "yes"].contains word then some 1
  else if ["false", "off", "no"].contains word then some 0
  else Numeral.signedRead? Numeral.max64 s.toList

/-- A setting of a section that is a port: the low 16 bits of a number. -/
def readPort (sectionName : String) (n : Node) (name : String) : Except LoadError UInt16 := do
  let s ← readString sectionName n name
  match number? s with
  | some k => return UInt16.ofNat k
  | none => .error (.wrongValue (sectionName ++ "." ++ name) ("string " ++ Text.quote s)
      "an unsigned 64 bit integer")

def ofNode (n : Node) : Except LoadError Settings := do
  let g ← readSection n "global"
  let t ← readSection n "test"
  let h ← readSection n "httpd"
  return {
    programs := {
      installDir := ← readString "global" g "prefix"
      binDir := ← readString "global" g "bindir"
      apxs := ← readString "global" g "apxs"
      apachectl := ← readString "global" g "apachectl"
      curl := ← readString "global" g "curl_bin"
      nghttp := ← readString "global" g "nghttp"
      h2load := ← readString "global" g "h2load" }
    test := {
      httpPort := ← readPort "test" t "http_port"
      httpsPort := ← readPort "test" t "https_port"
      proxyPort := ← readPort "test" t "proxy_port"
      domain := ← readString "test" t "http_tld"
      testDir := ← readString "test" t "test_dir"
      genDir := ← readString "test" t "gen_dir" }
    server := {
      sharedModules := ← readString "httpd" h "dso_modules"
      staticModules := ← readString "httpd" h "static_modules"
      moduleDir := ← readString "httpd" h "libexecdir" } }

def ofText (s : List Char) : Except LoadError Settings :=
  match Ini.read s with
  | .error _ => .error .malformed
  | .ok sections =>
    ofNode ((Node.ofSections sections).foldl (fun n f => n.addKey f.1 f.2) (toNode {}))

def withIni (p : Path) : Path :=
  ⟨String.ofList (p.text.toList.reverse.dropWhile (· = '/')).reverse ++ ".ini"⟩

/-- Loads a settings file. A path that names no file is tried with `.ini` at its end. -/
def load (t : FileTree) (p : Path) : Except LoadError Settings :=
  let p := if t.isFile p then p else withIni p
  match t.readText p with
  | .error _ => .error .unreadable
  | .ok s => ofText s.toList

structure NoFile where
  tried : List Path
  deriving DecidableEq, Repr

def NoFile.message (e : NoFile) : String :=
  "no configuration file found. Tried: " ++ Text.joinWith " " (e.tried.map (·.text))

def fileName : Path := "harness.conf"

/-- Where a settings file may be: the path given, or places in the working directory. -/
def candidates (workDir : Path) : Option Path → List Path
  | some p => [p]
  | none => [(workDir.join "config").join fileName, workDir.join fileName,
      (workDir.join "test").join fileName]

def findFile (t : FileTree) (workDir : Path) (given : Option Path) : Except NoFile Path :=
  let tried := candidates workDir given
  match tried.find? t.isFile with
  | some p => .ok p
  | none => .error ⟨tried⟩

end WebTestbed.Settings
