import WebTestbed.Url.Basic

/-! Reading URLs. -/
namespace WebTestbed.Url

/-! The characters that are encoded in each part, besides those that always are. -/

def fragmentSet : String := " \"<>`"
def pathSet : String := fragmentSet ++ "#?\x7b\x7d^"
def userSet : String := pathSet ++ "/:;=@[\\]|"
def querySet : String := " \"#<>"

/-- The text without tabs and line ends, and without controls and spaces at its ends. -/
def clean (s : List Char) : List Char :=
  let outer (c : Char) : Bool := c.toNat ≤ 0x20
  let s := ((s.dropWhile outer).reverse.dropWhile outer).reverse
  s.filter fun c => c ≠ '\t' && c ≠ '\n' && c ≠ '\r'

def isSchemeChar (c : Char) : Bool :=
  c.isAlphanum || c = '+' || c = '-' || c = '.'

def cutScheme? (s : List Char) : Option (String × List Char) :=
  if s.head?.any Char.isAlpha then match s.dropWhile isSchemeChar with
    | ':' :: r => some (String.ofList ((s.takeWhile isSchemeChar).map Char.toLower), r)
    | _ => none
  else none

def isSlash (k : SchemeClass) (c : Char) : Bool :=
  c = '/' || (k.isSpecial && c = '\\')

def endsAuthority (k : SchemeClass) (c : Char) : Bool :=
  isSlash k c || c = '?' || c = '#'

/-! Paths -/

def isDot (s : List Char) : Bool :=
  s = ".".toList || s.map Char.toLower = "%2e".toList

def isDoubleDot (s : List Char) : Bool :=
  ["..", ".%2e", "%2e.", "%2e%2e"].any fun d => s.map Char.toLower = d.toList

def isDrive (s : List Char) : Bool :=
  match s with
  | [c, d] => c.isAlpha && (d = ':' || d = '|')
  | _ => false

/-- Takes the last name away, unless it is all there is and the name of a drive. -/
def dropName (k : SchemeClass) (path : List (List Char)) : List (List Char) :=
  match path with
  | [s] => if k = .file && isDrive s then [s] else []
  | [] => []
  | _ :: r => r

/-- Follows names from a path, whose last name comes first. -/
def followNames (k : SchemeClass) (path : List (List Char)) : List (List Char) → List (List Char)
  | [] => path
  | s :: r =>
    if isDoubleDot s then
      followNames k (if r.isEmpty then [] :: dropName k path else dropName k path) r
    else if isDot s then followNames k (if r.isEmpty then [] :: path else path) r
    else if k = .file && path.isEmpty && isDrive s then
      followNames k ((s.take 1 ++ [':']) :: path) r
    else followNames k (Percent.encode pathSet s :: path) r

def namesOf (k : SchemeClass) (s : List Char) : List (List Char) :=
  Text.pieces '/' (s.map fun c => if isSlash k c then '/' else c)

def writePath (names : List (List Char)) : List Char :=
  names.flatMap ('/' :: ·)

def readPath (k : SchemeClass) (s : List Char) : List Char :=
  let path := writePath (followNames k [] (namesOf k s)).reverse
  if k = .file then '/' :: path.dropWhile (· = '/') else path

/-! What follows the path -/

def isTail (c : Char) : Bool :=
  c = '?' || c = '#'

def readTail (k : SchemeClass) : List Char → List Char
  | '?' :: r =>
    let query :=
      Percent.encode (if k.isSpecial then querySet ++ "'" else querySet) (r.takeWhile (· ≠ '#'))
    let fragment := match r.dropWhile (· ≠ '#') with
      | '#' :: r => '#' :: Percent.encode fragmentSet r
      | _ => []
    '?' :: query ++ fragment
  | '#' :: r => '#' :: Percent.encode fragmentSet r
  | _ => []

def withTail (k : SchemeClass) (read : List Char → List Char) (s : List Char) : String :=
  String.ofList (read (s.takeWhile (!isTail ·)) ++ readTail k (s.dropWhile (!isTail ·)))

/-! User, host and port -/

def cutLast? (c : Char) (s : List Char) : Option (List Char × List Char) :=
  (Text.cut c s.reverse).map fun p => (p.2.reverse, p.1.reverse)

/-- The user part: name and, after the first colon, password. An empty password takes the colon
away. -/
def writeUser (s : List Char) : List Char :=
  match Text.cut ':' s with
  | none => Percent.encode userSet s
  | some (name, password) =>
    Percent.encode userSet name ++
      if password.isEmpty then [] else ':' :: Percent.encode userSet password

/-- How many characters belong to the host: all up to a colon that is not in square brackets. -/
def hostLength (inBrackets : Bool) : List Char → Nat
  | [] => 0
  | c :: r =>
    if c = ':' && !inBrackets then 0
    else hostLength (if c = '[' then true else if c = ']' then false else inBrackets) r + 1

/-- Reads a port, given what follows the colon. What is after a backslash does not belong to it, and
the port that the scheme has anyway is not kept. -/
def readPort (scheme : String) (s : List Char) : Except UrlError (Option UInt16 × List Char) :=
  let digits := s.takeWhile Char.isDigit
  let rest := s.dropWhile Char.isDigit
  let n := Numeral.value digits
  if 65535 < n || !(rest.isEmpty || rest.head? = some '\\') then .error .invalidPort
  else
    let port := UInt16.ofNat n
    .ok (if digits.isEmpty || knownPort? scheme = some port then none else some port, rest)

def readHostPort (scheme : String) (k : SchemeClass) (s : List Char) :
    Except UrlError (Option UrlHost × Option UInt16 × List Char) := do
  let n := hostLength false s
  let host ←
    if k = .other then UrlHost.readOpaque (s.take n)
    else if n = 0 then .error .emptyHost
    else (UrlHost.read (s.take n)).map some
  match s.drop n with
  | ':' :: r =>
    if host.isNone then .error .emptyHost
    else
      let (port, rest) ← readPort scheme r
      return (host, port, rest)
  | rest => return (host, none, rest)

def readHostPath (k : SchemeClass) (s : List Char) : List Char :=
  match s with
  | [] => if k.isSpecial then ['/'] else []
  | c :: r => if isSlash k c then readPath k r else readPath k (c :: r)

def readAuthority (scheme : String) (k : SchemeClass) (s : List Char) : Except UrlError Url := do
  let authority := s.takeWhile (!endsAuthority k ·)
  let after := s.dropWhile (!endsAuthority k ·)
  let (user, hostPort) := (cutLast? '@' authority).getD ([], authority)
  if user.isEmpty && hostPort.isEmpty && authority.contains '@' && !after.isEmpty then
    throw .emptyHost
  let user := writeUser user
  let (host, port, rest) ← readHostPort scheme k hostPort
  if host.isNone && !user.isEmpty then throw .emptyHost
  return ⟨scheme, true, String.ofList user, host, port, withTail k (readHostPath k) (rest ++ after)⟩

def readOther (scheme : String) (s : List Char) : Except UrlError Url :=
  match s with
  | '/' :: '/' :: r => readAuthority scheme .other r
  | '/' :: r =>
    let rest := withTail .other (readPath .other) r
    .ok ⟨scheme, false, "", none, none, if rest.startsWith "//" then "/." ++ rest else rest⟩
  | s => .ok ⟨scheme, false, "", none, none, withTail .other (Percent.encode "") s⟩

def fileUrl (s : List Char) : Url :=
  ⟨"file", true, "", none, none, withTail .file (readHostPath .file) s⟩

def startsWithDrive (s : List Char) : Bool :=
  ((namesOf .file (s.takeWhile (!isTail ·))).find? (!·.isEmpty)).any isDrive

/-- Reads the URL of a file. The host of this machine is not kept, nor is one before a drive. -/
def readFileUrl (s : List Char) : Except UrlError Url :=
  match s with
  | a :: b :: r =>
    if isSlash .file a && isSlash .file b then
      let name := r.takeWhile (!endsAuthority .file ·)
      let after := r.dropWhile (!endsAuthority .file ·)
      if name.isEmpty || isDrive name then .ok (fileUrl r)
      else do
        let host ← UrlHost.read name
        if host = .name "localhost" || startsWithDrive after then return fileUrl after
        else return ⟨"file", true, "", some host, none, withTail .file (readHostPath .file) after⟩
    else .ok (fileUrl s)
  | s => .ok (fileUrl s)

def read (s : String) : Except UrlError Url :=
  match cutScheme? (clean s.toList) with
  | none => .error .noScheme
  | some (scheme, r) => match SchemeClass.ofScheme scheme with
    | .web => readAuthority scheme .web (r.dropWhile (isSlash .web))
    | .file => readFileUrl r
    | .other => readOther scheme r

end WebTestbed.Url
