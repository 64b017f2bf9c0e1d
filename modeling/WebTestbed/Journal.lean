import WebTestbed.Number.Duration

/-! The journal: what a run tells about itself, by importance. -/
namespace WebTestbed

inductive Level where
  | error
  | warn
  | info
  | debug
  | trace
  deriving DecidableEq, Repr

namespace Level

def rank : Level → Nat
  | error => 0
  | warn => 1
  | info => 2
  | debug => 3
  | trace => 4

/-- The least important level that is shown at a verbosity. -/
def ofVerbosity : Nat → Level
  | 0 => error
  | 1 => warn
  | 2 => info
  | 3 => debug
  | _ => trace

def name : Level → String
  | error => "ERROR"
  | warn => "WARN"
  | info => "INFO"
  | debug => "DEBUG"
  | trace => "TRACE"

def tag : Level → String
  | error => "ERR"
  | l => l.name

end Level

structure Entry where
  time : Duration
  level : Level
  source : String
  text : String
  deriving DecidableEq, Repr

namespace Entry

def shownAt (limit : Level) (e : Entry) : Bool :=
  e.level.rank ≤ limit.rank

def render (stamp : Duration → String) (e : Entry) : String :=
  "[" ++ e.level.tag ++ "] " ++ stamp e.time ++ " [" ++ e.source ++ "] " ++ e.text ++ "\n"

def renderAll (stamp : Duration → String) (limit : Level) (entries : List Entry) : String :=
  String.join ((entries.filter (shownAt limit)).map (render stamp))

end Entry

def zeroFilled (width n : Nat) : String :=
  let s := toString n
  String.ofList (List.replicate (width - s.length) '0') ++ s

def elapsedStamp (d : Duration) : String :=
  let n := d.seconds
  zeroFilled 2 (n / 3600) ++ ":" ++ zeroFilled 2 (n / 60 % 60) ++ ":" ++ zeroFilled 2 (n % 60) ++
    "." ++ zeroFilled 3 (d.subsecond / 1000000)

def version : String := "0.3.0-dev"

end WebTestbed
