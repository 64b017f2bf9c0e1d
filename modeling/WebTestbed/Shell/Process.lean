import WebTestbed.Command.Run
import WebTestbed.Shell.Run

/-! Commands that are programs and scripts: what they start, and how they go on with and without a
limit to their time. -/
namespace WebTestbed.Shell

inductive LaunchError where
  | file (e : FileError)
  | nulCharacter
  deriving DecidableEq, Repr

def LaunchError.message : LaunchError → String
  | file e => e.message
  | nulCharacter => "nul byte found in provided data"

def launch (t : FileTree) (args : List String) : Except LaunchError Launch :=
  if args.any (·.contains '\x00') then .error .nulCharacter
  else (resolve t args).mapError .file

def ending? (status : Nat) : Except Stop Unit → Option Command.Ending
  | .ok () | .error (.leaveLoop _) | .error (.nextRound _) => some (.exited status)
  | .error (.exit n) | .error (.returned n) => some (.exited n)
  | .error (.signal _) => some .signal
  | .error .late | .error .endless => none

def Machine.remains (m : Machine) (outside : σ) (moment : Duration) : Command.Remains σ :=
  ⟨moment, m.files, outside, m.collected 0, m.collected 1⟩

/-- Starts a command. One that is not done after so many steps, or whose end the clock does not
reach, never ends. -/
def start (steps : Nat) : Command.Starter σ := fun args input s => do
  let l ← (launch s.files args).mapError (·.message)
  let running (deadline : Option Duration) : Except Stop Unit × Machine :=
    (runLaunch steps l).run.run
      { files := s.files, clock := s.clock, deadline := deadline, name := args.headD ""
        input := input.getD [] }
  let (stop, m) := running none
  return {
    ending := (ending? m.status stop).map (m.clock, ·)
    remains :=
      if m.busyUntil.nanos < Action.clockLimit then
        some (m.remains s.outside (m.clock.max m.busyUntil))
      else none
    killed := fun moment => some ((running (some moment)).2.remains s.outside moment)
    killError := fun _ => none }

end WebTestbed.Shell
