import CheckIn.CommandLine.Help
import CheckIn.CommandLine.Invocation
import CheckIn.Log.Filter
import CheckIn.Run.Desk
import Std.Time.Zoned

/-! The program. It reads the options and the task file, keeps the time of a run and writes its log.
It has no means to start the commands by which a phone is reached, so each call of the phone
fails. -/

namespace CheckIn.Program

open CommandLine Timeline

/-- What the system says of an error. -/
def problemText : IO.Error → String
  | .noFileOrDirectory .. | .noSuchThing .. => "No such file or directory (os error 2)"
  | .permissionDenied .. => "Permission denied (os error 13)"
  | .inappropriateType .. => "Is a directory (os error 21)"
  | e => toString e

def read (path : String) : IO (Except String (List UInt8)) := do
  match ← (IO.FS.readBinFile path).toBaseIO with
  | .ok bytes => pure (.ok bytes.toList)
  | .error e => pure (.error (problemText e))

/-- No command can be started. -/
def execute (_ : Phone.Command) : Run.Desk.Script Unit (Except String Phone.Outcome) :=
  pure (.error "Operation not supported (os error 95)")

def log (filter : Log.Filter) (e : Log.Event) : IO Unit := do
  if filter.shows e then IO.eprintln e.line

/-- Waits in pieces that a word of 32 bits holds. -/
def sleep (duration : Nat) : IO Unit := do
  (List.replicate (duration / 1000000) 1000000).forM fun (piece : UInt32) => IO.sleep piece
  IO.sleep (duration % 1000000).toUInt32

/-- Carries out a course at a desk, and logs what is told meanwhile. -/
def carryOut (filter : Log.Filter) (start : Nat) {α : Type} :
    Course (Run.Desk Unit) Unit Empty α → Run.Desk Unit → IO (Option α)
  | .done a, _ => pure (some a)
  | .ask .now next, d => do carryOut filter start (next ((← IO.monoMsNow) - start)) d
  | .ask .get next, d => carryOut filter start (next d) d
  | .ask (.set d) next, _ => do
    d.notes.forM fun note => log filter note.logged
    carryOut filter start (next ()) { d with notes := [] }
  | .ask (.wait duration flag) next, d => do
    if flag.any d.raised then carryOut filter start (next true) d
    else
      sleep duration
      carryOut filter start (next false) d
  | .ask .halt _, _ => pure none

/-- Carries out a run, and gives its result if the run does not halt. -/
def run (filter : Log.Filter) (file : TaskFile) (choice : Choice) :
    IO (Option (Option Run.RunResult)) := do
  let start ← IO.monoMsNow
  let since := (← Std.Time.Timestamp.now).toDurationSinceUnixEpoch
  let localTime := (← Std.Time.PlainDateTime.now).toWallTime.val
  let moment : Calendar.Moment := ⟨since.second.val, since.nano.val.toNat⟩
  let staging := Run.Desk.staging execute (bridgeOf file) moment localTime.second.val
  carryOut filter start (staging.carry (choice.run file)) (.ofPrograms ())

/-- Reports a failure, and gives the exit code. -/
def fail (f : Failure) : IO UInt32 := do
  IO.eprint (failureText f)
  pure 1

/-- The exit code after a number did not fit its word. -/
def halted : UInt32 := 101

/-- Carries out what the options say, and gives the exit code. -/
def invoke (o : Options) : IO UInt32 := do
  let filter := Log.Filter.choose o.logLevel (← IO.getEnv "AUTOSIGN_LOG")
  let path := pathOf o (← IO.getEnv "AUTOSIGN_CONFIG")
  let (events, plan) := CommandLine.plan o path (← read path)
  events.forM (log filter)
  match plan with
  | .error f => fail f
  | .ok (.print text code) =>
    IO.print text
    pure code.toUInt32
  | .ok (.run file choice) =>
    match ← run filter file choice with
    | some (some r) =>
      IO.print (printed o (tenths r.elapsed) r)
      pure r.exitCode.toUInt32
    | some none => fail runActive
    | none => pure halted

end CheckIn.Program

def main (arguments : List String) : IO UInt32 := do
  match CheckIn.CommandLine.Options.ofArguments arguments with
  | .ok o => CheckIn.Program.invoke o
  | .error .help =>
    IO.print CheckIn.CommandLine.helpText
    pure 0
  | .error .version =>
    IO.print CheckIn.CommandLine.versionText
    pure 0
  | .error .unreadable =>
    IO.eprint CheckIn.CommandLine.usageText
    pure 2
