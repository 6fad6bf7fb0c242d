import CheckIn.CommandLine.Invocation
import CheckIn.Log.Filter
import CheckIn.Rehearsal.Computer
import CheckIn.Rehearsal.Folder
import CheckIn.Timeline.Solo

/-! Invocations of the program at a computer whose programs are scripted. -/

namespace CheckIn.Rehearsal

open CommandLine Timeline

/-- What an invocation leaves behind. -/
structure Traces where
  printed : String
  events : List Log.Event
  commands : List Phone.Command
  outcome : Except Failure Nat

namespace Traces

/-- What appears on the screen beside the print: the log, and the failure. -/
def complaints (t : Traces) (filter : Log.Filter) : String :=
  let log := String.join ((t.events.filter filter.shows).map (·.line ++ "\n"))
  match t.outcome with
  | .ok _ => log
  | .error f => log ++ failureText f

/-- The exit code, which is one after a failure. -/
def exitCode (t : Traces) : Nat :=
  match t.outcome with
  | .ok code => code
  | .error _ => 1

end Traces

/-- Carries out a run at a desk with a computer. -/
def Computer.run (computer : Computer) (file : TaskFile) (choice : Choice) :
    Option (Option Run.RunResult) × Scene (Run.Desk Computer) :=
  Course.alone Run.Desk.raised ((staging (bridgeOf file)).carry (choice.run file))
    ⟨0, .ofPrograms computer⟩

/-- Invokes the program in a folder, where the surroundings may name the task file; nothing if its
run halts. A run takes as many seconds as it is said to. -/
def invoke (o : Options) (surroundings : Option String) (folder : Folder) (computer : Computer)
    (seconds : String) : Option Traces :=
  let path := pathOf o surroundings
  match plan o path (folder.read path) with
  | (events, .error f) => some ⟨"", events, [], .error f⟩
  | (events, .ok (.print text code)) => some ⟨text, events, [], .ok code⟩
  | (events, .ok (.run file choice)) =>
    let (result, scene) := computer.run file choice
    let commands := scene.world.programs.commands
    let events := events ++ scene.world.notes.map (·.logged)
    result.map fun
      | some r => ⟨printed o seconds r, events, commands, .ok r.exitCode⟩
      | none => ⟨"", events, commands, .error runActive⟩

end CheckIn.Rehearsal
