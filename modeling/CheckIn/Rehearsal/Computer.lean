import CheckIn.Run.Desk

/-! A computer whose programs are scripted. Its commands take no time. An interrupt that comes while
a command runs stops the run. -/

namespace CheckIn.Rehearsal

open Timeline

/-- How commands that begin with a text end. -/
structure Rule where
  start : String
  outcome : Phone.Outcome
  /-- Whether an interrupt comes while the command runs. -/
  interrupts : Bool

/-- A rule for everything that no other rule concerns. -/
def Rule.silent : Rule := ⟨"", .silent, false⟩

/-- What happens to the commands: those that go to the phone's shell follow the first rule that
concerns them, and recognition follows a rule of its own. -/
structure Computer where
  shell : List Rule
  recognition : Rule
  /-- The commands that have been started. -/
  commands : List Phone.Command
  isInterrupted : Bool

namespace Computer

def ofRules (shell : List Rule) (recognition : Rule) : Computer := ⟨shell, recognition, [], false⟩

/-- How a shell ends that knows no program of the name it is given. -/
def unknownProgram : Rule := { Rule.silent with outcome.exitCode := 127 }

/-- What a command comes to. One that the computer has no program for does not start. -/
def ruleFor (c : Computer) (command : Phone.Command) : Except String Rule :=
  if (command.program :: command.arguments).any (·.toList.contains '\x00') then
    .error "nul byte found in provided data"
  else match command.program, command.arguments with
    | "adb", arguments =>
      let line := " ".intercalate (arguments.dropWhile (· != "shell")).tail
      .ok ((c.shell.find? fun r => r.start.toList.isPrefixOf line.toList).getD .silent)
    | "sh", ["-c", "ocr"] => .ok c.recognition
    | "sh", _ => .ok unknownProgram
    | _, _ => .error "No such file or directory (os error 2)"

/-- The first interrupt stops the run, and others do nothing. -/
def interrupt (d : Run.Desk Computer) : Run.Desk Computer :=
  if d.programs.isInterrupted then d
  else { d with
    programs.isInterrupted := true, gate := d.gate.stop, notes := d.notes ++ [.interrupted] }

/-- Carries out a command. An interrupt that comes meanwhile comes before its end. -/
def execute (command : Phone.Command) : Run.Desk.Script Computer (Except String Phone.Outcome) := do
  let d ← Script.get
  match d.programs.ruleFor command with
  | .error problem => pure (.error problem)
  | .ok rule =>
    let d := { d with programs.commands := d.programs.commands ++ [command] }
    Script.set (if rule.interrupts then interrupt d else d)
    Script.wait 0
    pure (.ok rule.outcome)

/-- Carries out runs on a clock that starts with the year 1970. -/
def staging (bridge : Phone.Bridge) : Run.Staging (Run.Desk Computer) Unit :=
  Run.Desk.staging execute bridge ⟨0, 0⟩ 0

end Computer

end CheckIn.Rehearsal
