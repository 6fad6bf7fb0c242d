import CheckIn.Log.Event
import CheckIn.Text.Numeral
import CheckIn.Text.Parts

/-! The options of the command line. They are read from the left; the first that cannot be read,
asks for help or asks for the version decides. -/

namespace CheckIn.CommandLine

structure Options where
  /-- The path of the task file. -/
  config : Option String
  /-- The only task to run. -/
  task : Option UInt32
  /-- Tasks to disable. -/
  skip : List UInt32
  list : Bool
  dryRun : Bool
  json : Bool
  serial : Option String
  logLevel : Option Log.Level

def Options.unset : Options := ⟨none, none, [], false, false, false, none, none⟩

/-- Why no options come of a command line. -/
inductive Refusal where
  | unreadable
  | help
  | version
  deriving DecidableEq

/-- The levels of the log by their names. -/
def levels : List (String × Log.Level) :=
  [("error", .error), ("warn", .warn), ("info", .info), ("debug", .debug), ("trace", .trace)]

def id? (text : String) : Option UInt32 := do
  let n ← Text.int? text.toList
  if 0 ≤ n ∧ n < UInt32.size then pure n.toNat.toUInt32 else failure

namespace Options

/-- Sets an option that takes no value, if there is one of that name. -/
def setFlag? (o : Options) (name : String) : Option (Except Refusal Options) :=
  let once := fun ( isSet : Bool) (o : Options) =>
    if isSet then Except.error Refusal.unreadable else .ok o
  match name with
  | "list" => some (once o.list { o with list := true })
  | "dry-run" => some (once o.dryRun { o with dryRun := true })
  | "json" => some (once o.json { o with json := true })
  | "help" => some (.error .help)
  | "version" => some (.error .version)
  | _ => none

/-- Sets an option that takes a value. One that may not be repeated is refused the second time. -/
def setValue (o : Options) (name value : String) : Except Refusal Options :=
  let once := fun ( isSet : Bool) (o : Option Options) =>
    match isSet, o with
    | false, some o => Except.ok o
    | _, _ => .error Refusal.unreadable
  match name with
  | "config" => once o.config.isSome (some { o with config := some value })
  | "task" => once o.task.isSome ((id? value).map fun id => { o with task := some id })
  | "skip" => once false ((id? value).map fun id => { o with skip := o.skip ++ [id] })
  | "serial" => once o.serial.isSome (some { o with serial := some value })
  | "log-level" => once o.logLevel.isSome ((levels.lookup value).map fun level =>
      { o with logLevel := some level })
  | _ => .error .unreadable

/-- The names of the options that take a value. -/
def valued : List String := ["config", "task", "skip", "serial", "log-level"]

/-- Whether an argument can be the value of the option before it. -/
def isValue (argument : String) : Bool := argument == "-" || !argument.startsWith "-"

/-- Reads arguments after those that have given the options so far. -/
def read (o : Options) : List String → Except Refusal Options
  | [] => .ok o
  | argument :: rest =>
    match argument.toList with
    | ['-', '-'] => if rest.isEmpty then .ok o else .error .unreadable
    | '-' :: '-' :: long => match Text.splitAtFirst ['='] long with
      | some (name, value) => do
        read (← o.setValue (String.ofList name) (String.ofList value)) rest
      | none =>
        let name := String.ofList long
        match o.setFlag? name, rest with
        | some set, rest => do read (← set) rest
        | none, value :: rest =>
          if valued.contains name && isValue value then do read (← o.setValue name value) rest
          else .error .unreadable
        | none, [] => .error .unreadable
    | '-' :: 'h' :: _ => .error .help
    | '-' :: 'V' :: _ => .error .version
    | _ => .error .unreadable

def ofArguments (arguments : List String) : Except Refusal Options := unset.read arguments

end Options

end CheckIn.CommandLine
