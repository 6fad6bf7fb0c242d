import CheckIn.Failure
import CheckIn.Phone.Call
import CheckIn.Phone.Command
import CheckIn.Phone.Reports
import CheckIn.Phone.Typing
import CheckIn.Process
import CheckIn.Screen.Detection
import CheckIn.Screen.Hierarchy
import CheckIn.TaskFile.Basic
import CheckIn.Text.Quoted
import CheckIn.Text.Utf8

/-! The bridge to a phone that is connected to the computer: each call becomes commands in the
phone's shell. The layout of the screen is kept for a while, so that the parts of a selector are
looked up on one screen; whatever goes into the phone ends that. -/

namespace CheckIn.Phone

/-- The elements of a screen, and when they were taken. -/
structure Snapshot where
  taken : Nat
  elements : List Screen.Element

/-- A snapshot is good until its lifetime in microseconds is over. -/
def Snapshot.isGood (s : Snapshot) (now lifetime : Nat) : Bool := (now - s.taken) * 1000 < lifetime

namespace Bridge

inductive Request where
  /-- Carries out a command; a text says why it could not start. -/
  | execute (command : Command)
  | now
  /-- The snapshot that is kept. -/
  | kept
  | keep (snapshot : Option Snapshot)
  /-- Finds that a number does not fit its word of 32 bits. -/
  | overflow

abbrev Request.Answer : Request → Type
  | execute _ => Except String Outcome
  | now => Nat
  | kept => Option Snapshot
  | keep _ | overflow => Unit

def interface : Interface := ⟨Request, Request.Answer⟩

end Bridge

/-- A part of a call that may fail. -/
abbrev Exchange (α : Type) : Type := ExceptT Failure (Process Bridge.interface) α

/-- How the phone is reached, and for how many microseconds a snapshot is good. -/
structure Bridge where
  connection : Connection
  lifetime : Nat

namespace Bridge

def execute (command : Command) : Exchange (Except String Outcome) :=
  ExceptT.lift (Process.perform (I := interface) (.execute command))

def now : Exchange Nat := ExceptT.lift (Process.perform (I := interface) .now)

def kept : Exchange (Option Snapshot) := ExceptT.lift (Process.perform (I := interface) .kept)

def keep (snapshot : Option Snapshot) : Exchange Unit :=
  ExceptT.lift (Process.perform (I := interface) (.keep snapshot))

/-- Goes on with a number that fits its word, and else overflows. -/
def checked (fits : Prop) [Decidable fits] : Exchange Unit := do
  if ¬fits then ExceptT.lift (Process.perform (I := interface) .overflow)

/-- Says what was being done when something failed. -/
def during {α : Type} (cause : String) (e : Exchange α) : Exchange α :=
  ExceptT.mk do
    match ← e.run with
    | .ok a => pure (.ok a)
    | .error f => pure (.error (f.because cause))

/-- Carries out a command that has to succeed. -/
def succeed (command : Command) (start name : String) : Exchange (List UInt8) := do
  match ← execute command with
  | .error problem => throw ((Failure.of problem).because start)
  | .ok outcome =>
    if outcome.exitCode = 0 then pure outcome.printed
    else
      let complaints := Text.trim (Text.Utf8.lossy outcome.complaints)
      throw (.of s!"{name} exited with exit status: {outcome.exitCode}: {complaints}")

/-- Carries out a command in the phone's shell, and gives what it printed. -/
def shell (b : Bridge) (arguments : List String) : Exchange String := do
  let line := " ".intercalate arguments
  let phone := match b.connection.serial with
    | some serial => ["-s", serial]
    | none => []
  let printed ← succeed ⟨b.connection.adb, phone ++ "shell" :: arguments⟩
    s!"running `{b.connection.adb} shell {line}`" s!"`adb shell {line}`"
  pure (Text.Utf8.lossy printed)

/-- Carries out a command that may change the screen. -/
def input (b : Bridge) (arguments : List String) : Exchange Unit := do
  keep none
  let _ ← b.shell arguments

def press (b : Bridge) (key : String) : Exchange Unit := b.input ["input", "keyevent", key]

def tap (b : Bridge) (p : Screen.Point) : Exchange Unit :=
  b.input ["input", "tap", toString p.x.toInt, toString p.y.toInt]

def tapCenter (b : Bridge) (e : Screen.Element) : Exchange Unit := do
  checked e.bounds.SumsFit
  b.tap e.center

/-- Where the phone writes the layout of its screen. -/
def layoutPath : String := "/sdcard/autosign_window_dump.xml"

/-- Takes a new snapshot of the screen. -/
def look (b : Bridge) : Exchange (List Screen.Element) := do
  let layout ← b.shell [s!"uiautomator dump {layoutPath} >/dev/null && cat {layoutPath}"]
  if Text.contains "<hierarchy".toList layout.toList then
    let elements := Screen.elementsOfLayout layout
    keep (some ⟨← now, elements⟩)
    pure elements
  else throw (.of "uiautomator dump returned no hierarchy")

/-- The elements on the screen, as a snapshot that is still good has them, or as they are now. -/
def elements (b : Bridge) : Exchange (List Screen.Element) := do
  let asked ← now
  match (← kept).filter (·.isGood asked b.lifetime) with
  | some snapshot => pure snapshot.elements
  | none => b.look

/-- Puts a text into an element in place of the one that is there. -/
def setText (b : Bridge) (e : Screen.Element) (text : String) : Exchange Unit := do
  b.tapCenter e
  b.press "KEYCODE_MOVE_END"
  e.text.toList.forM fun _ => b.press "KEYCODE_DEL"
  if !text.isEmpty then b.input ["input", "text", typed text]

def screenSize (b : Bridge) : Exchange Screen.Size := do
  let report ← b.shell ["wm", "size"]
  match screenSize? report with
  | some size => pure size
  | none => throw (.of s!"unexpected `wm size` output: {Text.quoted report}")

/-- The texts on the screen by the recognition command; none if there is no such command. -/
def detect (b : Bridge) : Exchange (List Screen.Detection) := do
  match b.connection.ocrCommand with
  | none => pure []
  | some command =>
    let printed ← succeed ⟨"sh", ["-c", command]⟩ s!"running recognition command `{command}`"
      "recognition command"
    match Screen.detectionsOf? printed with
    | some detections => pure detections
    | none => throw (.of "parsing recognition output as JSON")

/-- Meets a call of the phone. -/
def meet (b : Bridge) : (c : Call) → Exchange c.Reply
  | .findAll selector => do pure ((← b.elements).filter selector.holds)
  | .click e => b.tapCenter e
  | .setText e text => b.setText e text
  | .foreground => do pure (focusedPackage? (← b.shell ["dumpsys", "window"]))
  | .screenSize => b.screenSize
  | .tap p => b.tap p
  | .swipe start finish duration =>
    b.input (["input", "swipe"] ++ [start.x, start.y, finish.x, finish.y].map (toString ·.toInt) ++
      [toString duration])
  | .back => b.press "KEYCODE_BACK"
  | .home => b.press "KEYCODE_HOME"
  | .recents => b.press "KEYCODE_APP_SWITCH"
  | .launch package => during s!"launching {package}"
    (b.input ["monkey", "-p", package, "-c", "android.intent.category.LAUNCHER", "1"])
  | .forceStop package => during s!"force-stopping {package}"
    (b.input ["am", "force-stop", package])
  | .screenshot path => do
    let _ ← during s!"capturing screenshot to {path}" (b.shell ["screencap", "-p", path])
  | .detect => b.detect

end Bridge

end CheckIn.Phone
