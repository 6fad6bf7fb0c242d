import CheckIn.Failure
import CheckIn.Phone.Call

/-! A scripted phone: it shows what it has been told to show and records the gestures made on it.
Elements may appear later and may vanish once they have been clicked often enough. -/

namespace CheckIn.Phone

/-- An element on the screen of a scripted phone. -/
structure Showing where
  element : Screen.Element
  /-- When it appears. -/
  since : Nat
  /-- How many more clicks it bears, if clicks make it vanish. -/
  clicksLeft : Option UInt32

structure Scripted where
  showings : List Showing
  detections : List Screen.Detection
  /-- Areas that bring an app to the foreground when they are tapped. -/
  tapTargets : List (Screen.Rect × String)
  foreground : Option String
  screenSize : Screen.Size
  /-- The gestures made so far. -/
  gestures : List Call
  /-- How many queries of the layout, and of recognition, have come in. -/
  queries : Nat
  detects : Nat
  refusesForceStop : Bool
  failsQueries : Bool
  queryLatency : Nat
  detectLatency : Nat

namespace Scripted

/-- A phone with an empty screen. -/
def blank : Scripted where
  showings := []
  detections := []
  tapTargets := []
  foreground := none
  screenSize := ⟨1080, 2400⟩
  gestures := []
  queries := 0
  detects := 0
  refusesForceStop := false
  failsQueries := false
  queryLatency := 0
  detectLatency := 0

/-- Adds an element to the screen, after those that are on it. -/
def place (p : Scripted) (showing : Showing) : Scripted :=
  { p with showings := p.showings ++ [showing] }

def addTapTarget (p : Scripted) (area : Screen.Rect) (package : String) : Scripted :=
  { p with tapTargets := p.tapTargets ++ [(area, package)] }

def record (p : Scripted) (gesture : Call) : Scripted :=
  { p with gestures := p.gestures ++ [gesture] }

/-- The elements on the screen at a time. -/
def visible (p : Scripted) (now : Nat) : List Screen.Element :=
  (p.showings.filter (·.since ≤ now)).map (·.element)

/-- One click less for an element that is visible and hit. -/
def countClick (now : Nat) (hit : Screen.Element → Bool) (s : Showing) : Showing :=
  if s.since ≤ now && hit s.element then
    { s with clicksLeft := s.clicksLeft.map fun left => left - min left 1 }
  else s

/-- Counts a click on the elements that it hits. Those that bear no more clicks vanish. -/
def click (p : Scripted) (now : Nat) (hit : Screen.Element → Bool) : Scripted :=
  { p with showings := (p.showings.map (countClick now hit)).filter (·.clicksLeft != some 0) }

/-- Changes the text of an element wherever it is shown. -/
def retext (e : Screen.Element) (text : String) (s : Showing) : Showing :=
  if s.element = e then { s with element.text := text } else s

/-- The phone when a call comes in, before it takes the time for it. -/
def receive (p : Scripted) : Call → Scripted
  | .findAll _ => { p with queries := p.queries + 1 }
  | .detect => { p with detects := p.detects + 1 }
  | _ => p

/-- How long the phone takes for a call. -/
def latency (p : Scripted) : Call → Nat
  | .findAll _ => p.queryLatency
  | .detect => p.detectLatency
  | _ => 0

/-- The answer to a call at a time, and the phone after it. -/
def answer (p : Scripted) (now : Nat) : (c : Call) → Except Failure c.Reply × Scripted
  | .findAll selector =>
    if p.failsQueries then (.error (.of "hierarchy dump failed"), p)
    else (.ok ((p.visible now).filter selector.holds), p)
  | .click e => (.ok (), (p.record (.click e)).click now (· == e))
  | .setText e text =>
    (.ok (), { p.record (.setText e text) with showings := p.showings.map (retext e text) })
  | .foreground => (.ok p.foreground, p)
  | .screenSize => (.ok p.screenSize, p)
  | .tap point =>
    let opened := (p.tapTargets.find? (·.1.contains point)).map (·.2)
    let p := { p.record (.tap point) with foreground := opened <|> p.foreground }
    (.ok (), p.click now (·.bounds.contains point))
  | .swipe start finish duration => (.ok (), p.record (.swipe start finish duration))
  | .back => (.ok (), p.record .back)
  | .home => (.ok (), { p.record .home with foreground := none })
  | .recents => (.ok (), p.record .recents)
  | .launch package => (.ok (), { p.record (.launch package) with foreground := some package })
  | .forceStop package =>
    let p := p.record (.forceStop package)
    if p.refusesForceStop then (.error (.of s!"force-stop of {package} refused"), p)
    else if p.foreground = some package then (.ok (), { p with foreground := none })
    else (.ok (), p)
  | .screenshot path => (.ok (), p.record (.screenshot path))
  | .detect => (.ok p.detections, p)

end Scripted

end CheckIn.Phone
