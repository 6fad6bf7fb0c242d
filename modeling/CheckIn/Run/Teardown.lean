import CheckIn.Run.Steps

/-! Leaving an app: its card among the recent apps is swiped away and the host app is brought back.
None of this fails a task; what goes wrong becomes a warning. Lookups go on even if the run has
been stopped. -/

namespace CheckIn.Run

/-- How apps are left. -/
structure Teardown where
  lookup : Lookup
  settings : Lifecycle

namespace Teardown

/-- How long a card is swiped. -/
def cardSwipe : Nat := 300

/-- Whether the task's app is to be launched before its steps. -/
def wantsLaunch (t : Teardown) (task : Task) : Bool :=
  t.settings.autoLaunch && !task.startsWithLaunch

/-- Calls the phone; a failure says what was being done. -/
def callFor (what : String) (c : Phone.Call) : Attempt c.Reply := do
  match ← Part.call c with
  | .ok reply => pure reply
  | .error failure => throw (.appLifecycle s!"{what}: {failure.chain}")

/-- Opens the recent apps and looks for the card that says `label`. -/
def findCard (t : Teardown) (label missing : String) : Attempt Screen.Element := do
  callFor "opening recent apps" .recents
  Part.sleep t.settings.recentsSettle
  match ← t.lookup.resolve (.descContains label) t.settings.cardTimeout false with
  | some card => pure card
  | none => throw (.appLifecycle missing)

/-- Swipes the card of the task's app to the top of the screen. -/
def dismiss (t : Teardown) (task : Task) : Attempt Unit := do
  let card ← t.findCard task.label s!"no recent-apps card matching '{task.label}'"
  if card.bounds.isEmpty then
    throw (.appLifecycle s!"recent-apps card for '{task.label}' has empty bounds")
  Part.checked card.bounds.SumsFit
  let center := card.center
  callFor "swiping card" (.swipe center ⟨center.x, 0⟩ cardSwipe)
  Part.sleep t.settings.recentsSettle

/-- Whether an app is known to be in the foreground. -/
def foregroundIs (package : String) : Part Bool := do
  match ← Part.call .foreground with
  | .ok current => pure (current == some package)
  | .error _ => pure false

/-- Checks whether the host app is in the foreground, and up to `left` more times after that. -/
def confirm (t : Teardown) : (left : Nat) → (attempt : Nat) → Attempt Unit
  | 0, _ =>
    let checks := t.settings.returnRetries
    throw (.appLifecycle
      s!"host app {t.settings.hostPackage} not in foreground after {checks} checks")
  | left + 1, attempt => do
    if ← Part.isStopped then
      throw (.appLifecycle "stop requested before host app was confirmed")
    if ← foregroundIs t.settings.hostPackage then
      Part.log .info "autosign::exec::lifecycle" "returned to host app"
        [("host", .text t.settings.hostPackage), ("attempt", .shown (toString attempt))]
    else
      if left > 0 then Part.sleep t.settings.returnInterval
      confirm t left (attempt + 1)

/-- Brings the host app to the foreground, unless it is there, and makes sure that it is. -/
def returnToHost (t : Teardown) : Attempt Unit := do
  if ← foregroundIs t.settings.hostPackage then pure ()
  else
    let label := t.settings.hostLabel
    let card ← t.findCard label s!"no recent-apps card for host '{label}'"
    Part.checked card.bounds.SumsFit
    callFor "tapping host card" (.tap card.center)
    t.confirm t.settings.returnRetries.toNat 1

/-- Presses home, and gives the warning if that fails. -/
def pressHome : Part (List StepError) := do
  match ← Part.call .home with
  | .ok _ => pure []
  | .error failure => pure [.appLifecycle s!"home fallback failed: {failure.chain}"]

/-- Swipes the card away. If that fails, home is pressed instead. -/
def dismissOrHome (t : Teardown) (task : Task) : Part (List StepError) := do
  match ← (t.dismiss task).run with
  | .ok _ => pure []
  | .error e =>
    Part.log .warn "autosign::exec::lifecycle" "dismiss via recents failed; pressing home"
      [("task", .shown task.name), ("error", .shown e.message)]
    let more ← pressHome
    Part.sleep t.settings.recentsSettle
    pure (e :: more)

/-- Leaves the task's app, and gives what went wrong. -/
def run (t : Teardown) (task : Task) : Part (List StepError) := do
  if !t.settings.enabled then pure []
  else
    let dismissal ← t.dismissOrHome task
    let warnings ← match ← t.returnToHost.run with
      | .ok _ => pure dismissal
      | .error e => pure (dismissal ++ [e])
    warnings.forM fun w => Part.say .warn s!"[{task.name}] {w.message}"
    pure warnings

end Teardown

end CheckIn.Run
