import CheckIn.Selector.Basic

/-! What can be asked of a phone, and the answer to each request. -/

namespace CheckIn.Phone

inductive Call where
  /-- The elements on the screen for which a selector holds, in layout order. -/
  | findAll (selector : Selector)
  /-- The element's own click. -/
  | click (element : Screen.Element)
  | setText (element : Screen.Element) (text : String)
  /-- The package of the app in the foreground, if it is known. -/
  | foreground
  | screenSize
  | tap (point : Screen.Point)
  | swipe (start finish : Screen.Point) (duration : Nat)
  | back
  | home
  | recents
  | launch (package : String)
  | forceStop (package : String)
  | screenshot (path : String)
  /-- The texts that recognition finds on the screen. -/
  | detect

/-- The answer to a call that succeeds. -/
abbrev Call.Reply : Call → Type
  | findAll _ => List Screen.Element
  | foreground => Option String
  | screenSize => Screen.Size
  | detect => List Screen.Detection
  | click _ | setText _ _ | tap _ | swipe _ _ _ | back | home | recents | launch _ | forceStop _
  | screenshot _ => Unit

end CheckIn.Phone
