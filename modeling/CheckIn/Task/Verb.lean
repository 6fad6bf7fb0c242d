import CheckIn.Text.Blank

/-! The verbs that steps are written with. -/

namespace CheckIn

inductive Verb where
  | launch
  | click
  | waitClick
  | waitExists
  | clickImage
  | swipe
  | swipeUp
  | swipeDown
  | back
  | home
  | sleep
  | input
  | screenshot
  | clickLoop
  deriving DecidableEq, Repr

namespace Verb

def all : List Verb :=
  [launch, click, waitClick, waitExists, clickImage, swipe, swipeUp, swipeDown, back, home, sleep,
   input, screenshot, clickLoop]

def name : Verb → String
  | launch => "launch"
  | click => "click"
  | waitClick => "wait_click"
  | waitExists => "wait_exists"
  | clickImage => "click_image"
  | swipe => "swipe"
  | swipeUp => "swipe_up"
  | swipeDown => "swipe_down"
  | back => "back"
  | home => "home"
  | sleep => "sleep"
  | input => "input"
  | screenshot => "screenshot"
  | clickLoop => "click_loop"

/-- The verb that a word names, blanks around it apart. -/
def ofName? (word : String) : Option Verb := all.find? (·.name == Text.trim word)

end Verb

end CheckIn
