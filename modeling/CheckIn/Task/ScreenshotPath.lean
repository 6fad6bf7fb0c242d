import CheckIn.Calendar.Moment
import CheckIn.Text.Parts
import CheckIn.Unicode.Class

/-! Paths of screenshots, from templates in which `{task}`, `{id}` and `{timestamp}` stand for the
task's name, its id and the time. -/

namespace CheckIn

/-- A name as part of a path: letters, numbers and hyphens stay. -/
def pathName (name : String) : List Char :=
  name.toList.map fun c => if Unicode.isAlphanumeric c || c == '-' then c else '_'

/-- Fills in the name, then the id, then the time. -/
def screenshotPath (template name : String) (id : UInt32) (now : Calendar.LocalTime) : String :=
  let fill := fun (marker : String) (value cs : List Char) => Text.replace marker.toList value 0 cs
  String.ofList (fill "\x7btimestamp\x7d" now.stamp.toList
    (fill "\x7bid\x7d" (toString id).toList
      (fill "\x7btask\x7d" (pathName name) template.toList)))

end CheckIn
