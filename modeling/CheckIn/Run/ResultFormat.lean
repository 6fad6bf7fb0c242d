import CheckIn.Json.Basic
import CheckIn.Run.Ledger

/-! The JSON form of run results. -/

namespace CheckIn.Run

def momentJson : Option Calendar.Moment → Json
  | some m => .ofString m.print
  | none => .null

/-- A report. Errors and warnings are left out where there are none. -/
def Report.json (r : Report) : Json :=
  let maybe := fun (name : String) (value : Option String) =>
    (value.map fun s => (name, Json.ofString s)).toList
  .ofMembers ([("id", .ofInt r.id.toNat), ("name", .ofString r.name),
    ("status", .ofString r.status.name)] ++
    maybe "error" r.error ++ maybe "failed_step" r.failedStep ++
    (if r.warnings.isEmpty then [] else [("warnings", .array (r.warnings.map .ofString))]) ++
    [("steps_executed", .ofInt r.stepsExecuted), ("started_at", momentJson r.startedAt),
     ("finished_at", momentJson r.finishedAt)])

def RunResult.json (r : RunResult) : Json :=
  .ofMembers [("outcome", .ofString r.outcome.name), ("total", .ofInt r.total),
    ("succeeded", .ofInt r.succeeded), ("failed", .ofInt r.failed), ("stopped", .ofInt r.stopped),
    ("elapsed_ms", .ofInt r.elapsed), ("tasks", .array (r.reports.map Report.json))]

end CheckIn.Run
