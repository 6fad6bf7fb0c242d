import CheckIn.Task.Basic
import Mathlib.Data.List.Nodup

/-! Selecting tasks, after some have been disabled. No two tasks of an accepted file have one id, so
disabling a task reaches that task and no other. What is left of a file after any calls is then told
by the set of their ids alone (`disableAll_tasks`), and what is selected follows. -/

namespace CheckIn

/-! ### Ids -/

namespace TaskFile

theorem taskFault?_ids {seen : List UInt32} {entries : List TaskEntry}
    (h : taskFault? seen entries = none) :
    (entries.map (·.id)).Nodup ∧ ∀ entry ∈ entries, entry.id ∉ seen := by
  induction entries generalizing seen with
  | nil => exact ⟨.nil, fun _ hentry => absurd hentry List.not_mem_nil⟩
  | cons entry entries ih =>
    have hchecks : entry.id ∉ seen ∧ taskFault? (entry.id :: seen) entries = none := by
      unfold taskFault? at h
      grind
    obtain ⟨hnodup, hfresh⟩ := ih hchecks.2
    have hnew : entry.id ∉ entries.map (·.id) := by
      rintro hmem
      obtain ⟨other, hother, heq⟩ := List.mem_map.mp hmem
      exact hfresh other hother (heq ▸ List.mem_cons_self ..)
    refine ⟨List.nodup_cons.mpr ⟨hnew, hnodup⟩, List.forall_mem_cons.mpr ⟨hchecks.1, ?_⟩⟩
    exact fun other hother hmem => hfresh other hother (List.mem_cons_of_mem _ hmem)

/-- No two tasks of an accepted file have one id. -/
theorem ids_nodup {file : TaskFile} (h : file.fault? = none) : (file.tasks.map (·.id)).Nodup := by
  have hchecks : taskFault? [] file.tasks = none := by
    unfold fault? at h
    grind
  exact (taskFault?_ids hchecks).1

end TaskFile

section Tasks

variable [Pattern.Library]

/-- The task, disabled if its id is one of these. -/
def Task.skipping (ids : List UInt32) (task : Task) : Task :=
  { task with enabled := task.enabled && !ids.contains task.id }

namespace TaskSet

variable {set : TaskSet} {tasks : List Task} {task : Task} {id : UInt32} {ids : List UInt32}

/-- The tasks after calls that disable some, one after the other. -/
def disableAll (set : TaskSet) (ids : List UInt32) : TaskSet :=
  ids.foldl (fun set id => (set.disable id).2) set

/-! ### Disabling -/

theorem skipping_eq_self (h : task.id ∉ ids) : task.skipping ids = task := by
  simp [Task.skipping, h]

theorem skipping_cons (task : Task) (id : UInt32) (ids : List UInt32) :
    (task.skipping [id]).skipping ids = task.skipping (id :: ids) := by
  simp [Task.skipping, Bool.and_assoc]

theorem map_skipping_eq_self (h : ∀ task ∈ tasks, task.id ∉ ids) :
    tasks.map (·.skipping ids) = tasks :=
  (List.map_congr_left fun task htask => skipping_eq_self (h task htask)).trans (List.map_id' tasks)

theorem disableIn_of_not_mem (h : ∀ task ∈ tasks, task.id ≠ id) : disableIn id tasks = tasks := by
  induction tasks with
  | nil => rfl
  | cons task tasks ih =>
    obtain ⟨hne, hrest⟩ := List.forall_mem_cons.mp h
    rw [disableIn, if_neg (by simpa using hne), ih hrest]

/-- The first task of the id is disabled. -/
theorem disableIn_append {before after : List Task} (h : ∀ task ∈ before, task.id ≠ id)
    (htask : task.id = id) : disableIn id (before ++ task :: after) =
      before ++ { task with enabled := false } :: after := by
  induction before with
  | nil => simp [disableIn, htask]
  | cons first before ih =>
    obtain ⟨hne, hrest⟩ := List.forall_mem_cons.mp h
    rw [List.cons_append, disableIn, if_neg (by simpa using hne), ih hrest]
    rfl

/-- Where no two tasks have one id, there is none but the first. -/
theorem disableIn_eq_map (h : (tasks.map (·.id)).Nodup) :
    disableIn id tasks = tasks.map (·.skipping [id]) := by
  induction tasks with
  | nil => rfl
  | cons task tasks ih =>
    obtain ⟨hnew, hrest⟩ := List.nodup_cons.mp h
    rw [disableIn, List.map_cons]
    by_cases htask : task.id = id
    · have hothers : ∀ other ∈ tasks, other.id ∉ [id] := fun other hother heq =>
        hnew (List.mem_map.mpr ⟨other, hother, (List.mem_singleton.mp heq).trans htask.symm⟩)
      rw [if_pos (by simpa using htask), map_skipping_eq_self hothers]
      simp [Task.skipping, htask]
    · rw [if_neg (by simpa using htask), ih hrest, skipping_eq_self (by simpa using htask)]

theorem map_id_skipping (tasks : List Task) (ids : List UInt32) :
    (tasks.map (·.skipping ids)).map (·.id) = tasks.map (·.id) := by
  rw [List.map_map]
  rfl

/-- After any calls each task is disabled if its id was in one of them, and else as it was. -/
theorem disableAll_tasks (h : (set.tasks.map (·.id)).Nodup) (ids : List UInt32) :
    (set.disableAll ids).tasks = set.tasks.map (·.skipping ids) := by
  induction ids generalizing set with
  | nil => exact (map_skipping_eq_self fun _ _ => List.not_mem_nil).symm
  | cons id ids ih =>
    have hfirst : (set.disable id).2.tasks = set.tasks.map (·.skipping [id]) := disableIn_eq_map h
    have hrest : ((set.disable id).2.disableAll ids).tasks =
        (set.disable id).2.tasks.map (·.skipping ids) := ih (by rwa [hfirst, map_id_skipping])
    show ((set.disable id).2.disableAll ids).tasks = _
    rw [hrest, hfirst, List.map_map]
    exact List.map_congr_left fun task _ => skipping_cons task id ids

/-- The tasks that stay enabled are as they were. -/
theorem filter_skipping (tasks : List Task) (ids : List UInt32) :
    (tasks.map (·.skipping ids)).filter (·.enabled) =
      tasks.filter fun task => task.enabled && !ids.contains task.id := by
  rw [List.filter_map]
  refine (List.map_congr_left fun task htask => ?_).trans (List.map_id' _)
  have henabled : (task.enabled && !ids.contains task.id) = true := (List.mem_filter.mp htask).2
  exact skipping_eq_self (by simp_all)

/-- What a call that disables the task of an id does. -/
structure DisablesOne (set : TaskSet) (id : UInt32) : Prop where
  answer_iff : (set.disable id).1 = true ↔ ∃ task ∈ set.tasks, task.id = id
  unknown : (∀ task ∈ set.tasks, task.id ≠ id) → (set.disable id).2 = set
  single : ∀ task ∈ set.tasks, task.id = id → ∃ before after,
    set.tasks = before ++ task :: after ∧ (∀ other ∈ before ++ after, other.id ≠ id) ∧
      (set.disable id).2.tasks = before ++ { task with enabled := false } :: after

theorem disable_disables (h : (set.tasks.map (·.id)).Nodup) (id : UInt32) :
    set.DisablesOne id where
  answer_iff := by simp [disable, get?]
  unknown := fun hnone => congrArg mk (disableIn_of_not_mem hnone)
  single := by
    rintro task htask rfl
    obtain ⟨before, after, htasks⟩ := List.append_of_mem htask
    have hothers : ∀ other ∈ before ++ after, other.id ≠ task.id := by
      rw [htasks, List.map_append, List.map_cons, List.nodup_middle, List.nodup_cons,
        ← List.map_append] at h
      exact fun other hother heq => h.1 (List.mem_map.mpr ⟨other, hother, heq⟩)
    refine ⟨before, after, htasks, hothers, ?_⟩
    show disableIn task.id set.tasks = _
    rw [htasks]
    exact disableIn_append (fun other hother => hothers other (List.mem_append_left _ hother)) rfl

/-! ### Selecting -/

/-- Where no two tasks have one id, the first of an id is the only one. -/
theorem get?_eq_some (h : (set.tasks.map (·.id)).Nodup) :
    set.get? id = some task ↔ task ∈ set.tasks ∧ task.id = id := by
  constructor
  · intro hget
    exact ⟨List.mem_of_find?_eq_some hget, by simpa using List.find?_some hget⟩
  · rintro ⟨htask, rfl⟩
    obtain ⟨found, hfound⟩ := Option.isSome_iff_exists.mp
      (List.find?_isSome (p := (·.id == task.id)).mpr ⟨task, htask, beq_self_eq_true _⟩)
    have hid : found.id = task.id := by simpa using List.find?_some hfound
    rwa [List.inj_on_of_nodup_map h (List.mem_of_find?_eq_some hfound) htask hid] at hfound

theorem get?_eq_none : set.get? id = none ↔ ∀ task ∈ set.tasks, task.id ≠ id := by
  simp [get?]

theorem select_eq (set : TaskSet) (id : UInt32) : set.select id =
    match set.get? id with
    | none => .error (.notFound id)
    | some task => if task.steps = [] then .error (.noSteps task.id task.name) else .ok task := by
  unfold select checkRunnable
  cases set.get? id with
  | none => rfl
  | some task => cases hsteps : task.steps <;> simp [hsteps, bind, Except.bind, pure, Except.pure]

/-- The enabled tasks are selected unless one of them has no steps. The first such is named. -/
theorem selectEnabled_eq (set : TaskSet) : set.selectEnabled =
    match set.enabled.find? (·.steps.isEmpty) with
    | some task => .error (.noSteps task.id task.name)
    | none => .ok set.enabled := by
  have hcheck (tasks : List Task) : tasks.forM checkRunnable =
      match tasks.find? (·.steps.isEmpty) with
      | some task => .error (.noSteps task.id task.name)
      | none => .ok () := by
    induction tasks with
    | nil => rfl
    | cons task tasks ih =>
      rw [show (task :: tasks).forM checkRunnable =
        (checkRunnable task >>= fun _ => tasks.forM checkRunnable) from rfl, ih, checkRunnable]
      cases hsteps : task.steps.isEmpty <;> simp [hsteps, bind, Except.bind]
  rw [selectEnabled, hcheck]
  cases set.enabled.find? (·.steps.isEmpty) <;> rfl

/-- What selecting the task of an id comes to. -/
structure SelectsOne (set : TaskSet) (id : UInt32) : Prop where
  ok_iff : ∀ task, set.select id = .ok task ↔ task ∈ set.tasks ∧ task.id = id ∧ task.steps ≠ []
  notFound_iff : ∀ other, set.select id = .error (.notFound other) ↔
    other = id ∧ ∀ task ∈ set.tasks, task.id ≠ id
  noSteps_iff : ∀ other name, set.select id = .error (.noSteps other name) ↔
    other = id ∧ ∃ task ∈ set.tasks, task.id = id ∧ task.name = name ∧ task.steps = []

theorem select_selects (h : (set.tasks.map (·.id)).Nodup) (id : UInt32) : set.SelectsOne id := by
  have hnone : set.get? id = none ↔ ∀ task ∈ set.tasks, task.id ≠ id := get?_eq_none
  cases hget : set.get? id with
  | none =>
    have hselect : set.select id = .error (.notFound id) := by rw [select_eq, hget]
    have hunknown := hnone.mp hget
    constructor <;> grind
  | some task =>
    obtain ⟨htask, hid⟩ := (get?_eq_some h).mp hget
    have hunique : ∀ other ∈ set.tasks, other.id = id → other = task := fun other hother heq =>
      List.inj_on_of_nodup_map h hother htask (heq.trans hid.symm)
    have hselect := select_eq set id
    rw [hget] at hselect
    constructor <;> grind

/-- What selecting all enabled tasks comes to. -/
structure SelectsEnabled (set : TaskSet) : Prop where
  ok_iff : ∀ tasks, set.selectEnabled = .ok tasks ↔
    tasks = set.enabled ∧ ∀ task ∈ set.enabled, task.steps ≠ []
  error_iff : ∀ e, set.selectEnabled = .error e ↔ ∃ before task after,
    set.enabled = before ++ task :: after ∧ (∀ earlier ∈ before, earlier.steps ≠ []) ∧
      task.steps = [] ∧ e = .noSteps task.id task.name

theorem selectEnabled_selects (set : TaskSet) : set.SelectsEnabled where
  ok_iff := fun tasks => by
    have hnone : set.enabled.find? (·.steps.isEmpty) = none ↔
        ∀ task ∈ set.enabled, task.steps ≠ [] := by simp
    rw [← hnone, selectEnabled_eq]
    cases set.enabled.find? (·.steps.isEmpty) <;> simp [eq_comm]
  error_iff := fun e => by
    have hfirst : set.selectEnabled = .error e ↔ ∃ task,
        set.enabled.find? (·.steps.isEmpty) = some task ∧ e = .noSteps task.id task.name := by
      rw [selectEnabled_eq]
      cases set.enabled.find? (·.steps.isEmpty) <;> simp [eq_comm]
    rw [hfirst]
    simp only [List.find?_eq_some_iff_append]
    constructor
    · rintro ⟨task, ⟨hempty, before, after, henabled, hbefore⟩, he⟩
      exact ⟨before, task, after, henabled, by simpa using hbefore, by simpa using hempty, he⟩
    · rintro ⟨before, task, after, henabled, hbefore, hempty, he⟩
      exact ⟨task, ⟨by simpa using hempty, before, after, henabled, by simpa using hbefore⟩, he⟩

/-! ### Accepted files -/

/-- The tasks of a file after those with these ids were disabled, and what can be done with them. -/
structure Leaves (file : TaskFile) (ids : List UInt32) (set : TaskSet) : Prop where
  tasks_eq : set.tasks =
    file.tasks.map fun entry => (Task.ofEntry entry file.settings).skipping ids
  /-- No two have one id. -/
  id_inj : ∀ task ∈ set.tasks, ∀ other ∈ set.tasks, task.id = other.id → task = other
  enabled_eq : set.enabled =
    (file.tasks.filter fun entry => entry.enabled && !ids.contains entry.id).map
      (Task.ofEntry · file.settings)
  disables : ∀ id, set.DisablesOne id
  selects : ∀ id, set.SelectsOne id
  selectsEnabled : set.SelectsEnabled

/-- Of an accepted file, whatever ids are disabled and however often, those tasks stay enabled that
were enabled in it and whose ids are not among them. They are selected together if all have steps,
and any task that has steps can be selected alone. Which calls there were matters, and neither their
order nor their repetition does. -/
theorem disableAll_leaves (file : TaskFile) (h : file.fault? = none) (ids : List UInt32) :
    Leaves file ids ((ofFile file).disableAll ids) ∧
      ∀ ids', (∀ id, id ∈ ids' ↔ id ∈ ids) →
        (ofFile file).disableAll ids' = (ofFile file).disableAll ids := by
  have hnodup : ((ofFile file).tasks.map (·.id)).Nodup := by
    have hids : (ofFile file).tasks.map (·.id) = file.tasks.map (·.id) := by
      simp [ofFile, Function.comp_def, Task.ofEntry]
    exact hids ▸ TaskFile.ids_nodup h
  have htasks (ids : List UInt32) := disableAll_tasks hnodup ids
  have hleft : (((ofFile file).disableAll ids).tasks.map (·.id)).Nodup := by
    rwa [htasks, map_id_skipping]
  refine ⟨⟨?_, ?_, ?_, disable_disables hleft, select_selects hleft, selectEnabled_selects _⟩, ?_⟩
  · rw [htasks]
    exact List.map_map ..
  · exact fun task htask other hother heq => List.inj_on_of_nodup_map hleft htask hother heq
  · rw [enabled, htasks, filter_skipping]
    exact List.filter_map ..
  · intro ids' hsame
    have hskipping : (Task.skipping ids') = Task.skipping ids := by
      funext task
      simp [Task.skipping, hsame]
    refine congrArg mk (((htasks ids').trans ?_).trans (htasks ids).symm)
    rw [hskipping]

end TaskSet

end Tasks

/-- The first of two tasks is disabled twice, beside one that is not there, and can still be
selected. The second is enabled and has no steps. -/
theorem TaskSet.disableAll_leaves_daily :
    let daily : TaskEntry := ⟨1, "Daily", "a", none, true, none, none, none, [.ofAction "back"]⟩
    let weekly : TaskEntry := ⟨2, "Weekly", "b", none, true, none, none, none, []⟩
    let file : TaskFile := ⟨.standard, .standard, .standard, [daily, weekly]⟩
    let set := (ofFile file).disableAll [1, 7, 1]
    file.fault? = none ∧ set.enabled = [Task.ofEntry weekly file.settings] ∧
      set.selectEnabled = .error (.noSteps 2 "Weekly") ∧
      (∃ task, set.select 1 = .ok task ∧ task.enabled = false) ∧
      set.select 7 = .error (.notFound 7) ∧ (ofFile file).disableAll [7, 1] = set := by
  intro daily weekly file set
  have hvalid : file.fault? = none := by decide
  obtain ⟨hleaves, hsame⟩ := disableAll_leaves file hvalid [1, 7, 1]
  have henabled : set.enabled = [Task.ofEntry weekly file.settings] := hleaves.enabled_eq
  refine ⟨hvalid, henabled, (hleaves.selectsEnabled.error_iff _).mpr ?_, ?_, ?_, ?_⟩
  · exact ⟨[], Task.ofEntry weekly file.settings, [], henabled, nofun, rfl, rfl⟩
  · refine ⟨(Task.ofEntry daily file.settings).skipping [1, 7, 1],
      ((hleaves.selects 1).ok_iff _).mpr ⟨?_, rfl, nofun⟩, rfl⟩
    rw [hleaves.tasks_eq]
    exact List.mem_cons_self ..
  · refine ((hleaves.selects 7).notFound_iff 7).mpr ⟨rfl, ?_⟩
    rw [hleaves.tasks_eq]
    decide
  · exact hsame [7, 1] (by grind)

end CheckIn
