import CheckIn.Task.Basic

/-! Steps as written and what they are compiled to. A verb needs some fields and takes others, and
the rest play no part: `Satisfies` says what a step has to have for its verb, `Gives` what action it
comes to then, with the defaults for what it leaves out, and `Lacks` why it comes to none. A step
that comes to none changes nothing but itself. -/

namespace CheckIn

/-! ### Texts without quotes -/

namespace Text

/-- The text is the one shown with double quotes before and behind it, as many as there are. -/
structure Unquoted (text shown : String) : Prop where
  between : ∃ m n,
    text.toList = List.replicate m '"' ++ shown.toList ++ List.replicate n '"'
  starts : shown.toList.head? ≠ some '"'
  ends : shown.toList.getLast? ≠ some '"'

theorem exists_replicate_dropWhile (c : Char) (cs : List Char) :
    ∃ n, cs = List.replicate n c ++ cs.dropWhile (· == c) := by
  refine ⟨(cs.takeWhile (· == c)).length, ?_⟩
  have hall : ∀ d ∈ cs.takeWhile (· == c), d = c := by
    intro d hd
    have hall := List.all_eq_true.mp List.all_takeWhile d hd
    exact beq_iff_eq.mp hall
  rw [← List.eq_replicate_of_mem hall, List.takeWhile_append_dropWhile]

theorem exists_dropEndWhile_replicate (c : Char) (cs : List Char) :
    ∃ n, cs = dropEndWhile (· == c) cs ++ List.replicate n c := by
  obtain ⟨n, hn⟩ := exists_replicate_dropWhile c cs.reverse
  refine ⟨n, List.reverse_inj.mp ?_⟩
  rw [List.reverse_append, List.reverse_replicate, dropEndWhile, List.reverse_reverse]
  exact hn

theorem head?_dropWhile_ne (c : Char) (cs : List Char) :
    (cs.dropWhile (· == c)).head? ≠ some c := by
  intro h
  have hnot := List.head?_dropWhile_not (· == c) cs
  rw [h] at hnot
  simp at hnot

theorem unquoted_unquote (text : String) : Unquoted text (unquote text) := by
  let rest := text.toList.dropWhile (· == '"')
  have hshown : (unquote text).toList = dropEndWhile (· == '"') rest := String.toList_ofList
  obtain ⟨m, hm⟩ := exists_replicate_dropWhile '"' text.toList
  obtain ⟨n, hn⟩ := exists_dropEndWhile_replicate '"' rest
  refine ⟨⟨m, n, ?_⟩, ?_, ?_⟩
  · rw [hshown, List.append_assoc, ← hn]
    exact hm
  · intro hhead
    rw [hshown] at hhead
    refine head?_dropWhile_ne '"' text.toList ?_
    show rest.head? = _
    rw [hn, List.head?_append, hhead]
    rfl
  · rw [hshown, dropEndWhile, List.getLast?_reverse]
    exact head?_dropWhile_ne '"' rest.reverse

end Text

/-! ### Verbs and fields -/

/-- The fields of a step that its verb may read. -/
inductive StepField where
  | selector
  | timeout
  | duration
  | start
  | finish
  | count
  | text
  | retries
  | path
  | dwell
  deriving DecidableEq

/-- How the field is written. -/
def StepField.name : StepField → String
  | selector => "selector"
  | timeout => "timeout"
  | duration => "duration"
  | start => "start"
  | finish => "end"
  | count => "count"
  | text => "text"
  | retries => "retries"
  | path => "path"
  | dwell => "dwell"

namespace Verb

/-- The fields that a verb needs, in the order in which they are checked. -/
def needs : Verb → List StepField
  | click | waitClick | waitExists | clickLoop => [.selector]
  | input => [.selector, .text]
  | clickImage => [.text]
  | swipe => [.start, .finish]
  | sleep => [.duration]
  | launch | swipeUp | swipeDown | back | home | screenshot => []

/-- The fields that a verb reads and can do without. -/
def options : Verb → List StepField
  | launch | click | waitClick | waitExists | input => [.timeout]
  | clickImage => [.retries, .timeout]
  | swipe => [.duration]
  | swipeUp | swipeDown => [.count, .duration]
  | screenshot => [.path]
  | clickLoop => [.dwell]
  | back | home | sleep => []

def fields (verb : Verb) : List StepField := verb.needs ++ verb.options

theorem find?_name (verb : Verb) : all.find? (·.name == verb.name) = some verb := by
  cases verb <;> rfl

theorem ofName?_eq_some {word : String} {verb : Verb} :
    ofName? word = some verb ↔ Text.trim word = verb.name := by
  constructor
  · intro h
    have hname := List.find?_some (show all.find? _ = some verb from h)
    exact (beq_iff_eq.mp hname).symm
  · intro h
    rw [ofName?, h]
    exact find?_name verb

end Verb

namespace RawStep

def has (step : RawStep) : StepField → Bool
  | .selector => step.selector.isSome
  | .timeout => step.timeout.isSome
  | .duration => step.duration.isSome
  | .start => step.start.isSome
  | .finish => step.finish.isSome
  | .count => step.count.isSome
  | .text => step.text.isSome
  | .retries => step.retries.isSome
  | .path => step.path.isSome
  | .dwell => step.dwell.isSome

/-- Two steps have the same in a field. -/
def AgreesOn (step other : RawStep) : StepField → Prop
  | .selector => step.selector = other.selector
  | .timeout => step.timeout = other.timeout
  | .duration => step.duration = other.duration
  | .start => step.start = other.start
  | .finish => step.finish = other.finish
  | .count => step.count = other.count
  | .text => step.text = other.text
  | .retries => step.retries = other.retries
  | .path => step.path = other.path
  | .dwell => step.dwell = other.dwell

variable [Pattern.Library]

/-- The step names the verb and has what it needs. -/
structure Satisfies (step : RawStep) (verb : Verb) : Prop where
  named : Text.trim step.action = verb.name
  has : ∀ field ∈ verb.needs, step.has field = true
  parses : .selector ∈ verb.needs →
    ∃ source selector, step.selector = some source ∧ Selector.parse source = .ok selector
  counts : .count ∈ verb.options → step.count ≠ some 0

/-- What actions a step gives. What it says goes before what stands for what it leaves out. -/
inductive Gives (step : RawStep) (defaults : StepDefaults) : Action → Prop
  | launch : Gives step defaults (.launch (step.timeout.getD defaults.launchTimeout))
  | click {source : String} {selector : Selector} :
      step.selector = some source → Selector.parse source = .ok selector →
      Gives step defaults (.click selector (step.timeout.getD defaults.timeout))
  | waitClick {source : String} {selector : Selector} :
      step.selector = some source → Selector.parse source = .ok selector →
      Gives step defaults (.waitClick selector (step.timeout.getD defaults.timeout))
  | waitExists {source : String} {selector : Selector} :
      step.selector = some source → Selector.parse source = .ok selector →
      Gives step defaults (.waitExists selector (step.timeout.getD defaults.timeout))
  | clickImage {text shown : String} :
      step.text = some text → Text.Unquoted text shown →
      Gives step defaults (.clickImage shown (step.retries.getD defaults.retries) step.timeout)
  | swipe {x y x' y' : Int32} :
      step.start = some (x, y) → step.finish = some (x', y') →
      Gives step defaults (.swipe ⟨x, y⟩ ⟨x', y'⟩ (step.duration.getD 300))
  | swipeUp : Gives step defaults (.swipeUp (step.count.getD 1) (step.duration.getD 500))
  | swipeDown : Gives step defaults (.swipeDown (step.count.getD 1) (step.duration.getD 500))
  | back : Gives step defaults .back
  | home : Gives step defaults .home
  | sleep {duration : Nat} :
      step.duration = some duration → Gives step defaults (.sleep duration)
  | input {source text : String} {selector : Selector} :
      step.selector = some source → Selector.parse source = .ok selector → step.text = some text →
      Gives step defaults (.input selector text (step.timeout.getD defaults.timeout))
  | screenshot :
      Gives step defaults (.screenshot (step.path.getD defaults.screenshotTemplate))
  | clickLoop {source : String} {selector : Selector} :
      step.selector = some source → Selector.parse source = .ok selector →
      Gives step defaults (.clickLoop selector (step.dwell.getD 6000))

/-- What a step lacks that gives no action. -/
inductive Lacks (step : RawStep) : StepFault → Prop
  | verb :
      (∀ verb : Verb, Text.trim step.action ≠ verb.name) →
      Lacks step (.unknownVerb (Text.trim step.action))
  | field {verb : Verb} {field : StepField} :
      Text.trim step.action = verb.name → field ∈ verb.needs → step.has field = false →
      Lacks step (.missing verb field.name)
  | selector {verb : Verb} {source : String} {e : SelectorError} :
      Text.trim step.action = verb.name → .selector ∈ verb.needs → step.selector = some source →
      Selector.parse source = .error e → Lacks step (.selector verb source e)
  | count {verb : Verb} :
      Text.trim step.action = verb.name → .count ∈ verb.options → step.count = some 0 →
      Lacks step (.noCount verb)

variable {step other : RawStep} {defaults : StepDefaults}

/-- A step that lacks something satisfies no verb. -/
theorem Lacks.not_satisfies {fault : StepFault} (h : step.Lacks fault) (verb : Verb) :
    ¬step.Satisfies verb := by
  intro hsatisfies
  -- A text names one verb, so whatever the fault says is said of `verb`.
  have hsame {verb' : Verb} (hnamed : Text.trim step.action = verb'.name) : verb' = verb := by
    have heq := Verb.ofName?_eq_some.mpr hnamed
    rw [Verb.ofName?_eq_some.mpr hsatisfies.named] at heq
    exact (Option.some.inj heq).symm
  cases h with
  | verb hnone => exact hnone verb hsatisfies.named
  | field hnamed hneeds hlacks =>
    obtain rfl := hsame hnamed
    have hhas := hsatisfies.has _ hneeds
    rw [hlacks] at hhas
    cases hhas
  | selector hnamed hneeds hsource herror =>
    obtain rfl := hsame hnamed
    obtain ⟨source', selector, hsource', hparse⟩ := hsatisfies.parses hneeds
    obtain rfl := Option.some.inj (hsource.symm.trans hsource')
    cases herror.symm.trans hparse
  | count hnamed hoption hzero =>
    obtain rfl := hsame hnamed
    exact hsatisfies.counts hoption hzero

/-! ### Compiling

One spec lemma for each check that compiling makes: the check passes and what follows it has what
was checked, or the step lacks it. -/

/-- What a step with the verb may come to. -/
inductive Outcome (step : RawStep) (defaults : StepDefaults) (verb : Verb) :
    Except StepFault Action → Prop
  | gives {action : Action} :
      step.Satisfies verb → action.verb = verb → step.Gives defaults action →
      Outcome step defaults verb (.ok action)
  | lacks {fault : StepFault} : step.Lacks fault → Outcome step defaults verb (.error fault)

section Checks

variable {verb : Verb} (hnamed : Text.trim step.action = verb.name)

include hnamed

theorem Outcome.need (field : StepField) {α : Type} {value : Option α}
    {next : α → Except StepFault Action} (hneeds : field ∈ verb.needs)
    (hhas : step.has field = value.isSome)
    (hnext : ∀ x, value = some x → step.Outcome defaults verb (next x)) :
    step.Outcome defaults verb (RawStep.need verb field.name value >>= next) := by
  cases value with
  | none => exact .lacks (.field hnamed hneeds hhas)
  | some x => exact hnext x rfl

theorem Outcome.needSelector {next : Selector → Except StepFault Action}
    (hneeds : .selector ∈ verb.needs)
    (hnext : ∀ source selector, step.selector = some source →
      Selector.parse source = .ok selector → step.Outcome defaults verb (next selector)) :
    step.Outcome defaults verb (step.needSelector verb >>= next) := by
  rw [RawStep.needSelector, bind_assoc]
  refine Outcome.need hnamed .selector hneeds rfl fun source hsource => ?_
  cases hparse : Selector.parse source with
  | ok selector => exact hnext source selector hsource hparse
  | error e => exact .lacks (.selector hnamed hneeds hsource hparse)

theorem Outcome.swipeCount {next : UInt32 → Except StepFault Action}
    (hoption : .count ∈ verb.options)
    (hnext : step.count ≠ some 0 → step.Outcome defaults verb (next (step.count.getD 1))) :
    step.Outcome defaults verb (step.swipeCount verb >>= next) := by
  rw [RawStep.swipeCount]
  split
  · next hzero =>
    -- A count that is left out is one, so a zero was written.
    have hcount : step.count = some 0 := by
      cases h : step.count with
      | none => rw [h] at hzero; cases hzero
      | some count => rw [h] at hzero; exact congrArg some hzero
    exact .lacks (.count hnamed hoption hcount)
  · next hpos =>
    refine hnext fun hzero => hpos ?_
    rw [hzero]
    rfl

theorem Satisfies.of_parse {source : String} {selector : Selector}
    (hsource : step.selector = some source) (hparse : Selector.parse source = .ok selector)
    (hhas : ∀ field ∈ verb.needs, step.has field = true) (hcount : .count ∉ verb.options) :
    step.Satisfies verb :=
  ⟨hnamed, hhas, fun _ => ⟨source, selector, hsource, hparse⟩, (absurd · hcount)⟩

theorem Satisfies.of_has (hhas : ∀ field ∈ verb.needs, step.has field = true)
    (hselector : .selector ∉ verb.needs) (hcount : .count ∉ verb.options) :
    step.Satisfies verb :=
  ⟨hnamed, hhas, (absurd · hselector), (absurd · hcount)⟩

theorem Satisfies.of_needs_nil (hneeds : verb.needs = [])
    (hcount : .count ∈ verb.options → step.count ≠ some 0) : step.Satisfies verb :=
  ⟨hnamed, by simp [hneeds], by simp [hneeds], hcount⟩

/-- A verb that needs the selector and nothing else. -/
theorem Outcome.of_selector {act : Selector → Action} (hneeds : verb.needs = [.selector])
    (hcount : .count ∉ verb.options) (hverb : ∀ selector, (act selector).verb = verb)
    (hgives : ∀ source selector, step.selector = some source →
      Selector.parse source = .ok selector → step.Gives defaults (act selector)) :
    step.Outcome defaults verb (do return act (← step.needSelector verb)) := by
  have hmem : .selector ∈ verb.needs := by simp [hneeds]
  refine Outcome.needSelector hnamed hmem fun source selector hsource hparse => ?_
  have hhas : ∀ field ∈ verb.needs, step.has field = true := by simp [hneeds, has, hsource]
  exact .gives (.of_parse hnamed hsource hparse hhas hcount) (hverb selector)
    (hgives source selector hsource hparse)

end Checks

/-- One case for each verb. The facts that the checks give say what the step has. -/
theorem actionOf_outcome {verb : Verb} (hnamed : Text.trim step.action = verb.name) :
    step.Outcome defaults verb (step.actionOf defaults verb) := by
  cases verb with
  | launch => exact .gives (.of_needs_nil hnamed rfl (by simp [Verb.options])) rfl .launch
  | click =>
    exact .of_selector hnamed rfl (by decide) (fun _ => rfl) fun _ _ hsource hparse =>
      .click hsource hparse
  | waitClick =>
    exact .of_selector hnamed rfl (by decide) (fun _ => rfl) fun _ _ hsource hparse =>
      .waitClick hsource hparse
  | waitExists =>
    exact .of_selector hnamed rfl (by decide) (fun _ => rfl) fun _ _ hsource hparse =>
      .waitExists hsource hparse
  | clickImage =>
    refine .need hnamed .text (by decide) rfl fun text htext => ?_
    have hhas : ∀ field ∈ Verb.clickImage.needs, step.has field = true := by
      simp [Verb.needs, has, htext]
    exact .gives (.of_has hnamed hhas (by decide) (by decide)) rfl
      (.clickImage htext (Text.unquoted_unquote text))
  | swipe =>
    refine .need hnamed .start (by decide) rfl fun start hstart => ?_
    refine .need hnamed .finish (by decide) rfl fun finish hfinish => ?_
    have hhas : ∀ field ∈ Verb.swipe.needs, step.has field = true := by
      simp [Verb.needs, has, hstart, hfinish]
    exact .gives (.of_has hnamed hhas (by decide) (by decide)) rfl (.swipe hstart hfinish)
  | swipeUp =>
    refine .swipeCount hnamed (by decide) fun hcount => ?_
    exact .gives (.of_needs_nil hnamed rfl fun _ => hcount) rfl .swipeUp
  | swipeDown =>
    refine .swipeCount hnamed (by decide) fun hcount => ?_
    exact .gives (.of_needs_nil hnamed rfl fun _ => hcount) rfl .swipeDown
  | back => exact .gives (.of_needs_nil hnamed rfl (by simp [Verb.options])) rfl .back
  | home => exact .gives (.of_needs_nil hnamed rfl (by simp [Verb.options])) rfl .home
  | sleep =>
    refine .need hnamed .duration (by decide) rfl fun duration hduration => ?_
    have hhas : ∀ field ∈ Verb.sleep.needs, step.has field = true := by
      simp [Verb.needs, has, hduration]
    exact .gives (.of_has hnamed hhas (by decide) (by decide)) rfl (.sleep hduration)
  | input =>
    refine .needSelector hnamed (by decide) fun source selector hsource hparse => ?_
    refine .need hnamed .text (by decide) rfl fun text htext => ?_
    have hhas : ∀ field ∈ Verb.input.needs, step.has field = true := by
      simp [Verb.needs, has, hsource, htext]
    exact .gives (.of_parse hnamed hsource hparse hhas (by decide)) rfl
      (.input hsource hparse htext)
  | screenshot => exact .gives (.of_needs_nil hnamed rfl (by simp [Verb.options])) rfl .screenshot
  | clickLoop =>
    exact .of_selector hnamed rfl (by decide) (fun _ => rfl) fun _ _ hsource hparse =>
      .clickLoop hsource hparse

/-- What compiling a step under the defaults comes to. -/
structure Compiles (step : RawStep) (defaults : StepDefaults)
    (result : Except StepFault Action) : Prop where
  succeeds : (∃ action, result = .ok action) ↔ ∃ verb, step.Satisfies verb
  gives : ∀ action, result = .ok action →
    step.Satisfies action.verb ∧ step.Gives defaults action
  lacks : ∀ fault, result = .error fault → step.Lacks fault

theorem Compiles.of_lacks {fault : StepFault} (h : step.Lacks fault) :
    step.Compiles defaults (.error fault) where
  succeeds := by
    constructor
    · rintro ⟨action, haction⟩
      cases haction
    · rintro ⟨verb, hsatisfies⟩
      exact absurd hsatisfies (h.not_satisfies verb)
  gives := nofun
  lacks := fun _ hfault => Except.error.inj hfault ▸ h

theorem compile_compiles (step : RawStep) (defaults : StepDefaults) :
    step.Compiles defaults (step.compile defaults) := by
  rw [compile]
  split
  · next verb hverb =>
    generalize hresult : step.actionOf defaults verb = result
    cases hresult ▸ actionOf_outcome (Verb.ofName?_eq_some.mp hverb) with
    | lacks hlacks => exact .of_lacks hlacks
    | @gives action hsatisfies hname hgives =>
      refine ⟨⟨fun _ => ⟨verb, hsatisfies⟩, fun _ => ⟨action, rfl⟩⟩, ?_, nofun⟩
      rintro _ ⟨⟩
      exact ⟨hname ▸ hsatisfies, hgives⟩
  · next hnone =>
    refine .of_lacks (.verb fun verb hnamed => ?_)
    rw [Verb.ofName?_eq_some.mpr hnamed] at hnone
    cases hnone

/-! ### What a verb does not read -/

/-- The steps have the same action, and the same in the fields of the verb that it names. -/
structure SameFor (step other : RawStep) : Prop where
  action : step.action = other.action
  fields : ∀ verb : Verb, Text.trim step.action = verb.name →
    ∀ field ∈ verb.fields, step.AgreesOn other field

theorem actionOf_congr {verb : Verb} (h : ∀ field ∈ verb.fields, step.AgreesOn other field) :
    step.actionOf defaults verb = other.actionOf defaults verb := by
  -- The equations for the fields of a verb rewrite all that its case reads.
  cases verb <;> simp [Verb.fields, Verb.needs, Verb.options, AgreesOn] at h <;>
    simp [actionOf, needSelector, swipeCount, h]

theorem SameFor.compile_eq (h : step.SameFor other) :
    step.compile defaults = other.compile defaults := by
  rw [compile, compile, ← h.action]
  split
  · next verb hverb => exact actionOf_congr (h.fields verb (Verb.ofName?_eq_some.mp hverb))
  · rfl

end RawStep

/-! ### Tasks and files -/

/-- What the fields stand for that steps of a task leave out. -/
def StepDefaults.ofEntry (entry : TaskEntry) (settings : Settings) : StepDefaults :=
  ⟨entry.defaultTimeout.getD settings.defaultTimeout, settings.launchTimeout, settings.retries,
    settings.screenshotTemplate⟩

section Tasks

variable [Pattern.Library]

/-- The task has the steps of its entry, each compiled by itself, and tells of the faulty ones. -/
structure Task.Compiled (task : Task) (entry : TaskEntry) (settings : Settings) : Prop where
  length : task.steps.length = entry.steps.length
  each : ∀ (i : Nat) (raw : RawStep), entry.steps[i]? = some raw →
    ∃ step : Step, task.steps[i]? = some step ∧ step.verb = raw.action ∧
      step.action = raw.compile (.ofEntry entry settings)
  reported : ∀ i step fault, (i, step, fault) ∈ task.faultySteps ↔
    task.steps[i]? = some step ∧ step.action = .error fault

theorem Task.mem_faultySteps {task : Task} {i : Nat} {step : Step} {fault : StepFault} :
    (i, step, fault) ∈ task.faultySteps ↔
      task.steps[i]? = some step ∧ step.action = .error fault := by
  rw [faultySteps, List.mem_filterMap]
  constructor
  · rintro ⟨⟨found, place⟩, hmem, heq⟩
    dsimp only at heq
    split at heq
    · cases heq
    · next hfault =>
      cases heq
      exact ⟨List.mk_mem_zipIdx_iff_getElem?.mp hmem, hfault⟩
  · rintro ⟨hstep, hfault⟩
    exact ⟨(step, i), List.mk_mem_zipIdx_iff_getElem?.mpr hstep, by simp [hfault]⟩

theorem Task.compiled_ofEntry (entry : TaskEntry) (settings : Settings) :
    (Task.ofEntry entry settings).Compiled entry settings where
  length := List.length_map _
  each := fun i raw hraw => by
    refine ⟨.ofRaw raw (.ofEntry entry settings), ?_, rfl, rfl⟩
    show (entry.steps.map _)[i]? = _
    rw [List.getElem?_map, hraw]
    rfl
  reported := fun _ _ _ => mem_faultySteps

end Tasks

namespace TaskFile

/-- The file with no steps in its tasks. -/
def withoutSteps (file : TaskFile) : TaskFile :=
  { file with tasks := file.tasks.map fun entry => { entry with steps := [] } }

theorem taskFault?_withoutSteps (seen : List UInt32) (entries : List TaskEntry) :
    taskFault? seen (entries.map fun entry => { entry with steps := [] }) =
      taskFault? seen entries := by
  induction entries generalizing seen with
  | nil => rfl
  | cons entry entries ih => simp only [List.map_cons, taskFault?, ih]

theorem fault?_withoutSteps (file : TaskFile) : file.withoutSteps.fault? = file.fault? := by
  rw [fault?, fault?, withoutSteps, taskFault?_withoutSteps]

end TaskFile

/-- A step is compiled by what its verb needs and takes and by nothing else, be it other fields or
other steps. However faulty its steps are, a file is accepted as it would be without them, and its
tasks have them all. -/
theorem steps_compile_alone [Pattern.Library] (file : TaskFile) (step : RawStep)
    (defaults : StepDefaults) :
    step.Compiles defaults (step.compile defaults) ∧
    (∀ other, step.SameFor other → other.compile defaults = step.compile defaults) ∧
    file.withoutSteps.fault? = file.fault? ∧
    ∀ (i : Nat) (entry : TaskEntry), file.tasks[i]? = some entry →
      ∃ task : Task, (TaskSet.ofFile file).tasks[i]? = some task ∧
        task.Compiled entry file.settings := by
  refine ⟨step.compile_compiles defaults, fun other h => h.compile_eq.symm,
    file.fault?_withoutSteps, fun i entry hentry => ?_⟩
  refine ⟨Task.ofEntry entry file.settings, ?_, Task.compiled_ofEntry entry file.settings⟩
  show (file.tasks.map _)[i]? = _
  rw [List.getElem?_map, hentry]
  rfl

/-- A picture is clicked whatever else its step says, and a step without the selector that it needs
before that is told of, where the file is accepted. -/
theorem steps_compile_alone_picture :
    let waits := RawStep.ofAction "wait_click"
    let clicks := { RawStep.ofAction " click_image " with text := some "\"Go\"" }
    let cluttered := { clicks with selector := some "(", count := some 0, dwell := some 0 }
    let entry : TaskEntry := ⟨1, "A", "a", none, true, none, none, none, [waits, cluttered]⟩
    let file : TaskFile := ⟨.standard, .standard, .standard, [entry]⟩
    let defaults := StepDefaults.ofEntry entry file.settings
    clicks.SameFor cluttered ∧ cluttered.compile defaults = clicks.compile defaults ∧
    clicks.compile defaults = .ok (.clickImage "Go" 3 none) ∧
    file.tasks[0]? = some entry ∧ ∃ task : Task, (TaskSet.ofFile file).tasks[0]? = some task ∧
      (0, .ofRaw waits defaults, .missing .waitClick "selector") ∈ task.faultySteps := by
  intro waits clicks cluttered entry file defaults
  have hverb : Verb.ofName? clicks.action = some .clickImage := by decide
  have hshown : Text.unquote "\"Go\"" = "Go" := by decide
  have hclicks : clicks.compile defaults = .ok (.clickImage "Go" 3 none) := by
    rw [RawStep.compile, hverb]
    exact congrArg (fun shown => Except.ok (Action.clickImage shown 3 none)) hshown
  have hwaits : waits.compile defaults = .error (.missing .waitClick "selector") := by
    rw [RawStep.compile, show Verb.ofName? waits.action = some .waitClick by decide]
    rfl
  have hsame : clicks.SameFor cluttered := by
    refine ⟨rfl, fun verb hnamed field hfield => ?_⟩
    obtain rfl := Option.some.inj ((Verb.ofName?_eq_some.mpr hnamed).symm.trans hverb)
    simp only [Verb.fields, Verb.needs, Verb.options, List.cons_append, List.nil_append,
      List.mem_cons, List.not_mem_nil, or_false] at hfield
    rcases hfield with rfl | rfl | rfl <;> rfl
  obtain ⟨_, halone, _, htasks⟩ := steps_compile_alone file clicks defaults
  obtain ⟨task, htask, hcompiled⟩ := htasks 0 entry rfl
  refine ⟨hsame, halone cluttered hsame, hclicks, rfl, task, htask, ?_⟩
  cases htask
  exact (hcompiled.reported 0 _ _).mpr ⟨rfl, hwaits⟩

end CheckIn
