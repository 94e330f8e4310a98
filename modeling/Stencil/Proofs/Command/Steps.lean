import Stencil.Command.Machine

/-! # Steps of commands

Most steps of a command only read. Rendering has two halves: the first one reads the settings, the
template and the payload and makes the report of them, and the second one has the report converted
and writes what comes of it. The other commands read to their end.

Main statements: `makeReport_run`, `writeReport_run`, `prepare_eq_ok`.
-/

namespace Stencil

open Command

/-- A step that leaves the tree as it is. -/
def Reads {α : Type} (step : StateM FileTree α) : Prop :=
  ∀ tree, (step tree).2 = tree

namespace Reads

variable {α β : Type}

theorem pure (value : α) : Reads (pure value) := fun _ => rfl

theorem bind {first : StateM FileTree α} {next : α → StateM FileTree β} (reads : Reads first)
    (later : ∀ value, Reads (next value)) : Reads (first >>= next) := by
  intro tree
  change (next (first tree).1 (first tree).2).2 = tree
  rw [later, reads]

end Reads

section Runs

variable {ε α β γ : Type} {first : ExceptT ε (StateM FileTree) α} {tree : FileTree}

/-- The rest of a run, if there is something to go on with. -/
def resume (next : α → StateM FileTree (Except ε β)) (tree : FileTree) :
    Except ε α → Except ε β × FileTree
  | .ok value => next value tree
  | .error error => (.error error, tree)

theorem run_bind_tree (first : ExceptT ε (StateM FileTree) α)
    (next : α → ExceptT ε (StateM FileTree) β) (tree : FileTree) :
    (first >>= next).run tree =
      resume (fun value => (next value).run) (first.run tree).2 (first.run tree).1 := by
  change (let ran := first.run tree; ExceptT.bindCont next ran.1 ran.2) = _
  rcases first.run tree with ⟨result, after⟩
  cases result with
  | error error => rfl
  | ok value => rfl

theorem run_lift_bind (step : StateM FileTree α) (next : α → ExceptT ε (StateM FileTree) β)
    (tree : FileTree) :
    ((liftM step : ExceptT ε (StateM FileTree) α) >>= next).run tree =
      (next (step tree).1).run (step tree).2 := rfl

/-- A step that reads and cannot fail does not show in a run. -/
theorem run_lift_of_reads {step : StateM FileTree α} (reads : Reads step)
    (next : α → ExceptT ε (StateM FileTree) β) (tree : FileTree) :
    ((liftM step : ExceptT ε (StateM FileTree) α) >>= next).run tree =
      (next (step tree).1).run tree := by
  rw [run_lift_bind, reads]

/-- A step that only reads can be taken before a run. -/
theorem run_bind_of_reads (reads : Reads first.run)
    {next : α → ExceptT ε (StateM FileTree) γ} {later : α → Except ε β}
    {last : β → StateM FileTree (Except ε γ)}
    (same : ∀ value, (next value).run tree = resume last tree (later value)) :
    (first >>= next).run tree = resume last tree ((first.run tree).1 >>= later) := by
  rw [run_bind_tree, reads]
  cases (first.run tree).1 with
  | error error => rfl
  | ok value => exact same value

end Runs

/-- What is told of a report that is written under a path. -/
def Command.WrittenReport.of (settings : OutputSettings) (path : String) (report : Report) :
    WrittenReport where
  path := path
  link := settings.link? ((Path.fileName? path).getD "")
  format := settings.format
  report := report
  milliseconds := 0

namespace Machine

variable (machine : Machine)

/-- The path that a report is written under. -/
def reportPath (settings : OutputSettings) (output : Option String) : String :=
  output.getD (Path.inside settings.folder (machine.freshName ++ "." ++ settings.format.extension))

/-- The first half of rendering: the settings and the report. -/
def prepare (arguments : RenderArguments) (config : Option String) (tree : FileTree) :
    Except CommandFailure (Settings × Report) := do
  let settings ← (prepareSettings machine.host config arguments.choice tree).1.mapError
    fun error => causedBy (.settings error)
  checkClient settings.fetch
  let template ← (readTemplate machine.host arguments.template tree).1
  let text ← (readPayload machine.host arguments.data tree).1
  let payload ← payloadOf text
  let document ← documentOf template
  let report ← (render document payload settings.render (machine.fetcher settings.fetch)).mapError
    fun error => causedBy (.report error)
  return (settings, report)

/-- The second half of rendering: the report is converted and written. -/
def deliver (settings : Settings) (output : Option String) (report : Report) :
    StateM FileTree (Except CommandFailure WrittenReport) := fun tree =>
  let (converted, worked) :=
    machine.convert settings.convert report.bytes settings.output.format tree
  match converted with
  | .error error => (.error (causedBy (.conversion error)), worked)
  | .ok bytes =>
    let path := machine.reportPath settings.output output
    let (written, after) := writeReport machine.host path bytes worked
    (written.map fun _ => .of settings.output path report, after)

theorem prepareSettings_reads (config : Option String) (choice : SettingsChoice) :
    Reads (prepareSettings machine.host config choice) := by
  refine .bind ?_ fun _ => .pure _
  cases config with
  | none => exact .pure _
  | some path => exact .bind (fun _ => rfl) fun _ => .pure _

theorem readTemplate_reads (path : String) : Reads (readTemplate machine.host path) :=
  .bind (fun _ => rfl) fun _ => .pure _

theorem readPayload_reads (data : String) : Reads (readPayload machine.host data) := by
  unfold readPayload
  split
  · exact .bind (.pure _) fun _ => .pure _
  · exact .bind (fun _ => rfl) fun _ => .pure _

theorem reportPath_eq (settings : OutputSettings) (output : Option String) :
    Command.reportPath machine.host settings output =
      pure (machine.reportPath settings output) := by
  cases output with
  | none => rfl
  | some path => rfl

/-- Rendering changes no file before the report is made. -/
theorem makeReport_run (arguments : RenderArguments) (config : Option String) (tree : FileTree) :
    (makeReport machine.host arguments config).run tree =
      resume (fun (settings, report) => machine.deliver settings arguments.output report) tree
        (machine.prepare arguments config tree) := by
  unfold makeReport prepare
  refine (run_lift_of_reads (machine.prepareSettings_reads _ _) _ tree).trans ?_
  refine run_bind_of_reads (.pure _) fun settings => ?_
  refine run_bind_of_reads (.pure _) fun _ => ?_
  refine run_bind_of_reads (machine.readTemplate_reads _) fun template => ?_
  refine run_bind_of_reads (machine.readPayload_reads _) fun text => ?_
  refine run_bind_of_reads (.pure _) fun payload => ?_
  refine run_bind_of_reads (.pure _) fun document => ?_
  refine (run_lift_of_reads (.pure _) _ tree).trans ?_
  refine (run_lift_of_reads (.pure _) _ tree).trans ?_
  refine run_bind_of_reads (.pure _) fun report => ?_
  refine (run_lift_of_reads (.pure _) _ tree).trans ?_
  -- What is left is the second half.
  change _ = machine.deliver settings arguments.output report tree
  unfold deliver
  refine (run_lift_bind (machine.convert settings.convert report.bytes settings.output.format) _
    tree).trans ?_
  rcases machine.convert settings.convert report.bytes settings.output.format tree with
    ⟨converted, worked⟩
  cases converted with
  | error error => rfl
  | ok bytes =>
      refine (run_bind_tree _ _ worked).trans ?_
      rw [reportPath_eq]
      refine (run_lift_of_reads (.pure _) _ worked).trans ?_
      generalize machine.reportPath settings.output arguments.output = path
      refine (run_bind_tree _ _ worked).trans ?_
      dsimp only [ExceptT.run_mk, pure, StateT.pure]
      rcases writeReport machine.host path bytes worked with ⟨written, after⟩
      cases written with
      | error failure => rfl
      | ok _ => rfl

theorem host_createFolders (path : String) :
    machine.host.createFolders path = change fun tree => tree.createFolders path := rfl

theorem host_saveFile (path : String) (bytes : ByteArray) :
    machine.host.saveFile path bytes = change fun tree => tree.write path bytes := rfl

/-- The folders on the way to a report are made. -/
def makeWay (path : String) : StateM FileTree (Except String Unit) :=
  if (Path.folder path).isEmpty then pure (.ok ())
  else machine.host.createFolders (Path.folder path)

theorem writeReport_run (path : String) (bytes : ByteArray) (tree : FileTree) :
    writeReport machine.host path bytes tree =
      match machine.makeWay path tree with
      | (.error detail, way) =>
        (.error (failing ("Failed to create " ++ Path.folder path) detail), way)
      | (.ok (), way) =>
        let (saved, after) := machine.host.saveFile path bytes way
        (saved.mapError (failing ("Failed to write report " ++ path)), after) := by
  unfold writeReport makeWay
  by_cases here : (Path.folder path).isEmpty = true
  · simp only [here, reduceIte]
    rfl
  · simp only [here, Bool.false_eq_true, reduceIte]
    change StateT.bind (machine.host.createFolders (Path.folder path)) _ tree = _
    unfold StateT.bind
    rcases machine.host.createFolders (Path.folder path) tree with ⟨created, way⟩
    cases created with
    | error detail => rfl
    | ok _ => rfl

theorem change_cases (step : FileTree → Except FileError FileTree) (tree : FileTree) :
    (∃ after, step tree = .ok after ∧ change step tree = (.ok (), after)) ∨
      ∃ error, step tree = .error error ∧ change step tree = (.error error.message, tree) := by
  unfold change
  cases step tree with
  | ok after => exact .inl ⟨after, rfl, rfl⟩
  | error error => exact .inr ⟨error, rfl, rfl⟩

theorem runRender_run (options : CommonOptions) (arguments : RenderArguments)
    (tree : FileTree) :
    runRender machine.host options arguments tree =
      match (makeReport machine.host arguments options.config).run tree with
      | (.error failure, after) => ({ failure := some failure }, after)
      | (.ok written, after) =>
        ({ output := if arguments.json then jsonLines written.toJson else written.lines },
          after) := by
  unfold runRender
  change StateT.bind (makeReport machine.host arguments options.config).run _ tree = _
  unfold StateT.bind
  rcases (makeReport machine.host arguments options.config).run tree with ⟨result, after⟩
  cases result with
  | error failure => rfl
  | ok written => rfl

theorem runInspect_reads (arguments : InspectArguments) :
    Reads (runInspect machine.host arguments) := by
  refine .bind (machine.readTemplate_reads _) fun template => ?_
  cases template with
  | error failure => exact .pure _
  | ok template =>
      dsimp only
      split
      · exact .pure _
      · exact .pure _

theorem runCheckConfig_reads (options : CommonOptions) (probe : Bool) :
    Reads (runCheckConfig machine.host options probe) := by
  refine .bind (machine.prepareSettings_reads _ _) fun prepared => ?_
  cases prepared with
  | error error => exact .pure _
  | ok settings =>
      dsimp only
      split
      · exact .pure _
      · refine .bind (fun _ => rfl) fun available => ?_
        split
        · exact .pure _
        · exact .pure _

/-- Rendering is the only command that may leave another tree. -/
theorem run_cases (arguments : List String) (tree : FileTree) :
    ((machine.run arguments tree).2 = tree ∧ ∀ options rendering,
        Invocation.read machine.environment arguments ≠ .run options (.render rendering)) ∨
      ∃ options rendering,
        Invocation.read machine.environment arguments = .run options (.render rendering) ∧
        machine.run arguments tree =
          ((runRender machine.host options rendering tree).1.toProgram,
            (runRender machine.host options rendering tree).2) := by
  have same : machine.host.environment = machine.environment := rfl
  unfold Machine.run runProgram
  rw [same]
  cases Invocation.read machine.environment arguments with
  | «show» text => exact .inl ⟨rfl, fun _ _ asked => nomatch asked⟩
  | refuse error => exact .inl ⟨rfl, fun _ _ asked => nomatch asked⟩
  | run options invocation =>
      cases invocation with
      | inspect arguments =>
          exact .inl ⟨machine.runInspect_reads arguments tree, fun _ _ asked => nomatch asked⟩
      | checkConfig probe =>
          exact .inl
            ⟨machine.runCheckConfig_reads options probe tree, fun _ _ asked => nomatch asked⟩
      | render rendering => exact .inr ⟨options, rendering, rfl, rfl⟩

end Machine

theorem bind_eq_ok {ε α β : Type} {first : Except ε α} {next : α → Except ε β} {value : β} :
    first >>= next = .ok value ↔ ∃ middle, first = .ok middle ∧ next middle = .ok value := by
  cases first with
  | error error => exact ⟨nofun, nofun⟩
  | ok middle => simp [bind, Except.bind]

theorem mapError_eq_ok {ε ε' α : Type} {result : Except ε α} {told : ε → ε'} {value : α} :
    result.mapError told = .ok value ↔ result = .ok value := by
  cases result with
  | error error => exact ⟨nofun, nofun⟩
  | ok _ =>
      constructor
      · rintro ⟨⟩
        rfl
      · rintro ⟨⟩
        rfl

namespace Machine

variable (machine : Machine)

/-- The bytes of a payload, from standard input or from a file. -/
def payloadBytes (data : String) (tree : FileTree) : Except FileError ByteArray :=
  if data = "-" then .ok machine.input else tree.read data

/-- The settings of a rendering and its report, made from what the machine has to read. -/
structure Prepares (arguments : RenderArguments) (config : Option String) (tree : FileTree)
    (settings : Settings) (report : Report) : Prop where
  chosen : ∃ loaded, (loadSettings machine.host config tree).1 = .ok loaded ∧
    settings = loaded.withChoice arguments.choice
  usable : settings.defect? = none
  client : isHeaderText settings.fetch.userAgent = true
  rendered : ∃ template document content text payload,
    tree.read arguments.template = .ok template ∧ Document.read template = .ok document ∧
      machine.payloadBytes arguments.data tree = .ok content ∧
      String.fromUTF8? content = some text ∧ Payload.read text.toList = .ok payload ∧
      render document payload settings.render (machine.fetcher settings.fetch) = .ok report

section Preparing

variable {machine : Machine} {arguments : RenderArguments} {config : Option String}
  {tree : FileTree} {settings : Settings} {report : Report}

theorem prepareSettings_eq_ok {choice : SettingsChoice} :
    (prepareSettings machine.host config choice tree).1 = .ok settings ↔
      (∃ loaded, (loadSettings machine.host config tree).1 = .ok loaded ∧
        settings = loaded.withChoice choice) ∧ settings.defect? = none := by
  have run : (prepareSettings machine.host config choice tree).1 =
      (loadSettings machine.host config tree).1 >>= fun loaded =>
        (loaded.withChoice choice).validate >>= fun _ => .ok (loaded.withChoice choice) := rfl
  have valid (settings : Settings) : settings.validate = .ok () ↔ settings.defect? = none := by
    unfold Settings.validate
    cases settings.defect? <;> simp
  simp only [run, bind_eq_ok, valid, Except.ok.injEq]
  constructor
  · rintro ⟨loaded, read, _, usable, rfl⟩
    exact ⟨⟨loaded, read, rfl⟩, usable⟩
  · rintro ⟨⟨loaded, read, rfl⟩, usable⟩
    exact ⟨loaded, read, (), usable, rfl⟩

theorem checkClient_eq_ok {settings : FetchSettings} :
    checkClient settings = .ok () ↔ isHeaderText settings.userAgent = true := by
  unfold checkClient
  split
  · next named => exact iff_of_true rfl named
  · next unnamed => exact iff_of_false nofun unnamed

theorem readTemplate_eq_ok {path : String} {bytes : ByteArray} :
    (readTemplate machine.host path tree).1 = .ok bytes ↔ tree.read path = .ok bytes :=
  mapError_eq_ok.trans mapError_eq_ok

theorem decodeText_eq_ok {bytes : ByteArray} {text : String} :
    decodeText bytes = .ok text ↔ String.fromUTF8? bytes = some text := by
  unfold decodeText
  cases String.fromUTF8? bytes <;> simp

theorem readPayload_eq_ok {data text : String} :
    (readPayload machine.host data tree).1 = .ok text ↔
      ∃ content, machine.payloadBytes data tree = .ok content ∧
        String.fromUTF8? content = some text := by
  unfold readPayload payloadBytes
  split
  · change Except.mapError _ (Except.ok machine.input >>= decodeText) = _ ↔ _
    simp only [mapError_eq_ok, bind_eq_ok, decodeText_eq_ok, Except.ok.injEq]
  · change Except.mapError _ ((tree.read data).mapError _ >>= decodeText) = _ ↔ _
    simp only [mapError_eq_ok, bind_eq_ok, decodeText_eq_ok]

theorem prepare_eq_ok : machine.prepare arguments config tree = .ok (settings, report) ↔
    machine.Prepares arguments config tree settings report := by
  simp only [prepare, payloadOf, documentOf, bind_eq_ok, mapError_eq_ok, prepareSettings_eq_ok,
    readTemplate_eq_ok, readPayload_eq_ok]
  constructor
  · rintro ⟨_, ⟨chosen, usable⟩, _, client, template, read, text, ⟨content, given, decoded⟩,
      payload, understood, document, opened, _, rendered, made⟩
    obtain ⟨rfl, rfl⟩ := Prod.mk.inj (Except.ok.inj made)
    exact ⟨chosen, usable, checkClient_eq_ok.mp client, template, document, content, text, payload,
      read, opened, given, decoded, understood, rendered⟩
  · rintro ⟨chosen, usable, client, template, document, content, text, payload, read, opened, given,
      decoded, understood, rendered⟩
    exact ⟨settings, ⟨chosen, usable⟩, (), checkClient_eq_ok.mpr client, template, read, text,
      ⟨content, given, decoded⟩, payload, understood, document, opened, report, rendered, rfl⟩

theorem writeReport_of_placeToWrite {path : String} {bytes : ByteArray}
    {tree way : FileTree} {place : Place} (made : machine.makeWay path tree = (.ok (), way))
    (free : way.placeToWrite path = .ok place)
    (plain : ∀ device, way.node? place ≠ some (.device device)) :
    writeReport machine.host path bytes tree = (.ok (), way.writeAt place bytes) := by
  -- no device is there, so that the bytes are kept
  have written : way.write path bytes = .ok (way.writeAt place bytes) := by
    simp only [FileTree.write, free]
  simp only [writeReport_run, made, host_saveFile, change, written]
  rfl

/-- A rendering without a failing step ends well. -/
theorem run_of_prepares {arguments : List String}
    {tree worked after : FileTree} {options : CommonOptions} {rendering : RenderArguments}
    {settings : Settings} {report : Report} {bytes : ByteArray}
    (asked : Invocation.read machine.environment arguments = .run options (.render rendering))
    (prepared : machine.Prepares rendering options.config tree settings report)
    (converted : machine.convert settings.convert report.bytes settings.output.format tree =
      (.ok bytes, worked))
    (written : writeReport machine.host (machine.reportPath settings.output rendering.output) bytes
      worked = (.ok (), after)) :
    ∃ result, machine.run arguments tree = (result, after) ∧ result.exitCode = 0 := by
  have made : (makeReport machine.host rendering options.config).run tree =
      (.ok (.of settings.output (machine.reportPath settings.output rendering.output) report),
        after) := by
    rw [makeReport_run, prepare_eq_ok.mpr prepared]
    change machine.deliver settings rendering.output report tree = _
    simp only [deliver, converted, written]
    rfl
  rcases machine.run_cases arguments tree with ⟨-, other⟩ | ⟨options', rendering', asked', run⟩
  · exact absurd asked (other _ _)
  · obtain ⟨rfl, ⟨⟩⟩ := Request.run.inj (asked.symm.trans asked')
    rw [run, runRender_run, made]
    exact ⟨_, rfl, rfl⟩

end Preparing

end Machine

end Stencil
