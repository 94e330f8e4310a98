import Stencil.Convert.Office
import Stencil.Proofs.Command.Steps
import Stencil.Proofs.Files.Tree
import Stencil.Proofs.Report.Packing
import Stencil.Proofs.Text.Split

/-! # What rendering writes

A rendering that ends well has written one file, with what the converter made of the report. One
that fails has made and changed no file, whatever it failed for.

Main statement: `render_writes_report_or_nothing`.
-/

namespace Stencil

open Command

namespace Machine

variable (machine : Machine)

section Writing

variable {work : Place} {before tree : FileTree}

theorem makeWay_keeps (work : Place) (sound : tree.Sound) (path : String) :
    FileTree.KeepsFiles work tree (machine.makeWay path tree).2 ∧
      (machine.makeWay path tree).2.Sound := by
  unfold makeWay
  split
  · exact ⟨.refl work tree, sound⟩
  · rw [host_createFolders]
    rcases change_cases (fun tree => tree.createFolders (Path.folder path)) tree with
      ⟨after, made, ran⟩ | ⟨error, -, ran⟩
    · rw [ran]
      exact FileTree.createFolders_keeps work sound made
    · rw [ran]
      exact ⟨.refl work tree, sound⟩

/-- A report is written, or no file is. -/
theorem writeReport_writes_or_keeps (sound : tree.Sound)
    (kept : FileTree.KeepsFiles work before tree) (path : String) (bytes : ByteArray) :
    match writeReport machine.host path bytes tree with
    | (.error _, after) => FileTree.KeepsFiles work before after
    | (.ok _, after) => FileTree.Writes work before after path bytes := by
  obtain ⟨keeps, sound'⟩ := machine.makeWay_keeps work sound path
  rw [writeReport_run, host_saveFile]
  generalize machine.makeWay path tree = made at keeps sound' ⊢
  obtain ⟨created, way⟩ := made
  cases created with
  | error detail => exact kept.trans keeps
  | ok _ =>
      rcases change_cases (fun tree => tree.write path bytes) way with
        ⟨after, written, ran⟩ | ⟨error, -, ran⟩
      · simp only [ran]
        exact FileTree.writes_of_write sound' (kept.trans keeps) written
      · simp only [ran]
        exact kept.trans keeps

end Writing

/-- The converter makes and changes no file, but below a place, and leaves a tree that paths can be
    walked in. -/
structure ConvertsWithin (work : Place) (tree : FileTree) : Prop where
  keeps : ∀ settings document format,
    FileTree.KeepsFiles work tree (machine.convert settings document format tree).2
  sound : ∀ settings document format, (machine.convert settings document format tree).2.Sound

/-- A rendering has written a report: what it was made from, what came of it, and what is left. -/
structure Delivers (work : Place) (arguments : RenderArguments) (config : Option String)
    (before after : FileTree) (settings : Settings) (bytes : ByteArray) (written : WrittenReport) :
    Prop where
  prepared : machine.Prepares arguments config before settings written.report
  converted : (machine.convert settings.convert written.report.bytes settings.output.format
    before).1 = .ok bytes
  document : (∃ environment, machine.convert = Office.convert environment) →
    settings.output.format = .docx → bytes = written.report.bytes
  path : written.path = arguments.output.getD (Path.inside settings.output.folder
    (machine.freshName ++ "." ++ settings.output.format.extension))
  link : written.link = settings.output.link? ((Path.fileName? written.path).getD "")
  format : written.format = settings.output.format
  writes : FileTree.Writes work before after written.path bytes

section Running

variable {machine : Machine} {work : Place} {tree : FileTree}

theorem deliver_delivers_or_keeps (confined : machine.ConvertsWithin work tree)
    {arguments : RenderArguments} {config : Option String} {settings : Settings} {report : Report}
    (prepared : machine.Prepares arguments config tree settings report) :
    match machine.deliver settings arguments.output report tree with
    | (.error _, after) => FileTree.KeepsFiles work tree after
    | (.ok written, after) =>
      ∃ bytes, machine.Delivers work arguments config tree after settings bytes written := by
  have kept := confined.keeps settings.convert report.bytes settings.output.format
  have sound := confined.sound settings.convert report.bytes settings.output.format
  have handed : (∃ environment, machine.convert = Office.convert environment) →
      settings.output.format = .docx →
      (machine.convert settings.convert report.bytes settings.output.format tree).1 =
        .ok report.bytes := by
    rintro ⟨environment, office⟩ docx
    rw [office, docx]
    rfl
  unfold deliver
  generalize ran : machine.convert settings.convert report.bytes settings.output.format tree =
    conversion at kept sound handed ⊢
  obtain ⟨converted, worked⟩ := conversion
  cases converted with
  | error error => exact kept
  | ok bytes =>
      have writes := machine.writeReport_writes_or_keeps sound kept
        (machine.reportPath settings.output arguments.output) bytes
      simp only
      generalize writeReport machine.host _ bytes worked = writing at writes ⊢
      obtain ⟨written, after⟩ := writing
      cases written with
      | error failure => exact writes
      | ok _ =>
          refine ⟨bytes, prepared, congrArg Prod.fst ran, fun office docx => ?_, rfl, rfl, rfl,
            writes⟩
          exact Except.ok.inj (handed office docx)

theorem makeReport_delivers_or_keeps (confined : machine.ConvertsWithin work tree)
    (arguments : RenderArguments) (config : Option String) :
    match (makeReport machine.host arguments config).run tree with
    | (.error _, after) => FileTree.KeepsFiles work tree after
    | (.ok written, after) => ∃ settings bytes,
      machine.Delivers work arguments config tree after settings bytes written := by
  rw [makeReport_run]
  cases prepared : machine.prepare arguments config tree with
  | error failure => exact .refl work tree
  | ok made =>
      obtain ⟨settings, report⟩ := made
      have delivers := deliver_delivers_or_keeps confined (prepare_eq_ok.mp prepared)
      change match machine.deliver settings arguments.output report tree with
        | (.error _, after) => FileTree.KeepsFiles work tree after
        | (.ok written, after) => ∃ settings bytes,
          machine.Delivers work arguments config tree after settings bytes written
      generalize machine.deliver settings arguments.output report tree = ran at delivers ⊢
      obtain ⟨result, after⟩ := ran
      cases result with
      | error failure => exact delivers
      | ok written => exact ⟨settings, delivers⟩

end Running

end Machine

section Printing

namespace Json

theorem infix_bracketed {line : List Char} {lines : List (List Char)} (mem : line ∈ lines)
    (first last : Char) (level : Nat) : line <:+: bracketed first last level lines := by
  cases lines with
  | nil => cases mem
  | cons head rest =>
      unfold bracketed
      refine List.infix_append_of_infix_left (List.infix_append_of_infix_left ?_)
      refine List.infix_append_of_infix_right ?_
      exact Text.infix_join mem _

theorem indentedItems_eq_map (level : Nat) (items : List Json) :
    indentedItems level items = items.map (indentedAt level) := by
  induction items with
  | nil => rfl
  | cons item rest ih => rw [indentedItems, ih, List.map_cons]

theorem indentedFields_eq_map (level : Nat) (fields : List (String × Json)) :
    indentedFields level fields =
      fields.map fun field => quoted field.1 ++ ':' :: ' ' :: indentedAt level field.2 := by
  induction fields with
  | nil => rfl
  | cons field rest ih => rw [indentedFields, ih, List.map_cons]

/-- An item of an array occurs in its text. -/
theorem infix_indentedAt_array {item : Json} {items : List Json} (mem : item ∈ items)
    (level : Nat) : indentedAt (level + 1) item <:+: indentedAt level (.array items) := by
  rw [indentedAt.eq_1, indentedItems_eq_map]
  exact infix_bracketed (List.mem_map_of_mem mem) _ _ level

/-- The value of a field occurs in the text of the object. -/
theorem infix_indentedAt_object {field : String × Json} {fields : List (String × Json)}
    (mem : field ∈ fields) (level : Nat) :
    indentedAt (level + 1) field.2 <:+: indentedAt level (.object fields) := by
  rw [indentedAt.eq_2, indentedFields_eq_map]
  refine List.IsInfix.trans ?_ (infix_bracketed (List.mem_map_of_mem mem) _ _ level)
  exact List.infix_append_of_infix_right
    (List.infix_cons (List.infix_cons List.infix_rfl))

end Json

namespace Command.WrittenReport

/-- Whether the path of a report, its link and its warnings occur in what is printed: as they are, or
    as JSON. -/
structure ToldIn (written : WrittenReport) (json : Bool) (stdout : List Char) : Prop where
  path : (if json then Json.quoted written.path else written.path.toList) <:+: stdout
  link : ∀ link, written.link = some link →
    (if json then Json.quoted link else link.toList) <:+: stdout
  warnings : ∀ warning ∈ written.report.warnings,
    (if json then Json.indentedAt 2 warning.toJson else warning.message.toList) <:+: stdout

variable (written : WrittenReport)

theorem toldIn_lines : written.ToldIn false written.lines.toList := by
  have between (front text back : List Char) : text <:+: front ++ text ++ back :=
    List.infix_append front text back
  unfold lines
  simp only [String.toList_append, String.toList_join]
  constructor
  case path =>
    rw [if_neg Bool.false_ne_true]
    exact List.infix_append_of_infix_left (List.infix_append_of_infix_left (between _ _ _))
  case link =>
    intro link given
    rw [if_neg Bool.false_ne_true]
    refine List.infix_append_of_infix_left (List.infix_append_of_infix_right ?_)
    simp only [given, String.toList_append]
    exact between _ _ _
  case warnings =>
    intro warning mem
    rw [if_neg Bool.false_ne_true]
    refine List.infix_append_of_infix_right ?_
    rw [List.flatMap_map, List.flatMap_def]
    refine List.IsInfix.trans ?_ (List.infix_of_mem_flatten (List.mem_map_of_mem mem))
    simp only [String.toList_append]
    exact between _ _ _

theorem toldIn_jsonLines : written.ToldIn true (jsonLines written.toJson).toList := by
  have whole : written.toJson.indented <:+: (jsonLines written.toJson).toList := by
    rw [jsonLines, String.toList_append, String.toList_ofList]
    exact List.infix_append_of_infix_left List.infix_rfl
  have shown {field : String × Json} (mem : field ∈
      [("link", Json.ofString? written.link), ("path", .string written.path),
        ("format", .string written.format.extension),
        ("warnings", .array (written.report.warnings.map Warning.toJson)),
        ("stats", written.report.statistics.toJson),
        ("duration_ms", .ofNat written.milliseconds)]) :
      Json.indentedAt 1 field.2 <:+: (jsonLines written.toJson).toList :=
    (Json.infix_indentedAt_object mem 0).trans whole
  constructor
  case path =>
    rw [if_pos rfl]
    exact shown (List.mem_cons_of_mem _ List.mem_cons_self)
  case link =>
    intro link given
    rw [if_pos rfl]
    have first := shown List.mem_cons_self
    rwa [given] at first
  case warnings =>
    intro warning mem
    rw [if_pos rfl]
    have told := shown (List.mem_cons_of_mem _ (List.mem_cons_of_mem _
      (List.mem_cons_of_mem _ List.mem_cons_self)))
    exact (Json.infix_indentedAt_array (List.mem_map_of_mem mem) 1).trans told

end Command.WrittenReport

end Printing

theorem FailureCause.exitCode_ne_zero (cause : FailureCause) : cause.exitCode ≠ 0 := by
  cases cause with
  | report error =>
      cases error with
      | package | unreadablePart | unresolved | invalidPayload | malformedPayload => exact nofun
  | settings | package | conversion | fetch | other => exact nofun

/-- A rendering writes one report, which is what the converter makes of the filled template, or it
    writes nothing: its exit code tells which. The path, the link and the warnings of the report occur
    in what is printed. A request for help or for the version is no rendering, and writes nothing
    either. -/
theorem render_writes_report_or_nothing {machine : Machine} {work : Place} {tree after : FileTree}
    {arguments : List String} {result : ProgramResult}
    (confined : machine.ConvertsWithin work tree)
    (ran : machine.run arguments tree = (result, after)) :
    (result.exitCode ≠ 0 → FileTree.KeepsFiles work tree after) ∧
      ∀ options rendering,
        Invocation.read machine.environment arguments = .run options (.render rendering) →
        result.exitCode = 0 → ∃ settings bytes written,
          machine.Delivers work rendering options.config tree after settings bytes written ∧
          (result.stdout = if rendering.json then jsonLines written.toJson else written.lines) ∧
          written.ToldIn rendering.json result.stdout.toList := by
  rcases machine.run_cases arguments tree with ⟨reads, other⟩ | ⟨options, rendering, asked, run⟩
  · rw [ran] at reads
    obtain rfl : after = tree := reads
    exact ⟨fun _ => .refl work after, fun _ _ asked => absurd asked (other _ _)⟩
  · have delivers := Machine.makeReport_delivers_or_keeps confined rendering options.config
    rw [run, Machine.runRender_run] at ran
    generalize (makeReport machine.host rendering options.config).run tree = made at delivers ran
    obtain ⟨made, after⟩ := made
    obtain ⟨rfl, rfl⟩ := Prod.mk.inj ran
    cases made with
    | error failure =>
        refine ⟨fun _ => delivers, fun _ _ _ ended => ?_⟩
        exact absurd ended failure.cause.exitCode_ne_zero
    | ok written =>
        obtain ⟨settings, bytes, delivered⟩ := delivers
        refine ⟨fun failed => absurd rfl failed, fun options' rendering' asked' _ => ?_⟩
        obtain ⟨rfl, ⟨⟩⟩ := Request.run.inj (asked.symm.trans asked')
        refine ⟨settings, bytes, written, delivered, rfl, ?_⟩
        cases rendering.json with
        | false => exact written.toldIn_lines
        | true => exact written.toldIn_jsonLines

namespace Sample

/-- A container with a letter. -/
def letterEntries : List Zip.Entry :=
  [Zip.Entry.create PartName.contentTypes .stored "<Types></Types>".toUTF8,
   Zip.Entry.create PartName.mainDocument .stored "<w:t>Dear {{name}}</w:t>".toUTF8]

def letter : Document where
  source := (letterEntries.foldl Zip.Draft.add Zip.Draft.empty).finish
  entries := letterEntries
  parts := letterEntries.map fun entry =>
    { name := entry.name, content := PartContent.ofBytes entry.name entry.packed
      original := true, modified := false }

theorem read_letter : Document.read letter.source = .ok letter := by
  have storable : ∀ entry ∈ letterEntries, entry.Storable :=
    List.forall_mem_cons.mpr ⟨Zip.Entry.storable_create (.inl rfl) (by decide) (by decide),
      List.forall_mem_singleton.mpr
        (Zip.Entry.storable_create (.inl rfl) (by decide) (by decide))⟩
  have written : Zip.write letterEntries = .ok letter.source :=
    Zip.write_eq_ok.mpr ⟨by decide, rfl⟩
  have narrow : letter.source.size < 2 ^ 64 := by decide +kernel
  refine Document.read_eq_ok_iff.mpr ⟨rfl, Zip.read_of_write written storable narrow, ?_⟩
  refine .part (.part (by decide) (by decide) ?_) (.part (.part (by decide) (by decide) ?_) .nil)
  · exact Zip.Entry.unpack_create (.inl rfl) (by decide)
  · exact Zip.Entry.unpack_create (.inl rfl) (by decide)

def names : String := "\x7b\"name\": \"Ada\"\x7d"

/-- The files of a folder with the letter. -/
def desk : FileTree where
  nodes := [(["letter.docx"], .file { bytes := letter.source }),
    (["names.json"], .file { bytes := names.toUTF8 })]
  current := []

/-- A machine whose converter hands every document back. -/
def machine : Machine where
  environment _ := none
  input := ByteArray.empty
  freshName := "1"
  fetcher _ := fetch
  convert _ document _ := pure (.ok document)
  isAvailable _ _ := true

def letterPayload : Payload :=
  { fields := [("name", .string "Ada")] }

def letterArguments : List String :=
  ["render", "letter.docx", "--data", "names.json", "--format", "docx", "-o", "out/letter.docx"]

def renderLetter : RenderArguments :=
  { template := "letter.docx", data := "names.json", output := some "out/letter.docx"
    choice := { format := some .docx }, json := false }

theorem sound_desk : desk.Sound :=
  .of_nodes rfl (by decide +kernel)

theorem convertsWithin_desk : machine.ConvertsWithin ["tmp"] desk where
  keeps _ _ _ := .refl _ desk
  sound _ _ _ := sound_desk

theorem exists_prepares : ∃ report, machine.Prepares renderLetter none desk
    (Settings.withChoice renderLetter.choice {}) report := by
  obtain ⟨report, rendered⟩ : ∃ report, render letter letterPayload {} fetch = .ok report :=
    Stencil.exists_report rfl (by decide +kernel)
  have resolved : desk.resolve renderLetter.template = .ok ["letter.docx"] := by decide +kernel
  have template := FileTree.read_of_resolve resolved rfl
  have content : machine.payloadBytes renderLetter.data desk = .ok names.toUTF8 := by decide +kernel
  exact ⟨report, ⟨_, rfl, rfl⟩, by decide +kernel, by decide +kernel, _, letter, _, names,
    letterPayload, template, read_letter, content, by decide +kernel, rfl, rendered⟩

theorem exists_writeReport (bytes : ByteArray) :
    ∃ after, writeReport machine.host "out/letter.docx" bytes desk = (.ok (), after) := by
  have made : (machine.makeWay "out/letter.docx" desk).1 = .ok () := by decide +kernel
  have free : (machine.makeWay "out/letter.docx" desk).2.placeToWrite "out/letter.docx" =
      .ok ["out", "letter.docx"] := by decide +kernel
  have absent : (machine.makeWay "out/letter.docx" desk).2.node? ["out", "letter.docx"] = none := by
    decide +kernel
  exact ⟨_, Machine.writeReport_of_placeToWrite (Prod.ext made rfl) free fun device => by
    rw [absent]
    exact nofun⟩

end Sample

/-- The letter is written into a new folder. -/
theorem render_writes_report_or_nothing_letter :
    Sample.machine.ConvertsWithin ["tmp"] Sample.desk ∧
      ∃ result after settings bytes written,
        Sample.machine.run Sample.letterArguments Sample.desk = (result, after) ∧
        result.exitCode = 0 ∧
        Sample.machine.Delivers ["tmp"] Sample.renderLetter none Sample.desk after settings bytes
          written := by
  have asked : Invocation.read Sample.machine.environment Sample.letterArguments =
      .run ⟨false, false, false, none⟩ (.render Sample.renderLetter) := by decide +kernel
  obtain ⟨report, prepared⟩ := Sample.exists_prepares
  obtain ⟨after, written⟩ := Sample.exists_writeReport report.bytes
  obtain ⟨result, ran, ended⟩ := Machine.run_of_prepares asked prepared rfl written
  obtain ⟨-, delivers⟩ := render_writes_report_or_nothing Sample.convertsWithin_desk ran
  obtain ⟨settings, bytes, written, delivered, -, -⟩ := delivers _ _ asked ended
  exact ⟨Sample.convertsWithin_desk, result, after, settings, bytes, written, ran, ended, delivered⟩

end Stencil
