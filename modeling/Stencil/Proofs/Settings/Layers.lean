import Mathlib.Data.Nat.Digits.Defs
import Stencil.Proofs.Command.Steps
import Stencil.Proofs.Text.Search

/-! # Settings by their layers

A setting is what is chosen for the report, else what a variable of the environment says, else what
the file says. A blank variable is as good as none, but for the time that a fetch may take: there it
is refused like any other text that spells no number.

Main statement: `load_layers_settings`. The blank variable: `blank_timeout_refused`.
-/

namespace Stencil

namespace Text

/-- The value of a digit of ASCII. -/
def digitValue (c : Char) : Nat :=
  c.toNat - '0'.toNat

theorem decimal?_eq_some {digits : List Char} {n : Nat} :
    decimal? digits = some n ↔
      digits ≠ [] ∧ (∀ c ∈ digits, c.isDigit) ∧
        n = Nat.ofDigits 10 (digits.map digitValue).reverse := by
  cases digits with
  | nil => simp [decimal?]
  | cons c rest =>
      have value : (c :: rest).foldl (fun value d => value * 10 + (d.toNat - '0'.toNat)) 0 =
          Nat.ofDigits 10 ((c :: rest).map digitValue).reverse := by
        rw [Nat.ofDigits_eq_foldr, List.foldr_reverse, List.foldl_map]
        congr 1
        funext value d
        simp only [digitValue, Nat.cast_id]
        omega
      rw [decimal?, Option.ite_none_right_eq_some, Option.some.injEq, value, List.all_eq_true]
      · rw [eq_comm (a := n)]
        exact (and_iff_right (List.cons_ne_nil c rest)).symm
      · exact List.cons_ne_nil c rest

end Text

/-- Digits of ASCII, with or without a plus sign in front, that spell a number of 64 bits. -/
def Spells64 (text : List Char) (n : Nat) : Prop :=
  ∃ digits, (text = digits ∨ text = '+' :: digits) ∧ digits ≠ [] ∧ (∀ c ∈ digits, c.isDigit) ∧
    n = Nat.ofDigits 10 (digits.map Text.digitValue).reverse ∧ n < 2 ^ 64

/-- What a variable of the environment holds for the settings. -/
inductive Holds (environment : Environment) (name : String) : Option String → Prop where
  | unset (absent : environment name = none) : Holds environment name none
  | blank {value : String} (set : environment name = some value)
      (blank : Text.Blank value.toList) : Holds environment name none
  | text {value : String} (set : environment name = some value)
      (visible : ¬ Text.Blank value.toList) :
      Holds environment name (some (String.ofList (Text.trim value.toList)))

/-- Why the environment is refused: its time for a fetch is no number of 64 bits. -/
inductive RefusesTimeout (environment : Environment) : SettingsError → Prop where
  | unspelled {value : String} (set : environment Settings.fetchTimeoutVariable = some value)
      (none : ∀ n, ¬ Spells64 (Text.trim value.toList) n) :
      RefusesTimeout environment (.badVariable Settings.fetchTimeoutVariable value)

/-- Each setting by its layers, of which the file is the last. -/
structure Layered (environment : Environment) (choice : SettingsChoice) (file settings : Settings) :
    Prop where
  format : settings.output.format = choice.format.getD file.output.format
  folder : settings.output.folder = choice.folder.getD file.output.folder
  publicBase : ∃ held, Holds environment Settings.publicBaseVariable held ∧
    settings.output.publicBase = (choice.publicBase.or held).or file.output.publicBase
  program : ∃ held, Holds environment Settings.programVariable held ∧
    settings.convert.program = (choice.program.or held).getD file.convert.program
  fetchTimeout :
    (environment Settings.fetchTimeoutVariable = none ∧
      settings.fetch.timeout = file.fetch.timeout) ∨
    ∃ value, environment Settings.fetchTimeoutVariable = some value ∧
      Spells64 (Text.trim value.toList) settings.fetch.timeout
  imageWidth : settings.render.imageWidth = choice.imageWidth.getD file.render.imageWidth
  imageHeight : settings.render.imageHeight = choice.imageHeight.getD file.render.imageHeight
  concurrency : settings.render.concurrency = choice.concurrency.getD file.render.concurrency
  strict : settings.render.strict = true ↔ file.render.strict = true ∨ choice.strict = true
  linebreaks : settings.render.linebreaks = true ↔
    file.render.linebreaks = true ∧ choice.withoutLinebreaks = false
  greatestSize : settings.fetch.greatestSize = file.fetch.greatestSize
  userAgent : settings.fetch.userAgent = file.fetch.userAgent
  convertTimeout : settings.convert.timeout = file.convert.timeout

namespace Settings

variable {environment : Environment} {file settings : Settings}

theorem number64?_eq_some {text : List Char} {n : Nat} :
    number64? text = some n ↔ Spells64 text n := by
  have spelled (digits : List Char) : (Text.decimal? digits).filter (· < 2 ^ 64) = some n ↔
      digits ≠ [] ∧ (∀ c ∈ digits, c.isDigit) ∧
        n = Nat.ofDigits 10 (digits.map Text.digitValue).reverse ∧ n < 2 ^ 64 := by
    rw [Option.filter_eq_some_iff, Text.decimal?_eq_some, decide_eq_true_eq, and_assoc, and_assoc]
  rw [number64?, spelled]
  cases plus : Text.dropLead? ['+'] text with
  | some rest =>
      rw [Text.dropLead?_eq_some] at plus
      subst plus
      constructor
      · intro spelled
        exact ⟨rest, .inr rfl, spelled⟩
      · rintro ⟨digits, same | same, nonempty, isDigit, rest⟩
        · -- a plus sign is no digit
          subst same
          exact absurd (isDigit '+' List.mem_cons_self) (by decide)
        · cases same
          exact ⟨nonempty, isDigit, rest⟩
  | none =>
      rw [Text.dropLead?_eq_none] at plus
      constructor
      · intro spelled
        exact ⟨text, .inl rfl, spelled⟩
      · rintro ⟨digits, rfl | rfl, spelled⟩
        · exact spelled
        · exact absurd ⟨digits, rfl⟩ plus

theorem holds_override? (environment : Environment) (name : String) :
    Holds environment name (override? environment name) := by
  rw [override?]
  cases set : environment name with
  | none => exact .unset set
  | some value =>
      simp only [List.isEmpty_iff]
      by_cases blank : Text.trim value.toList = []
      · rw [if_pos blank]
        exact .blank set (Text.trim_eq_nil.mp blank)
      · rw [if_neg blank]
        apply Holds.text set
        intro allBlank
        exact blank (Text.trim_eq_nil.mpr allBlank)

/-- The environment is refused for its time of a fetch, or its variables lie over the file. -/
theorem withEnvironment_cases (environment : Environment) (file : Settings) :
    (∃ error, file.withEnvironment environment = .error error ∧ RefusesTimeout environment error) ∨
    ∃ timeout,
      ((environment fetchTimeoutVariable = none ∧ timeout = file.fetch.timeout) ∨
        ∃ value, environment fetchTimeoutVariable = some value ∧
          Spells64 (Text.trim value.toList) timeout) ∧
      file.withEnvironment environment = .ok
        { file with
          output :=
            { file.output with
              publicBase := (override? environment publicBaseVariable).or file.output.publicBase }
          convert :=
            { file.convert with
              program := (override? environment programVariable).getD file.convert.program }
          fetch := { file.fetch with timeout } } := by
  unfold withEnvironment
  cases set : environment fetchTimeoutVariable with
  | none =>
      right
      exact ⟨file.fetch.timeout, .inl ⟨rfl, rfl⟩, rfl⟩
  | some value =>
      cases read : number64? (Text.trim value.toList) with
      | none =>
          left
          refine ⟨.badVariable fetchTimeoutVariable value, by simp only [read], .unspelled set ?_⟩
          intro n spelled
          rw [number64?_eq_some.mpr spelled] at read
          cases read
      | some timeout =>
          right
          refine ⟨timeout, .inr ⟨value, rfl, number64?_eq_some.mp read⟩, ?_⟩
          simp only [read]

theorem layered_of_withEnvironment (loaded : file.withEnvironment environment = .ok settings)
    (choice : SettingsChoice) : Layered environment choice file (settings.withChoice choice) := by
  rcases withEnvironment_cases environment file with ⟨error, refused, -⟩ | ⟨timeout, told, made⟩
  · rw [loaded] at refused
    cases refused
  · rw [loaded] at made
    cases made
    constructor
    case publicBase =>
      refine ⟨_, holds_override? environment publicBaseVariable, ?_⟩
      rw [Option.or_assoc]
      rfl
    case program =>
      refine ⟨_, holds_override? environment programVariable, ?_⟩
      cases chosen : choice.program <;> simp [withChoice, chosen]
    case fetchTimeout => exact told
    case strict => simp [withChoice]
    case linebreaks => simp [withChoice]
    all_goals rfl

theorem withEnvironment_eq_error_iff {error : SettingsError} :
    file.withEnvironment environment = .error error ↔ RefusesTimeout environment error := by
  rcases withEnvironment_cases environment file with
    ⟨other, refused, reason⟩ | ⟨timeout, told, made⟩
  · rw [refused, Except.error.injEq]
    constructor
    · rintro rfl
      exact reason
    · rintro ⟨set, -⟩
      cases reason with
      | unspelled set' _ =>
          rw [set] at set'
          cases set'
          rfl
  · rw [made]
    constructor
    · intro failed
      cases failed
    · rintro ⟨set, none⟩
      rcases told with ⟨unset, -⟩ | ⟨value, set', spelled⟩
      · rw [set] at unset
        cases unset
      · rw [set] at set'
        cases set'
        exact absurd spelled (none timeout)

end Settings

/-- The settings of a file, or the standard ones, before the environment overrides any. -/
def Machine.fileSettings (machine : Machine) (config : Option String) (tree : FileTree) :
    Except SettingsError Settings :=
  match config with
  | none => .ok {}
  | some path => Command.settingsOfFile path (machine.host.loadFile path tree).1

/-- Loaded settings with what is chosen for a report have every setting of its layers. They cannot
    be loaded exactly if the time that a fetch may take is set and, without the blanks around it,
    spells no number of 64 bits. -/
theorem load_layers_settings {machine : Machine} {config : Option String} {tree : FileTree}
    {file : Settings} (read : machine.fileSettings config tree = .ok file) :
    (∀ loaded, (Command.loadSettings machine.host config tree).1 = .ok loaded →
      ∀ choice, Layered machine.environment choice file (loaded.withChoice choice)) ∧
    ∀ error, (Command.loadSettings machine.host config tree).1 = .error error ↔
      RefusesTimeout machine.environment error := by
  have run : (Command.loadSettings machine.host config tree).1 =
      file.withEnvironment machine.environment := by
    cases config with
    | none =>
        cases read
        rfl
    | some path =>
        change (machine.fileSettings (some path) tree).bind _ = _
        rw [read]
        rfl
  rw [run]
  constructor
  · intro loaded made choice
    exact Settings.layered_of_withEnvironment made choice
  · intro error
    exact Settings.withEnvironment_eq_error_iff

namespace Sample

/-- A machine with settings in a file and with blanks in its variables. -/
def paddedMachine : Machine where
  environment name :=
    if name = Settings.publicBaseVariable then some " https://reports.example \n"
    else if name = Settings.programVariable then some " \t"
    else if name = Settings.fetchTimeoutVariable then some " +5 "
    else none
  input := ByteArray.empty
  freshName := "1"
  fetcher _ _ := .ok ByteArray.empty
  convert _ document _ := pure (.ok document)
  isAvailable _ _ := true

def settingsTree : FileTree where
  nodes := [(["settings.yaml"], .file
    { bytes := "render:\n  strict: true\nconvert:\n  soffice_binary: office\n".toUTF8 })]
  current := []

def strictOffice : Settings where
  render := { strict := true }
  convert := { program := "office" }

def plainPages : SettingsChoice where
  format := some .docx
  withoutLinebreaks := true
  imageWidth := some 10

end Sample

/-- Every layer has a part in these settings: one variable is blank, and two have blanks around. -/
theorem load_layers_settings_padded :
    Sample.paddedMachine.fileSettings (some "settings.yaml") Sample.settingsTree =
        .ok Sample.strictOffice ∧
      ∃ loaded,
        (Command.loadSettings Sample.paddedMachine.host (some "settings.yaml")
          Sample.settingsTree).1 = .ok loaded ∧
        Layered Sample.paddedMachine.environment Sample.plainPages Sample.strictOffice
          (loaded.withChoice Sample.plainPages) := by
  have read : Sample.paddedMachine.fileSettings (some "settings.yaml") Sample.settingsTree =
      .ok Sample.strictOffice := by decide +kernel
  have made : (Command.loadSettings Sample.paddedMachine.host (some "settings.yaml")
      Sample.settingsTree).1 = .ok
        { Sample.strictOffice with
          fetch := { timeout := 5 }
          output := { publicBase := some "https://reports.example" } } := by
    decide +kernel
  obtain ⟨layered, -⟩ := load_layers_settings read
  exact ⟨read, _, made, layered _ made Sample.plainPages⟩

/-- An environment with one variable, which is blank. -/
def Sample.blankVariable (name : String) : Environment := fun other =>
  if other = name then some " " else none

/-- A blank time for a fetch is refused, where either of the other variables may be blank. -/
theorem blank_timeout_refused :
    Text.Blank " ".toList ∧
      Settings.withEnvironment (Sample.blankVariable Settings.publicBaseVariable) {} = .ok {} ∧
      Settings.withEnvironment (Sample.blankVariable Settings.programVariable) {} = .ok {} ∧
      Settings.withEnvironment (Sample.blankVariable Settings.fetchTimeoutVariable) {} =
        .error (.badVariable Settings.fetchTimeoutVariable " ") := by
  refine ⟨Text.trim_eq_nil.mp (by decide +kernel), ?_, ?_, ?_⟩
  · decide +kernel
  · decide +kernel
  · decide +kernel

end Stencil
