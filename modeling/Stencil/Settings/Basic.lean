import Stencil.Convert.Format
import Stencil.Json.Basic
import Stencil.Report.Options

/-! # Settings

What can be set once for all reports: how they are rendered, how pictures are fetched, how
documents are converted, and where reports go.
-/

namespace Stencil

/-- How pictures are fetched. -/
structure FetchSettings where
  /-- How long one fetch may take, in seconds. -/
  timeout : Nat := 30
  /-- The greatest size of a picture, in bytes. -/
  greatestSize : Nat := 20 * 1024 * 1024
  /-- How a fetch introduces itself to a server. -/
  userAgent : String := "reportgen/0.1.0"
  deriving Repr, DecidableEq

/-- How documents are converted. -/
structure ConvertSettings where
  /-- The name or the path of the converter's program. -/
  program : String := "soffice"
  /-- How long one conversion may take, in seconds. -/
  timeout : Nat := 120
  deriving Repr, DecidableEq

structure OutputSettings where
  /-- The folder of reports whose path is not told. -/
  folder : String := "generated_reports"
  /-- The start of the links of reports; without it reports have none. -/
  publicBase : Option String := none
  format : OutputFormat := .pdf
  deriving Repr, DecidableEq

structure Settings where
  render : RenderOptions := {}
  fetch : FetchSettings := {}
  convert : ConvertSettings := {}
  output : OutputSettings := {}
  deriving Repr, DecidableEq

/-- Why there are no settings to work with. -/
inductive SettingsError where
  /-- The file of the settings cannot be read. -/
  | unreadable (path detail : String)
  /-- The file of the settings is not what it should be. -/
  | malformed (path detail : String)
  /-- A variable of the environment has no usable value. -/
  | badVariable (name value : String)
  /-- With these settings no report can be made. -/
  | unusable (detail : String)
  deriving Repr, DecidableEq

def SettingsError.message : SettingsError → String
  | unreadable path detail => "Failed to read config file " ++ path ++ ": " ++ detail
  | malformed path detail => "Invalid config file " ++ path ++ ": " ++ detail
  | badVariable name value => "Invalid value for " ++ name ++ ": '" ++ value ++ "'"
  | unusable detail => "Invalid configuration: " ++ detail

/-- The text without the slashes at its end. -/
def withoutTrailingSlashes (text : List Char) : List Char :=
  (text.reverse.dropWhile (· == '/')).reverse

/-- The link of a report with the given file name, if reports have links. -/
def OutputSettings.link? (settings : OutputSettings) (fileName : String) : Option String :=
  settings.publicBase.map fun base =>
    String.ofList (withoutTrailingSlashes base.toList) ++ "/reports/" ++ fileName

namespace Settings

def toJson (settings : Settings) : Json :=
  .object
    [("render", .object
      [("image_width_px", .ofNat settings.render.imageWidth),
       ("image_height_px", .ofNat settings.render.imageHeight),
       ("fetch_concurrency", .ofNat settings.render.concurrency),
       ("linebreaks", .bool settings.render.linebreaks),
       ("strict", .bool settings.render.strict)]),
     ("fetch", .object
      [("timeout_secs", .ofNat settings.fetch.timeout),
       ("max_bytes", .ofNat settings.fetch.greatestSize),
       ("user_agent", .string settings.fetch.userAgent)]),
     ("convert", .object
      [("soffice_binary", .string settings.convert.program),
       ("timeout_secs", .ofNat settings.convert.timeout)]),
     ("output", .object
      [("output_dir", .string settings.output.folder),
       ("public_base_url", .ofString? settings.output.publicBase),
       ("format", .string settings.output.format.extension)])]

end Settings

end Stencil
