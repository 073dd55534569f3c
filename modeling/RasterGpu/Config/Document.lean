import RasterGpu.Config.Setting
import RasterGpu.Text.File
import RasterGpu.Toml.Grammar

/-!
# Configuration files

A configuration file is a TOML document with the settings as keys and the settings of the video
timing in the table `display`. A missing key leaves the default, and a key that means nothing here
is passed over as long as its numbers have a value. A table may also be given as an array of the
values of its keys in order, which may be shorter than the list of keys; what is beyond it is not
read. A date is as good as a table whose keys mean nothing here.
-/

namespace RasterGpu

/-! ## Reading -/

namespace Setting

variable {α : Type}

/-- Changes the parts of `a` that a table has a key for. -/
def readTable? (settings : List (Setting α)) (entries : Toml.Entries) (a : α) : Option α :=
  entries.foldlM (fun a (key, value) =>
    match settings.find? (·.key == key) with
    | some setting => setting.set? value a
    | none => if value.isReadable then some a else none) a

/-- Changes parts of `a` to the values of a table or an array. A date changes nothing. -/
def read? (settings : List (Setting α)) (a : α) : Toml.Value → Option α
  | .table _ entries => readTable? settings entries a
  | .array values =>
    (settings.zip values).foldlM (fun a ((setting : Setting α), value) => setting.set? value a) a
  | .datetime _ => some a
  | _ => none

end Setting

namespace Config

/-- A configuration from the entries of a document. -/
def ofEntries? (entries : Toml.Entries) : Option Config := do
  let config ← Setting.readTable? settings (entries.filter (·.1 ≠ "display")) {}
  match entries.lookup "display" with
  | none => return config
  | some value => return { config with timing := ← Setting.read? VideoTiming.settings {} value }

/-- Reads a configuration, which must be without fault. -/
def parse (text : String) : Except GpuError Config :=
  match (Toml.parse? text).bind ofEntries? with
  | none => .error .configSyntax
  | some config =>
    match config.fault? with
    | none => .ok config
    | some fault => .error (.invalidConfig fault)

/-- Reads a configuration from a file. -/
def load (path : String) (content? : Option ByteArray) : Except GpuError Config := do
  parse (← fileText path content?)

end Config

/-! ## Writing -/

/-- A number, a truth value, or a name in double quotes. -/
def renderSetting : Toml.Value → String
  | .integer n => toString n
  | .boolean b => toString b
  | .string name => "\"" ++ name ++ "\""
  | _ => ""

/-- The settings of `a`, one a line. -/
def Setting.render {α : Type} (settings : List (Setting α)) (a : α) : String :=
  String.join (settings.map fun s => s.key ++ " = " ++ renderSetting (s.get a) ++ "\n")

/-- A configuration with all its settings. It may have a fault. -/
def Config.render (config : Config) : String :=
  Setting.render settings config ++ "\n[display]\n"
    ++ Setting.render VideoTiming.settings config.timing

end RasterGpu
