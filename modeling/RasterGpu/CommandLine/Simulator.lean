import RasterGpu.CommandLine.Environment
import RasterGpu.CommandLine.Options
import RasterGpu.Config.Document
import RasterGpu.Gpu.Run
import RasterGpu.Image.Png
import RasterGpu.Script.Document

/-!
# The simulator

The simulator boots a device, runs a script if one is given, lets the display run for some frames,
and writes the picture on display and the counters if asked to. What it needs of the computer it
runs on is a `Host` over any monad, so that a run is a function like any other: over the state monad
it works on a directory that is a value.
-/

namespace RasterGpu

/-- What the simulator needs of the computer it runs on. -/
structure Host (m : Type → Type) where
  /-- The value of an environment variable. -/
  environment : String → m (Option String)
  /-- The file of further environment variables. -/
  environmentFile : m (Option ByteArray)
  /-- The bytes of a file. -/
  read? : String → m (Option ByteArray)
  /-- Writes a file and tells whether that was possible. -/
  write : String → ByteArray → m Bool
  /-- Writes to the standard output. -/
  print : String → m Unit
  /-- Writes to the standard error output. -/
  complain : String → m Unit

namespace Simulator

/-- The name and version of the program. -/
def versionText : String := "gscore-sim 0.1.0\n"

/-- The help text. -/
def helpText : String :=
  "Run command scripts against the gscore GPU model\n\n"
    ++ "Usage: gscore-sim [OPTIONS] [SCRIPT]\n\n"
    ++ "Arguments:\n"
    ++ "  [SCRIPT]  JSON command script to execute after boot\n\n"
    ++ "Options:\n"
    ++ "  -c, --config <CONFIG>            TOML configuration file (falls back to $GSCORE_CONFIG)\n"
    ++ "  -f, --frames <FRAMES>            Display frames to run after the script [default: 1]\n"
    ++ "      --png <PNG>                  Write the front buffer to this PNG file\n"
    ++ "      --dump-config <DUMP_CONFIG>  Write the effective configuration to this TOML file and "
    ++ "exit\n"
    ++ "      --stats                      Print component counters on exit\n"
    ++ "  -q, --quiet                      Suppress log output (only show errors)\n"
    ++ "  -h, --help                       Print help\n"
    ++ "  -V, --version                    Print version\n"

/-- The variable that names the configuration file. -/
def configVariable : String := "GSCORE_CONFIG"

/-- The line for an answer to a read of a script. -/
def readLine (index : Nat) (value : UInt64) : String :=
  s!"read[{index}] = 0x{hexDigitsPadded 16 value.toNat}\n"

/-- The counters, one component a line. -/
def statsText (s : GpuStats) : String :=
  let registers := s.registers
  let raster := s.rasterizer
  let engine := s.engine
  let display := s.display
  let grants := s.grants
  s!"cycles:          {s.cycles}\n"
    ++ s!"stall cycles:    {s.stallCycles}\n"
    ++ s!"registers:       {registers.writes} writes, {registers.reads} reads, "
    ++ s!"{registers.ignoredWrites} ignored\n"
    ++ s!"primitives:      {raster.primitives} drawn, {raster.culled} culled\n"
    ++ s!"pixels:          {raster.tested} tested, {raster.covered} covered, "
    ++ s!"{raster.written} written\n"
    ++ s!"aux:             {engine.wordsWritten} words written, {engine.wordsRead} read, "
    ++ s!"{engine.fillsCompleted} fills\n"
    ++ s!"display:         {display.frames} frames, {display.underrunLines} underrun lines\n"
    ++ s!"grants:          display {grants.display}, color {grants.color}, "
    ++ s!"z {grants.depth}, aux {grants.engine}\n"

/-! ## Picture files -/

/-- The letters after the last point of a file name, in lower case. A name that starts with its only
point has none. -/
def extension? (path : String) : Option String :=
  let name := (path.toList.reverse.takeWhile (· ≠ '/')).reverse
  let tail := name.reverse.takeWhile (· ≠ '.')
  if tail.length + 1 < name.length then
    some (String.ofList (tail.reverse.map Char.toLower))
  else none

/-- Names of formats whose files can hold a picture, of which the first two are the format that can
be written. -/
def pictureFormats : List String :=
  ["png", "apng", "avif", "jpg", "jpeg", "jfif", "gif", "webp", "tif", "tiff", "tga", "dds", "bmp",
    "ico", "hdr", "exr", "pbm", "pam", "ppm", "pgm", "pnm", "ff", "qoi"]

section

variable {m : Type → Type} [Monad m] (host : Host m)

/-- A computation without effects on the computer. -/
def pureStep {α : Type} (outcome : Except GpuError α) : ExceptT GpuError m α :=
  ExceptT.mk (pure outcome)

/-- Writes a file. -/
def save (path : String) (content : ByteArray) : ExceptT GpuError m Unit := do
  unless ← host.write path content do throw (.io path)

/-- Writes a picture. The format goes by the name of the file; one that is known and cannot be
written leaves an empty file. -/
def savePicture (path : String) (image : Image) : ExceptT GpuError m Unit := do
  match (extension? path).bind pictureFormats.idxOf? with
  | none => throw .imageFormat
  | some format =>
    if format < 2 then save host path (Png.encode image)
    else
      save host path ByteArray.empty
      throw .imageFormat

/-- The configuration in a file, or the default one. -/
def readConfig (path? : Option String) : ExceptT GpuError m Config := do
  match path? with
  | none => return {}
  | some path => pureStep (Config.load path (← host.read? path))

/-- Runs a script from a file and prints the answers to its reads. -/
def runScript (path : String) (g : Gpu) : ExceptT GpuError m Gpu := do
  let script ← pureStep (Script.load path (← host.read? path))
  match script.run g with
  | (_, .error e) => throw e
  | (g, .ok outcome) =>
    for (value, index) in outcome.reads.zipIdx do
      host.print (readLine index value)
    return g

/-- The device after a run that succeeded. -/
def succeeded {α : Type} : Gpu × Except GpuError α → Except GpuError Gpu
  | (g, .ok _) => .ok g
  | (_, .error e) => .error e

/-- Runs the simulator with a device of a configuration. -/
def runGpu (o : Options) (config : Config) : ExceptT GpuError m Unit := do
  let g ← pureStep (Gpu.build config)
  let g ← pureStep (succeeded (g.runUntilIdle waitBudget))
  let g ← match o.script? with
    | none => pure g
    | some path => runScript host path g
  let g ← pureStep (succeeded (g.runFrames o.frames))
  if let some path := o.png? then
    savePicture host path g.picture
    host.print s!"Front buffer written to {path}\n"
  if o.stats then host.print (statsText g.stats)

/-- Runs the simulator with options, given the configuration file that the environment names. -/
def run (o : Options) (fallback? : Option String) : ExceptT GpuError m Unit := do
  let config ← readConfig host (o.config? <|> fallback?)
  match o.dumpConfig? with
  | some path => save host path config.render.toUTF8
  | none => runGpu host o config

/-- The configuration file that the environment names, the file of variables included. -/
def fallbackConfig? : m (Option String) := do
  let text? := (← host.environmentFile).bind String.fromUTF8?
  let values ← Environment.resolve host.environment ((text?.map Environment.parse).getD [])
  Environment.value? host.environment values configVariable

/-- Does what the arguments ask for and returns the exit code: zero after success, one after an
error, two for arguments that cannot be understood. -/
def main (arguments : List String) : m UInt32 := do
  let fallback? ← fallbackConfig? host
  match Options.ofArguments arguments with
  | .help =>
    host.print helpText
    return 0
  | .version =>
    host.print versionText
    return 0
  | .mistake =>
    host.complain "error: invalid arguments; try '--help'\n"
    return 2
  | .run o =>
    match ← run host o fallback? with
    | .ok () => return 0
    | .error e =>
      host.complain s!"Error: {e.message}\n"
      return 1

end

end Simulator

end RasterGpu
