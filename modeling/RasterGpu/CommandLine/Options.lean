/-!
# Command line options

The arguments of the simulator are read from left to right, and the first thing that decides the
outcome does: a mistake, a request for help or for the version. An option may be given once. Options
with a long name are written `--name value` or `--name=value`; those with a letter also `-n value`,
`-nvalue` or `-n=value`, and letters of options without value may stand together. The one argument
that is no option is the script; after `--` nothing is an option.
-/

namespace RasterGpu

/-- What the simulator is asked to do. -/
structure Options where
  /-- The script to run after boot. -/
  script? : Option String := none
  /-- The configuration file. -/
  config? : Option String := none
  /-- Frames to run after the script, if told. -/
  frames? : Option Nat := none
  /-- Where to write the picture on display. -/
  png? : Option String := none
  /-- Where to write the configuration instead of running. -/
  dumpConfig? : Option String := none
  /-- Print the counters in the end. -/
  stats : Bool := false
  /-- Print no progress. -/
  quiet : Bool := false
  deriving DecidableEq, Repr, Inhabited

namespace Options

/-- Frames to run after the script. -/
def frames (o : Options) : Nat := o.frames?.getD 1

/-- What the arguments ask for. -/
inductive Request where
  /-- A run of the simulator. -/
  | run (options : Options)
  /-- The help text. -/
  | help
  /-- The version. -/
  | version
  /-- Nothing that can be understood. -/
  | mistake
  deriving DecidableEq, Repr, Inhabited

/-- What an option does. -/
inductive Effect where
  /-- Changes the options. -/
  | flag (set : Options → Option Options)
  /-- Takes a value and changes the options. -/
  | value (set : String → Options → Option Options)
  /-- Decides what is asked for. -/
  | request (r : Request)

/-- An option. -/
structure Switch where
  /-- Its name after two dashes. -/
  name : String
  /-- Its letter after one dash. -/
  letter? : Option Char := none
  /-- What it does. -/
  effect : Effect

/-- Fills a place that is empty. -/
def once {α : Type} (old : Option α) (new : α) : Option (Option α) :=
  if old.isSome then none else some (some new)

/-- Fills the place of a path, which must not be empty. -/
def oncePath (old : Option String) (path : String) : Option (Option String) :=
  if path.isEmpty then none else once old path

/-- A count of frames: decimal digits with or without a sign, below `2 ^ 32`. -/
def frameCount? (text : String) : Option Nat :=
  let (negative, digits) := match text.toList with
    | '-' :: rest => (true, rest)
    | '+' :: rest => (false, rest)
    | rest => (false, rest)
  if digits.isEmpty || !digits.all Char.isDigit then none
  else
    let count := digits.foldl (fun n c => n * 10 + (c.toNat - '0'.toNat)) 0
    if count < UInt32.size && (!negative || count == 0) then some count else none

/-- The options. -/
def switches : List Switch :=
  [ ⟨"config", some 'c', .value fun path o => do
      return { o with config? := ← oncePath o.config? path }⟩,
    ⟨"frames", some 'f', .value fun text o => do
      return { o with frames? := ← once o.frames? (← frameCount? text) }⟩,
    ⟨"png", none, .value fun path o => do return { o with png? := ← oncePath o.png? path }⟩,
    ⟨"dump-config", none, .value fun path o => do
      return { o with dumpConfig? := ← oncePath o.dumpConfig? path }⟩,
    ⟨"stats", none, .flag fun o => if o.stats then none else some { o with stats := true }⟩,
    ⟨"quiet", some 'q', .flag fun o => if o.quiet then none else some { o with quiet := true }⟩,
    ⟨"help", some 'h', .request .help⟩,
    ⟨"version", some 'V', .request .version⟩ ]

/-! ## Reading the arguments -/

/-- What has been read so far: the options, or the outcome if it is decided. -/
abbrev Reading : Type := Except Request Options

/-- The options, or a mistake. -/
def orMistake : Option Options → Reading
  | some o => .ok o
  | none => .error .mistake

/-- Whether an argument can be the value of an option that stands before it. -/
def isValue (argument : String) : Bool :=
  argument == "-" || !argument.startsWith "-"

/-- Reads an option with the value that is attached to it, if any. Returns the arguments that are
left: an option that needs a value and has none attached takes the next one. -/
def takeSwitch (s : Switch) (attached? : Option String) (rest : List String) (o : Options) :
    Except Request (Options × List String) :=
  match s.effect, attached?, rest with
  | .flag set, none, rest => (orMistake (set o)).map (·, rest)
  | .request r, none, _ => .error r
  | .value set, some value, rest => (orMistake (set value o)).map (·, rest)
  | .value set, none, value :: rest =>
    if isValue value then (orMistake (set value o)).map (·, rest) else .error .mistake
  | _, _, _ => .error .mistake

/-- Reads the letters after one dash. -/
def takeLetters : (letters : List Char) → (rest : List String) → Options →
    Except Request (Options × List String)
  | [], rest, o => .ok (o, rest)
  | letter :: letters, rest, o =>
    match switches.find? (·.letter? == some letter) with
    | none => .error .mistake
    | some s =>
      match s.effect, letters with
      | .value _, '=' :: value => takeSwitch s (some (.ofList value)) rest o
      | .value _, c :: value => takeSwitch s (some (.ofList (c :: value))) rest o
      | _, _ => do
        let (o, rest) ← takeSwitch s none rest o
        takeLetters letters rest o

/-- Reads a long option: its name, and what is attached after a sign of equality. -/
def takeLong (text : List Char) (rest : List String) (o : Options) :
    Except Request (Options × List String) :=
  let name := text.takeWhile (· ≠ '=')
  let attached? := match text.dropWhile (· ≠ '=') with
    | [] => none
    | _ :: value => some (String.ofList value)
  match switches.find? (·.name == String.ofList name) with
  | none => .error .mistake
  | some s => takeSwitch s attached? rest o

/-- Takes an argument as the script. -/
def takeScript (path : String) (o : Options) : Reading :=
  orMistake do return { o with script? := ← oncePath o.script? path }

/-- Reads arguments, `limit` options at most. -/
def read : (limit : Nat) → (arguments : List String) → Options → Reading
  | 0, _, o => .ok o
  | _, [], o => .ok o
  | limit + 1, argument :: rest, o => do
    match argument.toList with
    | ['-', '-'] => rest.foldlM (fun o path => takeScript path o) o
    | '-' :: '-' :: text =>
      let (o, rest) ← takeLong text rest o
      read limit rest o
    | '-' :: c :: text =>
      let (o, rest) ← takeLetters (c :: text) rest o
      read limit rest o
    | _ => read limit rest (← takeScript argument o)

/-- What the arguments ask for. -/
def ofArguments (arguments : List String) : Request :=
  match read arguments.length arguments {} with
  | .ok o => .run o
  | .error r => r

end Options

end RasterGpu
