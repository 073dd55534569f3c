import RasterGpu.Config.Basic
import RasterGpu.Toml.Value

/-!
# Settings

A setting ties a key of a configuration file to a part of the configuration: it reads the part from
a value and writes it as one. `Config.settings` and `VideoTiming.settings` list them in the order of
the file.
-/

namespace RasterGpu

/-- A key of a table in a configuration file, for a part of an `α`. -/
structure Setting (α : Type) where
  /-- The key. -/
  key : String
  /-- The value of the part. -/
  get : α → Toml.Value
  /-- Changes the part to a value, unless the value does not fit. -/
  set? : Toml.Value → α → Option α

namespace Setting

variable {α : Type}

/-- A natural number below a bound. -/
def natural (key : String) (bound : Nat) (get : α → Nat) (set : Nat → α → α) : Setting α where
  key := key
  get a := .integer (get a)
  set? value a :=
    match value with
    | .integer (.ofNat n) => if n < bound then some (set n a) else none
    | _ => none

/-- A truth value. -/
def boolean (key : String) (get : α → Bool) (set : Bool → α → α) : Setting α where
  key := key
  get a := .boolean (get a)
  set? value a :=
    match value with
    | .boolean b => some (set b a)
    | _ => none

/-- The name that a value gives: a string, or a table with the name as its only key and nothing
under it. -/
def name? : Toml.Value → Option String
  | .string name => some name
  | .table _ [(name, .table _ [])] => some name
  | .table _ [(name, .array [])] => some name
  | _ => none

/-- One of several values with a name each. -/
def choice {β : Type} [BEq β] (key : String) (names : List (String × β)) (get : α → β)
    (set : β → α → α) : Setting α where
  key := key
  get a := .string (((names.find? fun (_, b) => b == get a).map (·.1)).getD "")
  set? value a := do
    let b ← names.lookup (← name? value)
    return set b a

end Setting

/-! ## The keys of a configuration -/

/-- The names of the arbiter policies. -/
def ArbiterPolicy.names : List (String × ArbiterPolicy) :=
  [("fixed_priority", .fixedPriority), ("round_robin", .roundRobin)]

/-- The names of the swap policies. -/
def SwapPolicy.names : List (String × SwapPolicy) :=
  [("last_write_wins", .lastWriteWins), ("block_until_vsync", .blockUntilVsync)]

/-- The settings outside the video timing. -/
def Config.settings : List (Setting Config) :=
  [ .natural "fifo_capacity" UInt64.size commandCapacity fun n c => { c with commandCapacity := n },
    .natural "fifo_nearly_full_margin" UInt64.size commandMargin
      fun n c => { c with commandMargin := n },
    .boolean "boot_sequence" bootSequence fun b c => { c with bootSequence := b },
    .natural "memory_words" UInt64.size memoryWords fun n c => { c with memoryWords := n },
    .natural "memory_latency" UInt32.size memoryLatency fun n c => { c with memoryLatency := n },
    .choice "arbiter_policy" ArbiterPolicy.names arbiterPolicy
      fun p c => { c with arbiterPolicy := p },
    .choice "swap_policy" SwapPolicy.names swapPolicy fun p c => { c with swapPolicy := p },
    .natural "aux_queue_depth" UInt64.size engineCapacity fun n c => { c with engineCapacity := n },
    .natural "scanout_fifo_words" UInt64.size scanoutCapacity
      fun n c => { c with scanoutCapacity := n },
    .natural "scanout_burst" UInt16.size scanoutBurst fun n c => { c with scanoutBurst := n } ]

/-- A part of a sweep of the picture, in one direction of the timing. -/
def Setting.sweepPart (key : String) (sweep : VideoTiming → Sweep)
    (setSweep : Sweep → VideoTiming → VideoTiming) (get : Sweep → Nat) (set : Nat → Sweep → Sweep) :
    Setting VideoTiming :=
  .natural key UInt32.size (fun t => get (sweep t)) fun n t => setSweep (set n (sweep t)) t

/-- The four parts of a sweep, with a letter in front of their keys. -/
def Setting.sweepParts (letter : String) (sweep : VideoTiming → Sweep)
    (setSweep : Sweep → VideoTiming → VideoTiming) : List (Setting VideoTiming) :=
  let part (key : String) := sweepPart (letter ++ "_" ++ key) sweep setSweep
  [ part "active" Sweep.active fun n s => { s with active := n },
    part "front_porch" Sweep.frontPorch fun n s => { s with frontPorch := n },
    part "sync" Sweep.sync fun n s => { s with sync := n },
    part "back_porch" Sweep.backPorch fun n s => { s with backPorch := n } ]

/-- The settings of the video timing. -/
def VideoTiming.settings : List (Setting VideoTiming) :=
  Setting.sweepParts "h" horizontal (fun s t => { t with horizontal := s })
    ++ Setting.sweepParts "v" vertical (fun s t => { t with vertical := s })
    ++ [.natural "core_clocks_per_pixel" UInt32.size clocksPerPixel
      fun n t => { t with clocksPerPixel := n }]

end RasterGpu
