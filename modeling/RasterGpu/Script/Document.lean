import RasterGpu.Json.Grammar
import RasterGpu.Script.Basic
import RasterGpu.Text.File

/-!
# Script files

A script is a JSON object with a list of `steps`, and a step is an object whose `op` tells what it
does. Keys that mean nothing here are passed over, but no key that means something may be given
twice. An object may also be written as an array of its values: a script as `[steps]`, a step as its
`op` and the other values in order.

Everything inside a step must have a meaning, passed over or not; outside the steps only the keys
must have one. `Script.parse` reads such a text, `Script.render` writes one.
-/

namespace RasterGpu

open Json (Value Piece)

/-! ## Reading -/

/-- The value of a key that is given exactly once. -/
def soleField? (key : String) (fields : List (String × Value)) : Option Value :=
  match fields.filter (·.1 == key) with
  | [(_, value)] => some value
  | _ => none

/-- Fields with their keys as texts. -/
def decodeKeys? (fields : List (List Piece × Value)) : Option (List (String × Value)) :=
  fields.mapM fun (key, value) => (Json.decode? key).map fun key => (String.ofList key, value)

namespace ScriptStep

/-- The keys of a step beside `op`, in order. -/
def keysOf? : (op : String) → Option (List String)
  | "write" => some ["addr", "data"]
  | "read" => some ["addr"]
  | "wait_idle" => some []
  | "wait_frames" => some ["count"]
  | _ => none

/-- A step from the values of its keys. -/
def ofValues? : (op : String) → List Value → Option ScriptStep
  | "write", [address, data] => do
    return write (.ofNat (← address.natural? UInt8.size)) (.ofNat (← data.natural? UInt64.size))
  | "read", [address] => do return read (.ofNat (← address.natural? UInt8.size))
  | "wait_idle", [] => some waitIdle
  | "wait_frames", [count] => do return waitFrames (.ofNat (← count.natural? UInt32.size))
  | _, _ => none

/-- A step from its JSON value. -/
def ofJson? : Value → Option ScriptStep
  | .object fields => do
    let fields ← decodeKeys? fields
    let op ← (← soleField? "op" fields).text?
    ofValues? op (← (← keysOf? op).mapM (soleField? · fields))
  | .array (op :: values) => do ofValues? (← op.text?) values
  | _ => none

end ScriptStep

namespace Script

/-- Containers that may be nested in a script, the script and its list of steps included. -/
def maxNesting : Nat := 127

/-- A script from the JSON value of its steps. -/
def ofSteps? : Value → Option Script
  | .array steps => do
    guard (steps.all (·.isReadable (maxNesting - 2)))
    return ⟨← steps.mapM ScriptStep.ofJson?⟩
  | _ => none

/-- A script from its JSON value. -/
def ofJson? : Value → Option Script
  | .object fields => do ofSteps? (← soleField? "steps" (← decodeKeys? fields))
  | .array [steps] => ofSteps? steps
  | _ => none

/-- Reads a script. Only after all of the text was understood are the addresses looked at. -/
def parse (text : String) : Except GpuError Script :=
  match (Json.parse? text).bind ofJson? with
  | none => .error .scriptSyntax
  | some script =>
    match script.fault? with
    | none => .ok script
    | some e => .error e

/-- Reads a script from a file. -/
def load (path : String) (content? : Option ByteArray) : Except GpuError Script := do
  parse (← fileText path content?)

end Script

/-! ## Writing -/

/-- The `op` of a step and its other keys with their values. -/
def ScriptStep.fields : ScriptStep → String × List (String × Nat)
  | write address data => ("write", [("addr", address.toNat), ("data", data.toNat)])
  | read address => ("read", [("addr", address.toNat)])
  | waitIdle => ("wait_idle", [])
  | waitFrames count => ("wait_frames", [("count", count.toNat)])

/-- A step as an object, one key a line. -/
def ScriptStep.render (step : ScriptStep) : String :=
  let (op, fields) := step.fields
  let line (key value : String) := s!"      \"{key}\": {value}"
  let lines := line "op" ("\"" ++ op ++ "\"")
    :: fields.map fun (key, value) => line key (toString value)
  "    \x7b\n" ++ ",\n".intercalate lines ++ "\n    \x7d"

/-- A script as an object, indented by two blanks a level. -/
def Script.render (script : Script) : String :=
  let items := script.steps.map ScriptStep.render
  let list := if items.isEmpty then "[]" else "[\n" ++ ",\n".intercalate items ++ "\n  ]"
  "\x7b\n  \"steps\": " ++ list ++ "\n\x7d"

end RasterGpu
