import RasterGpu.Config.Basic
import RasterGpu.Text.Digits

/-!
# Errors

The device itself never fails: it ignores, stalls or draws nothing. What can fail is the work around
it, such as reading a configuration or a script, or waiting for the device with a bound on the
cycles. `GpuError` lists the causes; `GpuError.message` puts them into words.
-/

namespace RasterGpu

/-- What can go wrong around the device. -/
inductive GpuError where
  /-- The device was not idle after this many cycles. -/
  | timeout (cycles : Nat)
  /-- The device waits for a frame, and its timing has no vertical sync pulse. The device does not say
  so: it waits for ever. -/
  | noFrame
  /-- A configuration does not describe a device. -/
  | invalidConfig (fault : ConfigFault)
  /-- A script step, counted from zero, addresses no register. -/
  | invalidScript (index : Nat) (address : Nat)
  /-- A file could not be read or written. -/
  | io (path : String)
  /-- A configuration file is not in the configuration format. -/
  | configSyntax
  /-- A script file is not in the script format. -/
  | scriptSyntax
  /-- An image could not be written in the format its name asks for. -/
  | imageFormat
  deriving DecidableEq, Repr, Inhabited

/-- The error in words. -/
def GpuError.message : GpuError → String
  | timeout cycles => s!"GPU did not become idle within {cycles} cycles"
  | noFrame => "GPU timing has no vertical sync to wait for"
  | invalidConfig fault => s!"Invalid configuration: {fault.message}"
  | invalidScript index address =>
    s!"Invalid script entry #{index}: register address 0x{hexDigits address} exceeds 0x7f"
  | io path => s!"I/O error: {path}"
  | configSyntax => "Failed to parse config"
  | scriptSyntax => "Script error"
  | imageFormat => "Image export error: unsupported image format"

end RasterGpu
