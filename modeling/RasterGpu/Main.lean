import RasterGpu.CommandLine.Simulator

/-!
# The simulator as a program
-/

namespace RasterGpu

/-- The bytes of a file. -/
def readFile? (path : String) : IO (Option ByteArray) := do
  try return some (← IO.FS.readBinFile path) catch _ => return none

/-- The first file `.env` in the directory or one above it, `levels` of them at most. -/
def findVariableFile? : (levels : Nat) → (directory : String) → IO (Option ByteArray)
  | 0, _ => return none
  | levels + 1, directory => do
    match ← readFile? (directory ++ "/.env") with
    | some content => return some content
    | none => findVariableFile? levels (directory ++ "/..")

/-- The computer that the program runs on. -/
def computer : Host IO where
  environment := fun name => IO.getEnv name
  environmentFile := findVariableFile? 64 "."
  read? := readFile?
  write path content := do
    try
      IO.FS.writeBinFile path content
      return true
    catch _ => return false
  print text := IO.print text
  complain text := IO.eprint text

end RasterGpu

/-- Runs the simulator. -/
def main (arguments : List String) : IO UInt32 :=
  RasterGpu.Simulator.main RasterGpu.computer arguments
