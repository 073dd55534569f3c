import RasterGpu.Error

/-!
# Text files

What is read from a file: its bytes, or nothing if there is no such file.
-/

namespace RasterGpu

/-- The text of a file. A file that is missing or is not UTF-8 cannot be read. -/
def fileText (path : String) (content? : Option ByteArray) : Except GpuError String :=
  match content?.bind String.fromUTF8? with
  | some text => .ok text
  | none => .error (.io path)

end RasterGpu
