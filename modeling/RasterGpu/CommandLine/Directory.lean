import RasterGpu.CommandLine.Simulator

/-!
# The simulator on a directory

A computer that is a value: a directory of files, an environment variable for the configuration,
and two texts for what is printed. On it a run of the simulator is a function without effects.
-/

namespace RasterGpu

/-- A directory and what was printed. -/
structure Directory where
  /-- The files, by name. -/
  files : List (String × ByteArray)
  /-- What was written to the standard output. -/
  output : String := ""
  /-- What was written to the standard error output. -/
  errors : String := ""

namespace Directory

/-- Whether some file lies below a name. -/
def isDirectory (d : Directory) (name : String) : Bool :=
  d.files.any fun (other, _) => other.startsWith (name ++ "/")

/-- The name that names lead to from the directory, outermost last. -/
def nameOf (names : List String) : String :=
  "/".intercalate names.reverse

/-- Follows the steps of a path from where `names` lead, outermost last. The steps before the last
go through directories and the last one is a name, whether there is a file of that name or not.
Nothing is outside the directory. -/
def follow? (d : Directory) (names : List String) : (steps : List String) → Option (List String)
  | [] => none
  | [step] => if ["", ".", ".."].contains step then none else some (step :: names)
  | step :: rest =>
    if step = "" ∨ step = "." then d.follow? names rest
    else if step = ".." then
      match names with
      | [] => none
      | _ :: names => d.follow? names rest
    else if d.isDirectory (nameOf (step :: names)) then d.follow? (step :: names) rest
    else none

/-- Bytes that a name may have. -/
def maxNameSize : Nat := 255

/-- Bytes that a path may have. -/
def maxPathSize : Nat := 4095

/-- The name of the file at a path. -/
def locate? (d : Directory) (path : String) : Option String := do
  guard (path.utf8ByteSize ≤ maxPathSize)
  guard !(path.startsWith "/")
  let names ← d.follow? [] (path.splitOn "/")
  guard (names.all (·.utf8ByteSize ≤ maxNameSize))
  return nameOf names

/-- A file that is there on every computer: it is empty and stays so. -/
def nullFile : String := "/dev/null"

/-- The bytes of a file. -/
def file? (d : Directory) (path : String) : Option ByteArray :=
  if path = nullFile then some .empty
  else (d.locate? path).bind fun name => d.files.lookup name

/-- Writes a file. -/
def write? (d : Directory) (path : String) (content : ByteArray) : Option Directory := do
  if path = nullFile then return d
  let name ← d.locate? path
  guard !(d.isDirectory name)
  return { d with files := (name, content) :: d.files }

/-- The computer that has only a directory. -/
def computer (config? : Option String) : Host (StateM Directory) where
  environment name := return if name == Simulator.configVariable then config? else none
  environmentFile := return (← get).file? ".env"
  read? path := return (← get).file? path
  write path content := modifyGet fun d =>
    match d.write? path content with
    | some d => (true, d)
    | none => (false, d)
  print text := modify fun d => { d with output := d.output ++ text }
  complain text := modify fun d => { d with errors := d.errors ++ text }

/-- Runs the simulator in the directory. Returns its exit code and the directory afterwards. -/
def simulate (d : Directory) (config? : Option String) (arguments : List String) :
    UInt32 × Directory :=
  (Simulator.main (computer config?) arguments).run d

end Directory

end RasterGpu
