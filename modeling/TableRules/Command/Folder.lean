/-
  FOLDERS: the least world in which a plan can be carried out.

  1. **Paths** — a folder holds files by name and no other folders.  Steps of a path that are
     empty or a point stay where they are, so `.//d.csv` is `d.csv`; but a file has no steps
     below it, so `d.csv/` and `d.csv/.` lead nowhere.

  2. **Surroundings** — of what is outside of the folder, there are the devices: one that reads
     as empty and forgets what is written, and one that prints it.  Files beside the folder and
     temporary files can be written, but are none of the files to be read.

  3. **Running** — `Folder.execute` carries out the plan of a command and says what it leaves
     behind: exit status, printed text and files.
-/
import TableRules.Command.Plan

namespace TableRules

/-- The files of a directory, the latest content of each first. -/
structure Folder where
  files : List (String × String)

namespace Folder

/-! ## Paths -/

/-- What a path leads to. -/
inductive Target where
  /-- A name in the folder, of a file that is there or may be created. -/
  | file (name : String)
  /-- Something outside of the folder that may be created. -/
  | elsewhere
  /-- A device that is empty and stays so. -/
  | nothing
  /-- The device that prints. -/
  | printer
deriving DecidableEq

/-- The greatest number of bytes of a name. -/
def maxNameSize : Nat := 255

/-- The greatest number of bytes of a path. -/
def maxPathSize : Nat := 4095

/-- Can a file have that name? -/
def isFileName (name : String) : Bool :=
  name ∉ ["", ".", ".."] && name.utf8ByteSize ≤ maxNameSize

/-- Where the steps of a path lead that stands for itself, from the root of all files. -/
def absolute? : List String → Option Target
  | ["dev", device] =>
    if device ∈ ["null", "stdin", "stderr"] then some .nothing
    else if device = "stdout" then some .printer
    else none
  | ["tmp", name] => if isFileName name then some .elsewhere else none
  | _ => none

/-- Where the steps of a path lead from the folder. -/
def relative? : List String → Option Target
  | [name] => if isFileName name then some (.file name) else none
  | ["..", name] => if isFileName name then some .elsewhere else none
  | _ => none

/-- What a path leads to, if anything.  Steps that stay where they are do not matter as long as
    no name comes before them. -/
def target? (path : String) : Option Target :=
  if maxPathSize < path.utf8ByteSize then none
  else
    let steps := (Text.split '/' path).dropWhile fun step => step = "" ∨ step = "."
    if path.toList.head? = some '/' then absolute? steps else relative? steps

/-! ## Reading and writing -/

/-- The content of what a path leads to. -/
def read? (folder : Folder) (path : String) : Option String :=
  match target? path with
  | some (.file name) => folder.files.lookup name
  | some .nothing => some ""
  | _ => none

/-- Writes to what a path leads to; what is printed by that comes first. -/
def write? (folder : Folder) (path content : String) : Option (String × Folder) :=
  match target? path with
  | some (.file name) => some ("", ⟨(name, content) :: folder.files⟩)
  | some .printer => some (content, folder)
  | some .elsewhere | some .nothing => some ("", folder)
  | none => none

/-! ## Running -/

/-- What a program leaves behind. -/
structure Aftermath where
  status : Nat
  printed : String
  folder : Folder

/-- Carries out effects in order, up to a file that cannot be written. -/
def perform (folder : Folder) (status : Nat) : List Effect → Aftermath
  | [] => ⟨status, "", folder⟩
  | .print text :: effects =>
    let rest := perform folder status effects
    { rest with printed := text ++ rest.printed }
  | .write path content :: effects =>
    match folder.write? path content with
    | none => ⟨1, "", folder⟩
    | some (text, folder) =>
      let rest := perform folder status effects
      { rest with printed := text ++ rest.printed }

/-- Runs the program in a directory. -/
def execute (folder : Folder) (arguments : List String) : Aftermath :=
  match Command.ofArguments? arguments with
  | none => ⟨2, "", folder⟩
  | some command =>
    let plan := command.plan fun path => (folder.read? path).map String.toUTF8
    folder.perform plan.status plan.effects

example : relative? ["d.csv"] = some (.file "d.csv") ∧ relative? ["d.csv", ""] = none := by
  decide +kernel
example : target? ".//d.csv" = some (.file "d.csv") ∧ target? "d.csv/." = none := by decide +kernel
example : target? "" = none ∧ target? ".." = none := by decide +kernel

end Folder

end TableRules
