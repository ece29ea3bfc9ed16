/-
  The program `rulecheck`: the commands, carried out on the files of the system.
-/
import TableRules.Command.Plan

namespace TableRules

/-- Reads the files that exist, each by its path. -/
def readFiles (paths : List String) : IO (List (String × ByteArray)) := do
  let mut files := []
  for path in paths do
    try files := (path, ← IO.FS.readBinFile path) :: files
    catch _ => pure ()
  return files

/-- Carries out one effect; did it succeed? -/
def performEffect : Effect → IO Bool
  | .print text => do
    (← IO.getStdout).putStr text
    return true
  | .write path content => do
    try
      IO.FS.writeFile path content
      return true
    catch e =>
      IO.eprintln ("Error: I/O error: " ++ toString e)
      return false

/-- Carries out effects in order, up to one that fails; the exit status. -/
def performAll (status : Nat) : List Effect → IO UInt32
  | [] => return status.toUInt32
  | effect :: effects => do
    if ← performEffect effect then performAll status effects else return 1

end TableRules

open TableRules in
/-- Runs the command of the argument list. -/
def main (arguments : List String) : IO UInt32 := do
  match Command.ofArguments? arguments with
  | none =>
    IO.eprintln "usage: rulecheck (validate | parse | rules) [options]"
    return 2
  | some command =>
    let files ← readFiles command.inputs
    let plan := command.plan fun path => List.lookup path files
    for line in plan.log do IO.eprintln line
    performAll plan.status plan.effects
