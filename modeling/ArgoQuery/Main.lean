import ArgoQuery.CommandLine

/-!
The program: it reads its settings file and prints what the command comes to. It has no network, so
every request fails as one to a host that cannot be reached.
-/

open ArgoQuery ArgoQuery.CommandLine

/-- A random identifier of version 4. -/
def randomIdentifier : IO String := do
  let digits ← (List.range 32).mapM fun place => do
    let digit ← IO.rand 0 15
    return Nat.digitChar (if place = 12 then 4 else if place = 16 then 8 + digit % 4 else digit)
  let part (start count : Nat) := String.ofList ((digits.drop start).take count)
  return "-".intercalate [part 0 8, part 8 4, part 12 4, part 16 4, part 20 12]

/-- The content of a file, if it can be read. -/
def contentOf (path : String) : IO (Option String) := do
  try return some (← IO.FS.readFile path)
  catch _ => return none

/-- What the program leaves behind, given its arguments. -/
def outputOf (arguments : List String) : IO Output :=
  match read arguments with
  | .error refusal => return refusal.output
  | .ok given => do
    return runWithFile (← contentOf given.config) .offline (← randomIdentifier) given.command

/-- Prints the output of a command line and exits with its code. -/
def main (arguments : List String) : IO UInt32 := do
  let output ← outputOf arguments
  IO.print output.text
  return UInt32.ofNat output.exitCode
