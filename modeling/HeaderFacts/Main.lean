import HeaderFacts.CommandLine.Run

/-!
# The program

Carries out a command line on the machine.
-/

namespace HeaderFacts

/-- How a failure of the machine's file system is seen by a run. -/
def FileFault.ofSystem : IO.Error → FileFault
  | .noFileOrDirectory _ _ _ => .missing
  | .noSuchThing _ _ _ => .missing
  | .inappropriateType _ _ _ => .directory
  | e => .other (toString e)

/-- Whether a step of the machine succeeds. -/
def succeeds (step : IO Unit) : IO Bool := do
  match ← step.toBaseIO with
  | .ok () => return true
  | .error _ => return false

/-- The machine. Nothing is logged. -/
def Machine.ofSystem : Machine IO where
  isFile path := do
    match ← (IO.FS.readBinFile path).toBaseIO with
    | .ok _ => return true
    | .error _ => return false
  read path := do
    match ← (IO.FS.readBinFile path).toBaseIO with
    | .ok bytes => return .ok bytes
    | .error e => return .error (.ofSystem e)
  write path text := do
    match ← (IO.FS.writeFile path text).toBaseIO with
    | .ok () => return .ok ()
    | .error e => return .error (.ofSystem e)
  print text := do succeeds ((← IO.getStdout).putStr text)
  complain text := do succeeds ((← IO.getStderr).putStr text)
  openLog := return true
  log _ := return true

end HeaderFacts

/-- Runs the program. -/
def main (args : List String) : IO UInt32 :=
  HeaderFacts.execute HeaderFacts.Machine.ofSystem .standard args
