import MiniJvm.Launcher

/-!
The program: runs the machine and does for it what only the outside can do, which is to read class
files when a step first asks for them, to print, and to write the log file.
-/

namespace MiniJvm

def readFile? (path : String) : IO (Option (Array UInt8)) := do
  try
    return some (← IO.FS.readBinFile path).data
  catch _ =>
    return none

/-- Does an action. If it lacks a class whose file can be read, it is done again with that file on the
disk of the machine; nothing of the first attempt is kept. -/
partial def attempt (action : Machine.Action Unit) (machine : Machine) :
    IO (EStateM.Result Fault Machine Unit) := do
  match action machine with
  | .error (.classNotFound name path) failed =>
    match ← readFile? path with
    | some content => attempt action (machine.withFile path content)
    | none => return .error (.classNotFound name path) failed
  | result => return result

def printPending (machine : Machine) : IO Machine := do
  let (out, err, machine) := machine.takePrinted
  unless out.isEmpty do IO.print out
  unless err.isEmpty do IO.eprint err
  return machine

partial def runFrames (machine : Machine) : IO (Machine.Ending × Machine) := do
  if machine.frames.isEmpty then return (.done, machine)
  else
    match ← attempt Machine.step machine with
    | .error fault machine => return (.failed fault, machine)
    | .ok _ machine => runFrames (← printPending machine)

def runClass (name : String) (machine : Machine) : IO (Machine.Ending × Machine) := do
  match ← attempt (Machine.prepareStart name) machine with
  | .error fault machine => return (.failed fault, machine)
  | .ok _ machine => runFrames machine

def writeLog (text : String) : IO Unit := do
  try
    IO.FS.writeFile Launcher.logFile text
  catch _ =>
    return

end MiniJvm

open MiniJvm in
def main (arguments : List String) : IO UInt32 := do
  let level ← IO.getEnv Launcher.levelVariable
  match Launcher.machine? arguments level Disk.empty with
  | none =>
    IO.eprint Launcher.usage
    return 2
  | some (machine, name) =>
    let (ending, machine) ← runClass name machine
    let outcome := Launcher.outcome ending machine
    IO.print outcome.out
    (← IO.getStdout).flush
    outcome.log.forM writeLog
    IO.eprint outcome.err
    return UInt32.ofNat outcome.code
