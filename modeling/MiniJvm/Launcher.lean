import MiniJvm.Machine.Run

/-!
The command line: one class to run, given by name or by file, and optionally a class path.
-/

namespace MiniJvm.Launcher

def logFile : String := "jinterp.log"

def levelVariable : String := "JINTERP_LOG"

def usage : String :=
  "usage: jinterp <ClassName | path/to/ClassName.class> [classpath]\n"

def stripSuffix? (target : String) : Option String :=
  let chars := target.toList
  let suffix := Path.classSuffix.toList
  if suffix.isSuffixOf chars then
    some (String.ofList (chars.take (chars.length - suffix.length)))
  else none

/-- The class path and the class name that a target means. A file in a directory is a class of that
directory; anything else is a class of the working directory. A given class path wins. -/
def resolve (target : String) (classpath : Option String) : String × String :=
  let name := (stripSuffix? target).getD target
  match classpath with
  | some classpath => (classpath, name)
  | none =>
    match stripSuffix? target, Path.splitFile? name with
    | some _, some (directory, file) => if directory.isEmpty then (".", name) else (directory, file)
    | _, _ => (".", name)

/-- The rank up to which a level name keeps reports; an unknown name means `info`. -/
def logLimit (level : Option String) : Nat :=
  ((level.bind Level.rankOfName?).getD Level.info.rank)

structure Outcome where
  code : Nat
  out : String
  err : String
  log : Option String

def logLine (event : Event) : String :=
  "[" ++ event.level.label ++ "] " ++ event.message ++ "\n"

def logText (log : Log) : String :=
  String.join (log.events.toList.map logLine)

def logOnDisk? (disk : Disk) : Option String :=
  (disk.read? logFile).bind fun content => String.fromUTF8? ⟨content⟩

/-- The text of the log file once a log has been written in place of what was there. A log that cannot be
written is given up. -/
def logWritten? (disk : Disk) (log : Log) : Option String :=
  if disk.creatable logFile then some (logText log) else logOnDisk? disk

def outcome (ending : Machine.Ending) (machine : Machine) : Outcome :=
  let shared := machine.shared
  match ending with
  | .failed fault =>
    { code := 1
      out := shared.output.text
      err := shared.errors ++ "error: " ++ fault.message ++ "\n"
      log := logWritten? shared.disk (shared.log.add (.failed fault)) }
  | _ =>
    { code := 0
      out := shared.output.text
      err := shared.errors
      log := logWritten? shared.disk shared.log }

def machine? (arguments : List String) (level : Option String) (disk : Disk) :
    Option (Machine × String) :=
  match arguments with
  | [] => none
  | target :: rest =>
    let (classpath, name) := resolve target rest.head?
    some (Machine.fresh classpath disk Sink.unbounded (logLimit level), name)

/-- Runs the program. Without arguments it explains its usage and leaves the log file alone. -/
def run (fuel : Nat) (arguments : List String) (level : Option String) (disk : Disk) : Outcome :=
  match machine? arguments level disk with
  | none => { code := 2, out := "", err := usage, log := logOnDisk? disk }
  | some (machine, name) =>
    let (ending, machine) := machine.start fuel name
    outcome ending machine

end MiniJvm.Launcher
