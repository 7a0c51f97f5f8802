import MiniJvm.Machine.Basic

/-!
Runs: steps until no frame is left, until a fault, or until the given number of steps is used up.
-/

namespace MiniJvm

namespace Machine

structure Progress where
  steps : Nat
  fault : Option Fault
  machine : Machine

/-- At most `limit` steps, counted from `done`. -/
def advance (limit done : Nat) (machine : Machine) : Progress :=
  match limit with
  | 0 => ⟨done, none, machine⟩
  | limit + 1 =>
    if machine.frames.isEmpty then ⟨done, none, machine⟩
    else
      match step machine with
      | .ok _ next => advance limit (done + 1) next
      | .error fault next => ⟨done, some fault, next⟩

/-- The machine after each of at most `limit` steps, a failing one included. -/
def states (limit : Nat) (machine : Machine) : List Machine :=
  match limit with
  | 0 => []
  | limit + 1 =>
    if machine.frames.isEmpty then []
    else
      match step machine with
      | .ok _ next => next :: states limit next
      | .error _ next => [next]

inductive Ending where
  | done
  | failed (fault : Fault)
  | outOfFuel
  deriving DecidableEq

def loop (fuel : Nat) (machine : Machine) : Ending × Machine :=
  let progress := advance fuel 0 machine
  match progress.fault with
  | some fault => (.failed fault, progress.machine)
  | none =>
    if progress.machine.frames.isEmpty then (.done, progress.machine)
    else (.outOfFuel, progress.machine)

def discardFrames : Action Unit := fun machine =>
  if machine.frames.isEmpty then .ok () machine
  else
    onShared (Shared.report (.framesDiscarded machine.frames.length)) { machine with frames := [] }

def prepareStart (className : String) : Action Unit := do
  discardFrames
  let classFile ← load className
  enterMain classFile

/-- Runs the entry point of a class until no frame is left, then flushes the output. -/
def start (fuel : Nat) (className : String) (machine : Machine) : Ending × Machine :=
  match prepareStart className machine with
  | .error fault machine => (.failed fault, machine)
  | .ok _ machine =>
    match loop fuel machine with
    | (.done, machine) =>
      match flush machine with
      | .ok _ machine => (.done, machine)
      | .error fault machine => (.failed fault, machine)
    | unfinished => unfinished

def withFile (path : String) (content : Array UInt8) (machine : Machine) : Machine :=
  let shared := machine.shared
  { machine with shared := { shared with disk := shared.disk.insert path content } }

def takePrinted (machine : Machine) : String × String × Machine :=
  let shared := machine.shared
  (shared.output.text, shared.errors,
    { machine with shared := { shared with output := { shared.output with text := "" }, errors := "" } })

end Machine

end MiniJvm
