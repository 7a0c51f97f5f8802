import MiniJvm.Proofs.Machine.Execution.Step

/-!
Printing. A call of a print method that succeeds prints the text of its argument, on the error stream if that
is the receiver and on the output otherwise.
-/

namespace MiniJvm

open Effect Activation

namespace Exec

open Shared

variable {a : Activation} {instr : Instr} {index : UInt16} {onReceiver : Bool} {method : MemberRef}

/-- What a print method has printed: the text of the argument after the receiver, and the end of the line if it
is the method that ends it. -/
inductive Prints (old : Shared) (a : Activation) (instr : Instr) (method : MemberRef)
    (new : Shared) : Prop
  | intro {receiver : Value} {arguments rest : List Value} {text printed : String}
      (calls : Calls a instr method (receiver :: arguments) rest)
      (shown : Displays old.heap arguments text)
      (line : method.name = "println" ∧ printed = text ++ "\n" ∨
        method.name = "print" ∧ printed = text)
      (onOutput : ¬ ErrorStream old.heap receiver →
        new.output.text = old.output.text ++ printed ∧ new.errors = old.errors)
      (onErrors : ErrorStream old.heap receiver →
        new.output = old.output ∧ new.errors = old.errors ++ printed)

theorem native?_some {className name : String} {native : Platform.Native}
    (builtIn : Platform.native? className name = some native) (text : String) :
    className = Platform.printStreamClass ∧
      (name = "println" ∧ written native text = text ++ "\n" ∨
        name = "print" ∧ written native text = text) := by
  unfold Platform.native? at builtIn
  split at builtIn
  next stream =>
    refine ⟨stream, ?_⟩
    split at builtIn
    next line =>
      cases builtIn
      exact .inl ⟨line, rfl⟩
    next =>
      split at builtIn
      next plain =>
        cases builtIn
        exact .inr ⟨plain, rfl⟩
      next => cases builtIn
  next => cases builtIn

theorem native?_of_name {name : String} (prints : name = "println" ∨ name = "print") :
    ∃ native, Platform.native? Platform.printStreamClass name = some native := by
  rcases prints with rfl | rfl
  · exact ⟨.println, rfl⟩
  · exact ⟨.print, rfl⟩

theorem ends_prints (calls : instr.calls? = some (index, onReceiver))
    (named : a.frame.classFile.pool.methodRef index = .ok method)
    (stream : method.className = Platform.printStreamClass)
    (prints : method.name = "println" ∨ method.name = "print") :
    Ends (execute instr) a
      (fun control b => control = .proceed ∧ Prints a.shared a instr method b.shared)
      fun _ => True := by
  refine ends_call calls trivial ?_ ?_
  · intro found rest shared same constructor
    cases named.symm.trans same
    rw [constructor] at prints
    exact absurd prints (by decide)
  · intro found values rest same called _ _
    cases named.symm.trans same
    obtain ⟨native, builtIn⟩ := native?_of_name prints
    rw [← stream] at builtIn
    have platform : Platform.isPlatform method.className = true := stream ▸ by decide
    unfold dispatch callNative
    rw [if_pos platform, builtIn]
    refine ends_bind (ends_report _) ?_
    rintro _ _ rfl
    refine ends_bind (ends_run native values trivial) ?_
    rintro _ b ⟨receiver, arguments, text, rfl, shown, printed⟩
    refine ends_pure ⟨rfl, ?_⟩
    rcases printed with ⟨output, rfl⟩ | ⟨errors, rfl⟩
    · exact .intro called shown (native?_some builtIn text).2
        (fun _ => ⟨Sink.append_text _ _, rfl⟩) fun errors => absurd errors output
    · exact .intro called shown (native?_some builtIn text).2
        (fun output => absurd errors output) fun _ => ⟨rfl, rfl⟩

end Exec

namespace Machine

open Exec Shared

theorem step_prints {machine later : Machine} {instr : Instr} {a : Activation} {index : UInt16}
    {onReceiver : Bool} {method : MemberRef} (about : machine.AboutTo instr a)
    (calls : instr.calls? = some (index, onReceiver))
    (named : a.frame.classFile.pool.methodRef index = .ok method)
    (stream : method.className = Platform.printStreamClass)
    (prints : method.name = "println" ∨ method.name = "print") (ran : step machine = .ok () later) :
    Prints machine.shared a instr method later.shared := by
  obtain ⟨top, below, instr', a', control, b, running, read, executed, applied⟩ := step_ok ran
  obtain ⟨rfl, rfl⟩ := about.unique ⟨top, below, running, read⟩
  obtain ⟨rfl, called, shown, line, onOutput, onErrors⟩ :=
    (ends_prints calls named stream prints).done executed
  cases applied
  obtain ⟨log, same⟩ : machine.shared.Same a.shared := (ends_decoded _).done read
  rw [same] at shown onOutput onErrors
  exact .intro called shown line onOutput onErrors

end Machine

end MiniJvm
