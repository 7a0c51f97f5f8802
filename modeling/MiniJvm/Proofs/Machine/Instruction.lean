import MiniJvm.Proofs.Machine.Conduct.Calls
import MiniJvm.Proofs.Machine.Conduct.Fields

/-!
Every instruction, run on sound references, is a sequence of elementary changes: all that it does before
it can fail is preparation, it never fails for want of an object, and what it hands to the stack of
frames is backed.
-/

namespace MiniJvm

open Effect

namespace Exec

open Activation

variable {delivers : Bool} {a : Activation}

theorem conducts_execute (instr : Instr) :
    Conducts true (execute instr) a fun control b => b.shared.heap.BacksControl control := by
  cases instr with
  | iconst value => exact conducts_andProceed (conducts_push trivial)
  | ldc index => exact conducts_andProceed (conducts_ldc _)
  | load slot => exact conducts_andProceed (conducts_load_local slot)
  | store slot => exact conducts_andProceed (conducts_store slot)
  | iaload => exact conducts_andProceed conducts_iaload
  | caload => exact conducts_andProceed conducts_caload
  | iastore => exact conducts_andProceed conducts_iastore
  | castore => exact conducts_andProceed conducts_castore
  | pop => exact conducts_andProceed (conducts_map _ conducts_pop fun _ _ _ _ => trivial)
  | dup => exact conducts_andProceed conducts_dup
  | arithmetic op => exact conducts_andProceed (conducts_arithmetic op)
  | iinc slot delta => exact conducts_andProceed (conducts_iinc slot delta)
  | branchZero comparison offset => exact conducts_andProceed (conducts_branchZero _ _)
  | branchInts comparison offset => exact conducts_andProceed (conducts_branchInts _ _)
  | goto offset => exact conducts_andProceed (conducts_jump offset)
  | ireturn => exact conducts_bind_pure _ conducts_popInt fun _ _ _ _ => trivial
  | areturn => exact conducts_bind_pure _ conducts_popAny fun _ _ _ backed => backed
  | leave => exact conducts_pure trivial
  | getstatic index => exact conducts_getstatic index
  | putstatic index => exact conducts_putstatic index
  | getfield index => exact conducts_getfield index
  | putfield index => exact conducts_putfield index
  | invokevirtual index => exact conducts_invokevirtual index
  | invokespecial index => exact conducts_invokespecial index
  | invokestatic index => exact conducts_invokestatic index
  | invokedynamic index padding => exact conducts_invokedynamic index padding
  | new index => exact conducts_new index
  | newarray code => exact conducts_andProceed (conducts_newarray code)
  | arraylength => exact conducts_andProceed conducts_arraylength
  | monitor => exact conducts_andProceed conducts_monitor

/-- Fetching an opcode and reading its operands, which comes before the execution. -/
def decoded : Exec Instr := do
  let opcode ← fetch
  reportStart opcode
  onFrame (Instr.decode opcode)

theorem instruction_eq : instruction = decoded >>= execute := by
  unfold instruction decoded
  simp only [bind_assoc]

theorem conducts_nextOpcode :
    Conducts delivers (onFrame Frame.nextOpcode) a fun _ _ => True := by
  intro sound
  by_cases exhausted : a.frame.code.isExhausted
  · unfold onFrame Frame.nextOpcode
    simp only [if_pos exhausted]
    exact ⟨.refl, trivial⟩
  · -- The instruction is marked as started before its opcode is read.
    let started : Activation := { a with frame := { a.frame with start := a.frame.pc } }
    have change : Change false a started := .begin
    have read : Conducts delivers (some <$> onFrame Frame.u1) started fun _ _ => True :=
      conducts_map some conducts_u1 fun _ _ _ _ => trivial
    have same : onFrame Frame.nextOpcode a = (some <$> onFrame Frame.u1) started := by
      rw [← onFrame_map]
      unfold onFrame Frame.nextOpcode
      simp only [if_neg exhausted]
      rfl
    rw [same]
    have result := read (change.sound sound)
    cases ran : (some <$> onFrame Frame.u1 : Exec _) started with
    | ok opcode b =>
      rw [ran] at result
      exact ⟨.head change.relax result.1, trivial⟩
    | error fault b =>
      rw [ran] at result
      exact ⟨.head change result.1, result.2⟩

theorem conducts_fetch : Conducts delivers fetch a fun _ _ => True := by
  refine conducts_bind conducts_nextOpcode fun found b _ _ => ?_
  cases found with
  | some opcode => exact conducts_pure trivial
  | none => exact (conducts_ofFrame (errsOnly_error trivial)).imp fun _ _ _ _ => trivial

theorem conducts_reportStart (opcode : UInt8) :
    Conducts delivers (reportStart opcode) a fun _ _ => True :=
  conducts_bind (conducts_ofFrame (errsOnly_ok _)) fun _ _ _ _ => conducts_report _

theorem conducts_i1 : Conducts delivers (onFrame Frame.i1) a fun _ _ => True := by
  unfold Frame.i1
  rw [onFrame_bind]
  exact conducts_bind_pure _ conducts_u1 fun _ _ _ _ => trivial

theorem conducts_offset : Conducts delivers (onFrame Frame.offset) a fun _ _ => True := by
  unfold Frame.offset
  rw [onFrame_bind]
  exact conducts_bind_pure _ conducts_u2 fun _ _ _ _ => trivial

theorem conducts_decode (opcode : UInt8) :
    Conducts delivers (onFrame (Instr.decode opcode)) a fun _ _ => True := by
  unfold Instr.decode
  cases Instr.plain? opcode with
  | some instr => exact conducts_pure trivial
  | none =>
  cases Instr.byte? opcode with
  | some make =>
    dsimp only
    rw [onFrame_bind]
    exact conducts_bind_pure _ conducts_u1 fun _ _ _ _ => trivial
  | none =>
  cases Instr.branch? opcode with
  | some make =>
    dsimp only
    rw [onFrame_bind]
    exact conducts_bind_pure _ conducts_offset fun _ _ _ _ => trivial
  | none =>
  cases Instr.pooled? opcode with
  | some make =>
    dsimp only
    rw [onFrame_bind]
    exact conducts_bind_pure _ conducts_u2 fun _ _ _ _ => trivial
  | none =>
  dsimp only
  by_cases increment : opcode = 132
  · rw [if_pos increment, onFrame_bind]
    refine conducts_bind conducts_u1 fun slot b _ _ => ?_
    rw [onFrame_bind]
    exact conducts_bind_pure _ conducts_i1 fun _ _ _ _ => trivial
  · rw [if_neg increment]
    by_cases dynamic : opcode = 186
    · rw [if_pos dynamic, onFrame_bind]
      refine conducts_bind conducts_u2 fun index b _ _ => ?_
      rw [onFrame_bind]
      exact conducts_bind_pure _ conducts_u2 fun _ _ _ _ => trivial
    · rw [if_neg dynamic]
      exact fun _ => ⟨.refl, id⟩

theorem conducts_decoded : Conducts delivers decoded a fun _ _ => True :=
  conducts_bind conducts_fetch fun opcode _ _ _ =>
    conducts_bind (conducts_reportStart opcode) fun _ _ _ _ => conducts_decode opcode

theorem conducts_instruction :
    Conducts true instruction a fun control b => b.shared.heap.BacksControl control := by
  rw [instruction_eq]
  exact conducts_bind conducts_decoded fun instr _ _ _ => conducts_execute instr

end Exec

end MiniJvm
