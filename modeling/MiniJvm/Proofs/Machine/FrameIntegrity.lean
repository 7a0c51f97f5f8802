import Mathlib
import MiniJvm.Proofs.Layout.ClassFile
import MiniJvm.Proofs.Machine.Supply

/-!
The integrity of frames. A frame runs a method of its class, on the code of that method and with as many local
variables as the code declares, and it never points behind the end of the code. So an instruction can always be
started over, and the operations of a step that have no result on some operands are not tried on these.
-/

namespace MiniJvm

open Effect Activation

def ClassFile.Accepted (classFile : ClassFile) : Prop :=
  ∃ bytes, ClassFile.parse bytes = .ok classFile

theorem ClassFile.Accepted.code_size {classFile : ClassFile} (accepted : classFile.Accepted)
    {method : Member} (declared : method ∈ classFile.methods) {code : Code}
    (found : method.code? = some code) : code.bytes.size < 2 ^ 32 := by
  obtain ⟨bytes, parsed⟩ := accepted
  obtain ⟨stored, wellFormed, _, rfl⟩ := ClassFile.parse_eq_ok.1 parsed
  obtain ⟨original, member, rfl⟩ := List.mem_map.1 declared
  obtain ⟨nested, listed, isCode⟩ := List.exists_of_findSome?_eq_some found
  have formed := (wellFormed.linked.methods original member).attributes nested listed
  cases formed with
  | code _ length _ _ _ =>
    cases isCode
    exact length
  | _ => cases isCode

namespace Frame

/-- The frame runs a method of its class on the code of the method, and does not point behind its end. -/
structure WellFormed (frame : Frame) : Prop where
  method : frame.classFile.methods[frame.methodIndex]? = some frame.method
  code : ∃ code, frame.method.code? = some code ∧ frame.code.bytes = code.bytes ∧
    frame.locals.length = code.maxLocals.toNat
  pc : frame.pc ≤ frame.code.size
  start : frame.start ≤ frame.code.size

theorem wellFormed_enter {classFile : ClassFile} {methodIndex : Nat} {arguments : List Value}
    {frame : Frame} (entered : Frame.enter classFile methodIndex arguments = .ok frame) :
    frame.WellFormed := by
  unfold Frame.enter at entered
  split at entered
  · cases entered
  next method declared =>
    split at entered
    · cases entered
    next code found =>
      dsimp only at entered
      split at entered
      · cases entered
      next fits =>
        cases entered
        refine ⟨declared, ⟨code, found, rfl, ?_⟩, Nat.zero_le _, Nat.zero_le _⟩
        simp only [List.length_append, List.length_map, List.length_replicate]
        omega

theorem WellFormed.change {delivers : Bool} {a b : Activation} (change : Change delivers a b)
    (wellFormed : a.frame.WellFormed) : b.frame.WellFormed := by
  obtain ⟨method, ⟨code, found, bytes, locals⟩, pc, start⟩ := wellFormed
  cases change with
  | move moved same =>
    refine ⟨method, ⟨code, found, same.trans bytes, locals⟩, moved.inside, ?_⟩
    show a.frame.start ≤ moved.bytes.size
    rw [same]
    exact start
  | begin => exact ⟨method, ⟨code, found, bytes, locals⟩, pc, pc⟩
  | setLocal index value backed =>
    exact ⟨method, ⟨code, found, bytes, List.length_set.trans locals⟩, pc, start⟩
  | _ => exact ⟨method, ⟨code, found, bytes, locals⟩, pc, start⟩

theorem restart_succeeds {frame : Frame} (start : frame.start ≤ frame.code.size) :
    ∃ later, Frame.restart frame = .ok () later ∧ later.pc = frame.start := by
  have inside : 0 ≤ (frame.start : Int) ∧ (frame.start : Int) ≤ frame.code.bytes.size :=
    ⟨Int.natCast_nonneg _, Int.ofNat_le.2 start⟩
  have jumped : Cursor.jumpTo frame.start frame.code =
      .ok frame.start ⟨frame.code.bytes, frame.start, start⟩ := by
    unfold Cursor.jumpTo
    rw [dif_pos inside]
    rfl
  refine ⟨{ frame with code := ⟨frame.code.bytes, frame.start, start⟩ }, ?_, rfl⟩
  refine map_ok.2 ⟨frame.start, ?_, rfl⟩
  unfold Frame.reading
  rw [jumped]

end Frame

namespace Machine

open Exec

/-- Operations that have no result on some operands. -/
inductive Partial where
  | element (index : Int) (length : Nat)
  | difference (left right : Nat)
  /-- Adding an offset to a position, as signed words of 64 bits. -/
  | sum (position : Nat) (offset : Int)

/-- The operands are those of a result. -/
def Partial.Defined : Partial → Prop
  | .element index length => 0 ≤ index ∧ index < length
  | .difference left right => right ≤ left
  | .sum position offset => -2 ^ 63 ≤ position + offset ∧ position + offset < 2 ^ 63

/-- Such operations on the way of the next step. -/
inductive Performs (machine : Machine) : Partial → Prop
  | ends {top : Frame} {below : List Frame} (running : machine.frames = top :: below)
      (ended : top.code.isExhausted = true) :
      Performs machine (.element top.methodIndex top.classFile.methods.length)
  | leaves {top : Frame} {below : List Frame} {value : Option Value} {b : Activation}
      (running : machine.frames = top :: below)
      (ran : instruction ⟨top, machine.shared⟩ = .ok (.leave value) b) :
      Performs machine (.element b.frame.methodIndex b.frame.classFile.methods.length)
  | enters {top frame : Frame} {below : List Frame} {classFile : ClassFile} {methodIndex : Nat}
      {arguments : List Value} {b : Activation} (running : machine.frames = top :: below)
      (ran : instruction ⟨top, machine.shared⟩ = .ok (.call classFile methodIndex arguments) b)
      (entered : Frame.enter classFile methodIndex arguments = .ok frame) :
      Performs machine (.element frame.methodIndex frame.classFile.methods.length)
  /-- Of too many arguments, the last is named by its position. -/
  | refuses {top : Frame} {below : List Frame} {classFile : ClassFile} {methodIndex slot size : Nat}
      {arguments : List Value} {b : Activation} (running : machine.frames = top :: below)
      (ran : instruction ⟨top, machine.shared⟩ = .ok (.call classFile methodIndex arguments) b)
      (refused : Frame.enter classFile methodIndex arguments = .error (.localOutOfBounds slot size)) :
      Performs machine (.difference arguments.length 1)
  | loads {instr : Instr} {a : Activation} {index : Value} {position : Int32} {array length : Nat}
      {tag : String} {rest : List Value} {slot : Fin length} (about : machine.AboutTo instr a)
      (loads : instr = .iaload ∨ instr = .caload)
      (operands : a.frame.stack = index :: .reference array tag :: rest)
      (shown : index.toInt? = some position) (sized : a.shared.heap.arrayLength array = .ok length)
      (inside : Heap.elementIndex position length = .ok slot) :
      Performs machine (.element position.toInt length)
  | stores {instr : Instr} {a : Activation} {value index : Value} {position : Int32}
      {array length : Nat} {tag : String} {rest : List Value} {slot : Fin length}
      (about : machine.AboutTo instr a) (stores : instr = .iastore ∨ instr = .castore)
      (operands : a.frame.stack = value :: index :: .reference array tag :: rest)
      (shown : index.toInt? = some position) (sized : a.shared.heap.arrayLength array = .ok length)
      (inside : Heap.elementIndex position length = .ok slot) :
      Performs machine (.element position.toInt length)
  /-- Constants are numbered from one, and number zero is refused before. -/
  | looks {top : Frame} {below : List Frame} {index : UInt16} (running : machine.frames = top :: below)
      (passed : top.classFile.pool.get index ≠ .error (.brokenReference index .constant .zero)) :
      Performs machine (.difference index.toNat 1)
  | jumps {instr : Instr} {a : Activation} {offset : Int} (about : machine.AboutTo instr a)
      (taken : instr.decides? a.frame.stack = some (true, offset)) :
      Performs machine (.sum a.frame.pc offset)

theorem elementIndex_defined {position : Int32} {length : Nat} {slot : Fin length}
    (inside : Heap.elementIndex position length = .ok slot) :
    Partial.Defined (.element position.toInt length) := by
  unfold Heap.elementIndex at inside
  split at inside
  next bounds =>
    show 0 ≤ position.toInt ∧ position.toInt < length
    omega
  next => cases inside

theorem get_defined {pool : Pool} {index : UInt16}
    (passed : pool.get index ≠ .error (.brokenReference index .constant .zero)) :
    Partial.Defined (.difference index.toNat 1) := by
  have nonzero : index ≠ 0 := by
    intro zero
    apply passed
    unfold Pool.get
    rw [if_pos zero]
  have positive : index.toNat ≠ 0 := fun zero => nonzero (UInt16.toNat_inj.1 zero)
  exact Nat.pos_of_ne_zero positive

theorem enter_defined {classFile : ClassFile} {methodIndex slot size : Nat} {arguments : List Value}
    (refused : Frame.enter classFile methodIndex arguments = .error (.localOutOfBounds slot size)) :
    Partial.Defined (.difference arguments.length 1) := by
  unfold Frame.enter at refused
  split at refused
  · cases refused
  · split at refused
    · cases refused
    · dsimp only at refused
      split at refused
      next more => exact Nat.lt_of_le_of_lt (Nat.zero_le _) more
      next => cases refused

/-- Branch offsets are words of 16 bits, counted from behind the instruction. -/
theorem offset_bounds {top : Frame} {shared : Shared} {instr : Instr} {a : Activation} {taken : Bool}
    {offset : Int} (read : decoded ⟨top, shared⟩ = .ok instr a)
    (decides : instr.decides? a.frame.stack = some (taken, offset)) :
    -2 ^ 15 - 3 ≤ offset ∧ offset < 2 ^ 15 := by
  obtain ⟨opcode, _, _, encodes⟩ := decoded_encodes read
  obtain ⟨⟨condition, distance⟩, branches, holds⟩ := Option.bind_eq_some_iff.1 decides
  obtain ⟨_, _, same⟩ := Option.map_eq_some_iff.1 holds
  cases same
  rw [encodes.branching] at branches
  obtain ⟨_, _, same⟩ := Option.map_eq_some_iff.1 branches
  cases same
  have least := Int16.le_toInt top.operand.toInt16
  have most := Int16.toInt_lt top.operand.toInt16
  omega

def Intact (frame : Frame) : Prop :=
  frame.WellFormed ∧ frame.classFile.Accepted

theorem carried_intact (available : ClassFile → Prop)
    (accepted : ∀ classFile, available classFile → classFile.Accepted) : Carried available Intact where
  entered := by
    intro classFile methodIndex arguments frame offered entered
    refine ⟨Frame.wellFormed_enter entered, ?_⟩
    rw [(Frame.begins_of_enter entered).1]
    exact accepted classFile offered
  changed := by
    intro delivers a b change intact
    refine ⟨intact.1.change change, ?_⟩
    rw [change.keeps.1.classFile]
    exact intact.2
  received := fun _ _ intact => ⟨⟨intact.1.method, intact.1.code, intact.1.pc, intact.1.start⟩, intact.2⟩

theorem Intact.method_defined {frame : Frame} (wellFormed : frame.WellFormed) :
    Partial.Defined (.element frame.methodIndex frame.classFile.methods.length) := by
  have inside := (List.getElem?_eq_some_iff.1 wellFormed.method).1
  exact ⟨Int.natCast_nonneg _, Int.ofNat_lt.2 inside⟩

theorem Intact.code_size {frame : Frame} (intact : Intact frame) : frame.code.size < 2 ^ 32 := by
  obtain ⟨code, found, bytes, _⟩ := intact.1.code
  have size := intact.2.code_size (List.mem_of_getElem? intact.1.method) found
  rw [← bytes] at size
  exact size

theorem Intact.changes {delivers : Bool} {a b : Activation} (intact : Intact a.frame)
    (changes : Changes delivers a b) : Intact b.frame :=
  (carried_intact ClassFile.Accepted fun _ => id).changes changes intact

theorem intact_aboutTo {machine : Machine} {instr : Instr} {a : Activation} (sound : machine.Sound)
    (intact : ∀ frame ∈ machine.frames, Intact frame) (about : machine.AboutTo instr a) :
    Intact a.frame := by
  obtain ⟨frames, shared⟩ := machine
  obtain ⟨top, below, running, read⟩ := about
  cases running
  have changes : Changes false ⟨top, shared⟩ a := conducts_decoded.changes sound.activation read
  exact Intact.changes (intact top (List.mem_cons_self ..)) changes

theorem performs_defined {machine : Machine} {operation : Partial} (sound : machine.Sound)
    (intact : ∀ frame ∈ machine.frames, Intact frame) (performs : machine.Performs operation) :
    operation.Defined := by
  cases performs with
  | @ends top below running ended =>
    have member : top ∈ machine.frames := running ▸ List.mem_cons_self ..
    exact Intact.method_defined (intact top member).1
  | @leaves top below value b running ran =>
    obtain ⟨frames, shared⟩ := machine
    cases running
    have conduct := conducts_instruction sound.activation
    rw [ran] at conduct
    exact Intact.method_defined ((intact top (List.mem_cons_self ..)).changes conduct.1).1
  | enters _ _ entered => exact Intact.method_defined (Frame.wellFormed_enter entered)
  | refuses _ _ refused => exact enter_defined refused
  | loads _ _ _ _ _ inside => exact elementIndex_defined inside
  | stores _ _ _ _ _ inside => exact elementIndex_defined inside
  | looks _ passed => exact get_defined passed
  | @jumps instr a offset about taken =>
    have here := intact_aboutTo sound intact about
    obtain ⟨top, below, running, read⟩ := about
    have bounds := offset_bounds read taken
    have inside := here.1.pc
    have size := here.code_size
    show -2 ^ 63 ≤ (a.frame.pc : Int) + offset ∧ (a.frame.pc : Int) + offset < 2 ^ 63
    omega

theorem classOnDisk_accepted {classpath name : String} {disk : Disk} {classFile : ClassFile}
    (read : Shared.classOnDisk classpath disk name = .ok classFile) : classFile.Accepted := by
  unfold Shared.classOnDisk at read
  dsimp only at read
  split at read
  · cases read
  next bytes stored =>
    split at read
    · cases read
    next parsed accepted =>
      split at read
      · cases read
        exact ⟨bytes, accepted⟩
      · cases read

theorem available_accepted {classpath : String} {disk : Disk} {operations : List Operation}
    (accepted : ∀ classFile, .enterMain classFile ∈ operations → classFile.Accepted)
    (classFile : ClassFile) (offered : Available classpath disk operations classFile) :
    classFile.Accepted := by
  rcases offered with ⟨name, read⟩ | ⟨operation, member, offers⟩
  · exact classOnDisk_accepted read
  · cases operation with
    | define bytes => exact ⟨bytes, offers⟩
    | enterMain entered =>
      cases offers
      exact accepted _ member
    | files other =>
      obtain ⟨name, read⟩ := offers
      exact classOnDisk_accepted read
    | _ => exact offers.elim

/-- Along every history that enters only class files that have been read, all frames are intact. -/
theorem supplied_intact {classpath : String} {disk : Disk} {output : Sink} {logLimit : Nat}
    {operations : List Operation}
    (accepted : ∀ classFile, .enterMain classFile ∈ operations → classFile.Accepted) :
    Supplied (Available classpath disk operations) classpath Intact
      (after operations (fresh classpath disk output logLimit)) :=
  (supplied_along (Q := fun _ => True) (carried_intact _ (available_accepted accepted))
    (fun _ _ _ _ => trivial) trivial).1

/-- After every history that enters only class files that have been read, all frames are well-formed. So each
can start its instruction over, before the next step and in its course, the step performs no operation on
operands that have no result, and it ends with a machine or with a fault. -/
theorem frames_stay_well_formed (classpath : String) (disk : Disk) (output : Sink) (logLimit : Nat)
    (operations : List Operation)
    (accepted : ∀ classFile, .enterMain classFile ∈ operations → classFile.Accepted) (machine : Machine)
    (reached : machine = after operations (fresh classpath disk output logLimit)) :
    (∀ frame ∈ machine.frames, frame.WellFormed) ∧
    (∀ frame ∈ machine.frames, ∃ later, Frame.restart frame = .ok () later ∧ later.pc = frame.start) ∧
    (∀ instr a, machine.AboutTo instr a →
      ∃ later, Frame.restart a.frame = .ok () later ∧ later.pc = a.frame.start) ∧
    (∀ operation, machine.Performs operation → operation.Defined) ∧
    ∃ later, step machine = .ok () later ∨ ∃ fault, step machine = .error fault later := by
  have supplied : Supplied (Available classpath disk operations) classpath Intact machine :=
    reached ▸ supplied_intact accepted
  refine ⟨fun frame member => (supplied.frames frame member).1, ?_, ?_, ?_, ?_⟩
  · intro frame member
    exact Frame.restart_succeeds (supplied.frames frame member).1.start
  · intro instr a about
    exact Frame.restart_succeeds (intact_aboutTo supplied.sound supplied.frames about).1.start
  · intro operation performs
    exact performs_defined supplied.sound supplied.frames performs
  · cases step machine with
    | ok _ later => exact ⟨later, .inl rfl⟩
    | error fault later => exact ⟨later, .inr ⟨fault, rfl⟩⟩

def strayBytes : Array UInt8 :=
  (Layout.u4 ClassFile.magic ++ Layout.u2 0 ++ Layout.u2 52 ++
    Entry.encodePool [.utf8 "Stray", .classRef 1, .utf8 mainName, .utf8 mainDescriptor, .utf8 "Code"] ++
    Layout.u2 0 ++ Layout.u2 2 ++ Layout.u2 0 ++ Layout.u2 0 ++ Layout.counted Member.layout [] ++
    Layout.counted Member.layout
      [⟨mainFlags, 3, 4, mainName, mainDescriptor, [.code 5 1 1 #[3, 167, 127, 255] [] []]⟩] ++
    Attribute.layoutAll []).toArray

def strayMachine : Machine :=
  after [.define strayBytes, .start 10 "Stray"] (fresh "" Disk.empty Sink.unbounded 0)

theorem stray_frame_well_formed :
    strayMachine.frames.map (fun frame => (frame.pc, frame.start, frame.locals.length)) = [(4, 1, 1)] ∧
      ∀ frame ∈ strayMachine.frames, frame.WellFormed ∧
        (∃ later, Frame.restart frame = .ok () later ∧ later.pc = 1) ∧
        frame.methodIndex < frame.classFile.methods.length := by
  have facts :
      strayMachine.frames.map (fun frame => (frame.pc, frame.start, frame.locals.length)) = [(4, 1, 1)] ∧
      strayMachine.frames.map (fun frame => frame.code.isExhausted) = [true] := by
    decide +kernel
  obtain ⟨places, ended⟩ := facts
  have entersNone : ∀ classFile, Operation.enterMain classFile ∈
      [Operation.define strayBytes, .start 10 "Stray"] → classFile.Accepted := by
    intro classFile member
    simp at member
  obtain ⟨wellFormed, restarts, _, defined, _⟩ := frames_stay_well_formed "" Disk.empty Sink.unbounded 0
    [.define strayBytes, .start 10 "Stray"] entersNone strayMachine rfl
  obtain ⟨top, running⟩ := List.length_eq_one_iff.1 (by simpa using congrArg List.length places)
  refine ⟨places, fun frame member => ⟨wellFormed frame member, ?_, ?_⟩⟩
  · obtain ⟨later, ran, back⟩ := restarts frame member
    refine ⟨later, ran, back.trans ?_⟩
    rw [running] at member places
    cases List.mem_singleton.1 member
    have shown : top.pc = 4 ∧ top.start = 1 ∧ top.locals.length = 1 := by simpa using places
    exact shown.2.1
  · rw [running] at member ended
    cases List.mem_singleton.1 member
    have named := defined _ (.ends running (by simpa using ended))
    exact Int.ofNat_lt.1 named.2

end Machine

end MiniJvm
