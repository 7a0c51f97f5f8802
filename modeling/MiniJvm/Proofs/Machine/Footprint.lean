import MiniJvm.ClassFile.Layout
import MiniJvm.Proofs.Machine.Printing

/-!
What a step may change besides the frames. Of the objects that are there it changes at most one, and in that
one an element of an array or a field of an instance; only four instructions do that. Static instances
and classes are added by the instructions that prepare a class and, for classes, by calls. Text comes to
the output from a call of a print method and from nothing else.
-/

namespace MiniJvm

open Effect Activation

/-- The instructions that prepare the class they name. -/
def Instr.Prepares : Instr → Prop
  | .getstatic _ | .putstatic _ | .new _ => True
  | _ => False

/-- How an instruction changes an object: at most one element of an array, or one field of an instance. -/
inductive Instr.Rewrites : Instr → HeapObject → HeapObject → Prop
  | ints {old new : Array Int32} (slot : Nat) (size : new.size = old.size)
      (others : ∀ i : Nat, i ≠ slot → new[i]? = old[i]?) : Rewrites .iastore (.ints old) (.ints new)
  | chars {old new : Array UInt16} (slot : Nat) (size : new.size = old.size)
      (others : ∀ i : Nat, i ≠ slot → new[i]? = old[i]?) : Rewrites .castore (.chars old) (.chars new)
  | field {instr : Instr} {className : String} {old new : Fields} (key : String)
      (stores : ∃ index, instr = .putfield index ∨ instr = .putstatic index)
      (set : ∃ value, new.get? key = some value)
      (others : ∀ name, name ≠ key → new.get? name = old.get? name) :
      Rewrites instr (.instanceOf className old) (.instanceOf className new)

namespace Heap

/-- What was on the heap is there unchanged. -/
def Keeps (old new : Heap) : Prop :=
  ∀ (address : Nat) (object : HeapObject),
    old.objects[address]? = some object → new.objects[address]? = some object

/-- What was on the heap is there unchanged, but for one object that an instruction has rewritten. -/
inductive Altered (instr : Instr) (succeeds : Prop) (old new : Heap) : Prop
  | kept (keeps : old.Keeps new)
  | rewritten {address : Nat} {before after : HeapObject} (done : succeeds)
      (rewrites : instr.Rewrites before after) (here : old.objects[address]? = some before)
      (there : new.objects[address]? = some after)
      (others : ∀ other object, other ≠ address →
        old.objects[other]? = some object → new.objects[other]? = some object)

variable {instr : Instr} {succeeds : Prop} {old middle new : Heap}

theorem keeps_refl (heap : Heap) : heap.Keeps heap :=
  fun _ _ found => found

theorem Keeps.trans (early : old.Keeps middle) (late : middle.Keeps new) : old.Keeps new :=
  fun address object found => late address object (early address object found)

theorem keeps_push (heap : Heap) (object : HeapObject) : heap.Keeps (heap.push object) :=
  fun _ _ found => getElem?_push_lt found

theorem Altered.of_keeps (altered : Altered instr succeeds middle new) (keeps : old.Keeps middle) :
    Altered instr succeeds old new := by
  cases altered with
  | kept late => exact .kept (keeps.trans late)
  | @rewritten address before after done rewrites here there others =>
    cases known : old.objects[address]? with
    | none =>
      refine .kept fun other object found => others other object ?_ (keeps other object found)
      rintro rfl
      rw [known] at found
      cases found
    | some object =>
      cases (keeps address object known).symm.trans here
      exact .rewritten done rewrites known there fun other object apart found =>
        others other object apart (keeps other object found)

theorem Altered.size_le (altered : Altered instr succeeds old new) : old.size ≤ new.size := by
  rcases Nat.lt_or_ge new.size old.size with shrunk | grown
  · have inside : new.size < old.objects.size := shrunk
    have found : old.objects[new.size]? = some old.objects[new.size] := by simp [inside]
    have missing : new.objects[new.size]? = none := by simp [size]
    cases altered with
    | kept keeps =>
      rw [keeps _ _ found] at missing
      cases missing
    | @rewritten address before after _ _ _ there others =>
      by_cases same : new.size = address
      · rw [same, there] at missing
        cases missing
      · rw [others _ _ same found] at missing
        cases missing
  · exact grown

theorem altered_modify (heap : Heap) (address : Nat) (change : HeapObject → HeapObject)
    (done : succeeds) (rewrites : ∀ object, instr.Rewrites object (change object) ∨ change object = object) :
    Altered instr succeeds heap ⟨heap.objects.modify address change⟩ := by
  have others (other : Nat) (object : HeapObject) (apart : other ≠ address)
      (found : heap.objects[other]? = some object) :
      (heap.objects.modify address change)[other]? = some object := by
    rw [Array.getElem?_modify, if_neg (Ne.symm apart)]
    exact found
  have here (object : HeapObject) (found : heap.objects[address]? = some object) :
      (heap.objects.modify address change)[address]? = some (change object) := by
    rw [Array.getElem?_modify, if_pos rfl, found]
    rfl
  cases known : heap.objects[address]? with
  | none =>
    refine .kept fun other object found => others other object ?_ found
    rintro rfl
    rw [known] at found
    cases found
  | some object =>
    rcases rewrites object with changed | same
    · exact .rewritten done changed known (here object known) others
    · refine .kept fun other found there => ?_
      by_cases apart : other = address
      · subst apart
        cases known.symm.trans there
        rw [here _ known, same]
      · exact others other found apart there

theorem altered_setInt (heap : Heap) (address slot : Nat) (value : Int32) (done : succeeds) :
    Altered .iastore succeeds heap (heap.setInt address slot value) := by
  refine altered_modify heap address _ done fun object => ?_
  cases object with
  | ints values =>
    refine .inl (.ints slot (Array.size_setIfInBounds ..) fun i apart => ?_)
    exact Array.getElem?_setIfInBounds_ne (Ne.symm apart)
  | _ => exact .inr rfl

theorem altered_setChar (heap : Heap) (address slot : Nat) (unit : UInt16) (done : succeeds) :
    Altered .castore succeeds heap (heap.setChar address slot unit) := by
  refine altered_modify heap address _ done fun object => ?_
  cases object with
  | chars units =>
    refine .inl (.chars slot (Array.size_setIfInBounds ..) fun i apart => ?_)
    exact Array.getElem?_setIfInBounds_ne (Ne.symm apart)
  | _ => exact .inr rfl

theorem altered_setField (heap : Heap) (address : Nat) (name : String) (value : Value)
    (stores : ∃ index, instr = .putfield index ∨ instr = .putstatic index) (done : succeeds) :
    Altered instr succeeds heap (heap.setField address name value) := by
  refine altered_modify heap address _ done fun object => ?_
  cases object with
  | instanceOf className fields =>
    refine .inl (.field name stores ⟨value, ?_⟩ fun key apart => ?_)
    · rw [Fields.get?_set, if_pos rfl]
    · rw [Fields.get?_set, if_neg apart]
  | _ => exact .inr rfl

end Heap

namespace Shared

/-- Objects, static instances and classes have been added at most. -/
structure Grows (old new : Shared) : Prop where
  heap : old.heap.Keeps new.heap
  statics : old.statics <+: new.statics
  classes : old.classes <+: new.classes
  output : new.output = old.output

theorem Deed.grows {registers : Bool} {old new : Shared} (deed : Deed registers old new) :
    old.Grows new := by
  have registering (name : String) (fields : Fields) : old.Grows (old.registering name fields) :=
    ⟨Heap.keeps_push _ _, List.prefix_append _ _, List.prefix_refl _, rfl⟩
  cases deed with
  | report log => exact ⟨Heap.keeps_refl _, List.prefix_refl _, List.prefix_refl _, rfl⟩
  | load absent read => exact ⟨Heap.keeps_refl _, List.prefix_refl _, List.prefix_append _ _, rfl⟩
  | platform _ _ => exact registering _ _
  | user _ _ _ _ => exact registering _ _
  | system _ =>
    have streams : old.heap.Keeps old.streaming.heap :=
      (Heap.keeps_push _ _).trans (Heap.keeps_push _ _)
    exact ⟨streams.trans (Heap.keeps_push _ _), List.prefix_append _ _, List.prefix_refl _, rfl⟩

theorem Deeds.grows {registers : Bool} {old new : Shared} (deeds : Deeds registers old new) :
    old.Grows new := by
  induction deeds with
  | refl => exact ⟨Heap.keeps_refl _, List.prefix_refl _, List.prefix_refl _, rfl⟩
  | tail _ last ih =>
    have grows := last.grows
    exact ⟨ih.heap.trans grows.heap, ih.statics.trans grows.statics,
      ih.classes.trans grows.classes, grows.output.trans ih.output⟩

theorem Deeds.sameStore {old new : Shared} (deeds : Deeds false old new) : SameStore old new := by
  induction deeds with
  | refl => exact ⟨rfl, rfl⟩
  | tail _ last ih =>
    cases last with
    | report log => exact ⟨ih.heap, ih.statics⟩
    | load absent read => exact ⟨ih.heap, ih.statics⟩

end Shared

namespace Exec

open Shared

variable {a b : Activation} {instr : Instr} {succeeds : Prop} {middle new : Shared}

/-- What comes to the output: the text of the argument after the receiver of a print method, and the end of
the line if the method is the one that ends it. -/
def PrintsOut (heap : Heap) (a : Activation) (instr : Instr) (printed : String) : Prop :=
  ∃ method receiver arguments rest text, Calls a instr method (receiver :: arguments) rest ∧
    method.className = Platform.printStreamClass ∧ Displays heap arguments text ∧
    (method.name = "println" ∧ printed = text ++ "\n" ∨ method.name = "print" ∧ printed = text)

/-- What an instruction leaves of the shared state. -/
structure Footprint (a : Activation) (instr : Instr) (succeeds : Prop) (new : Shared) : Prop where
  objects : Heap.Altered instr succeeds a.shared.heap new.heap
  statics : a.shared.statics <+: new.statics
  staticsBy : new.statics = a.shared.statics ∨ instr.Prepares
  classes : a.shared.classes <+: new.classes
  classesBy : new.classes = a.shared.classes ∨ instr.Prepares ∨ instr.Invokes
  output : new.output = a.shared.output ∨ succeeds ∧ ∃ printed, PrintsOut a.shared.heap a instr printed ∧
    new.output = { a.shared.output with text := a.shared.output.text ++ printed }

theorem footprint_refl (a : Activation) (instr : Instr) (succeeds : Prop) :
    Footprint a instr succeeds a.shared :=
  ⟨.kept (Heap.keeps_refl _), List.prefix_refl _, .inl rfl, List.prefix_refl _, .inl rfl, .inl rfl⟩

theorem Footprint.same (footprint : Footprint a instr succeeds middle) (same : middle.Same new) :
    Footprint a instr succeeds new := by
  obtain ⟨log, rfl⟩ := same
  exact { footprint with }

theorem footprint_heap {heap : Heap} (objects : Heap.Altered instr succeeds a.shared.heap heap) :
    Footprint a instr succeeds { a.shared with heap } :=
  { footprint_refl a instr succeeds with objects }

theorem footprint_prepared {heap : Heap} (prepares : instr.Prepares) (grows : a.shared.Grows middle)
    (objects : Heap.Altered instr succeeds middle.heap heap) :
    Footprint a instr succeeds { middle with heap } :=
  ⟨objects.of_keeps grows.heap, grows.statics, .inr prepares, grows.classes, .inr (.inl prepares),
    .inl grows.output⟩

theorem footprint_prepares (prepares : instr.Prepares) (grows : a.shared.Grows new) :
    Footprint a instr succeeds new :=
  footprint_prepared prepares grows (.kept (Heap.keeps_refl _))

theorem footprint_invokes (invokes : instr.Invokes) (deeds : Deeds false a.shared new) :
    Footprint a instr succeeds new := by
  have grows := deeds.grows
  exact ⟨.kept grows.heap, grows.statics, .inl deeds.sameStore.statics, grows.classes,
    .inr (.inr invokes), .inl grows.output⟩

theorem footprint_touches (touches : instr.Touches a.shared new) :
    Footprint a instr succeeds new := by
  cases instr with
  | getstatic index => exact footprint_prepares trivial (Deeds.grows touches)
  | putstatic index => exact footprint_prepares trivial (Deeds.grows touches)
  | new index => exact footprint_prepares trivial (Deeds.grows touches)
  | invokestatic index => exact footprint_invokes trivial touches
  | invokevirtual index => exact footprint_invokes trivial touches
  | invokespecial index => exact footprint_invokes trivial touches
  | _ => exact (footprint_refl a _ succeeds).same touches

theorem Calls.invokes {method : MemberRef} {values rest : List Value}
    (calls : Calls a instr method values rest) : instr.Invokes := by
  cases calls with
  | static _ _ _ => trivial
  | virtual _ _ _ => trivial
  | special _ _ _ => trivial

theorem prepares_of_asks {pool : Pool} {className : String}
    (asks : instr.prepares? pool = some className) : instr.Prepares := by
  cases instr with
  | getstatic index => trivial
  | putstatic index => trivial
  | new index => trivial
  | _ => cases asks

theorem Executes.footprint {control : Control} (executes : Executes a instr control b)
    (done : control = .proceed → succeeds) : Footprint a instr succeeds b.shared := by
  cases executes with
  | works _ _ same => exact (footprint_refl a instr succeeds).same same
  | makes object _ _ same => exact (footprint_heap (.kept (Heap.keeps_push _ _))).same same
  | iastore _ _ same => exact (footprint_heap (Heap.altered_setInt _ _ _ _ (done rfl))).same same
  | castore _ _ same => exact (footprint_heap (Heap.altered_setChar _ _ _ _ (done rfl))).same same
  | getfield _ _ _ same => exact (footprint_refl a _ succeeds).same same
  | putfield _ _ _ _ _ same =>
    exact (footprint_heap (Heap.altered_setField _ _ _ _ ⟨_, .inl rfl⟩ (done rfl))).same same
  | getstatic _ deeds _ _ _ => exact footprint_prepares trivial deeds.grows
  | putstatic _ deeds _ _ _ _ stores =>
    rw [stores]
    exact footprint_prepared trivial deeds.grows
      (Heap.altered_setField _ _ _ _ ⟨_, .inr rfl⟩ (done rfl))
  | pending asks deeds _ _ => exact footprint_prepares (prepares_of_asks asks) deeds.grows
  | newPlatform _ _ same => exact (footprint_heap (.kept (Heap.keeps_push _ _))).same same
  | new _ deeds _ _ _ same =>
    exact Footprint.same (footprint_prepared trivial deeds.grows (.kept (Heap.keeps_push _ _))) same
  | call calls deeds _ _ _ => exact footprint_invokes calls.invokes deeds
  | @prints instr method receiver arguments rest native text b calls builtIn shown _ same =>
    obtain ⟨stream, printed⟩ := native?_some builtIn text
    rcases same with onOutput | onErrors
    · obtain ⟨log, same⟩ := onOutput
      rw [same]
      refine { footprint_refl a _ succeeds with output := .inr ⟨done rfl, written native text, ?_, rfl⟩ }
      exact ⟨method, receiver, arguments, rest, text, calls, stream, shown, printed⟩
    · obtain ⟨log, same⟩ := onErrors
      rw [same]
      exact { footprint_refl a _ succeeds with }

end Exec

namespace Machine

open Exec Shared

/-- A step whose instruction cannot be decoded does nothing to the shared state but report. -/
theorem footprint_step (machine : Machine) :
    machine.shared.Same (final (step machine)).shared ∨
      ∃ instr a, machine.AboutTo instr a ∧ machine.shared.Same a.shared ∧
        Footprint a instr (step machine = .ok () (final (step machine)))
          (final (step machine)).shared := by
  have steps := stepsTo machine
  generalize step machine = result at steps ⊢
  cases steps with
  | idle _ => exact .inl (same_refl _)
  | undecoded _ _ same => exact .inl same
  | fails running read same _ touches =>
    exact .inr ⟨_, _, ⟨_, _, running, read⟩, same, footprint_touches touches⟩
  | @executes instr control top below a b running read same _ executes =>
    refine .inr ⟨instr, a, ⟨top, below, running, read⟩, same, ?_⟩
    refine (executes.footprint fun proceeds => ?_).same (same_apply control b.frame below b.shared)
    subst proceeds
    rfl

/-- Every object that was there is there unchanged, except that a successful store into an array changes at
most one element of one array of its kind and a successful store into a field sets at most one field of one
instance. No object is lost. Static instances are added only by the instructions that prepare a class, and
classes only by these and by calls. Text comes to the output only from a successful call of a print method:
that of the argument after the receiver, or none if there is no such argument, and for one of the two methods
the end of the line. Such a call, if it succeeds, puts that text behind what has been printed before, unless its
receiver is the error stream. -/
theorem step_footprint (machine : Machine) :
    machine.shared.heap.size ≤ (final (step machine)).shared.heap.size ∧
    (machine.shared.heap.Keeps (final (step machine)).shared.heap ∨
      ∃ instr a address before after, machine.AboutTo instr a ∧
        step machine = .ok () (final (step machine)) ∧ instr.Rewrites before after ∧
        machine.shared.heap.objects[address]? = some before ∧
        (final (step machine)).shared.heap.objects[address]? = some after ∧
        ∀ (other : Nat) (object : HeapObject), other ≠ address →
          machine.shared.heap.objects[other]? = some object →
          (final (step machine)).shared.heap.objects[other]? = some object) ∧
    machine.shared.statics <+: (final (step machine)).shared.statics ∧
    ((final (step machine)).shared.statics = machine.shared.statics ∨
      ∃ instr a, machine.AboutTo instr a ∧ instr.Prepares) ∧
    machine.shared.classes <+: (final (step machine)).shared.classes ∧
    ((final (step machine)).shared.classes = machine.shared.classes ∨
      ∃ instr a, machine.AboutTo instr a ∧ (instr.Prepares ∨ instr.Invokes)) ∧
    ((final (step machine)).shared.output = machine.shared.output ∨
      ∃ instr a printed, machine.AboutTo instr a ∧ step machine = .ok () (final (step machine)) ∧
        PrintsOut machine.shared.heap a instr printed ∧
        (final (step machine)).shared.output =
          { machine.shared.output with text := machine.shared.output.text ++ printed }) ∧
    ∀ instr a index onReceiver method, machine.AboutTo instr a →
      instr.calls? = some (index, onReceiver) → a.frame.classFile.pool.methodRef index = .ok method →
      method.className = "java/io/PrintStream" → (method.name = "println" ∨ method.name = "print") →
      step machine = .ok () (final (step machine)) →
        Prints machine.shared a instr method (final (step machine)).shared := by
  have positive (instr : Instr) (a : Activation) (index : UInt16) (onReceiver : Bool) (method : MemberRef)
      (about : machine.AboutTo instr a) (calls : instr.calls? = some (index, onReceiver))
      (named : a.frame.classFile.pool.methodRef index = .ok method)
      (stream : method.className = "java/io/PrintStream")
      (prints : method.name = "println" ∨ method.name = "print")
      (ran : step machine = .ok () (final (step machine))) :
      Prints machine.shared a instr method (final (step machine)).shared :=
    step_prints about calls named stream prints ran
  rcases footprint_step machine with ⟨log, same⟩ | ⟨instr, a, about, ⟨log, before⟩, footprint⟩
  · -- Without the log, the shared state is the same.
    refine ⟨?_, .inl ?_, ?_, .inl ?_, ?_, .inl ?_, .inl ?_, positive⟩
    · exact same ▸ Nat.le_refl machine.shared.heap.size
    · exact same ▸ Heap.keeps_refl machine.shared.heap
    · exact same ▸ List.prefix_refl machine.shared.statics
    · exact same ▸ rfl
    · exact same ▸ List.prefix_refl machine.shared.classes
    · exact same ▸ rfl
    · exact same ▸ rfl
  · obtain ⟨objects, statics, staticsBy, classes, classesBy, output⟩ := footprint
    rw [before] at objects statics staticsBy classes classesBy output
    refine ⟨objects.size_le, ?_, statics, ?_, classes, ?_, ?_, positive⟩
    · cases objects with
      | kept keeps => exact .inl keeps
      | @rewritten address old new done rewrites here there others =>
        exact .inr ⟨instr, a, address, old, new, about, done, rewrites, here, there, others⟩
    · exact staticsBy.imp_right fun prepares => ⟨instr, a, about, prepares⟩
    · exact classesBy.imp_right fun cause => ⟨instr, a, about, cause⟩
    · refine output.imp_right ?_
      rintro ⟨done, printed, prints, appended⟩
      exact ⟨instr, a, printed, about, done, prints, appended⟩

/-- A class whose entry point prints minus five, with the end of the line, on the standard output. -/
def reportBytes : Array UInt8 :=
  (Layout.u4 ClassFile.magic ++ Layout.u2 0 ++ Layout.u2 52 ++
    Entry.encodePool [.utf8 "Report", .classRef 1, .utf8 "java/lang/System", .classRef 3, .utf8 "out",
      .utf8 "Ljava/io/PrintStream;", .nameAndType 5 6, .fieldRef 4 7, .utf8 "java/io/PrintStream",
      .classRef 9, .utf8 "println", .utf8 "(I)V", .nameAndType 11 12, .methodRef 10 13, .utf8 mainName,
      .utf8 mainDescriptor, .utf8 "Code"] ++
    Layout.u2 0 ++ Layout.u2 2 ++ Layout.u2 0 ++ Layout.u2 0 ++
    Layout.counted Member.layout [] ++
    Layout.counted Member.layout
      [⟨mainFlags, 15, 16, mainName, mainDescriptor,
        [.code 17 2 1 #[178, 0, 8, 16, 251, 182, 0, 14, 177] [] []]⟩] ++
    Attribute.layoutAll []).toArray

/-- Something has been printed before, and the call of the print method comes next. -/
def reportMachine : Machine :=
  after [.define reportBytes, .start 0 "Report", .step, .step]
    (fresh "" Disk.empty ⟨"> ", none, false⟩ 0)

def printlnInt : MemberRef :=
  ⟨10, 13, ⟨9, "java/io/PrintStream"⟩, ⟨11, 12, "println", "(I)V"⟩⟩

/-- The text comes behind the one that was there. -/
theorem report_printed :
    reportMachine.shared.output.text = "> " ∧
      (final (step reportMachine)).shared.output.text = "> " ++ "-5\n" ∧
      (final (step reportMachine)).shared.errors = "" ∧
      2 ≤ (final (step reportMachine)).shared.heap.size := by
  have facts :
      reportMachine.frames.map Frame.stack =
        [[.int (-5), .reference 0 "Ljava/io/PrintStream"]] ∧
      reportMachine.frames.map (fun top => value? (decoded ⟨top, reportMachine.shared⟩)) =
        [some (.invokevirtual 14)] ∧
      reportMachine.frames.map (fun top => (top.classFile.pool.methodRef 14).toOption) =
        [some printlnInt] ∧
      (MethodType.parse printlnInt.descriptor).toOption = some ⟨[.int], none⟩ ∧
      reportMachine.shared.heap.objects[0]? = some (Platform.stream 1) ∧
      2 ≤ reportMachine.shared.heap.size ∧ reportMachine.shared.output.text = "> " ∧
      reportMachine.shared.errors = "" ∧ value? (step reportMachine) = some () := by
    decide +kernel
  obtain ⟨stacked, decodes, names, typed, object, size, before, silent, succeeds⟩ := facts
  obtain ⟨top, running⟩ := List.length_eq_one_iff.1 (by simpa using congrArg List.length stacked)
  have read : value? (decoded ⟨top, reportMachine.shared⟩) = some (.invokevirtual 14) := by
    simpa [running] using decodes
  obtain ⟨code, _, sameFrame⟩ := decoded_frame (eq_ok_of_value? read)
  have stack : top.stack = [.int (-5), .reference 0 "Ljava/io/PrintStream"] := by
    simpa [running] using stacked
  have named : top.classFile.pool.methodRef 14 = .ok printlnInt :=
    eq_ok_of_toOption (by simpa [running] using names)
  have prints := (step_footprint reportMachine).2.2.2.2.2.2.2 (.invokevirtual 14) _ 14 true printlnInt
    ⟨top, [], running, eq_ok_of_value? read⟩ rfl (by rw [sameFrame]; exact named) rfl (.inl rfl)
    (eq_ok_of_value? succeeds)
  obtain ⟨calls, shown, line, onOutput, _⟩ := prints
  cases calls with
  | virtual _ parsed taken =>
    cases parsed.symm.trans (eq_ok_of_toOption typed)
    simp only [sameFrame, stack] at taken
    -- The operand and the receiver are read off the stack, and the text off the operand.
    cases taken with
    | cons others first =>
      cases others with
      | nil =>
        have standard : ¬ ErrorStream reportMachine.shared.heap (.reference 0 "Ljava/io/PrintStream") := by
          rintro ⟨stored, number⟩
          cases object.symm.trans stored
          exact absurd number (by decide)
        obtain ⟨added, quiet⟩ := onOutput standard
        rw [before] at added
        refine ⟨before, added.trans (congrArg ("> " ++ ·) ?_), quiet.trans silent,
          Nat.le_trans size (step_footprint reportMachine).1⟩
        cases first with
        | int converted =>
          cases converted
          cases shown with
          | value displayed =>
            cases displayed
            rcases line with ⟨_, rfl⟩ | ⟨other, _⟩
            · decide
            · exact absurd other (by decide)

end Machine

end MiniJvm
