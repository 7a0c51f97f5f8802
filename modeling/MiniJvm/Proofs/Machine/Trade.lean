import MiniJvm.Proofs.Machine.Control

/-!
What an instruction does with the operand stack of its frame: it takes a number of values from the top,
puts a number of values there, and does not touch what lies below. Both numbers are known from the
instruction and, for calls, from the descriptor that it names. Apart from jumps and from the preparation
of a class, nothing else of the frame changes but the local variables.
-/

namespace MiniJvm

open Effect

/-- Values are taken from a stack and others are put there; what lies below is not touched. -/
def Trade (pops pushes : Nat) (old new : List Value) : Prop :=
  ∃ taken given base, old = taken ++ base ∧ new = given ++ base ∧
    taken.length = pops ∧ given.length = pushes

theorem trade_refl (stack : List Value) : Trade 0 0 stack stack :=
  ⟨[], [], stack, rfl, rfl, rfl, rfl⟩

/-- What is taken after something else has been taken lies below it. -/
theorem Trade.after {p q r : Nat} {old middle new : List Value} (late : Trade q r middle new)
    (early : Trade p 0 old middle) : Trade (q + p) r old new := by
  obtain ⟨taken, given, base, rfl, rfl, rfl, nothing⟩ := early
  obtain rfl := List.eq_nil_of_length_eq_zero nothing
  obtain ⟨more, result, rest, below, rfl, rfl, rfl⟩ := late
  refine ⟨taken ++ more, result, rest, ?_, rfl, ?_, rfl⟩
  · rw [List.append_assoc, ← below, List.nil_append]
  · rw [List.length_append, Nat.add_comm]

theorem Trade.le {pops pushes : Nat} {old new : List Value} (trade : Trade pops pushes old new) :
    pops ≤ old.length := by
  obtain ⟨taken, given, base, rfl, rfl, rfl, rfl⟩ := trade
  simp

/-- No static instance has been registered, and every class that was known still is. -/
structure Shared.Calm (old new : Shared) : Prop where
  statics : new.statics = old.statics
  classes : old.classes <+: new.classes

theorem Shared.calm_refl (shared : Shared) : shared.Calm shared :=
  ⟨rfl, List.prefix_refl _⟩

theorem Shared.Calm.trans {first second third : Shared} (early : first.Calm second)
    (late : second.Calm third) : first.Calm third :=
  ⟨late.statics.trans early.statics, early.classes.trans late.classes⟩

theorem Shared.calm_load (name : String) (shared : Shared) :
    shared.Calm (final (load name shared)) := by
  refine ⟨(sameStore_load name shared).statics, ?_⟩
  unfold load
  split
  · exact List.prefix_refl _
  · dsimp only
    split
    · exact List.prefix_append _ _
    · exact List.prefix_refl _

/-- Only the operand stack and the local variables of the running frame have changed. -/
structure Activation.Steady (old new : Activation) : Prop where
  frame : ∃ stack locals, new.frame = { old.frame with stack, locals }
  shared : old.shared.Calm new.shared

theorem Activation.steady_refl (a : Activation) : a.Steady a :=
  ⟨⟨a.frame.stack, a.frame.locals, rfl⟩, a.shared.calm_refl⟩

theorem Activation.Steady.trans {a b c : Activation} (early : a.Steady b) (late : b.Steady c) :
    a.Steady c := by
  obtain ⟨⟨_, _, sameEarly⟩, calm⟩ := early
  obtain ⟨⟨stack, locals, sameLate⟩, calmLate⟩ := late
  refine ⟨⟨stack, locals, ?_⟩, calm.trans calmLate⟩
  rw [sameLate, sameEarly]

namespace Exec

open Activation

variable {α β : Type} {a : Activation} {p q r : Nat}

/-- A computation that trades on the operand stack. If it fails, it has not registered a static instance,
and the cause is not a jump. -/
structure Trades (pops pushes : Nat) (exec : Exec α) (a : Activation) : Prop where
  done : ∀ ⦃value : α⦄ ⦃b : Activation⦄, exec a = .ok value b →
    Trade pops pushes a.frame.stack b.frame.stack ∧ a.Steady b
  failed : ∀ ⦃fault : Fault⦄ ⦃b : Activation⦄, exec a = .error fault b →
    a.shared.Calm b.shared ∧ ¬ fault.IsStray

theorem trades_pure (value : α) : Trades 0 0 (pure value) a where
  done _ b ran := by
    obtain ⟨_, rfl⟩ := pure_ok.1 ran
    exact ⟨trade_refl _, steady_refl _⟩
  failed _ _ ran := nomatch ran

theorem trades_throw {fault : Fault} (ordinary : fault.Ordinary) :
    Trades p q (throw fault : Exec α) a where
  done _ _ ran := nomatch ran
  failed _ _ ran := by
    cases ran
    exact ⟨a.shared.calm_refl, ordinary.not_stray⟩

/-- Only taking can come before something else. -/
theorem trades_bind {first : Exec α} {next : α → Exec β} (start : Trades p 0 first a)
    (rest : ∀ value b, first a = .ok value b → Trades q r (next value) b) :
    Trades (q + p) r (first >>= next) a where
  done _ _ ran := by
    obtain ⟨value, b, early, late⟩ := bind_ok.1 ran
    obtain ⟨trade, steady⟩ := start.done early
    obtain ⟨tradeLate, steadyLate⟩ := (rest value b early).done late
    exact ⟨tradeLate.after trade, steady.trans steadyLate⟩
  failed _ _ ran := by
    rcases bind_error.1 ran with early | ⟨value, b, early, late⟩
    · exact start.failed early
    · obtain ⟨calm, direct⟩ := (rest value b early).failed late
      exact ⟨(start.done early).2.shared.trans calm, direct⟩

theorem trades_keep {first : Exec α} {next : α → Exec β} (start : Trades 0 0 first a)
    (rest : ∀ value b, first a = .ok value b → Trades q r (next value) b) :
    Trades q r (first >>= next) a :=
  trades_bind start rest

theorem trades_take {first : Exec α} {next : α → Exec β} (start : Trades 1 0 first a)
    (rest : ∀ value b, first a = .ok value b → Trades q r (next value) b) :
    Trades (q + 1) r (first >>= next) a :=
  trades_bind start rest

theorem trades_throw_bind {fault : Fault} {next : α → Exec β} (ordinary : fault.Ordinary) :
    Trades p q (throw fault >>= next) a where
  done _ _ ran := nomatch ran
  failed _ _ ran := by
    cases ran
    exact ⟨a.shared.calm_refl, ordinary.not_stray⟩

theorem trades_map {exec : Exec α} (f : α → β) (trades : Trades p q exec a) :
    Trades p q (f <$> exec) a where
  done _ _ ran := by
    obtain ⟨_, ran, _⟩ := map_ok.1 ran
    exact trades.done ran
  failed _ _ ran := by
    rw [map_eq_pure_bind] at ran
    rcases bind_error.1 ran with early | ⟨_, _, _, late⟩
    · exact trades.failed early
    · cases late

theorem trades_bind_pure {exec : Exec α} (f : α → β) (trades : Trades p q exec a) :
    Trades p q (exec >>= fun value => pure (f value)) a := by
  rw [bind_pure_comp]
  exact trades_map f trades

theorem trades_ite {c : Prop} [Decidable c] {yes no : Exec α} (holds : Trades p q yes a)
    (fails : Trades p q no a) : Trades p q (if c then yes else no) a := by
  split
  · exact holds
  · exact fails

theorem trades_check {result : Except Fault α} (only : ErrsOnly Fault.Ordinary result) :
    Trades 0 0 (check result) a where
  done _ _ ran := by
    obtain ⟨_, rfl⟩ := check_ok.1 ran
    exact ⟨trade_refl _, steady_refl _⟩
  failed _ _ ran := by
    unfold check at ran
    split at ran
    · cases ran
    · cases ran
      exact ⟨a.shared.calm_refl, (only rfl).not_stray⟩

theorem trades_ofFrame {question : Frame → Except Fault α}
    (only : ErrsOnly Fault.Ordinary (question a.frame)) : Trades 0 0 (ofFrame question) a := by
  have checked : Trades 0 0 (check (question a.frame)) a := trades_check only
  exact ⟨checked.done, checked.failed⟩

theorem trades_pooled {find : Pool → Except Fault α}
    (only : ErrsOnly Fault.OfFile (find a.frame.classFile.pool)) : Trades 0 0 (pooled find) a :=
  trades_ofFrame (only.mono fun _ => Fault.OfFile.ordinary)

/-! ### The running frame -/

theorem trades_onFrame {action : Frame.Action α}
    (done : ∀ value frame, action a.frame = .ok value frame →
      Trade p q a.frame.stack frame.stack ∧ ∃ stack locals, frame = { a.frame with stack, locals })
    (failed : ∀ fault frame, action a.frame = .error fault frame → fault.Ordinary) :
    Trades p q (onFrame action) a where
  done value b ran := by
    obtain ⟨acted, same⟩ := onFrame_ok ran
    obtain ⟨trade, frame⟩ := done value b.frame acted
    exact ⟨trade, frame, same ▸ a.shared.calm_refl⟩
  failed _ _ ran := by
    unfold onFrame at ran
    split at ran
    · cases ran
    next refused =>
      cases ran
      exact ⟨a.shared.calm_refl, (failed _ _ refused).not_stray⟩

theorem trades_push (value : Value) : Trades 0 1 (push value) a := by
  apply trades_onFrame
  · rintro _ _ ⟨⟩
    exact ⟨⟨[], [value], a.frame.stack, rfl, rfl, rfl, rfl⟩, _, _, rfl⟩
  · rintro _ _ ⟨⟩

theorem trades_pop : Trades 1 0 (onFrame Frame.pop) a := by
  unfold Frame.pop
  apply trades_onFrame
  · intro value frame popped
    split at popped
    next stack shape =>
      cases popped
      exact ⟨⟨[value], [], stack, shape, rfl, rfl, rfl⟩, _, _, rfl⟩
    next => cases popped
  · intro fault frame popped
    split at popped
    · cases popped
    · cases popped
      trivial

theorem trades_dup : Trades 1 2 (onFrame Frame.dup) a := by
  unfold Frame.dup
  apply trades_onFrame
  · intro _ frame copied
    split at copied
    next value stack shape =>
      cases copied
      exact ⟨⟨[value], [value, value], stack, shape, rfl, rfl, rfl⟩, _, _, rfl⟩
    next => cases copied
  · intro fault frame copied
    split at copied
    · cases copied
    · cases copied
      trivial

theorem trades_getLocal (index : Nat) : Trades 0 0 (onFrame (Frame.getLocal index)) a := by
  unfold Frame.getLocal
  apply trades_onFrame
  · intro value frame found
    split at found
    · cases found
      exact ⟨trade_refl _, _, _, rfl⟩
    · cases found
    · cases found
  · intro fault frame found
    split at found
    · cases found
    · cases found
      trivial
    · cases found
      trivial

theorem trades_setLocal (index : Nat) (value : Value) :
    Trades 0 0 (onFrame (Frame.setLocal index value)) a := by
  unfold Frame.setLocal
  apply trades_onFrame
  · intro _ frame stored
    split at stored
    · cases stored
      exact ⟨trade_refl _, _, _, rfl⟩
    · cases stored
  · intro fault frame stored
    split at stored
    · cases stored
    · cases stored
      trivial

theorem trades_popInt : Trades 1 0 popInt a := by
  unfold popInt Frame.popInt
  rw [onFrame_bind]
  refine trades_take trades_pop fun value b _ => ?_
  cases value.toInt? with
  | some int => exact trades_pure int
  | none => exact trades_throw trivial

theorem trades_popReference (tag : String) : Trades 1 0 (popReference tag) a := by
  unfold popReference Frame.popReference
  rw [onFrame_bind]
  refine trades_take trades_pop fun value b _ => ?_
  cases value with
  | reference address found =>
    by_cases same : found = tag
    · simp only [if_pos same]
      exact trades_pure address
    · simp only [if_neg same]
      exact trades_throw trivial
  | _ => exact trades_throw trivial

theorem trades_popAny : Trades 1 0 popAny a := by
  unfold popAny Frame.popAny
  rw [onFrame_bind]
  refine trades_take trades_pop fun value b _ => ?_
  cases value with
  | reference address tag => exact trades_pure (address, tag)
  | _ => exact trades_throw trivial

/-! ### The shared state -/

theorem trades_onShared {action : Shared.Action α}
    (kept : a.shared.Calm (final (action a.shared)))
    (failed : ∀ fault shared, action a.shared = .error fault shared → ¬ fault.IsStray) :
    Trades 0 0 (onShared action) a where
  done _ b ran := by
    obtain ⟨acted, same⟩ := onShared_ok ran
    rw [acted] at kept
    rw [same]
    exact ⟨trade_refl _, ⟨_, _, same⟩, kept⟩
  failed _ _ ran := by
    unfold onShared at ran
    split at ran
    · cases ran
    next refused =>
      cases ran
      rw [refused] at kept
      exact ⟨kept, failed _ _ refused⟩

theorem trades_report (event : Event) : Trades 0 0 (onShared (Shared.report event)) a :=
  trades_onShared ⟨rfl, List.prefix_refl _⟩ fun _ _ refused => nomatch refused

theorem trades_allocate (object : HeapObject) : Trades 0 0 (onShared (Shared.allocate object)) a :=
  trades_onShared ⟨rfl, List.prefix_refl _⟩ fun _ _ refused => nomatch refused

theorem trades_changeHeap (change : Heap → Heap) :
    Trades 0 0 (onShared (Shared.changeHeap change)) a :=
  trades_onShared ⟨rfl, List.prefix_refl _⟩ fun _ _ refused => nomatch refused

theorem trades_asking {question : Heap → Except Fault α}
    (only : ErrsOnly (fun fault => ¬ fault.IsStray) (question a.shared.heap)) :
    Trades 0 0 (onShared (Shared.asking question)) a := by
  unfold Shared.asking
  apply trades_onShared
  · split
    · exact ⟨rfl, List.prefix_refl _⟩
    · exact ⟨rfl, List.prefix_refl _⟩
  · intro fault shared refused
    split at refused
    · cases refused
    next unanswered =>
      cases refused
      exact only unanswered

/-- A question about one address. -/
theorem trades_askingAt {question : Heap → Except Fault α} {address : Nat}
    (only : ErrsOnly (a.shared.heap.Refuses address) (question a.shared.heap)) :
    Trades 0 0 (onShared (Shared.asking question)) a :=
  trades_asking (only.mono fun _ => Heap.Refuses.not_stray)

theorem trades_load (name : String) : Trades 0 0 (onShared (Shared.load name)) a := by
  apply trades_onShared (Shared.calm_load name _)
  intro fault shared refused
  unfold Shared.load at refused
  split at refused
  · cases refused
  · dsimp only at refused
    split at refused
    · cases refused
    next unread =>
      cases refused
      exact (errsOnly_classOnDisk _ _ _ unread).not_stray

theorem trades_write (text : String) : Trades 0 0 (onShared (Shared.write text)) a := by
  unfold Shared.write
  apply trades_onShared
  · split
    · exact ⟨rfl, List.prefix_refl _⟩
    · exact ⟨rfl, List.prefix_refl _⟩
  · intro fault shared refused
    split at refused
    · cases refused
    · cases refused
      exact id

theorem trades_writeError (text : String) : Trades 0 0 (onShared (Shared.writeError text)) a :=
  trades_onShared ⟨rfl, List.prefix_refl _⟩ fun _ _ refused => nomatch refused

theorem trades_setInt (address : Nat) (index value : Int32) :
    Trades 0 0 (onShared (Shared.setInt address index value)) a := by
  unfold Shared.setInt
  rw [onShared_bind]
  refine trades_keep (trades_askingAt (Heap.errsOnly_intSlot _ address index)) fun slot b _ => ?_
  rw [onShared_bind]
  exact trades_bind_pure (fun _ => slot) (trades_changeHeap _)

theorem trades_setChar (address : Nat) (index : Int32) (unit : UInt16) :
    Trades 0 0 (onShared (Shared.setChar address index unit)) a := by
  unfold Shared.setChar
  rw [onShared_bind]
  refine trades_keep (trades_askingAt (Heap.errsOnly_charSlot _ address index)) fun slot b _ => ?_
  rw [onShared_bind]
  exact trades_bind_pure (fun _ => slot) (trades_changeHeap _)

theorem trades_setField (address : Nat) (name : String) (value : Value) :
    Trades 0 0 (onShared (Shared.setField address name value)) a := by
  unfold Shared.setField
  rw [onShared_bind]
  exact trades_keep (trades_askingAt (Heap.errsOnly_fields _ address)) fun _ _ _ =>
    trades_changeHeap _

end Exec

end MiniJvm
