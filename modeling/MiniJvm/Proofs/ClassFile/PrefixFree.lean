import MiniJvm.Proofs.Layout.ClassFile

/-!
No accepted file is the beginning of another. Reading never looks past the bytes it takes, so a file that
is cut short is read like the whole file up to the cut, where the bytes run out, and a file with more
bytes at its end is read like the file without them, which are left over.
-/

namespace MiniJvm

open Effect

namespace Cursor

variable {α β : Type} {c d : Cursor}

/-- The same position in a buffer that may go on further. -/
structure Within (c d : Cursor) : Prop where
  position : c.position = d.position
  bytes : c.bytes.toList <+: d.bytes.toList

def RunsOut (result : EStateM.Result Fault Cursor α) : Prop :=
  ∃ wanted remaining stopped, result = .error (.unexpectedEnd wanted remaining) stopped

/-- What is read does not depend on bytes that come later: with more of them the result is the same, and
with fewer of them it is the same or the bytes run out. -/
structure NoLookahead (read : Decode α) : Prop where
  keeps : ∀ ⦃c d : Cursor⦄ ⦃value : α⦄, read c = .ok value d → d.bytes = c.bytes
  longer : ∀ ⦃c d e : Cursor⦄ ⦃value : α⦄, c.Within d → read c = .ok value e →
    ∃ f, read d = .ok value f ∧ e.Within f
  shorter : ∀ ⦃c d f : Cursor⦄ ⦃value : α⦄, c.Within d → read d = .ok value f →
    (∃ e, read c = .ok value e ∧ e.Within f) ∨ RunsOut (read c)

theorem Within.size_le (within : c.Within d) : c.bytes.size ≤ d.bytes.size := by
  have lengths := within.bytes.length_le
  simpa only [Array.length_toList] using lengths

theorem Within.extract (within : c.Within d) {first last : Nat} (inside : last ≤ c.bytes.size) :
    d.bytes.extract first last = c.bytes.extract first last := by
  obtain ⟨more, whole⟩ := within.bytes
  have same : d.bytes = c.bytes ++ more.toArray := by
    apply Array.toList_inj.1
    simp [whole]
  simp [same, Array.extract_append, Nat.sub_eq_zero_of_le inside]

theorem noLookahead_take (count : Nat) : NoLookahead (take count) where
  keeps := fun _ _ _ read => (take_ok.1 read).2.1
  longer := by
    intro c d e taken within read
    obtain ⟨rfl, sameBytes, moved⟩ := take_ok.1 read
    have inside := e.inside
    rw [sameBytes, moved] at inside
    have fits : d.position + count ≤ d.bytes.size := by
      rw [← within.position]
      exact Nat.le_trans inside within.size_le
    refine ⟨⟨d.bytes, d.position + count, fits⟩, take_ok.2 ⟨?_, rfl, rfl⟩, ?_, ?_⟩
    · rw [← within.position]
      exact (within.extract inside).symm
    · rw [moved, within.position]
    · rw [sameBytes]
      exact within.bytes
  shorter := by
    intro c d f taken within read
    obtain ⟨rfl, sameBytes, moved⟩ := take_ok.1 read
    by_cases fits : c.position + count ≤ c.bytes.size
    · left
      refine ⟨⟨c.bytes, c.position + count, fits⟩, take_ok.2 ⟨?_, rfl, rfl⟩, ?_, ?_⟩
      · rw [← within.position]
        exact within.extract fits
      · exact (congrArg (· + count) within.position).trans moved.symm
      · rw [sameBytes]
        exact within.bytes
    · right
      refine ⟨count, c.remaining, c, ?_⟩
      unfold take
      rw [dif_neg fits]

theorem noLookahead_pure (value : α) : NoLookahead (pure value : Decode α) where
  keeps := fun _ _ _ read => congrArg Cursor.bytes (pure_ok.1 read).2.symm
  longer := by
    intro c d e result within read
    obtain ⟨rfl, rfl⟩ := pure_ok.1 read
    exact ⟨d, rfl, within⟩
  shorter := by
    intro c d f result within read
    obtain ⟨rfl, rfl⟩ := pure_ok.1 read
    exact .inl ⟨c, rfl, within⟩

/-- What never succeeds says nothing about later bytes. -/
theorem noLookahead_throw (fault : Fault) : NoLookahead (throw fault : Decode α) := by
  have fails {c d : Cursor} {value : α} : (throw fault : Decode α) c ≠ .ok value d := by
    intro read
    cases read
  exact ⟨fun _ _ _ read => absurd read fails, fun _ _ _ _ _ read => absurd read fails,
    fun _ _ _ _ _ read => absurd read fails⟩

theorem noLookahead_bind {first : Decode α} {next : α → Decode β} (start : NoLookahead first)
    (rest : ∀ value, NoLookahead (next value)) : NoLookahead (first >>= next) where
  keeps := by
    intro c d result read
    obtain ⟨value, u, readFirst, readNext⟩ := bind_ok.1 read
    exact ((rest value).keeps readNext).trans (start.keeps readFirst)
  longer := by
    intro c d e result within read
    obtain ⟨value, u, readFirst, readNext⟩ := bind_ok.1 read
    obtain ⟨w, again, withinNext⟩ := start.longer within readFirst
    obtain ⟨f, last, withinLast⟩ := (rest value).longer withinNext readNext
    exact ⟨f, bind_ok.2 ⟨value, w, again, last⟩, withinLast⟩
  shorter := by
    intro c d f result within read
    obtain ⟨value, w, readFirst, readNext⟩ := bind_ok.1 read
    rcases start.shorter within readFirst with ⟨u, again, withinNext⟩ | ⟨wanted, left, stopped, out⟩
    · rcases (rest value).shorter withinNext readNext with
        ⟨e, last, withinLast⟩ | ⟨wanted, left, stopped, out⟩
      · exact .inl ⟨e, bind_ok.2 ⟨value, u, again, last⟩, withinLast⟩
      · exact .inr ⟨wanted, left, stopped, bind_error.2 (.inr ⟨value, u, again, out⟩)⟩
    · exact .inr ⟨wanted, left, stopped, bind_error.2 (.inl out)⟩

theorem noLookahead_map {read : Decode α} (f : α → β) (plain : NoLookahead read) :
    NoLookahead (f <$> read) := by
  rw [← bind_pure_comp]
  exact noLookahead_bind plain fun value => noLookahead_pure (f value)

theorem noLookahead_ite {condition : Prop} [Decidable condition] {yes no : Decode α}
    (holds : NoLookahead yes) (fails : NoLookahead no) :
    NoLookahead (if condition then yes else no) := by
  by_cases h : condition
  · rwa [if_pos h]
  · rwa [if_neg h]

theorem noLookahead_number (width : Nat) : NoLookahead (number width) :=
  noLookahead_bind (noLookahead_take width) fun _ => noLookahead_pure _

theorem noLookahead_u1 : NoLookahead u1 := noLookahead_map _ (noLookahead_number 1)

theorem noLookahead_u2 : NoLookahead u2 := noLookahead_map _ (noLookahead_number 2)

theorem noLookahead_u4 : NoLookahead u4 := noLookahead_map _ (noLookahead_number 4)

theorem noLookahead_times {item : Decode α} (each : NoLookahead item) (count : Nat) :
    NoLookahead (times count item) := by
  induction count with
  | zero => exact noLookahead_pure []
  | succ count ih =>
    exact noLookahead_bind each fun _ => noLookahead_bind ih fun _ => noLookahead_pure _

theorem noLookahead_counted {item : Decode α} (each : NoLookahead item) :
    NoLookahead (counted item) :=
  noLookahead_bind noLookahead_u2 fun count => noLookahead_times each count.toNat

end Cursor

open Cursor

namespace Entry

theorem noLookahead_word64 : NoLookahead word64 :=
  noLookahead_bind noLookahead_u4 fun _ => noLookahead_bind noLookahead_u4 fun _ =>
    noLookahead_pure _

/-- The bytes of a text are all there before they are looked at. -/
theorem noLookahead_readText (index : UInt16) : NoLookahead (readText index) := by
  apply noLookahead_bind noLookahead_u2
  intro length
  apply noLookahead_bind (noLookahead_take _)
  intro bytes
  split
  · exact noLookahead_pure _
  · exact noLookahead_throw _

theorem noLookahead_readPair (make : UInt16 → UInt16 → Entry) : NoLookahead (readPair make) :=
  noLookahead_bind noLookahead_u2 fun _ => noLookahead_bind noLookahead_u2 fun _ =>
    noLookahead_pure _

theorem noLookahead_read (index : UInt16) : NoLookahead (read index) := by
  have made {α : Type} {read : Decode α} (make : α → Entry) (plain : NoLookahead read) :
      NoLookahead (read >>= fun value => pure (make value)) :=
    noLookahead_bind plain fun _ => noLookahead_pure _
  apply noLookahead_bind noLookahead_u1
  intro tag
  apply noLookahead_ite (made .utf8 (noLookahead_readText index))
  apply noLookahead_ite (made (fun word => .integer word.toInt32) noLookahead_u4)
  apply noLookahead_ite (made .float noLookahead_u4)
  apply noLookahead_ite (made (fun word => .long word.toInt64) noLookahead_word64)
  apply noLookahead_ite (made .double noLookahead_word64)
  apply noLookahead_ite (made .classRef noLookahead_u2)
  apply noLookahead_ite (made .string noLookahead_u2)
  apply noLookahead_ite (noLookahead_readPair _)
  apply noLookahead_ite (noLookahead_readPair _)
  apply noLookahead_ite (noLookahead_readPair _)
  apply noLookahead_ite (noLookahead_readPair _)
  apply noLookahead_ite
  · exact noLookahead_bind noLookahead_u1 fun kind => made (.methodHandle kind) noLookahead_u2
  · exact noLookahead_ite (noLookahead_readPair _) (noLookahead_throw _)

/-- A wide entry in the last slot is refused, so that nothing has to be shown for it. -/
theorem noLookahead_readSlots (count : UInt16) (slots : Nat) (index : UInt16) :
    NoLookahead (readSlots count slots index) := by
  induction slots using Nat.strongRecOn generalizing index with
  | _ slots ih =>
    cases slots with
    | zero => exact noLookahead_pure []
    | succ slots =>
      unfold readSlots
      apply noLookahead_bind (noLookahead_read index)
      intro entry
      apply noLookahead_ite
      · cases slots with
        | zero => exact noLookahead_throw _
        | succ slots => exact noLookahead_bind (ih slots (by omega) _) fun _ => noLookahead_pure _
      · exact noLookahead_bind (ih slots (by omega) _) fun _ => noLookahead_pure _

theorem noLookahead_readPool : NoLookahead readPool :=
  noLookahead_bind noLookahead_u2 fun count => noLookahead_readSlots count _ 1

end Entry

namespace RawClass

theorem noLookahead_readAttributes : NoLookahead RawAttribute.readAll :=
  noLookahead_counted <| noLookahead_bind noLookahead_u2 fun _ =>
    noLookahead_bind noLookahead_u4 fun _ => noLookahead_bind (noLookahead_take _) fun _ =>
    noLookahead_pure _

theorem noLookahead_readMember : NoLookahead RawMember.read :=
  noLookahead_bind noLookahead_u2 fun _ => noLookahead_bind noLookahead_u2 fun _ =>
    noLookahead_bind noLookahead_u2 fun _ => noLookahead_bind noLookahead_readAttributes fun _ =>
    noLookahead_pure _

theorem noLookahead_readVersion : NoLookahead readVersion := by
  apply noLookahead_bind noLookahead_u4
  intro word
  apply noLookahead_ite (noLookahead_throw _)
  apply noLookahead_bind noLookahead_u2
  intro minor
  apply noLookahead_bind noLookahead_u2
  intro major
  exact noLookahead_ite (noLookahead_throw _) (noLookahead_pure _)

theorem noLookahead_readInterfaces : NoLookahead readInterfaces := by
  apply noLookahead_bind noLookahead_u2
  intro count
  exact noLookahead_ite (noLookahead_throw _) (noLookahead_pure _)

theorem noLookahead_read : NoLookahead read :=
  noLookahead_bind noLookahead_readVersion fun _ => noLookahead_bind Entry.noLookahead_readPool fun _ =>
    noLookahead_bind noLookahead_u2 fun _ => noLookahead_bind noLookahead_u2 fun _ =>
    noLookahead_bind noLookahead_u2 fun _ => noLookahead_bind noLookahead_readInterfaces fun _ =>
    noLookahead_bind (noLookahead_counted noLookahead_readMember) fun _ =>
    noLookahead_bind (noLookahead_counted noLookahead_readMember) fun _ =>
    noLookahead_bind noLookahead_readAttributes fun _ => noLookahead_pure _

end RawClass

namespace ClassFile

variable {bytes : Array UInt8} {parsed : ClassFile}

/-- The whole file is read to its end, so the bytes of a cut file run out before anything is linked. -/
theorem parse_cut (accepted : parse bytes = .ok parsed) {front : Array UInt8}
    (cut : front.toList <+: bytes.toList) (strict : front ≠ bytes) :
    ∃ wanted remaining, parse front = .error (.unexpectedEnd wanted remaining) := by
  obtain ⟨raw, ⟨d, read, used⟩, _⟩ := parse_ok_iff.1 accepted
  have within : (ofBytes front).Within (ofBytes bytes) := ⟨rfl, cut⟩
  rcases RawClass.noLookahead_read.shorter within read with ⟨e, again, same⟩ | ⟨wanted, left, c, out⟩
  · -- A cut file that is read like the whole one would have to be as long.
    exfalso
    have keptFront : e.bytes = front := RawClass.noLookahead_read.keeps again
    have keptWhole : d.bytes = bytes := RawClass.noLookahead_read.keeps read
    have inside := e.inside
    rw [keptFront, same.position] at inside
    unfold remaining at used
    rw [keptWhole] at used
    apply strict
    apply Array.toList_inj.1
    apply cut.eq_of_length_le
    simp only [Array.length_toList]
    omega
  · refine ⟨wanted, left, ?_⟩
    unfold parse
    rw [out]

theorem parse_extended (accepted : parse bytes = .ok parsed) {extra : Array UInt8}
    (more : extra ≠ #[]) :
    parse (bytes ++ extra) = .error (.malformedClassFile (.trailingBytes extra.size)) := by
  obtain ⟨raw, ⟨c, read, used⟩, _⟩ := parse_ok_iff.1 accepted
  have within : (ofBytes bytes).Within (ofBytes (bytes ++ extra)) := ⟨rfl, by simp [ofBytes]⟩
  obtain ⟨d, again, same⟩ := RawClass.noLookahead_read.longer within read
  have keptShort : c.bytes = bytes := RawClass.noLookahead_read.keeps read
  have keptLong : d.bytes = bytes ++ extra := RawClass.noLookahead_read.keeps again
  have left : d.remaining = extra.size := by
    have inside := c.inside
    unfold remaining at used ⊢
    rw [keptShort] at used inside
    rw [keptLong, Array.size_append, ← same.position]
    omega
  have nonempty : extra.size ≠ 0 := fun zero => more (Array.size_eq_zero_iff.1 zero)
  unfold parse
  rw [again]
  simp only [left, if_neg nonempty]

/-- Of a file that is accepted, every strict beginning is refused because its bytes run out and for no
other reason, and every file that goes on after it is refused for the exact number of bytes that are left
over. -/
theorem accepted_prefix_free (bytes : Array UInt8) (parsed : ClassFile)
    (accepted : parse bytes = .ok parsed) :
    (∀ front : Array UInt8, front.toList <+: bytes.toList → front ≠ bytes →
      ∃ wanted remaining, parse front = .error (.unexpectedEnd wanted remaining)) ∧
    (∀ extra : Array UInt8, extra ≠ #[] →
      parse (bytes ++ extra) = .error (.malformedClassFile (.trailingBytes extra.size)) ∧
      (Malformation.trailingBytes extra.size).message =
        toString extra.size ++ " trailing bytes after class attributes") := by
  constructor
  · intro front cut strict
    exact parse_cut accepted cut strict
  · intro extra more
    exact ⟨parse_extended accepted more, rfl⟩

/-- The cut goes through the constant of two slots. -/
theorem sample_class_cut_and_extended :
    parse sampleClass.layout.toArray = .ok sampleClass ∧
      (∃ wanted remaining, parse (sampleClass.layout.take 26).toArray =
        .error (.unexpectedEnd wanted remaining)) ∧
      parse (sampleClass.layout.toArray ++ #[0, 0]) =
        .error (.malformedClassFile (.trailingBytes 2)) := by
  have accepted : parse sampleClass.layout.toArray = .ok sampleClass := by
    have plain : sampleClass.PlainFlags := ⟨by decide, by decide⟩
    exact parse_eq_ok.2 ⟨sampleClass, ⟨sampleClass_linked, sampleClass_fits⟩, rfl, plain.masked.symm⟩
  have long : 26 < sampleClass.layout.length := by decide +kernel
  have strict : (sampleClass.layout.take 26).toArray ≠ sampleClass.layout.toArray := by
    intro same
    have sizes := congrArg Array.size same
    simp only [List.size_toArray, List.length_take] at sizes
    omega
  obtain ⟨cut, extended⟩ := accepted_prefix_free sampleClass.layout.toArray sampleClass accepted
  exact ⟨accepted, cut _ ⟨_, List.take_append_drop 26 _⟩ strict, (extended #[0, 0] (by simp)).1⟩

end ClassFile

end MiniJvm
