import MiniJvm.ClassFile.Attribute

/-!
Reading as the inverse of laying out. A reader inverts a layout when it succeeds exactly on the layouts
of the values that fit, and gives these values back. The laws here are equivalences, so that each of them
says both that nothing is lost and that nothing is made up.
-/

namespace MiniJvm

open Effect

namespace Cursor

variable {α : Type} {c d e : Cursor}

theorem length_rest (c : Cursor) : c.rest.length = c.bytes.size - c.position := by
  simp [rest]

/-- Two positions of one buffer with the bytes between them. -/
def Spans (c d : Cursor) (bytes : List UInt8) : Prop :=
  d.bytes = c.bytes ∧ c.rest = bytes ++ d.rest

theorem Spans.position {bytes : List UInt8} (spans : c.Spans d bytes) :
    d.position = c.position + bytes.length := by
  have lengths := congrArg List.length spans.2
  rw [List.length_append, length_rest, length_rest, spans.1] at lengths
  have insideFirst := c.inside
  have insideLast := d.inside
  rw [spans.1] at insideLast
  omega

@[simp] theorem spans_nil : c.Spans d [] ↔ d = c := by
  constructor
  · intro spans
    exact ext spans.1 spans.position
  · rintro rfl
    exact ⟨rfl, rfl⟩

theorem spans_append {front back : List UInt8} :
    c.Spans e (front ++ back) ↔ ∃ d, c.Spans d front ∧ d.Spans e back := by
  constructor
  · intro spans
    have moved := spans.position
    have inside := e.inside
    rw [spans.1, moved, List.length_append] at inside
    have fits : c.position + front.length ≤ c.bytes.size := by omega
    have left : c.bytes.toList.drop (c.position + front.length) = back ++ e.rest := by
      have whole : c.bytes.toList.drop c.position = front ++ (back ++ e.rest) := by
        rw [← List.append_assoc]
        exact spans.2
      rw [← List.drop_drop, whole, List.drop_left]
    refine ⟨⟨c.bytes, c.position + front.length, fits⟩, ⟨rfl, ?_⟩, ⟨spans.1, left⟩⟩
    show c.rest = front ++ c.bytes.toList.drop (c.position + front.length)
    rw [left, ← List.append_assoc]
    exact spans.2
  · rintro ⟨d, ⟨sameFirst, first⟩, ⟨sameLast, last⟩⟩
    exact ⟨sameLast.trans sameFirst, by rw [first, last, List.append_assoc]⟩

/-- Bytes in front of what is left end at a position of the same buffer. -/
theorem spans_of_rest {front back : List UInt8} (left : c.rest = front ++ back) :
    ∃ d, c.Spans d front ∧ d.rest = back := by
  have atEnd : (⟨c.bytes, c.bytes.size, Nat.le_refl _⟩ : Cursor).rest = [] := by simp [rest]
  have whole : c.Spans ⟨c.bytes, c.bytes.size, Nat.le_refl _⟩ (front ++ back) :=
    ⟨rfl, by rw [atEnd, List.append_nil, left]⟩
  obtain ⟨d, spans, later⟩ := spans_append.1 whole
  exact ⟨d, spans, by rw [later.2, atEnd, List.append_nil]⟩

/-- The whole buffer lies between its start and a position with nothing left. -/
theorem spans_ofBytes {buffer : Array UInt8} {bytes : List UInt8} :
    (∃ d, (ofBytes buffer).Spans d bytes ∧ d.remaining = 0) ↔ bytes = buffer.toList := by
  constructor
  · rintro ⟨d, ⟨same, whole⟩, used⟩
    have nothing : d.rest = [] := List.eq_nil_of_length_eq_zero (by rw [length_rest]; exact used)
    rw [nothing, List.append_nil] at whole
    exact whole.symm
  · rintro rfl
    refine ⟨⟨buffer, buffer.size, Nat.le_refl _⟩, ⟨rfl, ?_⟩, Nat.sub_self _⟩
    simp [rest, ofBytes]

theorem take_spans {count : Nat} {taken : Array UInt8} :
    take count c = .ok taken d ↔ taken.size = count ∧ c.Spans d taken.toList := by
  have next (n : Nat) : (c.bytes.extract c.position (c.position + n)).toList = c.rest.take n := by
    rw [Array.toList_extract, List.extract_eq_take_drop, Nat.add_sub_cancel_left]
    rfl
  rw [take_ok]
  constructor
  · rintro ⟨rfl, sameBytes, moved⟩
    have inside := d.inside
    rw [sameBytes, moved] at inside
    refine ⟨by rw [Array.size_extract]; omega, sameBytes, ?_⟩
    have left : d.rest = c.rest.drop count := by
      unfold rest
      rw [sameBytes, moved, List.drop_drop]
    rw [next, left, List.take_append_drop]
  · rintro ⟨rfl, spans⟩
    have moved := spans.position
    rw [Array.length_toList] at moved
    refine ⟨Array.toList_inj.1 ?_, spans.1, moved⟩
    rw [next, spans.2, ← Array.length_toList, List.take_left]

end Cursor

/-! ### Words -/

namespace Layout

theorem u1_bigEndian (byte : UInt8) : u1 (UInt8.ofNat (bigEndian [byte])) = [byte] := by
  simp [u1, bigEndian]

theorem bigEndian_u1 (word : UInt8) : UInt8.ofNat (bigEndian (u1 word)) = word := by
  simp [u1, bigEndian]

theorem u2_bigEndian (first second : UInt8) :
    u2 (UInt16.ofNat (bigEndian [first, second])) = [first, second] := by
  have boundFirst := first.toNat_lt
  have boundSecond := second.toNat_lt
  simp only [u2, bigEndian, List.foldl, UInt16.toNat_ofNat', List.cons.injEq, and_true,
    ← UInt8.toNat_inj, UInt8.toNat_ofNat']
  omega

theorem bigEndian_u2 (word : UInt16) : UInt16.ofNat (bigEndian (u2 word)) = word := by
  have bound := word.toNat_lt
  simp only [u2, bigEndian, List.foldl, ← UInt16.toNat_inj, UInt16.toNat_ofNat', UInt8.toNat_ofNat']
  omega

theorem u4_bigEndian (first second third fourth : UInt8) :
    u4 (UInt32.ofNat (bigEndian [first, second, third, fourth])) =
      [first, second, third, fourth] := by
  have boundFirst := first.toNat_lt
  have boundSecond := second.toNat_lt
  have boundThird := third.toNat_lt
  have boundFourth := fourth.toNat_lt
  simp only [u4, bigEndian, List.foldl, UInt32.toNat_ofNat', List.cons.injEq, and_true,
    ← UInt8.toNat_inj, UInt8.toNat_ofNat']
  omega

theorem bigEndian_u4 (word : UInt32) : UInt32.ofNat (bigEndian (u4 word)) = word := by
  have bound := word.toNat_lt
  simp only [u4, bigEndian, List.foldl, ← UInt32.toNat_inj, UInt32.toNat_ofNat', UInt8.toNat_ofNat']
  omega

/-- A 64-bit word is laid out as its two halves. -/
theorem u8_halves (high low : UInt32) :
    u8 (UInt64.ofNat (high.toNat * 0x100000000 + low.toNat)) = u4 high ++ u4 low := by
  have boundHigh := high.toNat_lt
  have boundLow := low.toNat_lt
  have sameHigh : UInt32.ofNat ((UInt64.ofNat (high.toNat * 0x100000000 + low.toNat)).toNat /
      0x100000000) = high := by
    rw [← UInt32.toNat_inj, UInt32.toNat_ofNat', UInt64.toNat_ofNat']
    omega
  have sameLow : UInt32.ofNat (UInt64.ofNat (high.toNat * 0x100000000 + low.toNat)).toNat = low := by
    rw [← UInt32.toNat_inj, UInt32.toNat_ofNat', UInt64.toNat_ofNat']
    omega
  unfold u8
  rw [sameHigh, sameLow]

theorem halves_u8 (word : UInt64) :
    UInt64.ofNat ((UInt32.ofNat (word.toNat / 0x100000000)).toNat * 0x100000000 +
      (UInt32.ofNat word.toNat).toNat) = word := by
  have bound := word.toNat_lt
  rw [← UInt64.toNat_inj, UInt64.toNat_ofNat', UInt32.toNat_ofNat', UInt32.toNat_ofNat']
  omega

end Layout

namespace Cursor

variable {α : Type} {c d : Cursor}

theorem number_spans {width n : Nat} :
    number width c = .ok n d ↔
      ∃ bytes, bytes.length = width ∧ n = bigEndian bytes ∧ c.Spans d bytes := by
  unfold number
  simp only [bind_ok, pure_ok, take_spans]
  constructor
  · rintro ⟨taken, e, ⟨size, spans⟩, rfl, rfl⟩
    exact ⟨taken.toList, by rw [Array.length_toList, size], rfl, spans⟩
  · rintro ⟨bytes, length, rfl, spans⟩
    exact ⟨bytes.toArray, d, ⟨by rw [List.size_toArray, length], spans⟩, rfl, rfl⟩

theorem word_spans {layout : α → List UInt8} {width : Nat} {ofNat : Nat → α} {value : α}
    (length : ∀ word, (layout word).length = width)
    (back : ∀ word, ofNat (bigEndian (layout word)) = word)
    (forth : ∀ bytes, bytes.length = width → layout (ofNat (bigEndian bytes)) = bytes) :
    (ofNat <$> number width) c = .ok value d ↔ c.Spans d (layout value) := by
  simp only [map_ok, number_spans]
  constructor
  · rintro ⟨n, ⟨bytes, sameLength, rfl, spans⟩, rfl⟩
    rw [forth bytes sameLength]
    exact spans
  · intro spans
    exact ⟨_, ⟨layout value, length value, rfl, spans⟩, back value⟩

theorem u1_spans {word : UInt8} : u1 c = .ok word d ↔ c.Spans d (Layout.u1 word) := by
  refine word_spans (fun _ => rfl) Layout.bigEndian_u1 fun bytes length => ?_
  obtain ⟨byte, rfl⟩ := List.length_eq_one_iff.1 length
  exact Layout.u1_bigEndian byte

theorem u2_spans {word : UInt16} : u2 c = .ok word d ↔ c.Spans d (Layout.u2 word) := by
  refine word_spans (fun _ => rfl) Layout.bigEndian_u2 fun bytes length => ?_
  match bytes, length with
  | [first, second], _ => exact Layout.u2_bigEndian first second

theorem u4_spans {word : UInt32} : u4 c = .ok word d ↔ c.Spans d (Layout.u4 word) := by
  refine word_spans (fun _ => rfl) Layout.bigEndian_u4 fun bytes length => ?_
  match bytes, length with
  | [first, second, third, fourth], _ => exact Layout.u4_bigEndian first second third fourth

theorem check_spans {result : Except Fault α} {value : α} :
    check result c = .ok value d ↔ result = .ok value ∧ d = c := by
  unfold check
  cases result with
  | ok found =>
    simp only [EStateM.Result.ok.injEq, Except.ok.injEq]
    exact and_congr_right fun _ => eq_comm
  | error fault => simp

/-! ### Sequences -/

/-- Reading succeeds exactly on the layouts of the values that fit. -/
def Inverts (read : Decode α) (fits : α → Prop) (layout : α → List UInt8) : Prop :=
  ∀ ⦃c d : Cursor⦄ ⦃value : α⦄, read c = .ok value d ↔ fits value ∧ c.Spans d (layout value)

theorem inverts_u2 : Inverts u2 (fun _ => True) Layout.u2 := by
  intro c d word
  rw [u2_spans, true_and]

variable {item : Decode α} {fits : α → Prop} {layout : α → List UInt8}

/-- Reading to the end of a buffer succeeds exactly when the buffer is a layout. -/
theorem Inverts.whole (inverts : Inverts item fits layout) {buffer : Array UInt8} {value : α} :
    (∃ c, item (ofBytes buffer) = .ok value c ∧ c.remaining = 0) ↔
      fits value ∧ layout value = buffer.toList := by
  rw [← spans_ofBytes]
  constructor
  · rintro ⟨c, read, used⟩
    obtain ⟨fit, spans⟩ := inverts.1 read
    exact ⟨fit, c, spans, used⟩
  · rintro ⟨fit, c, spans, used⟩
    exact ⟨c, inverts.2 ⟨fit, spans⟩, used⟩

theorem inverts_times (inverts : Inverts item fits layout) (count : Nat) :
    Inverts (times count item) (fun values => values.length = count ∧ ∀ value ∈ values, fits value)
      (·.flatMap layout) := by
  induction count with
  | zero =>
    intro c d values
    unfold times
    rw [pure_ok]
    constructor
    · rintro ⟨rfl, rfl⟩
      simp
    · rintro ⟨⟨nothing, _⟩, spans⟩
      obtain rfl := List.eq_nil_of_length_eq_zero nothing
      exact ⟨rfl, (spans_nil.1 spans).symm⟩
  | succ count ih =>
    intro c d values
    unfold times
    simp only [bind_ok, pure_ok]
    constructor
    · rintro ⟨first, e, readFirst, others, f, readOthers, rfl, rfl⟩
      obtain ⟨fitsFirst, spansFirst⟩ := inverts.1 readFirst
      obtain ⟨⟨length, fitsOthers⟩, spansOthers⟩ := ih.1 readOthers
      refine ⟨⟨by rw [List.length_cons, length], ?_⟩, ?_⟩
      · exact List.forall_mem_cons.2 ⟨fitsFirst, fitsOthers⟩
      · rw [List.flatMap_cons]
        exact spans_append.2 ⟨e, spansFirst, spansOthers⟩
    · rintro ⟨⟨length, fitsAll⟩, spans⟩
      cases values with
      | nil => cases length
      | cons first others =>
        obtain ⟨fitsFirst, fitsOthers⟩ := List.forall_mem_cons.1 fitsAll
        rw [List.flatMap_cons] at spans
        obtain ⟨e, spansFirst, spansOthers⟩ := spans_append.1 spans
        have readFirst := inverts.2 ⟨fitsFirst, spansFirst⟩
        have readOthers := ih.2 ⟨⟨Nat.succ.inj length, fitsOthers⟩, spansOthers⟩
        exact ⟨first, e, readFirst, others, d, readOthers, rfl, rfl⟩

theorem inverts_counted (inverts : Inverts item fits layout) :
    Inverts (counted item)
      (fun values => values.length < 0x10000 ∧ ∀ value ∈ values, fits value)
      (Layout.counted layout) := by
  intro c d values
  unfold counted Layout.counted
  simp only [bind_ok, u2_spans, spans_append]
  constructor
  · rintro ⟨count, e, spansCount, readItems⟩
    obtain ⟨⟨length, fitsAll⟩, spansItems⟩ := (inverts_times inverts _).1 readItems
    have bound := count.toNat_lt
    have same : UInt16.ofNat values.length = count := by rw [length, UInt16.ofNat_toNat]
    refine ⟨⟨by omega, fitsAll⟩, e, ?_, spansItems⟩
    rw [same]
    exact spansCount
  · rintro ⟨⟨bound, fitsAll⟩, e, spansCount, spansItems⟩
    refine ⟨_, e, spansCount, (inverts_times inverts _).2 ⟨⟨?_, fitsAll⟩, spansItems⟩⟩
    rw [UInt16.toNat_ofNat_of_lt' bound]

end Cursor

end MiniJvm
