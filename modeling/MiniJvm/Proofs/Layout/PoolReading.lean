import MiniJvm.Proofs.ClassFile.PrefixFree

/-!
Which bytes are read as a constant pool. The shape of a stored pool is given position by position here, and
the reader accepts the layouts of the pools of that shape, whatever follows them, and nothing else. What
goes wrong in one slot is the fault of the whole pool, however many slots were filled before it.
-/

namespace MiniJvm

open Effect Cursor

namespace Cursor

variable {c d : Cursor}

theorem within_longer (c : Cursor) (more : List UInt8) :
    ∃ d, c.Within d ∧ d.rest = c.rest ++ more := by
  refine ⟨⟨c.bytes ++ more.toArray, c.position, ?_⟩, ⟨rfl, ?_⟩, ?_⟩
  · have inside := c.inside
    rw [Array.size_append]
    omega
  · simp
  · unfold rest
    rw [Array.toList_append, List.drop_append_of_le_length (by simpa using c.inside)]

theorem NoLookahead.runsOut {α : Type} {read : Decode α} (plain : NoLookahead read) {value : α}
    {whole : List UInt8} (reads : ∀ ⦃d⦄, d.rest = whole → ∃ e, read d = .ok value e ∧ d.Spans e whole)
    (cut : c.rest <+: whole) (strict : c.rest ≠ whole) : RunsOut (read c) := by
  obtain ⟨more, same⟩ := cut
  obtain ⟨d, within, longer⟩ := within_longer c more
  obtain ⟨f, taken, spans⟩ := reads (longer.trans same)
  rcases plain.shorter within taken with ⟨e, again, ends⟩ | out
  · -- Reading the same value would end behind the last byte.
    exfalso
    have moved := spans.position
    have inside := e.inside
    rw [plain.keeps again, ends.position, moved, ← within.position] at inside
    apply strict
    apply List.IsPrefix.eq_of_length_le ⟨more, same⟩
    rw [length_rest]
    omega
  · exact out

theorem RunsOut.bind {α β : Type} {first : Decode α} {next : α → Decode β} (out : RunsOut (first c)) :
    RunsOut ((first >>= next) c) := by
  obtain ⟨wanted, remaining, stopped, fails⟩ := out
  exact ⟨wanted, remaining, stopped, bind_error.2 (.inl fails)⟩

theorem RunsOut.after {α β : Type} {first : Decode α} {next : α → Decode β} {value : α}
    (starts : first c = .ok value d) (out : RunsOut (next value d)) : RunsOut ((first >>= next) c) := by
  obtain ⟨wanted, remaining, stopped, fails⟩ := out
  exact ⟨wanted, remaining, stopped, bind_error.2 (.inr ⟨value, d, starts, fails⟩)⟩

end Cursor

namespace Entry

/-! ### The shape of a pool -/

/-- An unusable slot stands right after each long and double, and nowhere else. -/
def Paired (raw : List Entry) : Prop :=
  ∀ i, raw[i]? = some .unusable ↔
    ∃ j entry, i = j + 1 ∧ raw[j]? = some entry ∧ entry.isWide = true

/-- Slots that have a layout: paired, and with no text that is longer than its length field can say. -/
structure Storable (raw : List Entry) : Prop where
  paired : Paired raw
  texts : ∀ text, .utf8 text ∈ raw → (ModifiedUtf8.encode text).length ≤ 0xffff

variable {entry : Entry} {others raw : List Entry}

/-- Slots paired in the same way that come after others, of which the last is wide or is not. -/
def PairedAfter (wide : Bool) (raw : List Entry) : Prop :=
  ∀ i, raw[i]? = some .unusable ↔
    (i = 0 ∧ wide = true) ∨ ∃ j entry, i = j + 1 ∧ raw[j]? = some entry ∧ entry.isWide = true

theorem paired_iff_after : Paired raw ↔ PairedAfter false raw := by
  simp [Paired, PairedAfter]

theorem pairedAfter_cons {wide : Bool} :
    PairedAfter wide (entry :: others) ↔
      (entry = .unusable ↔ wide = true) ∧ PairedAfter entry.isWide others := by
  have shifted (i : Nat) :
      (∃ j found, i + 1 = j + 1 ∧ (entry :: others)[j]? = some found ∧ found.isWide = true) ↔
        (i = 0 ∧ entry.isWide = true) ∨
          ∃ j found, i = j + 1 ∧ others[j]? = some found ∧ found.isWide = true := by
    cases i with
    | zero => simp
    | succ i => simp
  constructor
  · intro paired
    refine ⟨by simpa using paired 0, ?_⟩
    intro i
    have next := paired (i + 1)
    rw [shifted i] at next
    simpa using next
  · rintro ⟨first, later⟩ i
    cases i with
    | zero => simpa using first
    | succ i =>
      rw [shifted i, List.getElem?_cons_succ, later i]
      simp

theorem pairedAfter_true : PairedAfter true raw ↔ ∃ later, raw = .unusable :: later ∧ Paired later := by
  cases raw with
  | nil =>
    constructor
    · intro paired
      simpa using paired 0
    · rintro ⟨later, same, _⟩
      cases same
  | cons entry others =>
    rw [pairedAfter_cons]
    constructor
    · rintro ⟨first, later⟩
      obtain rfl := first.2 rfl
      exact ⟨others, rfl, paired_iff_after.2 later⟩
    · rintro ⟨later, same, paired⟩
      cases same
      exact ⟨by simp, paired_iff_after.1 paired⟩

theorem paired_narrow (usable : entry ≠ .unusable) (narrow : entry.isWide = false) :
    Paired (entry :: others) ↔ Paired others := by
  simp [paired_iff_after, pairedAfter_cons, usable, narrow]

theorem paired_wide (wide : entry.isWide = true) :
    Paired (entry :: others) ↔ ∃ later, others = .unusable :: later ∧ Paired later := by
  have usable : entry ≠ .unusable := by
    rintro rfl
    cases wide
  simp [paired_iff_after, pairedAfter_cons, usable, wide, pairedAfter_true]

theorem Paired.head_usable (paired : Paired (entry :: others)) : entry ≠ .unusable := by
  rw [paired_iff_after, pairedAfter_cons] at paired
  simpa using paired.1

theorem fits_iff :
    entry.Fits ↔ entry ≠ .unusable ∧
      ∀ text, entry = .utf8 text → (ModifiedUtf8.encode text).length ≤ 0xffff := by
  cases entry <;> simp [Fits, Nat.lt_succ_iff]

/-- The shape that reading builds up slot by slot is the one that is given position by position. -/
theorem slots_iff : Slots raw ↔ Storable raw := by
  constructor
  · intro shape
    induction shape with
    | nil => exact ⟨by simp [Paired], by simp⟩
    | one fits narrow _ ih =>
      obtain ⟨usable, short⟩ := fits_iff.1 fits
      refine ⟨(paired_narrow usable narrow).2 ih.paired, ?_⟩
      intro text member
      rcases List.mem_cons.1 member with same | member
      · exact short text same.symm
      · exact ih.texts text member
    | two fits wide _ ih =>
      refine ⟨(paired_wide wide).2 ⟨_, rfl, ih.paired⟩, ?_⟩
      intro text member
      rcases List.mem_cons.1 member with same | member
      · exact (fits_iff.1 fits).2 text same.symm
      · exact ih.texts text (by simpa using member)
  · -- A wide entry takes the slot behind it along, so the induction is on the length.
    intro storable
    induction length : raw.length using Nat.strongRecOn generalizing raw with
    | ind size ih =>
    cases raw with
    | nil => exact .nil
    | cons entry others =>
      have usable := storable.paired.head_usable
      have fits : entry.Fits := fits_iff.2 ⟨usable, fun text same => storable.texts text (by simp [same])⟩
      have textsOthers : ∀ text, .utf8 text ∈ others → (ModifiedUtf8.encode text).length ≤ 0xffff :=
        fun text member => storable.texts text (List.mem_cons_of_mem _ member)
      rw [List.length_cons] at length
      cases wide : entry.isWide with
      | false =>
        have paired := (paired_narrow usable wide).1 storable.paired
        exact .one fits wide (ih others.length (by omega) ⟨paired, textsOthers⟩ rfl)
      | true =>
        obtain ⟨later, rfl, paired⟩ := (paired_wide wide).1 storable.paired
        rw [List.length_cons] at length
        refine .two fits wide (ih later.length (by omega) ⟨paired, ?_⟩ rfl)
        intro text member
        exact textsOthers text (List.mem_cons_of_mem _ member)

/-! ### Accepted pools -/

variable {c d : Cursor}

/-- The empty pool is read from two counts; every other pool is read from its layout only. -/
theorem readPool_ok :
    readPool c = .ok raw d ↔
      (raw.length ≤ 65534 ∧ Storable raw) ∧
        (c.Spans d (encodePool raw) ∨ raw = [] ∧ c.Spans d (Layout.u2 0)) := by
  by_cases empty : raw = []
  · subst empty
    have storable : Storable [] := slots_iff.1 .nil
    unfold readPool
    simp only [bind_ok, u2_spans]
    constructor
    · rintro ⟨count, e, spansCount, readNone⟩
      obtain ⟨⟨length, _⟩, spansNone⟩ := (inverts_readSlots count _ 1).1 readNone
      obtain rfl := spans_nil.1 spansNone
      refine ⟨⟨by simp, storable⟩, ?_⟩
      rw [List.length_nil] at length
      have few : count = 1 ∨ count = 0 := by
        rw [← UInt16.toNat_inj, ← UInt16.toNat_inj]
        show count.toNat = 1 ∨ count.toNat = 0
        omega
      rcases few with rfl | rfl
      · left
        exact spansCount
      · right
        exact ⟨trivial, spansCount⟩
    · rintro ⟨_, spans | ⟨_, spans⟩⟩
      · exact ⟨1, d, spans, rfl⟩
      · exact ⟨0, d, spans, rfl⟩
  · rw [readPool_spans empty, slots_iff]
    simp [empty, Nat.lt_succ_iff]

/-! ### Refused pools -/

/-- The bytes that one slot calls for: those of an entry, or those of a text that need not be one. -/
inductive Called : List UInt8 → Prop
  | entry {entry : Entry} (fits : entry.Fits) : Called entry.encode
  | text {bytes : List UInt8} (length : bytes.length ≤ 0xffff) :
      Called (1 :: (Layout.u2 (UInt16.ofNat bytes.length) ++ bytes))

theorem read_unknown {index : UInt16} {tag : UInt8} {rest : List UInt8} (left : c.rest = tag :: rest)
    (unknown : tag ∉ [1, 3, 4, 5, 6, 7, 8, 9, 10, 11, 12, 15, 18]) :
    ∃ d, read index c = .error (.unsupportedConstantTag tag index) d := by
  have split : c.rest = Layout.u1 tag ++ rest := left
  obtain ⟨e, tagged, _⟩ := spans_of_rest split
  refine ⟨e, bind_error.2 (.inr ⟨tag, e, u1_spans.2 tagged, ?_⟩)⟩
  simp only [List.mem_cons, List.not_mem_nil, or_false, not_or] at unknown
  simp only [unknown, if_false]
  rfl

theorem take_counted {bytes : List UInt8} (length : bytes.length ≤ 0xffff) (spans : c.Spans d bytes) :
    take (UInt16.ofNat bytes.length).toNat c = .ok bytes.toArray d := by
  have fits : (UInt16.ofNat bytes.length).toNat = bytes.length :=
    UInt16.toNat_ofNat_of_lt' (by show _ < 0x10000; omega)
  exact take_spans.2 ⟨by rw [List.size_toArray, fits], spans⟩

theorem read_invalid {index : UInt16} {bytes rest : List UInt8} (length : bytes.length ≤ 0xffff)
    (invalid : ∀ text, ModifiedUtf8.encode text ≠ bytes)
    (left : c.rest = 1 :: (Layout.u2 (UInt16.ofNat bytes.length) ++ bytes) ++ rest) :
    ∃ d, read index c = .error (.malformedClassFile (.invalidText index)) d := by
  obtain ⟨f, spans, _⟩ := spans_of_rest left
  obtain ⟨d, tagged, body⟩ := spans_tag.1 spans
  obtain ⟨e, spansLength, spansBytes⟩ := spans_append.1 body
  have taken := take_counted length spansBytes
  have undecoded : ModifiedUtf8.decode? bytes = none := by
    cases decoded : ModifiedUtf8.decode? bytes with
    | none => rfl
    | some text => exact absurd (ModifiedUtf8.decode?_eq_some.1 decoded).symm (invalid text)
  refine ⟨f, bind_error.2 (.inr ⟨1, d, u1_spans.2 tagged, ?_⟩)⟩
  refine bind_error.2 (.inl ?_)
  refine bind_error.2 (.inr ⟨_, e, u2_spans.2 spansLength, ?_⟩)
  refine bind_error.2 (.inr ⟨_, f, taken, ?_⟩)
  simp only [undecoded]
  rfl

/-- The bytes of a text are counted before they are decoded, so it does not matter whether they are one. -/
theorem read_short {index : UInt16} {whole : List UInt8} (called : Called whole)
    (cut : c.rest <+: whole) (strict : c.rest ≠ whole) : RunsOut (read index c) := by
  cases called with
  | @entry entry fits =>
    have reads : ∀ ⦃d⦄, d.rest = entry.encode → ∃ e, read index d = .ok entry e ∧
        d.Spans e entry.encode := by
      intro d left
      obtain ⟨e, spans, _⟩ := spans_of_rest (left.trans (List.append_nil _).symm)
      exact ⟨e, read_of_spans fits spans, spans⟩
    exact (noLookahead_read index).runsOut reads cut strict
  | @text bytes length =>
    let taking : Decode (Array UInt8) := u1 >>= fun _ => u2 >>= fun size => take size.toNat
    have plain : NoLookahead taking :=
      noLookahead_bind noLookahead_u1 fun _ => noLookahead_bind noLookahead_u2 fun _ =>
        noLookahead_take _
    have reads : ∀ ⦃d⦄, d.rest = 1 :: (Layout.u2 (UInt16.ofNat bytes.length) ++ bytes) →
        ∃ g, taking d = .ok bytes.toArray g ∧
          d.Spans g (1 :: (Layout.u2 (UInt16.ofNat bytes.length) ++ bytes)) := by
      intro d left
      obtain ⟨g, spans, _⟩ := spans_of_rest (left.trans (List.append_nil _).symm)
      obtain ⟨e, tagged, body⟩ := spans_tag.1 spans
      obtain ⟨f, spansLength, spansBytes⟩ := spans_append.1 body
      have taken := take_counted length spansBytes
      refine ⟨g, bind_ok.2 ⟨1, e, u1_spans.2 tagged, ?_⟩, spans⟩
      exact bind_ok.2 ⟨_, f, u2_spans.2 spansLength, taken⟩
    have out : RunsOut (taking c) := plain.runsOut reads cut strict
    obtain ⟨wanted, remaining, stopped, fails⟩ := out
    rcases bind_error.1 fails with noTag | ⟨tag, e, tagged, short⟩
    · exact RunsOut.bind ⟨wanted, remaining, stopped, noTag⟩
    · have same : tag = 1 := by
        have first := (u1_spans.1 tagged).2 ▸ cut
        exact (List.cons_prefix_cons.1 first).1
      subst same
      refine RunsOut.after tagged (RunsOut.bind ?_)
      rcases bind_error.1 short with noLength | ⟨size, f, sized, few⟩
      · exact RunsOut.bind ⟨wanted, remaining, stopped, noLength⟩
      · exact RunsOut.after sized (RunsOut.bind ⟨wanted, remaining, stopped, few⟩)

theorem readSlots_behind {count index : UInt16} {front : List Entry} {more : Nat} {e stopped : Cursor}
    {fault : Fault} (shape : Slots front) (spans : c.Spans e (front.flatMap encode))
    (fails : readSlots count more (index + UInt16.ofNat front.length) e = .error fault stopped) :
    readSlots count (front.length + more) index c = .error fault stopped := by
  induction shape generalizing index c with
  | nil =>
    obtain rfl := spans_nil.1 spans
    simpa using fails
  | @one entry others fits narrow _ ih =>
    obtain ⟨d, spansEntry, spansOthers⟩ := spans_append.1 spans
    have numbered : index + UInt16.ofNat (others.length + 1) =
        index + 1 + UInt16.ofNat others.length := by
      rw [UInt16.ofNat_add]
      ac_rfl
    rw [List.length_cons, numbered] at fails
    rw [List.length_cons, Nat.add_right_comm, readSlots]
    refine bind_error.2 (.inr ⟨entry, d, read_of_spans fits spansEntry, ?_⟩)
    rw [if_neg (by simp [narrow])]
    exact bind_error.2 (.inl (ih spansOthers fails))
  | @two entry others fits wide _ ih =>
    obtain ⟨d, spansEntry, spansOthers⟩ := spans_append.1 spans
    have numbered : index + UInt16.ofNat (others.length + 1 + 1) =
        index + 2 + UInt16.ofNat others.length := by
      rw [UInt16.ofNat_add, UInt16.ofNat_add]
      show index + (UInt16.ofNat others.length + 1 + 1) = index + (1 + 1) + _
      ac_rfl
    rw [List.length_cons, List.length_cons, numbered] at fails
    rw [List.length_cons, List.length_cons, Nat.add_right_comm, Nat.add_right_comm others.length,
      readSlots]
    refine bind_error.2 (.inr ⟨entry, d, read_of_spans fits spansEntry, ?_⟩)
    rw [if_pos wide]
    exact bind_error.2 (.inl (ih spansOthers fails))

/-- A pool with room for more than the slots of `front`, in which `tail` is left for the others. -/
structure Filled (c : Cursor) (count : UInt16) (front : List Entry) (tail : List UInt8) : Prop where
  storable : Storable front
  room : front.length + 1 < count.toNat
  left : c.rest = Layout.u2 count ++ (front.flatMap encode ++ tail)

variable {count : UInt16} {front : List Entry} {tail : List UInt8}

theorem Filled.behind (filled : Filled c count front tail) :
    ∃ e, e.rest = tail ∧ ∀ fault stopped,
      readSlots count (count.toNat - 1 - front.length) (UInt16.ofNat (front.length + 1)) e =
        .error fault stopped → readPool c = .error fault stopped := by
  have room := filled.room
  obtain ⟨d, spansCount, leftEntries⟩ := spans_of_rest filled.left
  obtain ⟨e, spansFront, leftTail⟩ := spans_of_rest leftEntries
  refine ⟨e, leftTail, ?_⟩
  intro fault stopped fails
  have slots : count.toNat - 1 = front.length + (count.toNat - 1 - front.length) := by omega
  have numbered : UInt16.ofNat (front.length + 1) = 1 + UInt16.ofNat front.length := by
    rw [UInt16.ofNat_add]
    ac_rfl
  rw [numbered] at fails
  refine bind_error.2 (.inr ⟨count, d, u2_spans.2 spansCount, ?_⟩)
  rw [slots]
  exact readSlots_behind (slots_iff.2 filled.storable) spansFront fails

theorem Filled.next (filled : Filled c count front tail) :
    ∃ e, e.rest = tail ∧ ∀ fault stopped,
      read (UInt16.ofNat (front.length + 1)) e = .error fault stopped →
        readPool c = .error fault stopped := by
  have room := filled.room
  obtain ⟨e, leftTail, carries⟩ := filled.behind
  refine ⟨e, leftTail, ?_⟩
  intro fault stopped fails
  apply carries
  rw [show count.toNat - 1 - front.length = count.toNat - 2 - front.length + 1 by omega, readSlots]
  exact bind_error.2 (.inl fails)

theorem Filled.split {rest : List UInt8} (filled : Filled c count front (entry.encode ++ rest))
    (wide : entry.isWide = true) (last : count.toNat = front.length + 2) :
    ∃ d, readPool c = .error (.malformedClassFile (.splitTwoSlot count)) d := by
  have fits : entry.Fits := by
    cases entry with
    | long => trivial
    | double => trivial
    | _ => cases wide
  obtain ⟨e, leftTail, carries⟩ := filled.behind
  obtain ⟨f, spans, _⟩ := spans_of_rest leftTail
  refine ⟨f, carries _ f ?_⟩
  rw [show count.toNat - 1 - front.length = 0 + 1 by omega, readSlots]
  refine bind_error.2 (.inr ⟨entry, f, read_of_spans fits spans, ?_⟩)
  rw [if_pos wide]
  rfl

theorem readPool_no_count (short : c.rest.length < 2) : RunsOut (readPool c) := by
  have few : ¬c.position + 2 ≤ c.bytes.size := by
    rw [length_rest] at short
    omega
  refine RunsOut.bind ?_
  unfold u2 number
  rw [← bind_pure_comp]
  refine RunsOut.bind (RunsOut.bind ⟨2, c.remaining, c, ?_⟩)
  unfold take
  rw [dif_neg few]

theorem readPool_cut (storable : Storable raw) (length : raw.length ≤ 65534)
    (cut : c.rest <+: encodePool raw) (strict : c.rest ≠ encodePool raw) : RunsOut (readPool c) := by
  have reads : ∀ ⦃d⦄, d.rest = encodePool raw → ∃ e, readPool d = .ok raw e ∧
      d.Spans e (encodePool raw) := by
    intro d left
    obtain ⟨e, spans, _⟩ := spans_of_rest (left.trans (List.append_nil _).symm)
    exact ⟨e, readPool_ok.2 ⟨⟨length, storable⟩, .inl spans⟩, spans⟩
  exact noLookahead_readPool.runsOut reads cut strict

/-- The layout of every pool of at most 65534 slots is read back and what follows it is left; whatever is
read lies in the bytes as its layout does, but for a count of zero, which stands for no slot as a count of
one does. Behind any number of filled slots, a wide entry without a second slot, an unknown tag, a text that
is none and an entry whose bytes end too early are refused, and so is every pool that is cut short. -/
theorem pool_read_exactly :
    (∀ (c : Cursor) (raw : List Entry) (rest : List UInt8), raw.length ≤ 65534 → Storable raw →
      c.rest = encodePool raw ++ rest →
      ∃ d, readPool c = .ok raw d ∧ d.bytes = c.bytes ∧ d.rest = rest) ∧
    (∀ (c : Cursor) (rest : List UInt8), c.rest = Layout.u2 0 ++ rest →
      ∃ d, readPool c = .ok [] d ∧ d.bytes = c.bytes ∧ d.rest = rest) ∧
    (∀ (c d : Cursor) (raw : List Entry), readPool c = .ok raw d →
      (raw.length ≤ 65534 ∧ Storable raw) ∧ d.bytes = c.bytes ∧
      (c.rest = encodePool raw ++ d.rest ∨ raw = [] ∧ c.rest = Layout.u2 0 ++ d.rest)) ∧
    (∀ (c : Cursor) (count : UInt16) (front : List Entry) (tail : List UInt8),
      Filled c count front tail →
      (∀ (entry : Entry) rest, entry.isWide = true → count.toNat = front.length + 2 →
        tail = entry.encode ++ rest →
        ∃ d, readPool c = .error (.malformedClassFile (.splitTwoSlot count)) d) ∧
      (∀ tag rest, tag ∉ [1, 3, 4, 5, 6, 7, 8, 9, 10, 11, 12, 15, 18] → tail = tag :: rest →
        ∃ d, readPool c =
          .error (.unsupportedConstantTag tag (UInt16.ofNat (front.length + 1))) d) ∧
      (∀ bytes rest, bytes.length ≤ 65535 → (∀ text, ModifiedUtf8.encode text ≠ bytes) →
        tail = 1 :: (Layout.u2 (UInt16.ofNat bytes.length) ++ bytes) ++ rest →
        ∃ d, readPool c =
          .error (.malformedClassFile (.invalidText (UInt16.ofNat (front.length + 1)))) d) ∧
      (∀ whole, Called whole → tail <+: whole → tail ≠ whole → RunsOut (readPool c))) ∧
    (∀ (c : Cursor), c.rest.length < 2 → RunsOut (readPool c)) ∧
    (∀ (c : Cursor) (raw : List Entry), raw.length ≤ 65534 → Storable raw →
      c.rest <+: encodePool raw → c.rest ≠ encodePool raw → RunsOut (readPool c)) := by
  refine ⟨?_, ?_, ?_, ?_, fun c short => readPool_no_count short, ?_⟩
  · intro c raw rest length storable left
    obtain ⟨d, spans, after⟩ := spans_of_rest left
    exact ⟨d, readPool_ok.2 ⟨⟨length, storable⟩, .inl spans⟩, spans.1, after⟩
  · intro c rest left
    obtain ⟨d, spans, after⟩ := spans_of_rest left
    have storable : Storable [] := slots_iff.1 .nil
    exact ⟨d, readPool_ok.2 ⟨⟨by simp, storable⟩, .inr ⟨rfl, spans⟩⟩, spans.1, after⟩
  · intro c d raw read
    obtain ⟨shape, spans | ⟨empty, spans⟩⟩ := readPool_ok.1 read
    · exact ⟨shape, spans.1, .inl spans.2⟩
    · exact ⟨shape, spans.1, .inr ⟨empty, spans.2⟩⟩
  · intro c count front tail filled
    obtain ⟨e, leftTail, carries⟩ := filled.next
    refine ⟨?_, ?_, ?_, ?_⟩
    · intro entry rest wide last same
      exact Filled.split (same ▸ filled) wide last
    · intro tag rest unknown same
      obtain ⟨d, fails⟩ := read_unknown (leftTail.trans same) unknown
      exact ⟨d, carries _ d fails⟩
    · intro bytes rest length invalid same
      obtain ⟨d, fails⟩ := read_invalid length invalid (leftTail.trans same)
      exact ⟨d, carries _ d fails⟩
    · intro whole called cut strict
      obtain ⟨wanted, remaining, d, fails⟩ := read_short called (leftTail ▸ cut) (leftTail ▸ strict)
      exact ⟨wanted, remaining, d, carries _ d fails⟩
  · intro c raw length storable cut strict
    exact readPool_cut storable length cut strict

/-- A wide entry between others, with a byte left over; the same entry in the last slot, where the second
slot is missing; a tag of no entry behind a text; the byte `ff`, which begins no character, as a text; and
a pool that ends inside of its wide entry. -/
theorem sample_pools_read :
    (∃ d, readPool (ofBytes (encodePool [.utf8 "\x00é", .long (-2), .unusable, .classRef 1] ++
        [7]).toArray) = .ok [.utf8 "\x00é", .long (-2), .unusable, .classRef 1] d ∧ d.rest = [7]) ∧
    (∃ d, readPool (ofBytes #[0, 3, 8, 0, 1, 5, 0, 0, 0, 0, 0, 0, 0, 9]) =
      .error (.malformedClassFile (.splitTwoSlot 3)) d) ∧
    (∃ d, readPool (ofBytes #[0, 3, 1, 0, 1, 97, 2]) = .error (.unsupportedConstantTag 2 2) d) ∧
    (∃ d, readPool (ofBytes #[0, 2, 1, 0, 1, 0xff]) =
      .error (.malformedClassFile (.invalidText 1)) d) ∧
    RunsOut (readPool (ofBytes #[0, 4, 8, 0, 1, 5, 0, 0])) := by
  obtain ⟨accepts, _, _, refuses, _, cut⟩ := pool_read_exactly
  have wide : Storable [.utf8 "\x00é", .long (-2), .unusable, .classRef 1] :=
    slots_iff.1 (.one (by show List.length _ < _; decide) rfl (.two trivial rfl (.one trivial rfl .nil)))
  have string : Storable [.string 1] := slots_iff.1 (.one trivial rfl .nil)
  have letter : Storable [.utf8 "a"] :=
    slots_iff.1 (.one (by show List.length _ < _; decide) rfl .nil)
  have empty : Storable [] := slots_iff.1 .nil
  have ending : Storable [.string 1, .long 9, .unusable] :=
    slots_iff.1 (.one trivial rfl (.two trivial rfl .nil))
  have invalid : ∀ text, ModifiedUtf8.encode text ≠ [0xff] := by
    intro text same
    have decoded := ModifiedUtf8.decode?_eq_some.2 same.symm
    exact absurd decoded (by simp [show ModifiedUtf8.decode? [0xff] = none by decide])
  refine ⟨?_, ?_, ?_, ?_, ?_⟩
  · obtain ⟨d, read, _, left⟩ := accepts (ofBytes (_ ++ [7]).toArray) _ [7] (by decide) wide rfl
    exact ⟨d, read, left⟩
  · exact (refuses _ 3 [.string 1] (encode (.long 9)) ⟨string, by decide, by decide⟩).1 (.long 9) []
      rfl rfl rfl
  · exact (refuses _ 3 [.utf8 "a"] [2] ⟨letter, by decide, by decide⟩).2.1 2 [] (by decide) rfl
  · exact (refuses _ 2 [] [1, 0, 1, 0xff] ⟨empty, by decide, by decide⟩).2.2.1 [0xff] [] (by decide)
      invalid rfl
  · exact cut _ [.string 1, .long 9, .unusable] (by decide) ending ⟨[0, 0, 0, 0, 0, 9], by decide⟩
      (by decide)

end Entry

end MiniJvm
