import MiniJvm.Constant.Pool
import MiniJvm.Proofs.Layout.Inverse
import MiniJvm.Proofs.Layout.Text

/-!
The constant pool and its layout. A stored pool is a sequence of slots in which every long and double is
followed by an unusable slot, and no other slot is unusable.
-/

namespace MiniJvm

open Effect Cursor

namespace Entry

/-- The entries that are stored: not the unusable slot, and no text longer than its length field. -/
def Fits : Entry → Prop
  | .utf8 text => (ModifiedUtf8.encode text).length < 0x10000
  | .unusable => False
  | _ => True

/-- Slots in which an unusable one stands after every long and double and nowhere else. -/
inductive Slots : List Entry → Prop
  | nil : Slots []
  | one {entry : Entry} {others : List Entry} (fits : entry.Fits) (narrow : entry.isWide = false)
      (rest : Slots others) : Slots (entry :: others)
  | two {entry : Entry} {others : List Entry} (fits : entry.Fits) (wide : entry.isWide = true)
      (rest : Slots others) : Slots (entry :: .unusable :: others)

variable {c d e : Cursor}

theorem inverts_readText (index : UInt16) :
    Inverts (readText index) (fun text => (ModifiedUtf8.encode text).length < 0x10000)
      (fun text => Layout.u2 (UInt16.ofNat (ModifiedUtf8.encode text).length) ++
        ModifiedUtf8.encode text) := by
  intro c d text
  unfold readText
  simp only [bind_ok, u2_spans, take_spans, spans_append]
  constructor
  · rintro ⟨length, e, spansLength, bytes, f, ⟨size, spansBytes⟩, decoding⟩
    cases decoded : ModifiedUtf8.decode? bytes.toList with
    | none =>
      rw [decoded] at decoding
      cases decoding
    | some found =>
      rw [decoded] at decoding
      obtain ⟨rfl, rfl⟩ := pure_ok.1 decoding
      have same := ModifiedUtf8.decode?_eq_some.1 decoded
      have bound := length.toNat_lt
      have sameLength : (ModifiedUtf8.encode found).length = length.toNat := by
        rw [← same, Array.length_toList, size]
      refine ⟨by omega, e, ?_, same ▸ spansBytes⟩
      rw [sameLength, UInt16.ofNat_toNat]
      exact spansLength
  · rintro ⟨bound, e, spansLength, spansText⟩
    refine ⟨_, e, spansLength, (ModifiedUtf8.encode text).toArray, d, ⟨?_, spansText⟩, ?_⟩
    · rw [List.size_toArray, UInt16.toNat_ofNat_of_lt' bound]
    · rw [ModifiedUtf8.decode?_eq_some.2 rfl]
      rfl

theorem word64_spans {word : UInt64} : word64 c = .ok word d ↔ c.Spans d (Layout.u8 word) := by
  unfold word64
  simp only [bind_ok, u4_spans, pure_ok]
  constructor
  · rintro ⟨high, e, spansHigh, low, f, spansLow, rfl, rfl⟩
    rw [Layout.u8_halves]
    exact spans_append.2 ⟨e, spansHigh, spansLow⟩
  · intro spans
    obtain ⟨e, spansHigh, spansLow⟩ := spans_append.1 spans
    exact ⟨_, e, spansHigh, _, d, spansLow, Layout.halves_u8 word, rfl⟩

theorem made_spans {α : Type} {item : Decode α} {layout : α → List UInt8} {make : α → Entry}
    {entry : Entry} (inverts : ∀ {value e}, item c = .ok value e ↔ c.Spans e (layout value)) :
    (do return make (← item)) c = .ok entry d ↔
      ∃ value, entry = make value ∧ c.Spans d (layout value) := by
  simp only [bind_ok, inverts, pure_ok]
  constructor
  · rintro ⟨value, e, spans, rfl, rfl⟩
    exact ⟨value, rfl, spans⟩
  · rintro ⟨value, rfl, spans⟩
    exact ⟨value, d, spans, rfl, rfl⟩

theorem readPair_spans {make : UInt16 → UInt16 → Entry} {entry : Entry} :
    readPair make c = .ok entry d ↔
      ∃ first second, entry = make first second ∧ c.Spans d (Layout.u2 first ++ Layout.u2 second) := by
  unfold readPair
  simp only [bind_ok, u2_spans, pure_ok, spans_append]
  constructor
  · rintro ⟨first, e, spansFirst, second, f, spansSecond, rfl, rfl⟩
    exact ⟨first, second, rfl, e, spansFirst, spansSecond⟩
  · rintro ⟨first, second, rfl, e, spansFirst, spansSecond⟩
    exact ⟨first, e, spansFirst, second, d, spansSecond, rfl, rfl⟩

theorem spans_tag {tag : UInt8} {body : List UInt8} :
    c.Spans d (tag :: body) ↔ ∃ e, c.Spans e (Layout.u1 tag) ∧ e.Spans d body := by
  rw [← spans_append]
  rfl

theorem encode_integer (word : UInt32) : (integer word.toInt32).encode = 3 :: Layout.u4 word := by
  rw [encode, UInt32.toUInt32_toInt32]

theorem encode_long (word : UInt64) : (long word.toInt64).encode = 5 :: Layout.u8 word := by
  rw [encode, UInt64.toUInt64_toInt64]

theorem spans_of_made {α : Type} {layout : α → List UInt8} {make : α → Entry} {tag : UInt8}
    {entry : Entry} (tagged : c.Spans e (Layout.u1 tag))
    (made : ∃ value, entry = make value ∧ e.Spans d (layout value)) (fits : ∀ value, (make value).Fits)
    (written : ∀ value, (make value).encode = tag :: layout value) :
    entry.Fits ∧ c.Spans d entry.encode := by
  obtain ⟨value, rfl, spans⟩ := made
  rw [written]
  exact ⟨fits value, spans_tag.2 ⟨e, tagged, spans⟩⟩

theorem spans_of_pair {tag : UInt8} {entry : Entry} (make : UInt16 → UInt16 → Entry)
    (fits : ∀ first second, (make first second).Fits)
    (written : ∀ first second,
      (make first second).encode = tag :: (Layout.u2 first ++ Layout.u2 second))
    (tagged : c.Spans e (Layout.u1 tag)) (read : readPair make e = .ok entry d) :
    entry.Fits ∧ c.Spans d entry.encode := by
  obtain ⟨first, second, rfl, spans⟩ := readPair_spans.1 read
  rw [written]
  exact ⟨fits first second, spans_tag.2 ⟨e, tagged, spans⟩⟩

theorem spans_of_text {index : UInt16} {entry : Entry} (tagged : c.Spans e (Layout.u1 1))
    (read : (do return Entry.utf8 (← readText index)) e = .ok entry d) :
    entry.Fits ∧ c.Spans d entry.encode := by
  obtain ⟨text, f, found, made⟩ := bind_ok.1 read
  obtain ⟨rfl, rfl⟩ := pure_ok.1 made
  obtain ⟨fits, spans⟩ := (inverts_readText index).1 found
  exact ⟨fits, spans_tag.2 ⟨e, tagged, spans⟩⟩

theorem spans_of_handle {entry : Entry} (tagged : c.Spans e (Layout.u1 15))
    (read : (do
      let kind ← u1
      let target ← u2
      return Entry.methodHandle kind target) e = .ok entry d) :
    entry.Fits ∧ c.Spans d entry.encode := by
  obtain ⟨kind, f, readKind, rest⟩ := bind_ok.1 read
  obtain ⟨target, g, readTarget, made⟩ := bind_ok.1 rest
  obtain ⟨rfl, rfl⟩ := pure_ok.1 made
  have body := spans_append.2 ⟨f, u1_spans.1 readKind, u2_spans.1 readTarget⟩
  exact ⟨trivial, spans_tag.2 ⟨e, tagged, body⟩⟩

theorem spans_of_read {index : UInt16} {entry : Entry} (ran : read index c = .ok entry d) :
    entry.Fits ∧ c.Spans d entry.encode := by
  obtain ⟨tag, e, tagged, body⟩ := bind_ok.1 ran
  rw [u1_spans] at tagged
  -- One case for each tag, in the order in which they are tried.
  rcases ite_ok.1 body with ⟨rfl, read⟩ | ⟨-, body⟩
  · exact spans_of_text tagged read
  rcases ite_ok.1 body with ⟨rfl, read⟩ | ⟨-, body⟩
  · exact spans_of_made tagged ((made_spans u4_spans).1 read) (fun _ => trivial) encode_integer
  rcases ite_ok.1 body with ⟨rfl, read⟩ | ⟨-, body⟩
  · exact spans_of_made tagged ((made_spans u4_spans).1 read) (fun _ => trivial) (fun _ => rfl)
  rcases ite_ok.1 body with ⟨rfl, read⟩ | ⟨-, body⟩
  · exact spans_of_made tagged ((made_spans word64_spans).1 read) (fun _ => trivial) encode_long
  rcases ite_ok.1 body with ⟨rfl, read⟩ | ⟨-, body⟩
  · exact spans_of_made tagged ((made_spans word64_spans).1 read) (fun _ => trivial) (fun _ => rfl)
  rcases ite_ok.1 body with ⟨rfl, read⟩ | ⟨-, body⟩
  · exact spans_of_made tagged ((made_spans u2_spans).1 read) (fun _ => trivial) (fun _ => rfl)
  rcases ite_ok.1 body with ⟨rfl, read⟩ | ⟨-, body⟩
  · exact spans_of_made tagged ((made_spans u2_spans).1 read) (fun _ => trivial) (fun _ => rfl)
  rcases ite_ok.1 body with ⟨rfl, read⟩ | ⟨-, body⟩
  · exact spans_of_pair .fieldRef (fun _ _ => trivial) (fun _ _ => rfl) tagged read
  rcases ite_ok.1 body with ⟨rfl, read⟩ | ⟨-, body⟩
  · exact spans_of_pair .methodRef (fun _ _ => trivial) (fun _ _ => rfl) tagged read
  rcases ite_ok.1 body with ⟨rfl, read⟩ | ⟨-, body⟩
  · exact spans_of_pair .interfaceMethodRef (fun _ _ => trivial) (fun _ _ => rfl) tagged read
  rcases ite_ok.1 body with ⟨rfl, read⟩ | ⟨-, body⟩
  · exact spans_of_pair .nameAndType (fun _ _ => trivial) (fun _ _ => rfl) tagged read
  rcases ite_ok.1 body with ⟨rfl, read⟩ | ⟨-, body⟩
  · exact spans_of_handle tagged read
  rcases ite_ok.1 body with ⟨rfl, read⟩ | ⟨-, body⟩
  · exact spans_of_pair .invokeDynamic (fun _ _ => trivial) (fun _ _ => rfl) tagged read
  cases body

theorem made_of_spans {α : Type} {item : Decode α} {layout : α → List UInt8} (make : α → Entry)
    {tag : UInt8} {value : α} (inverts : ∀ {e}, item e = .ok value d ↔ e.Spans d (layout value))
    (spans : c.Spans d (tag :: layout value)) :
    ∃ e, u1 c = .ok tag e ∧ (do return make (← item)) e = .ok (make value) d := by
  obtain ⟨e, tagged, body⟩ := spans_tag.1 spans
  exact ⟨e, u1_spans.2 tagged, bind_ok.2 ⟨value, d, inverts.2 body, rfl⟩⟩

theorem pair_of_spans (make : UInt16 → UInt16 → Entry) {tag : UInt8} {first second : UInt16}
    (spans : c.Spans d (tag :: (Layout.u2 first ++ Layout.u2 second))) :
    ∃ e, u1 c = .ok tag e ∧ readPair make e = .ok (make first second) d := by
  obtain ⟨e, tagged, body⟩ := spans_tag.1 spans
  exact ⟨e, u1_spans.2 tagged, readPair_spans.2 ⟨first, second, rfl, body⟩⟩

theorem read_of_spans {index : UInt16} {entry : Entry} (fits : entry.Fits)
    (spans : c.Spans d entry.encode) : read index c = .ok entry d := by
  cases entry with
  | unusable => exact fits.elim
  | utf8 text =>
    obtain ⟨e, tagged, body⟩ := spans_tag.1 spans
    refine bind_ok.2 ⟨1, e, u1_spans.2 tagged, ?_⟩
    exact bind_ok.2 ⟨text, d, (inverts_readText index).2 ⟨fits, body⟩, rfl⟩
  | integer value =>
    obtain ⟨e, tagged, body⟩ := made_of_spans (fun word => integer word.toInt32) u4_spans spans
    exact bind_ok.2 ⟨3, e, tagged, body⟩
  | float bits =>
    obtain ⟨e, tagged, body⟩ := made_of_spans .float u4_spans spans
    exact bind_ok.2 ⟨4, e, tagged, body⟩
  | long value =>
    obtain ⟨e, tagged, body⟩ := made_of_spans (fun word => long word.toInt64) word64_spans spans
    exact bind_ok.2 ⟨5, e, tagged, body⟩
  | double bits =>
    obtain ⟨e, tagged, body⟩ := made_of_spans .double word64_spans spans
    exact bind_ok.2 ⟨6, e, tagged, body⟩
  | classRef name =>
    obtain ⟨e, tagged, body⟩ := made_of_spans .classRef u2_spans spans
    exact bind_ok.2 ⟨7, e, tagged, body⟩
  | string text =>
    obtain ⟨e, tagged, body⟩ := made_of_spans .string u2_spans spans
    exact bind_ok.2 ⟨8, e, tagged, body⟩
  | fieldRef owner member =>
    obtain ⟨e, tagged, body⟩ := pair_of_spans .fieldRef spans
    exact bind_ok.2 ⟨9, e, tagged, body⟩
  | methodRef owner member =>
    obtain ⟨e, tagged, body⟩ := pair_of_spans .methodRef spans
    exact bind_ok.2 ⟨10, e, tagged, body⟩
  | interfaceMethodRef owner member =>
    obtain ⟨e, tagged, body⟩ := pair_of_spans .interfaceMethodRef spans
    exact bind_ok.2 ⟨11, e, tagged, body⟩
  | nameAndType name descriptor =>
    obtain ⟨e, tagged, body⟩ := pair_of_spans .nameAndType spans
    exact bind_ok.2 ⟨12, e, tagged, body⟩
  | invokeDynamic bootstrap member =>
    obtain ⟨e, tagged, body⟩ := pair_of_spans .invokeDynamic spans
    exact bind_ok.2 ⟨18, e, tagged, body⟩
  | methodHandle kind target =>
    obtain ⟨e, tagged, body⟩ := spans_tag.1 spans
    obtain ⟨f, spansKind, spansTarget⟩ := spans_append.1 body
    refine bind_ok.2 ⟨15, e, u1_spans.2 tagged, ?_⟩
    refine bind_ok.2 ⟨kind, f, u1_spans.2 spansKind, ?_⟩
    exact bind_ok.2 ⟨target, d, u2_spans.2 spansTarget, rfl⟩

theorem inverts_read (index : UInt16) : Inverts (read index) Fits encode := by
  intro c d entry
  constructor
  · exact spans_of_read
  · rintro ⟨fits, spans⟩
    exact read_of_spans fits spans

/-- Reading fills the slots one entry after the other; a wide entry fills two at once, so the induction
goes back two numbers. -/
theorem inverts_readSlots (count : UInt16) (slots : Nat) (index : UInt16) :
    Inverts (readSlots count slots index) (fun entries => entries.length = slots ∧ Slots entries)
      (·.flatMap encode) := by
  induction slots using Nat.strongRecOn generalizing index with
  | ind slots ih =>
  intro c d entries
  cases slots with
  | zero =>
    rw [readSlots, pure_ok]
    constructor
    · rintro ⟨rfl, rfl⟩
      exact ⟨⟨rfl, .nil⟩, spans_nil.2 rfl⟩
    · rintro ⟨⟨nothing, _⟩, spans⟩
      obtain rfl := List.eq_nil_of_length_eq_zero nothing
      exact ⟨rfl, (spans_nil.1 spans).symm⟩
  | succ slots =>
    rw [readSlots, bind_ok]
    constructor
    · rintro ⟨entry, e, readEntry, rest⟩
      obtain ⟨fits, spansEntry⟩ := (inverts_read index).1 readEntry
      by_cases wide : entry.isWide = true
      · rw [if_pos wide] at rest
        cases slots with
        | zero => cases rest
        | succ slots =>
          obtain ⟨others, f, readOthers, made⟩ := bind_ok.1 rest
          obtain ⟨rfl, rfl⟩ := pure_ok.1 made
          obtain ⟨⟨length, shape⟩, spansOthers⟩ := (ih slots (by omega) _).1 readOthers
          refine ⟨⟨by simp [length], .two fits wide shape⟩, ?_⟩
          exact spans_append.2 ⟨e, spansEntry, spansOthers⟩
      · rw [if_neg wide] at rest
        obtain ⟨others, f, readOthers, made⟩ := bind_ok.1 rest
        obtain ⟨rfl, rfl⟩ := pure_ok.1 made
        obtain ⟨⟨length, shape⟩, spansOthers⟩ := (ih slots (by omega) _).1 readOthers
        refine ⟨⟨by simp [length], .one fits (by simpa using wide) shape⟩, ?_⟩
        exact spans_append.2 ⟨e, spansEntry, spansOthers⟩
    · rintro ⟨⟨length, shape⟩, spans⟩
      cases shape with
      | nil => cases length
      | @one entry others fits narrow rest =>
        obtain ⟨e, spansEntry, spansOthers⟩ := spans_append.1 spans
        refine ⟨entry, e, (inverts_read index).2 ⟨fits, spansEntry⟩, ?_⟩
        rw [if_neg (by simp [narrow])]
        have read := (ih slots (by omega) (index + 1)).2 ⟨⟨Nat.succ.inj length, rest⟩, spansOthers⟩
        exact bind_ok.2 ⟨others, d, read, rfl⟩
      | @two entry others fits wide rest =>
        cases slots with
        | zero => cases length
        | succ slots =>
          obtain ⟨e, spansEntry, spansOthers⟩ := spans_append.1 spans
          refine ⟨entry, e, (inverts_read index).2 ⟨fits, spansEntry⟩, ?_⟩
          rw [if_pos wide]
          have read := (ih slots (by omega) (index + 2)).2
            ⟨⟨Nat.succ.inj (Nat.succ.inj length), rest⟩, spansOthers⟩
          exact bind_ok.2 ⟨others, d, read, rfl⟩

/-- A pool that is not empty is read from its layout and from nothing else. The empty pool is read from
two counts, of which its layout has one. -/
theorem readPool_spans {entries : List Entry} (filled : entries ≠ []) :
    readPool c = .ok entries d ↔
      (entries.length < 0xffff ∧ Slots entries) ∧ c.Spans d (encodePool entries) := by
  have positive := List.length_pos_iff.2 filled
  unfold readPool encodePool
  simp only [bind_ok, u2_spans, spans_append]
  constructor
  · rintro ⟨count, e, spansCount, readEntries⟩
    obtain ⟨⟨length, shape⟩, spansEntries⟩ := (inverts_readSlots count _ 1).1 readEntries
    have bound := count.toNat_lt
    have same : UInt16.ofNat (entries.length + 1) = count := by
      rw [show entries.length + 1 = count.toNat by omega, UInt16.ofNat_toNat]
    refine ⟨⟨by omega, shape⟩, e, ?_, spansEntries⟩
    rw [same]
    exact spansCount
  · rintro ⟨⟨bound, shape⟩, e, spansCount, spansEntries⟩
    refine ⟨_, e, spansCount, (inverts_readSlots _ _ 1).2 ⟨⟨?_, shape⟩, spansEntries⟩⟩
    rw [UInt16.toNat_ofNat_of_lt' (by show _ < 0x10000; omega)]
    rfl

end Entry

/-! ### Linking -/

theorem mapM_ok_iff {ε α β σ : Type} {link : α → Except ε β} {valid : σ → Prop} {raw : σ → α}
    {seen : σ → β} {xs : List α} {ys : List β}
    (each : ∀ x ∈ xs, ∀ y, link x = .ok y ↔
      ∃ stored, valid stored ∧ x = raw stored ∧ y = seen stored) :
    xs.mapM link = .ok ys ↔
      ∃ all : List σ, (∀ stored ∈ all, valid stored) ∧ xs = all.map raw ∧ ys = all.map seen := by
  induction xs generalizing ys with
  | nil =>
    constructor
    · intro linked
      cases linked
      exact ⟨[], fun _ member => (List.not_mem_nil member).elim, rfl, rfl⟩
    · rintro ⟨all, _, nothing, rfl⟩
      rw [List.map_eq_nil_iff.1 nothing.symm]
      rfl
  | cons x others ih =>
    obtain ⟨eachFirst, eachOther⟩ := List.forall_mem_cons.1 each
    rw [List.mapM_cons]
    simp only [except_bind_ok]
    constructor
    · rintro ⟨y, linkedFirst, rest, linkedRest, made⟩
      cases made
      obtain ⟨first, validFirst, rfl, rfl⟩ := (eachFirst y).1 linkedFirst
      obtain ⟨all, validAll, rfl, rfl⟩ := (ih eachOther).1 linkedRest
      exact ⟨first :: all, List.forall_mem_cons.2 ⟨validFirst, validAll⟩, rfl, rfl⟩
    · rintro ⟨all, validAll, same, rfl⟩
      obtain ⟨first, rest, rfl, rfl, rfl⟩ := List.map_eq_cons_iff.1 same.symm
      obtain ⟨validFirst, validRest⟩ := List.forall_mem_cons.1 validAll
      exact ⟨seen first, (eachFirst _).2 ⟨first, validFirst, rfl, rfl⟩, _,
        (ih eachOther).2 ⟨rest, validRest, rfl, rfl⟩, rfl⟩

theorem mapM_ok_iff_raw {ε α β : Type} {link : α → Except ε β} {valid : β → Prop} {raw : β → α}
    {xs : List α} {ys : List β}
    (each : ∀ x ∈ xs, ∀ y, link x = .ok y ↔ valid y ∧ x = raw y) :
    xs.mapM link = .ok ys ↔ (∀ y ∈ ys, valid y) ∧ xs = ys.map raw := by
  have eachStored : ∀ x ∈ xs, ∀ y, link x = .ok y ↔
      ∃ stored, valid stored ∧ x = raw stored ∧ y = id stored := by
    intro x member y
    rw [each x member y]
    constructor
    · rintro ⟨form, same⟩
      exact ⟨y, form, same, rfl⟩
    · rintro ⟨stored, form, same, rfl⟩
      exact ⟨form, same⟩
  rw [mapM_ok_iff eachStored]
  constructor
  · rintro ⟨all, forms, same, rfl⟩
    rw [List.map_id]
    exact ⟨forms, same⟩
  · rintro ⟨forms, same⟩
    exact ⟨ys, forms, same, (List.map_id _).symm⟩

namespace Entries

variable {entries : Entries}

theorem linkNames_indices {name descriptor : UInt16} {pair : NameAndType}
    (linked : entries.linkNames name descriptor = .ok pair) :
    pair.nameIndex = name ∧ pair.descriptorIndex = descriptor := by
  obtain ⟨_, _, rest⟩ := except_bind_ok.1 linked
  obtain ⟨_, _, made⟩ := except_bind_ok.1 rest
  cases made
  exact ⟨rfl, rfl⟩

theorem linkMember_indices {owner member : UInt16} {reference : MemberRef}
    (linked : entries.linkMember owner member = .ok reference) :
    reference.classIndex = owner ∧ reference.nameAndTypeIndex = member := by
  obtain ⟨_, _, rest⟩ := except_bind_ok.1 linked
  obtain ⟨_, _, made⟩ := except_bind_ok.1 rest
  cases made
  exact ⟨rfl, rfl⟩

theorem linkHandle_indices {kind : UInt8} {index : UInt16} {handle : MethodHandle}
    (linked : entries.linkHandle kind index = .ok handle) :
    handle.referenceKind = kind ∧ handle.referenceIndex = index := by
  unfold linkHandle at linked
  split at linked
  · obtain ⟨_, _, made⟩ := except_bind_ok.1 linked
    cases made
    exact ⟨rfl, rfl⟩
  · split at linked
    · obtain ⟨_, _, made⟩ := except_bind_ok.1 linked
      cases made
      exact ⟨rfl, rfl⟩
    · cases linked

theorem entry_of_link {entry : Entry} {constant : Constant}
    (linked : entries.link entry = .ok constant) : constant.entry = entry := by
  cases entry with
  | classRef name =>
    obtain ⟨_, _, made⟩ := except_bind_ok.1 linked
    cases made
    rfl
  | string text =>
    obtain ⟨_, _, made⟩ := except_bind_ok.1 linked
    cases made
    rfl
  | fieldRef owner member =>
    obtain ⟨_, found, made⟩ := except_bind_ok.1 linked
    obtain ⟨rfl, rfl⟩ := linkMember_indices found
    cases made
    rfl
  | methodRef owner member =>
    obtain ⟨_, found, made⟩ := except_bind_ok.1 linked
    obtain ⟨rfl, rfl⟩ := linkMember_indices found
    cases made
    rfl
  | interfaceMethodRef owner member =>
    obtain ⟨_, found, made⟩ := except_bind_ok.1 linked
    obtain ⟨rfl, rfl⟩ := linkMember_indices found
    cases made
    rfl
  | nameAndType name descriptor =>
    obtain ⟨_, found, made⟩ := except_bind_ok.1 linked
    obtain ⟨rfl, rfl⟩ := linkNames_indices found
    cases made
    rfl
  | methodHandle kind index =>
    obtain ⟨_, found, made⟩ := except_bind_ok.1 linked
    obtain ⟨rfl, rfl⟩ := linkHandle_indices found
    cases made
    rfl
  | invokeDynamic bootstrap member =>
    obtain ⟨_, _, made⟩ := except_bind_ok.1 linked
    cases made
    rfl
  | _ =>
    cases linked
    rfl

end Entries

/-- A linked pool still has the entries that it was linked from. -/
theorem Pool.link_ok {entries : List Entry} {pool : Pool} :
    Pool.link entries = .ok pool ↔ Pool.link pool.entries = .ok pool ∧ entries = pool.entries := by
  constructor
  · intro linked
    have same : entries = pool.entries := by
      obtain ⟨constants, each, made⟩ := except_bind_ok.1 linked
      cases made
      have recover (entry : Entry) (constant : Constant) :
          Entries.link entries.toArray entry = .ok constant ↔
            Entries.link entries.toArray constant.entry = .ok constant ∧ entry = constant.entry := by
        constructor
        · intro found
          have same := Entries.entry_of_link found
          exact ⟨same ▸ found, same.symm⟩
        · rintro ⟨found, rfl⟩
          exact found
      exact ((mapM_ok_iff_raw fun entry _ => recover entry).1 each).2
    exact ⟨same ▸ linked, same⟩
  · rintro ⟨linked, rfl⟩
    exact linked

end MiniJvm
