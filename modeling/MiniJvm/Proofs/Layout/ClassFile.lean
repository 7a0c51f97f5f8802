import MiniJvm.Proofs.Layout.Attribute

/-!
Class files and their layout. Bytes are accepted exactly when they are the layout of a well-formed class
file, and what is read is that class file without the flag bits that have no meaning.
-/

namespace MiniJvm

open Effect Cursor

/-! ### Members -/

namespace RawMember

def layout (member : RawMember) : List UInt8 :=
  Layout.u2 member.flags ++ Layout.u2 member.nameIndex ++ Layout.u2 member.descriptorIndex ++
    Layout.counted RawAttribute.stored member.attributes

structure Fits (member : RawMember) : Prop where
  attributes : member.attributes.length < 0x10000
  payloads : ∀ raw ∈ member.attributes, raw.payload.size < 0x100000000

theorem inverts_read : Inverts read Fits layout := by
  intro c d member
  unfold read layout
  simp only [bind_ok, pure_ok, u2_spans, spans_append]
  constructor
  · rintro ⟨flags, e, spansFlags, name, f, spansName, descriptor, g, spansDescriptor, attributes, h,
      readAttributes, rfl, rfl⟩
    obtain ⟨⟨count, payloads⟩, spansAttributes⟩ := RawAttribute.inverts_readAll.1 readAttributes
    exact ⟨⟨count, payloads⟩, g, ⟨f, ⟨e, spansFlags, spansName⟩, spansDescriptor⟩, spansAttributes⟩
  · rintro ⟨⟨count, payloads⟩, g, ⟨f, ⟨e, spansFlags, spansName⟩, spansDescriptor⟩, spansAttributes⟩
    have readAttributes := RawAttribute.inverts_readAll.2 ⟨⟨count, payloads⟩, spansAttributes⟩
    exact ⟨_, e, spansFlags, _, f, spansName, _, g, spansDescriptor, _, d, readAttributes, rfl, rfl⟩

end RawMember

namespace Member

def raw (member : Member) : RawMember :=
  ⟨member.flags, member.nameIndex, member.descriptorIndex, member.attributes.map Attribute.raw⟩

/-- A member without the flag bits that have no meaning. -/
def masked (member : Member) : Member :=
  { member with flags := Access.ofWord member.flags }

/-- Name and descriptor are the texts that the indices hit, and the attributes have the forms of their
names. -/
structure Linked (pool : Pool) (member : Member) : Prop where
  name : pool.utf8 member.nameIndex = .ok member.name
  descriptor : pool.utf8 member.descriptorIndex = .ok member.descriptor
  attributes : ∀ nested ∈ member.attributes, nested.WellFormed pool

theorem layout_raw (member : Member) : member.raw.layout = member.layout := by
  unfold RawMember.layout layout raw
  rw [Attribute.layoutAll_eq]

theorem layouts_raw (members : List Member) :
    Layout.counted RawMember.layout (members.map raw) = Layout.counted layout members := by
  unfold Layout.counted
  rw [List.length_map, List.flatMap_map]
  simp only [layout_raw]

end Member

theorem RawMember.link_ok {pool : Pool} {raw : RawMember} {linked : Member} :
    RawMember.link pool raw = .ok linked ↔
      ∃ stored : Member, stored.Linked pool ∧ raw = stored.raw ∧ linked = stored.masked := by
  unfold RawMember.link
  simp only [except_bind_ok, Attribute.link_all]
  constructor
  · rintro ⟨name, named, descriptor, described, attributes, ⟨forms, same⟩, made⟩
    cases made
    refine ⟨⟨raw.flags, raw.nameIndex, raw.descriptorIndex, name, descriptor, attributes⟩,
      ⟨named, described, forms⟩, ?_, rfl⟩
    unfold Member.raw
    rw [← same]
  · rintro ⟨stored, ⟨named, described, forms⟩, rfl, rfl⟩
    exact ⟨_, named, _, described, _, ⟨forms, rfl⟩, rfl⟩

/-! ### Whole files -/

namespace RawClass

def layout (raw : RawClass) : List UInt8 :=
  Layout.u4 ClassFile.magic ++ Layout.u2 raw.minorVersion ++ Layout.u2 raw.majorVersion ++
    Entry.encodePool raw.entries ++ Layout.u2 raw.flags ++ Layout.u2 raw.thisClass ++
    Layout.u2 raw.superClass ++ Layout.u2 0 ++ Layout.counted RawMember.layout raw.fields ++
    Layout.counted RawMember.layout raw.methods ++ Layout.counted RawAttribute.stored raw.attributes

/-- A version that is read, slots of the right shape, and counts and lengths that fit their fields. -/
structure Fits (raw : RawClass) : Prop where
  version : raw.majorVersion ≤ ClassFile.maxMajorVersion
  slotCount : raw.entries.length < 0xffff
  slots : Entry.Slots raw.entries
  fieldCount : raw.fields.length < 0x10000
  fields : ∀ field ∈ raw.fields, field.Fits
  methodCount : raw.methods.length < 0x10000
  methods : ∀ method ∈ raw.methods, method.Fits
  attributeCount : raw.attributes.length < 0x10000
  attributes : ∀ stored ∈ raw.attributes, stored.payload.size < 0x100000000

variable {c d : Cursor}

theorem unless_ok {α : Type} {refused : Prop} [Decidable refused] {stop rest : Decode α} {value : α}
    (stops : ∀ other e, stop c ≠ .ok other e) :
    (if refused then stop else rest) c = .ok value d ↔ ¬refused ∧ rest c = .ok value d := by
  by_cases condition : refused
  · rw [if_pos condition]
    exact ⟨fun ran => absurd ran (stops value d), fun kept => absurd condition kept.1⟩
  · rw [if_neg condition]
    exact ⟨fun ran => ⟨condition, ran⟩, fun kept => kept.2⟩

theorem readVersion_spans {minor major : UInt16} :
    readVersion c = .ok (minor, major) d ↔
      major ≤ ClassFile.maxMajorVersion ∧
        c.Spans d (Layout.u4 ClassFile.magic ++ Layout.u2 minor ++ Layout.u2 major) := by
  unfold readVersion
  simp only [bind_ok, u4_spans, spans_append]
  constructor
  · rintro ⟨word, e, spansMagic, checked⟩
    obtain ⟨isMagic, rest⟩ := (unless_ok nofun).1 checked
    obtain ⟨first, f, readFirst, rest⟩ := bind_ok.1 rest
    obtain ⟨second, g, readSecond, rest⟩ := bind_ok.1 rest
    obtain ⟨supported, made⟩ := (unless_ok nofun).1 rest
    cases made
    rw [Classical.not_not.1 isMagic] at spansMagic
    exact ⟨UInt16.not_lt.1 supported, f, ⟨e, spansMagic, u2_spans.1 readFirst⟩, u2_spans.1 readSecond⟩
  · rintro ⟨supported, f, ⟨e, spansMagic, spansMinor⟩, spansMajor⟩
    refine ⟨_, e, spansMagic, (unless_ok nofun).2 ⟨fun other => other rfl, ?_⟩⟩
    refine bind_ok.2 ⟨minor, f, u2_spans.2 spansMinor, bind_ok.2 ⟨major, d, u2_spans.2 spansMajor, ?_⟩⟩
    exact (unless_ok nofun).2 ⟨UInt16.not_lt.2 supported, rfl⟩

theorem readInterfaces_spans : readInterfaces c = .ok () d ↔ c.Spans d (Layout.u2 0) := by
  unfold readInterfaces
  simp only [bind_ok, u2_spans]
  constructor
  · rintro ⟨count, e, spansCount, checked⟩
    obtain ⟨isZero, done⟩ := (unless_ok nofun).1 checked
    obtain ⟨_, rfl⟩ := pure_ok.1 done
    rw [Classical.not_not.1 isZero] at spansCount
    exact spansCount
  · intro spansCount
    exact ⟨0, d, spansCount, (unless_ok nofun).2 ⟨by simp, rfl⟩⟩

theorem read_spans {raw : RawClass} (filled : raw.entries ≠ []) :
    read c = .ok raw d ↔ raw.Fits ∧ c.Spans d raw.layout := by
  unfold read layout
  simp only [bind_ok, u2_spans, pure_ok]
  constructor
  · rintro ⟨⟨minor, major⟩, c₁, readWords, entries, c₂, readEntries, flags, c₃, spansFlags, thisClass,
      c₄, spansThis, superClass, c₅, spansSuper, _, c₆, readNone, fields, c₇, readFields, methods, c₈,
      readMethods, attributes, c₉, readAttributes, rfl, rfl⟩
    obtain ⟨version, spansWords⟩ := readVersion_spans.1 readWords
    obtain ⟨⟨slotCount, slots⟩, spansEntries⟩ := (Entry.readPool_spans filled).1 readEntries
    have spansNone := readInterfaces_spans.1 readNone
    obtain ⟨⟨fieldCount, fieldsFit⟩, spansFields⟩ :=
      (inverts_counted RawMember.inverts_read).1 readFields
    obtain ⟨⟨methodCount, methodsFit⟩, spansMethods⟩ :=
      (inverts_counted RawMember.inverts_read).1 readMethods
    obtain ⟨⟨count, payloads⟩, spansAttributes⟩ := RawAttribute.inverts_readAll.1 readAttributes
    have spans := spans_append.2 ⟨c₁, spansWords, spansEntries⟩
    have spans := spans_append.2 ⟨c₂, spans, spansFlags⟩
    have spans := spans_append.2 ⟨c₃, spans, spansThis⟩
    have spans := spans_append.2 ⟨c₄, spans, spansSuper⟩
    have spans := spans_append.2 ⟨c₅, spans, spansNone⟩
    have spans := spans_append.2 ⟨c₆, spans, spansFields⟩
    have spans := spans_append.2 ⟨c₇, spans, spansMethods⟩
    have spans := spans_append.2 ⟨c₈, spans, spansAttributes⟩
    exact ⟨⟨version, slotCount, slots, fieldCount, fieldsFit, methodCount, methodsFit, count, payloads⟩,
      spans⟩
  · rintro ⟨fits, spans⟩
    obtain ⟨c₈, spans, spansAttributes⟩ := spans_append.1 spans
    obtain ⟨c₇, spans, spansMethods⟩ := spans_append.1 spans
    obtain ⟨c₆, spans, spansFields⟩ := spans_append.1 spans
    obtain ⟨c₅, spans, spansNone⟩ := spans_append.1 spans
    obtain ⟨c₄, spans, spansSuper⟩ := spans_append.1 spans
    obtain ⟨c₃, spans, spansThis⟩ := spans_append.1 spans
    obtain ⟨c₂, spans, spansFlags⟩ := spans_append.1 spans
    obtain ⟨c₁, spansWords, spansEntries⟩ := spans_append.1 spans
    have readWords := readVersion_spans.2 ⟨fits.version, spansWords⟩
    have readEntries := (Entry.readPool_spans filled).2 ⟨⟨fits.slotCount, fits.slots⟩, spansEntries⟩
    have readNone := readInterfaces_spans.2 spansNone
    have readFields :=
      (inverts_counted RawMember.inverts_read).2 ⟨⟨fits.fieldCount, fits.fields⟩, spansFields⟩
    have readMethods :=
      (inverts_counted RawMember.inverts_read).2 ⟨⟨fits.methodCount, fits.methods⟩, spansMethods⟩
    have readAttributes :=
      RawAttribute.inverts_readAll.2 ⟨⟨fits.attributeCount, fits.attributes⟩, spansAttributes⟩
    exact ⟨_, c₁, readWords, _, c₂, readEntries, _, c₃, spansFlags, _, c₄, spansThis, _, c₅, spansSuper,
      _, c₆, readNone, _, c₇, readFields, _, c₈, readMethods, _, d, readAttributes, rfl, rfl⟩

theorem checkSuper_ok {pool : Pool} {index : UInt16} :
    checkSuper pool index = .ok () ↔ index = 0 ∨ ∃ ref, pool.classRef index = .ok ref := by
  unfold checkSuper
  by_cases isNone : index = 0
  · simp only [ne_eq, isNone, not_true_eq_false, if_false, true_or, iff_true]
    rfl
  · simp only [ne_eq, isNone, not_false_eq_true, if_true, except_bind_ok, false_or]
    exact ⟨fun ⟨ref, found, _⟩ => ⟨ref, found⟩, fun ⟨ref, found⟩ => ⟨ref, found, rfl⟩⟩

end RawClass

namespace ClassFile

def raw (classFile : ClassFile) : RawClass :=
  ⟨classFile.minorVersion, classFile.majorVersion, classFile.pool.entries, classFile.flags,
    classFile.thisClass, classFile.superClass, classFile.fields.map Member.raw,
    classFile.methods.map Member.raw, classFile.attributes.map Attribute.raw⟩

/-- A class file without the flag bits that have no meaning. -/
def masked (classFile : ClassFile) : ClassFile :=
  { classFile with
    flags := Access.ofWord classFile.flags
    fields := classFile.fields.map Member.masked
    methods := classFile.methods.map Member.masked }

/-- The pool is linked from its own entries, and all indices hit what they have to hit, with the names
and texts on record. -/
structure Linked (classFile : ClassFile) : Prop where
  pool : Pool.link classFile.pool.entries = .ok classFile.pool
  name : classFile.pool.className classFile.thisClass = .ok classFile.name
  superClass : classFile.superClass = 0 ∨ ∃ ref, classFile.pool.classRef classFile.superClass = .ok ref
  fields : ∀ field ∈ classFile.fields, field.Linked classFile.pool
  methods : ∀ method ∈ classFile.methods, method.Linked classFile.pool
  attributes : ∀ stored ∈ classFile.attributes, stored.WellFormed classFile.pool

theorem layout_raw (classFile : ClassFile) : classFile.raw.layout = classFile.layout := by
  unfold RawClass.layout ClassFile.layout raw
  rw [Attribute.layoutAll_eq]
  simp only [Member.layouts_raw]

theorem Linked.entries_ne_nil {classFile : ClassFile} (linked : classFile.Linked) :
    classFile.raw.entries ≠ [] := by
  intro nothing
  have empty : classFile.pool.constants = #[] := Array.toList_eq_nil_iff.1 (List.map_eq_nil_iff.1 nothing)
  obtain ⟨ref, found, _⟩ := except_bind_ok.1 linked.name
  obtain ⟨constant, got, _⟩ := except_bind_ok.1 found
  unfold Pool.get at got
  rw [empty] at got
  split at got
  · cases got
  · cases got

end ClassFile

theorem RawClass.link_ok {raw : RawClass} {linked : ClassFile} :
    raw.link = .ok linked ↔
      ∃ stored : ClassFile, stored.Linked ∧ raw = stored.raw ∧ linked = stored.masked := by
  unfold RawClass.link
  simp only [except_bind_ok, Attribute.link_all, mapM_ok_iff fun _ _ _ => RawMember.link_ok]
  constructor
  · rintro ⟨pool, linkedPool, name, named, _, checked,
      fields, ⟨storedFields, linkedFields, sameFields, rfl⟩,
      methods, ⟨storedMethods, linkedMethods, sameMethods, rfl⟩,
      attributes, ⟨forms, sameAttributes⟩, made⟩
    cases made
    obtain ⟨linkedPool, samePool⟩ := Pool.link_ok.1 linkedPool
    refine ⟨⟨raw.minorVersion, raw.majorVersion, pool, raw.flags, raw.thisClass, raw.superClass,
      storedFields, storedMethods, attributes, name⟩,
      ⟨linkedPool, named, checkSuper_ok.1 checked, linkedFields, linkedMethods, forms⟩, ?_, rfl⟩
    unfold ClassFile.raw
    rw [← samePool, ← sameFields, ← sameMethods, ← sameAttributes]
  · rintro ⟨stored, linked, rfl, rfl⟩
    exact ⟨_, linked.pool, _, linked.name, (), checkSuper_ok.2 linked.superClass, _,
      ⟨_, linked.fields, rfl, rfl⟩, _, ⟨_, linked.methods, rfl, rfl⟩, _, ⟨linked.attributes, rfl⟩, rfl⟩

theorem Access.ofWord_eq_self {word : UInt16} (plain : word &&& 0x8000 = 0) : ofWord word = word := by
  apply UInt16.toBitVec_inj.1
  have unset : word.toBitVec &&& 0x8000#16 = 0#16 := congrArg UInt16.toBitVec plain
  calc word.toBitVec &&& 0x7fff#16
      = (word.toBitVec &&& 0x7fff#16) ||| (word.toBitVec &&& 0x8000#16) := by
        rw [unset, BitVec.or_zero]
    _ = word.toBitVec &&& (0x7fff#16 ||| 0x8000#16) := BitVec.and_or_distrib_left.symm
    _ = word.toBitVec := BitVec.and_allOnes

namespace ClassFile

/-- A class file that can be stored: linked, and nothing in it is too large for its place. -/
structure WellFormed (classFile : ClassFile) : Prop where
  linked : classFile.Linked
  fits : classFile.raw.Fits

/-- No flags word has the bit without a meaning. -/
structure PlainFlags (classFile : ClassFile) : Prop where
  flags : classFile.flags &&& 0x8000 = 0
  members : ∀ member ∈ classFile.fields ++ classFile.methods, member.flags &&& 0x8000 = 0

theorem PlainFlags.masked {classFile : ClassFile} (plain : classFile.PlainFlags) :
    classFile.masked = classFile := by
  have same {member : Member} (inside : member ∈ classFile.fields ++ classFile.methods) :
      member.masked = member := by
    unfold Member.masked
    rw [Access.ofWord_eq_self (plain.members member inside)]
  have sameFields : classFile.fields.map Member.masked = classFile.fields :=
    (List.map_congr_left fun _ inside => same (List.mem_append_left _ inside)).trans (List.map_id _)
  have sameMethods : classFile.methods.map Member.masked = classFile.methods :=
    (List.map_congr_left fun _ inside => same (List.mem_append_right _ inside)).trans (List.map_id _)
  unfold ClassFile.masked
  rw [sameFields, sameMethods, Access.ofWord_eq_self plain.flags]

theorem parse_ok_iff {bytes : Array UInt8} {parsed : ClassFile} :
    parse bytes = .ok parsed ↔ ∃ raw : RawClass,
      (∃ c, RawClass.read (ofBytes bytes) = .ok raw c ∧ c.remaining = 0) ∧ raw.link = .ok parsed := by
  unfold parse
  cases RawClass.read (ofBytes bytes) with
  | error fault c => simp
  | ok raw c =>
    by_cases used : c.remaining = 0
    · simp only [if_pos used, EStateM.Result.ok.injEq]
      constructor
      · intro linking
        exact ⟨raw, ⟨c, ⟨rfl, rfl⟩, used⟩, linking⟩
      · rintro ⟨_, ⟨_, ⟨rfl, _⟩, _⟩, linking⟩
        exact linking
    · simp [used]

/-- The layouts of well-formed class files are accepted, and nothing else is. -/
theorem parse_eq_ok {bytes : Array UInt8} {parsed : ClassFile} :
    parse bytes = .ok parsed ↔ ∃ stored : ClassFile,
      stored.WellFormed ∧ stored.layout = bytes.toList ∧ parsed = stored.masked := by
  have reading {stored : ClassFile} (linked : stored.Linked) :
      (∃ c, RawClass.read (ofBytes bytes) = .ok stored.raw c ∧ c.remaining = 0) ↔
        stored.raw.Fits ∧ stored.layout = bytes.toList := by
    rw [← spans_ofBytes, ← layout_raw]
    simp only [RawClass.read_spans linked.entries_ne_nil, and_assoc, exists_and_left]
  rw [parse_ok_iff]
  constructor
  · rintro ⟨raw, read, linking⟩
    obtain ⟨stored, linked, rfl, rfl⟩ := RawClass.link_ok.1 linking
    obtain ⟨fits, layout⟩ := (reading linked).1 read
    exact ⟨stored, ⟨linked, fits⟩, layout, rfl⟩
  · rintro ⟨stored, ⟨linked, fits⟩, layout, rfl⟩
    exact ⟨stored.raw, (reading linked).2 ⟨fits, layout⟩, RawClass.link_ok.2 ⟨stored, linked, rfl, rfl⟩⟩

/-- What is read is what was stored, but for flag bits without a meaning, and what is stored without such
bits is read. -/
theorem parse_layout_faithful :
    (∀ (bytes : Array UInt8) (parsed : ClassFile), parse bytes = .ok parsed →
      ∃ stored : ClassFile, stored.WellFormed ∧ stored.layout = bytes.toList ∧ parsed = stored.masked) ∧
    (∀ classFile : ClassFile, classFile.WellFormed → classFile.PlainFlags →
      parse classFile.layout.toArray = .ok classFile) := by
  constructor
  · intro bytes parsed accepted
    exact parse_eq_ok.1 accepted
  · intro classFile wellFormed plain
    exact parse_eq_ok.2 ⟨classFile, wellFormed, rfl, plain.masked.symm⟩

/-- A class with a wide constant and a static method that returns at once, with a line table in its
code. -/
def sampleClass : ClassFile where
  minorVersion := 0
  majorVersion := 52
  pool := ⟨#[.utf8 "Sample", .classRef ⟨1, "Sample"⟩, .long 5, .unusable, .utf8 "run", .utf8 "()V",
    .utf8 "Code", .utf8 "LineNumberTable", .utf8 "SourceFile", .utf8 "Sample.java"]⟩
  flags := Access.isPublic
  thisClass := 2
  superClass := 0
  fields := []
  methods := [⟨Access.isStatic, 5, 6, "run", "()V",
    [.code 7 0 0 #[177] [] [.lineNumbers 8 [⟨0, 3⟩]]]⟩]
  attributes := [.sourceFile 9 10 "Sample.java"]
  name := "Sample"

theorem sampleClass_linked : sampleClass.Linked where
  pool := rfl
  name := rfl
  superClass := .inl rfl
  fields := by simp [sampleClass]
  methods := by
    have lines : (Attribute.lineNumbers 8 [⟨0, 3⟩]).WellFormed sampleClass.pool :=
      .lineNumbers rfl (by decide)
    have code : (Attribute.code 7 0 0 #[177] [] [.lineNumbers 8 [⟨0, 3⟩]]).WellFormed sampleClass.pool :=
      .code rfl (by decide) (by decide) (by decide) (List.forall_mem_singleton.2 (by decide +kernel))
        (List.forall_mem_singleton.2 lines)
    exact List.forall_mem_singleton.2 ⟨rfl, rfl, List.forall_mem_singleton.2 code⟩
  attributes := List.forall_mem_singleton.2 (.sourceFile rfl rfl)

theorem sampleClass_fits : sampleClass.raw.Fits where
  version := by decide
  slotCount := by decide
  slots := by
    have text (entry : String) (fits : (ModifiedUtf8.encode entry).length < 0x10000)
        {others : List Entry} (rest : Entry.Slots others) : Entry.Slots (.utf8 entry :: others) :=
      .one fits rfl rest
    refine text _ (by decide +kernel) (.one trivial rfl (.two trivial rfl ?_))
    exact text _ (by decide +kernel) (text _ (by decide +kernel) (text _ (by decide +kernel)
      (text _ (by decide +kernel) (text _ (by decide +kernel) (text _ (by decide +kernel) .nil)))))
  fieldCount := by decide
  fields := by simp [sampleClass, raw]
  methodCount := by decide
  methods := List.forall_mem_singleton.2 ⟨by decide, List.forall_mem_singleton.2 (by decide +kernel)⟩
  attributeCount := by decide
  attributes := List.forall_mem_singleton.2 (by decide +kernel)

theorem sample_class_read_back : parse sampleClass.layout.toArray = .ok sampleClass := by
  have plain : sampleClass.PlainFlags := ⟨by decide, by decide⟩
  exact parse_layout_faithful.2 sampleClass ⟨sampleClass_linked, sampleClass_fits⟩ plain

end ClassFile

end MiniJvm
