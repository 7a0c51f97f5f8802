import MiniJvm.ClassFile.Layout
import MiniJvm.Proofs.Layout.Pool

/-!
Attributes and their layout. The name of an attribute, found in the constant pool, decides which form it
is decoded to; attributes inside of code are attributes again. An attribute that has the form of its name
is linked from its own payload and from no other.
-/

namespace MiniJvm

open Effect Cursor

theorem Handler.inverts_read : Inverts Handler.read (fun _ => True) Handler.layout := by
  intro c d handler
  unfold Handler.read Handler.layout
  simp only [bind_ok, pure_ok, u2_spans, spans_append, true_and]
  constructor
  · rintro ⟨startPc, e, spansStart, endPc, f, spansEnd, handlerPc, g, spansHandler, catchType, h,
      spansCatch, rfl, rfl⟩
    exact ⟨g, ⟨f, ⟨e, spansStart, spansEnd⟩, spansHandler⟩, spansCatch⟩
  · rintro ⟨g, ⟨f, ⟨e, spansStart, spansEnd⟩, spansHandler⟩, spansCatch⟩
    exact ⟨_, e, spansStart, _, f, spansEnd, _, g, spansHandler, _, d, spansCatch, rfl, rfl⟩

theorem LineNumber.inverts_read : Inverts LineNumber.read (fun _ => True) LineNumber.layout := by
  intro c d entry
  unfold LineNumber.read LineNumber.layout
  simp only [bind_ok, pure_ok, u2_spans, spans_append, true_and]
  constructor
  · rintro ⟨startPc, e, spansStart, line, f, spansLine, rfl, rfl⟩
    exact ⟨e, spansStart, spansLine⟩
  · rintro ⟨e, spansStart, spansLine⟩
    exact ⟨_, e, spansStart, _, d, spansLine, rfl, rfl⟩

namespace BootstrapMethod

theorem inverts_readArgument (pool : Pool) :
    Inverts (readArgument pool) (fun index => pool.checkLoadable index = .ok ()) Layout.u2 := by
  intro c d index
  unfold readArgument
  simp only [bind_ok, pure_ok, u2_spans, check_spans]
  constructor
  · rintro ⟨found, e, spans, _, f, ⟨loadable, rfl⟩, rfl, rfl⟩
    exact ⟨loadable, spans⟩
  · rintro ⟨loadable, spans⟩
    exact ⟨index, d, spans, (), d, ⟨loadable, rfl⟩, rfl, rfl⟩

/-- The handle is one, and the arguments are loadable constants. -/
structure WellFormed (pool : Pool) (method : BootstrapMethod) : Prop where
  handle : ∃ handle, pool.methodHandle method.handleIndex = .ok handle
  count : method.arguments.length < 0x10000
  loadable : ∀ index ∈ method.arguments, pool.checkLoadable index = .ok ()

theorem inverts_read (pool : Pool) :
    Inverts (read pool) (WellFormed pool) BootstrapMethod.layout := by
  intro c d method
  unfold read BootstrapMethod.layout
  simp only [bind_ok, pure_ok, u2_spans, check_spans, spans_append]
  constructor
  · rintro ⟨handleIndex, e, spansHandle, handle, f, ⟨found, rfl⟩, arguments, g, readArguments, rfl, rfl⟩
    obtain ⟨⟨count, loadable⟩, spansArguments⟩ :=
      (inverts_counted (inverts_readArgument pool)).1 readArguments
    exact ⟨⟨⟨handle, found⟩, count, loadable⟩, f, spansHandle, spansArguments⟩
  · rintro ⟨⟨⟨handle, found⟩, count, loadable⟩, e, spansHandle, spansArguments⟩
    have readArguments :=
      (inverts_counted (inverts_readArgument pool)).2 ⟨⟨count, loadable⟩, spansArguments⟩
    exact ⟨_, e, spansHandle, handle, e, ⟨found, rfl⟩, _, d, readArguments, rfl, rfl⟩

end BootstrapMethod

namespace RawAttribute

def stored (raw : RawAttribute) : List UInt8 :=
  RawAttribute.layout raw.nameIndex raw.payload.toList

theorem inverts_read :
    Inverts RawAttribute.read (fun raw => raw.payload.size < 0x100000000) stored := by
  intro c d raw
  unfold read stored RawAttribute.layout
  simp only [bind_ok, pure_ok, u2_spans, u4_spans, take_spans, spans_append]
  constructor
  · rintro ⟨nameIndex, e, spansName, length, f, spansLength, payload, g, ⟨size, spansPayload⟩, rfl, rfl⟩
    have bound := length.toNat_lt
    refine ⟨by show payload.size < _; omega, f, ⟨e, spansName, ?_⟩, spansPayload⟩
    rw [Array.length_toList, size, UInt32.ofNat_toNat]
    exact spansLength
  · rintro ⟨bound, f, ⟨e, spansName, spansLength⟩, spansPayload⟩
    refine ⟨_, e, spansName, _, f, spansLength, raw.payload, d, ⟨?_, spansPayload⟩, rfl, rfl⟩
    rw [Array.length_toList, UInt32.toNat_ofNat_of_lt' bound]

theorem inverts_readAll :
    Inverts RawAttribute.readAll
      (fun all => all.length < 0x10000 ∧ ∀ raw ∈ all, raw.payload.size < 0x100000000)
      (Layout.counted stored) :=
  inverts_counted inverts_read

end RawAttribute

namespace CodeLayout

def layout (code : CodeLayout) : List UInt8 :=
  Layout.u2 code.maxStack ++ Layout.u2 code.maxLocals ++ Layout.u4 (UInt32.ofNat code.bytes.size) ++
    code.bytes.toList ++ Layout.counted Handler.layout code.handlers ++
    Layout.counted RawAttribute.stored code.attributes

structure Fits (code : CodeLayout) : Prop where
  bytes : code.bytes.size < 0x100000000
  handlers : code.handlers.length < 0x10000
  attributes : code.attributes.length < 0x10000
  payloads : ∀ raw ∈ code.attributes, raw.payload.size < 0x100000000

theorem inverts_read : Inverts CodeLayout.read Fits layout := by
  intro c d code
  unfold read layout
  simp only [bind_ok, pure_ok, u2_spans, u4_spans, take_spans, spans_append]
  constructor
  · rintro ⟨maxStack, e, spansStack, maxLocals, f, spansLocals, length, g, spansLength, bytes, h,
      ⟨size, spansBytes⟩, handlers, i, readHandlers, attributes, j, readAttributes, rfl, rfl⟩
    obtain ⟨⟨handlerCount, _⟩, spansHandlers⟩ :=
      (inverts_counted Handler.inverts_read).1 readHandlers
    obtain ⟨⟨count, payloads⟩, spansAttributes⟩ := RawAttribute.inverts_readAll.1 readAttributes
    have bound := length.toNat_lt
    refine ⟨⟨by show bytes.size < _; omega, handlerCount, count, payloads⟩, i, ⟨h, ⟨g, ⟨f, ⟨e,
      spansStack, spansLocals⟩, ?_⟩, spansBytes⟩, spansHandlers⟩, spansAttributes⟩
    rw [size, UInt32.ofNat_toNat]
    exact spansLength
  · rintro ⟨⟨bound, handlerCount, count, payloads⟩, i, ⟨h, ⟨g, ⟨f, ⟨e,
      spansStack, spansLocals⟩, spansLength⟩, spansBytes⟩, spansHandlers⟩, spansAttributes⟩
    have readHandlers :=
      (inverts_counted Handler.inverts_read).2 ⟨⟨handlerCount, fun _ _ => trivial⟩, spansHandlers⟩
    have readAttributes := RawAttribute.inverts_readAll.2 ⟨⟨count, payloads⟩, spansAttributes⟩
    refine ⟨_, e, spansStack, _, f, spansLocals, _, g, spansLength, code.bytes, h, ⟨?_, spansBytes⟩, _,
      i, readHandlers, _, d, readAttributes, rfl, rfl⟩
    rw [UInt32.toNat_ofNat_of_lt' bound]

end CodeLayout

namespace Attribute

def raw (self : Attribute) : RawAttribute :=
  ⟨self.nameIndex, self.payload.toArray⟩

/-- The form that the name of an attribute calls for, with counts and lengths that fit their fields and
indices that hit what they have to hit. -/
inductive WellFormed (pool : Pool) : Attribute → Prop
  | code {nameIndex maxStack maxLocals : UInt16} {bytes : Array UInt8} {handlers : List Handler}
      {attributes : List Attribute} (named : pool.utf8 nameIndex = .ok codeName)
      (length : bytes.size < 0x100000000) (handlerCount : handlers.length < 0x10000)
      (count : attributes.length < 0x10000)
      (lengths : ∀ nested ∈ attributes, nested.payload.length < 0x100000000)
      (nested : ∀ nested ∈ attributes, nested.WellFormed pool) :
      WellFormed pool (.code nameIndex maxStack maxLocals bytes handlers attributes)
  | lineNumbers {nameIndex : UInt16} {lines : List LineNumber}
      (named : pool.utf8 nameIndex = .ok lineNumbersName) (count : lines.length < 0x10000) :
      WellFormed pool (.lineNumbers nameIndex lines)
  | sourceFile {nameIndex textIndex : UInt16} {text : String}
      (named : pool.utf8 nameIndex = .ok sourceFileName) (found : pool.utf8 textIndex = .ok text) :
      WellFormed pool (.sourceFile nameIndex textIndex text)
  | bootstrapMethods {nameIndex : UInt16} {methods : List BootstrapMethod}
      (named : pool.utf8 nameIndex = .ok bootstrapMethodsName) (count : methods.length < 0x10000)
      (each : ∀ method ∈ methods, method.WellFormed pool) :
      WellFormed pool (.bootstrapMethods nameIndex methods)
  | other {nameIndex : UInt16} {name : String} {payload : Array UInt8}
      (named : pool.utf8 nameIndex = .ok name)
      (unknown : name ∉ [codeName, lineNumbersName, sourceFileName, bootstrapMethodsName]) :
      WellFormed pool (.other nameIndex name payload)

theorem layouts_eq (attributes : List Attribute) :
    layouts attributes = (attributes.map raw).flatMap RawAttribute.stored := by
  induction attributes with
  | nil => rfl
  | cons first others ih =>
    rw [layouts, ih]
    rfl

theorem layoutAll_eq (attributes : List Attribute) :
    layoutAll attributes = Layout.counted RawAttribute.stored (attributes.map raw) := by
  unfold layoutAll Layout.counted
  rw [layouts_eq, List.length_map]

theorem payload_code (nameIndex maxStack maxLocals : UInt16) (bytes : Array UInt8)
    (handlers : List Handler) (attributes : List Attribute) :
    (Attribute.code nameIndex maxStack maxLocals bytes handlers attributes).payload =
      CodeLayout.layout ⟨maxStack, maxLocals, bytes, handlers, attributes.map raw⟩ := by
  have nested := layoutAll_eq attributes
  unfold layoutAll at nested
  rw [Attribute.payload, CodeLayout.layout, ← nested, List.append_assoc _ (Layout.u2 _)]

theorem checkUsedUp_ok {name : String} {unread : Nat} :
    checkUsedUp name unread = .ok () ↔ unread = 0 := by
  unfold checkUsedUp
  by_cases nothing : unread = 0
  · simp [nothing]
  · simp [nothing]

theorem decode_ok {α : Type} {read : Decode α} {fits : α → Prop} {layout : α → List UInt8}
    (inverts : Inverts read fits layout) {name : String} {payload : Array UInt8} {value : α} :
    decode name payload read = .ok value ↔ fits value ∧ layout value = payload.toList := by
  rw [← inverts.whole]
  unfold decode
  cases read (Cursor.ofBytes payload) with
  | error fault c => simp
  | ok found c =>
    simp only [except_bind_ok]
    constructor
    · rintro ⟨_, used, made⟩
      cases made
      exact ⟨c, rfl, checkUsedUp_ok.1 used⟩
    · rintro ⟨d, same, used⟩
      cases same
      exact ⟨(), checkUsedUp_ok.2 used, rfl⟩

def linkCode (pool : Pool) (stored : RawAttribute) : Except Fault Attribute :=
  match CodeLayout.read (Cursor.ofBytes stored.payload) with
  | .error fault _ => throw fault
  | .ok body c => do
    let attributes ← body.attributes.mapM (link pool)
    checkUsedUp codeName c.remaining
    return .code stored.nameIndex body.maxStack body.maxLocals body.bytes body.handlers attributes

def linkPlain (pool : Pool) (name : String) (stored : RawAttribute) : Except Fault Attribute :=
  if name = lineNumbersName then do
    let lines ← decode name stored.payload (Cursor.counted LineNumber.read)
    return .lineNumbers stored.nameIndex lines
  else if name = sourceFileName then do
    let textIndex ← decode name stored.payload Cursor.u2
    let text ← pool.utf8 textIndex
    return .sourceFile stored.nameIndex textIndex text
  else if name = bootstrapMethodsName then do
    let methods ← decode name stored.payload (Cursor.counted (BootstrapMethod.read pool))
    return .bootstrapMethods stored.nameIndex methods
  else
    return .other stored.nameIndex name stored.payload

theorem link_eq (pool : Pool) (stored : RawAttribute) : link pool stored = (do
    let name ← pool.utf8 stored.nameIndex
    if name = codeName then linkCode pool stored else linkPlain pool name stored) := by
  have plain (all : List RawAttribute) :
      all.attach.mapM (fun nested => link pool nested.val) = all.mapM (link pool) := by
    have mapped := List.mapM_map (f := Subtype.val) (g := link pool) (l := all.attach)
    rw [List.attach_map_subtype_val] at mapped
    exact mapped.symm
  rw [link]
  simp only [plain]
  refine bind_congr fun name => ?_
  by_cases isCode : name = codeName
  · rw [if_pos isCode, if_pos isCode, isCode]
    unfold linkCode
    split
    · rename_i fault c refused
      rw [refused]
    · rename_i body c read
      rw [read]
  · rw [if_neg isCode, if_neg isCode]
    rfl

theorem eq_raw_iff {stored : RawAttribute} {linked : Attribute} :
    stored = linked.raw ↔
      stored.nameIndex = linked.nameIndex ∧ linked.payload = stored.payload.toList := by
  constructor
  · rintro rfl
    exact ⟨rfl, rfl⟩
  · rintro ⟨sameName, samePayload⟩
    obtain ⟨nameIndex, payload⟩ := stored
    unfold raw
    rw [samePayload, Array.toArray_toList, ← sameName]

theorem WellFormed.named {pool : Pool} {linked : Attribute} (form : linked.WellFormed pool) :
    pool.utf8 linked.nameIndex = .ok linked.name := by
  cases form with
  | code named => exact named
  | lineNumbers named => exact named
  | sourceFile named => exact named
  | bootstrapMethods named => exact named
  | other named => exact named

theorem wellFormed_code {pool : Pool} {nameIndex maxStack maxLocals : UInt16} {bytes : Array UInt8}
    {handlers : List Handler} {attributes : List Attribute} :
    (Attribute.code nameIndex maxStack maxLocals bytes handlers attributes).WellFormed pool ↔
      pool.utf8 nameIndex = .ok codeName ∧
        CodeLayout.Fits ⟨maxStack, maxLocals, bytes, handlers, attributes.map raw⟩ ∧
        ∀ nested ∈ attributes, nested.WellFormed pool := by
  constructor
  · intro form
    cases form with
    | code named length handlerCount count lengths nested =>
      refine ⟨named, ⟨length, handlerCount, by rw [List.length_map]; exact count, ?_⟩, nested⟩
      intro inner member
      obtain ⟨found, there, rfl⟩ := List.mem_map.1 member
      exact lengths found there
  · rintro ⟨named, fits, nested⟩
    have count := fits.attributes
    rw [List.length_map] at count
    refine .code named fits.bytes fits.handlers count ?_ nested
    intro inner member
    have length := fits.payloads inner.raw (List.mem_map_of_mem member)
    exact length

theorem linkCode_eq_ok {pool : Pool} {stored : RawAttribute} {linked : Attribute} :
    linkCode pool stored = .ok linked ↔ ∃ body attributes,
      (∃ c, CodeLayout.read (Cursor.ofBytes stored.payload) = .ok body c ∧ c.remaining = 0) ∧
        body.attributes.mapM (link pool) = .ok attributes ∧
        linked = .code stored.nameIndex body.maxStack body.maxLocals body.bytes body.handlers
          attributes := by
  unfold linkCode
  cases CodeLayout.read (Cursor.ofBytes stored.payload) with
  | error fault c =>
    constructor
    · nofun
    · rintro ⟨_, _, ⟨_, same, _⟩, _⟩
      cases same
  | ok body c =>
    simp only [except_bind_ok]
    constructor
    · rintro ⟨attributes, linkedAll, _, used, made⟩
      cases made
      exact ⟨body, attributes, ⟨c, rfl, checkUsedUp_ok.1 used⟩, linkedAll, rfl⟩
    · rintro ⟨_, attributes, ⟨_, same, used⟩, linkedAll, rfl⟩
      cases same
      exact ⟨attributes, linkedAll, (), checkUsedUp_ok.2 used, rfl⟩

/-- Code is linked as all attributes are, once this is known of the smaller attributes inside. -/
theorem linkCode_ok {pool : Pool} {stored : RawAttribute} {linked : Attribute}
    (named : pool.utf8 stored.nameIndex = .ok codeName)
    (smaller : ∀ nested : RawAttribute, nested.payload.size < stored.payload.size → ∀ inner,
      link pool nested = .ok inner ↔ inner.WellFormed pool ∧ nested = inner.raw) :
    linkCode pool stored = .ok linked ↔
      linked.name = codeName ∧ linked.WellFormed pool ∧ stored = linked.raw := by
  have inside {body : CodeLayout} {c : Cursor}
      (read : CodeLayout.read (Cursor.ofBytes stored.payload) = .ok body c)
      (attributes : List Attribute) : body.attributes.mapM (link pool) = .ok attributes ↔
        (∀ nested ∈ attributes, nested.WellFormed pool) ∧ body.attributes = attributes.map raw :=
    mapM_ok_iff_raw fun nested member => smaller nested (CodeLayout.nested_smaller read member)
  rw [linkCode_eq_ok]
  constructor
  · rintro ⟨body, attributes, ⟨c, read, used⟩, linkedAll, rfl⟩
    obtain ⟨forms, same⟩ := (inside read attributes).1 linkedAll
    obtain ⟨fits, layout⟩ := CodeLayout.inverts_read.whole.1 ⟨c, read, used⟩
    obtain ⟨maxStack, maxLocals, bytes, handlers, nested⟩ := body
    cases same
    refine ⟨rfl, wellFormed_code.2 ⟨named, fits, forms⟩, eq_raw_iff.2 ⟨rfl, ?_⟩⟩
    rw [payload_code]
    exact layout
  · rintro ⟨isCode, form, rfl⟩
    cases linked with
    | lineNumbers => exact absurd isCode (show lineNumbersName ≠ codeName by decide)
    | sourceFile => exact absurd isCode (show sourceFileName ≠ codeName by decide)
    | bootstrapMethods => exact absurd isCode (show bootstrapMethodsName ≠ codeName by decide)
    | other nameIndex name payload =>
      cases form with
      | other _ unknown => exact absurd (.head _) (isCode ▸ unknown)
    | code nameIndex maxStack maxLocals bytes handlers attributes =>
      obtain ⟨_, fits, nested⟩ := wellFormed_code.1 form
      obtain ⟨c, read, used⟩ := CodeLayout.inverts_read.whole.2 ⟨fits, (payload_code nameIndex ..).symm⟩
      exact ⟨_, attributes, ⟨c, read, used⟩, (inside read attributes).2 ⟨nested, rfl⟩, rfl⟩

theorem linkPlain_ok {pool : Pool} {name : String} {stored : RawAttribute} {linked : Attribute}
    (named : pool.utf8 stored.nameIndex = .ok name) (notCode : name ≠ codeName) :
    linkPlain pool name stored = .ok linked ↔
      linked.name = name ∧ linked.WellFormed pool ∧ stored = linked.raw := by
  unfold linkPlain
  constructor
  · intro whole
    by_cases isLines : name = lineNumbersName
    · subst isLines
      rw [if_pos rfl] at whole
      obtain ⟨lines, decoded, made⟩ := except_bind_ok.1 whole
      cases made
      obtain ⟨⟨count, _⟩, layout⟩ := (decode_ok (inverts_counted LineNumber.inverts_read)).1 decoded
      exact ⟨rfl, .lineNumbers named count, eq_raw_iff.2 ⟨rfl, layout⟩⟩
    rw [if_neg isLines] at whole
    by_cases isSource : name = sourceFileName
    · subst isSource
      rw [if_pos rfl] at whole
      obtain ⟨textIndex, decoded, rest⟩ := except_bind_ok.1 whole
      obtain ⟨text, found, made⟩ := except_bind_ok.1 rest
      cases made
      obtain ⟨_, layout⟩ := (decode_ok inverts_u2).1 decoded
      exact ⟨rfl, .sourceFile named found, eq_raw_iff.2 ⟨rfl, layout⟩⟩
    rw [if_neg isSource] at whole
    by_cases isBootstrap : name = bootstrapMethodsName
    · subst isBootstrap
      rw [if_pos rfl] at whole
      obtain ⟨methods, decoded, made⟩ := except_bind_ok.1 whole
      cases made
      obtain ⟨⟨count, forms⟩, layout⟩ :=
        (decode_ok (inverts_counted (BootstrapMethod.inverts_read pool))).1 decoded
      exact ⟨rfl, .bootstrapMethods named count forms, eq_raw_iff.2 ⟨rfl, layout⟩⟩
    rw [if_neg isBootstrap] at whole
    cases whole
    have unknown : name ∉ [codeName, lineNumbersName, sourceFileName, bootstrapMethodsName] := by
      simp [notCode, isLines, isSource, isBootstrap]
    exact ⟨rfl, .other named unknown, eq_raw_iff.2 ⟨rfl, rfl⟩⟩
  · rintro ⟨rfl, form, rfl⟩
    cases form with
    | code => exact absurd rfl notCode
    | lineNumbers _ count =>
      exact except_bind_ok.2 ⟨_, (decode_ok (inverts_counted LineNumber.inverts_read)).2
        ⟨⟨count, fun _ _ => trivial⟩, rfl⟩, rfl⟩
    | sourceFile _ found =>
      exact except_bind_ok.2 ⟨_, (decode_ok inverts_u2).2 ⟨trivial, rfl⟩,
        except_bind_ok.2 ⟨_, found, rfl⟩⟩
    | bootstrapMethods _ count forms =>
      exact except_bind_ok.2 ⟨_, (decode_ok (inverts_counted (BootstrapMethod.inverts_read pool))).2
        ⟨⟨count, forms⟩, rfl⟩, rfl⟩
    | other _ unknown =>
      simp only [List.mem_cons, List.not_mem_nil, or_false, not_or] at unknown
      obtain ⟨_, notLines, notSource, notBootstrap⟩ := unknown
      exact (if_neg notLines).trans ((if_neg notSource).trans (if_neg notBootstrap))

/-- An attribute is linked from what it is stored as and from nothing else, and what is linked has the
form of its name. The induction is on the size of the payload. -/
theorem link_ok (pool : Pool) (stored : RawAttribute) (linked : Attribute) :
    link pool stored = .ok linked ↔ linked.WellFormed pool ∧ stored = linked.raw := by
  induction size : stored.payload.size using Nat.strongRecOn generalizing stored linked with
  | ind n ih =>
  subst size
  have byName {name : String} (named : pool.utf8 stored.nameIndex = .ok name) :
      (if name = codeName then linkCode pool stored else linkPlain pool name stored) = .ok linked ↔
        linked.name = name ∧ linked.WellFormed pool ∧ stored = linked.raw := by
    by_cases isCode : name = codeName
    · rw [if_pos isCode, isCode]
      rw [isCode] at named
      exact linkCode_ok named fun nested less inner => ih _ less nested inner rfl
    · rw [if_neg isCode]
      exact linkPlain_ok named isCode
  rw [link_eq, except_bind_ok]
  constructor
  · rintro ⟨name, named, rest⟩
    exact ((byName named).1 rest).2
  · rintro ⟨form, same⟩
    have named : pool.utf8 stored.nameIndex = .ok linked.name := by
      rw [same]
      exact form.named
    exact ⟨linked.name, named, (byName named).2 ⟨rfl, form, same⟩⟩

theorem link_all {pool : Pool} {stored : List RawAttribute} {linked : List Attribute} :
    stored.mapM (link pool) = .ok linked ↔
      (∀ nested ∈ linked, nested.WellFormed pool) ∧ stored = linked.map raw :=
  mapM_ok_iff_raw fun inner _ => link_ok pool inner

end Attribute

end MiniJvm
