import MiniJvm.Text.ModifiedUtf8

/-!
Modified UTF-8 and UTF-16 write every text in exactly one way. What is read is what was written, and only
what was written is read.
-/

namespace MiniJvm

namespace Utf16

theorem char_bounds (c : Char) : c.toNat < 0xd800 ∨ (0xdfff < c.toNat ∧ c.toNat < 0x110000) :=
  c.valid

theorem toNat_ofNat_of_valid {n : Nat} (valid : n.isValidChar) : (Char.ofNat n).toNat = n := by
  unfold Char.ofNat
  rw [dif_pos valid]
  rfl

theorem isHigh_iff {unit : UInt16} :
    isHigh unit = true ↔ 0xd800 ≤ unit.toNat ∧ unit.toNat < 0xdc00 := by
  simp [isHigh]

theorem isLow_iff {unit : UInt16} :
    isLow unit = true ↔ 0xdc00 ≤ unit.toNat ∧ unit.toNat < 0xe000 := by
  simp [isLow]

/-- A unit that stands alone is the layout of its character. -/
theorem single_eq_some {unit : UInt16} {c : Char} :
    single unit = some c ↔ c.toNat < 0x10000 ∧ unit = UInt16.ofNat c.toNat := by
  have bound := unit.toNat_lt
  unfold single
  by_cases half : (isHigh unit || isLow unit) = true
  · rw [if_pos half]
    rw [Bool.or_eq_true, isHigh_iff, isLow_iff] at half
    constructor
    · intro read
      cases read
    · rintro ⟨small, rfl⟩
      have bounds := char_bounds c
      rw [UInt16.toNat_ofNat_of_lt' small] at half
      omega
  · rw [if_neg half]
    rw [Bool.or_eq_true, isHigh_iff, isLow_iff] at half
    constructor
    · intro read
      cases read
      have valid : unit.toNat.isValidChar := by
        unfold Nat.isValidChar
        omega
      rw [toNat_ofNat_of_valid valid]
      exact ⟨bound, UInt16.ofNat_toNat.symm⟩
    · rintro ⟨small, rfl⟩
      rw [UInt16.toNat_ofNat_of_lt' small, Char.ofNat_toNat]

/-- A high and a low unit are the layout of the character they are joined to. -/
theorem joined_eq {high low : UInt16} {c : Char} (isHigh : isHigh high = true)
    (isLow : isLow low = true) :
    joined high low = c ↔ 0x10000 ≤ c.toNat ∧ [high, low] = ofChar c := by
  rw [isHigh_iff] at isHigh
  rw [isLow_iff] at isLow
  have valid : (0x10000 + (high.toNat - 0xd800) * 0x400 + (low.toNat - 0xdc00)).isValidChar := by
    unfold Nat.isValidChar
    omega
  unfold joined ofChar
  constructor
  · rintro rfl
    rw [toNat_ofNat_of_valid valid]
    refine ⟨by omega, ?_⟩
    rw [if_neg (by omega)]
    simp only [List.cons.injEq, and_true, ← UInt16.toNat_inj, UInt16.toNat_ofNat']
    omega
  · rintro ⟨large, same⟩
    rw [if_neg (by omega)] at same
    simp only [List.cons.injEq, and_true, ← UInt16.toNat_inj, UInt16.toNat_ofNat'] at same
    have bounds := char_bounds c
    rw [← Char.toNat_inj, toNat_ofNat_of_valid valid]
    omega

theorem ofChar_small {c : Char} (small : c.toNat < 0x10000) :
    ofChar c = [UInt16.ofNat c.toNat] := by
  unfold ofChar
  rw [if_pos small]

/-- The layout of a character beyond the basic plane is a pair. -/
theorem ofChar_large {c : Char} (large : 0x10000 ≤ c.toNat) :
    ∃ high low, ofChar c = [high, low] ∧ isHigh high = true ∧ isLow low = true := by
  have bounds := char_bounds c
  unfold ofChar
  rw [if_neg (by omega)]
  refine ⟨_, _, rfl, isHigh_iff.2 ?_, isLow_iff.2 ?_⟩
  · rw [UInt16.toNat_ofNat']
    omega
  · rw [UInt16.toNat_ofNat']
    omega

theorem scan_single {first : UInt16} (alone : isHigh first = false) (rest : List UInt16) :
    scan (first :: rest) = single first :: scan rest := by
  cases rest with
  | nil => rfl
  | cons second others => rw [scan, if_neg (by simp [alone])]

theorem scan_ofChar (c : Char) (rest : List UInt16) :
    scan (ofChar c ++ rest) = some c :: scan rest := by
  by_cases small : c.toNat < 0x10000
  · rw [ofChar_small small]
    have read : single (UInt16.ofNat c.toNat) = some c := single_eq_some.2 ⟨small, rfl⟩
    have alone : isHigh (UInt16.ofNat c.toNat) = false := by
      unfold single at read
      split at read
      · cases read
      · rename_i whole
        simp only [Bool.or_eq_true, not_or, Bool.not_eq_true] at whole
        exact whole.1
    rw [List.singleton_append, scan_single alone, read]
  · obtain ⟨high, low, same, isHigh, isLow⟩ := ofChar_large (Nat.le_of_not_lt small)
    have join : joined high low = c := (joined_eq isHigh isLow).2 ⟨Nat.le_of_not_lt small, same.symm⟩
    rw [same, List.cons_append, List.singleton_append, scan, if_pos (by simp [isHigh, isLow]), join]

theorem scan_encode (text : List Char) : scan (encode text) = text.map some := by
  induction text with
  | nil => rfl
  | cons c others ih =>
    show scan (ofChar c ++ encode others) = _
    rw [scan_ofChar, ih]
    rfl

/-- Only the layout of a text is read without a gap. -/
theorem encode_of_scan {units : List UInt16} {text : List Char} (read : scan units = text.map some) :
    units = encode text := by
  induction units using scan.induct generalizing text with
  | case1 =>
    obtain rfl := List.map_eq_nil_iff.1 read.symm
    rfl
  | case2 unit =>
    obtain ⟨c, others, rfl, first, rest⟩ := List.map_eq_cons_iff.1 read.symm
    obtain rfl := List.map_eq_nil_iff.1 rest
    obtain ⟨small, rfl⟩ := single_eq_some.1 first.symm
    show _ = ofChar c ++ []
    rw [ofChar_small small]
    rfl
  | case3 high low rest pair ih =>
    rw [scan, if_pos pair] at read
    obtain ⟨c, others, rfl, first, more⟩ := List.map_eq_cons_iff.1 read.symm
    rw [Bool.and_eq_true] at pair
    obtain ⟨_, same⟩ := (joined_eq pair.1 pair.2).1 (Option.some.inj first).symm
    show _ = ofChar c ++ encode others
    rw [← same, ← ih more.symm]
    rfl
  | case4 unit next rest alone ih =>
    rw [scan, if_neg alone] at read
    obtain ⟨c, others, rfl, first, more⟩ := List.map_eq_cons_iff.1 read.symm
    obtain ⟨small, rfl⟩ := single_eq_some.1 first.symm
    show _ = ofChar c ++ encode others
    rw [ofChar_small small, ← ih more.symm]
    rfl

theorem mapM_id_eq_some {slots : List (Option Char)} {text : List Char} :
    slots.mapM id = some text ↔ slots = text.map some := by
  induction slots generalizing text with
  | nil =>
    cases text with
    | nil => exact ⟨fun _ => rfl, fun _ => rfl⟩
    | cons c others => simp
  | cons slot others ih =>
    rw [List.mapM_cons]
    cases slot with
    | none => cases text <;> simp
    | some c =>
      show ((others.mapM id).bind fun rest => some (c :: rest)) = some text ↔ _
      simp only [Option.bind_eq_some_iff, ih, Option.some.injEq]
      constructor
      · rintro ⟨rest, rfl, rfl⟩
        rfl
      · intro same
        obtain ⟨first, rest, rfl, head, tail⟩ := List.map_eq_cons_iff.1 same.symm
        cases head
        exact ⟨rest, tail.symm, rfl⟩

theorem decode?_eq_some {units : List UInt16} {text : List Char} :
    decode? units = some text ↔ units = encode text := by
  unfold decode?
  rw [mapM_id_eq_some]
  constructor
  · exact encode_of_scan
  · rintro rfl
    exact scan_encode text

end Utf16

namespace ModifiedUtf8

theorem continuation?_eq_some {byte : UInt8} {bits : Nat} :
    continuation? byte = some bits ↔ bits < 0x40 ∧ byte = UInt8.ofNat (0x80 + bits) := by
  have bound := byte.toNat_lt
  unfold continuation?
  by_cases continues : 0x80 ≤ byte.toNat ∧ byte.toNat < 0xc0
  · rw [if_pos continues, Option.some.injEq, ← UInt8.toNat_inj, UInt8.toNat_ofNat']
    omega
  · rw [if_neg continues, ← UInt8.toNat_inj, UInt8.toNat_ofNat']
    constructor
    · intro read
      cases read
    · omega

theorem ofUnit_ascii {byte : UInt8} (plain : 0 < byte.toNat ∧ byte.toNat < 0x80) :
    ofUnit (UInt16.ofNat byte.toNat) = [byte] := by
  have value : (UInt16.ofNat byte.toNat).toNat = byte.toNat :=
    UInt16.toNat_ofNat_of_lt' (by show _ < 0x10000; omega)
  unfold ofUnit
  simp only [value]
  rw [if_neg (by omega), if_pos plain.2, UInt8.ofNat_toNat]

/-- A two-byte sequence that is read is the layout of its unit. -/
theorem ofUnit_of_ofTwo? {lead next : UInt8} {unit : UInt16}
    (leads : 0xc0 ≤ lead.toNat ∧ lead.toNat < 0xe0) (read : ofTwo? lead next = some unit) :
    ofUnit unit = [lead, next] := by
  obtain ⟨low, continues, chosen⟩ := Option.bind_eq_some_iff.1 read
  obtain ⟨bound, rfl⟩ := continuation?_eq_some.1 continues
  dsimp only at chosen
  split at chosen
  · rename_i shortest
    cases chosen
    have value : (UInt16.ofNat ((lead.toNat - 0xc0) * 0x40 + low)).toNat =
        (lead.toNat - 0xc0) * 0x40 + low := UInt16.toNat_ofNat_of_lt' (by show _ < 0x10000; omega)
    unfold ofUnit
    simp only [value]
    by_cases zero : (lead.toNat - 0xc0) * 0x40 + low = 0
    · rw [if_pos zero]
      have first : lead = 0xc0 := UInt8.toNat_inj.1 (by show lead.toNat = 0xc0; omega)
      have second : low = 0 := by omega
      rw [first, second]
      rfl
    · rw [if_neg zero, if_neg (by omega), if_pos (by omega)]
      simp only [List.cons.injEq, and_true, ← UInt8.toNat_inj, UInt8.toNat_ofNat']
      omega
  · cases chosen

/-- A three-byte sequence that is read is the layout of its unit. -/
theorem ofUnit_of_ofThree? {lead next last : UInt8} {unit : UInt16}
    (leads : 0xe0 ≤ lead.toNat ∧ lead.toNat < 0xf0) (read : ofThree? lead next last = some unit) :
    ofUnit unit = [lead, next, last] := by
  obtain ⟨middle, continues, later⟩ := Option.bind_eq_some_iff.1 read
  obtain ⟨low, ends, chosen⟩ := Option.bind_eq_some_iff.1 later
  obtain ⟨boundMiddle, rfl⟩ := continuation?_eq_some.1 continues
  obtain ⟨boundLow, rfl⟩ := continuation?_eq_some.1 ends
  dsimp only at chosen
  split at chosen
  · rename_i shortest
    cases chosen
    have value : (UInt16.ofNat ((lead.toNat - 0xe0) * 0x1000 + middle * 0x40 + low)).toNat =
        (lead.toNat - 0xe0) * 0x1000 + middle * 0x40 + low :=
      UInt16.toNat_ofNat_of_lt' (by show _ < 0x10000; omega)
    unfold ofUnit
    simp only [value]
    rw [if_neg (by omega), if_neg (by omega), if_neg (by omega)]
    simp only [List.cons.injEq, and_true, ← UInt8.toNat_inj, UInt8.toNat_ofNat']
    omega
  · cases chosen

theorem flatMap_ofUnit_of_units? {bytes : List UInt8} {units : List UInt16}
    (read : units? bytes = some units) : bytes = units.flatMap ofUnit := by
  fun_induction units? bytes generalizing units with
  | case1 =>
    cases read
    rfl
  | case2 lead rest plain ih =>
    obtain ⟨others, more, rfl⟩ := Option.map_eq_some_iff.1 read
    rw [List.flatMap_cons, ← ih more, ofUnit_ascii plain]
    rfl
  | case3 lead plain leads next rest ih =>
    obtain ⟨unit, first, later⟩ := Option.bind_eq_some_iff.1 read
    obtain ⟨others, more, rfl⟩ := Option.map_eq_some_iff.1 later
    rw [List.flatMap_cons, ← ih more, ofUnit_of_ofTwo? leads first]
    rfl
  | case4 => cases read
  | case5 lead plain notTwo leads next last rest ih =>
    obtain ⟨unit, first, later⟩ := Option.bind_eq_some_iff.1 read
    obtain ⟨others, more, rfl⟩ := Option.map_eq_some_iff.1 later
    rw [List.flatMap_cons, ← ih more, ofUnit_of_ofThree? leads first]
    rfl
  | case6 => cases read
  | case7 => cases read

theorem units?_ascii {lead : UInt8} (plain : 0 < lead.toNat ∧ lead.toNat < 0x80)
    (rest : List UInt8) :
    units? (lead :: rest) = (UInt16.ofNat lead.toNat :: ·) <$> units? rest := by
  rw [units?.eq_def]
  simp only [if_pos plain]

theorem units?_two {lead next : UInt8} {unit : UInt16}
    (leads : 0xc0 ≤ lead.toNat ∧ lead.toNat < 0xe0) (whole : ofTwo? lead next = some unit)
    (rest : List UInt8) :
    units? (lead :: next :: rest) = (unit :: ·) <$> units? rest := by
  have notAscii : ¬ (0 < lead.toNat ∧ lead.toNat < 0x80) := by omega
  rw [units?.eq_def]
  simp only [if_neg notAscii, if_pos leads, whole, Option.bind_eq_bind, Option.bind_some]

theorem units?_three {lead next last : UInt8} {unit : UInt16}
    (leads : 0xe0 ≤ lead.toNat ∧ lead.toNat < 0xf0) (whole : ofThree? lead next last = some unit)
    (rest : List UInt8) :
    units? (lead :: next :: last :: rest) = (unit :: ·) <$> units? rest := by
  have notAscii : ¬ (0 < lead.toNat ∧ lead.toNat < 0x80) := by omega
  have notTwo : ¬ (0xc0 ≤ lead.toNat ∧ lead.toNat < 0xe0) := by omega
  rw [units?.eq_def]
  simp only [if_neg notAscii, if_neg notTwo, if_pos leads, whole, Option.bind_eq_bind,
    Option.bind_some]

theorem ofTwo?_ofUnit {unit : UInt16} (long : 0x80 ≤ unit.toNat) (two : unit.toNat < 0x800) :
    ofTwo? (UInt8.ofNat (0xc0 + unit.toNat / 0x40)) (UInt8.ofNat (0x80 + unit.toNat % 0x40)) =
      some unit := by
  have lead : (UInt8.ofNat (0xc0 + unit.toNat / 0x40)).toNat = 0xc0 + unit.toNat / 0x40 :=
    UInt8.toNat_ofNat_of_lt' (by show _ < 0x100; omega)
  have low : continuation? (UInt8.ofNat (0x80 + unit.toNat % 0x40)) = some (unit.toNat % 0x40) :=
    continuation?_eq_some.2 ⟨by omega, rfl⟩
  have sum : (0xc0 + unit.toNat / 0x40 - 0xc0) * 0x40 + unit.toNat % 0x40 = unit.toNat := by omega
  unfold ofTwo?
  rw [low, lead]
  simp only [Option.bind_eq_bind, Option.bind_some, sum]
  rw [if_pos (by omega), UInt16.ofNat_toNat]

theorem ofThree?_ofUnit {unit : UInt16} (long : 0x800 ≤ unit.toNat) :
    ofThree? (UInt8.ofNat (0xe0 + unit.toNat / 0x1000))
      (UInt8.ofNat (0x80 + unit.toNat / 0x40 % 0x40)) (UInt8.ofNat (0x80 + unit.toNat % 0x40)) =
        some unit := by
  have bound := unit.toNat_lt
  have lead : (UInt8.ofNat (0xe0 + unit.toNat / 0x1000)).toNat = 0xe0 + unit.toNat / 0x1000 :=
    UInt8.toNat_ofNat_of_lt' (by show _ < 0x100; omega)
  have middle : continuation? (UInt8.ofNat (0x80 + unit.toNat / 0x40 % 0x40)) =
      some (unit.toNat / 0x40 % 0x40) := continuation?_eq_some.2 ⟨by omega, rfl⟩
  have low : continuation? (UInt8.ofNat (0x80 + unit.toNat % 0x40)) = some (unit.toNat % 0x40) :=
    continuation?_eq_some.2 ⟨by omega, rfl⟩
  have sum : (0xe0 + unit.toNat / 0x1000 - 0xe0) * 0x1000 + unit.toNat / 0x40 % 0x40 * 0x40 +
      unit.toNat % 0x40 = unit.toNat := by omega
  unfold ofThree?
  rw [middle, low, lead]
  simp only [Option.bind_eq_bind, Option.bind_some, sum]
  rw [if_pos (by omega), UInt16.ofNat_toNat]

theorem units?_ofUnit (unit : UInt16) (rest : List UInt8) :
    units? (ofUnit unit ++ rest) = (unit :: ·) <$> units? rest := by
  have bound := unit.toNat_lt
  unfold ofUnit
  dsimp only
  by_cases zero : unit.toNat = 0
  · have same : unit = 0 := UInt16.toNat_inj.1 zero
    rw [if_pos zero, same]
    exact units?_two (by decide) (by decide) rest
  rw [if_neg zero]
  by_cases ascii : unit.toNat < 0x80
  · have lead : (UInt8.ofNat unit.toNat).toNat = unit.toNat :=
      UInt8.toNat_ofNat_of_lt' (by show _ < 0x100; omega)
    rw [if_pos ascii, List.singleton_append, units?_ascii (by omega), lead, UInt16.ofNat_toNat]
  rw [if_neg ascii]
  by_cases two : unit.toNat < 0x800
  · rw [if_pos two]
    refine units?_two ?_ (ofTwo?_ofUnit (by omega) two) rest
    rw [UInt8.toNat_ofNat_of_lt' (by show _ < 0x100; omega)]
    omega
  · rw [if_neg two]
    refine units?_three ?_ (ofThree?_ofUnit (by omega)) rest
    rw [UInt8.toNat_ofNat_of_lt' (by show _ < 0x100; omega)]
    omega

theorem units?_eq_some {bytes : List UInt8} {units : List UInt16} :
    units? bytes = some units ↔ bytes = units.flatMap ofUnit := by
  constructor
  · exact flatMap_ofUnit_of_units?
  · rintro rfl
    induction units with
    | nil => rfl
    | cons unit others ih =>
      rw [List.flatMap_cons, units?_ofUnit, ih]
      rfl

/-- A text is read from its layout and from nothing else. -/
theorem decode?_eq_some {bytes : List UInt8} {text : String} :
    decode? bytes = some text ↔ bytes = encode text := by
  unfold decode? encode
  constructor
  · intro read
    obtain ⟨units, first, later⟩ := Option.bind_eq_some_iff.1 read
    obtain ⟨chars, second, rfl⟩ := Option.map_eq_some_iff.1 later
    rw [units?_eq_some.1 first, Utf16.decode?_eq_some.1 second, String.toList_ofList]
  · rintro rfl
    refine Option.bind_eq_some_iff.2 ⟨_, units?_eq_some.2 rfl, ?_⟩
    rw [Utf16.decode?_eq_some.2 rfl]
    show some (String.ofList text.toList) = some text
    rw [String.ofList_toList]

end ModifiedUtf8

end MiniJvm
