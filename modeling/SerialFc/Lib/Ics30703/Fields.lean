import SerialFc.Lib.Ics30703.Unpacking

/-! # The fields of the programming word

Five fields share the bytes of the word. What one table fills in no later table
reaches, so that the whole setting comes back out of the word, and the bits
between the fields stay as they were.
-/

namespace SerialFc.Ics30703

attribute [local instance] bytesNeZero

/-! ## Fields of a byte -/

section ByteFields

variable {w start len : Nat} {byte keep field : BitVec w}

theorem extractLsb'_filled (cleared : keep.extractLsb' start len = 0) :
    ((byte &&& keep) ||| field).extractLsb' start len =
      field.extractLsb' start len := by
  rw [BitVec.extractLsb'_or, BitVec.extractLsb'_and, cleared]
  simp

theorem and_keep_filled (inside : field &&& keep = 0) :
    ((byte &&& keep) ||| field) &&& keep = byte &&& keep := by
  rw [BitVec.and_or_distrib_right, inside, BitVec.and_assoc, BitVec.and_self]
  simp

theorem extractLsb'_eq_of_and_eq {left right : BitVec w}
    (inside : keep.extractLsb' start len = BitVec.allOnes len)
    (same : left &&& keep = right &&& keep) :
    left.extractLsb' start len = right.extractLsb' start len := by
  have fields := congrArg (fun word => word.extractLsb' start len) same
  simpa only [BitVec.extractLsb'_and, inside, BitVec.and_allOnes] using fields

theorem and_eq_zero_of_and_eq_zero {smaller : BitVec w}
    (within : keep &&& smaller = smaller) (zero : field &&& keep = 0) :
    field &&& smaller = 0 := by
  rw [← within, ← BitVec.and_assoc, zero]
  exact BitVec.zero_and

end ByteFields

/-! ## Loop filter -/

theorem loopFilterResistor_byte {rs : Nat} (isResistor : rs ∈ loopResistors)
    {before after : ProgData} (run : loopFilterResistor rs before = .ok after) :
    ∃ field : BitVec 8, after 11 = (before 11 &&& 0xf9#8) ||| field ∧
      field &&& 0xf9#8 = 0 ∧ resistorOf (field.extractLsb' 1 2) = rs := by
  have cleared : ∀ byte : BitVec 8, byte &&& 0xf9#8 ||| 0#8 = byte &&& 0xf9#8 :=
    fun byte => BitVec.or_zero
  have set : ∀ byte : BitVec 8, byte &&& 0xf9#8 ||| 0x06#8 = byte ||| 0x06#8 := by
    decide
  unfold loopResistors at isResistor
  simp only [List.mem_cons, List.not_mem_nil, or_false] at isResistor
  rcases isResistor with rfl | rfl | rfl | rfl
  · refine ⟨0x00, ?_, rfl, rfl⟩
    rw [← Except.ok.inj run]
    exact (cleared _).symm
  · refine ⟨0x04, ?_, rfl, rfl⟩
    rw [← Except.ok.inj run]
    rfl
  · refine ⟨0x02, ?_, rfl, rfl⟩
    rw [← Except.ok.inj run]
    rfl
  · refine ⟨0x06, ?_, rfl, rfl⟩
    rw [← Except.ok.inj run]
    exact (set _).symm

theorem setCurrent_bytes {before : ProgData} (free : before 11 &&& 0x38#8 = 0)
    {setMask keepMask : BitVec 8} (keeps : 0xc7#8 &&& keepMask = 0xc7#8)
    (low high : Bool) :
    let after := before.setCurrent setMask keepMask low high
    after 11 = (before 11 &&& 0xc7#8) ||| (setMask &&& keepMask) ∧
      after 15 = (before 15 &&& 0x7f#8) ||| (if low then 0x80 else 0) ∧
      after 16 = (before 16 &&& 0xfe#8) ||| (if high then 0x01 else 0) := by
  have unset : ∀ byte : BitVec 8, byte &&& 0x38#8 = 0 → byte &&& 0xc7#8 = byte := by
    decide
  have first : (before 11 ||| setMask) &&& keepMask =
      (before 11 &&& 0xc7#8) ||| (setMask &&& keepMask) := by
    rw [← unset _ free, BitVec.and_or_distrib_right, BitVec.and_assoc, keeps,
      BitVec.and_assoc, BitVec.and_self]
  have edge15 : ∀ byte : BitVec 8, byte ||| 0x80#8 = byte &&& 0x7f#8 ||| 0x80#8 := by
    decide
  have edge16 : ∀ byte : BitVec 8, byte ||| 0x01#8 = byte &&& 0xfe#8 ||| 0x01#8 := by
    decide
  refine ⟨?_, ?_, ?_⟩
  · rw [← first]
    cases low <;> cases high <;> rfl
  · cases low with
    | true => cases high <;> exact edge15 (before 15)
    | false => cases high <;> exact BitVec.or_zero.symm
  · cases high with
    | true => cases low <;> exact edge16 (before 16)
    | false => cases low <;> exact BitVec.or_zero.symm

structure FillsCurrent (icpnum : Nat) (before after : ProgData)
    (field : BitVec 8) (low high : Bool) : Prop where
  byte11 : after 11 = (before 11 &&& 0xc7#8) ||| field
  byte15 : after 15 = (before 15 &&& 0x7f#8) ||| (if low then 0x80 else 0)
  byte16 : after 16 = (before 16 &&& 0xfe#8) ||| (if high then 0x01 else 0)
  inside : field &&& 0xc7#8 = 0
  code : currentOf (field.extractLsb' 3 3) low high = icpnum

theorem fillsCurrent_of_row {icpnum : Nat} {before after : ProgData}
    (free : before 11 &&& 0x38#8 = 0)
    (run : chargePump icpnum before = .ok after) {setMask keepMask : BitVec 8}
    {low high : Bool}
    (row : chargePump icpnum before =
      .ok (before.setCurrent setMask keepMask low high))
    (keeps : 0xc7#8 &&& keepMask = 0xc7#8)
    (inside : (setMask &&& keepMask) &&& 0xc7#8 = 0)
    (code : currentOf ((setMask &&& keepMask).extractLsb' 3 3) low high =
      icpnum) :
    FillsCurrent icpnum before after (setMask &&& keepMask) low high := by
  rw [row] at run
  rcases setCurrent_bytes free keeps low high with ⟨byte11, byte15, byte16⟩
  rw [Except.ok.inj run] at byte11 byte15 byte16
  exact ⟨byte11, byte15, byte16, inside, code⟩

theorem chargePump_bytes {icpnum : Nat} (isCurrent : icpnum ∈ chargePumpCurrents)
    {before after : ProgData} (free : before 11 &&& 0x38#8 = 0)
    (run : chargePump icpnum before = .ok after) :
    ∃ field low high, FillsCurrent icpnum before after field low high := by
  unfold chargePumpCurrents at isCurrent
  simp only [List.mem_cons, List.not_mem_nil, or_false] at isCurrent
  rcases isCurrent with rfl | rfl | rfl | rfl | rfl | rfl | rfl | rfl | rfl |
      rfl | rfl | rfl | rfl | rfl | rfl | rfl | rfl | rfl | rfl | rfl <;>
    exact ⟨_, _, _, fillsCurrent_of_row free run rfl (by decide) (by decide)
      (by decide)⟩

/-! ## Output divider -/

section OutputDivider

variable (before : ProgData)

/-- What the output divider leaves of the bytes it shares. -/
def KeepsShared (after : ProgData) : Prop :=
  after 11 &&& 0x7f#8 = before 11 &&& 0x7f#8 ∧
    after 13 &&& 0xc0#8 = before 13 &&& 0xc0#8

theorem setTop_keeps (byte : BitVec 8) :
    (byte ||| 0x80#8) &&& 0x7f#8 = byte &&& 0x7f#8 := by
  revert byte
  decide

theorem clearTop_keeps (byte : BitVec 8) :
    (byte &&& 0x7f#8) &&& 0x7f#8 = byte &&& 0x7f#8 := by
  rw [BitVec.and_assoc, BitVec.and_self]

theorem clearLow_keeps (byte : BitVec 8) :
    (byte &&& 0xc0#8) &&& 0xc0#8 = byte &&& 0xc0#8 := by
  rw [BitVec.and_assoc, BitVec.and_self]

theorem setOutDivider_keeps (odd : Bool) (keepMask setMask : BitVec 8) :
    KeepsShared before (before.setOutDivider odd keepMask setMask) := by
  constructor
  · cases odd with
    | true => exact setTop_keeps (before 11)
    | false => exact clearTop_keeps (before 11)
  · cases odd <;> exact clearLow_keeps (before 13)

theorem setForm_keeps {i : Nat} (small : i < 512) (form : OutDividerForm) :
    KeepsShared before
      ((((before.setForm i form).or 11 0x80).and 12 0xfe).or 12 0x02) := by
  have high : ((BitVec.ofNat 64 i <<< 5) >>> 8).setWidth 8 &&& 0xc0#8 = 0 := by
    have bits : ∀ x < 64, BitVec.ofNat 8 x &&& 0xc0#8 = 0 := by decide
    have isHigh : ((BitVec.ofNat 64 i <<< 5) >>> 8).setWidth 8 =
        BitVec.ofNat 8 (i / 8) := by
      apply BitVec.eq_of_toNat_eq
      simp only [BitVec.toNat_setWidth, BitVec.toNat_ushiftRight,
        BitVec.toNat_shiftLeft, BitVec.toNat_ofNat, Nat.shiftLeft_eq,
        Nat.shiftRight_eq_div_pow]
      omega
    rw [isHigh]
    exact bits _ (by omega)
  constructor
  · exact setTop_keeps (before 11)
  · change (before 13 ||| ((BitVec.ofNat 64 i <<< 5) >>> 8).setWidth 8) &&&
      0xc0#8 = _
    rw [BitVec.and_or_distrib_right, high]
    exact BitVec.or_zero

theorem outputDivider_keeps {od : Nat} (isOd : od ∈ outDividers)
    {after : ProgData} (run : outputDivider od before = .ok after) :
    KeepsShared before after := by
  have range := mem_outDividers.mp isOd
  unfold outputDivider at run
  rw [if_pos ⟨range.1, range.2.1⟩] at run
  split at run
  case h_10 =>
    split at run
    case isTrue short =>
      rw [← Except.ok.inj run]
      exact ⟨clearTop_keeps (before 11), clearLow_keeps (before 13)⟩
    case isFalse long =>
      rcases matchOutDivider_of_mem isOd (by omega) with
        ⟨i, form, found, small, _⟩
      rw [found] at run
      rw [← Except.ok.inj run]
      exact setForm_keeps before small form
  all_goals
    rw [← Except.ok.inj run]
    exact setOutDivider_keeps before _ _ _

end OutputDivider

/-! ## The whole word -/

/-- The bits that the tables fill in: 0 to 23, 89 to 93, 95 to 109, 127 and
128. -/
def fieldBits (index : Fin 20) : BitVec 8 :=
  if index = 0 ∨ index = 1 ∨ index = 2 ∨ index = 12 then 0xff
  else if index = 11 then 0xbe
  else if index = 13 then 0x3f
  else if index = 15 then 0x80
  else if index = 16 then 0x01
  else 0x00

structure Encodes (word : ProgData) (theOne : ResultStruct)
    (theOther : IcpRsStruct) : Prop where
  refDiv : word.refDiv = theOne.refDiv
  vcoDiv : word.vcoDiv = theOne.vcoDiv
  loopResistor : word.loopResistor = theOther.rs
  current : word.current = theOther.icpnum
  outDiv : word.outDiv = theOne.outDiv

section Word

variable {theOne : ResultStruct} {theOther : IcpRsStruct}
  {afterInput afterVco afterResistor afterCurrent word : ProgData}
  (tables : Tables theOne theOther afterInput afterVco afterResistor
    afterCurrent word)
include tables

theorem Tables.before_loopFilter {index : Fin 20}
    (outside : index ∉ ([0, 1, 2] : List (Fin 20))) :
    afterVco index = ProgData.start index := by
  simp only [List.mem_cons, not_or] at outside
  rw [tables.vco.2 index (by simp [outside]),
    tables.input.2 index (by simp [outside])]

theorem Tables.untouched {index : Fin 20}
    (outside : index ∉ ([0, 1, 2, 11, 12, 13, 15, 16] : List (Fin 20))) :
    word index = ProgData.start index := by
  simp only [List.mem_cons, not_or] at outside
  rw [tables.output.2 index (by simp [outside]),
    tables.current.2 index (by simp [outside]),
    tables.resistor.2 index (by simp [outside]),
    tables.before_loopFilter (by simp [outside])]

/-- How bytes 11, 15 and 16 come about: two fields and two single bits, the
first below the output divider. -/
theorem Tables.loopFilter_bytes (od : theOne.outDiv ∈ outDividers)
    (rs : theOther.rs ∈ loopResistors)
    (icpnum : theOther.icpnum ∈ chargePumpCurrents) :
    ∃ (resistor current : BitVec 8) (low high : Bool),
      word 11 &&& 0x7f#8 = (resistor &&& 0xc7#8 ||| current) &&& 0x7f#8 ∧
      word 15 = 0x04#8 ||| (if low then 0x80 else 0) ∧
      word 16 = (if high then 0x01 else 0) ∧
      resistor &&& 0xf9#8 = 0 ∧ current &&& 0xc7#8 = 0 ∧
      resistorOf (resistor.extractLsb' 1 2) = theOther.rs ∧
      currentOf (current.extractLsb' 3 3) low high = theOther.icpnum := by
  rcases loopFilterResistor_byte rs tables.resistor.1 with
    ⟨resistor, byte11, insideResistor, codeResistor⟩
  have clear : afterVco 11 = 0 := tables.before_loopFilter (by decide)
  have isResistor : afterResistor 11 = resistor := by
    rw [byte11, clear]
    simp
  have free : afterResistor 11 &&& 0x38#8 = 0 := by
    rw [isResistor]
    exact and_eq_zero_of_and_eq_zero (by decide) insideResistor
  rcases chargePump_bytes icpnum free tables.current.1 with
    ⟨current, low, high, fills⟩
  have start15 : afterResistor 15 = 0x04 := by
    rw [tables.resistor.2 15 (by decide), tables.before_loopFilter (by decide)]
    rfl
  have start16 : afterResistor 16 = 0 := by
    rw [tables.resistor.2 16 (by decide), tables.before_loopFilter (by decide)]
    rfl
  refine ⟨resistor, current, low, high, ?_, ?_, ?_, insideResistor, fills.inside,
    codeResistor, fills.code⟩
  · rw [(outputDivider_keeps afterCurrent od tables.output.1).1, fills.byte11,
      isResistor]
  · rw [tables.output.2 15 (by decide), fills.byte15, start15]
    rfl
  · rw [tables.output.2 16 (by decide), fills.byte16, start16]
    simp

theorem Tables.loopFilter (od : theOne.outDiv ∈ outDividers)
    (rs : theOther.rs ∈ loopResistors)
    (icpnum : theOther.icpnum ∈ chargePumpCurrents) :
    word.loopResistor = theOther.rs ∧ word.current = theOther.icpnum := by
  rcases tables.loopFilter_bytes od rs icpnum with
    ⟨resistor, current, low, high, byte11, byte15, byte16, insideResistor,
      insideCurrent, codeResistor, codeCurrent⟩
  have resistorField : (word 11).extractLsb' 1 2 = resistor.extractLsb' 1 2 := by
    rw [extractLsb'_eq_of_and_eq (by decide) byte11]
    exact extractLsb'_eq_of_and_eq (by decide) (and_keep_filled insideCurrent)
  have currentField : (word 11).extractLsb' 3 3 = current.extractLsb' 3 3 := by
    rw [extractLsb'_eq_of_and_eq (by decide) byte11]
    exact extractLsb'_filled (by decide)
  have lowBit : (word 15).getLsbD 7 = low := by
    rw [byte15]
    cases low <;> rfl
  have highBit : (word 16).getLsbD 0 = high := by
    rw [byte16]
    cases high <;> rfl
  constructor
  · rw [ProgData.loopResistor, resistorField, codeResistor]
  · rw [ProgData.current, currentField, lowBit, highBit, codeCurrent]

theorem Tables.between (od : theOne.outDiv ∈ outDividers)
    (rs : theOther.rs ∈ loopResistors)
    (icpnum : theOther.icpnum ∈ chargePumpCurrents) (index : Fin 20) :
    word index &&& ~~~fieldBits index =
      ProgData.start index &&& ~~~fieldBits index := by
  rcases tables.loopFilter_bytes od rs icpnum with
    ⟨resistor, current, low, high, byte11, byte15, byte16, insideResistor,
      insideCurrent, _, _⟩
  by_cases whole : index = 0 ∨ index = 1 ∨ index = 2 ∨ index = 12
  · have all : ~~~fieldBits index = 0 := by
      rw [fieldBits, if_pos whole]
      rfl
    rw [all]
    exact BitVec.and_zero.trans BitVec.and_zero.symm
  · by_cases shared : index ∈ ([11, 13, 15, 16] : List (Fin 20))
    · simp only [List.mem_cons, List.not_mem_nil, or_false] at shared
      rcases shared with rfl | rfl | rfl | rfl
      · change word 11 &&& 0x41#8 = 0x00#8
        calc word 11 &&& 0x41#8 = (word 11 &&& 0x7f#8) &&& 0x41#8 := by
              rw [BitVec.and_assoc]
              rfl
          _ = ((resistor &&& 0xc7#8 ||| current) &&& 0x7f#8) &&& 0x41#8 := by
              rw [byte11]
          _ = (resistor &&& 0x41#8) ||| (current &&& 0x41#8) := by
              rw [BitVec.and_assoc, BitVec.and_or_distrib_right,
                BitVec.and_assoc]
              rfl
          _ = 0x00#8 := by
              rw [and_eq_zero_of_and_eq_zero (by decide) insideResistor,
                and_eq_zero_of_and_eq_zero (by decide) insideCurrent]
              rfl
      · change word 13 &&& 0xc0#8 = ProgData.start 13 &&& 0xc0#8
        rw [(outputDivider_keeps afterCurrent od tables.output.1).2,
          tables.current.2 13 (by decide), tables.resistor.2 13 (by decide),
          tables.before_loopFilter (by decide)]
      · rw [byte15]
        cases low <;> rfl
      · rw [byte16]
        cases high <;> rfl
    · simp only [List.mem_cons, List.not_mem_nil, or_false, not_or] at whole shared
      rw [tables.untouched (by simp [whole, shared])]

end Word

/-- Every setting that the search can hand to the tables is packed and comes
back out whole. No output divider goes unmatched, and nothing reaches the bits
between the fields, with the enable of CLK1 and the power-up bit among them. -/
theorem packDividers_encodes (theOne : ResultStruct) (theOther : IcpRsStruct)
    (r : 1 ≤ theOne.refDiv ∧ theOne.refDiv ≤ 1200)
    (v : 12 ≤ theOne.vcoDiv ∧ theOne.vcoDiv ≤ 2055)
    (od : theOne.outDiv ∈ outDividers) (rs : theOther.rs ∈ loopResistors)
    (icpnum : theOther.icpnum ∈ chargePumpCurrents) :
    (∃ word, packDividers theOne theOther = .ok word ∧
      Encodes word theOne theOther ∧
      (∀ index, word index &&& ~~~fieldBits index =
        ProgData.start index &&& ~~~fieldBits index) ∧
      (word 13).getLsbD 6 = true ∧ (word 14).getLsbD 0 = true) ∧
    (38 ≤ theOne.outDiv → (matchOutDivider theOne.outDiv).isSome) := by
  constructor
  · rcases exists_tables r v od rs icpnum with
      ⟨_, _, _, _, word, tables, refDiv, vcoDiv, outDiv⟩
    rcases tables.loopFilter od rs icpnum with ⟨loopResistor, current⟩
    have between := tables.between od rs icpnum
    have clk1 : (word 13 &&& 0xc0#8).getLsbD 6 = true := by
      have same : word 13 &&& 0xc0#8 = ProgData.start 13 &&& 0xc0#8 := between 13
      rw [same]
      rfl
    have powerUp : word 14 = ProgData.start 14 := tables.untouched (by decide)
    refine ⟨word, tables.packs, ⟨refDiv, vcoDiv, loopResistor, current, outDiv⟩,
      between, ?_, ?_⟩
    · rw [BitVec.getLsbD_and] at clk1
      exact (Bool.and_eq_true _ _ ▸ clk1).1
    · rw [powerUp]
      rfl
  · intro large
    rcases matchOutDivider_of_mem od large with ⟨i, form, found, _⟩
    exact Option.isSome_of_eq_some found

/-- The setting for 18432000 Hz with one of its loop filters. -/
theorem packDividers_encodes_18MHz :
    ∃ word,
      packDividers (.of 18432000 25 5 96) (.of 25 96 52000 2250) = .ok word ∧
        Encodes word (.of 18432000 25 5 96) (.of 25 96 52000 2250) := by
  have isOd : 5 ∈ outDividers :=
    mem_outDividers.mpr ⟨by decide, by decide, by decide⟩
  rcases (packDividers_encodes (.of 18432000 25 5 96) (.of 25 96 52000 2250)
    ⟨by decide, by decide⟩ ⟨by decide, by decide⟩ isOd
    (show 52000 ∈ loopResistors by decide)
    (show 2250 ∈ chargePumpCurrents by decide)).1 with ⟨word, packs, encodes, _⟩
  exact ⟨word, packs, encodes⟩

end SerialFc.Ics30703
