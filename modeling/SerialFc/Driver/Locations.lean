import SerialFc.Driver.Registers
import SerialFc.Foundation.Interleaving

/-! # Where accesses meet

The registers and shadow fields that an access can depend on or change, as
coarse as the decoding of LCR makes it. Accesses of different locations
commute, and so do those that only read.
-/

namespace SerialFc

/-- What one access touches. A 16C950 is one location, because LCR and SPR
decide what its other offsets mean. On an Exar UART `line` is LCR with the
offsets below it, which it banks. -/
inductive Location
  | uart (channel : Nat)
  | line (channel : Nat)
  | plain (channel offset : Nat)
  | config (offset : Nat)
  | fcr
  | bar0 (offset : Nat)
  | field (channel : Nat) (field : PortField)
  | acr (channel : Nat)
  deriving DecidableEq

def byteLocation (type : CardType) (channel offset : Nat) : Location :=
  match type with
  | .fscc => .uart channel
  | _ =>
      if configBase ≤ offset then .config offset
      else if offset ≤ lcrOffset then .line channel
      else .plain channel offset

def Access.location (type : CardType) : Access → Location
  | .ioread8 channel offset | .iowrite8 channel offset _ =>
      byteLocation type channel offset
  | .ioread32 .bar0 offset | .iowrite32 .bar0 offset _ => .bar0 offset
  | .ioread32 .bar2 _ | .iowrite32 .bar2 _ _ => .fcr
  | .load channel field | .store channel field _ => .field channel field
  | .loadAcr channel | .storeAcr channel _ => .acr channel

/-! ## Writes to different registers -/

namespace Uart

variable {uart : Uart} {offset other : Nat} {value otherValue : BitVec 8}

theorem writeExar_above (above : lcrOffset < offset) :
    uart.writeExar offset value =
      { uart with plain := Function.update uart.plain offset value } := by
  have notLcr : offset ≠ lcrOffset := by omega
  have notBanked : ¬offset ≤ dldOffset := by
    unfold lcrOffset at above
    unfold dldOffset
    omega
  simp [writeExar, notLcr, notBanked]

theorem readExar_above (above : lcrOffset < offset) :
    uart.readExar offset =
      if offset = uartExarTxtrg ∨ offset = uartExarRxtrg then
        uart.status offset
      else uart.plain offset := by
  have notLcr : offset ≠ lcrOffset := by omega
  have notBanked : ¬offset ≤ dldOffset := by
    unfold lcrOffset at above
    unfold dldOffset
    omega
  simp [readExar, notLcr, notBanked]

theorem readExar_writeExar_of_line (line : other ≤ lcrOffset)
    (above : lcrOffset < offset) :
    (uart.writeExar other value).readExar offset = uart.readExar offset := by
  have apart : offset ≠ other := by omega
  rw [readExar_above above, readExar_above above]
  unfold writeExar
  split_ifs <;> simp [Function.update_of_ne apart]

theorem readExar_writeExar_of_above (apart : offset ≠ other)
    (above : lcrOffset < other) :
    (uart.writeExar other value).readExar offset = uart.readExar offset := by
  rw [writeExar_above above]
  simp [readExar, Function.update_of_ne apart]

theorem writeExar_comm_of_above (apart : offset ≠ other)
    (above : lcrOffset < other) :
    (uart.writeExar offset value).writeExar other otherValue =
      (uart.writeExar other otherValue).writeExar offset value := by
  rw [writeExar_above above, writeExar_above above]
  unfold writeExar
  split_ifs with isLcr isBanked
  · rfl
  · rfl
  · simp [Function.update_comm apart]

end Uart

theorem PortFields.get_set_of_ne {fields : PortFields} {field other : PortField}
    (apart : field ≠ other) (value : BitVec 32) :
    (fields.set value other).get field = fields.get field := by
  cases field <;> cases other <;> first | rfl | exact absurd rfl apart

theorem PortFields.set_comm {fields : PortFields} {field other : PortField}
    (apart : field ≠ other) (value otherValue : BitVec 32) :
    (fields.set value field).set otherValue other =
      (fields.set otherValue other).set value field := by
  cases field <;> cases other <;> first | rfl | exact absurd rfl apart

section Bytes

variable {type : CardType} {channel offset other otherOffset : Nat}
  (state : CardState) (value otherValue : BitVec 8)

theorem read8_exar (exar : type ≠ .fscc) :
    state.read8 type channel offset =
      if configBase ≤ offset then state.config offset
      else (state.uart channel).readExar offset := by
  cases type with
  | fscc => exact absurd rfl exar
  | pci | pcie | unknown => rfl

theorem write8_exar (exar : type ≠ .fscc) :
    state.write8 type channel offset value =
      if configBase ≤ offset then
        { state with config := Function.update state.config offset value }
      else
        { state with
          uart := Function.update state.uart channel
            ((state.uart channel).writeExar offset value) } := by
  cases type with
  | fscc => exact absurd rfl exar
  | pci | pcie | unknown => rfl

theorem byteLocation_exar (exar : type ≠ .fscc) :
    byteLocation type channel offset =
      if configBase ≤ offset then .config offset
      else if offset ≤ lcrOffset then .line channel
      else .plain channel offset := by
  cases type with
  | fscc => exact absurd rfl exar
  | pci | pcie | unknown => rfl

theorem byteLocation_line (exar : type ≠ .fscc) (line : offset ≤ lcrOffset) :
    byteLocation type channel offset = .line channel := by
  have low : ¬configBase ≤ offset := by
    unfold configBase
    unfold lcrOffset at line
    omega
  rw [byteLocation_exar exar, if_neg low, if_pos line]

/-- Registers of one Exar UART in different locations differ, and LCR is below
one of them. -/
theorem above_of_byteLocation_ne (exar : type ≠ .fscc)
    (low : ¬configBase ≤ offset) (otherLow : ¬configBase ≤ otherOffset)
    (apart : byteLocation type channel offset ≠
      byteLocation type channel otherOffset) :
    offset ≠ otherOffset ∧ (lcrOffset < offset ∨ lcrOffset < otherOffset) := by
  refine ⟨fun equal => apart (by rw [equal]), ?_⟩
  by_contra both
  have lines : offset ≤ lcrOffset ∧ otherOffset ≤ lcrOffset := by omega
  rw [byteLocation_exar exar, byteLocation_exar exar, if_neg low, if_neg otherLow,
    if_pos lines.1, if_pos lines.2] at apart
  exact apart rfl

theorem read8_write8
    (apart : byteLocation type channel offset ≠
      byteLocation type other otherOffset) :
    (state.write8 type other otherOffset value).read8 type channel offset =
      state.read8 type channel offset := by
  by_cases fscc : type = .fscc
  · subst fscc
    have different : channel ≠ other := fun equal => apart (congrArg _ equal)
    simp [CardState.read8, CardState.write8, Function.update_of_ne different]
  · rw [read8_exar _ fscc, read8_exar _ fscc, write8_exar _ _ fscc]
    by_cases high : configBase ≤ offset
    · by_cases otherHigh : configBase ≤ otherOffset
      · rw [byteLocation_exar fscc, byteLocation_exar fscc, if_pos high,
          if_pos otherHigh] at apart
        have different : offset ≠ otherOffset :=
          fun equal => apart (congrArg _ equal)
        simp [high, otherHigh, Function.update_of_ne different]
      · simp [high, otherHigh]
    · by_cases otherHigh : configBase ≤ otherOffset
      · simp [high, otherHigh]
      · by_cases same : channel = other
        · subst same
          rcases above_of_byteLocation_ne fscc high otherHigh apart with
            ⟨different, above | above⟩
          · by_cases otherLine : otherOffset ≤ lcrOffset
            · simp [high, otherHigh,
                Uart.readExar_writeExar_of_line otherLine above]
            · simp [high, otherHigh, Uart.readExar_writeExar_of_above different
                (Nat.lt_of_not_le otherLine)]
          · simp [high, otherHigh,
              Uart.readExar_writeExar_of_above different above]
        · simp [high, otherHigh, Function.update_of_ne same]

theorem write8_comm
    (apart : byteLocation type channel offset ≠
      byteLocation type other otherOffset) :
    (state.write8 type channel offset value).write8 type other otherOffset
        otherValue =
      (state.write8 type other otherOffset otherValue).write8 type channel offset
        value := by
  by_cases fscc : type = .fscc
  · subst fscc
    have different : channel ≠ other := fun equal => apart (congrArg _ equal)
    simp [CardState.write8, Function.update_of_ne different,
      Function.update_of_ne different.symm, Function.update_comm different]
  · simp only [write8_exar _ _ fscc]
    by_cases high : configBase ≤ offset
    · by_cases otherHigh : configBase ≤ otherOffset
      · rw [byteLocation_exar fscc, byteLocation_exar fscc, if_pos high,
          if_pos otherHigh] at apart
        have different : offset ≠ otherOffset :=
          fun equal => apart (congrArg _ equal)
        simp [high, otherHigh, Function.update_comm different]
      · simp [high, otherHigh]
    · by_cases otherHigh : configBase ≤ otherOffset
      · simp [high, otherHigh]
      · by_cases same : channel = other
        · subst same
          rcases above_of_byteLocation_ne fscc high otherHigh apart with
            ⟨different, above | above⟩
          · simp [high, otherHigh,
              Uart.writeExar_comm_of_above different.symm above]
          · simp [high, otherHigh,
              Uart.writeExar_comm_of_above different above]
        · simp [high, otherHigh, Function.update_of_ne same,
            Function.update_of_ne (Ne.symm same), Function.update_comm same]

end Bytes

section Others

variable {type : CardType} (state : CardState) (channel offset : Nat)
  (value : BitVec 8)

theorem write8_fields :
    (state.write8 type channel offset value).fields = state.fields := by
  unfold CardState.write8
  split
  · rfl
  · split <;> rfl

theorem read32_write8 (bar : Bar) (barOffset : Nat) :
    (state.write8 type channel offset value).read32 bar barOffset =
      state.read32 bar barOffset := by
  unfold CardState.write8
  split
  · cases bar <;> rfl
  · split <;> cases bar <;> rfl

theorem write8_write32 (bar : Bar) (barOffset : Nat) (word : BitVec 32) :
    (state.write8 type channel offset value).write32 bar barOffset word =
      (state.write32 bar barOffset word).write8 type channel offset value := by
  unfold CardState.write8
  cases bar with
  | bar0 | bar2 =>
      split
      · rfl
      · split <;> rfl

theorem write8_setField (other : Nat) (field : PortField) (word : BitVec 32) :
    (state.write8 type channel offset value).setField other field word =
      (state.setField other field word).write8 type channel offset value := by
  unfold CardState.write8
  split
  · rfl
  · split <;> rfl

theorem write8_setAcr (other : Nat) (acr : BitVec 8) :
    (state.write8 type channel offset value).setAcr other acr =
      (state.setAcr other acr).write8 type channel offset value := by
  unfold CardState.write8
  split
  · rfl
  · split <;> rfl

theorem write32_setField (bar : Bar) (word fieldValue : BitVec 32)
    (field : PortField) :
    (state.write32 bar offset word).setField channel field fieldValue =
      (state.setField channel field fieldValue).write32 bar offset word := by
  cases bar <;> rfl

theorem write32_setAcr (bar : Bar) (word : BitVec 32) (acr : BitVec 8) :
    (state.write32 bar offset word).setAcr channel acr =
      (state.setAcr channel acr).write32 bar offset word := by
  cases bar <;> rfl

variable {channel} {other : Nat} {field otherField : PortField}

theorem setField_comm
    (apart : Location.field channel field ≠ .field other otherField)
    (first second : BitVec 32) :
    (state.setField channel field first).setField other otherField second =
      (state.setField other otherField second).setField channel field first := by
  by_cases same : channel = other
  · subst same
    have different : field ≠ otherField := fun equal => apart (by rw [equal])
    simp [CardState.setField, PortFields.set_comm different]
  · simp [CardState.setField, Function.update_of_ne same,
      Function.update_of_ne (Ne.symm same), Function.update_comm same]

theorem get_setField
    (apart : Location.field channel field ≠ .field other otherField)
    (word : BitVec 32) :
    ((state.setField other otherField word).fields channel).get field =
      (state.fields channel).get field := by
  by_cases same : channel = other
  · subst same
    have different : field ≠ otherField := fun equal => apart (by rw [equal])
    simp [CardState.setField, PortFields.get_set_of_ne different]
  · simp [CardState.setField, Function.update_of_ne same]

theorem get_setAcr (acr : BitVec 8) :
    ((state.setAcr other acr).fields channel).get field =
      (state.fields channel).get field := by
  by_cases same : channel = other
  · subst same
    cases field <;> simp [CardState.setAcr, PortFields.get]
  · simp [CardState.setAcr, Function.update_of_ne same]

theorem acr_setField (word : BitVec 32) :
    ((state.setField other field word).fields channel).acr =
      (state.fields channel).acr := by
  by_cases same : channel = other
  · subst same
    cases field <;> simp [CardState.setField, PortFields.set]
  · simp [CardState.setField, Function.update_of_ne same]

theorem setField_setAcr (word : BitVec 32) (acr : BitVec 8) :
    (state.setField channel field word).setAcr other acr =
      (state.setAcr other acr).setField channel field word := by
  by_cases same : channel = other
  · subst same
    cases field <;> simp [CardState.setField, CardState.setAcr, PortFields.set]
  · simp [CardState.setField, CardState.setAcr, Function.update_of_ne same,
      Function.update_of_ne (Ne.symm same), Function.update_comm same]

theorem setAcr_comm (apart : channel ≠ other) (first second : BitVec 8) :
    (state.setAcr channel first).setAcr other second =
      (state.setAcr other second).setAcr channel first := by
  simp [CardState.setAcr, Function.update_of_ne apart,
    Function.update_of_ne apart.symm, Function.update_comm apart]

end Others

/-! ## Accesses commute -/

section Commute

variable {type : CardType} {first second : Access}

theorem keeps_of_not_mutates {access : Access} (reads : access.mutates = false)
    (state : CardState) : ((cardMachine type).execute state access).2 = state := by
  cases access with
  | ioread8 | ioread32 | load | loadAcr => rfl
  | iowrite8 | iowrite32 | store | storeAcr => cases reads

theorem response_of_location_ne
    (apart : first.location type ≠ second.location type) (state : CardState) :
    ((cardMachine type).execute ((cardMachine type).execute state second).2
        first).1 =
      ((cardMachine type).execute state first).1 := by
  cases second with
  | ioread8 | ioread32 | load | loadAcr => rfl
  | iowrite8 channel offset value =>
      cases first with
      | ioread8 => exact read8_write8 _ _ apart
      | ioread32 => exact read32_write8 _ _ _ _ _ _
      | load => simp only [cardMachine, write8_fields]
      | loadAcr => simp only [cardMachine, write8_fields]
      | iowrite8 | iowrite32 | store | storeAcr => rfl
  | iowrite32 bar offset value =>
      cases first with
      | ioread32 firstBar firstOffset =>
          cases bar with
          | bar2 =>
              cases firstBar with
              | bar0 => rfl
              | bar2 => exact absurd rfl apart
          | bar0 =>
              cases firstBar with
              | bar0 =>
                  have different : firstOffset ≠ offset :=
                    fun equal => apart (congrArg Location.bar0 equal)
                  exact Function.update_of_ne different _ _
              | bar2 => rfl
      | ioread8 | load | loadAcr => cases bar <;> rfl
      | iowrite8 | iowrite32 | store | storeAcr => rfl
  | store channel field value =>
      cases first with
      | load => exact get_setField _ apart _
      | loadAcr => exact acr_setField _ _
      | ioread8 | ioread32 => rfl
      | iowrite8 | iowrite32 | store | storeAcr => rfl
  | storeAcr channel value =>
      cases first with
      | load => exact get_setAcr _ _
      | loadAcr firstChannel =>
          have different : firstChannel ≠ channel :=
            fun equal => apart (congrArg Location.acr equal)
          simp [cardMachine, CardState.setAcr, Function.update_of_ne different]
      | ioread8 | ioread32 => rfl
      | iowrite8 | iowrite32 | store | storeAcr => rfl

theorem state_of_location_ne
    (apart : first.location type ≠ second.location type) (state : CardState) :
    ((cardMachine type).execute ((cardMachine type).execute state first).2
        second).2 =
      ((cardMachine type).execute ((cardMachine type).execute state second).2
        first).2 := by
  cases first with
  | ioread8 | ioread32 | load | loadAcr => cases second <;> rfl
  | iowrite8 channel offset value =>
      cases second with
      | ioread8 | ioread32 | load | loadAcr => rfl
      | iowrite8 => exact write8_comm _ _ _ apart
      | iowrite32 => exact write8_write32 _ _ _ _ _ _ _
      | store => exact write8_setField _ _ _ _ _ _ _
      | storeAcr => exact write8_setAcr _ _ _ _ _ _
  | iowrite32 bar offset value =>
      cases second with
      | ioread8 | ioread32 | load | loadAcr => rfl
      | iowrite8 => exact (write8_write32 _ _ _ _ _ _ _).symm
      | iowrite32 secondBar secondOffset =>
          cases bar with
          | bar2 =>
              cases secondBar with
              | bar0 => rfl
              | bar2 => exact absurd rfl apart
          | bar0 =>
              cases secondBar with
              | bar0 =>
                  have different : offset ≠ secondOffset :=
                    fun equal => apart (congrArg Location.bar0 equal)
                  simp [cardMachine, CardState.write32,
                    Function.update_comm different]
              | bar2 => rfl
      | store => exact write32_setField _ _ _ _ _ _ _
      | storeAcr => exact write32_setAcr _ _ _ _ _ _
  | store channel field value =>
      cases second with
      | ioread8 | ioread32 | load | loadAcr => rfl
      | iowrite8 => exact (write8_setField _ _ _ _ _ _ _).symm
      | iowrite32 => exact (write32_setField _ _ _ _ _ _ _).symm
      | store => exact setField_comm _ apart _ _
      | storeAcr => exact setField_setAcr _ _ _
  | storeAcr channel value =>
      cases second with
      | ioread8 | ioread32 | load | loadAcr => rfl
      | iowrite8 => exact (write8_setAcr _ _ _ _ _ _).symm
      | iowrite32 => exact (write32_setAcr _ _ _ _ _ _).symm
      | store => exact (setField_setAcr _ _ _).symm
      | storeAcr secondChannel =>
          have different : channel ≠ secondChannel :=
            fun equal => apart (congrArg Location.acr equal)
          exact setAcr_comm _ different _ _

theorem commutes_of_location_ne
    (apart : first.location type ≠ second.location type) :
    (cardMachine type).Commutes first second where
  state := state_of_location_ne apart
  firstResponse := response_of_location_ne apart
  secondResponse := response_of_location_ne (Ne.symm apart)

/-- Two accesses are in each other's way only if they touch one location and
one of them changes it. -/
theorem commutes_of_apart
    (apart : first.location type = second.location type →
      first.mutates = false ∧ second.mutates = false) :
    (cardMachine type).Commutes first second := by
  by_cases same : first.location type = second.location type
  · rcases apart same with ⟨firstReads, secondReads⟩
    exact Machine.commutes_of_keeps _ (keeps_of_not_mutates firstReads)
      (keeps_of_not_mutates secondReads)
  · exact commutes_of_location_ne same

end Commute

end SerialFc
