import SerialFc.Exar.ClockRuns
import SerialFc.Fscc.ClockRuns
import SerialFc.Interface.Ioctl
import SerialFc.Lib.DividerRounding
import SerialFc.Lib.Ics30703.Fields
import SerialFc.Lib.Ics30703.FirstDividers
import SerialFc.Lib.Ics30703.OperatingRange

/-! # From a frequency to the clock generator

A program calculates a clock word with the functions of `calculate-clock-bits.c`
and passes it to the driver, which shifts it out pin by pin. The dividers that
the clock generator then works with are those that the calculation chose.
-/

namespace SerialFc

/-! ## ICS307-03 -/

namespace Ics30703

attribute [local instance] bytesNeZero

/-- The XTAL bit is outside all fields. -/
theorem encodes_forceXtal {word : ProgData} {theOne : ResultStruct}
    {theOther : IcpRsStruct} (encodes : Encodes word theOne theOther)
    (disabled : Bool) : Encodes (forceXtal disabled word) theOne theOther := by
  have others : ∀ index : Fin 20, index ≠ 15 →
      forceXtal disabled word index = word index :=
    fun index different => Function.update_of_ne different _ _
  have low : ProgData.low (forceXtal disabled word) = word.low := by
    simp only [ProgData.low, others 0 (by decide), others 1 (by decide),
      others 2 (by decide)]
  have high : ProgData.high (forceXtal disabled word) = word.high := by
    simp only [ProgData.high, others 12 (by decide), others 13 (by decide)]
  have edge : (forceXtal disabled word 15).getLsbD 7 =
      (word 15).getLsbD 7 := by
    rw [forceXtal, Function.update_self]
    cases disabled with
    | true =>
        rw [if_pos rfl, BitVec.getLsbD_and]
        exact Bool.and_true _
    | false =>
        rw [if_neg Bool.false_ne_true, BitVec.getLsbD_or]
        exact Bool.or_false _
  constructor
  · rw [← encodes.refDiv, ProgData.refDiv, low, ProgData.refDiv]
  · rw [← encodes.vcoDiv, ProgData.vcoDiv, low, ProgData.vcoDiv]
  · rw [← encodes.loopResistor, ProgData.loopResistor, others 11 (by decide),
      ProgData.loopResistor]
  · rw [← encodes.current, ProgData.current, others 11 (by decide), edge,
      others 16 (by decide), ProgData.current]
  · rw [← encodes.outDiv, ProgData.outDiv, others 11 (by decide), high,
      ProgData.outDiv]

theorem encodes_of_packs {theOne : ResultStruct} {theOther : IcpRsStruct}
    (r : 1 ≤ theOne.refDiv ∧ theOne.refDiv ≤ 1200)
    (v : 12 ≤ theOne.vcoDiv ∧ theOne.vcoDiv ≤ 2055)
    (od : theOne.outDiv ∈ outDividers) (rs : theOther.rs ∈ loopResistors)
    (icpnum : theOther.icpnum ∈ chargePumpCurrents) {word : ProgData}
    (packs : packDividers theOne theOther = .ok word) :
    Encodes word theOne theOther := by
  rcases exists_tables r v od rs icpnum with
    ⟨_, _, _, _, found, tables, refDiv, vcoDiv, outDiv⟩
  rcases tables.loopFilter od rs icpnum with ⟨loopResistor, current⟩
  obtain rfl : word = found := Except.ok.inj (packs.symm.trans tables.packs)
  exact ⟨refDiv, vcoDiv, loopResistor, current, outDiv⟩

theorem encodes_of_calculated {freq ppm : Nat} (millionth : ppm ≤ 1000000)
    {progbytes word : ProgData}
    (calculated : calculateClockBits freq ppm progbytes = (0, word)) :
    ∃ first, IsFirst Before (Accepts freq ppm) first ∧
      Encodes word (results freq first).1 (results freq first).2 := by
  rcases getIcs30703Data_outcome freq millionth with
    ⟨failed, _⟩ | ⟨first, found, succeeded, packed, isFirst⟩
  · rw [calculateClockBits, failed] at calculated
    have status : (1 : Int) = 0 := (Prod.mk.inj calculated).1
    exact absurd status (by decide)
  · rw [calculateClockBits, succeeded] at calculated
    obtain rfl : found = word := (Prod.mk.inj calculated).2
    refine ⟨first, isFirst, ?_⟩
    rcases first with ⟨within, r, od, v, rs, icpnum⟩
    rcases isFirst.1 with ⟨_, admissible, _, isResistor, isCurrent, _⟩
    exact encodes_of_packs admissible.r admissible.v admissible.od isResistor
      isCurrent packed

theorem Encodes.near {freq ppm : Nat} {first : Candidate} {word : ProgData}
    (isFirst : IsFirst Before (Accepts freq ppm) first)
    (encodes : Encodes word (results freq first).1 (results freq first).2) :
    |word.outputFrequency - freq| ≤ tolerance freq ppm := by
  rcases first with ⟨within, r, od, v, rs, icpnum⟩
  rw [@outputFrequency_of_unpacked word ⟨r, od, v⟩ encodes.refDiv encodes.vcoDiv
    encodes.outDiv]
  exact (found_of_isFirst isFirst).near

end Ics30703

/-! ## FSCC cards -/

theorem forceXtal_bit (disabled : Bool) (clockData : Fin 20 → BitVec 8) :
    (forceXtal disabled clockData 15).getLsbD 2 = !disabled := by
  rw [forceXtal, Function.update_self]
  cases disabled with
  | true =>
      rw [if_pos rfl, BitVec.getLsbD_and]
      exact Bool.and_false _
  | false =>
      rw [if_neg Bool.false_ne_true, BitVec.getLsbD_or]
      exact Bool.or_true _

/-- A word that `calculate_clock_bits` found, passed whole to an FSCC port: the
port's clock generator latches one word, with the XTAL bit as the card needs it.
All fields of that word are those of the first setting within the tolerance, so
that the clock put out is as close to the frequency as was asked for. -/
theorem serialfcIoctl_setClockBits_fscc {freq ppm : Nat}
    (millionth : ppm ≤ 1000000) {progbytes word : Fin 20 → BitVec 8}
    (calculated : Ics30703.calculateClockBits freq ppm progbytes = (0, word))
    {port : Port} (fscc : fastcomGetCardType port = .fscc)
    (small : port.channel < 2) (arg : BitVec 64) {user : UserSpace}
    (passed : ∀ index : Fin 20, user.memory index = word index)
    (copied : 20 ≤ user.copied) (state : CardState) :
    let call := serialfcIoctl port arg user true .setClockBits
    let writes := fcrWrites (port.card.machine.trace call state)
    let received := (Receiver.starting (fcrLines port.channel state.fcr)).receive
      (writes.map (fcrLines port.channel))
    port.card.machine.run call state = (some (0, user.memory), state) ∧
      ∃ programmed, received.latches.map programmedWord = [programmed] ∧
        (programmed 15).getLsbD 2 = (!state.xtalDisabled port.channel) ∧
        (∃ first, IsFirst Ics30703.Before (Ics30703.Accepts freq ppm) first ∧
          Ics30703.Encodes programmed (Ics30703.results freq first).1
            (Ics30703.results freq first).2) ∧
        |Ics30703.ProgData.outputFrequency programmed - freq| ≤
          Ics30703.tolerance freq ppm := by
  intro call writes received
  have machine := machine_of_cardType fscc
  have copy : user.copyFromUser.2 = word := by
    funext index
    simp only [UserSpace.copyFromUser, passed index]
    rw [if_pos (by omega)]
  have program : call = (fun status => (status, user.memory)) <$>
      fastcomSetClockBitsFscc port word true := by
    simp [call, serialfcIoctl, copy, fastcomSetClockBits, fscc]
  have sends := (sends_setClockBits_own small word state).map
    (fun status => (status, user.memory))
  have latched := sends (Receiver.starting (clockLines port.channel state)) rfl
  rw [← program, receive_fcrWrites _ _ rfl] at latched
  rcases Ics30703.encodes_of_calculated millionth calculated with
    ⟨first, isFirst, encodes⟩
  have encodesXtal := Ics30703.encodes_forceXtal encodes
    (state.xtalDisabled port.channel)
  refine ⟨?_, forceXtal (state.xtalDisabled port.channel) word, ?_,
    forceXtal_bit _ _, ⟨first, isFirst, encodesXtal⟩,
    Ics30703.Encodes.near isFirst encodesXtal⟩
  · rw [machine, program, Machine.run_map, run_setClockBitsFscc]
    rfl
  · simp only [received, writes, machine]
    exact latched

/-- The clock of the example program, on port 1 of a card. -/
theorem serialfcIoctl_setClockBits_fscc_18MHz :
    ∃ (word : Fin 20 → BitVec 8) (user : UserSpace), user.copied = 20 ∧
      (∀ index : Fin 20, user.memory index = word index) ∧
      ∃ programmed,
        ((Receiver.starting (fcrLines 1 0)).receive
          ((fcrWrites ((Card.ofDevice fsccId 2).machine.trace
            (serialfcIoctl ⟨Card.ofDevice fsccId 2, 1⟩ 0 user true .setClockBits)
            .blank)).map (fcrLines 1))).latches.map programmedWord = [programmed] ∧
          |Ics30703.ProgData.outputFrequency programmed - 18432000| ≤
            Ics30703.tolerance 18432000 10 := by
  have reachable : Ics30703.Reachable 18432000 10 := by
    refine ⟨⟨25, 5, 96⟩, ⟨by decide, ?_, by decide, ?_⟩, ?_⟩
    · exact Ics30703.mem_outDividers.mpr ⟨by decide, by decide, by decide⟩
    · norm_num [Ics30703.Dividers.vco, Ics30703.inputFreq, Ics30703.vcoMax]
    · norm_num [Ics30703.Dividers.error, Ics30703.Dividers.outputFrequency,
        Ics30703.tolerance, Ics30703.inputFreq]
  rcases Ics30703.meetsRequest_of_reachable (by decide) reachable .start with
    ⟨word, calculated, _⟩
  let user : UserSpace := ⟨fun index => word (Fin.ofNat 20 index), 20⟩
  have passed : ∀ index : Fin 20, user.memory index = word index :=
    fun index => congrArg word (Fin.ofNat_val_eq_self index)
  have sent := @serialfcIoctl_setClockBits_fscc 18432000 10 (by decide)
    Ics30703.ProgData.start word calculated ⟨Card.ofDevice fsccId 2, 1⟩ rfl (by decide)
    0 user passed (Nat.le_refl 20) .blank
  rcases sent.2 with ⟨programmed, latched, _, _, near⟩
  exact ⟨word, user, rfl, passed, programmed, latched, by simpa using near⟩

/-! ## PCI cards -/

theorem unpackDivider_lowBytes (word : BitVec 32) :
    unpackDivider ((word.setWidth 24).setWidth 32) = unpackDivider word := by
  have field : ∀ {start len : Nat}, start + len ≤ 24 →
      ((word.setWidth 24).setWidth 32).extractLsb' start len =
        word.extractLsb' start len := by
    intro start len inside
    apply BitVec.eq_of_getLsbD_eq
    intro bit small
    have below : start + bit < 24 := by
      omega
    simp only [BitVec.getLsbD_extractLsb', BitVec.getLsbD_setWidth, small, below,
      decide_true, Bool.true_and, show start + bit < 32 by omega]
  rw [unpackDivider, field (by decide), field (by decide), field (by decide),
    unpackDivider]

/-- The driver reads no further than the low three bytes. -/
theorem clockWordPci_lowBytes {clockData : Fin 20 → BitVec 8} {word : BitVec 32}
    (first : clockData 0 = objectByte word.toNat 0)
    (second : clockData 1 = objectByte word.toNat 1)
    (third : clockData 2 = objectByte word.toNat 2) :
    (clockWordPci clockData).setWidth 24 = word.setWidth 24 := by
  have byte : ∀ {index bit : Nat}, bit < 8 →
      (objectByte word.toNat index).getLsbD bit = word.getLsbD (8 * index + bit) := by
    intro index bit small
    rw [objectByte, BitVec.getLsbD_ofNat, decide_eq_true small, Bool.true_and,
      Nat.testBit_shiftRight, BitVec.testBit_toNat]
  rw [clockWordPci, first, second, third]
  apply BitVec.eq_of_getLsbD_eq
  intro bit small
  simp only [BitVec.getLsbD_setWidth, small, decide_true, Bool.true_and,
    BitVec.getLsbD_append]
  by_cases isFirst : bit < 8
  · rw [if_pos isFirst, byte isFirst]
    congr 1
    omega
  · by_cases isSecond : bit - 8 < 8
    · rw [if_neg isFirst, if_pos isSecond, byte isSecond]
      congr 1
      omega
    · rw [if_neg isFirst, if_neg isSecond, if_pos (by omega), byte (by omega)]
      congr 1
      omega

/-- A word that `calculate_clock_bits_335` found, passed to a port of a PCI card
with at least its low three bytes: the clock generator latches one word. Its
dividers are the best for the frequency, and the clock put out is off by what
the search allows and the divisions lose. -/
theorem serialfcIoctl_setClockBits_pci {freq : BitVec 64}
    (fits : freq.toNat < 2 ^ 32) {progbytes word : BitVec 32}
    (calculated : calculateClockBits335 freq progbytes = (0, word))
    {port : Port} (pci : fastcomGetCardType port = .pci) (arg : BitVec 64)
    {user : UserSpace}
    (passed : ∀ index < 3, user.memory index = objectByte word.toNat index)
    (copied : 3 ≤ user.copied) (allocated : Bool) {state : CardState}
    (clockLow : (mpiolvlLines (state.config mpiolvlOffset)).clock = false)
    (strobeLow : (mpiolvlLines (state.config mpiolvlOffset)).strobe = false) :
    let call := serialfcIoctl port arg user allocated .setClockBits
    let writes := mpiolvlWrites (port.card.machine.trace call state)
    let received :=
      (Receiver.starting (mpiolvlLines (state.config mpiolvlOffset))).receive
        (writes.map mpiolvlLines)
    port.card.machine.run call state = (some (0, user.memory), state) ∧
      ∃ programmed, received.latches.map programmedWordPci = [programmed] ∧
        let divider := unpackDivider (programmed.setWidth 32)
        divider.Best freq.toNat ∧
          |divider.outputFrequency - freq.toNat| ≤
            freq.toNat / 10 + (divider.vdw + 8) := by
  intro call writes received
  have machine := machine_of_cardType pci
  have low : ∀ index : Fin 20, index.val < 3 →
      user.copyFromUser.2 index = objectByte word.toNat index := by
    intro index small
    simp only [UserSpace.copyFromUser, passed index small]
    rw [if_pos (by omega)]
  have sent : (clockWordPci user.copyFromUser.2).setWidth 24 = word.setWidth 24 :=
    clockWordPci_lowBytes (low 0 (by decide)) (low 1 (by decide))
      (low 2 (by decide))
  have program : call = (fun status => (status, user.memory)) <$>
      fastcomSetClockBitsPci port (clockWordPci user.copyFromUser.2) := by
    simp [call, serialfcIoctl, fastcomSetClockBits, pci]
  have idle : ClockIdlePci state := ⟨clockLow, strobeLow⟩
  have sends :=
    (sends_setClockBitsPci port (clockWordPci user.copyFromUser.2) idle).map
      (fun status => (status, user.memory))
  have latched := sends (Receiver.starting (clockLinesPci state)) rfl
  rw [← program, receive_mpiolvlWrites _ rfl, sent] at latched
  refine ⟨?_, word.setWidth 24, ?_, ?_⟩
  · rw [machine, program, Machine.run_map, run_setClockBitsPci]
    rfl
  · simp only [received, writes, machine]
    exact latched
  · intro divider
    have narrowed : (freq.setWidth 32).toNat = freq.toNat := by
      rw [BitVec.toNat_setWidth]
      exact Nat.mod_eq_of_lt fits
    have isDivider : divider = unpackDivider word := unpackDivider_lowBytes word
    rcases getIcs30702Data_cases (freq.setWidth 32) progbytes with
      ⟨_, found, code, _, run, unpacked, isBest, near⟩ | ⟨_, failed⟩
    · simp only [calculateClockBits335, run] at calculated
      have isWord : packDivider code found = word := (Prod.mk.inj calculated).2
      rw [isDivider, ← isWord, unpacked]
      rw [narrowed] at isBest near
      refine ⟨isBest, ?_⟩
      have lost := isBest.admissible.outputFrequency_range
      have measured := Divider.distance_cast freq.toNat found
      have nearCast : (found.distance freq.toNat : ℚ) ≤ freq.toNat / 10 := by
        rw [le_div_iff₀ (by norm_num)]
        have scaled : found.distance freq.toNat * 10 ≤ freq.toNat := by
          omega
        exact_mod_cast scaled
      rw [measured, abs_le] at nearCast
      rw [abs_le]
      constructor
      · linarith
      · linarith
    · simp only [calculateClockBits335, failed] at calculated
      have status : (1 : Int) = 0 := (Prod.mk.inj calculated).1
      exact absurd status (by decide)

/-- The clock of the example program, whose buffer holds no more than the word. -/
theorem serialfcIoctl_setClockBits_pci_18MHz :
    ∃ word : BitVec 32,
      let user : UserSpace := ⟨objectByte word.toNat, 4⟩
      let port : Port := ⟨Card.ofDevice fc422_4Pci335Id 4, 2⟩
      let call := serialfcIoctl port 0 user true .setClockBits
      let writes := mpiolvlWrites (port.card.machine.trace call .blank)
      let received := (Receiver.starting (mpiolvlLines 0)).receive
        (writes.map mpiolvlLines)
      ∃ programmed, received.latches.map programmedWordPci = [programmed] ∧
        (unpackDivider (programmed.setWidth 32)).Best 18432000 := by
  rcases @exists_close 18432000 (by decide) (by decide) with
    ⟨divider, admissible, close⟩
  have narrow : (18432000#32).toNat = 18432000 := rfl
  rw [← narrow] at admissible close
  rcases getIcs30702Data_closest (by decide) 0 admissible (by omega) with
    ⟨word, found, _⟩
  have narrowed : (18432000#64).setWidth 32 = 18432000#32 := rfl
  have calculated : calculateClockBits335 18432000#64 0 = (0, word) := by
    rw [calculateClockBits335, narrowed, found]
    rfl
  refine ⟨word, ?_⟩
  intro user port call writes received
  have programmed := @serialfcIoctl_setClockBits_pci 18432000 (by decide) 0 word
    calculated port rfl 0 user (fun _ _ => rfl) (by show 3 ≤ 4; decide) true .blank
    rfl rfl
  rcases programmed.2 with ⟨programmed, latched, isBest, _⟩
  exact ⟨programmed, latched, isBest⟩

end SerialFc
