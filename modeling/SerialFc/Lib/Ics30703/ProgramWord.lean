import SerialFc.Lib.Ics30703.Search
import Mathlib.Logic.Function.Basic

/-! # The programming word of the ICS307-03

The second half of `GetICS30703Data` packs what the search found into 20 bytes,
by the tables of the chip: some codes are or-ed in, some masked out, and the
code of the output divider is looked up in a loop.
-/

namespace SerialFc.Ics30703

/-- `progdata`, the byte shifted out last first. -/
abbrev ProgData := Fin 20 → BitVec 8

/-- There is a first byte. -/
local instance bytesNeZero : NeZero 20 := ⟨by decide⟩

namespace ProgData

def set (progdata : ProgData) (index : Fin 20) (byte : BitVec 8) : ProgData :=
  Function.update progdata index byte

def or (progdata : ProgData) (index : Fin 20) (mask : BitVec 8) : ProgData :=
  progdata.set index (progdata index ||| mask)

def and (progdata : ProgData) (index : Fin 20) (mask : BitVec 8) : ProgData :=
  progdata.set index (progdata index &&& mask)

end ProgData

/-- The word before the tables, with the VCO powered up and CLK1 enabled. -/
def ProgData.start : ProgData :=
  let progdata : ProgData := fun _ => 0x00
  let progdata := (progdata.set 19 0xff).set 18 0xff
  let progdata := (progdata.set 17 0xff).set 15 0x04
  (progdata.or 14 0x01).or 13 0x40

def inputDivider (refDiv : Nat) (progdata : ProgData) : Except Int ProgData :=
  if refDiv = 1 then .ok <| (progdata.and 0 0xfc).and 1 0xf0
  else if refDiv = 2 then
    .ok <| ((progdata.and 0 0xfc).or 0 0x01).and 1 0xf0
  else if refDiv ≥ 3 ∧ refDiv ≤ 17 then
    let temp := ~~~BitVec.ofNat 64 (refDiv - 2) <<< 2
    .ok <| ((progdata.set 0 (temp.setWidth 8)).and 0 0x3e).or 0 0x02
  else if refDiv ≥ 18 ∧ refDiv ≤ 2055 then
    let temp := BitVec.ofNat 64 (refDiv - 8) <<< 2
    .ok <|
      ((progdata.set 0 (temp.setWidth 8)).set 1 ((temp >>> 8).setWidth 8)).or 0
        0x03
  else .error 3

def vcoDivider (vcoDiv : Nat) (progdata : ProgData) : Except Int ProgData :=
  if vcoDiv ≥ 12 ∧ vcoDiv ≤ 2055 then
    let temp := BitVec.ofNat 64 (vcoDiv - 8) <<< 5
    .ok <| (progdata.or 1 (temp.setWidth 8)).or 2 ((temp >>> 8).setWidth 8)
  else .error 4

def loopFilterResistor (rs : Nat) (progdata : ProgData) : Except Int ProgData :=
  match rs with
  | 64000 => .ok <| progdata.and 11 0xf9
  | 52000 => .ok <| (progdata.and 11 0xf9).or 11 0x04
  | 16000 => .ok <| (progdata.and 11 0xf9).or 11 0x02
  | 4000 => .ok <| progdata.or 11 0x06
  | _ => .error 5

/-- A row of Table 3: bits set and bits kept of byte 11, then the bits at the
edge of bytes 15 and 16. -/
def ProgData.setCurrent (progdata : ProgData) (setMask keepMask : BitVec 8)
    (low high : Bool) : ProgData :=
  let progdata := (progdata.or 11 setMask).and 11 keepMask
  let progdata := if low then progdata.or 15 0x80 else progdata.and 15 0x7f
  if high then progdata.or 16 0x01 else progdata.and 16 0xfe

def chargePump (icpnum : Nat) (progdata : ProgData) : Except Int ProgData :=
  match icpnum with
  | 125 => .ok <| progdata.setCurrent 0x38 0xff false false
  | 250 => .ok <| progdata.setCurrent 0x38 0xff true false
  | 375 => .ok <| progdata.setCurrent 0x38 0xff false true
  | 500 => .ok <| progdata.setCurrent 0x38 0xff true true
  | 625 => .ok <| progdata.setCurrent 0x18 0xdf false false
  | 750 => .ok <| progdata.setCurrent 0x10 0xd7 false false
  | 875 => .ok <| progdata.setCurrent 0x08 0xcf false false
  | 1000 => .ok <| progdata.setCurrent 0x00 0xc7 false false
  | 1125 => .ok <| progdata.setCurrent 0x28 0xef false true
  | 1250 => .ok <| progdata.setCurrent 0x18 0xdf true false
  | 1500 => .ok <| progdata.setCurrent 0x28 0xef true true
  | 1750 => .ok <| progdata.setCurrent 0x08 0xcf true false
  | 1875 => .ok <| progdata.setCurrent 0x18 0xdf false true
  | 2000 => .ok <| progdata.setCurrent 0x00 0xc7 true false
  | 2250 => .ok <| progdata.setCurrent 0x10 0xff false true
  | 2500 => .ok <| progdata.setCurrent 0x18 0xdf true true
  | 2625 => .ok <| progdata.setCurrent 0x08 0xcf false true
  | 3000 => .ok <| progdata.setCurrent 0x00 0xc7 false true
  | 3500 => .ok <| progdata.setCurrent 0x08 0xcf true true
  | 4000 => .ok <| progdata.setCurrent 0x00 0xc7 true true
  | _ => .error 6

def ProgData.setOutDivider (progdata : ProgData) (odd : Bool)
    (keepMask setMask : BitVec 8) : ProgData :=
  let progdata :=
    if odd then progdata.or 11 0x80 else progdata.and 11 0x7f
  ((progdata.and 12 keepMask).or 12 setMask).and 13 0xc0

/-- An alternative of the loop of Table 5: `((i + 3) * 2 + y) * scale`, and the
bits of byte 12 that it clears and sets. -/
structure OutDividerForm where
  y : Nat
  scale : Nat
  keepMask : BitVec 8
  setMask : BitVec 8

def outDividerForms : List OutDividerForm :=
  [⟨0, 1, 0xe7, 0x04⟩, ⟨0, 2, 0xef, 0x0c⟩, ⟨0, 4, 0xf7, 0x14⟩,
    ⟨0, 8, 0xff, 0x1c⟩, ⟨1, 1, 0xe3, 0x00⟩, ⟨1, 2, 0xeb, 0x08⟩,
    ⟨1, 4, 0xf7, 0x10⟩, ⟨1, 8, 0xfb, 0x18⟩]

def ProgData.setForm (progdata : ProgData) (i : Nat) (form : OutDividerForm) :
    ProgData :=
  let temp := BitVec.ofNat 64 i <<< 5
  let progdata :=
    (progdata.or 12 (temp.setWidth 8)).or 13 ((temp >>> 8).setWidth 8)
  (progdata.and 12 form.keepMask).or 12 form.setMask

def matchOutDivider (outDiv : Nat) : Option (Nat × OutDividerForm) :=
  (List.range 512).findSome? fun i =>
    outDividerForms.findSome? fun form =>
      if outDiv = ((i + 3) * 2 + form.y) * form.scale then some (i, form)
      else none

def outputDivider (outDiv : Nat) (progdata : ProgData) : Except Int ProgData :=
  if outDiv ≥ 2 ∧ outDiv ≤ 8232 then
    match outDiv with
    | 2 => .ok <| progdata.setOutDivider false 0x00 0x00
    | 3 => .ok <| progdata.setOutDivider true 0x00 0x00
    | 4 => .ok <| progdata.setOutDivider false 0xff 0x04
    | 5 => .ok <| progdata.setOutDivider false 0xff 0x01
    | 6 => .ok <| progdata.setOutDivider true 0xff 0x04
    | 7 => .ok <| progdata.setOutDivider true 0xff 0x01
    | 9 => .ok <| progdata.setOutDivider true 0xff 0x05
    | 11 => .ok <| progdata.setOutDivider true 0xff 0x09
    | 13 => .ok <| progdata.setOutDivider true 0xff 0x0d
    | _ =>
      if outDiv ≤ 37 then
        let temp := ~~~BitVec.ofNat 64 (outDiv - 6) <<< 2
        let progdata := progdata.set 12 (temp.setWidth 8 &&& 0x7f)
        let progdata := (progdata.and 11 0x7f).and 12 0xfe
        .ok <| (progdata.or 12 0x02).and 13 0xc0
      else
        let progdata :=
          match matchOutDivider outDiv with
          | some (i, form) => progdata.setForm i form
          | none => progdata
        .ok <| ((progdata.or 11 0x80).and 12 0xfe).or 12 0x02
  else .error 7

/-- The tables in turn. What a failed table leaves in `progdata` is not read. -/
def packDividers (theOne : ResultStruct) (theOther : IcpRsStruct) :
    Except Int ProgData := do
  let progdata ← inputDivider theOne.refDiv .start
  let progdata ← vcoDivider theOne.vcoDiv progdata
  let progdata ← loopFilterResistor theOther.rs progdata
  let progdata ← chargePump theOther.icpnum progdata
  outputDivider theOne.outDiv progdata

def getIcs30703Data (desired ppm : Nat) :
    Except Int (ResultStruct × IcpRsStruct × ProgData) :=
  match increasePpm desired ppm with
  | some (theOne, theOther) => do
    let progdata ← packDividers theOne theOther
    return (theOne, theOther, progdata)
  | none => .error 2

def calculateClockBits (freq ppm : Nat) (progbytes : ProgData) :
    Int × ProgData :=
  match getIcs30703Data freq ppm with
  | .ok (_, _, progwords) => (0, progwords)
  | .error _ => (1, progbytes)

/-! ## What the word says -/

def ProgData.low (progdata : ProgData) : BitVec 24 :=
  progdata 2 ++ progdata 1 ++ progdata 0

def ProgData.refDiv (progdata : ProgData) : Nat :=
  match (progdata.low.extractLsb' 0 2).toNat with
  | 0 => 1
  | 1 => 2
  | 2 => (~~~progdata.low.extractLsb' 2 4).toNat + 2
  | _ => (progdata.low.extractLsb' 2 11).toNat + 8

def ProgData.vcoDiv (progdata : ProgData) : Nat :=
  (progdata.low.extractLsb' 13 11).toNat + 8

def ProgData.high (progdata : ProgData) : BitVec 14 :=
  (progdata 13).setWidth 6 ++ progdata 12

/-- The output divider of bit 95 and the bits above: nine values of their own, a
short form, and `(2 * x + 6 + y) * 2 ^ z`. -/
def outDivOf (odd : Bool) (high : BitVec 14) : Nat :=
  match (high.extractLsb' 0 2).toNat, odd with
  | 2, false => (~~~high.extractLsb' 2 5).toNat + 6
  | 2, true =>
    let x := (high.extractLsb' 5 9).toNat
    let y := (~~~high.extractLsb' 2 1).toNat
    (2 * x + 6 + y) * 2 ^ (high.extractLsb' 3 2).toNat
  | 0, false => if high = 0 then 2 else 4
  | 0, true => if high = 0 then 3 else 6
  | _, false => 5
  | _, true => (high.extractLsb' 2 2).toNat * 2 + 7

def ProgData.outDiv (progdata : ProgData) : Nat :=
  outDivOf ((progdata 11).getLsbD 7) progdata.high

def resistorOf (code : BitVec 2) : Nat :=
  match code.toNat with
  | 0 => 64000
  | 1 => 16000
  | 2 => 52000
  | _ => 4000

def ProgData.loopResistor (progdata : ProgData) : Nat :=
  resistorOf ((progdata 11).extractLsb' 1 2)

/-- Table 3 in units of 10 nA: 1.25 uA times what bits 91 to 93 leave of 8, times
one more than bits 127 and 128. -/
def currentOf (code : BitVec 3) (low high : Bool) : Nat :=
  125 * (8 - code.toNat) * (1 + low.toNat + 2 * high.toNat)

def ProgData.current (progdata : ProgData) : Nat :=
  currentOf ((progdata 11).extractLsb' 3 3) ((progdata 15).getLsbD 7)
    ((progdata 16).getLsbD 0)

def ProgData.outputFrequency (progdata : ProgData) : ℚ :=
  24000000 * progdata.vcoDiv / (progdata.refDiv * progdata.outDiv)

end SerialFc.Ics30703
