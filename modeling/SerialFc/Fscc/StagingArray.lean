import SerialFc.Fscc.ClockBits

/-! # The staging array of an FSCC card

`fastcom_set_clock_bits_fscc` fills an allocated array through a running index
before it hands it to `iowrite32_rep`. Here every store keeps its index, so
that it can be compared with the size of the allocation.
-/

namespace SerialFc

/-- The number of `__u32` that `kmalloc` is asked for. -/
def fcrDataCapacity : Nat := 323

/-- The stores into `data` with their indices, oldest first, the next index and
the running image of FCR. -/
structure FcrArray where
  stores : List (Nat × BitVec 32)
  dataIndex : Nat
  newFcrValue : BitVec 32

namespace FcrArray

def store (value : BitVec 32) (array : FcrArray) : FcrArray :=
  { array with
    stores := array.stores ++ [(array.dataIndex, value)]
    dataIndex := array.dataIndex + 1 }

def shiftBit (origFcrValue dtaValue clkValue : BitVec 32) (bit : Bool)
    (array : FcrArray) : FcrArray :=
  let newFcrValue := array.newFcrValue
  let array := array.store newFcrValue
  let newFcrValue :=
    if bit then newFcrValue ||| dtaValue else newFcrValue &&& ~~~dtaValue
  let newFcrValue := newFcrValue ||| clkValue
  let array := array.store newFcrValue
  let newFcrValue := newFcrValue &&& ~~~clkValue
  let array := array.store newFcrValue
  { array with newFcrValue := origFcrValue &&& fcrKeepMask }

def shiftByte (origFcrValue dtaValue clkValue : BitVec 32) (byte : BitVec 8)
    (array : FcrArray) : FcrArray :=
  (List.range 8).reverse.foldl
    (fun array j =>
      array.shiftBit origFcrValue dtaValue clkValue (byte.getLsbD j))
    array

/-- Every store is inside an array of `capacity` elements, and so is the count
that `iowrite32_rep` is given. -/
def Within (capacity : Nat) (array : FcrArray) : Prop :=
  (∀ store ∈ array.stores, store.1 < capacity) ∧ array.dataIndex ≤ capacity

end FcrArray

def fcrClockArray (channel : Nat) (clockData : Fin 20 → BitVec 8)
    (origFcrValue : BitVec 32) : FcrArray :=
  let strbValue := clockPin strbBase channel
  let dtaValue := clockPin dtaBase channel
  let clkValue := clockPin clkBase channel
  let newFcrValue := origFcrValue &&& fcrKeepMask
  let array := FcrArray.store newFcrValue ⟨[], 0, newFcrValue⟩
  let array := (List.finRange 20).reverse.foldl
    (fun (array : FcrArray) i =>
      array.shiftByte origFcrValue dtaValue clkValue (clockData i))
    array
  let newFcrValue := origFcrValue &&& fcrKeepMask
  let newFcrValue := newFcrValue ||| strbValue
  let newFcrValue := newFcrValue &&& ~~~clkValue
  let array := array.store newFcrValue
  array.store origFcrValue

/-! ## The array and the list of what it holds -/

structure FcrArray.Stages (array : FcrArray) (staging : FcrStaging) : Prop where
  stores : array.stores = staging.data.zipIdx.map Prod.swap
  dataIndex : array.dataIndex = staging.data.length
  newFcrValue : array.newFcrValue = staging.newFcrValue

namespace FcrArray.Stages

variable {array : FcrArray} {staging : FcrStaging}

theorem store (stages : array.Stages staging) (value : BitVec 32) :
    (array.store value).Stages
      { staging with data := staging.data ++ [value] } where
  stores := by
    simp [FcrArray.store, stages.stores, stages.dataIndex, List.zipIdx_append]
  dataIndex := by
    simp [FcrArray.store, stages.dataIndex]
  newFcrValue := stages.newFcrValue

theorem withImage (stages : array.Stages staging) (newFcrValue : BitVec 32) :
    FcrArray.Stages { array with newFcrValue } { staging with newFcrValue } :=
  ⟨stages.stores, stages.dataIndex, rfl⟩

theorem shiftBit (stages : array.Stages staging)
    (origFcrValue dtaValue clkValue : BitVec 32) (bit : Bool) :
    (array.shiftBit origFcrValue dtaValue clkValue bit).Stages
      (staging.shiftBit origFcrValue dtaValue clkValue bit) := by
  unfold FcrArray.shiftBit FcrStaging.shiftBit
  rw [stages.newFcrValue]
  exact (((stages.store _).store _).store _).withImage _

theorem shiftByte (stages : array.Stages staging)
    (origFcrValue dtaValue clkValue : BitVec 32) (byte : BitVec 8) :
    (array.shiftByte origFcrValue dtaValue clkValue byte).Stages
      (staging.shiftByte origFcrValue dtaValue clkValue byte) := by
  unfold FcrArray.shiftByte FcrStaging.shiftByte
  induction (List.range 8).reverse generalizing array staging with
  | nil => exact stages
  | cons j positions induction =>
      exact induction (stages.shiftBit origFcrValue dtaValue clkValue _)

theorem shiftBytes (stages : array.Stages staging)
    (origFcrValue dtaValue clkValue : BitVec 32)
    (clockData : Fin 20 → BitVec 8) (bytes : List (Fin 20)) :
    (bytes.foldl
        (fun (array : FcrArray) i =>
          array.shiftByte origFcrValue dtaValue clkValue (clockData i))
        array).Stages
      (bytes.foldl
        (fun (staging : FcrStaging) i =>
          staging.shiftByte origFcrValue dtaValue clkValue (clockData i))
        staging) := by
  induction bytes generalizing array staging with
  | nil => exact stages
  | cons i bytes induction =>
      simp only [List.foldl_cons]
      exact induction
        (stages.shiftByte origFcrValue dtaValue clkValue (clockData i))

end FcrArray.Stages

section Filled

variable (channel : Nat) (clockData : Fin 20 → BitVec 8)
  (origFcrValue : BitVec 32)

theorem fcrClockArray_holds :
    let array := fcrClockArray channel clockData origFcrValue
    array.stores =
        (fcrClockData channel clockData origFcrValue).zipIdx.map Prod.swap ∧
      array.dataIndex =
        (fcrClockData channel clockData origFcrValue).length := by
  intro array
  have start : FcrArray.Stages
      (FcrArray.store (origFcrValue &&& fcrKeepMask)
        ⟨[], 0, origFcrValue &&& fcrKeepMask⟩)
      ⟨[origFcrValue &&& fcrKeepMask], origFcrValue &&& fcrKeepMask⟩ :=
    ⟨rfl, rfl, rfl⟩
  have bits := start.shiftBytes origFcrValue (clockPin dtaBase channel)
    (clockPin clkBase channel) clockData (List.finRange 20).reverse
  simp only [array, fcrClockArray, fcrClockData]
  generalize (List.finRange 20).reverse.foldl _ _ = looped at bits ⊢
  generalize (List.finRange 20).reverse.foldl _ _ = staged at bits ⊢
  have filled := (bits.store ((origFcrValue &&& fcrKeepMask |||
    clockPin strbBase channel) &&& ~~~clockPin clkBase channel)).store
    origFcrValue
  exact ⟨filled.stores, filled.dataIndex⟩

theorem length_flatMap_fcrBitWrites (base dtaValue clkValue : BitVec 32)
    (bits : List Bool) :
    (bits.flatMap (fcrBitWrites base dtaValue clkValue)).length =
      3 * bits.length := by
  induction bits with
  | nil => rfl
  | cons bit bits induction =>
      have three : (fcrBitWrites base dtaValue clkValue bit).length = 3 := rfl
      rw [List.flatMap_cons, List.length_append, induction, three,
        List.length_cons]
      omega

/-- One store before the loops, three for each bit and two after them. -/
theorem length_fcrClockData :
    (fcrClockData channel clockData origFcrValue).length = 483 := by
  rw [fcrClockData_eq, List.length_cons, List.length_append,
    length_flatMap_fcrBitWrites, length_clockWordBits, List.length_cons,
    List.length_cons, List.length_nil]

theorem within_fcrClockArray_iff (capacity : Nat) :
    (fcrClockArray channel clockData origFcrValue).Within capacity ↔
      483 ≤ capacity := by
  rcases fcrClockArray_holds channel clockData origFcrValue with
    ⟨stores, dataIndex⟩
  rw [length_fcrClockData] at dataIndex
  rw [FcrArray.Within, dataIndex]
  constructor
  · exact fun within => within.2
  · intro fits
    refine ⟨?_, fits⟩
    intro store member
    rw [stores] at member
    rcases List.mem_map.mp member with ⟨⟨value, index⟩, isStaged, rfl⟩
    have inside := List.snd_lt_of_mem_zipIdx isStaged
    rw [length_fcrClockData] at inside
    exact Nat.lt_of_lt_of_le inside (by omega)

end Filled

/-! ## The allocation -/

/-- The call stays within the array it allocated: without one it stores
nothing. -/
def ClockArrayWithin (port : Port) (clockData : Fin 20 → BitVec 8)
    (allocated : Bool) (state : CardState) : Prop :=
  allocated = true →
    (fcrClockArray port.channel
      (forceXtal (state.xtalDisabled port.channel) clockData)
      state.fcr).Within fcrDataCapacity

/-- The array was sized for two stores a bit, but a bit takes three: whenever
there is an array it is overrun. -/
theorem clockArrayWithin_iff (port : Port) (clockData : Fin 20 → BitVec 8)
    (allocated : Bool) (state : CardState) :
    ClockArrayWithin port clockData allocated state ↔ allocated = false := by
  rw [ClockArrayWithin, within_fcrClockArray_iff]
  have short : ¬483 ≤ fcrDataCapacity := by decide
  cases allocated with
  | false => exact iff_of_true (fun impossible => by cases impossible) rfl
  | true => exact iff_of_false (fun fits => short (fits rfl)) (by decide)

theorem not_clockArrayWithin :
    ¬ClockArrayWithin ⟨Card.ofDevice fsccId 2, 0⟩ (fun _ => 0) true
      CardState.blank := by
  intro within
  have fits := (within_fcrClockArray_iff _ _ _ _).mp (within rfl)
  exact absurd fits (by decide)

end SerialFc
