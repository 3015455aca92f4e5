import PigweedExperimental.Display.NearestNeighbor
import PigweedExperimental.DisplayDriver.SpiBus
import PigweedExperimental.Foundation.MachineInt

namespace PigweedExperimental.DisplayDriver

/-! # What the drivers share

Addresses go to a controller as pairs of bytes. A row write sets the address
window to the row and then sends its pixels; a frame is sent in one write after
the memory write command.
-/

/-- `PW_ASSERT` -/
def pwAssert (condition : Prop) [Decidable condition] : Except Fault Unit :=
  if condition then .ok () else .error .assertion

/-- A value computed in `int`. -/
def int (value : Int) : Except Fault Int :=
  if -NearestNeighbor.intMax - 1 ≤ value ∧ value ≤ NearestNeighbor.intMax then
    .ok value
  else
    .error .overflow

def highByte (val : UInt16) : UInt8 :=
  (val >>> 8).toUInt8

def lowByte (val : UInt16) : UInt8 :=
  (val &&& 0xff).toUInt8

/-- The data of an address command. -/
def addressBytes (first last : UInt16) : List UInt8 :=
  [highByte first, lowByte first, highByte last, lowByte last]

/-- What a call of `WriteFramebuffer` leaves: the arguments of the write
callback, and the bus. -/
structure Delivery where
  framebuffer : Framebuffer
  status : Status
  bus : SpiBus

/-- The rest of a `WriteFramebuffer` that sends everything in one write, after
its assertions. -/
def sendFrame (memoryWrite : UInt8) (width height : UInt16) (bus : SpiBus)
    (framebuffer : Framebuffer) : Except Fault Delivery := do
  let commanded := bus.writeCommand ⟨memoryWrite, []⟩
  if commanded.1 ≠ .ok then
    return ⟨framebuffer, commanded.1, commanded.2⟩
  let numPixels ← int (width.toNat * height.toNat)
  let sent := commanded.2.write (.framebuffer 0 numPixels.toNat)
  return ⟨framebuffer, sent.1, sent.2⟩

/-- The codes of a controller's address and memory write commands. -/
structure AddressCommands where
  columnAddress : UInt8
  pageAddress : UInt8
  memoryWrite : UInt8
  deriving DecidableEq, Repr

/-- The last column of the window of a row write, computed in `int` and then
stored in 16 bits. -/
def maxColIdx (lastColumn : Int) (write : RowWrite) : Except Fault UInt16 := do
  let colEnd ← int (write.colIdx.toNat + staticCastInt write.rowPixels.length)
  return .ofInt (max lastColumn colEnd)

/-- `WriteRow` of the drivers with a 16-bit address window. -/
def writeAddressedRow (commands : AddressCommands) (lastColumn : Int) (bus : SpiBus)
    (write : RowWrite) : Except Fault (Status × SpiBus) := do
  let maxColIdx ← maxColIdx lastColumn write
  let addressed := bus.writeCommands [
    ⟨commands.columnAddress, addressBytes write.colIdx maxColIdx⟩,
    ⟨commands.pageAddress, addressBytes write.rowIdx write.rowIdx⟩]
  let commanded := addressed.writeCommand ⟨commands.memoryWrite, []⟩
  if commanded.1 ≠ .ok then
    return commanded
  return commanded.2.write (.row write.rowPixels)

/-- The commands of a row write. -/
def rowCommands (commands : AddressCommands) (maxColIdx : UInt16) (write : RowWrite) :
    List Command := [
  ⟨commands.columnAddress, addressBytes write.colIdx maxColIdx⟩,
  ⟨commands.pageAddress, addressBytes write.rowIdx write.rowIdx⟩,
  ⟨commands.memoryWrite, []⟩]

/-- What comes after an assertion. -/
theorem pwAssert_bind_eq_ok {condition : Prop} [Decidable condition] {rest : Except Fault α}
    {result : α} :
    (do pwAssert condition; rest) = .ok result ↔ condition ∧ rest = .ok result := by
  rw [pwAssert]
  split
  · rename_i holds
    exact (and_iff_right holds).symm
  · rename_i fails
    exact iff_of_false nofun fun both => fails both.1

theorem int_eq_ok {value result : Int} :
    int value = .ok result ↔
      (-NearestNeighbor.intMax - 1 ≤ value ∧ value ≤ NearestNeighbor.intMax) ∧
        value = result := by
  rw [int]
  split
  · rename_i inRange
    rw [Except.ok.injEq]
    exact ⟨fun same => ⟨inRange, same⟩, And.right⟩
  · rename_i outOfRange
    exact iff_of_false nofun fun both => outOfRange both.1

theorem int_natCast (value : Nat) :
    int value = if value ≤ 2 ^ 31 - 1 then .ok (value : Int) else .error .overflow := by
  have limit : NearestNeighbor.intMax = 2 ^ 31 - 1 := rfl
  rw [int]
  apply if_congr _ rfl rfl
  constructor
  · intro inRange
    omega
  · intro fits
    omega

theorem maxColIdx_eq_ok {lastColumn : Int} {write : RowWrite} {colIdx : UInt16}
    (computed : maxColIdx lastColumn write = .ok colIdx) :
    colIdx =
      .ofInt (max lastColumn (write.colIdx.toNat + staticCastInt write.rowPixels.length)) := by
  cases colEnd : int (write.colIdx.toNat + staticCastInt write.rowPixels.length) with
  | error =>
      rw [maxColIdx, colEnd] at computed
      cases computed
  | ok value =>
      rw [maxColIdx, colEnd] at computed
      rw [(int_eq_ok.mp colEnd).2]
      exact (Except.ok.inj computed).symm

/-- A row write returns if its last column is an `int`. -/
theorem writeAddressedRow_returns (commands : AddressCommands) {lastColumn : Int} (bus : SpiBus)
    {write : RowWrite} {colIdx : UInt16} (computed : maxColIdx lastColumn write = .ok colIdx) :
    ∃ result, writeAddressedRow commands lastColumn bus write = .ok result := by
  rw [writeAddressedRow, computed]
  simp only [bind, Except.bind]
  split <;> exact ⟨_, rfl⟩

/-- A row write that meets no failure: its commands, then its pixels. -/
theorem writeAddressedRow_writes {commands : AddressCommands} {lastColumn : Int} {bus : SpiBus}
    {write : RowWrite} {result : Status × SpiBus} (succeeds : bus.Succeeds)
    (written : writeAddressedRow commands lastColumn bus write = .ok result) :
    ∃ colIdx, maxColIdx lastColumn write = .ok colIdx ∧
      result.2.outcome = bus.outcome ∧
      result.2.writes = bus.writes ++ ((rowCommands commands colIdx write).flatMap
        Command.writes ++ [⟨.data, .row write.rowPixels, .ok⟩]) := by
  cases computed : maxColIdx lastColumn write with
  | error =>
      rw [writeAddressedRow, computed] at written
      cases written
  | ok colIdx =>
      let addresses : List Command := [
        ⟨commands.columnAddress, addressBytes write.colIdx colIdx⟩,
        ⟨commands.pageAddress, addressBytes write.rowIdx write.rowIdx⟩]
      let addressed := bus.writeCommands addresses
      have addressedOutcome : addressed.outcome = bus.outcome :=
        SpiBus.writeCommands_outcome addresses bus
      have addressedSucceeds : addressed.Succeeds := succeeds.of_outcome addressedOutcome
      let commanded := addressed.writeCommand ⟨commands.memoryWrite, []⟩
      have commandedOutcome : commanded.2.outcome = addressed.outcome :=
        addressed.writeCommand_outcome _
      have command : commanded.1 = .ok ∧ commanded.2.mode = .data ∧
          commanded.2.writes = addressed.writes ++
            (Command.mk commands.memoryWrite []).writes :=
        addressedSucceeds.writeCommand ⟨commands.memoryWrite, []⟩
      have pixels := (addressedSucceeds.of_outcome commandedOutcome).write
        (.row write.rowPixels)
      have isResult : commanded.2.write (.row write.rowPixels) = result := by
        rw [writeAddressedRow, computed] at written
        have sent : ¬commanded.1 ≠ .ok := not_not.mpr command.1
        simp only [bind, Except.bind, pure, Except.pure] at written
        rw [if_neg sent] at written
        exact Except.ok.inj written
      have addressWrites : addressed.writes = bus.writes ++ addresses.flatMap Command.writes :=
        succeeds.writeCommands addresses
      refine ⟨colIdx, rfl, ?_, ?_⟩
      · rw [← isResult, SpiBus.write_outcome, commandedOutcome, addressedOutcome]
      · rw [← isResult, pixels.2, command.2.2, command.2.1, addressWrites]
        simp [rowCommands, addresses]

/-- A last index that is computed in `int` and kept in 16 bits. -/
theorem ofInt_eq_sub_one_iff (last : Int) (count : UInt16) :
    UInt16.ofInt last = count - 1 ↔ (last - (count.toNat - 1)) % 2 ^ 16 = 0 := by
  have inRange := count.toNat_lt
  have difference := UInt16.toNat_sub count 1
  have one : (1 : UInt16).toNat = 1 := rfl
  rw [one] at difference
  have ofInt : (UInt16.ofInt last).toNat = (last % 2 ^ 16).toNat % 2 ^ 16 :=
    UInt16.toNat_ofNat'
  rw [← UInt16.toNat_inj, difference, ofInt]
  constructor
  · intro same
    omega
  · intro congruent
    omega

/-- The two bytes of an address, read as one number again. -/
theorem highByte_lowByte (val : UInt16) :
    256 * (highByte val).toNat + (lowByte val).toNat = val.toNat := by
  have inRange := val.toNat_lt
  rw [highByte, lowByte, UInt16.toNat_toUInt8, UInt16.toNat_toUInt8,
    UInt16.toNat_shiftRight, UInt16.toNat_and]
  have lowBits : val.toNat &&& (0xff : UInt16).toNat = val.toNat % 2 ^ 8 :=
    Nat.and_two_pow_sub_one_eq_mod val.toNat 8
  rw [lowBits]
  have highBits : val.toNat >>> ((8 : UInt16).toNat % 16) = val.toNat / 2 ^ 8 :=
    Nat.shiftRight_eq_div_pow val.toNat 8
  rw [highBits]
  omega

end PigweedExperimental.DisplayDriver
