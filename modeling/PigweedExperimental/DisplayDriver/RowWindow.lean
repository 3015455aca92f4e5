import PigweedExperimental.Display.RowBounds
import PigweedExperimental.DisplayDriver.PanelController
import PigweedExperimental.DisplayDriver.WriteOutcomes

namespace PigweedExperimental.DisplayDriver

/-! # The window of a row write

The drivers take the larger of the panel's last column, where a window ends, and
of the column after the pixels, which is one past it.
-/

/-- The addresses that reach the controller, each pair with its command. -/
def Controller.addresses (controller : Controller) : List SpiWrite → List (UInt8 × Nat × Nat)
  | [] => []
  | write :: writes =>
      let later := (controller.receive write).addresses writes
      match write.span, write.mode with
      | .bytes [firstHigh, firstLow, lastHigh, lastLow], .data =>
          (controller.command, address firstHigh firstLow, address lastHigh lastLow) :: later
      | _, _ => later

section Addresses

variable {outcome : Nat → Status} {number : Nat}

theorem addresses_append (controller : Controller) (first second : List SpiWrite) :
    controller.addresses (first ++ second) =
      controller.addresses first ++ (controller.receiveAll first).addresses second := by
  induction first generalizing controller with
  | nil => rfl
  | cons write writes induction =>
      have rest := induction (controller.receive write)
      rw [List.cons_append, Controller.addresses, Controller.addresses, rest]
      split <;> rfl

/-- An address command delivers its addresses once its first byte is through. -/
theorem addresses_sent (controller : Controller) (command : UInt8) (first last : UInt16) :
    controller.addresses (Command.sent ⟨command, addressBytes first last⟩ outcome number) =
      if outcome number = .ok then [(command, first.toNat, last.toNat)] else [] := by
  rw [Command.sent]
  by_cases ok : outcome number = .ok
  case pos =>
    rw [if_pos ⟨ok, List.cons_ne_nil _ _⟩, if_pos ok, ← Controller.address_addressBytes first,
      ← Controller.address_addressBytes last]
    rfl
  case neg =>
    rw [if_neg fun both => ok both.1, if_neg ok]
    rfl

theorem addresses_pixelsSent (controller : Controller) (commands : AddressCommands)
    (write : RowWrite) :
    controller.addresses (pixelsSent commands write outcome number) = [] := by
  rw [pixelsSent]
  split <;> rfl

/-- Of the addresses of a row write, those are sent whose command bytes are through. -/
theorem addresses_addressing (controller : Controller) (commands : AddressCommands)
    (maxColIdx : UInt16) (write : RowWrite) :
    controller.addresses
        (commandsSent outcome number (addressing commands maxColIdx write)) =
      (if outcome number = .ok then
        [(commands.columnAddress, write.colIdx.toNat, maxColIdx.toNat)] else []) ++
      if outcome (number + if outcome number = .ok then 2 else 1) = .ok then
        [(commands.pageAddress, write.rowIdx.toNat, write.rowIdx.toNat)] else [] := by
  rw [addressing, commandsSent, commandsSent, commandsSent, List.append_nil, addresses_append,
    addresses_sent, addresses_sent, length_addressSent]

theorem mem_addresses_addressing {controller : Controller} {commands : AddressCommands}
    {maxColIdx : UInt16} {write : RowWrite} {addresses : UInt8 × Nat × Nat}
    (isSent : addresses ∈ controller.addresses
      (commandsSent outcome number (addressing commands maxColIdx write))) :
    addresses = (commands.columnAddress, write.colIdx.toNat, maxColIdx.toNat) ∨
      addresses = (commands.pageAddress, write.rowIdx.toNat, write.rowIdx.toNat) := by
  have ofIte {condition : Prop} [Decidable condition] {item : UInt8 × Nat × Nat}
      (isItem : addresses ∈ if condition then [item] else []) : addresses = item := by
    split at isItem
    · exact List.mem_singleton.mp isItem
    · cases isItem
  rw [addresses_addressing, List.mem_append] at isSent
  rcases isSent with column | page
  · exact .inl (ofIte column)
  · exact .inr (ofIte page)

end Addresses

/-- The page of the row and nothing else, and columns of the panel from where the
row write starts, as many as it has pixels. -/
structure AddressesInside (width : UInt16) (write : RowWrite) (addresses : UInt8 × Nat × Nat) :
    Prop where
  columns : addresses.1 = columnAddressSet →
    addresses.2.1 = write.colIdx.toNat ∧ addresses.2.2 < width.toNat ∧
      addresses.2.1 + write.rowPixels.length ≤ addresses.2.2 + 1
  pages : addresses.1 = pageAddressSet →
    addresses.2.1 = write.rowIdx.toNat ∧ addresses.2.2 = write.rowIdx.toNat

/-- Whatever becomes of the writes, the addresses that a row write sends are
inside the panel. -/
def RowWindowInside (driver : DisplayDriver) (write : RowWrite) : Prop :=
  ∀ (bus : SpiBus) (controller : Controller), ∃ result, driver.writeRow bus write = .ok result ∧
    ∀ addresses ∈ controller.addresses (result.2.since bus),
      AddressesInside driver.getWidth write addresses

section Window

variable {width : UInt16} {write : RowWrite}

/-- The end that the drivers compute, for a row write within the panel. -/
theorem maxColIdx_within (some : 1 ≤ write.rowPixels.length)
    (inColumns : write.colIdx.toNat + write.rowPixels.length ≤ width.toNat) :
    ∃ colIdx, maxColIdx (width.toNat - 1) write = .ok colIdx ∧
      colIdx.toNat = max (width.toNat - 1) (write.colIdx.toNat + write.rowPixels.length) := by
  have width_lt := width.toNat_lt
  have count_eq := @staticCastInt_of_fits write.rowPixels.length (by omega)
  have end_eq : int (write.colIdx.toNat + staticCastInt write.rowPixels.length) =
      .ok (write.colIdx.toNat + write.rowPixels.length : Nat) := by
    rw [count_eq, ← Int.natCast_add, int_natCast, if_pos (by omega)]
  have ofInt (value : Nat) (fits : value < 2 ^ 16) : (UInt16.ofInt value).toNat = value := by
    have folded : (UInt16.ofInt value).toNat = ((value : Int) % 2 ^ 16).toNat % 2 ^ 16 :=
      UInt16.toNat_ofNat'
    omega
  refine ⟨_, by rw [maxColIdx, end_eq]; rfl, ?_⟩
  rw [show max ((width.toNat : Int) - 1) (write.colIdx.toNat + write.rowPixels.length : Nat) =
    (max (width.toNat - 1) (write.colIdx.toNat + write.rowPixels.length) : Nat) by omega]
  exact ofInt _ (by omega)

/-- The addresses of a row write on a bus. -/
theorem addressedRow_addresses {commands : AddressCommands} {lastColumn : Int} {bus : SpiBus}
    {colIdx : UInt16} (computed : maxColIdx lastColumn write = .ok colIdx)
    (controller : Controller) :
    ∃ result, writeAddressedRow commands lastColumn bus write = .ok result ∧
      controller.addresses (result.2.since bus) = controller.addresses
        (commandsSent bus.outcome bus.writes.length (addressing commands colIdx write)) := by
  rcases writeAddressedRow_returns commands bus computed with ⟨result, written⟩
  rcases writeAddressedRow_sent written with ⟨sameColIdx, sameComputed, since, _⟩
  cases computed.symm.trans sameComputed
  refine ⟨result, written, ?_⟩
  rw [since, addresses_append, addresses_pixelsSent, List.append_nil]

theorem addressedRow_inside_iff (some : 1 ≤ write.rowPixels.length)
    (inColumns : write.colIdx.toNat + write.rowPixels.length ≤ width.toNat) :
    (∀ (bus : SpiBus) (controller : Controller), ∃ result,
      writeAddressedRow ⟨columnAddressSet, pageAddressSet, memoryWrite⟩ (width.toNat - 1) bus
        write = .ok result ∧
      ∀ addresses ∈ controller.addresses (result.2.since bus),
        AddressesInside width write addresses) ↔
      write.colIdx.toNat + write.rowPixels.length < width.toNat := by
  rcases maxColIdx_within some inColumns with ⟨colIdx, computed, colIdx_eq⟩
  constructor
  · intro inside
    rcases inside (.idle .data) ⟨0, ⟨(0, 0), (0, 0)⟩⟩ with ⟨result, written, allInside⟩
    rcases addressedRow_addresses computed ⟨0, ⟨(0, 0), (0, 0)⟩⟩ with
      ⟨sameResult, sameWritten, addresses_eq⟩
    cases written.symm.trans sameWritten
    rw [addresses_eq, addresses_addressing] at allInside
    have columns := (allInside (columnAddressSet, write.colIdx.toNat, colIdx.toNat)
      List.mem_cons_self).columns rfl
    dsimp only at columns
    omega
  · intro notLast bus controller
    rcases addressedRow_addresses computed controller with ⟨result, written, addresses_eq⟩
    refine ⟨result, written, ?_⟩
    intro addresses isSent
    rw [addresses_eq] at isSent
    rcases mem_addresses_addressing isSent with rfl | rfl
    · refine ⟨fun _ => ⟨rfl, ?_, ?_⟩, fun isPage => ?_⟩
      · dsimp only
        omega
      · dsimp only
        omega
      · cases isPage
    · refine ⟨fun isColumn => ?_, fun _ => ⟨rfl, rfl⟩⟩
      cases isColumn

theorem ILI9341.getWidth_toNat : ILI9341.getWidth.toNat = ILI9341.kDisplayWidth := by decide

/-- The drivers with an address window of 16 bits write their rows alike. -/
theorem writeRow_eq {driver : DisplayDriver} (addressed : ∀ config, driver ≠ .st7735 config)
    (bus : SpiBus) (write : RowWrite) :
    driver.writeRow bus write = writeAddressedRow
      ⟨columnAddressSet, pageAddressSet, memoryWrite⟩ (driver.getWidth.toNat - 1) bus write := by
  cases driver with
  | ili9341 config =>
      have width_eq : (DisplayDriver.ili9341 config).getWidth.toNat = ILI9341.kDisplayWidth :=
        ILI9341.getWidth_toNat
      rw [width_eq]
      rfl
  | st7735 config => exact absurd rfl (addressed config)
  | st7789 config => rfl

theorem rowWindowInside_of_within_iff {driver : DisplayDriver}
    (addressed : ∀ config, driver ≠ .st7735 config)
    (within : NearestNeighbor.Within ⟨driver.getWidth, driver.getHeight⟩ write) :
    driver.RowWindowInside write ↔
      write.colIdx.toNat + write.rowPixels.length < driver.getWidth.toNat := by
  rw [RowWindowInside]
  simp only [writeRow_eq addressed]
  exact addressedRow_inside_iff within.2.1 within.2.2

/-- A row write within the panel addresses a window inside of it exactly if it is not
the last of its row. The row writes of the resize are within the panel. -/
theorem rowWindowInside_iff (driver : DisplayDriver)
    (addressed : ∀ config, driver ≠ .st7735 config) :
    (∀ write, NearestNeighbor.Within ⟨driver.getWidth, driver.getHeight⟩ write →
      (driver.RowWindowInside write ↔
        write.colIdx.toNat + write.rowPixels.length < driver.getWidth.toNat)) ∧
    ∀ (input : NearestNeighbor.Input) (status : Status) (writes : List RowWrite),
      input.size = ⟨driver.getWidth, driver.getHeight⟩ →
      NearestNeighbor.updateNearestNeighbor input = .ok (status, writes) →
      ∀ write ∈ writes, NearestNeighbor.Within ⟨driver.getWidth, driver.getHeight⟩ write := by
  refine ⟨fun write within => rowWindowInside_of_within_iff addressed within, ?_⟩
  intro input status writes panel updated
  rw [← panel]
  exact NearestNeighbor.updateNearestNeighbor_within updated

end Window

def wideDriver : DisplayDriver := .ili9341 ⟨.spi, false, 0⟩

theorem wideDriver_addressed (config : ST7735.Config) : wideDriver ≠ .st7735 config := by
  intro same
  cases same

/-- The first and the last piece of a row of the ILI9341. -/
theorem rowWindowInside_iff_wide :
    wideDriver.RowWindowInside ⟨List.replicate 80 7, 5, 0⟩ ∧
      ¬wideDriver.RowWindowInside ⟨List.replicate 80 7, 5, 240⟩ := by
  have decided := (rowWindowInside_iff wideDriver wideDriver_addressed).1
  refine ⟨(decided _ (by decide)).mpr (by decide), ?_⟩
  rw [decided _ (by decide)]
  decide

/-- The last piece of a row ends at column 320, which the panel does not have. -/
theorem rowWindow_pastPanel :
    ¬∀ (driver : DisplayDriver) (write : RowWrite), (∀ config, driver ≠ .st7735 config) →
      NearestNeighbor.Within ⟨driver.getWidth, driver.getHeight⟩ write →
      driver.RowWindowInside write := by
  intro always
  have within : NearestNeighbor.Within ⟨wideDriver.getWidth, wideDriver.getHeight⟩
      ⟨List.replicate 80 7, 5, 240⟩ := by decide
  have inside := always wideDriver ⟨List.replicate 80 7, 5, 240⟩ wideDriver_addressed within
  rw [rowWindowInside_of_within_iff wideDriver_addressed within] at inside
  revert inside
  decide

end PigweedExperimental.DisplayDriver
