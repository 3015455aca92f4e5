import Mathlib.Data.List.ProdSigma

namespace PigweedExperimental

/-! # Row-major order

Two nested counting loops visit the places of a table row by row. What they
produce is found again by the place's index: its row times the number of
columns, plus its column. Rows may be tables themselves.
-/

theorem rowMajor_lt {rows columns row column : Nat} (row_lt : row < rows)
    (column_lt : column < columns) : row * columns + column < rows * columns := by
  calc row * columns + column
    _ < row * columns + columns := Nat.add_lt_add_left column_lt _
    _ = (row + 1) * columns := (Nat.succ_mul row columns).symm
    _ ≤ rows * columns := Nat.mul_le_mul_right _ row_lt

theorem rowMajor_div {columns row column : Nat} (column_lt : column < columns) :
    (row * columns + column) / columns = row := by
  rw [Nat.mul_comm, Nat.mul_add_div (Nat.zero_lt_of_lt column_lt), Nat.div_eq_of_lt column_lt,
    Nat.add_zero]

theorem rowMajor_mod {columns row column : Nat} (column_lt : column < columns) :
    (row * columns + column) % columns = column := by
  rw [Nat.mul_comm, Nat.mul_add_mod, Nat.mod_eq_of_lt column_lt]

theorem row_lt {rows columns index : Nat} (index_lt : index < rows * columns) :
    index / columns < rows :=
  Nat.div_lt_of_lt_mul (Nat.lt_of_lt_of_eq index_lt (Nat.mul_comm ..))

theorem column_lt {rows columns index : Nat} (index_lt : index < rows * columns) :
    index % columns < columns :=
  Nat.mod_lt _ (Nat.pos_of_mul_pos_left (Nat.zero_lt_of_lt index_lt))

/-- The places that nested loops visit, in their order. -/
def places (rows columns : Nat) : List (Nat × Nat) :=
  List.product (List.range rows) (List.range columns)

/-- Rows of equal length, one after the other. -/
theorem flatMap_rows (value : Nat → Nat → Item) (rows columns : Nat) :
    (List.range rows).flatMap (fun row => (List.range columns).map (value row)) =
      (List.range (rows * columns)).map
        fun index => value (index / columns) (index % columns) := by
  induction rows with
  | zero => rw [Nat.zero_mul]; rfl
  | succ rows induction =>
      rw [List.range_succ, List.flatMap_append, induction, List.flatMap_singleton,
        Nat.succ_mul, List.range_add, List.map_append, List.map_map]
      congr 1
      apply List.map_congr_left
      intro column inRow
      rw [List.mem_range] at inRow
      rw [Function.comp_apply, rowMajor_div inRow, rowMajor_mod inRow]

/-- What comes twice in a row is found at half the index. -/
theorem flatMap_twice (value : Nat → List Item) (count : Nat) :
    (List.range count).flatMap (fun index => value index ++ value index) =
      (List.range (2 * count)).flatMap fun index => value (index / 2) := by
  induction count with
  | zero => rfl
  | succ count induction =>
      have odd : (2 * count + 1) / 2 = count := by omega
      rw [Nat.mul_succ, List.range_succ, List.range_succ, List.range_succ]
      simp only [List.flatMap_append, List.flatMap_singleton, List.append_assoc, induction, odd,
        Nat.mul_div_cancel_left count Nat.two_pos]

theorem places_eq (rows columns : Nat) :
    places rows columns =
      (List.range (rows * columns)).map fun index => (index / columns, index % columns) :=
  flatMap_rows Prod.mk rows columns

/-- A table of rows of equal length, flattened and looked up by its index. -/
theorem getElem?_flatten_map {value : Nat → Nat → Item} {rows columns row column : Nat}
    (row_lt : row < rows) (column_lt : column < columns) :
    ((List.range rows).map fun row => (List.range columns).map (value row)).flatten[
      row * columns + column]? = some (value row column) := by
  rw [← List.flatMap_def, flatMap_rows, List.getElem?_map,
    List.getElem?_range (rowMajor_lt row_lt column_lt), Option.map_some,
    rowMajor_div column_lt, rowMajor_mod column_lt]

theorem length_flatten_map {value : Nat → Nat → Item} {rows columns : Nat} :
    ((List.range rows).map fun row => (List.range columns).map (value row)).flatten.length =
      rows * columns := by
  rw [← List.flatMap_def, flatMap_rows, List.length_map, List.length_range]

/-- A loop whose body never fails produces what its body does. -/
theorem mapM_eq_map {items : List Item} {body : Item → Option Result} {value : Item → Result}
    (succeeds : ∀ item ∈ items, body item = some (value item)) :
    items.mapM body = some (items.map value) := by
  induction items with
  | nil => rfl
  | cons item items induction =>
      rw [List.forall_mem_cons] at succeeds
      rw [List.mapM_cons, succeeds.1, induction succeeds.2]
      rfl

/-- Nested loops whose body never fails. -/
theorem mapM_places {rows columns : Nat} {body : Nat × Nat → Option Result}
    {value : Nat → Result}
    (succeeds : ∀ index < rows * columns,
      body (index / columns, index % columns) = some (value index)) :
    (places rows columns).mapM body = some ((List.range (rows * columns)).map value) := by
  rw [places_eq, List.mapM_map]
  apply mapM_eq_map
  intro index inRange
  exact succeeds index (List.mem_range.mp inRange)

end PigweedExperimental
