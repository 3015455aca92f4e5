import Mathlib.Algebra.Order.Ring.Int
import Mathlib.Data.List.Induction
import Mathlib.Data.Nat.Bits

namespace PigweedExperimental

/-! # Numerals

A numeral is written with the most significant digit first. Reading one stops at
the character that ends it, and fails at one that is no digit.
-/

def digitValue (base : Nat) (char : Char) : Option Nat :=
  let value :=
    if '0' ≤ char ∧ char ≤ '9' then char.toNat - '0'.toNat
    else if 'a' ≤ char ∧ char ≤ 'f' then char.toNat - 'a'.toNat + 10
    else base
  if value < base then some value else none

/-- The rest of a numeral whose earlier digits have been read. -/
def readDigits (base : Nat) (terminator : Char) (value : Nat) : List Char → Option Nat
  | [] => none
  | char :: rest =>
      if char = terminator then
        some value
      else
        (digitValue base char).bind fun digit =>
          readDigits base terminator (base * value + digit) rest

/-- A numeral has at least one digit. -/
def readNumeral (base : Nat) (terminator : Char) : List Char → Option Nat
  | [] => none
  | char :: rest =>
      (digitValue base char).bind fun digit => readDigits base terminator digit rest

/-- The digits of a number, filled up with zeros to a width. -/
def padded (base width value : Nat) : List Char := (Nat.toDigits base value).leftpad width '0'

section Digits

variable {base : Nat} {terminator : Char}

theorem digitValue_digitChar {digit : Nat} (base_le : base ≤ 16) (digit_lt : digit < base) :
    digitValue base digit.digitChar = some digit := by
  have inTable : ∀ value < 16, ∀ bound ≤ 16, value < bound →
      digitValue bound value.digitChar = some value := by decide
  exact inTable digit (by omega) base base_le digit_lt

/-- One more digit, if it does not end the numeral. -/
theorem readDigits_cons {digit value : Nat} {rest : List Char} (base_le : base ≤ 16)
    (digit_lt : digit < base) (notEnd : digitValue base terminator = none) :
    readDigits base terminator value (digit.digitChar :: rest) =
      readDigits base terminator (base * value + digit) rest := by
  have isDigit := digitValue_digitChar base_le digit_lt
  have another : digit.digitChar ≠ terminator := by
    intro same
    rw [same, notEnd] at isDigit
    cases isDigit
  rw [readDigits, if_neg another, isDigit]
  rfl

/-- A written number is read as what it adds to the digits before it. -/
theorem readDigits_toDigits (base_gt : 1 < base) (base_le : base ≤ 16)
    (notEnd : digitValue base terminator = none) (number : Nat) :
    ∃ length, ∀ value rest,
      readDigits base terminator value (Nat.toDigits base number ++ rest) =
        readDigits base terminator (base ^ length * value + number) rest := by
  induction number using Nat.strongRecOn with
  | ind number induction =>
      by_cases single : number < base
      · refine ⟨1, ?_⟩
        intro value rest
        rw [Nat.toDigits_of_lt_base single, List.singleton_append,
          readDigits_cons base_le single notEnd, Nat.pow_one]
      · rw [Nat.not_lt] at single
        rcases induction (number / base) (Nat.div_lt_self (by omega) base_gt) with
          ⟨length, read⟩
        refine ⟨length + 1, ?_⟩
        intro value rest
        have last : number % base < base := Nat.mod_lt _ (by omega)
        have total : base * (base ^ length * value + number / base) + number % base =
            base ^ (length + 1) * value + number := by
          rw [Nat.mul_add, Nat.add_assoc, Nat.div_add_mod, Nat.pow_succ', Nat.mul_assoc]
        rw [Nat.toDigits_of_base_le base_gt single, List.append_assoc, read,
          List.singleton_append, readDigits_cons base_le last notEnd, total]

theorem readDigits_zeros (base_pos : 0 < base) (base_le : base ≤ 16)
    (notEnd : digitValue base terminator = none) (count : Nat) (rest : List Char) :
    readDigits base terminator 0 (List.replicate count '0' ++ rest) =
      readDigits base terminator 0 rest := by
  induction count with
  | zero => rfl
  | succ count induction =>
      have zero : ('0' : Char) = Nat.digitChar 0 := rfl
      rw [List.replicate_succ, List.cons_append, zero, readDigits_cons base_le base_pos notEnd]
      exact induction

theorem toDigits_head (base_gt : 1 < base) (number : Nat) :
    ∃ digit < base, ∃ rest, Nat.toDigits base number = digit.digitChar :: rest := by
  induction number using Nat.strongRecOn with
  | ind number induction =>
      by_cases single : number < base
      · exact ⟨number, single, [], Nat.toDigits_of_lt_base single⟩
      · rw [Nat.not_lt] at single
        rcases induction (number / base) (Nat.div_lt_self (by omega) base_gt) with
          ⟨digit, digit_lt, rest, isHead⟩
        refine ⟨digit, digit_lt, rest ++ [(number % base).digitChar], ?_⟩
        rw [Nat.toDigits_of_base_le base_gt single, isHead, List.cons_append]

theorem padded_head (base_gt : 1 < base) (width number : Nat) :
    ∃ digit < base, ∃ rest, padded base width number = digit.digitChar :: rest := by
  rw [padded, List.leftpad]
  cases width - (Nat.toDigits base number).length with
  | zero => exact toDigits_head base_gt number
  | succ count =>
      exact ⟨0, by omega, List.replicate count '0' ++ Nat.toDigits base number, rfl⟩

/-- What is written is read back. -/
theorem readNumeral_padded (base_gt : 1 < base) (base_le : base ≤ 16)
    (notEnd : digitValue base terminator = none) (width number : Nat) (rest : List Char) :
    readNumeral base terminator (padded base width number ++ terminator :: rest) =
      some number := by
  rcases padded_head base_gt width number with ⟨digit, digit_lt, others, isHead⟩
  rcases readDigits_toDigits base_gt base_le notEnd number with ⟨length, read⟩
  calc readNumeral base terminator (padded base width number ++ terminator :: rest)
    _ = readDigits base terminator 0 (padded base width number ++ terminator :: rest) := by
        rw [isHead, List.cons_append, readDigits_cons base_le digit_lt notEnd, readNumeral,
          digitValue_digitChar base_le digit_lt, Nat.mul_zero, Nat.zero_add]
        rfl
    _ = readDigits base terminator (base ^ length * 0 + number) (terminator :: rest) := by
        rw [padded, List.leftpad, List.append_assoc,
          readDigits_zeros (by omega) base_le notEnd, read]
    _ = some number := by
        rw [readDigits, if_pos rfl, Nat.mul_zero, Nat.zero_add]

end Digits

section Bits

/-- The number with the given bits, the most significant one first. -/
def ofBits (bits : List Bool) : Nat := bits.foldl (fun value bit => value.bit bit) 0

theorem ofBits_append (bits : List Bool) (bit : Bool) :
    ofBits (bits ++ [bit]) = (ofBits bits).bit bit := by
  rw [ofBits, List.foldl_append]
  rfl

theorem ofBits_lt (bits : List Bool) : ofBits bits < 2 ^ bits.length := by
  induction bits using List.reverseRecOn with
  | nil => exact Nat.one_pos
  | append_singleton bits bit induction =>
      have bit_le := bit.toNat_le
      rw [ofBits_append, Nat.bit_val, List.length_append, List.length_singleton, Nat.pow_succ]
      omega

theorem testBit_ofBits {bits : List Bool} {index : Nat} (inRange : index < bits.length) :
    (ofBits bits).testBit (bits.length - 1 - index) = bits[index] := by
  induction bits using List.reverseRecOn with
  | nil => cases inRange
  | append_singleton bits bit induction =>
      have length_eq : (bits ++ [bit]).length = bits.length + 1 := by
        rw [List.length_append, List.length_singleton]
      rw [length_eq] at inRange
      rw [ofBits_append, length_eq, Nat.add_sub_cancel]
      by_cases isLast : index = bits.length
      · subst isLast
        rw [Nat.sub_self, Nat.testBit_bit_zero, List.getElem_concat_length rfl]
      · have earlier : index < bits.length := by omega
        rw [show bits.length - index = (bits.length - 1 - index) + 1 by omega,
          Nat.testBit_bit_succ, induction earlier, List.getElem_append_left earlier]

theorem readDigits_bits {terminator : Char} (notEnd : digitValue 2 terminator = none)
    (bits : List Bool) (value : Nat) (rest : List Char) :
    readDigits 2 terminator value
        (bits.map (fun bit => bit.toNat.digitChar) ++ terminator :: rest) =
      some (bits.foldl (fun value bit => value.bit bit) value) := by
  induction bits generalizing value with
  | nil => exact if_pos rfl
  | cons bit bits induction =>
      rw [List.map_cons, List.cons_append, readDigits_cons (by decide) bit.toNat_lt notEnd,
        induction, List.foldl_cons, Nat.bit_val]

/-- Bits written as digits are read as their number. -/
theorem readNumeral_bits {terminator : Char} (notEnd : digitValue 2 terminator = none)
    {bits : List Bool} (nonempty : bits ≠ []) (rest : List Char) :
    readNumeral 2 terminator (bits.map (fun bit => bit.toNat.digitChar) ++ terminator :: rest) =
      some (ofBits bits) := by
  cases bits with
  | nil => exact absurd rfl nonempty
  | cons bit bits =>
      rw [List.map_cons, List.cons_append, readNumeral,
        digitValue_digitChar (by decide) bit.toNat_lt, Option.bind_some,
        readDigits_bits notEnd, ofBits, List.foldl_cons, Nat.bit_val, Nat.mul_zero,
        Nat.zero_add]

end Bits

end PigweedExperimental
