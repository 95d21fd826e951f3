import SpecterCloud.Models.Fleet
import Mathlib.Data.Nat.Digits.Lemmas

/-! `str` of a `uuid.UUID`, which no two ids share. -/

namespace SpecterCloud.Core

open SpecterCloud.Models

/-- `UUID.hex`: `'%032x' % self.int`. -/
def uuidHex (id : UUID) : List Char := (Nat.digitsAppend 16 32 id.toNat).reverse.map Nat.digitChar

/-- Digits in groups of the given sizes, each with a hyphen after it, and the rest. -/
def hyphenated : List Nat → List Char → List Char
  | [], digits => digits
  | size :: sizes, digits => digits.take size ++ '-' :: hyphenated sizes (digits.drop size)

/-- `UUID.__str__`. -/
def uuidText (id : UUID) : String := .ofList (hyphenated [8, 4, 4, 4] (uuidHex id))

/-- A digit is not a hyphen, and can be read back. -/
theorem digitChar_hex {digit : Nat} (below : digit < 16)
    : digit.digitChar ≠ '-' ∧ hexDigits.idxOf digit.digitChar = digit := by
  revert digit
  decide

theorem uuidHex_hyphen {id : UUID} {c : Char} (member : c ∈ uuidHex id) : c ≠ '-' := by
  obtain ⟨digit, written, rfl⟩ := List.mem_map.mp member
  have below := Nat.lt_of_mem_digitsAppend (by decide) 32 digit (List.mem_reverse.mp written)
  exact (digitChar_hex below).1

/-- The digits stand for the number that they were written from. -/
theorem uuidHex_value (id : UUID)
    : Nat.ofDigits 16 ((uuidHex id).reverse.map hexDigits.idxOf) = id.toNat := by
  have read
      : (uuidHex id).reverse.map hexDigits.idxOf = Nat.digitsAppend 16 32 id.toNat := by
    rw [uuidHex, ← List.map_reverse, List.reverse_reverse, List.map_map]
    refine (List.map_congr_left fun digit written => ?_).trans (List.map_id _)
    exact (digitChar_hex (Nat.lt_of_mem_digitsAppend (by decide) 32 digit written)).2
  rw [read, Nat.digitsAppend, Nat.ofDigits_append_replicate_zero, Nat.ofDigits_digits]

/-- The digits are what is left without the hyphens, by induction on the groups. -/
theorem hyphenated_digits (sizes : List Nat) {digits : List Char}
    (plain : ∀ c ∈ digits, c ≠ '-')
    : (hyphenated sizes digits).filter (fun c => c ≠ '-') = digits := by
  induction sizes generalizing digits with
  | nil => exact List.filter_eq_self.mpr fun c member => decide_eq_true (plain c member)
  | cons size sizes ih =>
      have head : (digits.take size).filter (fun c => c ≠ '-') = digits.take size :=
        List.filter_eq_self.mpr fun c member =>
          decide_eq_true (plain c (List.mem_of_mem_take member))
      have rest := ih fun c (member : c ∈ digits.drop size) =>
        plain c (List.mem_of_mem_drop member)
      rw [hyphenated, List.filter_append, List.filter_cons_of_neg (by simp), head, rest,
        List.take_append_drop]

theorem uuidText_injective : Function.Injective uuidText := by
  intro left right same
  have digits : uuidHex left = uuidHex right := by
    have written
        : hyphenated [8, 4, 4, 4] (uuidHex left) = hyphenated [8, 4, 4, 4] (uuidHex right) :=
      String.ofList_injective same
    rw [← hyphenated_digits [8, 4, 4, 4] (fun _ => uuidHex_hyphen), written,
      hyphenated_digits [8, 4, 4, 4] (fun _ => uuidHex_hyphen)]
  refine BitVec.eq_of_toNat_eq ?_
  rw [← uuidHex_value, digits, uuidHex_value]

example : uuidText 3 = "00000000-0000-0000-0000-000000000003" := by decide

end SpecterCloud.Core
