import SpecterCloud.Core.PythonText
import SpecterCloud.Models.Fleet

/-! The texts that Python's `int(text, 16)` reads as a number. -/

namespace SpecterCloud.Core

open SpecterCloud.Models

/-- The zeros of the decimal digits of Unicode outside ASCII; nine more digits follow each. -/
def decimalZeros : List UInt32 :=
  [
    0x660, 0x6f0, 0x7c0, 0x966, 0x9e6, 0xa66, 0xae6, 0xb66, 0xbe6, 0xc66, 0xce6, 0xd66,
    0xde6, 0xe50, 0xed0, 0xf20, 0x1040, 0x1090, 0x17e0, 0x1810, 0x1946, 0x19d0, 0x1a80,
    0x1a90, 0x1b50, 0x1bb0, 0x1c40, 0x1c50, 0xa620, 0xa8d0, 0xa900, 0xa9d0, 0xa9f0,
    0xaa50, 0xabf0, 0xff10, 0x104a0, 0x10d30, 0x11066, 0x110f0, 0x11136, 0x111d0,
    0x112f0, 0x11450, 0x114d0, 0x11650, 0x116c0, 0x11730, 0x118e0, 0x11950, 0x11c50,
    0x11d50, 0x11da0, 0x11f50, 0x16a60, 0x16ac0, 0x16b50, 0x1d7ce, 0x1d7d8, 0x1d7e2,
    0x1d7ec, 0x1d7f6, 0x1e140, 0x1e2f0, 0x1e4f0, 0x1e950, 0x1fbf0
  ]

/-- `int` reads the text as ASCII: white space as blanks, and decimal digits of all scripts. -/
def asciiOf (c : Char) : Char :=
  if c.val < 127 then
    c
  else if isSpace c then
    ' '
  else
    match decimalZeros.find? (fun zero => zero ≤ c.val && c.val < zero + 10) with
    | some zero => Char.ofNat (0x30 + (c.val - zero).toNat)
    | none => '?'

/-- The blanks of ASCII, without the separators that `str.isspace` counts as well. -/
def isBlank (c : Char) : Bool := c = ' ' || (0x09 ≤ c.val && c.val ≤ 0x0d)

def isHexDigit (c : Char) : Bool :=
  ('0' ≤ c && c ≤ '9') || ('a' ≤ c && c ≤ 'f') || ('A' ≤ c && c ≤ 'F')

/-- Hexadecimal digits with single underscores between them; the next one may have to be a
digit.
-/
def digitsFrom (digitNext : Bool) : List Char → Bool
  | [] => !digitNext
  | c :: rest =>
      if c = '_' then !digitNext && digitsFrom true rest else isHexDigit c && digitsFrom false rest

/-- The optional sign. -/
def unsigned : List Char → List Char
  | '+' :: rest => rest
  | '-' :: rest => rest
  | text => text

/-- The optional `0x` of base 16, and an underscore after it. -/
def unmarked : List Char → List Char
  | '0' :: 'x' :: '_' :: rest => rest
  | '0' :: 'x' :: rest => rest
  | '0' :: 'X' :: '_' :: rest => rest
  | '0' :: 'X' :: rest => rest
  | text => text

/-- `int(text, 16)` raises no `ValueError`. -/
def intParses (text : String) : Bool :=
  let ascii := text.toList.map asciiOf
  let trimmed := ((ascii.dropWhile isBlank).reverse.dropWhile isBlank).reverse
  digitsFrom true (unmarked (unsigned trimmed))

-----------------------------------------------------------------------------------------
-- Texts that parse
-----------------------------------------------------------------------------------------

/-- Digits follow one another without underscores, by induction on the text. -/
theorem digitsFrom_hex {digitNext : Bool} {text : List Char}
    (hex : ∀ c ∈ text, isHexDigit c = true ∧ c ≠ '_') (present : digitNext = true → text ≠ [])
    : digitsFrom digitNext text = true := by
  induction text generalizing digitNext with
  | nil =>
      cases digitNext with
      | false => rfl
      | true => exact absurd rfl (present rfl)
  | cons c rest ih =>
      obtain ⟨digit, other⟩ := hex c List.mem_cons_self
      have later : digitsFrom false rest = true :=
        ih (fun d member => hex d (.tail _ member)) nofun
      simp [digitsFrom, other, digit, later]

/-- What a hexadecimal digit is to the parser. -/
structure PlainDigit (c : Char) : Prop where
  ascii : asciiOf c = c
  blank : isBlank c = false
  digit : isHexDigit c = true
  underscore : c ≠ '_'
  plus : c ≠ '+'
  minus : c ≠ '-'
  lowerMark : c ≠ 'x'
  upperMark : c ≠ 'X'

/-- Hexadecimal digits are ASCII. -/
theorem asciiOf_hex {c : Char} (digit : isHexDigit c = true) : asciiOf c = c := by
  refine if_pos ?_
  simp only [isHexDigit, Bool.or_eq_true, Bool.and_eq_true, decide_eq_true_eq] at digit
  rcases digit with (⟨_, high⟩ | ⟨_, high⟩) | ⟨_, high⟩
  all_goals exact UInt32.lt_of_le_of_lt (Char.le_def.mp high) (by decide)

/-- Blanks come before the digits in ASCII. -/
theorem not_isBlank_of_hex {c : Char} (digit : isHexDigit c = true) : isBlank c = false := by
  have zero : ('0' : Char).val ≤ c.val := by
    simp only [isHexDigit, Bool.or_eq_true, Bool.and_eq_true, decide_eq_true_eq] at digit
    rcases digit with (⟨low, _⟩ | ⟨low, _⟩) | ⟨low, _⟩
    · exact low
    · exact UInt32.le_trans (by decide) (Char.le_def.mp low)
    · exact UInt32.le_trans (by decide) (Char.le_def.mp low)
  cases blank : isBlank c with
  | false => rfl
  | true =>
      have space : c.val ≤ (' ' : Char).val := by
        simp only [isBlank, Bool.or_eq_true, Bool.and_eq_true, decide_eq_true_eq] at blank
        rcases blank with rfl | ⟨_, high⟩
        · exact UInt32.le_refl _
        · exact UInt32.le_trans high (by decide)
      exact absurd (UInt32.le_trans zero space) (by decide)

theorem plainDigit_of_hex {c : Char} (digit : isHexDigit c = true) : PlainDigit c := by
  refine ⟨asciiOf_hex digit, not_isBlank_of_hex digit, digit, ?_, ?_, ?_, ?_, ?_⟩
  all_goals
    rintro rfl
    revert digit
    decide

theorem plainDigit_of_mem {c : Char} (digit : c ∈ hexDigits) : PlainDigit c := by
  have checked : hexDigits.all isHexDigit = true := by decide
  exact plainDigit_of_hex (List.all_eq_true.mp checked c digit)

/-- A text whose characters are not blank is not trimmed. -/
theorem dropWhile_isBlank {text : List Char} (dense : ∀ c ∈ text, isBlank c = false)
    : text.dropWhile isBlank = text := by
  cases text with
  | nil => rfl
  | cons c rest => simp [dense c List.mem_cons_self]

/-- Digits have no sign. -/
theorem unsigned_digits {text : List Char}
    (hex : ∀ c ∈ text, isHexDigit c = true)
    : unsigned text = text := by
  unfold unsigned
  split
  · exact absurd rfl (plainDigit_of_hex (hex '+' List.mem_cons_self)).plus
  · exact absurd rfl (plainDigit_of_hex (hex '-' List.mem_cons_self)).minus
  · rfl

/-- Nor have they a mark. -/
theorem unmarked_hex {text : List Char} (hex : ∀ c ∈ text, isHexDigit c = true)
    : unmarked text = text := by
  unfold unmarked
  split
  · exact absurd rfl (plainDigit_of_hex (hex 'x' (by simp))).lowerMark
  · exact absurd rfl (plainDigit_of_hex (hex 'x' (by simp))).lowerMark
  · exact absurd rfl (plainDigit_of_hex (hex 'X' (by simp))).upperMark
  · exact absurd rfl (plainDigit_of_hex (hex 'X' (by simp))).upperMark
  · rfl

/-- Every text of lower-case hexadecimal digits parses. -/
theorem intParses_hexDigits {text : String} (present : text ≠ "")
    (digits : ∀ c ∈ text.toList, c ∈ hexDigits)
    : intParses text = true := by
  have plain : ∀ c ∈ text.toList, PlainDigit c :=
    fun c member => plainDigit_of_mem (digits c member)
  have hex : ∀ c ∈ text.toList, isHexDigit c = true := fun c member => (plain c member).digit
  have ascii : text.toList.map asciiOf = text.toList := by
    refine (List.map_congr_left fun c member => (plain c member).ascii).trans ?_
    exact List.map_id' _
  have dense : ∀ c ∈ text.toList, isBlank c = false := fun c member => (plain c member).blank
  unfold intParses
  simp only [ascii]
  rw [dropWhile_isBlank dense, dropWhile_isBlank (by simpa using dense), List.reverse_reverse,
    unsigned_digits hex, unmarked_hex hex]
  refine digitsFrom_hex (fun c member => ⟨hex c member, (plain c member).underscore⟩) ?_
  exact fun _ empty => present (String.toList_eq_nil_iff.mp empty)

/-- The characters of digits with underscores, by induction on the text. -/
theorem digitsFrom_mem {digitNext : Bool} {text : List Char} {c : Char}
    (parsed : digitsFrom digitNext text = true) (member : c ∈ text)
    : c = '_' ∨ isHexDigit c = true := by
  induction text generalizing digitNext with
  | nil => cases member
  | cons d rest ih =>
      unfold digitsFrom at parsed
      split at parsed
      · rename_i underscore
        rcases List.mem_cons.mp member with rfl | later
        · exact .inl underscore
        · exact ih (Bool.and_eq_true_iff.mp parsed).2 later
      · rcases List.mem_cons.mp member with rfl | later
        · exact .inr (Bool.and_eq_true_iff.mp parsed).1
        · exact ih (Bool.and_eq_true_iff.mp parsed).2 later

/-- What is no blank survives the trimming. -/
theorem mem_dropWhile_isBlank {text : List Char} {c : Char} (member : c ∈ text)
    (dense : isBlank c = false)
    : c ∈ text.dropWhile isBlank := by
  induction text with
  | nil => cases member
  | cons d rest ih =>
      rw [List.dropWhile_cons]
      split
      · rename_i blank
        rcases List.mem_cons.mp member with rfl | later
        · rw [blank] at dense
          cases dense
        · exact ih later
      · exact member

/-- NUL is part of neither sign nor mark. -/
theorem nul_mem_unmarked {text : List Char} (member : '\x00' ∈ text)
    : '\x00' ∈ unmarked (unsigned text) := by
  have kept : '\x00' ∈ unsigned text := by
    unfold unsigned
    split <;> simpa using member
  generalize unsigned text = rest at kept
  unfold unmarked
  split <;> simpa using kept

/-- A text that parses has no NUL. -/
theorem intParses_storable {text : String} (parsed : intParses text = true) : Storable text := by
  intro nul
  have ascii : '\x00' ∈ text.toList.map asciiOf := List.mem_map.mpr ⟨_, nul, by decide⟩
  have dense : isBlank '\x00' = false := by decide
  have left := mem_dropWhile_isBlank ascii dense
  have right := mem_dropWhile_isBlank (List.mem_reverse.mpr left) dense
  have trimmed := nul_mem_unmarked (List.mem_reverse.mpr right)
  rcases digitsFrom_mem parsed trimmed with underscore | digit
  · exact absurd underscore (by decide)
  · exact absurd digit (by decide)

/-- Beside the plain digits `int` reads a sign, a mark, blanks and digits of other scripts. -/
example
    : intParses "0a1b2c3d" = true ∧ intParses " +0Xff\t" = true ∧ intParses "\u0663" = true
      ∧ intParses "0x" = false ∧ intParses "1__2" = false := by
  decide

end SpecterCloud.Core
