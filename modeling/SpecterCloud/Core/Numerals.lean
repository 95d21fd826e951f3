import SpecterCloud.Core.PythonInt

/-! The texts without underscores that `int(text, 16)` reads, as a grammar. -/

namespace SpecterCloud.Core

/-- The optional sign. -/
inductive Sign : List Char → Prop
  | none : Sign []
  | plus : Sign ['+']
  | minus : Sign ['-']

/-- The optional mark of base 16, whose zero can be of any script. -/
inductive Mark : List Char → Prop
  | none : Mark []
  | lower {zero : Char} (read : asciiOf zero = '0') : Mark [zero, 'x']
  | upper {zero : Char} (read : asciiOf zero = '0') : Mark [zero, 'X']

/-- A numeral of base 16 as `int` reads it, with digits of any script and blanks around it. -/
inductive Numeral : List Char → Prop
  | intro {left sign mark digits right : List Char}
      (leftBlank : ∀ c ∈ left, isBlank (asciiOf c) = true) (signed : Sign sign)
      (marked : Mark mark) (present : digits ≠ [])
      (hex : ∀ c ∈ digits, isHexDigit (asciiOf c) = true)
      (rightBlank : ∀ c ∈ right, isBlank (asciiOf c) = true)
      : Numeral (left ++ sign ++ mark ++ digits ++ right)

-----------------------------------------------------------------------------------------
-- Characters
-----------------------------------------------------------------------------------------

/-- A character that is not ASCII is read as a blank, a digit or a question mark. -/
theorem asciiOf_cases (c : Char)
    : asciiOf c = c ∨ asciiOf c ∈ ' ' :: '?' :: "0123456789".toList := by
  unfold asciiOf
  split
  · exact .inl rfl
  split
  · exact .inr (by decide)
  split
  · rename_i zero found
    refine .inr ?_
    have near := List.find?_some found
    simp only [Bool.and_eq_true, decide_eq_true_eq] at near
    have offset : (c.val - zero).toNat < 10 := by
      have below := UInt32.lt_iff_toNat_lt.mp near.2
      rw [UInt32.toNat_add] at below
      have wrapped := Nat.mod_le (zero.toNat + (10 : UInt32).toNat) (2 ^ 32)
      have ten : (10 : UInt32).toNat = 10 := rfl
      rw [UInt32.toNat_sub_of_le _ _ near.1]
      omega
    have checked
        : ∀ k < 10, Char.ofNat (0x30 + k) ∈ ' ' :: '?' :: "0123456789".toList := by
      decide
    exact checked _ offset
  · exact .inr (by decide)

/-- Signs, marks and underscores are read only where they stand. -/
theorem asciiOf_eq {c d : Char} (special : d ∉ ' ' :: '?' :: "0123456789".toList)
    (read : asciiOf c = d)
    : c = d := by
  rcases asciiOf_cases c with same | other
  · exact same.symm.trans read
  · exact absurd (read ▸ other) special

-----------------------------------------------------------------------------------------
-- What the parser cuts off
-----------------------------------------------------------------------------------------

/-- The text without the blanks around it. -/
def trimmed (text : List Char) : List Char :=
  ((text.dropWhile isBlank).reverse.dropWhile isBlank).reverse

/-- Only blanks are trimmed. -/
theorem trimmed_parts (text : List Char)
    : ∃ left right,
        text = left ++ trimmed text ++ right
        ∧ (∀ c ∈ left, isBlank c = true)
        ∧ ∀ c ∈ right, isBlank c = true := by
  refine ⟨text.takeWhile isBlank, ((text.dropWhile isBlank).reverse.takeWhile isBlank).reverse,
    ?_, ?_, ?_⟩
  · rw [trimmed, List.append_assoc, ← List.reverse_append, List.takeWhile_append_dropWhile,
      List.reverse_reverse, List.takeWhile_append_dropWhile]
  · exact List.all_eq_true.mp (List.all_takeWhile ..)
  · intro c member
    exact List.all_eq_true.mp (List.all_takeWhile ..) c (List.mem_reverse.mp member)

/-- All blanks around a text without blanks are trimmed. -/
theorem trimmed_append {left body right : List Char} (leftBlank : ∀ c ∈ left, isBlank c = true)
    (dense : ∀ c ∈ body, isBlank c = false) (present : body ≠ [])
    (rightBlank : ∀ c ∈ right, isBlank c = true)
    : trimmed (left ++ body ++ right) = body := by
  have kept : (body ++ right).dropWhile isBlank = body ++ right := by
    cases body with
    | nil => exact absurd rfl present
    | cons c rest => simp [dense c List.mem_cons_self]
  have denseReverse : ∀ c ∈ body.reverse, isBlank c = false :=
    fun c member => dense c (List.mem_reverse.mp member)
  have blankReverse : ∀ c ∈ right.reverse, isBlank c = true :=
    fun c member => rightBlank c (List.mem_reverse.mp member)
  rw [trimmed, List.append_assoc, List.dropWhile_append_of_pos leftBlank, kept,
    List.reverse_append, List.dropWhile_append_of_pos blankReverse,
    dropWhile_isBlank denseReverse, List.reverse_reverse]

/-- Only a sign is cut off in front. -/
theorem unsigned_parts (text : List Char)
    : ∃ sign, Sign sign ∧ text = sign ++ unsigned text := by
  unfold unsigned
  split
  · exact ⟨_, .plus, rfl⟩
  · exact ⟨_, .minus, rfl⟩
  · exact ⟨_, .none, rfl⟩

/-- After it, where there is no underscore, only a mark. -/
theorem unmarked_parts {text : List Char} (absent : '_' ∉ text)
    : ∃ mark,
        (mark = [] ∨ mark = ['0', 'x'] ∨ mark = ['0', 'X'])
        ∧ text = mark ++ unmarked text := by
  unfold unmarked
  split
  · simp at absent
  · exact ⟨_, .inr (.inl rfl), rfl⟩
  · simp at absent
  · exact ⟨_, .inr (.inr rfl), rfl⟩
  · exact ⟨_, .inl rfl, rfl⟩

/-- A mark before digits is cut off. -/
theorem unmarked_append {mark digits : List Char}
    (marked : mark = [] ∨ mark = ['0', 'x'] ∨ mark = ['0', 'X'])
    (hex : ∀ c ∈ digits, isHexDigit c = true)
    : unmarked (mark ++ digits) = digits := by
  rcases marked with rfl | rfl | rfl
  · exact unmarked_hex hex
  all_goals
    cases digits with
    | nil => rfl
    | cons c rest =>
        have other := (plainDigit_of_hex (hex c List.mem_cons_self)).underscore
        simp [unmarked, other]

/-- A sign before a mark and digits is cut off. -/
theorem unsigned_append {sign mark digits : List Char} (signed : Sign sign)
    (marked : mark = [] ∨ mark = ['0', 'x'] ∨ mark = ['0', 'X'])
    (hex : ∀ c ∈ digits, isHexDigit c = true)
    : unsigned (sign ++ (mark ++ digits)) = mark ++ digits := by
  cases signed with
  | plus => rfl
  | minus => rfl
  | none =>
      rcases marked with rfl | rfl | rfl
      · exact unsigned_digits hex
      · rfl
      · rfl

-----------------------------------------------------------------------------------------
-- The grammar
-----------------------------------------------------------------------------------------

/-- Signs are read as they stand. -/
theorem Sign.of_ascii {text : List Char} (signed : Sign (text.map asciiOf)) : Sign text := by
  generalize read : text.map asciiOf = ascii at signed
  cases signed with
  | none =>
      rw [List.map_eq_nil_iff.mp read]
      exact .none
  | plus =>
      obtain ⟨c, rfl, same⟩ := List.map_eq_singleton_iff.mp read
      rw [asciiOf_eq (by decide) same]
      exact .plus
  | minus =>
      obtain ⟨c, rfl, same⟩ := List.map_eq_singleton_iff.mp read
      rw [asciiOf_eq (by decide) same]
      exact .minus

/-- The zero of a mark can have been any zero. -/
theorem Mark.of_ascii {text : List Char}
    (marked
      : text.map asciiOf = [] ∨ text.map asciiOf = ['0', 'x'] ∨ text.map asciiOf = ['0', 'X'])
    : Mark text := by
  rcases marked with read | read | read
  · rw [List.map_eq_nil_iff.mp read]
    exact .none
  · obtain ⟨zero, rest, rfl, zeroRead, restRead⟩ := List.map_eq_cons_iff.mp read
    obtain ⟨c, rfl, same⟩ := List.map_eq_singleton_iff.mp restRead
    rw [asciiOf_eq (by decide) same]
    exact .lower zeroRead
  · obtain ⟨zero, rest, rfl, zeroRead, restRead⟩ := List.map_eq_cons_iff.mp read
    obtain ⟨c, rfl, same⟩ := List.map_eq_singleton_iff.mp restRead
    rw [asciiOf_eq (by decide) same]
    exact .upper zeroRead

/-- A mark as it is read. -/
theorem Mark.ascii {mark : List Char} (marked : Mark mark)
    : mark.map asciiOf = [] ∨ mark.map asciiOf = ['0', 'x'] ∨ mark.map asciiOf = ['0', 'X'] := by
  cases marked with
  | none => exact .inl rfl
  | lower read => exact .inr (.inl (by rw [List.map_cons, read]; rfl))
  | upper read => exact .inr (.inr (by rw [List.map_cons, read]; rfl))

theorem Sign.ascii {sign : List Char} (signed : Sign sign) : sign.map asciiOf = sign := by
  cases signed <;> rfl

theorem Sign.dense {sign : List Char} (signed : Sign sign) : ∀ c ∈ sign, isBlank c = false := by
  cases signed with
  | none => exact List.forall_mem_nil _
  | plus => exact List.forall_mem_singleton.mpr rfl
  | minus => exact List.forall_mem_singleton.mpr rfl

theorem markRead_dense {mark : List Char}
    (marked : mark = [] ∨ mark = ['0', 'x'] ∨ mark = ['0', 'X'])
    : ∀ c ∈ mark, isBlank c = false := by
  rcases marked with rfl | rfl | rfl
  · exact List.forall_mem_nil _
  all_goals exact List.forall_mem_cons.mpr ⟨rfl, List.forall_mem_singleton.mpr rfl⟩

/-- Digits that are read in a row, without underscores, are present and hexadecimal. -/
theorem digitsFrom_iff {digits : List Char} (absent : '_' ∉ digits)
    : digitsFrom true digits = true ↔ digits ≠ [] ∧ ∀ c ∈ digits, isHexDigit c = true := by
  constructor
  · intro parsed
    refine ⟨?_, ?_⟩
    · rintro rfl
      cases parsed
    · intro c member
      rcases digitsFrom_mem parsed member with rfl | digit
      · exact absurd member absent
      · exact digit
  · rintro ⟨present, hex⟩
    refine digitsFrom_hex (fun c member => ⟨hex c member, ?_⟩) (fun _ => present)
    exact (plainDigit_of_hex (hex c member)).underscore

/-- What is read as a numeral is one, part by part. -/
theorem Numeral.of_read {text : List Char} (absent : '_' ∉ text)
    (read : digitsFrom true (unmarked (unsigned (trimmed (text.map asciiOf)))) = true)
    : Numeral text := by
  obtain ⟨left, right, whole, leftBlank, rightBlank⟩ := trimmed_parts (text.map asciiOf)
  obtain ⟨sign, signed, afterSign⟩ := unsigned_parts (trimmed (text.map asciiOf))
  rw [afterSign] at whole
  have absentRead : '_' ∉ text.map asciiOf := by
    intro member
    obtain ⟨c, stands, same⟩ := List.mem_map.mp member
    exact absent (asciiOf_eq (by decide) same ▸ stands)
  have absentUnsigned : '_' ∉ unsigned (trimmed (text.map asciiOf)) := by
    intro member
    refine absentRead (whole ▸ ?_)
    simp [member]
  obtain ⟨mark, marked, afterMark⟩ := unmarked_parts absentUnsigned
  rw [afterMark] at whole absentUnsigned
  generalize unmarked (unsigned (trimmed (text.map asciiOf))) = digits
    at read whole absentUnsigned
  obtain ⟨present, hex⟩ :=
    (digitsFrom_iff (fun member => absentUnsigned (List.mem_append_right mark member))).mp read
  -- each part of the ASCII text is the image of a part of the text
  obtain ⟨front, rightText, rfl, frontRead, rfl⟩ := List.map_eq_append_iff.mp whole
  obtain ⟨leftText, body, rfl, rfl, bodyRead⟩ := List.map_eq_append_iff.mp frontRead
  obtain ⟨signText, rest, rfl, rfl, restRead⟩ := List.map_eq_append_iff.mp bodyRead
  obtain ⟨markText, digitsText, rfl, rfl, rfl⟩ := List.map_eq_append_iff.mp restRead
  rw [show leftText ++ (signText ++ (markText ++ digitsText)) ++ rightText
      = leftText ++ signText ++ markText ++ digitsText ++ rightText by simp]
  refine .intro ?_ (.of_ascii signed) (.of_ascii marked) ?_ ?_ ?_
  · exact fun c member => leftBlank _ (List.mem_map_of_mem member)
  · exact fun empty => present (by rw [empty, List.map_nil])
  · exact fun c member => hex _ (List.mem_map_of_mem member)
  · exact fun c member => rightBlank _ (List.mem_map_of_mem member)

/-- A numeral has no underscore. -/
theorem Numeral.absent {text : List Char} (numeral : Numeral text) : '_' ∉ text := by
  obtain ⟨leftBlank, signed, marked, _, hex, rightBlank⟩ := numeral
  have noBlank : isBlank (asciiOf '_') ≠ true := by decide
  have noDigit : isHexDigit (asciiOf '_') ≠ true := by decide
  intro member
  simp only [List.mem_append] at member
  rcases member with (((inLeft | inSign) | inMark) | inDigits) | inRight
  · exact noBlank (leftBlank _ inLeft)
  · cases signed <;> simp at inSign
  · cases marked with
    | none => cases inMark
    | lower read | upper read =>
        obtain rfl : '_' = _ := by simpa using inMark
        exact absurd read (by decide)
  · exact noDigit (hex _ inDigits)
  · exact noBlank (rightBlank _ inRight)

/-- A numeral is read as one. -/
theorem Numeral.read {text : List Char} (numeral : Numeral text)
    : digitsFrom true (unmarked (unsigned (trimmed (text.map asciiOf)))) = true := by
  obtain
    @⟨left, sign, mark, digits, right, leftBlank, signed, marked, present, hex, rightBlank⟩ :=
    numeral
  have hexRead : ∀ c ∈ digits.map asciiOf, isHexDigit c = true := List.forall_mem_map.mpr hex
  have presentRead : digits.map asciiOf ≠ [] := mt List.map_eq_nil_iff.mp present
  have dense : ∀ c ∈ sign ++ (mark.map asciiOf ++ digits.map asciiOf), isBlank c = false := by
    simp only [List.forall_mem_append]
    exact ⟨signed.dense, markRead_dense marked.ascii,
      fun c member => not_isBlank_of_hex (hexRead c member)⟩
  have shape
      : (left ++ sign ++ mark ++ digits ++ right).map asciiOf
        = left.map asciiOf ++ (sign ++ (mark.map asciiOf ++ digits.map asciiOf))
          ++ right.map asciiOf := by
    simp [signed.ascii]
  rw [shape, trimmed_append (List.forall_mem_map.mpr leftBlank) dense (by simp [present])
    (List.forall_mem_map.mpr rightBlank), unsigned_append signed marked.ascii hexRead,
    unmarked_append marked.ascii hexRead]
  refine digitsFrom_hex (fun c member => ⟨hexRead c member, ?_⟩) (fun _ => presentRead)
  exact (plainDigit_of_hex (hexRead c member)).underscore

/-- Of the texts without underscores `int` reads just the numerals. -/
theorem intParses_iff {text : String} (absent : '_' ∉ text.toList)
    : intParses text = true ↔ Numeral text.toList :=
  ⟨Numeral.of_read absent, Numeral.read⟩

/-- Hexadecimal digits are a numeral. -/
theorem Numeral.of_hex {text : List Char} (present : text ≠ [])
    (hex : ∀ c ∈ text, isHexDigit c = true)
    : Numeral text := by
  have read : ∀ c ∈ text, isHexDigit (asciiOf c) = true := by
    intro c member
    rw [asciiOf_hex (hex c member)]
    exact hex c member
  have nothing : ∀ c ∈ ([] : List Char), isBlank (asciiOf c) = true := List.forall_mem_nil _
  simpa using Numeral.intro nothing .none .none present read nothing

end SpecterCloud.Core
