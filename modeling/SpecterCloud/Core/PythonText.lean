import Mathlib.Data.List.TakeDrop

/-! The methods of Python's `str` that the code calls. -/

namespace SpecterCloud.Core

/-- The characters for which `str.isspace` holds. -/
def isSpace (c : Char) : Bool :=
  c.val ∈ [0x20, 0x85, 0xa0, 0x1680, 0x2028, 0x2029, 0x202f, 0x205f, 0x3000]
  || (0x09 ≤ c.val && c.val ≤ 0x0d)
  || (0x1c ≤ c.val && c.val ≤ 0x1f)
  || (0x2000 ≤ c.val && c.val ≤ 0x200a)

/-- `str.strip()`. -/
def strip (text : String) : String :=
  .ofList ((text.toList.dropWhile isSpace).reverse.dropWhile isSpace).reverse

/-- `str.split(separator, 1)`: the two parts, or none when the separator does not occur. -/
def splitOnce (separator : Char) (text : String) : Option (String × String) :=
  match text.toList.span (· ≠ separator) with
  | (_, []) => none
  | (before, _ :: after) => some (.ofList before, .ofList after)

/-- `text[len(tag):]` where `text.startswith(tag)`. -/
def afterTag (tag text : String) : Option String :=
  if tag.toList <+: text.toList then some (.ofList (text.toList.drop tag.length)) else none

/-- Text is cut at the first separator. -/
theorem splitOnce_append {separator : Char} {before : String} (after : String)
    (absent : separator ∉ before.toList)
    : splitOnce separator (before ++ String.singleton separator ++ after)
      = some (before, after) := by
  have kept : ∀ c ∈ before.toList, decide (c ≠ separator) = true := by
    intro c member
    simp only [decide_eq_true_eq]
    exact fun same => absent (same ▸ member)
  unfold splitOnce
  rw [List.span_eq_takeWhile_dropWhile, String.toList_append, String.toList_append,
    List.append_assoc, List.takeWhile_append_of_pos kept, List.dropWhile_append_of_pos kept]
  simp

/-- Text that is cut is cut at its first separator. -/
theorem splitOnce_eq_some {separator : Char} {text before after : String}
    : splitOnce separator text = some (before, after)
      ↔ text = before ++ String.singleton separator ++ after ∧ separator ∉ before.toList := by
  constructor
  · intro cut
    unfold splitOnce at cut
    rw [List.span_eq_takeWhile_dropWhile] at cut
    cases rest : text.toList.dropWhile (fun c => decide (c ≠ separator)) with
    | nil =>
        rw [rest] at cut
        cases cut
    | cons first later =>
        have found : first = separator := by
          have head := List.head?_dropWhile_not (fun c => decide (c ≠ separator)) text.toList
          rw [rest] at head
          simpa using head
        rw [rest] at cut
        cases cut
        refine ⟨?_, ?_⟩
        · have parts
              : text.toList
                = text.toList.takeWhile (fun c => decide (c ≠ separator))
                  ++ separator :: later := by
            subst found
            rw [← rest]
            exact List.takeWhile_append_dropWhile.symm
          apply String.toList_injective
          refine parts.trans ?_
          simp
        · rw [String.toList_ofList]
          intro member
          have kept := List.all_eq_true.mp (List.all_takeWhile ..) separator member
          simp at kept
  · rintro ⟨rfl, absent⟩
    exact splitOnce_append after absent

/-- What follows a tag is found after it. -/
theorem afterTag_append (tag rest : String) : afterTag tag (tag ++ rest) = some rest := by
  simp [afterTag, ← String.length_toList]

/-- Text with a tag is the tag and what follows it. -/
theorem afterTag_eq_some {tag text rest : String}
    : afterTag tag text = some rest ↔ text = tag ++ rest := by
  constructor
  · intro followed
    unfold afterTag at followed
    split at followed
    · rename_i tagged
      obtain ⟨later, split_⟩ := tagged
      cases followed
      apply String.toList_injective
      rw [← split_]
      simp [← String.length_toList]
    · cases followed
  · rintro rfl
    exact afterTag_append tag rest

-----------------------------------------------------------------------------------------
-- `repr`
-----------------------------------------------------------------------------------------

def apostrophe : Char := Char.ofNat 39

def quotationMark : Char := Char.ofNat 34

def backslash : Char := Char.ofNat 92

/-- The code point as hexadecimal digits, filled up with zeros. -/
def hexEscape (mark : Char) (width : Nat) (c : Char) : List Char :=
  let digits := Nat.toDigits 16 c.toNat
  backslash :: mark :: List.replicate (width - digits.length) '0' ++ digits

/-- A character within the quotes. -/
def reprChar (isPrintable : Char → Bool) (quote c : Char) : List Char :=
  if c = quote ∨ c = backslash then
    [backslash, c]
  else if c = Char.ofNat 9 then
    [backslash, 't']
  else if c = Char.ofNat 10 then
    [backslash, 'n']
  else if c = Char.ofNat 13 then
    [backslash, 'r']
  else if c.toNat < 32 ∨ c.toNat = 127 then
    hexEscape 'x' 2 c
  else if c.toNat < 127 ∨ isPrintable c then
    [c]
  else if c.toNat < 256 then
    hexEscape 'x' 2 c
  else if c.toNat < 65536 then
    hexEscape 'u' 4 c
  else
    hexEscape 'U' 8 c

/-- `repr` of a `str`, given which characters beyond ASCII are printable. -/
def repr (isPrintable : Char → Bool) (text : String) : String :=
  let characters := text.toList
  let quote :=
    if characters.contains apostrophe && !characters.contains quotationMark then
      quotationMark
    else
      apostrophe
  String.ofList (quote :: characters.flatMap (reprChar isPrintable quote) ++ [quote])

end SpecterCloud.Core
