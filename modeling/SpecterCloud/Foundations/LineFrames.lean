import Mathlib.Data.List.Basic

/-! Words sent as lines of a stream, each after a header and followed by an empty line. The
words can be read back from the stream, whatever they are, as long as they are single lines.
-/

namespace SpecterCloud.Foundations

variable {α : Type}

/-- The line of a word, and the empty line. -/
def lineFrame (header : List α) (lineBreak : α) (word : List α) : List α :=
  header ++ word ++ [lineBreak, lineBreak]

/-- What follows the header on the lines that have it. -/
def framedWords [BEq α] (header : List α) (isBreak : α → Bool) (stream : List α)
    : List (List α) :=
  (stream.splitOnP isBreak).filterMap (fun line => line.dropPrefix? header)

/-- The words are read back from their frames, by induction on the words. -/
theorem framedWords_lineFrames [BEq α] [LawfulBEq α] {header : List α} {isBreak : α → Bool}
    {lineBreak : α} (breaks : isBreak lineBreak = true) (present : header ≠ [])
    (headerLine : ∀ c ∈ header, isBreak c = false) {words : List (List α)}
    (lines : ∀ word ∈ words, ∀ c ∈ word, isBreak c = false)
    : framedWords header isBreak (words.flatMap (lineFrame header lineBreak)) = words := by
  have blank : ([] : List α).dropPrefix? header = none := by
    cases header with
    | nil => exact absurd rfl present
    | cons _ _ => rfl
  unfold framedWords
  induction words with
  | nil => simp [blank]
  | cons word rest ih =>
      have line : ∀ c ∈ header ++ word, isBreak c = false := by
        intro c member
        rcases List.mem_append.mp member with first | second
        · exact headerLine c first
        · exact lines word List.mem_cons_self c second
      have found : (header ++ word).dropPrefix? header = some word :=
        List.dropPrefix?_eq_some_iff.mpr ⟨header, rfl, beq_self_eq_true header⟩
      have split (later : List α)
          : (lineFrame header lineBreak word ++ later).splitOnP isBreak
            = (header ++ word) :: [] :: later.splitOnP isBreak := by
        have blankLine : (lineBreak :: later).splitOnP isBreak = [] :: later.splitOnP isBreak :=
          List.splitOnP_append_cons_of_forall_mem (List.forall_mem_nil _) lineBreak breaks later
        rw [← blankLine, ← List.splitOnP_append_cons_of_forall_mem line lineBreak breaks]
        simp [lineFrame]
      have others := ih fun other member => lines other (List.mem_cons_of_mem word member)
      simp only [List.flatMap_cons, split, List.filterMap_cons, found, blank, others]

end SpecterCloud.Foundations
