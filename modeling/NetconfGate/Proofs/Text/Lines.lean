import NetconfGate.Text.Lines

/-!
# Pieces and lines as they were written

A separator that is in none of the pieces parts them again. So lines that are
written one after the other, each with a line feed behind it, are told apart again,
if none of them holds a line feed or a carriage return itself.
-/

namespace NetconfGate.Text

theorem pieces_ne_nil (separator : Char) (text : List Char) : pieces separator text ≠ [] := by
  induction text with
  | nil => exact List.cons_ne_nil _ _
  | cons c rest ih =>
      rw [pieces]
      split
      · exact List.cons_ne_nil _ _
      · split <;> exact List.cons_ne_nil _ _

/-- A separator parts the pieces before it from those behind it. -/
theorem pieces_append (separator : Char) (text rest : List Char) :
    pieces separator (text ++ separator :: rest) = pieces separator text ++ pieces separator rest := by
  induction text with
  | nil => exact if_pos rfl
  | cons c text ih =>
      obtain ⟨piece, more, split⟩ := List.exists_cons_of_ne_nil (pieces_ne_nil separator text)
      rw [List.cons_append, pieces, pieces, ih, split]
      by_cases same : c = separator
      · rw [if_pos same, if_pos same]
        rfl
      · rw [if_neg same, if_neg same]
        rfl

theorem pieces_of_not_mem {separator : Char} {text : List Char} (free : separator ∉ text) :
    pieces separator text = [text] := by
  induction text with
  | nil => rfl
  | cons c rest ih =>
      have other : c ≠ separator := fun same => free (by simp [same])
      rw [pieces, if_neg other, ih fun member => free (List.mem_cons_of_mem _ member)]

theorem pieces_append_of_not_mem {separator : Char} {text : List Char} (free : separator ∉ text)
    (rest : List Char) :
    pieces separator (text ++ separator :: rest) = text :: pieces separator rest := by
  rw [pieces_append, pieces_of_not_mem free, List.singleton_append]

theorem pieces_append_replicate (separator : Char) (text : List Char) (count : Nat) :
    pieces separator (text ++ List.replicate count separator) =
      pieces separator text ++ List.replicate count [] := by
  induction count generalizing text with
  | zero => rw [List.replicate_zero, List.append_nil, List.replicate_zero, List.append_nil]
  | succ count ih =>
      have behind := ih []
      rw [List.nil_append] at behind
      rw [List.replicate_succ, pieces_append, behind, pieces, List.replicate_succ,
        List.singleton_append]

/-- Each line with its line feed. -/
def unlines (lines : List (List Char)) : List Char := lines.flatMap (· ++ ['\n'])

theorem pieces_unlines {written : List (List Char)} (single : ∀ line ∈ written, '\n' ∉ line) :
    pieces '\n' (unlines written) = written ++ [[]] := by
  induction written with
  | nil => rfl
  | cons line rest ih =>
      obtain ⟨first, others⟩ := List.forall_mem_cons.mp single
      have apart : unlines (line :: rest) = line ++ '\n' :: unlines rest := by simp [unlines]
      rw [apart, pieces_append_of_not_mem first, ih others, List.cons_append]

theorem dropReturn_of_not_mem {line : List Char} (free : '\r' ∉ line) : dropReturn line = line := by
  unfold dropReturn
  split
  · next rest backwards =>
      have member : '\r' ∈ line.reverse := by simp [backwards]
      exact absurd (List.mem_reverse.mp member) free
  · rfl

theorem lines_unlines {written : List (List Char)} (single : ∀ line ∈ written, '\n' ∉ line)
    (free : ∀ line ∈ written, '\r' ∉ line) : lines (unlines written) = written := by
  have kept : written.map dropReturn = written := by
    induction written with
    | nil => rfl
    | cons line rest ih =>
        obtain ⟨first, others⟩ := List.forall_mem_cons.mp free
        rw [List.map_cons, dropReturn_of_not_mem first,
          ih (List.forall_mem_cons.mp single).2 others]
  have last : (written ++ [[]]).getLast? = some [] := List.getLast?_concat
  simp only [lines, pieces_unlines single, last, if_true, List.dropLast_concat, kept]

end NetconfGate.Text
