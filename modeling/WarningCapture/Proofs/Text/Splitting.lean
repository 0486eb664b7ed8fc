/-! Texts cut at a character. The pieces are those between its occurrences, so there is one more of
them, and none of them has the character in it. -/
namespace WarningCapture.Text
variable {sep : Char}

theorem splitOn_cons (c : Char) (rest : List Char) : (c :: rest).splitOn sep =
    if c = sep then [] :: rest.splitOn sep else (rest.splitOn sep).modifyHead (c :: ·) := by
  rw [List.splitOn, List.splitOnP_cons_eq_if_modifyHead, ← List.splitOn]
  simp only [beq_iff_eq]

theorem splitOn_append (before after : List Char) :
    (before ++ sep :: after).splitOn sep = before.splitOn sep ++ after.splitOn sep :=
  List.splitOnP_append_cons before after (beq_self_eq_true sep)

theorem splitOn_ne_nil (text : List Char) : text.splitOn sep ≠ [] := List.splitOnP_ne_nil _ _

theorem not_mem_of_mem_splitOn {text : List Char} : ∀ piece ∈ text.splitOn sep, sep ∉ piece := by
  induction text with
  | nil => simp
  | cons c rest ih =>
    rw [splitOn_cons]
    split
    · simpa using ih
    · rename_i other
      cases pieces : rest.splitOn sep with
      | nil => exact absurd pieces (splitOn_ne_nil rest)
      | cons first others =>
        rw [pieces, List.forall_mem_cons] at ih
        rw [List.modifyHead_cons, List.forall_mem_cons, List.mem_cons, not_or]
        exact ⟨⟨Ne.symm other, ih.1⟩, ih.2⟩

end WarningCapture.Text
