import Mathlib.Data.List.Basic
import Mathlib.Tactic.ByContra
import Stagehand.Proofs.Text.Pieces
/-!
# Finished lines

Of bytes that break off in the middle of a line the finished lines are those with a newline at the
end. Together they are the longest beginning of the bytes that ends in a newline
(`longestLines_flatten`), so that they do not depend on how the bytes are cut.
-/

namespace Stagehand.Text

/-- The longest beginning of the bytes that ends in a newline; nothing where there is no newline. -/
structure LongestLines (bytes kept : Bytes) : Prop where
  begins : kept <+: bytes
  ends : kept = [] ∨ kept.getLast? = some newline
  longest : ∀ other, other <+: bytes → other.getLast? = some newline → other.length ≤ kept.length

/-! ## Pieces -/

/-- A finished line is a piece apart from what comes after it. -/
theorem pieces_line {front : Bytes} (h : newline ∉ front) (rest : Bytes) :
    pieces (front ++ newline :: rest) = (front ++ [newline]) :: pieces rest := by
  rw [pieces_of_ne_nil (by simp), takeLine_line h]

/-- A line that is not finished is the only piece. -/
theorem pieces_last {line : Bytes} (h : newline ∉ line) (hne : line ≠ []) :
    pieces line = [line] :=
  (Cut.last hne h).eq_pieces

theorem getLast?_of_mem_finishedPieces {bytes piece : Bytes} (h : piece ∈ finishedPieces bytes) :
    piece.getLast? = some newline := by
  simpa using (List.mem_filter.mp h).2

theorem finishedPieces_line {front : Bytes} (h : newline ∉ front) (rest : Bytes) :
    finishedPieces (front ++ newline :: rest) = (front ++ [newline]) :: finishedPieces rest := by
  unfold finishedPieces
  rw [pieces_line h, List.filter_cons_of_pos (by simp)]

theorem finishedPieces_last {line : Bytes} (h : newline ∉ line) : finishedPieces line = [] := by
  unfold finishedPieces
  cases line with
  | nil => simp [pieces]
  | cons byte rest =>
    rw [pieces_last h (by simp)]
    refine List.filter_eq_nil_iff.mpr ?_
    intro piece hmem hlast
    obtain rfl := List.mem_singleton.mp hmem
    exact h (List.mem_of_getLast? (by simpa using hlast))

/-- Where the pieces are finished ones and those of an unfinished line, the finished ones are
known. -/
theorem finishedPieces_of {bytes line : Bytes} {lines : List Bytes}
    (hpieces : pieces bytes = lines ++ pieces line)
    (hlines : ∀ piece ∈ lines, piece.getLast? = some newline) (hline : newline ∉ line) :
    finishedPieces bytes = lines := by
  have hfinished : lines.filter (·.getLast? == some newline) = lines := by
    refine List.filter_eq_self.mpr ?_
    intro piece hmem
    simp [hlines piece hmem]
  have hunfinished : (pieces line).filter (·.getLast? == some newline) = [] :=
    finishedPieces_last hline
  unfold finishedPieces
  rw [hpieces, List.filter_append, hfinished, hunfinished, List.append_nil]

/-! ## The longest beginning -/

/-- What is left after the last newline cannot be added. -/
theorem LongestLines.of_append {kept line : Bytes}
    (hends : kept = [] ∨ kept.getLast? = some newline) (hline : newline ∉ line) :
    LongestLines (kept ++ line) kept where
  begins := List.prefix_append kept line
  ends := hends
  longest other hother hlast := by
    by_contra hlonger
    obtain ⟨more, rfl⟩ := List.prefix_of_prefix_length_le (List.prefix_append kept line) hother
      (by omega)
    have hmore : more ≠ [] := by
      rintro rfl
      simp at hlonger
    rw [List.getLast?_append_of_ne_nil _ hmore] at hlast
    have hbegins : more <+: line := (List.prefix_append_right_inj kept).mp hother
    exact hline (hbegins.subset (List.mem_of_getLast? hlast))

/-- The finished lines are followed by what comes after the last newline. -/
theorem Cut.finished {bytes : Bytes} {cut : List Bytes} (h : Cut bytes cut) :
    ∃ line, bytes = (finishedPieces bytes).flatten ++ line ∧ newline ∉ line := by
  induction h with
  | none => exact ⟨[], by simp [finishedPieces, pieces], by simp⟩
  | @last line _ hline =>
    rw [finishedPieces_last hline]
    exact ⟨line, rfl, hline⟩
  | @line front rest cut hfront _ ih =>
    obtain ⟨line, hrest, hline⟩ := ih
    refine ⟨line, ?_, hline⟩
    rw [finishedPieces_line hfront, List.flatten_cons, List.append_assoc, ← hrest,
      List.append_assoc, List.singleton_append]

theorem flatten_ends {lines : List Bytes}
    (h : ∀ piece ∈ lines, piece.getLast? = some newline) :
    lines.flatten = [] ∨ lines.flatten.getLast? = some newline := by
  rcases List.eq_nil_or_concat lines with rfl | ⟨earlier, piece, rfl⟩
  · exact .inl rfl
  · have hpiece : piece.getLast? = some newline := h piece (by simp)
    have hne : piece ≠ [] := by
      rintro rfl
      cases hpiece
    right
    rw [List.concat_eq_append, List.flatten_append, List.flatten_singleton,
      List.getLast?_append_of_ne_nil _ hne, hpiece]

/-- The finished lines make up the longest beginning that ends in a newline. -/
theorem longestLines_flatten (bytes : Bytes) :
    LongestLines bytes (finishedPieces bytes).flatten := by
  have hends := @flatten_ends (finishedPieces bytes) fun _ => getLast?_of_mem_finishedPieces
  obtain ⟨line, hbytes, hline⟩ := (cut_pieces bytes).finished
  have hlongest := LongestLines.of_append hends hline
  rwa [← hbytes] at hlongest

end Stagehand.Text
