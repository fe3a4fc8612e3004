import Stagehand.Proofs.Text.Reading
import Stagehand.Text.Line
/-!
# Cutting after newlines

`Cut` says what it is to cut bytes after each newline, without saying how it is done: every piece
ends in the only newline that it holds, but for a last one that has none. `pieces` makes such a cut
(`cut_pieces`), and there is no other (`Cut.eq_pieces`). With `decode?_eq_some_iff` a piece is text
exactly when it is the encoding of one.
-/

namespace Stagehand.Text

/-- The pieces are the bytes cut after each newline; what follows the last newline is a piece of its
own, unless nothing does. -/
inductive Cut : Bytes → List Bytes → Prop
  | none : Cut [] []
  | last {piece : Bytes} : piece ≠ [] → newline ∉ piece → Cut piece [piece]
  | line {front rest : Bytes} {cut : List Bytes} : newline ∉ front → Cut rest cut →
      Cut (front ++ newline :: rest) ((front ++ [newline]) :: cut)

/-! ## Taking a line -/

theorem takeLine_line {front : Bytes} (h : newline ∉ front) (rest : Bytes) :
    takeLine (front ++ newline :: rest) = (front ++ [newline], rest) := by
  induction front with
  | nil => rw [List.nil_append, takeLine, if_pos rfl, List.nil_append]
  | cons b front ih =>
    have hb : b ≠ newline := (List.ne_of_not_mem_cons h).symm
    rw [List.cons_append, takeLine, if_neg hb, ih (List.not_mem_of_not_mem_cons h),
      List.cons_append]

theorem takeLine_last {bytes : Bytes} (h : newline ∉ bytes) : takeLine bytes = (bytes, []) := by
  induction bytes with
  | nil => rfl
  | cons b rest ih =>
    have hb : b ≠ newline := (List.ne_of_not_mem_cons h).symm
    rw [takeLine, if_neg hb, ih (List.not_mem_of_not_mem_cons h)]

theorem pieces_of_ne_nil {bytes : Bytes} (h : bytes ≠ []) :
    pieces bytes = (takeLine bytes).1 :: pieces (takeLine bytes).2 := by
  cases bytes with
  | nil => exact absurd rfl h
  | cons b rest => rw [pieces]

/-! ## The cut -/

theorem Cut.eq_pieces {bytes : Bytes} {cut : List Bytes} (h : Cut bytes cut) :
    pieces bytes = cut := by
  induction h with
  | none => rw [pieces]
  | last hne hlast => rw [pieces_of_ne_nil hne, takeLine_last hlast, pieces]
  | line hfront _ ih => rw [pieces_of_ne_nil (by simp), takeLine_line hfront, ih]

theorem cut_pieces (bytes : Bytes) : Cut bytes (pieces bytes) := by
  induction bytes using pieces.induct with
  | case1 =>
    rw [pieces]
    exact .none
  | case2 b rest ih =>
    rw [pieces]
    by_cases hmem : newline ∈ b :: rest
    · obtain ⟨front, later, heq, hfront⟩ := List.eq_append_cons_of_mem hmem
      rw [heq, takeLine_line hfront] at ih ⊢
      exact .line hfront ih
    · rw [takeLine_last hmem, pieces]
      exact .last (by simp) hmem

/-! ## Pieces that are text -/

/-- Bytes are a text exactly when they are its encoding. -/
theorem Utf8.decode?_eq_some_iff {bytes : Bytes} {s : String} :
    decode? bytes = some s ↔ bytes = encode s := by
  have hlist (cs : List Char) : String.ofList cs = s ↔ cs = s.toList := by
    rw [← String.toList_inj, String.toList_ofList]
  simp only [decode?, encode, Option.map_eq_some_iff, hlist, exists_eq_right,
    decodeFrom?_eq_some_iff]

theorem Utf8.decode?_encode (s : String) : decode? (encode s) = some s :=
  decode?_eq_some_iff.mpr rfl

end Stagehand.Text
