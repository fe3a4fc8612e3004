import Stagehand.Proofs.Text.Stripping
import Stagehand.Text.Blank
/-!
# Trimming

Trimming takes no character away that is not blank, so a text is blank exactly when nothing is left
of it once it is trimmed. Of any other text something tidy is left, which trimming keeps as it is.
-/

namespace Stagehand.Text

/-- The text is not empty and has no blank ends. -/
structure Tidy (s : String) : Prop where
  filled : s ≠ ""
  bare : Bare isBlank s.toList

/-- Dropping a beginning in a class leaves every character that is not in it. -/
theorem all_dropWhile (p : Char → Bool) (cs : List Char) :
    (cs.dropWhile p).all p = cs.all p := by
  rw [List.all_eq_not_any_not, List.any_dropWhile, Bool.not_not]

/-- A text is blank as soon as it is blank once trimmed. -/
theorem isBlankText_trim (s : String) : isBlankText (trim s) = isBlankText s := by
  unfold isBlankText
  rw [toList_trim, strip, stripEnd, List.all_reverse, all_dropWhile, List.all_reverse,
    all_dropWhile]

theorem exists_not_blank {s : String} (h : isBlankText s = false) :
    ∃ ch ∈ s.toList, isBlank ch = false := by
  simpa [isBlankText] using h

theorem trim_eq_empty_iff {s : String} : trim s = "" ↔ isBlankText s = true := by
  rw [← String.toList_inj, toList_trim, isBlankText, List.all_eq_true]
  exact strip_eq_nil_iff

theorem tidy_of_trim_eq {s : String} (hne : s ≠ "") (h : trim s = s) : Tidy s where
  filled := hne
  bare := by
    have hbare := bare_strip isBlank s.toList
    rwa [← toList_trim, h] at hbare

theorem tidy_trim {s : String} (h : isBlankText s = false) : Tidy (trim s) where
  filled hempty := by
    rw [trim_eq_empty_iff, h] at hempty
    cases hempty
  bare := by
    rw [toList_trim]
    exact bare_strip isBlank s.toList

theorem Tidy.trim_eq {s : String} (h : Tidy s) : trim s = s := by
  rw [← String.toList_inj, toList_trim, h.bare.strip_eq]

theorem Tidy.not_blank {s : String} (h : Tidy s) : isBlankText s = false := by
  rw [Bool.eq_false_iff, ne_eq, ← trim_eq_empty_iff, h.trim_eq]
  exact h.filled

end Stagehand.Text
