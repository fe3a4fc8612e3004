import Stagehand.Proofs.Text.Trimming
import Stagehand.Text.Line
/-!
# The last filled line

Trimming a text, taking what stands after the last newline, and trimming that again gives the last
line of the text that is not blank, without its blank ends (`exists_lastFilled`). Blank lines behind
it are gone after the first step, and what is left in front of it on its own line is gone after the
last.
-/

namespace Stagehand.Text

/-- The line is the last of the lines that is not blank. -/
def LastFilled (lines : List (List Char)) (line : List Char) : Prop :=
  ∃ earlier later, lines = earlier ++ line :: later ∧ (∃ c ∈ line, isBlank c = false) ∧
    ∀ other ∈ later, ∀ c ∈ other, isBlank c = true

/-! ## After the last newline -/

theorem lastLine_of_notMem {cs : List Char} (h : '\n' ∉ cs) : lastLine cs = cs := by
  unfold lastLine
  rw [List.takeWhile_eq_self_iff.mpr, List.reverse_reverse]
  intro c hc
  rw [bne_iff_ne]
  rintro rfl
  exact h (List.mem_reverse.mp hc)

theorem lastLine_newline (front cs : List Char) : lastLine (front ++ '\n' :: cs) = lastLine cs := by
  unfold lastLine
  rw [List.reverse_append, List.reverse_cons, List.append_assoc, List.takeWhile_append]
  split_ifs with hall
  · rw [List.singleton_append, List.takeWhile_cons_of_neg (by simp), List.append_nil,
      (List.takeWhile_prefix _).eq_of_length hall]
  · rfl

theorem lastLine_append_of_notMem {cs : List Char} (h : '\n' ∉ cs) (front : List Char) :
    lastLine (front ++ cs) = lastLine front ++ cs := by
  unfold lastLine
  rw [List.reverse_append, List.takeWhile_append_of_pos, List.reverse_append, List.reverse_reverse]
  intro c hc
  rw [bne_iff_ne]
  rintro rfl
  exact h (List.mem_reverse.mp hc)

theorem mem_of_mem_lastLine {cs : List Char} {c : Char} (h : c ∈ lastLine cs) : c ∈ cs := by
  unfold lastLine at h
  exact List.mem_reverse.mp ((List.takeWhile_sublist _).mem (List.mem_reverse.mp h))

theorem newline_notMem_lastLine (cs : List Char) : '\n' ∉ lastLine cs := by
  unfold lastLine
  intro h
  simpa using List.mem_takeWhile_imp (List.mem_reverse.mp h)

/-- What is blank in front of a text does not show on its last line once that is stripped. -/
theorem strip_lastLine_append {front : List Char} (h : ∀ c ∈ front, isBlank c = true)
    (cs : List Char) :
    strip isBlank (lastLine (front ++ cs)) = strip isBlank (lastLine cs) := by
  by_cases hnewline : '\n' ∈ cs
  · obtain ⟨before, after, rfl, -⟩ := List.eq_append_cons_of_mem hnewline
    rw [← List.append_assoc, lastLine_newline, lastLine_newline]
  · rw [lastLine_append_of_notMem hnewline, lastLine_of_notMem hnewline]
    exact strip_append_left (fun c hc => h c (mem_of_mem_lastLine hc)) cs

/-! ## Lines -/

/-- A text is a last line, or a line with a newline in front of a text. -/
theorem lines_induction {motive : List Char → Prop} (last : ∀ line, '\n' ∉ line → motive line)
    (line : ∀ line rest, '\n' ∉ line → motive rest → motive (line ++ '\n' :: rest))
    (cs : List Char) : motive cs := by
  induction hlength : cs.length using Nat.strong_induction_on generalizing cs with
  | _ n ih =>
    by_cases hnewline : '\n' ∈ cs
    · obtain ⟨front, rest, rfl, hfront⟩ := List.eq_append_cons_of_mem hnewline
      refine line front rest hfront (ih rest.length ?_ rest rfl)
      rw [← hlength, List.length_append, List.length_cons]
      omega
    · exact last cs hnewline

theorem mem_of_mem_splitOn {cs line : List Char} (hline : line ∈ cs.splitOn '\n') {c : Char}
    (hc : c ∈ line) : c ∈ cs := by
  induction cs using lines_induction with
  | last cs hfree =>
    rw [List.splitOn_eq_singleton hfree, List.mem_singleton] at hline
    exact hline ▸ hc
  | line first rest hfree ih =>
    rw [List.splitOn_append_cons_self_of_not_mem hfree] at hline
    rcases List.mem_cons.mp hline with rfl | hline
    · exact List.mem_append_left _ hc
    · exact List.mem_append_right _ (List.mem_cons_of_mem _ (ih hline))

/-- A line in front of a text that is not blank makes no difference to its last filled line. -/
theorem strip_lastLine_strip {cs : List Char} (h : ∃ c ∈ cs, isBlank c = false)
    (front : List Char) : strip isBlank (lastLine (strip isBlank (front ++ '\n' :: cs))) =
      strip isBlank (lastLine (strip isBlank cs)) := by
  have hne : strip isBlank cs ≠ [] := by
    rw [ne_eq, strip_eq_nil_iff]
    simpa using h
  obtain ⟨hbare, before, behind, hcut, hbefore, hbehind⟩ :=
    strip_eq_iff.mp (Eq.refl (strip isBlank cs))
  -- The blanks at the front may reach over the newline, but not into what is stripped of the text.
  have hwithin : ∀ c ∈ (front ++ '\n' :: before).takeWhile isBlank, isBlank c = true :=
    fun c hc => List.mem_takeWhile_imp hc
  have hstrip : strip isBlank (front ++ '\n' :: cs) =
      (front ++ '\n' :: before).dropWhile isBlank ++ strip isBlank cs := by
    rw [← strip_append_bare hbare hne]
    conv_lhs => rw [hcut]
    rw [← strip_append_right hbehind (front ++ '\n' :: before ++ strip isBlank cs)]
    simp
  calc strip isBlank (lastLine (strip isBlank (front ++ '\n' :: cs)))
    _ = strip isBlank
          (lastLine ((front ++ '\n' :: before).dropWhile isBlank ++ strip isBlank cs)) := by
      rw [hstrip]
    _ = strip isBlank (lastLine (front ++ '\n' :: (before ++ strip isBlank cs))) := by
      rw [← strip_lastLine_append hwithin, ← List.append_assoc, List.takeWhile_append_dropWhile,
        List.append_assoc, List.cons_append]
    _ = strip isBlank (lastLine (before ++ strip isBlank cs)) := by rw [lastLine_newline]
    _ = strip isBlank (lastLine (strip isBlank cs)) := strip_lastLine_append hbefore _

/-- A text that is not blank has a last filled line, which is found by trimming, taking what stands
after the last newline, and trimming again. -/
theorem exists_lastFilled {cs : List Char} (h : ∃ c ∈ cs, isBlank c = false) :
    ∃ line, LastFilled (cs.splitOn '\n') line ∧
      strip isBlank (lastLine (strip isBlank cs)) = strip isBlank line := by
  induction cs using lines_induction with
  | last line hfree =>
    refine ⟨line, ⟨[], [], List.splitOn_eq_singleton hfree, h, nofun⟩, ?_⟩
    have hstripped : '\n' ∉ strip isBlank line := fun hmem => hfree (mem_of_mem_strip hmem)
    rw [lastLine_of_notMem hstripped, (bare_strip isBlank line).strip_eq]
  | line line rest hfree ih =>
    rw [List.splitOn_append_cons_self_of_not_mem hfree]
    -- The first line counts only if all behind it is blank.
    by_cases hrest : ∃ c ∈ rest, isBlank c = false
    · obtain ⟨found, ⟨earlier, later, hlines, hfilled, hlater⟩, hfound⟩ := ih hrest
      refine ⟨found, ⟨line :: earlier, later, by rw [hlines]; rfl, hfilled, hlater⟩, ?_⟩
      rw [← hfound]
      exact strip_lastLine_strip hrest line
    · have hblank : ∀ c ∈ rest, isBlank c = true := by simpa using hrest
      have hbehind : ∀ c ∈ '\n' :: rest, isBlank c = true :=
        List.forall_mem_cons.mpr ⟨isBlank_newline, hblank⟩
      obtain ⟨c, hc, hfilled⟩ := h
      have hline : c ∈ line := by
        refine (List.mem_append.mp hc).resolve_right fun hmem => ?_
        rw [hbehind c hmem] at hfilled
        cases hfilled
      refine ⟨line, ⟨[], rest.splitOn '\n', rfl, ⟨c, hline, hfilled⟩, ?_⟩, ?_⟩
      · exact fun other hother d hd => hblank d (mem_of_mem_splitOn hother hd)
      · have hstripped : '\n' ∉ strip isBlank line := fun hmem => hfree (mem_of_mem_strip hmem)
        rw [strip_append_right hbehind, lastLine_of_notMem hstripped,
          (bare_strip isBlank line).strip_eq]

end Stagehand.Text
