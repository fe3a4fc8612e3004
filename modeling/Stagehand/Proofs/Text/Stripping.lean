import Mathlib.Data.List.DropRight
import Stagehand.Text.Strip
/-!
# What stripping leaves

A stripped list is bare: no end of it lies in the class. It is the only bare part of the list that
has nothing but the class on either side (`strip_eq_iff`), so that stripping it again changes
nothing, and neither does more of the class around the list. What is taken off is the longest
beginning in the class and then the longest end (`strip_eq_iff_longest`).
-/

namespace Stagehand.Text

variable {p : Char → Bool}

/-- The list neither begins nor ends with a character of the class. -/
structure Bare (p : Char → Bool) (cs : List Char) : Prop where
  first : ∀ c rest, cs = c :: rest → p c = false
  last : ∀ front c, cs = front ++ [c] → p c = false

/-- The longest beginning of the list that lies in the class. -/
structure LongestBeginning (p : Char → Bool) (cs front : List Char) : Prop where
  begins : front <+: cs
  within : ∀ c ∈ front, p c = true
  longest : ∀ other, other <+: cs → (∀ c ∈ other, p c = true) → other.length ≤ front.length

/-- The longest end of the list that lies in the class. -/
structure LongestEnd (p : Char → Bool) (cs back : List Char) : Prop where
  ends : back <:+ cs
  within : ∀ c ∈ back, p c = true
  longest : ∀ other, other <:+ cs → (∀ c ∈ other, p c = true) → other.length ≤ back.length

/-! ## Cutting after a class -/

/-- A beginning in the class is dropped up to the first character that is not in it. -/
theorem dropWhile_cut {front : List Char} {c : Char} (hfront : ∀ d ∈ front, p d = true)
    (hc : p c = false) (rest : List Char) : (front ++ c :: rest).dropWhile p = c :: rest := by
  rw [List.dropWhile_append_of_pos hfront, List.dropWhile_cons_of_neg (Bool.eq_false_iff.mp hc)]

/-- A list is cut in one way only after the characters of the class that it begins with. -/
theorem cut_unique {front other rest rest' : List Char} {c c' : Char}
    (h : front ++ c :: rest = other ++ c' :: rest') (hfront : ∀ d ∈ front, p d = true)
    (hc : p c = false) (hother : ∀ d ∈ other, p d = true) (hc' : p c' = false) :
    front = other ∧ c = c' ∧ rest = rest' := by
  have hrest := dropWhile_cut hfront hc rest
  rw [h, dropWhile_cut hother hc' rest'] at hrest
  rw [← hrest] at h
  obtain ⟨hsame, htail⟩ := List.cons.inj hrest
  exact ⟨List.append_cancel_right h, hsame.symm, htail.symm⟩

/-! ## Bare lists -/

theorem stripEnd_eq_rdropWhile (cs : List Char) : stripEnd p cs = cs.rdropWhile p :=
  rfl

/-- The class at the beginning of a list goes unnoticed. -/
theorem strip_append_left {front : List Char} (h : ∀ c ∈ front, p c = true) (cs : List Char) :
    strip p (front ++ cs) = strip p cs := by
  unfold strip
  rw [List.dropWhile_append_of_pos h]

/-- The class at the end of a list goes unnoticed. -/
theorem strip_append_right {back : List Char} (h : ∀ c ∈ back, p c = true) (cs : List Char) :
    strip p (cs ++ back) = strip p cs := by
  have hback : back.dropWhile p = [] := List.dropWhile_eq_nil_iff.mpr h
  have hstripped (ds : List Char) : stripEnd p (ds ++ back) = stripEnd p ds := by
    unfold stripEnd
    rw [List.reverse_append, List.dropWhile_append_of_pos (by simpa using h)]
  unfold strip
  rw [List.dropWhile_append]
  cases hdrop : cs.dropWhile p with
  | nil => simp [hback]
  | cons c rest => simpa using hstripped (c :: rest)

theorem Bare.strip_eq {cs : List Char} (h : Bare p cs) : strip p cs = cs := by
  have hbegin : cs.dropWhile p = cs := by
    cases cs with
    | nil => rfl
    | cons c rest => simp [h.first c rest rfl]
  unfold strip
  rw [hbegin, stripEnd_eq_rdropWhile, List.rdropWhile_eq_self_iff]
  intro hne
  rw [h.last _ _ (List.dropLast_append_getLast hne).symm]
  exact Bool.false_ne_true

/-- A list is what stands before it is stripped, what is left, and what stands behind. -/
theorem strip_parts (p : Char → Bool) (cs : List Char) :
    cs = cs.takeWhile p ++ strip p cs ++ (cs.dropWhile p).rtakeWhile p := by
  unfold strip
  rw [stripEnd_eq_rdropWhile, List.append_assoc, List.rdropWhile_append_rtakeWhile,
    List.takeWhile_append_dropWhile]

theorem bare_strip (p : Char → Bool) (cs : List Char) : Bare p (strip p cs) where
  first c rest h := by
    -- What is left begins as the list does without its beginning.
    have hbegin : strip p cs <+: cs.dropWhile p := List.rdropWhile_prefix p _
    rw [h] at hbegin
    obtain ⟨later, hdrop⟩ := hbegin
    have hhead := List.head?_dropWhile_not p cs
    rw [← hdrop] at hhead
    exact hhead
  last front c h := by
    have hstripped : (cs.dropWhile p).rdropWhile p = front ++ [c] := h
    have hlast := List.rdropWhile_last_not p (cs.dropWhile p) (by simp [hstripped])
    simpa [hstripped] using hlast

/-- Stripping finds the only bare part that has nothing but the class on either side. -/
theorem strip_eq_iff {cs core : List Char} :
    strip p cs = core ↔ Bare p core ∧ ∃ front back, cs = front ++ core ++ back ∧
      (∀ c ∈ front, p c = true) ∧ ∀ c ∈ back, p c = true := by
  constructor
  · rintro rfl
    exact ⟨bare_strip p cs, _, _, strip_parts p cs, fun c hc => List.mem_takeWhile_imp hc,
      fun c hc => List.mem_rtakeWhile_imp hc⟩
  · rintro ⟨hbare, front, back, rfl, hfront, hback⟩
    rw [strip_append_right hback, strip_append_left hfront, hbare.strip_eq]

/-- In front of a bare list all that is stripped off is the beginning in the class. -/
theorem strip_append_bare {core : List Char} (h : Bare p core) (hne : core ≠ [])
    (front : List Char) : strip p (front ++ core) = front.dropWhile p ++ core := by
  refine strip_eq_iff.mpr ⟨⟨?_, ?_⟩, front.takeWhile p, [], ?_,
    fun c hc => List.mem_takeWhile_imp hc, nofun⟩
  · intro c rest hcut
    have hhead := List.head?_dropWhile_not p front
    cases hdrop : front.dropWhile p with
    | nil =>
      rw [hdrop] at hcut
      exact h.first c rest hcut
    | cons d ds =>
      rw [hdrop] at hcut hhead
      obtain ⟨rfl, -⟩ := List.cons.inj hcut
      exact hhead
  · intro before c hcut
    obtain ⟨init, last, rfl⟩ := (List.eq_nil_or_concat core).resolve_left hne
    rw [List.concat_eq_append] at h hcut
    rw [← List.append_assoc] at hcut
    obtain ⟨-, hlast⟩ := List.append_inj' hcut rfl
    obtain rfl := List.singleton_inj.mp hlast
    exact h.last init last rfl
  · rw [List.append_nil, ← List.append_assoc, List.takeWhile_append_dropWhile]

theorem mem_of_mem_strip {cs : List Char} {c : Char} (h : c ∈ strip p cs) : c ∈ cs := by
  rw [strip_parts p cs]
  simp [h]

theorem strip_eq_nil_iff {cs : List Char} : strip p cs = [] ↔ ∀ c ∈ cs, p c = true := by
  constructor
  · intro h
    obtain ⟨-, front, back, rfl, hfront, hback⟩ := strip_eq_iff.mp h
    simpa [or_imp, forall_and] using And.intro hfront hback
  · intro h
    have hstrip := strip_append_left h []
    rwa [List.append_nil, strip_nil] at hstrip

/-! ## The longest ends -/

theorem longestBeginning_takeWhile (p : Char → Bool) (cs : List Char) :
    LongestBeginning p cs (cs.takeWhile p) where
  begins := List.takeWhile_prefix p
  within c hc := List.mem_takeWhile_imp hc
  longest other hother hwithin := by
    obtain ⟨rest, rfl⟩ := hother
    rw [List.takeWhile_append_of_pos hwithin, List.length_append]
    exact Nat.le_add_right _ _

theorem LongestBeginning.unique {cs front other : List Char} (h : LongestBeginning p cs front)
    (hother : LongestBeginning p cs other) : front = other :=
  (List.prefix_of_prefix_length_le h.begins hother.begins
    (hother.longest front h.begins h.within)).eq_of_length_le
      (h.longest other hother.begins hother.within)

/-- The longest end is the longest beginning of the list read backwards. -/
theorem longestEnd_iff_reverse {cs back : List Char} :
    LongestEnd p cs back ↔ LongestBeginning p cs.reverse back.reverse := by
  constructor
  · intro h
    refine ⟨List.reverse_prefix.mpr h.ends, by simpa using h.within, ?_⟩
    intro other hother hwithin
    have hlen := h.longest other.reverse (List.reverse_prefix.mp (by simpa using hother))
      (by simpa using hwithin)
    simpa using hlen
  · intro h
    refine ⟨List.reverse_prefix.mp h.begins, by simpa using h.within, ?_⟩
    intro other hother hwithin
    have hlen := h.longest other.reverse (List.reverse_prefix.mpr hother) (by simpa using hwithin)
    simpa using hlen

theorem longestEnd_rtakeWhile (p : Char → Bool) (cs : List Char) :
    LongestEnd p cs (cs.rtakeWhile p) := by
  rw [longestEnd_iff_reverse, List.rtakeWhile, List.reverse_reverse]
  exact longestBeginning_takeWhile p cs.reverse

theorem LongestEnd.unique {cs back other : List Char} (h : LongestEnd p cs back)
    (hother : LongestEnd p cs other) : back = other :=
  List.reverse_injective
    ((longestEnd_iff_reverse.mp h).unique (longestEnd_iff_reverse.mp hother))

/-- Stripping takes off the longest beginning in the class, and of what remains the longest end. -/
theorem strip_eq_iff_longest {cs core : List Char} :
    strip p cs = core ↔ ∃ front back, cs = front ++ core ++ back ∧
      LongestBeginning p cs front ∧ LongestEnd p (core ++ back) back := by
  have hparts := strip_parts p cs
  have hrest : strip p cs ++ (cs.dropWhile p).rtakeWhile p = cs.dropWhile p :=
    List.rdropWhile_append_rtakeWhile
  constructor
  · rintro rfl
    refine ⟨_, _, hparts, longestBeginning_takeWhile p cs, ?_⟩
    rw [hrest]
    exact longestEnd_rtakeWhile p _
  · rintro ⟨front, back, hcut, hfront, hback⟩
    obtain rfl : front = cs.takeWhile p := hfront.unique (longestBeginning_takeWhile p cs)
    have hdrop : core ++ back = cs.dropWhile p := by
      rw [List.append_assoc] at hcut
      exact List.append_cancel_left (hcut.symm.trans List.takeWhile_append_dropWhile.symm)
    obtain rfl : back = (cs.dropWhile p).rtakeWhile p := by
      rw [hdrop] at hback
      exact hback.unique (longestEnd_rtakeWhile p _)
    exact List.append_cancel_right (hrest.trans hdrop.symm)

end Stagehand.Text
