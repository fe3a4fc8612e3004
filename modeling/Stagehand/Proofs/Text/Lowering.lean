import Stagehand.Proofs.Text.CharBytes
import Stagehand.Proofs.Text.Letters
import Stagehand.Text.LowerCase
/-!
# What goes to a letter in lower case

Lower-casing takes no character away, so that only the empty text becomes empty and only a single
character becomes a single one. Of all characters, a small Latin letter other than k comes from
itself and from its capital alone (`lowerCase_eq_letter_iff`); a k comes from the Kelvin sign too.
-/

namespace Stagehand.Text

namespace LowerCase

/-! ## Single characters -/

/-- Apart from the Latin capitals and the Kelvin sign, which stands alone, every shift leads past
the small Latin letters. -/
theorem shifts_targets : ∀ shift ∈ shifts,
    (shift.first = 0x41 ∧ shift.target = 0x61) ∨
      (shift.first = shift.last ∧ shift.target = 'k'.toNat) ∨ 0x7A < shift.target := by
  decide +kernel

/-- No shift begins from a small Latin letter. -/
theorem shifts_apart : ∀ shift ∈ shifts, shift.last < 0x61 ∨ 0x7A < shift.first := by
  decide +kernel

theorem eq_toNat_of_ofNat_eq {n : Nat} {c : Char} (hc : 0 < c.toNat) (h : Char.ofNat n = c) :
    n = c.toNat := by
  by_cases hvalid : n.isValidChar
  · rw [← h, Utf8.toNat_ofNat_of_valid hvalid]
  · -- What is no code point is the null character.
    rw [Char.ofNat, dif_neg hvalid] at h
    rw [← h] at hc
    exact absurd hc (by decide)

theorem ofChar_ne_nil (c : Char) : ofChar c ≠ [] := by
  unfold ofChar
  split
  · simp
  · split <;> simp

theorem Shift.covers_iff {shift : Shift} {n : Nat} : shift.covers n = true ↔
    shift.first ≤ n ∧ n ≤ shift.last ∧ (n - shift.first) % shift.step = 0 := by
  simp [covers, and_assoc]

section

variable {small capital : Char} (h : LetterPair small capital)

include h

theorem ofChar_small : ofChar small = [small] := by
  obtain ⟨hlow, hhigh, -⟩ := h
  have hdotted : small ≠ 'İ' := by
    rintro rfl
    exact absurd hhigh (by decide)
  have hnone : shifts.find? (·.covers small.toNat) = none := by
    refine List.find?_eq_none.mpr ?_
    intro shift hmem hcovers
    obtain ⟨hfirst, hlast, -⟩ := Shift.covers_iff.mp hcovers
    have hapart := shifts_apart shift hmem
    omega
  unfold ofChar
  rw [if_neg hdotted, hnone]

theorem ofChar_capital : ofChar capital = [small] := by
  obtain ⟨hlow, hhigh, hcapital⟩ := h
  have hdotted : capital ≠ 'İ' := by
    rintro rfl
    have hdot : 'İ'.toNat = 0x130 := by decide
    omega
  have hlatin : shifts.find? (·.covers capital.toNat) = some ⟨0x41, 0x5A, 1, 0x61⟩ := by
    refine List.find?_cons_of_pos (Shift.covers_iff.mpr ⟨?_, ?_, Nat.mod_one _⟩)
    · show 0x41 ≤ capital.toNat
      omega
    · show capital.toNat ≤ 0x5A
      omega
  have htarget : 0x61 + (capital.toNat - 0x41) = small.toNat := by omega
  unfold ofChar
  rw [if_neg hdotted, hlatin]
  simp only [Shift.apply, htarget, Char.ofNat_toNat]

/-- A small letter other than k comes from itself and from its capital alone. -/
theorem ofChar_eq_letter_iff (hk : small ≠ 'k') {c : Char} :
    ofChar c = [small] ↔ c = small ∨ c = capital := by
  constructor
  · intro hchar
    obtain ⟨hlow, hhigh, hcapital⟩ := h
    unfold ofChar at hchar
    split at hchar
    · simp at hchar
    · split at hchar
      · next shift hfind =>
        have htarget : shift.apply c.toNat = small.toNat :=
          eq_toNat_of_ofNat_eq (by omega) (List.singleton_inj.mp hchar)
        have hcovers : shift.covers c.toNat = true := by simpa using List.find?_some hfind
        obtain ⟨hfirst, hlast, -⟩ := Shift.covers_iff.mp hcovers
        unfold Shift.apply at htarget
        rcases shifts_targets shift (List.mem_of_find?_eq_some hfind) with hlatin | hkelvin | hpast
        · refine .inr (Char.toNat_inj.mp ?_)
          omega
        · refine absurd (Char.toNat_inj.mp ?_) hk
          omega
        · omega
      · exact .inl (List.singleton_inj.mp hchar)
  · rintro (rfl | rfl)
    · exact ofChar_small h
    · exact ofChar_capital h

end

/-! ## Texts -/

theorem ofCharsAfter_eq_nil_iff {before cs : List Char} :
    ofCharsAfter before cs = [] ↔ cs = [] := by
  constructor
  · intro h
    cases cs with
    | nil => rfl
    | cons c rest =>
      rw [ofCharsAfter, List.append_eq_nil_iff] at h
      split at h
      · simp at h
      · exact absurd h.1 (ofChar_ne_nil c)
  · rintro rfl
    rfl

/-- A single character comes of a single one, and of a capital sigma only a small sigma. -/
theorem ofCharsAfter_eq_singleton_iff {before cs : List Char} {x : Char} (hfinal : x ≠ 'ς')
    (hsigma : x ≠ 'σ') :
    ofCharsAfter before cs = [x] ↔ ∃ c, cs = [c] ∧ c ≠ 'Σ' ∧ ofChar c = [x] := by
  constructor
  · intro h
    cases cs with
    | nil => cases h
    | cons c rest =>
      rw [ofCharsAfter, List.append_eq_singleton_iff] at h
      by_cases hc : c = 'Σ'
      · rw [if_pos hc] at h
        split at h
        · simp [hfinal.symm] at h
        · simp [hsigma.symm] at h
      · rw [if_neg hc] at h
        rcases h with ⟨hnil, -⟩ | ⟨hchar, hrest⟩
        · exact absurd hnil (ofChar_ne_nil c)
        · rw [ofCharsAfter_eq_nil_iff.mp hrest]
          exact ⟨c, rfl, hc, hchar⟩
  · rintro ⟨c, rfl, hc, hchar⟩
    rw [ofCharsAfter, if_neg hc, hchar]
    rfl

end LowerCase

theorem lowerCase_eq_empty_iff {s : String} : lowerCase s = "" ↔ s = "" := by
  unfold lowerCase
  rw [← String.toList_inj, String.toList_ofList, ← String.toList_inj]
  exact LowerCase.ofCharsAfter_eq_nil_iff

/-- A text that becomes a small Latin letter other than k is that letter or its capital. -/
theorem lowerCase_eq_letter_iff {small capital : Char} (h : LetterPair small capital)
    (hk : small ≠ 'k') {s : String} :
    lowerCase s = String.ofList [small] ↔
      s = String.ofList [small] ∨ s = String.ofList [capital] := by
  have hfinal : small ≠ 'ς' := by
    rintro rfl
    exact absurd h.2.1 (by decide)
  have hsigma : small ≠ 'σ' := by
    rintro rfl
    exact absurd h.2.1 (by decide)
  have hcapitalSigma {c : Char} (hc : LowerCase.ofChar c = [small]) : c ≠ 'Σ' := by
    rintro rfl
    exact hsigma (List.singleton_inj.mp (hc.symm.trans (by decide)))
  unfold lowerCase
  simp only [← String.toList_inj, String.toList_ofList,
    LowerCase.ofCharsAfter_eq_singleton_iff hfinal hsigma]
  constructor
  · rintro ⟨c, hs, -, hc⟩
    rw [hs]
    simpa using (LowerCase.ofChar_eq_letter_iff h hk).mp hc
  · rintro (hs | hs)
    · have hc := LowerCase.ofChar_small h
      exact ⟨small, hs, hcapitalSigma hc, hc⟩
    · have hc := LowerCase.ofChar_capital h
      exact ⟨capital, hs, hcapitalSigma hc, hc⟩

end Stagehand.Text
