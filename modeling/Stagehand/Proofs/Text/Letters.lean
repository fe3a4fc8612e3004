/-!
# Small letters and capitals

The letters of ASCII, small and capital, and what lower-casing by ASCII does to them: a character
becomes a small letter if it is that letter or its capital (`LetterPair.toLower_eq_iff`).
-/

namespace Stagehand.Text

/-- A small letter of ASCII, and its capital. -/
def LetterPair (small capital : Char) : Prop :=
  0x61 ≤ small.toNat ∧ small.toNat ≤ 0x7A ∧ capital.toNat + 0x20 = small.toNat

instance (small capital : Char) : Decidable (LetterPair small capital) :=
  inferInstanceAs (Decidable (_ ∧ _ ∧ _))

theorem toNat_toLower (c : Char) : c.toLower.toNat =
    if 0x41 ≤ c.toNat ∧ c.toNat ≤ 0x5A then c.toNat + 0x20 else c.toNat := by
  have hcapital : (c.val ≥ 'A'.val ∧ c.val ≤ 'Z'.val) ↔ 0x41 ≤ c.toNat ∧ c.toNat ≤ 0x5A :=
    Iff.rfl
  unfold Char.toLower
  split
  · next h =>
    have hbound := (hcapital.mp h).2
    have hadd : (c.val + ('a'.val - 'A'.val)).toNat = (c.toNat + 0x20) % 2 ^ 32 := rfl
    rw [if_pos (hcapital.mp h), Char.toNat, hadd]
    omega
  · next h => rw [if_neg (mt hcapital.mpr h)]

/-- A small letter is the lower case of itself and of its capital. -/
theorem LetterPair.toLower_eq_iff {small capital c : Char} (h : LetterPair small capital) :
    c.toLower = small ↔ c = small ∨ c = capital := by
  obtain ⟨hlow, hhigh, hcapital⟩ := h
  rw [← Char.toNat_inj, ← Char.toNat_inj, ← Char.toNat_inj, toNat_toLower]
  split <;> omega

end Stagehand.Text
