import Mathlib.Algebra.Group.Nat.Defs
import Mathlib.Tactic.SplitIfs
import Stagehand.Text.Utf8
/-!
# The bytes of characters

A reader of UTF-8 goes through the states of `State.accept` byte by byte. A state that is reached
without completing a character allows a range of code points, and every code point it allows is a
character whose encoding begins with the bytes read so far (`Underway.continues`). From this follow
both halves of the round trip: every encoding is read back (`accepts_encodeChar`), and the strict
reader accepts nothing else (`decodeFrom?_eq_some_iff`).
-/

namespace Stagehand.Text.Utf8

/-! ## First bytes and continuation bytes -/

/-- The last `k + 1` bytes in the encoding of `n`: six bits each, the highest first. -/
def continuation : (k n : Nat) → Bytes
  | 0, n => [UInt8.ofNat (n % 64 + 0x80)]
  | k + 1, n => UInt8.ofNat (n / 64 ^ (k + 1) % 64 + 0x80) :: continuation k n

theorem continuation_ne_nil (k n : Nat) : continuation k n ≠ [] := by
  cases k <;> simp [continuation]

theorem le_of_mem_continuation {k n : Nat} {b : UInt8} (h : b ∈ continuation k n) :
    0x80 ≤ b.toNat := by
  induction k with
  | zero =>
    obtain rfl := List.mem_singleton.mp h
    rw [UInt8.toNat_ofNat']
    omega
  | succ k ih =>
    rcases List.mem_cons.mp h with rfl | h
    · rw [UInt8.toNat_ofNat']
      omega
    · exact ih h

/-- A reader inside a character may be in the middle of the code point `n`: the bits read so far
are the high bits of `n`, and the next six are in range. -/
def State.Allows (more : Nat) (low high : UInt8) (value n : Nat) : Prop :=
  n / 64 ^ (more + 1) = value ∧
    low.toNat ≤ n / 64 ^ more % 64 + 0x80 ∧ n / 64 ^ more % 64 + 0x80 ≤ high.toNat

theorem toNat_ofNat_of_valid {n : Nat} (h : n.isValidChar) : (Char.ofNat n).toNat = n := by
  unfold Char.ofNat
  rw [dif_pos h]
  rfl

/-- `State.ofLead?` with its comparisons on numbers. -/
theorem ofLead?_eq (b : UInt8) :
    State.ofLead? b =
      if 0xC2 ≤ b.toNat ∧ b.toNat ≤ 0xDF then some (.inside 0 0x80 0xBF (b.toNat - 0xC0))
      else if b.toNat = 0xE0 then some (.inside 1 0xA0 0xBF 0)
      else if b.toNat = 0xED then some (.inside 1 0x80 0x9F 0xD)
      else if 0xE1 ≤ b.toNat ∧ b.toNat ≤ 0xEF then some (.inside 1 0x80 0xBF (b.toNat - 0xE0))
      else if b.toNat = 0xF0 then some (.inside 2 0x90 0xBF 0)
      else if 0xF1 ≤ b.toNat ∧ b.toNat ≤ 0xF3 then some (.inside 2 0x80 0xBF (b.toNat - 0xF0))
      else if b.toNat = 0xF4 then some (.inside 2 0x80 0x8F 4)
      else none := by
  unfold State.ofLead?
  simp only [UInt8.le_iff_toNat_le, ← UInt8.toNat_inj, UInt8.toNat_ofNat, Nat.reducePow,
    Nat.reduceMod]

theorem le_of_lead {b : UInt8} {state : State} (h : State.ofLead? b = some state) :
    0x80 ≤ b.toNat := by
  rw [ofLead?_eq] at h
  split_ifs at h <;> omega

theorem ofLead?_ne_start {b : UInt8} : State.ofLead? b ≠ some .start := by
  unfold State.ofLead?
  split_ifs <;> simp

/-- The second byte of a character is a continuation byte. -/
theorem bounds_of_lead {b low high : UInt8} {more value : Nat}
    (hb : State.ofLead? b = some (.inside more low high value)) :
    0x80 ≤ low.toNat ∧ low.toNat ≤ high.toNat ∧ high.toNat ≤ 0xBF := by
  rw [ofLead?_eq] at hb
  split_ifs at hb
  all_goals
    simp only [Option.some.injEq, State.inside.injEq] at hb
    obtain ⟨rfl, rfl, rfl, rfl⟩ := hb
    decide

/-- What a first byte allows is a character that begins with it. -/
theorem encodeChar_of_lead {b low high : UInt8} {more value n : Nat}
    (hb : State.ofLead? b = some (.inside more low high value))
    (hn : State.Allows more low high value n) :
    n.isValidChar ∧ String.utf8EncodeChar (Char.ofNat n) = b :: continuation more n := by
  obtain ⟨hv, hlo, hhi⟩ := hn
  have hval : n.isValidChar → (Char.ofNat n).val.toNat = n := toNat_ofNat_of_valid
  rw [ofLead?_eq] at hb
  -- One case for each range of first bytes; the same bounds decide validity and length.
  split_ifs at hb
  all_goals
    simp only [Option.some.injEq, State.inside.injEq] at hb
    obtain ⟨rfl, rfl, rfl, rfl⟩ := hb
    simp only [Nat.reducePow, Nat.reduceAdd, UInt8.toNat_ofNat, Nat.reduceMod, Nat.pow_zero,
      Nat.div_one, Nat.pow_one] at hv hlo hhi
    have hvalid : n.isValidChar := by unfold Nat.isValidChar; omega
    refine ⟨hvalid, ?_⟩
    unfold String.utf8EncodeChar
    rw [hval hvalid]
    simp only [continuation]
    split_ifs <;> first | omega | skip
  all_goals simp [← UInt8.toNat_inj]
  all_goals omega

/-- The byte begins an encoding of `more + 2` bytes that the code point `n` fits. -/
def LeadsTo (b : UInt8) (more n : Nat) : Prop :=
  ∃ low high value, State.ofLead? b = some (.inside more low high value) ∧
    State.Allows more low high value n

theorem leadsTo_two {n : Nat} (hlo : 0x80 ≤ n) (hhi : n ≤ 0x7FF) :
    LeadsTo (UInt8.ofNat (n / 64 % 0x20 + 0xC0)) 0 n := by
  refine ⟨0x80, 0xBF, n / 64, ?_, ?_⟩
  · rw [ofLead?_eq, UInt8.toNat_ofNat', if_pos (by omega)]
    simp
    omega
  · simp [State.Allows]
    omega

theorem leadsTo_three {n : Nat} (hvalid : n.isValidChar) (hlo : 0x800 ≤ n) (hhi : n ≤ 0xFFFF) :
    LeadsTo (UInt8.ofNat (n / 4096 % 0x10 + 0xE0)) 1 n := by
  unfold Nat.isValidChar at hvalid
  have hb : (UInt8.ofNat (n / 4096 % 0x10 + 0xE0)).toNat = n / 4096 + 0xE0 := by
    rw [UInt8.toNat_ofNat']
    omega
  unfold LeadsTo State.Allows
  rw [ofLead?_eq, hb]
  by_cases h0 : n / 4096 = 0
  · refine ⟨0xA0, 0xBF, 0, by simp [h0], ?_⟩
    simp
    omega
  by_cases hD : n / 4096 = 0xD
  · refine ⟨0x80, 0x9F, 0xD, by simp [hD], ?_⟩
    simp
    omega
  · refine ⟨0x80, 0xBF, n / 4096, ?_, ?_⟩
    · rw [if_neg (by omega), if_neg (by omega), if_neg (by omega), if_pos (by omega)]
      simp
    · simp
      omega

theorem leadsTo_four {n : Nat} (hvalid : n.isValidChar) (hlo : 0x10000 ≤ n) :
    LeadsTo (UInt8.ofNat (n / 262144 % 0x08 + 0xF0)) 2 n := by
  unfold Nat.isValidChar at hvalid
  have hb : (UInt8.ofNat (n / 262144 % 0x08 + 0xF0)).toNat = n / 262144 + 0xF0 := by
    rw [UInt8.toNat_ofNat']
    omega
  unfold LeadsTo State.Allows
  rw [ofLead?_eq, hb]
  by_cases h0 : n / 262144 = 0
  · refine ⟨0x90, 0xBF, 0, by simp [h0], ?_⟩
    simp
    omega
  by_cases h4 : n / 262144 = 4
  · refine ⟨0x80, 0x8F, 4, by simp [h4], ?_⟩
    simp
    omega
  · refine ⟨0x80, 0xBF, n / 262144, ?_, ?_⟩
    · rw [if_neg (by omega), if_neg (by omega), if_neg (by omega), if_neg (by omega),
        if_neg (by omega), if_pos (by omega)]
      simp
    · simp
      omega

/-- The encoding of a character past ASCII: a first byte that leads to it, and the rest. -/
theorem lead_of_encodeChar {c : Char} (hc : 0x80 ≤ c.toNat) :
    ∃ b more, String.utf8EncodeChar c = b :: continuation more c.toNat ∧
      LeadsTo b more c.toNat := by
  have hvalid : c.toNat.isValidChar := c.valid
  unfold String.utf8EncodeChar
  simp only [show c.val.toNat = c.toNat from rfl]
  split_ifs with h1 h2 h3
  · omega
  · exact ⟨_, 0, rfl, leadsTo_two (by omega) h2⟩
  · exact ⟨_, 1, by simp [continuation], leadsTo_three hvalid (by omega) h3⟩
  · exact ⟨_, 2, by simp [continuation], leadsTo_four hvalid (by omega)⟩

theorem encodeChar_ascii {c : Char} (hc : c.toNat < 0x80) :
    String.utf8EncodeChar c = [UInt8.ofNat c.toNat] := by
  unfold String.utf8EncodeChar
  simp only [show c.val.toNat = c.toNat from rfl]
  rw [if_pos (by omega)]

theorem encodeChar_ofNat_ascii {b : UInt8} (hb : b.toNat < 0x80) :
    String.utf8EncodeChar (Char.ofNat b.toNat) = [b] := by
  have hn : (Char.ofNat b.toNat).toNat = b.toNat :=
    toNat_ofNat_of_valid (Or.inl (by omega))
  rw [encodeChar_ascii (by omega), hn, UInt8.ofNat_toNat]

/-- The encoding of a character past ASCII holds no byte of ASCII. -/
theorem le_of_mem_encodeChar {c : Char} {b : UInt8} (hc : 0x80 ≤ c.toNat)
    (hb : b ∈ String.utf8EncodeChar c) : 0x80 ≤ b.toNat := by
  obtain ⟨a, more, henc, low, high, value, hlead, _⟩ := lead_of_encodeChar hc
  rw [henc] at hb
  rcases List.mem_cons.mp hb with rfl | hb
  · exact le_of_lead hlead
  · exact le_of_mem_continuation hb

/-! ## What one byte does -/

theorem accept_start_ascii {b : UInt8} (hb : b.toNat < 0x80) :
    State.start.accept b = some ([Char.ofNat b.toNat], .start) := by
  unfold State.accept
  simp only
  rw [if_pos (UInt8.lt_iff_toNat_lt.mpr hb)]

theorem accept_start_of_lead {b : UInt8} {state : State} (h : State.ofLead? b = some state) :
    State.start.accept b = some ([], state) := by
  have hb : ¬ b < 0x80 := UInt8.not_lt.mpr (le_of_lead h)
  unfold State.accept
  simp only
  rw [if_neg hb, h]
  rfl

theorem accept_start_cases {b : UInt8} {cs : List Char} {following : State}
    (h : State.start.accept b = some (cs, following)) :
    (b.toNat < 0x80 ∧ cs = [Char.ofNat b.toNat] ∧ following = .start) ∨
      (cs = [] ∧ following ≠ .start ∧ State.ofLead? b = some following) := by
  unfold State.accept at h
  simp only at h
  split_ifs at h with hb
  · left
    obtain ⟨rfl, rfl⟩ := Prod.mk.inj (Option.some.inj h)
    exact ⟨UInt8.lt_iff_toNat_lt.mp hb, rfl, rfl⟩
  · right
    obtain ⟨state, hstate, heq⟩ := Option.map_eq_some_iff.mp h
    obtain ⟨rfl, rfl⟩ := Prod.mk.inj heq
    refine ⟨rfl, ?_, hstate⟩
    rintro rfl
    exact ofLead?_ne_start hstate

theorem accept_inside_cases {more value : Nat} {low high b : UInt8} {cs : List Char}
    {following : State}
    (h : (State.inside more low high value).accept b = some (cs, following)) :
    low.toNat ≤ b.toNat ∧ b.toNat ≤ high.toNat ∧
      ((more = 0 ∧ cs = [Char.ofNat (value * 64 + (b.toNat - 0x80))] ∧ following = .start) ∨
        ∃ k, more = k + 1 ∧ cs = [] ∧
          following = .inside k 0x80 0xBF (value * 64 + (b.toNat - 0x80))) := by
  unfold State.accept at h
  simp only at h
  split_ifs at h with hb
  refine ⟨UInt8.le_iff_toNat_le.mp hb.1, UInt8.le_iff_toNat_le.mp hb.2, ?_⟩
  cases more with
  | zero =>
    obtain ⟨rfl, rfl⟩ := Prod.mk.inj (Option.some.inj h)
    exact .inl ⟨rfl, rfl, rfl⟩
  | succ k =>
    obtain ⟨rfl, rfl⟩ := Prod.mk.inj (Option.some.inj h)
    exact .inr ⟨k, rfl, rfl, rfl⟩

end Stagehand.Text.Utf8
