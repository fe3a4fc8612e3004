import Mathlib.Tactic.SplitIfs
import Stagehand.Text.Decimal
/-!
# Reading decimal numbers

A text is read as a number exactly if it is written as one (`Numeral`) and the number is within the
limit (`read_eq_ok_iff`), however many digits it has: the value is compared with the limit after
every digit. In words of 64 bits the same comparisons keep every product and every sum from wrapping
around (`readWords_eq`).
-/

namespace Stagehand.Text.Decimal

/-- The text is a number in decimal digits, with a plus sign before them or none. -/
def Numeral (text : String) (n : Nat) : Prop :=
  ∃ sign digits, text.toList = sign ++ digits ∧ (sign = [] ∨ sign = ['+']) ∧ digits ≠ [] ∧
    (∀ c ∈ digits, c.isDigit = true) ∧ Nat.ofDigitChars 10 digits 0 = n

/-! ## Digits -/

theorem isDigit_iff {c : Char} : c.isDigit = true ↔ '0' ≤ c ∧ c ≤ '9' := by
  unfold Char.isDigit
  rw [Bool.and_eq_true, decide_eq_true_iff, decide_eq_true_iff]
  rfl

theorem digit?_of_isDigit {c : Char} (h : c.isDigit = true) :
    digit? c = some (c.toNat - '0'.toNat) :=
  if_pos (isDigit_iff.mp h)

theorem digit?_of_not_isDigit {c : Char} (h : c.isDigit = false) : digit? c = none :=
  if_neg (mt isDigit_iff.mpr (Bool.eq_false_iff.mp h))

theorem digit_le_nine {c : Char} {d : Nat} (h : digit? c = some d) : d ≤ 9 := by
  unfold digit? at h
  split at h
  · next hdigit =>
    obtain rfl := Option.some.inj h
    have hnine : c.toNat ≤ '9'.toNat := hdigit.2
    have hzero : '0'.toNat = 48 := rfl
    have hlast : '9'.toNat = 57 := rfl
    omega
  · cases h

/-- More digits do not make a number smaller. -/
theorem le_ofDigitChars (cs : List Char) (value : Nat) : value ≤ Nat.ofDigitChars 10 cs value := by
  rw [Nat.ofDigitChars_eq_ofDigitChars_zero]
  exact Nat.le_add_right_of_le (Nat.le_mul_of_pos_left value (Nat.pow_pos (by decide)))

/-- The reader comes to the end where there are only digits and their number is within the
limit. -/
theorem readDigits_eq_ok_iff {limit value n : Nat} {cs : List Char} (hvalue : value ≤ limit) :
    readDigits limit value cs = .ok n ↔
      (∀ c ∈ cs, c.isDigit = true) ∧ Nat.ofDigitChars 10 cs value = n ∧ n ≤ limit := by
  induction cs generalizing value with
  | nil =>
    rw [readDigits, Except.ok.injEq, Nat.ofDigitChars_nil]
    constructor
    · rintro rfl
      exact ⟨nofun, rfl, hvalue⟩
    · exact fun h => h.2.1
  | cons c cs ih =>
    rw [readDigits, List.forall_mem_cons, Nat.ofDigitChars_cons]
    cases hc : c.isDigit with
    | false => simp [digit?_of_not_isDigit hc]
    | true =>
      simp only [digit?_of_isDigit hc, true_and, Nat.mul_comm 10 value]
      split_ifs with hnext
      · exact ih hnext
      · -- What is past the limit stays past it.
        simp only [false_iff, not_and]
        rintro - rfl
        have hmore := le_ofDigitChars cs (value * 10 + (c.toNat - '0'.toNat))
        omega

/-! ## Numbers -/

/-- A number that does not begin with a sign of its own is written with or without a plus. -/
theorem numeral_iff {text : String} {n : Nat} (sign digits : List Char)
    (htext : text.toList = sign ++ digits) (hsign : sign = [] ∨ sign = ['+'])
    (hhead : sign = [] → digits.head? ≠ some '+') :
    Numeral text n ↔ digits ≠ [] ∧ (∀ c ∈ digits, c.isDigit = true) ∧
      Nat.ofDigitChars 10 digits 0 = n := by
  constructor
  · rintro ⟨sign', digits', htext', hsign', hrest⟩
    have hsame : digits' = digits := by
      rw [htext] at htext'
      rcases hsign with rfl | rfl <;> rcases hsign' with rfl | rfl
      · exact htext'.symm
      · rw [List.nil_append] at htext'
        exact absurd (by rw [htext']; rfl) (hhead rfl)
      · -- A plus sign is not a digit.
        rw [List.nil_append] at htext'
        exact absurd (hrest.2.1 '+' (by simp [← htext'])) (by decide)
      · exact (List.append_cancel_left htext').symm
    exact hsame ▸ hrest
  · exact fun h => ⟨sign, digits, htext, hsign, h⟩

/-- A text is read as a number if and only if it is the numeral of one within the limit. -/
theorem read_eq_ok_iff {limit n : Nat} {text : String} :
    read limit text = .ok n ↔ Numeral text n ∧ n ≤ limit := by
  have hdigits (cs : List Char) : readDigits limit 0 cs = .ok n ↔
      (∀ c ∈ cs, c.isDigit = true) ∧ Nat.ofDigitChars 10 cs 0 = n ∧ n ≤ limit :=
    readDigits_eq_ok_iff (Nat.zero_le limit)
  unfold read
  split
  · next htext =>
    rw [numeral_iff [] [] htext (.inl rfl) nofun]
    simp
  · next htext =>
    rw [numeral_iff ['+'] [] htext (.inr rfl) nofun]
    simp
  · next digits hne htext =>
    rw [numeral_iff ['+'] digits htext (.inr rfl) nofun, hdigits]
    have hsome : digits ≠ [] := hne
    simp [hsome, and_assoc]
  · next hempty hplus hsign =>
    have hhead : text.toList.head? ≠ some '+' := by
      intro hhead
      obtain ⟨digits, hdigits⟩ := List.head?_eq_some_iff.mp hhead
      exact hsign digits hdigits
    rw [numeral_iff [] text.toList rfl (.inl rfl) (fun _ => hhead), hdigits,
      and_assoc, and_assoc]
    exact (and_iff_right hempty).symm

/-- The decimal form of a number is a numeral of it. -/
theorem numeral_toString (n : Nat) : Numeral (toString n) n := by
  refine ⟨[], Nat.toDigits 10 n, ?_, .inl rfl, Nat.toDigits_ne_nil, ?_,
    Nat.ofDigitChars_ten_toDigits⟩
  · rw [Nat.toString_eq_repr, Nat.toList_repr, List.nil_append]
  · intro c hc
    exact Nat.isDigit_of_mem_toDigits (by decide) (by decide) hc

/-- Zeros before the digits make a numeral of no other number, unless it is zero. -/
theorem numeral_zeros_iff {text padded : String} (sign zeros digits : List Char)
    (htext : text.toList = sign ++ digits) (hpadded : padded.toList = sign ++ (zeros ++ digits))
    (hsign : sign = [] ∨ sign = ['+']) (hzeros : ∀ c ∈ zeros, c = '0')
    (hhead : digits.head? ≠ some '+') {n : Nat} (hn : 1 ≤ n) :
    Numeral padded n ↔ Numeral text n := by
  have hreplicate : zeros = List.replicate zeros.length '0' :=
    List.eq_replicate_iff.mpr ⟨rfl, hzeros⟩
  have hvalue : Nat.ofDigitChars 10 (zeros ++ digits) 0 = Nat.ofDigitChars 10 digits 0 := by
    rw [Nat.ofDigitChars_append, hreplicate, Nat.ofDigitChars_replicate_zero, Nat.mul_zero]
  have hpaddedHead : (zeros ++ digits).head? ≠ some '+' := by
    cases zeros with
    | nil => exact hhead
    | cons c rest => simp [hzeros c (by simp)]
  rw [numeral_iff sign digits htext hsign (fun _ => hhead),
    numeral_iff sign (zeros ++ digits) hpadded hsign (fun _ => hpaddedHead), hvalue]
  constructor
  · rintro ⟨-, hdigits, rfl⟩
    refine ⟨?_, fun c hc => hdigits c (List.mem_append_right _ hc), rfl⟩
    -- Zeros alone are no number above zero.
    rintro rfl
    cases hn
  · rintro ⟨hne, hdigits, rfl⟩
    refine ⟨by simp [hne], ?_, rfl⟩
    intro c hc
    rcases List.mem_append.mp hc with hc | hc
    · rw [hzeros c hc]
      rfl
    · exact hdigits c hc

/-! ## Words of 64 bits -/

/-- One more digit in a word of 64 bits, unless the product or the sum is past the largest word.
The product and the sum themselves wrap around. -/
def pushDigit? (value : UInt64) (d : Nat) : Option UInt64 :=
  if value ≤ 0xFFFFFFFFFFFFFFFF / 10 then
    if value * 10 ≤ 0xFFFFFFFFFFFFFFFF - UInt64.ofNat d then some (value * 10 + UInt64.ofNat d)
    else none
  else none

/-- Reads the remaining digits onto the word read so far. -/
def readWords (value : UInt64) : List Char → Except Fault UInt64
  | [] => .ok value
  | c :: rest =>
    match digit? c with
    | none => .error .invalidDigit
    | some d =>
      match pushDigit? value d with
      | none => .error .tooLarge
      | some next => readWords next rest

/-- With the two checks, arithmetic that wraps around gives the same as exact arithmetic. -/
theorem pushDigit?_eq (value : UInt64) {d : Nat} (hd : d ≤ 9) :
    (pushDigit? value d).map UInt64.toNat =
      if value.toNat * 10 + d ≤ max64 then some (value.toNat * 10 + d) else none := by
  have hdigit : (UInt64.ofNat d).toNat = d :=
    UInt64.toNat_ofNat_of_lt' (Nat.lt_of_le_of_lt hd (by decide))
  have hfits : value ≤ 0xFFFFFFFFFFFFFFFF / 10 ↔ value.toNat ≤ 0x1999999999999999 := Iff.rfl
  have hroom : (0xFFFFFFFFFFFFFFFF - UInt64.ofNat d).toNat = 0xFFFFFFFFFFFFFFFF - d := by
    rw [UInt64.toNat_sub_of_le _ _ (UInt64.le_iff_toNat_le.mpr ?_), hdigit]
    · rfl
    · rw [hdigit]
      exact Nat.le_trans hd (by decide)
  unfold pushDigit? max64
  by_cases hsmall : value ≤ 0xFFFFFFFFFFFFFFFF / 10
  · have hbound : value.toNat ≤ 0x1999999999999999 := hfits.mp hsmall
    have hproduct : (value * 10).toNat = value.toNat * 10 := by
      rw [UInt64.toNat_mul]
      exact Nat.mod_eq_of_lt (Nat.lt_of_le_of_lt (Nat.mul_le_mul_right 10 hbound) (by decide))
    rw [if_pos hsmall]
    by_cases hsum : value * 10 ≤ 0xFFFFFFFFFFFFFFFF - UInt64.ofNat d
    · have hle := UInt64.le_iff_toNat_le.mp hsum
      rw [hproduct, hroom] at hle
      have hnext : (value * 10 + UInt64.ofNat d).toNat = value.toNat * 10 + d := by
        rw [UInt64.toNat_add, hproduct, hdigit]
        exact Nat.mod_eq_of_lt (by omega)
      rw [if_pos hsum, if_pos (by omega), Option.map_some, hnext]
    · have hlt := mt UInt64.le_iff_toNat_le.mpr hsum
      rw [hproduct, hroom] at hlt
      rw [if_neg hsum, if_neg (by omega)]
      rfl
  · have hlt := mt hfits.mpr hsmall
    rw [if_neg hsmall, if_neg (by omega)]
    rfl

/-- Words of 64 bits, checked before they wrap around, read the same numbers and faults. -/
theorem readWords_eq (value : UInt64) (cs : List Char) :
    (readWords value cs).map UInt64.toNat = readDigits max64 value.toNat cs := by
  induction cs generalizing value with
  | nil => rfl
  | cons c cs ih =>
    rw [readWords, readDigits]
    cases hdigit : digit? c with
    | none => rfl
    | some d =>
      have hpush := pushDigit?_eq value (digit_le_nine hdigit)
      dsimp only
      split_ifs at hpush ⊢ with hnext
      · obtain ⟨next, hnext, hvalue⟩ := Option.map_eq_some_iff.mp hpush
        rw [hnext, ← hvalue]
        exact ih next
      · rw [Option.map_eq_none_iff.mp hpush]
        rfl

end Stagehand.Text.Decimal
