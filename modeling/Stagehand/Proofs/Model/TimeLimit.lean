import Stagehand.Model.Settings
import Stagehand.Proofs.Text.DecimalReading
import Stagehand.Proofs.Text.Pieces
/-!
# The time limit

The variable of the limit counts if it holds the numeral of a number of 64 bits other than zero
(`NamesLimit`), and in every other case the default holds: where the variable is unset, is no text,
has blanks or other characters around its digits, or names zero or a number that is too large.
`ofVariables_limit` is the result for an environment.
-/

namespace Stagehand.ModelSettings

open Text.Decimal Text.Utf8

/-- The variable of the limit holds a numeral of the number, which is one of 64 bits and not
zero. -/
def NamesLimit (environment : Variables) (n : Nat) : Prop :=
  ∃ text, environment "GCM_TIMEOUT" = some (encode text) ∧ Numeral text n ∧ 1 ≤ n ∧ n ≤ max64

/-- How the limit depends on the environment. -/
structure LimitExact (environment : Variables) : Prop where
  named : ∀ n, NamesLimit environment n → (ofVariables environment).limit = .ofSeconds n
  otherwise : (∀ n, ¬ NamesLimit environment n) → (ofVariables environment).limit = .ofSeconds 86400
  between : 1 ≤ (ofVariables environment).limit.seconds ∧
    (ofVariables environment).limit.seconds ≤ max64
  /-- Arithmetic in words of 64 bits reads the same, with its checks before each step. -/
  words : ∀ word digits,
    (readWords word digits).map UInt64.toNat = readDigits max64 word.toNat digits
  /-- Zeros between the sign and the rest of the value make no difference. -/
  leadingZeros : ∀ (padded : Variables) (sign zeros digits : String),
    environment "GCM_TIMEOUT" = some (encode (sign ++ digits)) →
    padded "GCM_TIMEOUT" = some (encode (sign ++ zeros ++ digits)) →
    (sign = "" ∨ sign = "+") → (∀ c ∈ zeros.toList, c = '0') → digits.toList.head? ≠ some '+' →
    (ofVariables padded).limit = (ofVariables environment).limit
  /-- A limit that is written in decimal is read back. -/
  readBack : ∀ n, 1 ≤ n → n ≤ max64 → environment "GCM_TIMEOUT" = some (encode (toString n)) →
    (ofVariables environment).limit = .ofSeconds n

/-! ## Seconds -/

theorem seconds?_eq_some_iff {text : String} {n : Nat} :
    seconds? text = some n ↔ Numeral text n ∧ 1 ≤ n ∧ n ≤ max64 := by
  have hread : seconds? text = some n ↔ read max64 text = .ok n ∧ 1 ≤ n := by
    unfold seconds?
    split
    · next hzero =>
      rw [hzero, Except.ok.injEq]
      simp only [reduceCtorEq, false_iff]
      omega
    · next hfault => simp [hfault]
    · next m hne hok =>
      rw [hok, Option.some.injEq, Except.ok.injEq]
      have hpos : m ≠ 0 := hne
      omega
  rw [hread, read_eq_ok_iff]
  exact ⟨fun h => ⟨h.1.1, h.2, h.1.2⟩, fun h => ⟨⟨h.1, h.2.2⟩, h.2.1⟩⟩

/-- Zeros after the sign make no difference to the seconds. -/
theorem seconds?_zeros {sign zeros digits : String} (hsign : sign = "" ∨ sign = "+")
    (hzeros : ∀ c ∈ zeros.toList, c = '0') (hhead : digits.toList.head? ≠ some '+') :
    seconds? (sign ++ zeros ++ digits) = seconds? (sign ++ digits) := by
  have hsigns : sign.toList = [] ∨ sign.toList = ['+'] := by
    rcases hsign with rfl | rfl
    · exact .inl rfl
    · exact .inr rfl
  refine Option.ext fun n => ?_
  rw [seconds?_eq_some_iff, seconds?_eq_some_iff]
  refine and_congr_left fun hn => ?_
  exact numeral_zeros_iff sign.toList zeros.toList digits.toList (by simp) (by simp) hsigns hzeros
    hhead hn.1

/-! ## The limit -/

/-- The seconds that the environment asks for, if it does. -/
theorem asked_eq_some_iff {environment : Variables} {n : Nat} :
    (environment.text? "GCM_TIMEOUT").bind seconds? = some n ↔ NamesLimit environment n := by
  unfold Variables.text? NamesLimit
  simp only [Option.bind_eq_some_iff, decode?_eq_some_iff, seconds?_eq_some_iff]
  constructor
  · rintro ⟨text, ⟨bytes, hset, rfl⟩, hnamed⟩
    exact ⟨text, hset, hnamed⟩
  · rintro ⟨text, hset, hnamed⟩
    exact ⟨text, ⟨_, hset, rfl⟩, hnamed⟩

theorem limit_of_named {environment : Variables} {n : Nat} (h : NamesLimit environment n) :
    (ofVariables environment).limit = .ofSeconds n := by
  unfold ofVariables
  rw [asked_eq_some_iff.mpr h, Option.getD_some]

theorem limit_of_unnamed {environment : Variables} (h : ∀ n, ¬ NamesLimit environment n) :
    (ofVariables environment).limit = .ofSeconds 86400 := by
  have hnone : (environment.text? "GCM_TIMEOUT").bind seconds? = none :=
    Option.eq_none_iff_forall_ne_some.mpr fun n hn => h n (asked_eq_some_iff.mp hn)
  unfold ofVariables
  rw [hnone, Option.getD_none]

theorem limit_of_set {environment : Variables} {text : String}
    (h : environment "GCM_TIMEOUT" = some (encode text)) :
    (ofVariables environment).limit = .ofSeconds ((seconds? text).getD 86400) := by
  unfold ofVariables Variables.text?
  rw [h, Option.bind_some, decode?_encode, Option.bind_some]

/-- The limit is the number of seconds that the environment names, or else a whole day. It is at
least a second, and no value makes the reading of it wrap around. -/
theorem ofVariables_limit (environment : Variables) : LimitExact environment where
  named _ h := limit_of_named h
  otherwise h := limit_of_unnamed h
  between := by
    by_cases h : ∃ n, NamesLimit environment n
    · obtain ⟨n, hnames⟩ := h
      rw [limit_of_named hnames, Duration.seconds_ofSeconds]
      obtain ⟨-, -, -, hbounds⟩ := hnames
      exact hbounds
    · rw [limit_of_unnamed (not_exists.mp h), Duration.seconds_ofSeconds]
      decide
  words := readWords_eq
  leadingZeros padded sign zeros digits hset hpadded hsign hzeros hhead := by
    rw [limit_of_set hset, limit_of_set hpadded, seconds?_zeros hsign hzeros hhead]
  readBack n hlow hhigh hset :=
    limit_of_named ⟨toString n, hset, numeral_toString n, hlow, hhigh⟩

example : seconds? "+0060" = some 60 := by decide

example : seconds? "18446744073709551616" = none := by decide

end Stagehand.ModelSettings
