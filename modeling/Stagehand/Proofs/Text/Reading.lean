import Stagehand.Proofs.Text.CharBytes
/-!
# Reading whole characters

`Accepts` is a run of `State.accept` over several bytes, and `Underway` is such a run from the start
that has completed no character. Both readers of UTF-8 follow it (`decodeFrom?_append`,
`decodeLossyFrom_append`). The main statement is `decodeFrom?_eq_some_iff`: the strict reader gives
a text exactly for the bytes that encode it.
-/

namespace Stagehand.Text.Utf8

/-! ## Runs of a reader -/

/-- From the first state a reader accepts the bytes, completes the characters, and stands in the
second state. -/
inductive Accepts : State → Bytes → List Char → State → Prop
  | nil (state : State) : Accepts state [] [] state
  | cons {state mid last : State} {b : UInt8} {bytes : Bytes} {cs ds : List Char} :
      state.accept b = some (cs, mid) → Accepts mid bytes ds last →
      Accepts state (b :: bytes) (cs ++ ds) last

theorem Accepts.single {state last : State} {b : UInt8} {cs : List Char}
    (h : state.accept b = some (cs, last)) : Accepts state [b] cs last := by
  have hrun := Accepts.cons h (.nil last)
  rwa [List.append_nil] at hrun

theorem Accepts.append {state mid last : State} {p q : Bytes} {cs ds : List Char}
    (h₁ : Accepts state p cs mid) (h₂ : Accepts mid q ds last) :
    Accepts state (p ++ q) (cs ++ ds) last := by
  induction h₁ with
  | nil => exact h₂
  | cons hb _ ih =>
    rw [List.append_assoc]
    exact .cons hb (ih h₂)

theorem decodeFrom?_cons (state : State) (b : UInt8) (rest : Bytes) :
    decodeFrom? state (b :: rest) =
      match state.accept b with
      | some (cs, following) => (decodeFrom? following rest).map (cs ++ ·)
      | none => none := by
  cases state <;> rfl

/-- The strict reader follows a run. -/
theorem decodeFrom?_append {state mid : State} {p : Bytes} {cs : List Char}
    (h : Accepts state p cs mid) (q : Bytes) :
    decodeFrom? state (p ++ q) = (decodeFrom? mid q).map (cs ++ ·) := by
  induction h with
  | nil => simp
  | cons hb _ ih =>
    rw [List.cons_append, decodeFrom?_cons, hb]
    simp only [ih, Option.map_map]
    congr 1
    funext ds
    simp

theorem acceptLossy_of_accept {state : State} {b : UInt8} {read : List Char × State}
    (h : state.accept b = some read) : state.acceptLossy b = read := by
  unfold State.acceptLossy
  rw [h]

/-- The lenient reader follows a run. -/
theorem decodeLossyFrom_append {state mid : State} {p : Bytes} {cs : List Char}
    (h : Accepts state p cs mid) (q : Bytes) :
    decodeLossyFrom state (p ++ q) = cs ++ decodeLossyFrom mid q := by
  induction h with
  | nil => rfl
  | cons hb _ ih =>
    rw [List.cons_append, decodeLossyFrom, acceptLossy_of_accept hb]
    simp only [ih, List.append_assoc]

/-! ## Encodings are accepted -/

/-- The continuation of an allowed code point completes its character. -/
theorem accepts_continuation {more value n : Nat} {low high : UInt8}
    (hn : State.Allows more low high value n) :
    Accepts (.inside more low high value) (continuation more n) [Char.ofNat n] .start := by
  induction more generalizing low high value with
  | zero =>
    obtain ⟨hv, hlo, hhi⟩ := hn
    simp only [Nat.pow_zero, Nat.div_one, Nat.zero_add, Nat.pow_one] at hv hlo hhi
    have hb : (UInt8.ofNat (n % 64 + 0x80)).toNat = n % 64 + 0x80 := by
      rw [UInt8.toNat_ofNat']
      omega
    apply Accepts.single
    unfold State.accept
    simp only [UInt8.le_iff_toNat_le, hb]
    rw [if_pos ⟨hlo, hhi⟩, show value * 64 + (n % 64 + 0x80 - 0x80) = n by omega]
  | succ k ih =>
    obtain ⟨hv, hlo, hhi⟩ := hn
    have hpow : n / 64 ^ (k + 1 + 1) = n / 64 ^ (k + 1) / 64 := by
      rw [Nat.pow_succ, Nat.div_div_eq_div_mul]
    have hpow' : n / 64 ^ (k + 1) = n / 64 ^ k / 64 := by
      rw [Nat.pow_succ, Nat.div_div_eq_div_mul]
    have hb : (UInt8.ofNat (n / 64 ^ (k + 1) % 64 + 0x80)).toNat =
        n / 64 ^ (k + 1) % 64 + 0x80 := by
      rw [UInt8.toNat_ofNat']
      omega
    have hstep : (State.inside (k + 1) low high value).accept
        (UInt8.ofNat (n / 64 ^ (k + 1) % 64 + 0x80)) =
          some ([], .inside k 0x80 0xBF (n / 64 ^ (k + 1))) := by
      unfold State.accept
      simp only [UInt8.le_iff_toNat_le, hb]
      rw [if_pos ⟨hlo, hhi⟩,
        show value * 64 + (n / 64 ^ (k + 1) % 64 + 0x80 - 0x80) = n / 64 ^ (k + 1) by omega]
    refine .cons hstep (ih ⟨rfl, ?_, ?_⟩)
    · simp
    · simp only [UInt8.reduceToNat]
      omega

/-- A reader between characters accepts the encoding of any character, and completes it. -/
theorem accepts_encodeChar (c : Char) :
    Accepts .start (String.utf8EncodeChar c) [c] .start := by
  by_cases hc : c.toNat < 0x80
  · have hb : (UInt8.ofNat c.toNat).toNat = c.toNat := by
      rw [UInt8.toNat_ofNat']
      omega
    rw [encodeChar_ascii hc]
    apply Accepts.single
    rw [accept_start_ascii (by omega), hb, Char.ofNat_toNat]
  · obtain ⟨b, more, henc, low, high, value, hlead, hn⟩ := lead_of_encodeChar (c := c) (by omega)
    have hrest := accepts_continuation hn
    rw [Char.ofNat_toNat] at hrest
    rw [henc]
    exact .cons (accept_start_of_lead hlead) hrest

/-! ## Nothing else is accepted -/

/-- Having read the bytes, which complete no character, a reader stands in the state. -/
inductive Underway : Bytes → State → Prop
  | start : Underway [] .start
  | next {p : Bytes} {state following : State} {b : UInt8} : Underway p state →
      state.accept b = some ([], following) → Underway (p ++ [b]) following

theorem Underway.accepts {p : Bytes} {state : State} (h : Underway p state) :
    Accepts .start p [] state := by
  induction h with
  | start => exact .nil _
  | next _ hb ih => exact ih.append (.single hb)

/-- What has been read without completing a character only sets the state. -/
theorem Underway.decodeFrom?_append {p : Bytes} {state : State} (h : Underway p state)
    (q : Bytes) : decodeFrom? .start (p ++ q) = decodeFrom? state q := by
  rw [Utf8.decodeFrom?_append h.accepts]
  simp

/-- Every code point that the state allows is a character that begins with the bytes. -/
def State.Continues (p : Bytes) : State → Prop
  | .start => p = []
  | .inside more low high value =>
    p ≠ [] ∧ 0x80 ≤ low.toNat ∧ low.toNat ≤ high.toNat ∧ high.toNat ≤ 0xBF ∧
      ∀ n, Allows more low high value n →
        n.isValidChar ∧ String.utf8EncodeChar (Char.ofNat n) = p ++ continuation more n

theorem Underway.continues {p : Bytes} {state : State} (h : Underway p state) :
    state.Continues p := by
  induction h with
  | start => rfl
  | @next p state following b _ hb ih =>
    cases state with
    | start =>
      obtain rfl : p = [] := ih
      rcases accept_start_cases hb with ⟨_, hcs, _⟩ | ⟨_, hne, hlead⟩
      · cases hcs
      · cases following with
        | start => exact absurd rfl hne
        | inside more low high value =>
          obtain ⟨hlow, hle, hhigh⟩ := bounds_of_lead hlead
          exact ⟨by simp, hlow, hle, hhigh, fun n hn => encodeChar_of_lead hlead hn⟩
    | inside more low high value =>
      obtain ⟨_, _, _, _, hall⟩ := ih
      obtain ⟨hlo, hhi, ⟨_, hcs, _⟩ | ⟨k, rfl, _, rfl⟩⟩ := accept_inside_cases hb
      · cases hcs
      · refine ⟨by simp, by decide, by decide, by decide, fun n hn => ?_⟩
        -- The byte is the top digit of what the state before it had to allow.
        have hpow : n / 64 ^ (k + 1 + 1) = n / 64 ^ (k + 1) / 64 := by
          rw [Nat.pow_succ, Nat.div_div_eq_div_mul]
        have hdigit : n / 64 ^ (k + 1) % 64 + 0x80 = b.toNat := by
          rw [hn.1]
          omega
        have hbefore : State.Allows (k + 1) low high value n := by
          refine ⟨?_, by omega, by omega⟩
          rw [hpow, hn.1]
          omega
        obtain ⟨hvalid, henc⟩ := hall n hbefore
        refine ⟨hvalid, ?_⟩
        rw [henc, continuation, hdigit, UInt8.ofNat_toNat, List.append_assoc]
        rfl

/-- The byte after the bytes read either goes on with the character under way or completes it. -/
theorem Underway.accept {p : Bytes} {state following : State} {b : UInt8} {cs : List Char}
    (h : Underway p state) (hb : state.accept b = some (cs, following)) :
    (cs = [] ∧ Underway (p ++ [b]) following) ∨
      (following = .start ∧ ∃ c, cs = [c] ∧ String.utf8EncodeChar c = p ++ [b]) := by
  have hcont := h.continues
  cases state with
  | start =>
    obtain rfl : p = [] := hcont
    rcases accept_start_cases hb with ⟨hascii, rfl, rfl⟩ | ⟨rfl, _, _⟩
    · exact .inr ⟨rfl, _, rfl, encodeChar_ofNat_ascii hascii⟩
    · exact .inl ⟨rfl, h.next hb⟩
  | inside more low high value =>
    obtain ⟨_, hlow, _, hhigh, hall⟩ := hcont
    obtain ⟨hlo, hhi, ⟨rfl, rfl, rfl⟩ | ⟨k, rfl, rfl, rfl⟩⟩ := accept_inside_cases hb
    · have hdigit : (value * 64 + (b.toNat - 0x80)) % 64 + 0x80 = b.toNat := by omega
      obtain ⟨_, henc⟩ := hall (value * 64 + (b.toNat - 0x80)) ⟨by omega, by omega, by omega⟩
      rw [continuation, hdigit, UInt8.ofNat_toNat] at henc
      exact .inr ⟨rfl, _, rfl, henc⟩
    · exact .inl ⟨rfl, h.next hb⟩

/-- What the strict reader gives encodes to the bytes, with those read before. -/
theorem Underway.eq_encode {p bytes : Bytes} {state : State} {cs : List Char}
    (h : Underway p state) (hread : decodeFrom? state bytes = some cs) :
    p ++ bytes = cs.flatMap String.utf8EncodeChar := by
  induction bytes generalizing p state cs with
  | nil =>
    cases state with
    | start =>
      obtain rfl : p = [] := h.continues
      obtain rfl : cs = [] := (Option.some.inj hread).symm
      rfl
    | inside => cases hread
  | cons b bytes ih =>
    rw [decodeFrom?_cons] at hread
    cases hb : state.accept b with
    | none => simp [hb] at hread
    | some read =>
      obtain ⟨ds, following⟩ := read
      rw [hb] at hread
      obtain ⟨es, hes, rfl⟩ := Option.map_eq_some_iff.mp hread
      rcases h.accept hb with ⟨rfl, hnext⟩ | ⟨rfl, c, rfl, henc⟩
      · have hrest := ih hnext hes
        rwa [List.append_assoc] at hrest
      · have hrest := ih .start hes
        rw [List.nil_append] at hrest
        rw [List.flatMap_append, ← hrest, List.flatMap_singleton, henc, List.append_assoc]
        rfl

/-- The strict reader gives a text exactly for the bytes that encode it. -/
theorem decodeFrom?_eq_some_iff {bytes : Bytes} {cs : List Char} :
    decodeFrom? .start bytes = some cs ↔ bytes = cs.flatMap String.utf8EncodeChar := by
  constructor
  · intro h
    exact Underway.start.eq_encode h
  · rintro rfl
    induction cs with
    | nil => rfl
    | cons c cs ih =>
      rw [List.flatMap_cons, decodeFrom?_append (accepts_encodeChar c), ih]
      rfl

end Stagehand.Text.Utf8
