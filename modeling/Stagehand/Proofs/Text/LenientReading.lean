import Mathlib.Data.List.Induction
import Stagehand.Proofs.Text.Reading
import Stagehand.Text.Line
/-!
# Reading with replacement characters

`LossyText` says without a reader what the lenient reading of bytes is: whole characters are kept,
and every longest run of bytes that begins a character and is broken off, as every byte that begins
none, becomes one replacement character. The main statements: the lenient reader computes just this
(`lossyText_iff`), so that it gives every text back from its bytes (`decodeLossy_encode`), reading
can be cut after any byte of ASCII (`decodeLossy_append`), and no character of ASCII is lost or made
up (`LossyText.count_ascii`).
-/

namespace Stagehand.Text.Utf8

/-! ## The reading as a relation -/

/-- Some character's encoding begins with the bytes. -/
def Begins (p : Bytes) : Prop :=
  ∃ c q, p ++ q = String.utf8EncodeChar c

/-- The bytes begin a character and stop before its end. -/
def Unfinished (p : Bytes) : Prop :=
  p ≠ [] ∧ ∃ c q, q ≠ [] ∧ p ++ q = String.utf8EncodeChar c

/-- The text that the bytes hold when what is no text is replaced. -/
inductive LossyText : Bytes → List Char → Prop
  | nil : LossyText [] []
  | char (c : Char) {rest : Bytes} {cs : List Char} : LossyText rest cs →
      LossyText (String.utf8EncodeChar c ++ rest) (c :: cs)
  /-- A byte that begins no character. -/
  | stray {b : UInt8} {rest : Bytes} {cs : List Char} : ¬ Begins [b] → LossyText rest cs →
      LossyText (b :: rest) (replacement :: cs)
  /-- The longest beginning of a character that is broken off there. -/
  | broken {p rest : Bytes} {cs : List Char} : Unfinished p →
      (∀ b, rest.head? = some b → ¬ Begins (p ++ [b])) → LossyText rest cs →
      LossyText (p ++ rest) (replacement :: cs)

theorem Unfinished.begins {p : Bytes} (h : Unfinished p) : Begins p := by
  obtain ⟨_, c, q, _, henc⟩ := h
  exact ⟨c, q, henc⟩

/-! ## What the state of a reader says -/

/-- Every state inside a character can still be completed. -/
theorem Underway.unfinished {p : Bytes} {state : State} (h : Underway p state)
    (hne : state ≠ .start) : Unfinished p := by
  cases state with
  | start => exact absurd rfl hne
  | inside more low high value =>
    obtain ⟨hp, hlow, hle, hhigh, hall⟩ := h.continues
    let n := (value * 64 + (low.toNat - 0x80)) * 64 ^ more
    have hpos : 0 < 64 ^ more := Nat.pow_pos (by decide)
    have hdiv : n / 64 ^ more = value * 64 + (low.toNat - 0x80) := Nat.mul_div_cancel _ hpos
    have hn : State.Allows more low high value n := by
      refine ⟨?_, ?_, ?_⟩
      · rw [Nat.pow_succ, ← Nat.div_div_eq_div_mul, hdiv]
        omega
      · rw [hdiv]
        omega
      · rw [hdiv]
        omega
    exact ⟨hp, _, _, continuation_ne_nil more n, (hall n hn).2.symm⟩

/-- A byte is refused only where no character goes on with it. -/
theorem Underway.not_begins {p : Bytes} {state : State} {b : UInt8} (h : Underway p state)
    (hb : state.accept b = none) : ¬ Begins (p ++ [b]) := by
  rintro ⟨c, q, henc⟩
  have hread : decodeFrom? .start (String.utf8EncodeChar c) = some [c] :=
    decodeFrom?_eq_some_iff.mpr (List.flatMap_singleton ..).symm
  rw [← henc, List.append_assoc, h.decodeFrom?_append, List.singleton_append, decodeFrom?_cons,
    hb] at hread
  cases hread

/-- A byte is accepted only where some character goes on with it. -/
theorem Underway.begins {p : Bytes} {state following : State} {b : UInt8} {cs : List Char}
    (h : Underway p state) (hb : state.accept b = some (cs, following)) : Begins (p ++ [b]) := by
  rcases h.accept hb with ⟨rfl, hnext⟩ | ⟨_, c, _, henc⟩
  · apply (hnext.unfinished _).begins
    rintro rfl
    have hnil : p ++ [b] = [] := hnext.continues
    simp at hnil
  · exact ⟨c, [], by rw [henc, List.append_nil]⟩

/-- A reader that has read a proper part of an encoding is under way. -/
theorem exists_underway {c : Char} {p q : Bytes} (hq : q ≠ [])
    (henc : p ++ q = String.utf8EncodeChar c) : ∃ state, Underway p state := by
  induction p using List.reverseRecOn generalizing q with
  | nil => exact ⟨_, .start⟩
  | append_singleton p b ih =>
    rw [List.append_assoc, List.singleton_append] at henc
    obtain ⟨state, hstate⟩ := ih (List.cons_ne_nil b q) henc
    have hread : decodeFrom? state (b :: q) = some [c] := by
      have hwhole : decodeFrom? .start (p ++ b :: q) = some [c] := by
        rw [henc]
        exact decodeFrom?_eq_some_iff.mpr (List.flatMap_singleton ..).symm
      rwa [hstate.decodeFrom?_append] at hwhole
    rw [decodeFrom?_cons] at hread
    cases hb : state.accept b with
    | none => simp [hb] at hread
    | some read =>
      obtain ⟨cs, following⟩ := read
      rw [hb] at hread
      rcases hstate.accept hb with ⟨rfl, hnext⟩ | ⟨rfl, d, rfl, _⟩
      · exact ⟨_, hnext⟩
      -- The character would be complete with bytes still to come.
      · obtain ⟨es, hes, heq⟩ := Option.map_eq_some_iff.mp hread
        obtain ⟨_, rfl⟩ := List.cons.inj heq
        exact absurd (decodeFrom?_eq_some_iff.mp hes) hq

theorem Unfinished.underway {p : Bytes} (h : Unfinished p) :
    ∃ state, Underway p state ∧ state ≠ .start := by
  obtain ⟨hp, c, q, hq, henc⟩ := h
  obtain ⟨state, hstate⟩ := exists_underway hq henc
  refine ⟨state, hstate, ?_⟩
  rintro rfl
  exact hp hstate.continues

/-! ## The lenient reader -/

theorem acceptLossy_start_of_refused {b : UInt8} (hb : State.start.accept b = none) :
    State.start.acceptLossy b = ([replacement], .start) := by
  unfold State.acceptLossy
  rw [hb]

/-- A refused byte inside a character ends it, and is read again as a first byte. -/
theorem decodeLossyFrom_of_refused {state : State} {b : UInt8} (hne : state ≠ .start)
    (hb : state.accept b = none) (rest : Bytes) :
    decodeLossyFrom state (b :: rest) = replacement :: decodeLossyFrom .start (b :: rest) := by
  cases state with
  | start => exact absurd rfl hne
  | inside =>
    simp only [decodeLossyFrom, State.acceptLossy, hb]
    cases State.start.accept b <;> rfl

/-- A byte that is accepted keeps the reading true, if it is true of the rest. -/
theorem LossyText.of_accept {p bytes : Bytes} {state : State} {b : UInt8}
    {read : List Char × State} (h : Underway p state) (hb : state.accept b = some read)
    (ih : ∀ p state, Underway p state → LossyText (p ++ bytes) (decodeLossyFrom state bytes)) :
    LossyText (p ++ b :: bytes) (decodeLossyFrom state (b :: bytes)) := by
  obtain ⟨cs, following⟩ := read
  rw [decodeLossyFrom, acceptLossy_of_accept hb, List.append_cons]
  rcases h.accept hb with ⟨rfl, hnext⟩ | ⟨rfl, c, rfl, henc⟩
  · exact ih _ _ hnext
  · rw [← henc]
    exact .char c (ih _ _ .start)

theorem Underway.lossyText {p : Bytes} {state : State} (h : Underway p state) (bytes : Bytes) :
    LossyText (p ++ bytes) (decodeLossyFrom state bytes) := by
  induction bytes generalizing p state with
  | nil =>
    cases state with
    | start =>
      obtain rfl : p = [] := h.continues
      exact .nil
    | inside => exact .broken (h.unfinished (by simp)) (by simp) .nil
  | cons b bytes ih =>
    have hfirst : LossyText (b :: bytes) (decodeLossyFrom .start (b :: bytes)) := by
      cases hb : State.start.accept b with
      | some read => exact .of_accept .start hb fun _ _ => ih
      | none =>
        rw [decodeLossyFrom, acceptLossy_start_of_refused hb]
        exact .stray (Underway.start.not_begins hb) (ih .start)
    cases hb : state.accept b with
    | some read => exact .of_accept h hb fun _ _ => ih
    | none =>
      by_cases hstate : state = .start
      · subst hstate
        obtain rfl : p = [] := h.continues
        exact hfirst
      · rw [decodeLossyFrom_of_refused hstate hb]
        refine .broken (h.unfinished hstate) ?_ hfirst
        intro b' hb'
        obtain rfl : b = b' := Option.some.inj hb'
        exact h.not_begins hb

theorem LossyText.eq_decodeLossyFrom {bytes : Bytes} {cs : List Char} (h : LossyText bytes cs) :
    decodeLossyFrom .start bytes = cs := by
  induction h with
  | nil => rfl
  | char c _ ih => rw [decodeLossyFrom_append (accepts_encodeChar c), ih, List.singleton_append]
  | @stray b rest cs hb _ ih =>
    have hrefused : State.start.accept b = none := by
      cases haccept : State.start.accept b with
      | none => rfl
      | some read => exact absurd (Underway.start.begins haccept) hb
    rw [decodeLossyFrom, acceptLossy_start_of_refused hrefused]
    simp only [ih, List.singleton_append]
  | @broken p rest cs hp hbreak _ ih =>
    obtain ⟨state, hstate, hne⟩ := hp.underway
    rw [decodeLossyFrom_append hstate.accepts, List.nil_append]
    cases rest with
    | nil =>
      cases state with
      | start => exact absurd rfl hne
      | inside =>
        rw [← ih]
        rfl
    | cons b rest =>
      have hrefused : state.accept b = none := by
        cases haccept : state.accept b with
        | none => rfl
        | some read => exact absurd (hstate.begins haccept) (hbreak b rfl)
      rw [decodeLossyFrom_of_refused hne hrefused, ih]

/-- The lenient reader gives exactly the text with replacements. -/
theorem lossyText_iff {bytes : Bytes} {cs : List Char} :
    LossyText bytes cs ↔ (decodeLossy bytes).toList = cs := by
  rw [decodeLossy, String.toList_ofList]
  constructor
  · exact LossyText.eq_decodeLossyFrom
  · rintro rfl
    exact Underway.start.lossyText bytes

theorem lossyText_encode (s : String) : LossyText (encode s) s.toList := by
  unfold encode
  induction s.toList with
  | nil => exact .nil
  | cons c cs ih =>
    rw [List.flatMap_cons]
    exact .char c ih

/-- The lenient reader gives a text back from its bytes. -/
theorem decodeLossy_encode (s : String) : decodeLossy (encode s) = s :=
  String.toList_inj.mp (lossyText_iff.mp (lossyText_encode s))

/-! ## Cutting after a byte of ASCII -/

/-- A byte of ASCII ends whatever is under way and leaves the reader between characters. -/
theorem Underway.acceptLossy_ascii {p : Bytes} {state : State} {b : UInt8} (h : Underway p state)
    (hb : b.toNat < 0x80) :
    state.acceptLossy b = (state.finish ++ [Char.ofNat b.toNat], .start) := by
  have hstart := accept_start_ascii hb
  cases state with
  | start => exact acceptLossy_of_accept hstart
  | inside more low high value =>
    have hlow : 0x80 ≤ low.toNat := h.continues.2.1
    have hrefused : (State.inside more low high value).accept b = none := by
      unfold State.accept
      simp only [UInt8.le_iff_toNat_le]
      rw [if_neg (by omega)]
    unfold State.acceptLossy
    rw [hrefused]
    simp only [hstart]
    rfl

/-- A reader is under way after any byte. -/
theorem Underway.acceptLossy {p : Bytes} {state : State} (h : Underway p state) (b : UInt8) :
    ∃ p', Underway p' (state.acceptLossy b).2 := by
  have hfrom : ∀ {p state read}, Underway p state → state.accept b = some read →
      ∃ p', Underway p' read.2 := by
    intro p state read h hb
    rcases h.accept hb with ⟨_, hnext⟩ | ⟨hnext, _⟩
    · exact ⟨_, hnext⟩
    · exact ⟨[], hnext ▸ .start⟩
  cases hb : state.accept b with
  | some read =>
    rw [acceptLossy_of_accept hb]
    exact hfrom h hb
  | none =>
    unfold State.acceptLossy
    rw [hb]
    cases state with
    | start => exact ⟨[], .start⟩
    | inside =>
      cases hfirst : State.start.accept b with
      | some read =>
        obtain ⟨p', hp'⟩ := hfrom .start hfirst
        exact ⟨p', by simpa using hp'⟩
      | none => exact ⟨[], .start⟩

theorem Underway.decodeLossyFrom_append {p : Bytes} {state : State} {b : UInt8}
    (h : Underway p state) (hb : b.toNat < 0x80) (front rest : Bytes) :
    decodeLossyFrom state (front ++ b :: rest) =
      decodeLossyFrom state (front ++ [b]) ++ decodeLossyFrom .start rest := by
  induction front generalizing p state with
  | nil =>
    simp only [List.nil_append, decodeLossyFrom, h.acceptLossy_ascii hb]
    simp [State.finish]
  | cons a front ih =>
    obtain ⟨p', hp'⟩ := h.acceptLossy a
    simp only [List.cons_append, decodeLossyFrom]
    rw [ih hp', List.append_assoc]

/-- Bytes may be cut after any byte of ASCII and the parts read by themselves. -/
theorem decodeLossy_append {b : UInt8} (hb : b.toNat < 0x80) (front rest : Bytes) :
    decodeLossy (front ++ [b] ++ rest) = decodeLossy (front ++ [b]) ++ decodeLossy rest := by
  unfold decodeLossy
  rw [List.append_assoc, List.singleton_append, Underway.start.decodeLossyFrom_append hb,
    String.ofList_append]

/-! ## Characters of ASCII -/

theorem Unfinished.not_ascii {p : Bytes} {b : UInt8} (h : Unfinished p) (hb : b ∈ p) :
    0x80 ≤ b.toNat := by
  obtain ⟨hp, c, q, hq, henc⟩ := h
  have hc : 0x80 ≤ c.toNat := by
    by_contra hc
    have hlen := congrArg List.length henc
    rw [encodeChar_ascii (by omega), List.length_append, List.length_singleton] at hlen
    have hp' := List.length_pos_iff.mpr hp
    have hq' := List.length_pos_iff.mpr hq
    omega
  exact le_of_mem_encodeChar hc (henc ▸ List.mem_append_left q hb)

/-- A character of ASCII stands in the text as often as its byte stands in the bytes. -/
theorem LossyText.count_ascii {bytes : Bytes} {cs : List Char} (h : LossyText bytes cs) {a : Char}
    (ha : a.toNat < 0x80) : cs.count a = bytes.count (UInt8.ofNat a.toNat) := by
  have hbyte : (UInt8.ofNat a.toNat).toNat = a.toNat := by
    rw [UInt8.toNat_ofNat']
    omega
  have hreplacement : replacement ≠ a := by
    rintro rfl
    exact absurd ha (by decide)
  -- What is past ASCII holds neither the character nor its byte.
  have hpast : ∀ {p : Bytes}, (∀ b ∈ p, 0x80 ≤ b.toNat) → p.count (UInt8.ofNat a.toNat) = 0 := by
    intro p hp
    refine List.count_eq_zero.mpr fun hmem => ?_
    have := hp _ hmem
    omega
  induction h with
  | nil => rfl
  | @char c rest cs _ ih =>
    rw [List.count_cons, List.count_append, ih]
    by_cases hc : c.toNat < 0x80
    · rw [encodeChar_ascii hc, List.count_singleton, Nat.add_comm]
      congr 1
      have hiff : c = a ↔ UInt8.ofNat c.toNat = UInt8.ofNat a.toNat := by
        rw [← UInt8.toNat_inj, hbyte, UInt8.toNat_ofNat', ← Char.toNat_inj]
        omega
      by_cases hca : c = a
      · simp [hca]
      · simp [hca, mt hiff.mpr hca]
    · have hne : c ≠ a := by
        rintro rfl
        exact hc ha
      rw [hpast fun b hb => le_of_mem_encodeChar (by omega) hb]
      simp [hne]
  | @stray b rest cs hb _ ih =>
    have hascii : 0x80 ≤ b.toNat := by
      by_contra hlt
      exact hb (Underway.start.begins (accept_start_ascii (by omega)))
    have hone : [b].count (UInt8.ofNat a.toNat) = 0 := hpast (by simpa using hascii)
    rw [List.count_cons_of_ne hreplacement, ← List.singleton_append, List.count_append, ih, hone,
      Nat.zero_add]
  | broken hp _ _ ih =>
    rw [List.count_cons_of_ne hreplacement, List.count_append, ih,
      hpast fun b hb => hp.not_ascii hb, Nat.zero_add]

end Stagehand.Text.Utf8
