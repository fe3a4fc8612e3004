import Mathlib.Tactic.SplitIfs
import Stagehand.Proofs.Text.Stripping
import Stagehand.Text.Quoted
/-!
# Quoted texts are told apart

The written form of a character can be told from everything that may follow it, and none begins with
the quote that ends a text. Writing such forms in a row up to an end mark gives forms of the same
kind, so texts keep apart inside quotes, and lists of texts inside brackets: the written form of a
list determines the list (`quotedList_injective`). All of it is visible, so no line break is left in
it (`visible_quotedList`).
-/

namespace Stagehand.Text.Quoted

/-- The character is none of those that are never shown raw. -/
def Visible (c : Char) : Prop :=
  inRanges hiddenRanges c = false

instance (c : Char) : Decidable (Visible c) :=
  inferInstanceAs (Decidable (_ = _))

/-- The characters with a short escape, each with the letter that stands for it. -/
def shortEscapes : List (Char × Char) :=
  [('\x00', '0'), ('\t', 't'), ('\r', 'r'), ('\n', 'n'), ('\\', '\\'), ('"', '"')]

/-- The forms that characters are written in inside quotes. -/
inductive Written : Char → List Char → Prop
  | short {c letter : Char} (h : (c, letter) ∈ shortEscapes) : Written c ['\\', letter]
  | code {c : Char} (hhidden : ¬ Visible c) : Written c (escapeCode c)
  | raw {c : Char} (hbackslash : c ≠ '\\') (hquote : c ≠ '"') (hvisible : Visible c) : Written c [c]

/-- What is written can be told from anything that may follow it. -/
def Apart {α : Type} (write : α → List Char) : Prop :=
  ∀ {a b : α} {rest rest' : List Char}, write a ++ rest = write b ++ rest' → a = b ∧ rest = rest'

/-! ## Hexadecimal digits -/

theorem digitChar_inj : ∀ d < 16, ∀ e < 16, Nat.digitChar d = Nat.digitChar e → d = e := by
  decide

theorem digitChar_range : ∀ d < 16,
    0x30 ≤ (Nat.digitChar d).toNat ∧ (Nat.digitChar d).toNat ≤ 0x66 := by
  decide

/-- Different numbers have different digits. -/
theorem hexDigits_injective {m n : Nat} (h : hexDigits m = hexDigits n) : m = n := by
  unfold hexDigits at h
  -- All digits but the last are those of the number divided by sixteen.
  induction m using Nat.strong_induction_on generalizing n with
  | _ m ih =>
    rw [Nat.toDigits_eq_if (by decide), Nat.toDigits_eq_if (n := n) (by decide)] at h
    split_ifs at h with hm hn hn
    · exact digitChar_inj m hm n hn (List.singleton_inj.mp h)
    · -- A single digit is not a digit behind others.
      simp [List.singleton_eq_append_iff] at h
    · simp [List.append_eq_singleton_iff] at h
    · obtain ⟨hfront, hlast⟩ := List.append_inj' h rfl
      have hquotient : m / 16 = n / 16 := ih (m / 16) (by omega) hfront
      have hdigit : m % 16 = n % 16 :=
        digitChar_inj _ (Nat.mod_lt m (by decide)) _ (Nat.mod_lt n (by decide))
          (List.singleton_inj.mp hlast)
      omega

/-- The digits lie between zero and f, and so before the brace that ends them. -/
theorem range_of_mem_hexDigits {n : Nat} {c : Char} (h : c ∈ hexDigits n) :
    0x30 ≤ c.toNat ∧ c.toNat ≤ 0x66 := by
  unfold hexDigits at h
  induction n using Nat.strong_induction_on with
  | _ n ih =>
    rw [Nat.toDigits_eq_if (by decide)] at h
    split_ifs at h with hn
    · rw [List.mem_singleton.mp h]
      exact digitChar_range n hn
    · rcases List.mem_append.mp h with h | h
      · exact ih (n / 16) (by omega) h
      · rw [List.mem_singleton.mp h]
        exact digitChar_range _ (Nat.mod_lt n (by decide))

/-- The brace ends the digits of a code point. -/
theorem escapeCode_append_inj {a b : Char} {rest rest' : List Char}
    (h : escapeCode a ++ rest = escapeCode b ++ rest') : a = b ∧ rest = rest' := by
  have hdigits (c : Char) : ∀ d ∈ hexDigits c.toNat, (d != '\x7d') = true := by
    intro d hd
    rw [bne_iff_ne]
    rintro rfl
    exact absurd (range_of_mem_hexDigits hd).2 (by decide)
  simp only [escapeCode, List.cons_append, List.append_assoc, List.nil_append, List.cons.injEq,
    true_and] at h
  obtain ⟨hsame, -, hrest⟩ := cut_unique h (hdigits a) (by decide) (hdigits b) (by decide)
  exact ⟨Char.toNat_inj.mp (hexDigits_injective hsame), hrest⟩

/-! ## Characters -/

/-- The letters of short escapes are told apart. -/
theorem shortEscapes_inj : ∀ p ∈ shortEscapes, ∀ q ∈ shortEscapes, p.2 = q.2 → p.1 = q.1 := by
  decide

/-- No short escape has the letter of a code point. -/
theorem shortEscapes_ne : ∀ p ∈ shortEscapes, p.2 ≠ 'u' := by
  decide

theorem written_ofChar (c : Char) : Written c (ofChar c) := by
  unfold ofChar
  split_ifs with hnul htab hreturn hnewline hbackslash hquote hhidden
  · exact .short (by simp [shortEscapes, hnul])
  · exact .short (by simp [shortEscapes, htab])
  · exact .short (by simp [shortEscapes, hreturn])
  · exact .short (by simp [shortEscapes, hnewline])
  · exact .short (by simp [shortEscapes, hbackslash])
  · exact .short (by simp [shortEscapes, hquote])
  · exact .code (by simp [Visible, hhidden])
  · exact .raw hbackslash hquote (Bool.eq_false_iff.mpr hhidden)

/-- No written form of a character begins with another. -/
theorem Written.append_inj {a b : Char} {form form' rest rest' : List Char} (ha : Written a form)
    (hb : Written b form') (h : form ++ rest = form' ++ rest') : a = b ∧ rest = rest' := by
  cases ha with
  | short ha =>
    cases hb with
    | short hb =>
      simp only [List.cons_append, List.nil_append, List.cons.injEq, true_and] at h
      exact ⟨shortEscapes_inj _ ha _ hb h.1, h.2⟩
    | code => exact absurd (List.cons.inj (List.cons.inj h).2).1 (shortEscapes_ne _ ha)
    | raw hbackslash => exact absurd (List.cons.inj h).1.symm hbackslash
  | code =>
    cases hb with
    | short hb => exact absurd (List.cons.inj (List.cons.inj h).2).1.symm (shortEscapes_ne _ hb)
    | code => exact escapeCode_append_inj h
    | raw hbackslash => exact absurd (List.cons.inj h).1.symm hbackslash
  | raw hbackslash =>
    cases hb with
    | short | code => exact absurd (List.cons.inj h).1 hbackslash
    | raw => exact List.cons.inj h

theorem apart_ofChar : Apart ofChar :=
  fun h => (written_ofChar _).append_inj (written_ofChar _) h

/-- No character is written with a bare quote in front. -/
theorem ofChar_append_ne (c : Char) (rest rest' : List Char) :
    ofChar c ++ rest ≠ '"' :: rest' := by
  intro h
  have hwritten := written_ofChar c
  generalize ofChar c = form at h hwritten
  cases hwritten with
  | short | code => exact absurd (List.cons.inj h).1 (by decide)
  | raw _ hquote => exact hquote (List.cons.inj h).1

/-! ## Texts and lists -/

section Apart

variable {α : Type} {write : α → List Char}

theorem Apart.injective (h : Apart write) : Function.Injective write :=
  fun _ _ hsame => (h (congrArg (· ++ []) hsame)).1

/-- Forms that keep apart do so in a row up to an end mark with which none of them begins. -/
theorem Apart.until (h : Apart write) {stop : Char}
    (hstop : ∀ a rest rest', write a ++ rest ≠ stop :: rest') :
    Apart fun items : List α => items.flatMap write ++ [stop] := by
  intro items others rest rest' hsame
  simp only [List.append_assoc, List.singleton_append] at hsame
  -- Where one row is over and the other is not, the end mark meets the front of a form.
  induction items generalizing others with
  | nil =>
    cases others with
    | nil => exact ⟨rfl, (List.cons.inj hsame).2⟩
    | cons other others =>
      rw [List.flatMap_cons, List.append_assoc] at hsame
      exact absurd hsame.symm (hstop other _ _)
  | cons item items ih =>
    rw [List.flatMap_cons, List.append_assoc] at hsame
    cases others with
    | nil => exact absurd hsame (hstop item _ _)
    | cons other others =>
      rw [List.flatMap_cons, List.append_assoc] at hsame
      obtain ⟨rfl, hmore⟩ := h hsame
      obtain ⟨rfl, hrest⟩ := ih hmore
      exact ⟨rfl, hrest⟩

end Apart

theorem apart_ofChars : Apart ofChars :=
  fun h => apart_ofChar.until ofChar_append_ne (List.cons.inj h).2

/-- A text that is not the first is written behind a separator. -/
theorem ofItems_cons (cs : List Char) (rest : List (List Char)) :
    ofItems (cs :: rest) = ofChars cs ++ rest.flatMap fun other => ',' :: ' ' :: ofChars other := by
  induction rest generalizing cs with
  | nil => simp [ofItems]
  | cons other rest ih => simp [ofItems, ih]

theorem apart_ofItems : Apart fun items => ofItems items ++ [']'] := by
  have hseparated : Apart fun cs => ',' :: ' ' :: ofChars cs :=
    fun h => apart_ofChars (List.cons.inj (List.cons.inj h).2).2
  have htail : Apart fun rest : List (List Char) =>
      (rest.flatMap fun cs => ',' :: ' ' :: ofChars cs) ++ [']'] :=
    hseparated.until fun _ _ _ h => absurd (List.cons.inj h).1 (by decide)
  intro items others rest rest' h
  cases items with
  | nil =>
    cases others with
    | nil => exact ⟨rfl, (List.cons.inj h).2⟩
    | cons other others =>
      simp only [ofItems_cons] at h
      exact absurd (List.cons.inj h).1 (by decide)
  | cons item items =>
    cases others with
    | nil =>
      simp only [ofItems_cons] at h
      exact absurd (List.cons.inj h).1 (by decide)
    | cons other others =>
      simp only [ofItems_cons, List.append_assoc] at h
      obtain ⟨rfl, hmore⟩ := apart_ofChars h
      obtain ⟨rfl, hrest⟩ := htail (by simpa using hmore)
      exact ⟨rfl, hrest⟩

/-! ## What is visible -/

/-- Nothing is hidden among the characters of ASCII that are no controls. -/
theorem hiddenRanges_apart : ∀ range ∈ hiddenRanges, range.2 < 0x20 ∨ 0x7E < range.1 := by
  decide +kernel

theorem visible_of_ascii {c : Char} (h : 0x20 ≤ c.toNat ∧ c.toNat ≤ 0x7E) : Visible c := by
  unfold Visible inRanges
  rw [List.any_eq_false]
  intro range hmem hwithin
  have hapart := hiddenRanges_apart range hmem
  simp only [Bool.and_eq_true, decide_eq_true_iff] at hwithin
  omega

theorem not_visible_newline : ¬ Visible '\n' := by
  decide

theorem shortEscapes_ascii : ∀ p ∈ shortEscapes, 0x20 ≤ p.2.toNat ∧ p.2.toNat ≤ 0x7E := by
  decide

theorem Written.visible {c : Char} {form : List Char} (h : Written c form) :
    ∀ d ∈ form, Visible d := by
  cases h with
  | short h => simpa using ⟨visible_of_ascii (by decide), visible_of_ascii (shortEscapes_ascii _ h)⟩
  | code =>
    intro d hd
    simp only [escapeCode, List.mem_cons, List.mem_append, List.not_mem_nil, or_false] at hd
    rcases hd with rfl | rfl | rfl | hd | rfl
    · exact visible_of_ascii (by decide)
    · exact visible_of_ascii (by decide)
    · exact visible_of_ascii (by decide)
    · have hrange := range_of_mem_hexDigits hd
      exact visible_of_ascii ⟨by omega, by omega⟩
    · exact visible_of_ascii (by decide)
  | raw _ _ hvisible => simpa using hvisible

theorem visible_ofChars (cs : List Char) : ∀ c ∈ ofChars cs, Visible c := by
  have hquote : Visible '"' := visible_of_ascii (by decide)
  intro c hc
  simp only [ofChars, List.mem_cons, List.mem_append, List.mem_flatMap, List.not_mem_nil,
    or_false] at hc
  rcases hc with rfl | ⟨d, -, hc⟩ | rfl
  · exact hquote
  · exact (written_ofChar d).visible c hc
  · exact hquote

theorem visible_ofItems (items : List (List Char)) : ∀ c ∈ ofItems items, Visible c := by
  cases items with
  | nil => exact nofun
  | cons cs rest =>
    intro c hc
    rw [ofItems_cons, List.mem_append, List.mem_flatMap] at hc
    rcases hc with hc | ⟨other, -, hc⟩
    · exact visible_ofChars cs c hc
    · rcases List.mem_cons.mp hc with rfl | hc
      · exact visible_of_ascii (by decide)
      · rcases List.mem_cons.mp hc with rfl | hc
        · exact visible_of_ascii (by decide)
        · exact visible_ofChars other c hc

end Quoted

open Quoted

/-- A list of texts can be told from its written form. -/
theorem quotedList_injective : Function.Injective quotedList := by
  intro items others h
  have hforms := (List.cons.inj (String.ofList_injective h)).2
  have hsame : items.map String.toList = others.map String.toList := apart_ofItems.injective hforms
  exact List.map_injective_iff.mpr (fun _ _ => String.toList_inj.mp) hsame

example : quotedList ["a\", \"b"] ≠ quotedList ["a", "b"] := by decide +kernel

theorem visible_quotedList (items : List String) : ∀ c ∈ (quotedList items).toList, Visible c := by
  intro c hc
  simp only [quotedList, String.toList_ofList, List.mem_cons, List.mem_append, List.not_mem_nil,
    or_false] at hc
  rcases hc with rfl | hc | rfl
  · exact visible_of_ascii (by decide)
  · exact visible_ofItems _ c hc
  · exact visible_of_ascii (by decide)

end Stagehand.Text
