import Stagehand.Proofs.Text.Lowering
import Stagehand.Session.Choice
/-!
# Which answers are choices

An answer at the menu is compared after the lower-casing of Unicode, which knows many more letters
than the menu does. Still only a letter and its capital name a choice (`ofAnswer_recognised`): no
other text, however it is put together, becomes one of the four letters, and none becomes empty.
-/

namespace Stagehand.Choice

open Text

/-- The letter that names a choice. -/
def letter : Choice → Char
  | .accept => 'a'
  | .edit => 'e'
  | .regenerate => 'r'
  | .cancel => 'c'

/-- The capital that names a choice. -/
def capital : Choice → Char
  | .accept => 'A'
  | .edit => 'E'
  | .regenerate => 'R'
  | .cancel => 'C'

/-- The text is the letter of the choice or its capital. -/
def NamedBy (choice : Choice) (text : String) : Prop :=
  text = String.ofList [choice.letter] ∨ text = String.ofList [choice.capital]

/-- An answer without its blank ends names a choice, or is told back in lower case. -/
structure Recognised (answer : String) : Prop where
  choice : ∀ choice, ofAnswer answer = .ok choice ↔ choice.NamedBy (trim answer)
  invalid : ∀ e, ofAnswer answer = .error e ↔
    (∀ choice : Choice, ¬ choice.NamedBy (trim answer)) ∧ e.answer = lowerCase (trim answer)
  /-- What is told back is not a letter that would have been a choice. -/
  toldBack : ∀ e, ofAnswer answer = .error e →
    ∀ choice : Choice, e.answer ≠ String.ofList [choice.letter]
  /-- No other text at all has the letter of a choice for its lower case. -/
  letters : ∀ (choice : Choice) (text : String),
    lowerCase text = String.ofList [choice.letter] ↔ choice.NamedBy text
  /-- No text but the empty one has nothing for its lower case. -/
  empty : ∀ text, lowerCase text = "" ↔ text = ""

theorem lowerCase_eq_letter_iff_namedBy (choice : Choice) (text : String) :
    lowerCase text = String.ofList [choice.letter] ↔ choice.NamedBy text := by
  cases choice <;> exact lowerCase_eq_letter_iff (by decide) (by decide)

/-- The letters of the choices are told apart from everything else. -/
theorem ofAnswer_cases (answer : String) :
    (∃ choice : Choice, lowerCase (trim answer) = String.ofList [choice.letter] ∧
      ofAnswer answer = .ok choice) ∨
    (∀ choice : Choice, lowerCase (trim answer) ≠ String.ofList [choice.letter]) ∧
      ofAnswer answer = .error ⟨lowerCase (trim answer)⟩ := by
  unfold ofAnswer
  split
  · next h => exact .inl ⟨.accept, h, rfl⟩
  · next h => exact .inl ⟨.edit, h, rfl⟩
  · next h => exact .inl ⟨.regenerate, h, rfl⟩
  · next h => exact .inl ⟨.cancel, h, rfl⟩
  · next ha he hr hc =>
    refine .inr ⟨?_, rfl⟩
    intro choice
    cases choice with
    | accept => exact ha
    | edit => exact he
    | regenerate => exact hr
    | cancel => exact hc

theorem letter_injective {choice other : Choice}
    (h : String.ofList [choice.letter] = String.ofList [other.letter]) : choice = other := by
  rw [String.ofList_inj, List.singleton_inj] at h
  cases choice <;> cases other <;> simp [letter] at h ⊢

/-- Only a letter and its capital name a choice, and everything else is told back in lower case. -/
theorem ofAnswer_recognised (answer : String) : Recognised answer := by
  have hlower := lowerCase_eq_letter_iff_namedBy
  rcases ofAnswer_cases answer with ⟨choice, hletter, hok⟩ | ⟨hnone, herror⟩
  · refine ⟨?_, ?_, ?_, hlower, fun _ => lowerCase_eq_empty_iff⟩
    · intro other
      rw [hok, Except.ok.injEq, ← hlower other, hletter]
      exact ⟨congrArg fun c : Choice => String.ofList [c.letter], letter_injective⟩
    · intro e
      rw [hok]
      exact ⟨nofun, fun h => absurd ((hlower choice _).mp hletter) (h.1 choice)⟩
    · rw [hok]
      exact nofun
  · have hunnamed (choice : Choice) : ¬ choice.NamedBy (trim answer) :=
      fun hnamed => hnone choice ((hlower choice _).mpr hnamed)
    refine ⟨?_, ?_, ?_, hlower, fun _ => lowerCase_eq_empty_iff⟩
    · intro choice
      rw [herror]
      exact ⟨nofun, fun hnamed => absurd hnamed (hunnamed choice)⟩
    · rintro ⟨told⟩
      rw [herror, Except.error.injEq, InvalidChoice.mk.injEq]
      exact ⟨fun h => ⟨hunnamed, h.symm⟩, fun h => h.2.symm⟩
    · intro e h choice
      rw [herror] at h
      rw [← Except.error.inj h]
      exact hnone choice

end Stagehand.Choice
