import Stagehand.Proofs.Session.AnswerUse
import Stagehand.Proofs.Text.Pieces
import Stagehand.Session.Piped
/-!
# A session on a pipe

A session that reads its answers from bytes goes the way of a session that is given them as a list:
the texts of the lines, up to the first line that is no text (`Answers`). Reading line by line is
cutting the bytes first and reading then (`followBytes_agrees`), and where an answer cannot be read
the list might as well end (`follow_unreadable`). The main statement is `runBytes_agrees`.
-/

namespace Stagehand.Session

open Text (Cut pieces)

/-- The answers that the bytes hold: the texts of their lines, each with its newline, up to the end
of the bytes or to the first line that is no text. -/
def Answers (input : Bytes) (answers : List String) : Prop :=
  ∃ rest, Cut input (answers.map Text.Utf8.encode ++ rest) ∧
    ∀ piece, rest.head? = some piece → ∀ s, piece ≠ Text.Utf8.encode s

variable {α β γ σ : Type}

/-- The same happened in both runs, with the same result, and they leave the same world. -/
structure Run.Agrees (r : Run α σ) (r' : Run β σ) : Prop where
  trace : r.trace = r'.trace
  result : r.result = r'.result
  world : r.world = r'.world

theorem Run.Agrees.trans {r : Run α σ} {r' : Run β σ} {r'' : Run γ σ} (h : r.Agrees r')
    (h' : r'.Agrees r'') : r.Agrees r'' :=
  ⟨h.trace.trans h'.trace, h.result.trans h'.result, h.world.trans h'.world⟩

theorem Run.Agrees.after {r : Run α σ} {r' : Run β σ} (h : r.Agrees r') (happened : Trace) :
    (r.after happened).Agrees (r'.after happened) :=
  ⟨congrArg (happened ++ ·) h.trace, h.result, h.world⟩

variable (c : Collaborators σ)

/-! ## Bytes and lists -/

theorem followBytes_ended (happened : Trace) (result : Except VcsError Outcome) (s : σ)
    (bytes : Bytes) :
    followBytes c ⟨happened, .ended result, s⟩ bytes = .ended happened result bytes s := by
  rw [followBytes]

/-- Reading the bytes line by line is reading the list of their pieces. -/
theorem followBytes_agrees (bytes : Bytes) (step : Step σ) :
    (followBytes c step bytes).Agrees (follow c step (answersOf bytes)) := by
  induction bytes using Text.pieces.induct generalizing step with
  | case1 =>
    rcases step with ⟨t, ⟨waiting⟩ | ⟨result⟩, s⟩
    · rw [answersOf, pieces, followBytes]
      exact ⟨rfl, rfl, rfl⟩
    · rw [followBytes_ended, follow_ended]
      exact ⟨rfl, rfl, rfl⟩
  | case2 b rest ih =>
    rcases step with ⟨t, ⟨waiting⟩ | ⟨result⟩, s⟩
    · rw [answersOf, pieces, List.map_cons, followBytes, follow_cons]
      exact (ih _).after t
    · rw [followBytes_ended, follow_ended]
      exact ⟨rfl, rfl, rfl⟩

/-- An answer that cannot be read ends a session as the end of the list does. -/
theorem follow_unreadable (step : Step σ) (answers others : List (Option String)) :
    (follow c step (answers ++ none :: others)).Agrees (follow c step answers) := by
  rcases stops_or_waits c answers step with
    ⟨used, left, rfl, t, result, s, -, hstops⟩ | ⟨t, waiting, s, -, hwaits⟩
  · rw [List.append_assoc, hstops, hstops]
    exact ⟨rfl, rfl, rfl⟩
  · have hend := hwaits []
    rw [List.append_nil] at hend
    rw [hwaits, hend, follow_cons]
    cases others <;> exact ⟨rfl, rfl, rfl⟩

/-! ## The answers in the bytes -/

/-- Every list of pieces begins with pieces that are text, up to one that is not or to its end. -/
theorem exists_texts (cut : List Bytes) :
    ∃ (answers : List String) (rest : List Bytes), cut = answers.map Text.Utf8.encode ++ rest ∧
      ∀ piece, rest.head? = some piece → ∀ s, piece ≠ Text.Utf8.encode s := by
  induction cut with
  | nil => exact ⟨[], [], rfl, by simp⟩
  | cons piece cut ih =>
    by_cases htext : ∃ s, piece = Text.Utf8.encode s
    · obtain ⟨s, rfl⟩ := htext
      obtain ⟨answers, rest, rfl, hrest⟩ := ih
      exact ⟨s :: answers, rest, rfl, hrest⟩
    · refine ⟨[], piece :: cut, rfl, ?_⟩
      rintro _ ⟨rfl⟩ s rfl
      exact htext ⟨s, rfl⟩

theorem exists_answers (input : Bytes) : ∃ answers, Answers input answers := by
  obtain ⟨answers, rest, hcut, hrest⟩ := exists_texts (pieces input)
  exact ⟨answers, rest, hcut ▸ Text.cut_pieces input, hrest⟩

/-- The session that reads the bytes can read just the answers in them. -/
theorem Answers.answersOf {input : Bytes} {answers : List String} (h : Answers input answers) :
    answersOf input = answers.map some ∨
      ∃ others, answersOf input = answers.map some ++ none :: others := by
  obtain ⟨rest, hcut, hrest⟩ := h
  have hread : (answers.map Text.Utf8.encode).map Text.Utf8.decode? = answers.map some := by
    rw [List.map_map]
    exact List.map_congr_left fun s _ => Text.Utf8.decode?_encode s
  unfold Session.answersOf
  rw [hcut.eq_pieces, List.map_append, hread]
  cases rest with
  | nil => exact .inl (List.append_nil _)
  | cons piece rest =>
    have hnone : Text.Utf8.decode? piece = none := by
      rw [Option.eq_none_iff_forall_ne_some]
      intro s hs
      exact hrest piece rfl s (Text.Utf8.decode?_eq_some_iff.mp hs)
    exact .inr ⟨rest.map Text.Utf8.decode?, by rw [List.map_cons, hnone]⟩

/-- A session on bytes agrees with the session on the answers in them, after which no answer can be
read. -/
theorem runBytes_agrees {input : Bytes} {answers : List String} (h : Answers input answers)
    (s : σ) : (runBytes c input s).Agrees (run c (answers.map some) s) := by
  have hbytes := followBytes_agrees c input (start c s)
  rcases h.answersOf with hall | ⟨others, hsome⟩
  · rwa [hall] at hbytes
  · rw [hsome] at hbytes
    exact hbytes.trans (follow_unreadable c (start c s) (answers.map some) others)

end Stagehand.Session
