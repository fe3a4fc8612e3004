import Stagehand.Proofs.Text.Stripping
import Stagehand.Session.Proposal
/-!
# What becomes of a model's output

A candidate is the model's output without its blank ends and, within them, without its wrapping
(`Unwraps`). A line feed is both blank and wrapping, but the two are taken off one after the other,
and between them nothing is touched. There is just one candidate for every output
(`unwraps_iff`), and `propose_unwraps` says that it is the one that is proposed.
-/

namespace Stagehand.Message

open Text

/-- The candidate is what an output holds between its blank ends and the wrapping within them. -/
structure Unwraps (output candidate : String) : Prop where
  /-- The output is the candidate as it stands, wrapping around it, and its blank ends around that:
  the longest blank beginning, and the longest blank end of what follows. -/
  parts : ∃ opening before after closing : List Char,
    output.toList = opening ++ (before ++ candidate.toList ++ after) ++ closing ∧
    LongestBeginning isBlank output.toList opening ∧
    LongestEnd isBlank (before ++ candidate.toList ++ after ++ closing) closing ∧
    (∀ c ∈ before, isWrapping c = true) ∧ (∀ c ∈ after, isWrapping c = true) ∧
    (candidate = "" ↔ ∀ c ∈ before ++ candidate.toList ++ after, isWrapping c = true)
  bare : Bare isWrapping candidate.toList

/-! ## Cleaning -/

theorem clean_eq_iff {text cleaned : String} :
    clean text = cleaned ↔ strip isWrapping text.toList = cleaned.toList := by
  rw [← String.toList_inj, toList_clean]

theorem clean_eq_empty_iff {text : String} :
    clean text = "" ↔ ∀ c ∈ text.toList, isWrapping c = true := by
  rw [clean_eq_iff]
  exact strip_eq_nil_iff

theorem clean_clean (text : String) : clean (clean text) = clean text := by
  rw [clean_eq_iff, toList_clean]
  exact (bare_strip isWrapping text.toList).strip_eq

/-- More wrapping around a text goes unnoticed. -/
theorem clean_wrapped {before after : String} (hbefore : ∀ c ∈ before.toList, isWrapping c = true)
    (hafter : ∀ c ∈ after.toList, isWrapping c = true) (text : String) :
    clean (before ++ text ++ after) = clean text := by
  rw [clean_eq_iff, toList_clean, String.toList_append, String.toList_append,
    strip_append_right hafter, strip_append_left hbefore]

/-! ## Candidates -/

/-- The candidate is determined by the output: the one that trimming and cleaning give. -/
theorem unwraps_iff {output candidate : String} :
    Unwraps output candidate ↔ clean (trim output) = candidate := by
  constructor
  · rintro ⟨⟨opening, before, after, closing, hcut, hopening, hclosing, hbefore, hafter, -⟩, hbare⟩
    have htrim : strip isBlank output.toList = before ++ candidate.toList ++ after :=
      strip_eq_iff_longest.mpr ⟨opening, closing, hcut, hopening, hclosing⟩
    rw [clean_eq_iff, toList_trim, htrim]
    exact strip_eq_iff.mpr ⟨hbare, before, after, rfl, hbefore, hafter⟩
  · intro hclean
    have hstrip : strip isWrapping (trim output).toList = candidate.toList :=
      clean_eq_iff.mp hclean
    obtain ⟨hbare, before, after, htrim, hbefore, hafter⟩ := strip_eq_iff.mp hstrip
    obtain ⟨opening, closing, hcut, hopening, hclosing⟩ :=
      strip_eq_iff_longest.mp ((toList_trim output).symm.trans htrim)
    refine ⟨⟨opening, before, after, closing, hcut, hopening, hclosing, hbefore, hafter, ?_⟩, hbare⟩
    rw [← htrim, ← hclean]
    exact clean_eq_empty_iff

end Stagehand.Message

namespace Stagehand.Session

open Message

variable {σ : Type}

/-- Where the staged changes and the model's output come, the candidate is what that output makes
of itself. -/
theorem propose_eq_ok {c : Collaborators σ} {s s' : σ} {diff output : String}
    (hdiff : c.diff s = (.ok diff, s'))
    (houtput : (c.model.run (prompt diff) false s').1.result = .ok output) :
    (propose c s).1 = .ok (clean (Text.trim output)) := by
  unfold propose consult
  simp only [hdiff, houtput, replyText]

/-- The candidate that is proposed for an output of the model is the output without its blank ends
and the wrapping within them. Cleaning is done once and for all, and wrapping put around a text
makes no difference to it. -/
theorem propose_unwraps (c : Collaborators σ) (s s' : σ) (diff output : String)
    (hdiff : c.diff s = (.ok diff, s'))
    (houtput : (c.model.run (prompt diff) false s').1.result = .ok output) :
    (∃ candidate, (propose c s).1 = .ok candidate ∧
      ∀ other, Unwraps output other ↔ other = candidate) ∧
    (∀ text, clean (clean text) = clean text) ∧
    ∀ before text after : String, (∀ ch ∈ before.toList, isWrapping ch = true) →
      (∀ ch ∈ after.toList, isWrapping ch = true) →
      clean (before ++ text ++ after) = clean text := by
  refine ⟨⟨_, propose_eq_ok hdiff houtput, fun other => ?_⟩, clean_clean, ?_⟩
  · rw [unwraps_iff, eq_comm]
  · intro before text after hbefore hafter
    exact clean_wrapped hbefore hafter text

/-- A repository with a change and a model that wraps its answer in blank lines, accents, quotes
and more blank lines. -/
def quoting : Collaborators Unit where
  diff s := (.ok "+1", s)
  model := ⟨fun _ _ s => ({ result := .ok "\n \u3000´\n\x60Say \"it's\" twice\x60\n'\n\u0085" }, s)⟩
  commit _ s := (.ok (), s)

theorem quoting_unwraps :
    quoting.diff () = (.ok "+1", ()) ∧
      (quoting.model.run (prompt "+1") false ()).1.result =
        .ok "\n \u3000´\n\x60Say \"it's\" twice\x60\n'\n\u0085" ∧
      (propose quoting ()).1 = .ok "Say \"it's\" twice" ∧
      Unwraps "\n \u3000´\n\x60Say \"it's\" twice\x60\n'\n\u0085" "Say \"it's\" twice" := by
  have hmade : (propose quoting ()).1 = .ok "Say \"it's\" twice" := by decide
  obtain ⟨⟨candidate, hcandidate, hunwraps⟩, -⟩ := propose_unwraps quoting () () "+1" _ rfl rfl
  refine ⟨rfl, rfl, hmade, (hunwraps _).mpr ?_⟩
  rw [hcandidate] at hmade
  exact (Except.ok.inj hmade).symm

end Stagehand.Session
