import Stagehand.Proofs.Model.TimeLimit
import Stagehand.Proofs.Text.Trimming
/-!
# Settings from the environment

The program and the model are the trimmed texts of their variables, or a default where a variable
holds no text or a blank one; either way they are tidy. An environment that spells settings out is
read back as these settings as soon as they are tidy and their limit is one that can be named
(`ofVariables_of_spells`), which settings from an environment always are.
-/

namespace Stagehand.ModelSettings

open Text (Tidy isBlankText trim)
open Text.Utf8

/-- The text comes from a variable: it is the value of the variable without blank ends, or the
default where the variable is unset, is no text or is blank. -/
structure TakenFrom (environment : Variables) (name default text : String) : Prop where
  named : ∀ value, environment name = some (encode value) → isBlankText value = false →
    text = trim value
  otherwise : (∀ value, environment name = some (encode value) → isBlankText value = true) →
    text = default
  tidy : Tidy text

/-- The variables of the environment are set to the settings, with the limit in decimal. -/
structure Spells (environment : Variables) (settings : ModelSettings) : Prop where
  program : environment "GCM_RUNNER" = some (encode settings.program)
  model : environment "GCM_MODEL" = some (encode settings.model)
  limit : environment "GCM_TIMEOUT" = some (encode (toString settings.limit.seconds))

/-- The settings from the environment are fit for use, and are themselves when they are read again
from an environment that is set to them. -/
structure Normalised (environment : Variables) : Prop where
  program : TakenFrom environment "GCM_RUNNER" "ollama" (ofVariables environment).program
  model : TakenFrom environment "GCM_MODEL" "llama3.1:8b" (ofVariables environment).model
  limit : 1 ≤ (ofVariables environment).limit.seconds
  again : ∀ other, Spells other (ofVariables environment) →
    ofVariables other = ofVariables environment

/-! ## Texts -/

section Texts

variable {environment : Variables} {name default text : String}

theorem text?_eq_some_iff :
    environment.text? name = some text ↔ environment name = some (encode text) := by
  unfold Variables.text?
  simp only [Option.bind_eq_some_iff, decode?_eq_some_iff]
  constructor
  · rintro ⟨bytes, hset, rfl⟩
    exact hset
  · exact fun hset => ⟨_, hset, rfl⟩

theorem orDefault_of_blank {value : Option String}
    (h : ∀ text, value = some text → isBlankText text = true) :
    orDefault value default = default := by
  unfold orDefault
  cases value with
  | none => rfl
  | some text =>
    rw [Option.map_some, Text.trim_eq_empty_iff.mpr (h text rfl)]
    rfl

theorem orDefault_of_filled (h : isBlankText text = false) :
    orDefault (some text) default = trim text := by
  have hne : trim text ≠ "" := (Text.tidy_trim h).filled
  unfold orDefault
  rw [Option.map_some]
  split
  · next hempty => exact absurd (Option.some.inj hempty) hne
  · next hnone => cases hnone
  · next other _ hsome => exact (Option.some.inj hsome).symm

theorem takenFrom_orDefault (hdefault : Tidy default) :
    TakenFrom environment name default (orDefault (environment.text? name) default) := by
  constructor
  case named =>
    intro value hset hfilled
    rw [text?_eq_some_iff.mpr hset, orDefault_of_filled hfilled]
  case otherwise =>
    intro hblank
    exact orDefault_of_blank fun value hvalue => hblank value (text?_eq_some_iff.mp hvalue)
  case tidy =>
    by_cases h : ∀ value, environment.text? name = some value → isBlankText value = true
    · rw [orDefault_of_blank h]
      exact hdefault
    · simp only [not_forall, Bool.not_eq_true] at h
      obtain ⟨value, hvalue, hfilled⟩ := h
      rw [hvalue, orDefault_of_filled hfilled]
      exact Text.tidy_trim hfilled

/-- A tidy text that a variable is set to is taken from it as it is. -/
theorem orDefault_of_tidy (hset : environment name = some (encode text)) (h : Tidy text) :
    orDefault (environment.text? name) default = text := by
  rw [text?_eq_some_iff.mpr hset, orDefault_of_filled h.not_blank, h.trim_eq]

end Texts

/-! ## Settings -/

/-- The limit from an environment is a number of seconds that an environment can name. -/
theorem exists_limit (environment : Variables) :
    ∃ n, (ofVariables environment).limit = .ofSeconds n ∧ 1 ≤ n ∧ n ≤ Text.Decimal.max64 := by
  by_cases h : ∃ n, NamesLimit environment n
  · obtain ⟨n, hnames⟩ := h
    have hlimit := limit_of_named hnames
    obtain ⟨-, -, -, hbounds⟩ := hnames
    exact ⟨n, hlimit, hbounds⟩
  · exact ⟨86400, limit_of_unnamed (not_exists.mp h), by decide⟩

/-- Tidy settings with a limit that can be named are what an environment set to them asks for. -/
theorem ofVariables_of_spells {environment : Variables} {settings : ModelSettings} {n : Nat}
    (h : Spells environment settings) (hprogram : Tidy settings.program)
    (hmodel : Tidy settings.model) (hlimit : settings.limit = .ofSeconds n) (hlow : 1 ≤ n)
    (hhigh : n ≤ Text.Decimal.max64) : ofVariables environment = settings := by
  have hset := h.limit
  rw [hlimit, Duration.seconds_ofSeconds] at hset
  -- The limit is written in decimal and read back.
  have hread : (ofVariables environment).limit = settings.limit := by
    rw [hlimit]
    exact limit_of_named ⟨toString n, hset, Text.Decimal.numeral_toString n, hlow, hhigh⟩
  obtain ⟨program, model, limit⟩ := settings
  rw [ModelSettings.mk.injEq]
  exact ⟨orDefault_of_tidy h.program hprogram, orDefault_of_tidy h.model hmodel, hread⟩

theorem tidy_defaults : Tidy "ollama" ∧ Tidy "llama3.1:8b" :=
  ⟨Text.tidy_of_trim_eq (by decide) rfl, Text.tidy_of_trim_eq (by decide) rfl⟩

/-- The settings from every environment are normalised. -/
theorem normalised (environment : Variables) : Normalised environment := by
  have hprogram := @takenFrom_orDefault environment "GCM_RUNNER" _ tidy_defaults.1
  have hmodel := @takenFrom_orDefault environment "GCM_MODEL" _ tidy_defaults.2
  obtain ⟨n, hlimit, hlow, hhigh⟩ := exists_limit environment
  constructor
  case program => exact hprogram
  case model => exact hmodel
  case limit =>
    rw [hlimit, Duration.seconds_ofSeconds]
    exact hlow
  case again =>
    intro other h
    exact ofVariables_of_spells h hprogram.tidy hmodel.tidy hlimit hlow hhigh

end Stagehand.ModelSettings
