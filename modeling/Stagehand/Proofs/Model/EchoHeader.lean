import Stagehand.Proofs.Model.Echo
import Stagehand.Proofs.Text.Quoting
/-!
# The header of an echo

An echo begins with four lines, whatever the program and the model are called: a name brings no line
of its own, as nothing hidden is left of it once it is quoted. The first line tells the program and
the model, and so it differs where one of the two does. The main statement is `header_clear`.
-/

namespace Stagehand.ModelSettings

open Text.Quoted (Visible)

/-- The lines of a text; the last is what stands after the last newline. -/
def linesOf (text : String) : List String :=
  (text.toList.splitOn '\n').map String.ofList

/-- The line that tells what is run. -/
def headLine (settings : ModelSettings) : String :=
  "Running LLM: " ++ Text.quotedList [settings.program, "run", settings.model]

/-- An echo begins with four lines, and the first of them tells what is run. -/
structure HeaderClear (settings : ModelSettings) : Prop where
  /-- Nothing stands after the last newline of the header. -/
  lines : linesOf settings.header = [settings.headLine, "", "---", "", ""]
  /-- What is read from the model begins a fifth line, and is no part of the four. -/
  front : ∀ prompt host, ∃ read, settings.echoOn prompt true host = settings.header ++ read ∧
    linesOf (settings.echoOn prompt true host) =
      [settings.headLine, "", "---", ""] ++ linesOf read
  alone : ∀ prompt host cause, host.launch (settings.command prompt) = .error cause →
    settings.echoOn prompt true host = settings.header
  /-- Not only line breaks are missing from the first line, but all that a display hides. -/
  visible : ∀ c ∈ settings.headLine.toList, Visible c
  /-- Two echoes have the same first line just if the same program runs the same model. -/
  told : ∀ other : ModelSettings, ∀ prompt prompt' host host',
    (linesOf (settings.echoOn prompt true host)).head? =
        (linesOf (other.echoOn prompt' true host')).head? ↔
      settings.program = other.program ∧ settings.model = other.model

/-! ## Lines -/

/-- Lines that are written with a newline each are found again, whatever follows them. -/
theorem linesOf_unlines {lines : List String} (h : ∀ line ∈ lines, '\n' ∉ line.toList)
    (rest : String) : linesOf (unlines lines ++ rest) = lines ++ linesOf rest := by
  induction lines with
  | nil => simp [unlines]
  | cons line lines ih =>
    obtain ⟨hline, hlines⟩ := List.forall_mem_cons.mp h
    have hfirst : (unlines (line :: lines) ++ rest).toList =
        line.toList ++ '\n' :: (unlines lines ++ rest).toList := by
      simp [unlines]
    rw [linesOf, hfirst, List.splitOn_append_cons_self_of_not_mem hline, List.map_cons,
      String.ofList_toList, ← linesOf, ih hlines, List.cons_append]

/-! ## The first line -/

theorem visible_headLine (settings : ModelSettings) :
    ∀ c ∈ settings.headLine.toList, Visible c := by
  have hlabel : ∀ c ∈ "Running LLM: ".toList, 0x20 ≤ c.toNat ∧ c.toNat ≤ 0x7E := by simp
  intro c hc
  rw [headLine, String.toList_append, List.mem_append] at hc
  rcases hc with hc | hc
  · exact Text.Quoted.visible_of_ascii (hlabel c hc)
  · exact Text.visible_quotedList _ c hc

theorem headLine_inj {settings other : ModelSettings} : settings.headLine = other.headLine ↔
    settings.program = other.program ∧ settings.model = other.model := by
  rw [headLine, headLine, String.append_right_inj, Text.quotedList_injective.eq_iff]
  simp

theorem linesOf_header (settings : ModelSettings) (rest : String) :
    linesOf (settings.header ++ rest) =
      [settings.headLine, "", "---", ""] ++ linesOf rest := by
  have hlines : ∀ line ∈ settings.headLines, '\n' ∉ line.toList := by
    refine List.forall_mem_cons.mpr ⟨?_, by decide⟩
    exact fun hmem => Text.Quoted.not_visible_newline (settings.visible_headLine _ hmem)
  rw [header_eq, linesOf_unlines hlines]
  rfl

/-! ## Echoes -/

theorem exists_read (settings : ModelSettings) (prompt : String) (host : Host) :
    ∃ read, settings.echoOn prompt true host = settings.header ++ read :=
  settings.exists_echoed (host.launch (settings.command prompt))

theorem head?_linesOf_echoOn (settings : ModelSettings) (prompt : String) (host : Host) :
    (linesOf (settings.echoOn prompt true host)).head? = some settings.headLine := by
  obtain ⟨read, hread⟩ := settings.exists_read prompt host
  rw [hread, linesOf_header]
  rfl

/-- The header tells what is run, for every name of a program and of a model. -/
theorem header_clear (settings : ModelSettings) : HeaderClear settings := by
  constructor
  case lines =>
    have hlines := linesOf_header settings ""
    rwa [String.append_empty] at hlines
  case front =>
    intro prompt host
    obtain ⟨read, hread⟩ := settings.exists_read prompt host
    refine ⟨read, hread, ?_⟩
    rw [hread, linesOf_header]
  case alone =>
    intro prompt host cause hstart
    unfold echoOn runner
    simp only [Host.start_fst, hstart]
    rfl
  case visible => exact visible_headLine settings
  case told =>
    intro other prompt prompt' host host'
    rw [head?_linesOf_echoOn, head?_linesOf_echoOn, Option.some.injEq]
    exact headLine_inj

end Stagehand.ModelSettings
