import Stagehand.Proofs.Model.RunnerOutcome
import Stagehand.Proofs.System.Attempts
/-!
# The echo of the model

With an echo the runner writes to standard output what it reads, after a header. That is all the
difference: the result is the same, and so is the attempt to start the program. Of a process that
ends the echo holds everything, also where the result holds none of it; of one that outlives the
limit it holds the finished lines, which are the longest beginning that ends in a newline. The main
statement is `echo_apart`.
-/

namespace Stagehand.ModelSettings

open Text (LongestLines newline)
open Text.Utf8

/-- What the runner writes to standard output meanwhile. -/
def echoOn (settings : ModelSettings) (prompt : String) (echo : Bool) (host : Host) : String :=
  (settings.runner.run prompt echo host).1.echoed

/-- The four lines before an echo. -/
def headLines (settings : ModelSettings) : List String :=
  ["Running LLM: " ++ Text.quotedList [settings.program, "run", settings.model], "", "---", ""]

/-- The lines with a newline each. -/
def unlines (lines : List String) : String :=
  String.join (lines.map (· ++ "\n"))

/-- An echo is written to standard output and makes no other difference. -/
structure EchoApart (settings : ModelSettings) (prompt : String) (host : Host) : Prop where
  result : settings.resultOn prompt true host = settings.resultOn prompt false host
  world : (settings.runner.run prompt true host).2 = (settings.runner.run prompt false host).2
  /-- The same program is started once, with the same arguments and the same standard input. -/
  attempt : ∀ echo, (host.made (settings.runner.run prompt echo host).2).map Attempt.command =
    [{ program := settings.program, arguments := ["run", settings.model],
       input := .piped (encode prompt) }]
  silent : settings.echoOn prompt false host = ""
  refused : ∀ cause, host.launch (settings.command prompt) = .error cause →
    settings.echoOn prompt true host = unlines settings.headLines
  /-- All that a process wrote is echoed if it ends within the limit, however it ends. -/
  ended : ∀ b, host.launch (settings.command prompt) = .ok b →
    b.linger < settings.limit.milliseconds →
    settings.echoOn prompt true host = unlines settings.headLines ++ decodeLossy b.output
  /-- Only finished lines are echoed of a process that outlives the limit. -/
  hung : ∀ b, host.launch (settings.command prompt) = .ok b →
    settings.limit.milliseconds ≤ b.linger →
    ∃ kept, LongestLines b.output kept ∧
      settings.echoOn prompt true host = unlines settings.headLines ++ decodeLossy kept
  /-- What is echoed is what has been read by the end of any talk to the process. -/
  streamed : ∀ b, host.launch (settings.command prompt) = .ok b →
    ∀ room script, 0 < room → Plays script b →
    ∃ text, settings.echoOn prompt true host = unlines settings.headLines ++ text ∧
      ComesTo settings b room (.opening prompt script) (settings.resultOn prompt true host) text

/-! ## Decoding finished lines -/

/-- Decoding finished lines each by itself gives the reading of them together. -/
theorem decodePieces_of_finished {lines : List Bytes}
    (h : ∀ piece ∈ lines, piece.getLast? = some newline) :
    decodePieces lines = decodeLossy lines.flatten := by
  induction lines with
  | nil => rfl
  | cons piece lines ih =>
    obtain ⟨hpiece, hlines⟩ := List.forall_mem_cons.mp h
    obtain ⟨front, rfl⟩ := List.getLast?_eq_some_iff.mp hpiece
    rw [decodePieces, List.map_cons, String.join_cons, ← decodePieces, ih hlines,
      List.flatten_cons, decodeLossy_append (by decide)]

theorem header_eq (settings : ModelSettings) : settings.header = unlines settings.headLines := by
  rw [← String.toList_inj]
  simp [header, commandLine, arguments, unlines, headLines, String.join]

/-! ## Echoing -/

/-- The result of a reply does not tell whether there was an echo. -/
theorem result_reply (settings : ModelSettings) (echo other : Bool) (launch : Launch) :
    (settings.reply echo launch).result = (settings.reply other launch).result := by
  cases launch <;> rfl

/-- An echo begins with the header, whatever starting the program leads to. -/
theorem exists_echoed (settings : ModelSettings) (launch : Launch) :
    ∃ rest, (settings.reply true launch).echoed = settings.header ++ rest := by
  cases launch with
  | error cause => exact ⟨"", String.append_empty.symm⟩
  | ok b => exact ⟨settings.echoOf b, rfl⟩

section Echoing

variable {settings : ModelSettings} {prompt : String} {host : Host} {b : Behaviour}

theorem echoOn_of_started (hstart : host.launch (settings.command prompt) = .ok b) :
    settings.echoOn prompt true host = unlines settings.headLines ++ settings.echoOf b := by
  unfold echoOn runner
  simp only [Host.start_fst, hstart]
  rw [← header_eq]
  rfl

end Echoing

/-- An echo interferes with nothing, for every prompt and wherever the program is started. -/
theorem echo_apart (settings : ModelSettings) (prompt : String) (host : Host) :
    EchoApart settings prompt host := by
  constructor
  case result =>
    unfold resultOn runner
    simp only [Host.start_fst]
    exact result_reply ..
  case world => rfl
  case attempt =>
    intro echo
    have hmade : host.made (settings.runner.run prompt echo host).2 =
        [⟨settings.command prompt, host.launch (settings.command prompt)⟩] :=
      Host.made_of_append rfl
    rw [hmade]
    rfl
  case silent =>
    unfold echoOn runner
    simp only [Host.start_fst]
    cases host.launch (settings.command prompt) <;> rfl
  case refused =>
    intro cause hstart
    unfold echoOn runner
    simp only [Host.start_fst, hstart]
    exact header_eq settings
  case ended =>
    intro b hstart htime
    rw [echoOn_of_started hstart, echoOf, outlives_eq_false_iff.mpr htime, decodePieces_pieces]
    rfl
  case hung =>
    intro b hstart htime
    refine ⟨_, Text.longestLines_flatten b.output, ?_⟩
    rw [echoOn_of_started hstart, echoOf, outlives_eq_true_iff.mpr htime]
    exact congrArg _ (decodePieces_of_finished fun _ => Text.getLast?_of_mem_finishedPieces)
  case streamed =>
    intro b hstart room script hroom hplays
    refine ⟨_, echoOn_of_started hstart, ?_⟩
    rw [resultOn_of_started hstart]
    exact comesTo_outcome settings hroom hplays prompt

end Stagehand.ModelSettings
