import Stagehand.Model.Runner
import Stagehand.Proofs.Text.LenientReading
/-!
# Reading the model line by line

The runner decodes what the model writes one line at a time. The main statement,
`run_reads_whole_output`, says that the lines do not show in the result: a model that ends well and
in time has answered the lenient reading of all that it wrote.
-/

namespace Stagehand

namespace Text

/-- A line ends with a newline, or nothing comes after it. -/
theorem takeLine_ends (bytes : Bytes) :
    (∃ front, (takeLine bytes).1 = front ++ [newline]) ∨ (takeLine bytes).2 = [] := by
  induction bytes with
  | nil => exact .inr rfl
  | cons b rest ih =>
    rw [takeLine]
    split_ifs with hb
    · exact .inl ⟨[], by rw [hb, List.nil_append]⟩
    · rcases ih with ⟨front, hfront⟩ | hrest
      · exact .inl ⟨b :: front, by simp [hfront]⟩
      · exact .inr hrest

theorem decodeLossy_takeLine (bytes : Bytes) :
    Utf8.decodeLossy (takeLine bytes).1 ++ Utf8.decodeLossy (takeLine bytes).2 =
      Utf8.decodeLossy bytes := by
  conv_rhs => rw [← takeLine_append bytes]
  rcases takeLine_ends bytes with ⟨front, hfront⟩ | hrest
  · rw [hfront, Utf8.decodeLossy_append (by decide)]
  · rw [hrest, List.append_nil]
    exact String.append_empty

end Text

namespace ModelSettings

open Text Text.Utf8

/-- Decoding the pieces each by itself gives the reading of the whole. -/
theorem decodePieces_pieces (bytes : Bytes) : decodePieces (pieces bytes) = decodeLossy bytes := by
  induction bytes using pieces.induct with
  | case1 =>
    rw [pieces]
    rfl
  | case2 b rest ih =>
    rw [pieces, decodePieces, List.map_cons, String.join_cons, ← decodePieces, ih,
      decodeLossy_takeLine]

theorem run_result {settings : ModelSettings} {prompt : String} {host : Host} {b : Behaviour}
    (hstart : host.launch (settings.command prompt) = .ok b) (echo : Bool) :
    (settings.runner.run prompt echo host).1.result = settings.outcome b := by
  unfold runner
  simp only [Host.start_fst, hstart]
  rfl

theorem outlives_eq_true_iff {settings : ModelSettings} {b : Behaviour} :
    settings.outlives b = true ↔ settings.limit.milliseconds ≤ b.linger := by
  unfold outlives
  rw [decide_eq_true_iff]

theorem outlives_eq_false_iff {settings : ModelSettings} {b : Behaviour} :
    settings.outlives b = false ↔ b.linger < settings.limit.milliseconds := by
  unfold outlives
  rw [decide_eq_false_iff_not, Nat.not_le]

theorem outcome_of_success {settings : ModelSettings} {b : Behaviour}
    (htime : b.linger < settings.limit.milliseconds) (hexit : b.ending = .exited 0) :
    settings.outcome b = .ok (decodeLossy b.output) := by
  unfold outcome
  rw [outlives_eq_false_iff.mpr htime, b.ending.succeeded_iff.mpr hexit, decodePieces_pieces]
  rfl

/-- A model that ends well and in time has answered the lenient reading of all that it wrote, with
just the line feeds and the carriage returns that it wrote. -/
theorem run_reads_whole_output (settings : ModelSettings) (prompt : String) (echo : Bool)
    (host : Host) (b : Behaviour) (hstart : host.launch (settings.command prompt) = .ok b)
    (htime : b.linger < settings.limit.milliseconds) (hexit : b.ending = .exited 0) :
    (settings.runner.run prompt echo host).1.result = .ok (decodeLossy b.output) ∧
      (∀ cs, LossyText b.output cs ↔ (decodeLossy b.output).toList = cs) ∧
      (decodeLossy b.output).toList.count '\n' = b.output.count 0x0A ∧
      (decodeLossy b.output).toList.count '\r' = b.output.count 0x0D := by
  have hlossy : LossyText b.output (decodeLossy b.output).toList := lossyText_iff.mpr rfl
  refine ⟨?_, fun cs => lossyText_iff, ?_, ?_⟩
  · rw [run_result hstart, outcome_of_success htime hexit]
  · exact hlossy.count_ascii (by decide)
  · exact hlossy.count_ascii (by decide)

/-- A model that breaks off characters of three, four and two bytes before a line feed, before a
carriage return and at the end. -/
def brokenOff : Behaviour where
  output := [0xE2, 0x82, 0x0A, 0xF0, 0x9F, 0x98, 0x0D, 0x0A, 0xC3]

/-- A host on which every command behaves so. -/
def brokenOffHost : Host where
  respond _ _ := .ok brokenOff

theorem run_reads_broken_off :
    brokenOffHost.launch (({} : ModelSettings).command "p") = .ok brokenOff ∧
      brokenOff.linger < ({} : ModelSettings).limit.milliseconds ∧
      brokenOff.ending = .exited 0 ∧
      (({} : ModelSettings).runner.run "p" true brokenOffHost).1.result =
        .ok "\uFFFD\n\uFFFD\r\n\uFFFD" := by
  have hstart : brokenOffHost.launch (({} : ModelSettings).command "p") = .ok brokenOff := by
    rfl
  have htime : brokenOff.linger < ({} : ModelSettings).limit.milliseconds := by decide
  have htext : decodeLossy brokenOff.output = "\uFFFD\n\uFFFD\r\n\uFFFD" := by decide
  obtain ⟨hresult, _⟩ := run_reads_whole_output {} "p" true brokenOffHost brokenOff hstart htime rfl
  exact ⟨hstart, htime, rfl, htext ▸ hresult⟩

end ModelSettings

end Stagehand
