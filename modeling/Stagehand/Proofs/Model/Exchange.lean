import Mathlib.Logic.Relation
import Mathlib.Tactic.ByContra
import Stagehand.Model.Runner
import Stagehand.Proofs.Text.FinishedLines
/-!
# Talking to the model over pipes

What a process does is told in `Behaviour` by what becomes of it. Here the talk to it is taken one
byte at a time: the process reads and writes in an order of its own (`Act`), three tasks write the
prompt, read standard output and read standard error, and between them lie pipes that hold only so
many bytes (`Move`). No order of the moves makes a difference: whatever has been read so far goes on
to the whole (`Tallies`), the talk is never stuck before the process has done all that it does
(`Tallies.script_of_stuck`), it cannot go on for ever (`Move.weight_lt`), and it comes to the
outcome and to the echo that the behaviour stands for. The main statement is `comesTo_outcome`.
-/

namespace Stagehand

open Text (newline pieces pieces_line pieces_last finishedPieces_of)

/-- One thing that a process does. -/
inductive Act
  /-- It reads one byte of its standard input, if there is one left. -/
  | read
  /-- It reads its standard input to the end. -/
  | readAll
  /-- It writes to standard output. -/
  | write (byte : UInt8)
  /-- It writes to standard error. -/
  | complain (byte : UInt8)

/-- What the act writes to standard output. -/
def Act.output? : Act → Option UInt8
  | .write byte => some byte
  | .read | .readAll | .complain _ => none

/-- What the act writes to standard error. -/
def Act.errors? : Act → Option UInt8
  | .complain byte => some byte
  | .read | .readAll | .write _ => none

/-- The acts write what the process is known to write; what they read, and when, is left open. -/
structure Plays (script : List Act) (b : Behaviour) : Prop where
  output : script.filterMap Act.output? = b.output
  errors : script.filterMap Act.errors? = b.errors

/-- A moment of the talk to a process. -/
structure Exchange where
  /-- What the process has not done yet. -/
  script : List Act
  /-- What has not been written to the process. -/
  unsent : Bytes
  /-- Writing was broken off, since the process had ended. -/
  broken : Bool := false
  inPipe : Bytes := []
  outPipe : Bytes := []
  errPipe : Bytes := []
  /-- The pieces of standard output that have been read, each with its newline. -/
  lines : List Bytes := []
  /-- What has been read of the piece under way. -/
  line : Bytes := []
  /-- What has been read of standard error. -/
  errors : Bytes := []
  ended : Bool := false

namespace Exchange

/-- The talk about a prompt before it begins. -/
def opening (prompt : String) (script : List Act) : Exchange where
  script
  unsent := Text.Utf8.encode prompt

/-- The text that has been read, which is also what has been echoed. -/
def text (x : Exchange) : String :=
  ModelSettings.decodePieces x.lines

/-- The prompt has been written, or the process has ended before that. -/
def Written (x : Exchange) : Prop :=
  x.unsent = [] ∨ x.broken = true

end Exchange

open Exchange

/-- One move of the process or of one of the three tasks, over pipes that hold `room` bytes. -/
inductive Move (settings : ModelSettings) (b : Behaviour) (room : Nat) : Exchange → Exchange → Prop
  | send {x : Exchange} {byte : UInt8} {rest : Bytes} : x.unsent = byte :: rest →
      x.ended = false → x.inPipe.length < room →
      Move settings b room x { x with unsent := rest, inPipe := x.inPipe ++ [byte] }
  | breakOff {x : Exchange} : x.unsent ≠ [] → x.ended = true → x.broken = false →
      Move settings b room x { x with broken := true }
  | read {x : Exchange} {acts : List Act} {byte : UInt8} {rest : Bytes} :
      x.script = .read :: acts → x.inPipe = byte :: rest →
      Move settings b room x { x with script := acts, inPipe := rest }
  /-- The input has ended. -/
  | readNothing {x : Exchange} {acts : List Act} : x.script = .read :: acts →
      x.inPipe = [] → x.unsent = [] → Move settings b room x { x with script := acts }
  | readOn {x : Exchange} {acts : List Act} {byte : UInt8} {rest : Bytes} :
      x.script = .readAll :: acts → x.inPipe = byte :: rest →
      Move settings b room x { x with inPipe := rest }
  | readEnd {x : Exchange} {acts : List Act} : x.script = .readAll :: acts →
      x.inPipe = [] → x.unsent = [] → Move settings b room x { x with script := acts }
  | write {x : Exchange} {acts : List Act} {byte : UInt8} : x.script = .write byte :: acts →
      x.outPipe.length < room →
      Move settings b room x { x with script := acts, outPipe := x.outPipe ++ [byte] }
  | complain {x : Exchange} {acts : List Act} {byte : UInt8} : x.script = .complain byte :: acts →
      x.errPipe.length < room →
      Move settings b room x { x with script := acts, errPipe := x.errPipe ++ [byte] }
  | take {x : Exchange} {byte : UInt8} {rest : Bytes} : x.outPipe = byte :: rest →
      byte ≠ newline →
      Move settings b room x { x with outPipe := rest, line := x.line ++ [byte] }
  | takeLine {x : Exchange} {rest : Bytes} : x.outPipe = newline :: rest →
      Move settings b room x
        { x with outPipe := rest, line := [], lines := x.lines ++ [x.line ++ [newline]] }
  /-- The output has ended in the middle of a line. -/
  | takeLast {x : Exchange} : x.ended = true → x.outPipe = [] → x.line ≠ [] →
      Move settings b room x { x with line := [], lines := x.lines ++ [x.line] }
  | takeError {x : Exchange} {byte : UInt8} {rest : Bytes} : x.errPipe = byte :: rest →
      Move settings b room x { x with errPipe := rest, errors := x.errors ++ [byte] }
  /-- The process ends, unless it stays alive past the limit. -/
  | ends {x : Exchange} : x.script = [] → x.ended = false → settings.outlives b = false →
      Move settings b room x { x with ended := true }

/-- How the talk comes to a result. Reading and writing take no time, so the limit is not over as
long as something moves. -/
inductive Concluded (settings : ModelSettings) (b : Behaviour) (room : Nat) (x : Exchange) :
    Except ModelError String → Prop
  /-- Standard output is read to its end, and the process has succeeded. -/
  | answered : x.ended = true → x.outPipe = [] → x.line = [] → x.Written →
      b.ending.succeeded = true → Concluded settings b room x (.ok x.text)
  /-- The process has failed, and standard error is read to its end as well. -/
  | failed : x.ended = true → x.outPipe = [] → x.line = [] → x.Written →
      b.ending.succeeded = false → x.errPipe = [] →
      Concluded settings b room x
        (.error (.nonZeroExit b.ending.code? (Text.trim (Text.Utf8.decodeLossy x.errors))))
  /-- The process is still there when the limit is over. -/
  | expired : x.ended = false → (∀ y, ¬ Move settings b room x y) →
      Concluded settings b room x (.error (.timeout settings.limit.seconds))

/-- The talk goes from one moment to a later one. -/
abbrev Reaches (settings : ModelSettings) (b : Behaviour) (room : Nat) :
    Exchange → Exchange → Prop :=
  Relation.ReflTransGen (Move settings b room)

/-- However the talk goes on, it comes to this result, and this text has been read by then. -/
structure ComesTo (settings : ModelSettings) (b : Behaviour) (room : Nat) (x : Exchange)
    (result : Except ModelError String) (text : String) : Prop where
  only : ∀ y, Reaches settings b room x y → ∀ other, Concluded settings b room y other →
    other = result ∧ y.text = text
  /-- It is never stuck without a result. -/
  live : ∀ y, Reaches settings b room x y →
    ∃ z, Reaches settings b room y z ∧ Concluded settings b room z result
  /-- It does not go on for ever. -/
  bounded : Acc (fun z y => Move settings b room y z) x

variable {settings : ModelSettings} {b : Behaviour} {room : Nat} {x y : Exchange}

/-! ## What has been read goes on to the whole -/

/-- What has been read and what is under way are what the process writes in all. -/
structure Tallies (settings : ModelSettings) (b : Behaviour) (x : Exchange) : Prop where
  output : pieces b.output =
    x.lines ++ pieces (x.line ++ x.outPipe ++ x.script.filterMap Act.output?)
  errors : b.errors = x.errors ++ x.errPipe ++ x.script.filterMap Act.errors?
  line : newline ∉ x.line
  lines : x.ended = false → ∀ piece ∈ x.lines, piece.getLast? = some newline
  ended : x.ended = true → x.script = [] ∧ settings.outlives b = false

theorem Tallies.opening {script : List Act} (h : Plays script b) (prompt : String) :
    Tallies settings b (opening prompt script) where
  output := by
    rw [← h.output]
    rfl
  errors := h.errors.symm
  line := by simp [Exchange.opening]
  lines _ := nofun
  ended := nofun

/-- A process that has something left to do has not ended. -/
theorem Tallies.not_ended (h : Tallies settings b x) {act : Act} {acts : List Act}
    (hscript : x.script = act :: acts) : x.ended = false := by
  rw [Bool.eq_false_iff]
  intro hover
  rw [(h.ended hover).1] at hscript
  cases hscript

theorem Tallies.move (h : Tallies settings b x) (hmove : Move settings b room x y) :
    Tallies settings b y := by
  -- A move of the script is one of a process that has not ended.
  have hopen (act : Act) (acts : List Act) (hscript : x.script = act :: acts) :
      x.ended ≠ true := by
    simp [h.not_ended hscript]
  obtain ⟨houtput, herrors, hline, hlines, hended⟩ := h
  cases hmove with
  | send | breakOff | readOn => exact ⟨houtput, herrors, hline, hlines, hended⟩
  | read hscript | readNothing hscript | readEnd hscript =>
    have hnever := hopen _ _ hscript
    rw [hscript] at houtput herrors
    exact ⟨houtput, herrors, hline, hlines, fun hover => absurd hover hnever⟩
  | write hscript =>
    have hnever := hopen _ _ hscript
    rw [hscript] at houtput herrors
    refine ⟨?_, herrors, hline, hlines, fun hover => absurd hover hnever⟩
    simpa [Act.output?] using houtput
  | complain hscript =>
    have hnever := hopen _ _ hscript
    rw [hscript] at houtput herrors
    refine ⟨houtput, ?_, hline, hlines, fun hover => absurd hover hnever⟩
    simpa [Act.errors?] using herrors
  | take hout hbyte =>
    rw [hout] at houtput
    refine ⟨?_, herrors, ?_, hlines, hended⟩
    · simpa using houtput
    · simpa using ⟨hline, hbyte.symm⟩
  | takeLine hout =>
    rw [hout, List.append_assoc, List.cons_append, pieces_line hline] at houtput
    refine ⟨?_, herrors, by simp, ?_, hended⟩
    · simpa using houtput
    · intro hover piece hmem
      obtain hmem | hmem := List.mem_append.mp hmem
      · exact hlines hover piece hmem
      · obtain rfl := List.mem_singleton.mp hmem
        simp
  | takeLast hover hout hne =>
    rw [hout, (hended hover).1] at houtput
    refine ⟨?_, herrors, by simp, fun halive => by simp [hover] at halive, hended⟩
    rw [hout, (hended hover).1]
    simpa [pieces_last hline hne, pieces] using houtput
  | takeError herr =>
    rw [herr] at herrors
    refine ⟨houtput, ?_, hline, hlines, hended⟩
    simpa using herrors
  | ends hscript _ hin =>
    refine ⟨houtput, herrors, hline, ?_, fun _ => ⟨hscript, hin⟩⟩
    intro halive
    cases halive

theorem Tallies.reaches (h : Tallies settings b x) (hreaches : Reaches settings b room x y) :
    Tallies settings b y := by
  induction hreaches with
  | refl => exact h
  | tail _ hmove ih => exact ih.move hmove

/-! ## No talk is stuck and none goes on for ever -/

theorem pipes_of_stuck (hstuck : ∀ y, ¬ Move settings b room x y) :
    x.outPipe = [] ∧ x.errPipe = [] := by
  constructor
  · cases hout : x.outPipe with
    | nil => rfl
    | cons byte rest =>
      by_cases hbyte : byte = newline
      · exact absurd (.takeLine (hbyte ▸ hout)) (hstuck _)
      · exact absurd (.take hout hbyte) (hstuck _)
  · cases herr : x.errPipe with
    | nil => rfl
    | cons byte rest => exact absurd (.takeError herr) (hstuck _)

/-- A process that wants to read either finds something or is sent something. -/
theorem input_of_stuck (hroom : 0 < room) (halive : x.ended = false)
    (hstuck : ∀ y, ¬ Move settings b room x y) (hin : x.inPipe = []) : x.unsent = [] := by
  cases hunsent : x.unsent with
  | nil => rfl
  | cons byte rest => exact absurd (.send hunsent halive (by simpa [hin] using hroom)) (hstuck _)

/-- No pipe keeps the process from doing all that it does. -/
theorem Tallies.script_of_stuck (hroom : 0 < room) (h : Tallies settings b x)
    (hstuck : ∀ y, ¬ Move settings b room x y) : x.script = [] := by
  obtain ⟨hout, herr⟩ := pipes_of_stuck hstuck
  cases hscript : x.script with
  | nil => rfl
  | cons act acts =>
    have hinput := input_of_stuck hroom (h.not_ended hscript) hstuck
    cases act with
    | read =>
      cases hin : x.inPipe with
      | nil => exact absurd (.readNothing hscript hin (hinput hin)) (hstuck _)
      | cons byte rest => exact absurd (.read hscript hin) (hstuck _)
    | readAll =>
      cases hin : x.inPipe with
      | nil => exact absurd (.readEnd hscript hin (hinput hin)) (hstuck _)
      | cons byte rest => exact absurd (.readOn hscript hin) (hstuck _)
    | write byte => exact absurd (.write hscript (by simpa [hout] using hroom)) (hstuck _)
    | complain byte => exact absurd (.complain hscript (by simpa [herr] using hroom)) (hstuck _)

/-- When nothing moves, the process has ended and the tasks are done with it, or it stays alive past
the limit. -/
theorem Tallies.of_stuck (hroom : 0 < room) (h : Tallies settings b x)
    (hstuck : ∀ y, ¬ Move settings b room x y) :
    (x.ended = false → settings.outlives b = true) ∧
      (x.ended = true → x.line = [] ∧ x.Written) := by
  constructor
  · intro halive
    by_contra hin
    exact hstuck _ (.ends (h.script_of_stuck hroom hstuck) halive (Bool.eq_false_iff.mpr hin))
  · intro hover
    constructor
    · by_contra hne
      exact hstuck _ (.takeLast hover (pipes_of_stuck hstuck).1 hne)
    · by_contra hunwritten
      obtain ⟨hunsent, hbroken⟩ := not_or.mp hunwritten
      exact hstuck _ (.breakOff hunsent hover (Bool.eq_false_iff.mpr hbroken))

theorem Tallies.concludes (hroom : 0 < room) (h : Tallies settings b x)
    (hstuck : ∀ y, ¬ Move settings b room x y) : ∃ result, Concluded settings b room x result := by
  obtain ⟨hout, herr⟩ := pipes_of_stuck hstuck
  cases hended : x.ended with
  | false => exact ⟨_, .expired hended hstuck⟩
  | true =>
    obtain ⟨hline, hwritten⟩ := (h.of_stuck hroom hstuck).2 hended
    cases hgood : b.ending.succeeded with
    | true => exact ⟨_, .answered hended hout hline hwritten hgood⟩
    | false => exact ⟨_, .failed hended hout hline hwritten hgood herr⟩

/-- How much there is left to do: a byte is written, put into the pipe and taken out of it. -/
def Exchange.weight (x : Exchange) : Nat :=
  3 * x.script.length + 2 * x.unsent.length + x.inPipe.length + 2 * x.outPipe.length +
    x.line.length + x.errPipe.length + (!x.broken).toNat + (!x.ended).toNat

/-- Every move leaves less to do. -/
theorem Move.weight_lt (h : Move settings b room x y) : y.weight < x.weight := by
  unfold Exchange.weight
  cases h with
  | send hunsent =>
    simp only [hunsent, List.length_append, List.length_cons, List.length_nil]
    omega
  | breakOff _ _ hbroken =>
    simp only [hbroken, Bool.not_true, Bool.not_false, Bool.toNat_true, Bool.toNat_false]
    omega
  | read hscript hin =>
    simp only [hscript, hin, List.length_cons]
    omega
  | readNothing hscript | readEnd hscript =>
    simp only [hscript, List.length_cons]
    omega
  | readOn _ hin =>
    simp only [hin, List.length_cons]
    omega
  | write hscript | complain hscript =>
    simp only [hscript, List.length_append, List.length_cons, List.length_nil]
    omega
  | take hout | takeError hout =>
    simp only [hout, List.length_append, List.length_cons, List.length_nil]
    omega
  | takeLine hout =>
    simp only [hout, List.length_cons, List.length_nil]
    omega
  | takeLast _ _ hne =>
    have hlength := List.length_pos_iff.mpr hne
    simp only [List.length_nil]
    omega
  | ends _ hended =>
    simp only [hended, Bool.not_true, Bool.not_false, Bool.toNat_true, Bool.toNat_false]
    omega

theorem Tallies.exists_concluded (hroom : 0 < room) (h : Tallies settings b x) :
    ∃ z result, Reaches settings b room x z ∧ Concluded settings b room z result := by
  -- The induction is on what is left to do; where nothing moves there is a result.
  induction hweight : x.weight using Nat.strongRecOn generalizing x with
  | ind n ih =>
    by_cases hmoves : ∃ y, Move settings b room x y
    · obtain ⟨y, hmove⟩ := hmoves
      obtain ⟨z, result, hreaches, hconcluded⟩ :=
        ih y.weight (hweight ▸ hmove.weight_lt) (h.move hmove) rfl
      exact ⟨z, result, .head hmove hreaches, hconcluded⟩
    · obtain ⟨result, hconcluded⟩ := h.concludes hroom fun y hmove => hmoves ⟨y, hmove⟩
      exact ⟨x, result, .refl, hconcluded⟩

/-! ## The result -/

/-- The result of a talk and the text read in it are those of the behaviour. -/
theorem Tallies.result_eq (hroom : 0 < room) (h : Tallies settings b x)
    {result : Except ModelError String} (hconcluded : Concluded settings b room x result) :
    result = settings.outcome b ∧ x.text = settings.echoOf b := by
  have hread (hover : x.ended = true) (hout : x.outPipe = []) (hline : x.line = []) :
      settings.outlives b = false ∧ pieces b.output = x.lines := by
    obtain ⟨hscript, hin⟩ := h.ended hover
    have houtput := h.output
    rw [hout, hline, hscript] at houtput
    exact ⟨hin, by simpa [pieces] using houtput⟩
  unfold ModelSettings.outcome ModelSettings.echoOf Exchange.text
  cases hconcluded with
  | answered hover hout hline _ hgood =>
    obtain ⟨hin, hpieces⟩ := hread hover hout hline
    rw [hin, hgood, hpieces]
    exact ⟨rfl, rfl⟩
  | failed hover hout hline _ hbad herr =>
    obtain ⟨hin, hpieces⟩ := hread hover hout hline
    have herrors : b.errors = x.errors := by
      have herrors := h.errors
      rw [herr, (h.ended hover).1] at herrors
      simpa using herrors
    rw [hin, hbad, hpieces, herrors]
    exact ⟨rfl, rfl⟩
  | expired halive hstuck =>
    have hin := (h.of_stuck hroom hstuck).1 halive
    have hpieces : pieces b.output = x.lines ++ pieces x.line := by
      have houtput := h.output
      rw [h.script_of_stuck hroom hstuck, (pipes_of_stuck hstuck).1] at houtput
      simpa using houtput
    rw [hin, finishedPieces_of hpieces (h.lines halive) h.line]
    exact ⟨rfl, rfl⟩

/-- Whatever the process reads, and in whatever order the moves come, the talk comes to the outcome
and to the echo of the behaviour. -/
theorem comesTo_outcome (settings : ModelSettings) (hroom : 0 < room) {script : List Act}
    (hplays : Plays script b) (prompt : String) :
    ComesTo settings b room (opening prompt script) (settings.outcome b) (settings.echoOf b) := by
  have htallies (y : Exchange) (hreaches : Reaches settings b room (opening prompt script) y) :
      Tallies settings b y :=
    (Tallies.opening hplays prompt).reaches hreaches
  constructor
  case only =>
    intro y hreaches other hconcluded
    exact (htallies y hreaches).result_eq hroom hconcluded
  case live =>
    intro y hreaches
    obtain ⟨z, result, hlater, hconcluded⟩ := (htallies y hreaches).exists_concluded hroom
    obtain ⟨rfl, -⟩ := (htallies z (hreaches.trans hlater)).result_eq hroom hconcluded
    exact ⟨z, hlater, hconcluded⟩
  case bounded =>
    exact Subrelation.accessible Move.weight_lt (InvImage.accessible _ (Nat.lt_wfRel.wf.apply _))

/-! ## Scripts -/

/-- The acts of a process that first reads all of its input or nothing of it, then writes its
output, and then its errors. -/
def Behaviour.script (b : Behaviour) : List Act :=
  (if b.readsInput then [.readAll] else []) ++ b.output.map .write ++ b.errors.map .complain

theorem Behaviour.plays_script (b : Behaviour) : Plays b.script b := by
  have hreads : ∀ act ∈ if b.readsInput then [Act.readAll] else [],
      act.output? = none ∧ act.errors? = none := by
    split <;> simp [Act.output?, Act.errors?]
  have hnone (f : Act → Option UInt8) (g : UInt8 → Act) (bytes : Bytes)
      (h : ∀ byte, f (g byte) = none) : (bytes.map g).filterMap f = [] := by
    simp [List.filterMap_map, h]
  have hall (f : Act → Option UInt8) (g : UInt8 → Act) (bytes : Bytes)
      (h : ∀ byte, f (g byte) = some byte) : (bytes.map g).filterMap f = bytes := by
    simp [List.filterMap_map, h]
  constructor
  case output =>
    rw [Behaviour.script, List.filterMap_append, List.filterMap_append,
      List.filterMap_eq_nil_iff.mpr fun act hact => (hreads act hact).1, hall _ _ _ fun _ => rfl,
      hnone _ _ _ fun _ => rfl, List.nil_append, List.append_nil]
  case errors =>
    rw [Behaviour.script, List.filterMap_append, List.filterMap_append,
      List.filterMap_eq_nil_iff.mpr fun act hact => (hreads act hact).2, hnone _ _ _ fun _ => rfl,
      hall _ _ _ fun _ => rfl, List.nil_append]
    rfl

end Stagehand
