import Stagehand.System.Host
/-!
# The attempts of a run

A host keeps all attempts, so those of a run are what the host after it has more than the host
before it.
-/

namespace Stagehand

/-- The attempt gave a process that ended so. -/
def Attempt.EndedWith (a : Attempt) (ending : Ending) : Prop :=
  ∃ b, a.launch = .ok b ∧ b.ending = ending

/-- What a process that reads its standard input to the end has read, unless it shares the input of
the program that started it. -/
def Attempt.read? (a : Attempt) : Option Bytes :=
  match a.launch, a.command.input with
  | .error _, _ | _, .shared => none
  | .ok b, .nothing => if b.readsInput then some [] else none
  | .ok b, .piped bytes => if b.readsInput then some bytes else none

theorem Attempt.read?_of_piped {a : Attempt} {b : Behaviour} {bytes : Bytes}
    (hlaunch : a.launch = .ok b) (hreads : b.readsInput = true)
    (hinput : a.command.input = .piped bytes) : a.read? = some bytes := by
  unfold read?
  rw [hlaunch, hinput]
  exact if_pos hreads

namespace Host

/-- The attempts that were made from one host to a later one. -/
def made (before after : Host) : List Attempt :=
  after.attempts.drop before.attempts.length

/-- The commands that were tried from one host to a later one. -/
def tried (before after : Host) : List Command :=
  (before.made after).map Attempt.command

theorem made_of_append {before after : Host} {attempts : List Attempt}
    (h : after.attempts = before.attempts ++ attempts) : before.made after = attempts := by
  unfold made
  rw [h, List.drop_left]

theorem tried_of_append {before after : Host} {commands : List Command}
    (h : after.attempts.map Attempt.command = before.attempts.map Attempt.command ++ commands) :
    before.tried after = commands := by
  unfold tried made
  rw [List.map_drop, h, ← List.length_map Attempt.command, List.drop_left]

end Host

end Stagehand
