import Stagehand.System.Process
/-!
# The host

The host is what stands outside a run: it answers every attempt to start a command, in the light of
all attempts before it, and it keeps the list of them. A command with a NUL in it is refused before
the host is asked.
-/

namespace Stagehand

/-- The outside of a run, with the attempts made so far, the oldest first. -/
structure Host where
  respond : List Attempt → Command → Launch
  attempts : List Attempt := []

namespace Host

/-- What starting the command now leads to. -/
def launch (host : Host) (c : Command) : Launch :=
  if c.hasNul then .error .nulByte else host.respond host.attempts c

/-- Starts a command and keeps the attempt. -/
def start (host : Host) (c : Command) : Launch × Host :=
  (host.launch c, { host with attempts := host.attempts ++ [⟨c, host.launch c⟩] })

@[simp] theorem start_fst (host : Host) (c : Command) : (host.start c).1 = host.launch c := rfl

@[simp] theorem attempts_start (host : Host) (c : Command) :
    (host.start c).2.attempts = host.attempts ++ [⟨c, host.launch c⟩] := rfl

/-- The attempts that gave a process. -/
def calls (host : Host) : List Attempt :=
  host.attempts.filter Attempt.started

end Host

end Stagehand
