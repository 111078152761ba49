import RowSource.Status

/-!
# Traces of a status

The steps that sessions and tables take on a status, as data, with the guards that are held
between them. A busy guard ends the busy period when it is released; an iteration guard is counted
as long as it is held, and a guard that replaces another is taken before the other is released.
-/

namespace RowSource

namespace Status

inductive Step where
  | markBusy
  | releaseBusy
  | enterIteration (id : String)
  | exitIteration (id : String)
  | requireOpen
  | requireNotBusy
  | requireNoIterators
  | requireNoIteratorsUnlessUnsafe
  | markClosed
  | setUnsafeMode (enabled : Bool)
  | setIntegerMode (mode : IntegerMode)
  | deferFailure (failure : Failure)
  | discardStale
  | notePlanRejected
  | takePending
  | takePlanRejected
  | explain (fault : EngineFault)
  | describe

inductive Answer where
  | done
  | failed (failure : Failure)
  | flag (value : Bool)
  | nothing
  | described (status : String) (guards : List String)

structure Guarded where
  status : Status
  busyHeld : Bool := false
  /-- The names of the iteration guards, the latest first. -/
  iterations : List String := []

namespace Guarded

def guardText : String := "IterationGuard \x7b .. \x7d"

def checked (result : Except Failure Unit) : Answer :=
  match result with
  | .ok () => .done
  | .error failure => .failed failure

def step (g : Guarded) : Step → Answer × Guarded
  | .markBusy =>
      match g.status.markBusy with
      | .ok status => (.done, { g with status := status, busyHeld := true })
      | .error failure => (.failed failure, g)
  | .releaseBusy =>
      if g.busyHeld then
        (.flag true, { g with status := g.status.clearBusy, busyHeld := false })
      else
        (.flag false, g)
  | .enterIteration id =>
      let entered := g.status.enterIteration
      if g.iterations.contains id then (.done, { g with status := entered.exitIteration })
      else (.done, { g with status := entered, iterations := id :: g.iterations })
  | .exitIteration id =>
      if g.iterations.contains id then
        (.flag true,
          { g with status := g.status.exitIteration, iterations := g.iterations.erase id })
      else
        (.flag false, g)
  | .requireOpen => (checked g.status.requireOpen, g)
  | .requireNotBusy => (checked g.status.requireNotBusy, g)
  | .requireNoIterators => (checked g.status.requireNoIterators, g)
  | .requireNoIteratorsUnlessUnsafe => (checked g.status.requireNoIteratorsUnlessUnsafe, g)
  | .markClosed =>
      let (was, status) := g.status.markClosed
      (.flag was, { g with status := status })
  | .setUnsafeMode enabled => (.done, { g with status := { g.status with unsafeMode := enabled } })
  | .setIntegerMode mode => (.done, { g with status := { g.status with integerMode := mode } })
  | .deferFailure failure => (.done, { g with status := g.status.deferFailure failure })
  | .discardStale => (.done, { g with status := g.status.discardStale })
  | .notePlanRejected => (.done, { g with status := g.status.notePlanRejected })
  | .takePending =>
      let (pending, status) := g.status.takePending
      ((match pending with
        | some failure => .failed failure
        | none => .nothing), { g with status := status })
  | .takePlanRejected =>
      let (was, status) := g.status.takePlanRejected
      (.flag was, { g with status := status })
  | .explain fault =>
      let (failure, status) := g.status.explain fault
      (.failed failure, { g with status := status })
  | .describe => (.described g.status.describe (g.iterations.map fun _ => guardText), g)

def run (g : Guarded) : List Step → List (Answer × Status)
  | [] => []
  | step :: rest =>
      let (answer, next) := g.step step
      (answer, next.status) :: next.run rest

end Guarded

end Status

end RowSource
