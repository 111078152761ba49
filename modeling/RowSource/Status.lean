import RowSource.Engine.Fault

/-!
# The status of a session

The flags that a session shares with every table it hosts: whether it is open, whether an operation
is running, how many iterators are live, and what its callbacks left for the caller to be told.
-/

namespace RowSource

structure Status where
  isOpen : Bool := true
  isBusy : Bool := false
  unsafeMode : Bool := false
  integerMode : IntegerMode := .loose
  iterators : Nat := 0
  /-- Whether a table turned down a plan during the current call of the engine. -/
  planRejected : Bool := false
  /-- The failure of a callback that waits for the call of the engine around it to return. -/
  pending : Option Failure := none
  deriving DecidableEq

namespace Status

/-! ### Preconditions -/

def requireOpen (s : Status) : Except Failure Unit :=
  if s.isOpen then .ok () else .error (.refused .notOpen)

def requireNotBusy (s : Status) : Except Failure Unit :=
  if s.isBusy then .error (.refused .busy) else .ok ()

def requireNoIterators (s : Status) : Except Failure Unit :=
  if s.iterators = 0 then .ok () else .error (.refused (.iteratorsActive s.iterators))

def requireNoIteratorsUnlessUnsafe (s : Status) : Except Failure Unit :=
  if s.unsafeMode then .ok () else s.requireNoIterators

/-! ### Busy periods, iterations and closing -/

def markBusy (s : Status) : Except Failure Status :=
  if s.isBusy then .error (.refused .busy) else .ok { s with isBusy := true }

def clearBusy (s : Status) : Status := { s with isBusy := false }

def enterIteration (s : Status) : Status := { s with iterators := s.iterators + 1 }

def exitIteration (s : Status) : Status := { s with iterators := s.iterators - 1 }

def markClosed (s : Status) : Bool × Status := (s.isOpen, { s with isOpen := false })

/-! ### What callbacks leave behind -/

/-- Keeps the failure of a callback. Only the first one is kept. -/
def deferFailure (s : Status) (failure : Failure) : Status :=
  match s.pending with
  | some _ => s
  | none => { s with pending := some failure }

def takePending (s : Status) : Option Failure × Status := (s.pending, { s with pending := none })

def notePlanRejected (s : Status) : Status := { s with planRejected := true }

def takePlanRejected (s : Status) : Bool × Status :=
  (s.planRejected, { s with planRejected := false })

def discardStale (s : Status) : Status := { s with planRejected := false, pending := none }

/-- The failure to report when the engine reports a fault: what a callback left behind comes first,
then a plan that was turned down, then the fault itself. Both marks are cleared. -/
def explain (s : Status) (fault : EngineFault) : Failure × Status :=
  let failure :=
    match s.pending with
    | some failure => failure
    | none =>
        if s.planRejected && fault.isNoQuerySolution then .unusableConstraint
        else fault.toFailure
  (failure, s.discardStale)

/-! ### Diagnostics -/

def flag (b : Bool) : String := if b then "true" else "false"

def describe (s : Status) : String :=
  "SessionState \x7b open: " ++ flag s.isOpen ++ ", busy: " ++ flag s.isBusy ++
    ", unsafe_mode: " ++ flag s.unsafeMode ++ ", integer_mode: " ++ s.integerMode.name ++
    ", iterators: " ++ toString s.iterators ++ ", has_pending_error: " ++
    flag s.pending.isSome ++ " \x7d"

end Status

end RowSource
