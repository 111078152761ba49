import RowSource.Value.Exchange

/-!
# Failures

`Failure` lists what can go wrong, each cause with the data that its message shows. `ResultCode`
is the engine's own classification, and every failure has one. What host code throws is kept as it
is in a `HostError`.
-/

namespace RowSource

inductive ResultCode where
  | ok | error | internal | perm | abort | busy | locked | noMem | readOnly | interrupt | ioErr
  | corrupt | notFound | full | cantOpen | protocol | empty | schema | tooBig | constraint
  | mismatch | misuse | noLfs | auth | format | range | notADb | notice | warning | row | done
  deriving DecidableEq

namespace ResultCode

def table : List (ResultCode × Int × String × String) :=
  [(.ok, 0, "SQLITE_OK", "Ok"), (.error, 1, "SQLITE_ERROR", "Error"),
    (.internal, 2, "SQLITE_INTERNAL", "Internal"), (.perm, 3, "SQLITE_PERM", "Perm"),
    (.abort, 4, "SQLITE_ABORT", "Abort"), (.busy, 5, "SQLITE_BUSY", "Busy"),
    (.locked, 6, "SQLITE_LOCKED", "Locked"), (.noMem, 7, "SQLITE_NOMEM", "NoMem"),
    (.readOnly, 8, "SQLITE_READONLY", "ReadOnly"),
    (.interrupt, 9, "SQLITE_INTERRUPT", "Interrupt"), (.ioErr, 10, "SQLITE_IOERR", "IoErr"),
    (.corrupt, 11, "SQLITE_CORRUPT", "Corrupt"), (.notFound, 12, "SQLITE_NOTFOUND", "NotFound"),
    (.full, 13, "SQLITE_FULL", "Full"), (.cantOpen, 14, "SQLITE_CANTOPEN", "CantOpen"),
    (.protocol, 15, "SQLITE_PROTOCOL", "Protocol"), (.empty, 16, "SQLITE_EMPTY", "Empty"),
    (.schema, 17, "SQLITE_SCHEMA", "Schema"), (.tooBig, 18, "SQLITE_TOOBIG", "TooBig"),
    (.constraint, 19, "SQLITE_CONSTRAINT", "Constraint"),
    (.mismatch, 20, "SQLITE_MISMATCH", "Mismatch"), (.misuse, 21, "SQLITE_MISUSE", "Misuse"),
    (.noLfs, 22, "SQLITE_NOLFS", "NoLfs"), (.auth, 23, "SQLITE_AUTH", "Auth"),
    (.format, 24, "SQLITE_FORMAT", "Format"), (.range, 25, "SQLITE_RANGE", "Range"),
    (.notADb, 26, "SQLITE_NOTADB", "NotADb"), (.notice, 27, "SQLITE_NOTICE", "Notice"),
    (.warning, 28, "SQLITE_WARNING", "Warning"), (.row, 100, "SQLITE_ROW", "Row"),
    (.done, 101, "SQLITE_DONE", "Done")]

def ofInt? (number : Int) : Option ResultCode :=
  (table.find? fun entry => entry.2.1 == number).map (·.1)

def number (code : ResultCode) : Int :=
  ((table.find? fun entry => entry.1 == code).map (·.2.1)).getD 0

def constant (code : ResultCode) : String :=
  ((table.find? fun entry => entry.1 == code).map (·.2.2.1)).getD ""

def shortName (code : ResultCode) : String :=
  ((table.find? fun entry => entry.1 == code).map (·.2.2.2)).getD ""

end ResultCode

structure EngineFailure where
  extendedCode : Int
  message : String
  deriving DecidableEq

/-- The low byte of the extended code, also of a negative one. -/
def EngineFailure.primaryCode (f : EngineFailure) : Int := f.extendedCode % 256

def EngineFailure.code? (f : EngineFailure) : Option ResultCode := ResultCode.ofInt? f.primaryCode

inductive Refusal where
  | notOpen
  | busy
  | iteratorsActive (count : Nat)
  deriving DecidableEq

def Refusal.message : Refusal → String
  | .notOpen => "The database connection is not open"
  | .busy => "This database connection is busy executing a query"
  | .iteratorsActive count =>
      "This database connection is busy executing a query (" ++ toString count ++
        " open iterators)"

mutual

inductive Failure where
  /-- The engine failed, and no host error explains it. -/
  | engine (failure : EngineFailure)
  | host (error : HostError)
  /-- A parameter was constrained by another operator than `=`. -/
  | planning (parameter : String)
  /-- An `=` constraint cannot be evaluated where the plan needs it. -/
  | unusableConstraint
  | declareSchema (table detail : String)
  | configureTable (table : String)
  | invalidDefinition (module reason : String)
  | columnValue (module : String) (fault : ValueFault)
  /-- A statement parameter, counted from one, has no engine form. -/
  | bindValue (position : Nat) (fault : ValueFault)
  | refused (refusal : Refusal)
  | invalidArgument (message : String)
  | internal (message : String)

/-- An error thrown by host code: a bare message, an error of the host's own type with its cause,
or a failure of this library. -/
inductive HostError where
  | message (text : String)
  | typed (text : String) (cause : Option String)
  | failure (wrapped : Failure)

end

deriving instance DecidableEq for Failure, HostError

mutual

def Failure.message : Failure → String
  | .engine failure => failure.message
  | .host error => error.text
  | .planning parameter =>
      "virtual table parameter \"" ++ parameter ++
        "\" can only be constrained by the '=' operator"
  | .unusableConstraint => "virtual table parameter constraint is not usable in this plan"
  | .declareSchema table detail =>
      "failed to declare virtual table \"" ++ table ++ "\": " ++ detail
  | .configureTable table => "failed to configure virtual table \"" ++ table ++ "\""
  | .invalidDefinition module reason => "virtual table module \"" ++ module ++ "\" " ++ reason
  | .columnValue module fault =>
      "Virtual table module \"" ++ module ++ "\" yielded " ++ fault.message
  | .bindValue position fault =>
      "cannot bind parameter " ++ toString position ++ ": " ++ fault.message
  | .refused refusal => refusal.message
  | .invalidArgument message => message
  | .internal message => "internal error: " ++ message

def HostError.text : HostError → String
  | .message text => text
  | .typed text _ => text
  | .failure wrapped => wrapped.message

end

namespace Failure

def code : Failure → ResultCode
  | .engine failure => failure.code?.getD .error
  | .host _ | .planning _ | .declareSchema _ _ | .configureTable _ | .invalidDefinition _ _
  | .columnValue _ _ => .error
  | .unusableConstraint => .constraint
  | .bindValue _ _ => .range
  | .refused _ | .invalidArgument _ => .misuse
  | .internal _ => .internal

/-- Whether a user can mend the cause without a change to host code. -/
def isRecoverable : Failure → Bool
  | .planning _ | .unusableConstraint | .refused _ | .invalidArgument _ | .bindValue _ _ => true
  | _ => false

def suggestion? : Failure → Option String
  | .planning _ => some "Bind table parameters with '=' or table-valued function arguments"
  | .refused (.iteratorsActive _) =>
      some "Finish or abandon open iterations before this operation"
  | .refused .notOpen => some "Open a new session"
  | .declareSchema _ _ =>
      some "Return a single valid CREATE TABLE statement from the table factory"
  | _ => none

def isHostError : Failure → Bool
  | .host _ => true
  | _ => false

/-- The fault that a failure is the consequence of. -/
def fault? : Failure → Option ValueFault
  | .columnValue _ fault | .bindValue _ fault => some fault
  | _ => none

end Failure

end RowSource
