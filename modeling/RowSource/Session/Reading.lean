import RowSource.Session.Operations

/-!
# Running statements

A statement without rows is run for its effect. A reader is read in one of three ways: its first
row, all its rows, or row by row with host code running between the rows.
-/

namespace RowSource

structure Row where
  columns : List String
  values : List HostValue
  deriving DecidableEq

namespace Row

def get? (row : Row) (position : Nat) : Option HostValue := row.values[position]?

def named? (row : Row) (name : String) : Option HostValue :=
  (row.columns.findIdx? (· == name)).bind row.get?

def size (row : Row) : Nat := row.values.length

def isEmpty (row : Row) : Bool := row.values.isEmpty

end Row

structure RunResult where
  changes : Nat
  lastRowid : HostValue

namespace Statement

variable {H : Host} {E : Engine}

def withIntegerMode (s : Statement) (mode : IntegerMode) : Statement :=
  { s with integerMode := mode }

/-- The engine values of parameters. Positions in failures are counted from `position`. -/
def engineValues (position : Nat) : List HostValue → Except Failure (List SqlValue)
  | [] => .ok []
  | value :: rest =>
      match value.toSql with
      | .error fault => .error (.bindValue position fault)
      | .ok native =>
          match engineValues (position + 1) rest with
          | .error failure => .error failure
          | .ok natives => .ok (native :: natives)

/-- A row as host code sees it. It has to have a value for every column. -/
def readRow (mode : IntegerMode) (columns : List String) (values : List SqlValue) :
    Except EngineFault Row :=
  if values.length < columns.length then .error (.columnIndex values.length)
  else .ok ⟨columns, (values.take columns.length).map (SqlValue.toHost mode)⟩

open Session

def beginRead (s : Statement) (params : List HostValue) : Action H E (List SqlValue) := do
  if !s.reader then
    throw (.invalidArgument "This statement does not return data. Use run() instead")
  require s.session Status.requireOpen
  require s.session Status.requireNotBusy
  ExceptT.mk (return engineValues 1 params)

variable (C : Callbacks H E)

def text (s : Statement) : String := String.ofList (trim s.sql.toList)

def withEngine {α : Type} (s : Statement) (values : List SqlValue)
    (use : List String → E.Statement → List SqlValue → Worldly H E (Except EngineFault α)) :
    Worldly H E (Except EngineFault α) := do
  match ← C.hold s.session s.text with
  | .error fault => return .error fault
  | .ok held =>
      let (info, result) ← stepped held
      modify (World.updateSession s.session (Session.keep s.text info))
      return result
where
  stepped (held : HeldStatement E) : Worldly H E (StatementInfo × Except EngineFault α) := do
    match held.info.bind values with
    | .error fault => return (held.info, .error fault)
    | .ok values =>
        match ← C.renew s.session s.text held with
        | .error fault => return (held.info, .error fault)
        | .ok statement => return (E.info statement, ← use held.info.columns statement values)

def run (s : Statement) (params : List HostValue) : Action H E RunResult := do
  if s.reader then
    throw (.invalidArgument
      "This statement returns data. Use get(), all(), or iterate() instead")
  require s.session Status.requireOpen
  require s.session Status.requireNotBusy
  if !s.readonly then
    require s.session Status.requireNoIteratorsUnlessUnsafe
  let values ← ExceptT.mk (return engineValues 1 params)
  withBusy s.session <| withConnection s.session <| s.withEngine C values fun _ statement values => do
    match ← C.first s.session (E.execute s.session statement values) with
    | .error fault => return .error fault
    | .ok (some _) => return .error .returnedRows
    | .ok none =>
        let store := (← get).store
        let rowid := SqlValue.integer (E.lastRowid s.session store)
        return .ok ⟨E.changes s.session store, rowid.toHost s.integerMode⟩

def first (s : Statement) (params : List HostValue) : Action H E (Option Row) := do
  let values ← s.beginRead params
  withBusy s.session <| withConnection s.session <|
    s.withEngine C values fun columns statement values => do
      match ← C.first s.session (E.execute s.session statement values) with
      | .error fault => return .error fault
      | .ok none => return .ok none
      | .ok (some values) => return (readRow s.integerMode columns values).map some

def all (s : Statement) (params : List HostValue) : Action H E (List Row) := do
  let values ← s.beginRead params
  withBusy s.session <| withConnection s.session <|
    s.withEngine C values fun columns statement values =>
      C.collect s.session (readRow s.integerMode columns)
        (E.execute s.session statement values)

/-- Begins the busy period in which a row is looked for. Host code may have closed the session
since the last row. -/
def beginStep (id : Nat) : Worldly H E (Except Failure Unit) := do
  match ((← get).status id).requireOpen with
  | .error failure => return .error failure
  | .ok () =>
      match ((← get).status id).markBusy with
      | .error failure => return .error failure
      | .ok status =>
          modify (World.updateStatus id fun _ => status)
          return .ok ()

/-- Reads a row and hands it over between two busy periods. Tells how the iteration is left, if it
is. -/
def handOver (s : Statement) (columns : List String) (body : Row → Action H E Bool)
    (values : List SqlValue) : Worldly H E (Unit ⊕ Except Failure Unit) := do
  let row ← (explaining s.session (return readRow s.integerMode columns values)).run
  modify (World.updateStatus s.session Status.clearBusy)
  match row with
  | .error failure => return .inr (.error failure)
  | .ok row =>
      match ← (body row).run with
      | .error failure => return .inr (.error failure)
      | .ok false => return .inr (.ok ())
      | .ok true =>
          match ← beginStep s.session with
          | .error failure => return .inr (.error failure)
          | .ok () => return .inl ()

def endSteps (id : Nat) (result : Except EngineFault Unit) : Worldly H E (Except Failure Unit) := do
  let explained ← (explaining id (return result)).run
  modify (World.updateStatus id Status.clearBusy)
  return explained

def steps (s : Statement) (held : HeldStatement E) (values : List SqlValue)
    (body : Row → Action H E Bool) : Worldly H E (StatementInfo × Except Failure Unit) := do
  match ← beginStep s.session with
  | .error failure => return (held.info, .error failure)
  | .ok () =>
      match ← C.renew s.session s.text held with
      | .error fault => return (held.info, ← endSteps s.session (.error fault))
      | .ok statement =>
          match ← C.run s.session (fun _ values => s.handOver held.info.columns body values) ()
              (E.execute s.session statement values) with
          | .left exit => return (E.info statement, exit)
          | .ended _ result => return (E.info statement, ← endSteps s.session result)

def boundSteps (s : Statement) (held : HeldStatement E) (values : List SqlValue)
    (body : Row → Action H E Bool) : Worldly H E (StatementInfo × Except Failure Unit) := do
  match ← (withBusy s.session (explaining s.session (return held.info.bind values)) :
      Action H E (List SqlValue)).run with
  | .error failure => return (held.info, .error failure)
  | .ok values => s.steps C held values body

/-- Hands the rows to host code one at a time, until they run out or host code asks for no more. The
session is busy only while a row is looked for, so host code may read on the same session. -/
def iterate (s : Statement) (params : List HostValue) (body : Row → Action H E Bool) :
    Action H E Unit := do
  let values ← s.beginRead params
  withIteration s.session <| borrowing s.session do
    let held ← withBusy s.session (explaining s.session (C.hold s.session s.text))
    ExceptT.mk do
      let (info, result) ← s.boundSteps C held values body
      modify (World.updateSession s.session (Session.keep s.text info))
      return result

end Statement

namespace Session

variable {H : Host} {E : Engine} (C : Callbacks H E)

def query (id : Nat) (sql : String) (params : List HostValue) : Action H E (List Row) := do
  let statement ← prepare C id sql
  statement.all C params

def run (id : Nat) (sql : String) (params : List HostValue) : Action H E RunResult := do
  let statement ← prepare C id sql
  statement.run C params

end Session

end RowSource
