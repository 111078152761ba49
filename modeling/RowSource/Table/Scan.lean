import RowSource.Plan.Arguments
import RowSource.Table.Connection

/-!
# Scans

A scan runs over the rows that a table's generator yields. It is started, and started again, with
the arguments that the plan asked for, and then moved on row by row until it ends.
-/

namespace RowSource

structure Scan (G S : Type) where
  table : ConnectedTable G
  /-- The stream while there may be more rows. -/
  stream : Option S := none
  row : List HostValue := []
  ended : Bool := true
  produced : Nat := 0

namespace Scan

variable {m : Type → Type} [Monad m] {G S : Type}

def idle (table : ConnectedTable G) : Scan G S := { table := table }

def rewound (scan : Scan G S) : Scan G S := { table := scan.table, ended := false }

/-- A scan whose rows have run out. The count of its rows stays. -/
def finished (scan : Scan G S) : Scan G S :=
  { scan with stream := none, row := [], ended := true }

def moved (scan : Scan G S) : Except HostError Advance × S → Except Failure Unit × Scan G S
  | (.ok (.row values), stream) =>
      (.ok (), { scan with stream := some stream, row := values, produced := scan.produced + 1 })
  | (.ok .done, _) => (.ok (), scan.finished)
  | (.error error, _) => (.error (.host error), scan.finished)

def next (run : Generation m G S) (scan : Scan G S) : m (Except Failure Unit × Scan G S) :=
  match scan.stream with
  | none => return (.ok (), { scan with ended := true })
  | some stream => return scan.moved (← run.advance stream)

def hostArguments (mode : IntegerMode) (bound : List (Option SqlValue)) : List HostValue :=
  bound.map fun
    | some value => value.toHost mode
    | none => .missing

/-- Starts a scan, with the number that the plan left and the values that it asked for. A scan with
a null among its arguments has no rows, and its generator is not asked. -/
def start (run : Generation m G S) (scan : Scan G S) (number : Int32) (values : List SqlValue) :
    m (Except Failure Unit × Scan G S) := do
  let scan := scan.rewound
  match Plan.arguments number.toUInt32 scan.table.parameterNames.length values with
  | .error failure => return (.error failure, scan)
  | .ok bound =>
      if bound.any (fun value => value.any SqlValue.isNull) then
        return (.ok (), { scan with ended := true })
      else
        match ← run.generate scan.table.generator (hostArguments scan.table.integerMode bound) with
        | .error error => return (.error (.host error), { scan with ended := true })
        | .ok stream => next run { scan with stream := some stream }

def column (scan : Scan G S) (position : Int) : Except Failure SqlValue :=
  if position < 0 then
    .error (.internal ("negative column index " ++ toString position))
  else
    match scan.row[position.toNat]? with
    | none => .error (.columnValue scan.table.module (.missingColumn position.toNat))
    | some value =>
        match value.toSql with
        | .ok native => .ok native
        | .error fault => .error (.columnValue scan.table.module fault)

/-- The identifier of the current row: rows are counted from zero. -/
def rowid (scan : Scan G S) : Int := scan.produced - 1

def describe (scan : Scan G S) : String :=
  "GeneratorCursor \x7b module: " ++ quoted scan.table.module ++ ", done: " ++
    (if scan.ended then "true" else "false") ++ ", produced: " ++ toString scan.produced ++
    ", .. \x7d"

end Scan

end RowSource
