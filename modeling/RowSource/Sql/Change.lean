import RowSource.Sql.Results
import RowSource.Sql.Work

/-!
# Changes

How a change of the databases begins and ends. One that fails leaves nothing behind, unless the rule
that it has broken says that what was done before stays, or that the whole transaction is undone. The
rows that a change returns are handed out when it is complete.
-/

namespace RowSource.Sql

/-! ### What a change has done -/

/-- A failure that keeps what was done before, or undoes the whole transaction. -/
structure Stop where
  fault : EngineFault
  resolution : Resolution

structure Done where
  count : Nat := 0
  further : Nat := 0
  returned : List (List Datum) := []

structure Progress where
  done : Done := {}
  memo : Memo := {}
  stopped : Option Stop := none

abbrev Changing := ExceptT Stop (StateT Done Executing)

namespace Changing

def look {α : Type} (f : Store → α) : Changing α := (Executing.look f : Executing α)

def update (f : Store → Store) : Changing Unit := (Routine.update f : Running Unit)

def fail {α : Type} (fault : EngineFault) : Changing α := (Routine.fail fault : Running α)

def ofExcept {α : Type} (result : Except EngineFault α) : Changing α :=
  (Routine.ofExcept result : Running α)

def modifyDone (f : Done → Done) : Changing Unit := (modify f : StateT Done Executing Unit)

def after (change : Changing Unit) (progress : Progress) : Running Progress := do
  let ((result, done), memo) ← (change.run.run progress.done).run progress.memo
  match result with
  | .ok () => return { done := done, memo := memo }
  | .error stop => return { done := done, memo := memo, stopped := some stop }

end Changing

def noteRow (env : Environment) (returning : Returning) (row : StoredRow) : Changing Unit := do
  let env := env.withRow returning.source (.row row.1 row.2)
  let results ← (evaluateAll env returning.results : Executing (List Datum))
  Changing.modifyDone fun done =>
    { done with
      count := done.count + 1
      returned := if returning.results.isEmpty then done.returned else results :: done.returned }

/-! ### Beginning and undoing -/

def requireWritable (connection : Nat) : Running Unit := do
  if (← Routine.look (·.connection connection)).readonly then
    .fail (.failed 8 (some "attempt to write a readonly database"))

/-- Claims a database for a change. The connection's own needs no claim. -/
def claim (connection : Nat) : Schema → Running Unit
  | .main => do
      requireWritable connection
      transact (Store.change connection)
  | .temp => return

/-- Runs a change so that nothing of it stays when it fails. It has yet to be ended. -/
def changing {α : Type} (connection : Nat) (schema : Schema) (routine : Running α) :
    Running α := do
  claim connection schema
  let before ← Routine.look (·.draft connection)
  Routine.update (Store.updateConnection connection fun c =>
    { c.noted with writers := c.writers + 1 })
  Routine.guarded (Store.undoChange connection before) routine

def reshaping (connection : Nat) (schema : Schema) (routine : Running Unit) : Running Unit := do
  changing connection schema routine
  transact (Store.endChange connection)

def orphanCount (connection : Nat) : Running Nat :=
  Routine.look fun store =>
    (store.database connection .main).orphans false + (store.database connection .temp).orphans false

/-- Runs a change that may leave no more orphans than there were, unless it undoes everything. -/
def keepingReferences (connection : Nat) (routine : Running Progress) : Running Progress := do
  let before ← orphanCount connection
  let progress ← routine
  let isUndone := progress.stopped.any fun stop => stop.resolution == .rollback
  if !isUndone && before < (← orphanCount connection) then
    .fail (.failed 787 (some "FOREIGN KEY constraint failed"))
  else return progress

/-! ### Ending -/

/-- Hands out the rows that a change returns. While it does, it counts as a reader. -/
def handOut (connection : Nat) (rows : List (List Datum)) : Running Unit :=
  Routine.closing
    (Store.updateConnection connection fun c => { c with readers := c.readers - 1 }) do
      Routine.update (Store.updateConnection connection fun c =>
        { c with readers := c.readers + 1 })
      rows.forM fun row => Routine.row (row.map Datum.toValue)

/-- Ends a change of rows and counts the changed ones. One that fails has changed none. -/
def endCounting (connection : Nat) (done : Done) : Step := fun store =>
  match store.endChange connection with
  | (.ok (), store) => (.ok (), store.counted connection done.count done.further)
  | (.error fault, store) => (.error fault, store.counted connection 0 0)

def undoWithAll (connection : Nat) (store : Store) : Store :=
  ((store.updateConnection connection fun c => { c with writers := c.writers - 1 }).undoAll
    connection).counted connection 0 0

/-- Runs a change of rows. It ends when all rows that it returns are handed out, or no more of them
are wanted. -/
def alteringRows (connection : Nat) (schema : Schema) (routine : Running Progress) :
    Running Unit := do
  let progress ← Routine.guarded (Store.counted connection 0 0)
    (changing connection schema (keepingReferences connection routine))
  let done := progress.done
  match progress.stopped with
  | none => Routine.ending (endCounting connection done) (handOut connection done.returned.reverse)
  | some ⟨fault, .rollback⟩ => do
      Routine.update (undoWithAll connection)
      .fail fault
  | some ⟨fault, _⟩ => do
      transact (endCounting connection done)
      .fail fault

end RowSource.Sql
