import RowSource.Session.World
import RowSource.Text.AsciiCase
import RowSource.Text.Blank

/-!
# Calls of the engine

Runs a program of the engine on behalf of a session. Its demands are served from the session's
modules and tables by way of host code; the scans that it opens live as long as it runs and count
as iterators. When host code fails, the failure is kept on the status and the program is given up,
so the engine makes no further demand in that call.
-/

namespace RowSource

/-- How host code is called. Host code may do anything to the world. -/
structure Callbacks (H : Host) (E : Engine) where
  define : H.Factory → List String → Worldly H E (Except HostError (Definition H.Generator))
  generation : Generation (Worldly H E) H.Generator H.Stream

namespace Callbacks

variable {H : Host} {E : Engine}

abbrev Scans (H : Host) := List (Scan H.Generator H.Stream)

def beginsLikeTable (schema : String) : Bool :=
  sameName (String.ofList ((trimStart schema.toList).take 12)) "CREATE TABLE"

def schemaDefect? (E : Engine) (schema : String) : Option String :=
  if beginsLikeTable schema then E.schemaDefect? schema
  else some "schema must be a CREATE TABLE statement"

def connect (C : Callbacks H E) (id : Nat) (module : String) (args : List String) :
    Worldly H E (Except Failure DeclaredTable) := do
  match ((← get).session id).modules.find? fun known => sameName known.name module with
  | none => return .error (.internal "virtual table module has no factory")
  | some known =>
      match ← known.connect C.define (return ((← get).status id).integerMode) args with
      | .error failure => return .error failure
      | .ok connected =>
          match schemaDefect? E connected.schemaSql with
          | some detail => return .error (.declareSchema connected.tableName detail)
          | none =>
              let number := ((← get).session id).tables.length
              modify (World.updateSession id fun s =>
                { s with tables := s.tables ++ [connected.table] })
              return .ok ⟨number, connected.schemaSql, connected.directOnly⟩

/-- A round of planning. A plan that cannot be used as it stands is turned down, and noted; the
planner may then try another. -/
def plan (id : Nat) (table : ConnectedTable H.Generator) (constraints : List Constraint) :
    Worldly H E (Except Failure (Option IndexInfo)) := do
  match Plan.answer table.parameterNames (IndexInfo.fresh constraints) with
  | (.ok (), info) => return .ok (some info)
  | (.error .unusableConstraint, _) =>
      modify (World.updateStatus id Status.notePlanRejected)
      return .ok none
  | (.error failure, _) => return .error failure

def unknown {α : Type} : Except Failure α := .error (.internal "no such table or scan")

def serve (C : Callbacks H E) (id : Nat) (scans : Scans H) :
    (demand : Demand) → Worldly H E (Except Failure demand.Reply × Scans H)
  | .connect module args => do
      let reply ← C.connect id module args
      return (reply, scans)
  | .plan table constraints => do
      match ((← get).session id).tables[table]? with
      | none => return (unknown, scans)
      | some table => do
          let reply ← plan id table constraints
          return (reply, scans)
  | .openScan table => do
      match ((← get).session id).tables[table]? with
      | none => return (unknown, scans)
      | some table =>
          modify (World.updateStatus id Status.enterIteration)
          return (.ok scans.length, scans ++ [Scan.idle table])
  | .start number index values => do
      match scans[number]? with
      | none => return (unknown, scans)
      | some scan => do
          let (result, scan) ← scan.start C.generation index values
          return (result, scans.set number scan)
  | .next number => do
      match scans[number]? with
      | none => return (unknown, scans)
      | some scan => do
          let (result, scan) ← scan.next C.generation
          return (result, scans.set number scan)
  | .isEnded number =>
      match scans[number]? with
      | none => return (unknown, scans)
      | some scan => return (.ok scan.ended, scans)
  | .column number position =>
      match scans[number]? with
      | none => return (unknown, scans)
      | some scan => return (scan.column position, scans)
  | .rowid number =>
      match scans[number]? with
      | none => return (unknown, scans)
      | some scan => return (.ok scan.rowid, scans)

/-- How a program came to an end: by itself, or because no further row was wanted. -/
inductive Outcome (S α β : Type) where
  | ended (state : S) (result : Except EngineFault α)
  | left (exit : β)

variable {S α β : Type}

/-- Runs a program. Each row is offered with the state so far, and either the state goes on or the
program is left. -/
def drive (C : Callbacks H E) (id : Nat)
    (offer : S → List SqlValue → Worldly H E (S ⊕ β)) (state : S) (scans : Scans H) :
    Program E.Store α → Worldly H E (Outcome S α β × Scans H)
  | .finish result store => do
      modify (World.updateStore fun _ => store)
      return (.ended state result, scans)
  | .ask demand store abandon resume => do
      modify (World.updateStore fun _ => store)
      match ← C.serve id scans demand with
      | (.ok reply, scans) =>
          drive C id offer state scans (resume reply (← get).store)
      | (.error failure, scans) =>
          modify (World.updateStatus id fun status => status.deferFailure failure)
          modify (World.updateStore abandon)
          return (.ended state (.error (.failed 1 (some failure.message))), scans)
  | .row values store abandon resume => do
      modify (World.updateStore fun _ => store)
      match ← offer state values with
      | .inl state => drive C id offer state scans (resume (← get).store)
      | .inr exit =>
          modify (World.updateStore abandon)
          return (.left exit, scans)

def closeScans (id : Nat) : Scans H → Worldly H E Unit
  | [] => return
  | _ :: rest => do
      modify (World.updateStatus id Status.exitIteration)
      closeScans id rest

def run (C : Callbacks H E) (id : Nat)
    (offer : S → List SqlValue → Worldly H E (S ⊕ β)) (state : S) (routine : Routine E.Store α) :
    Worldly H E (Outcome S α β) := do
  let (outcome, scans) ← C.drive id offer state [] (routine (← get).store)
  closeScans id scans
  return outcome

/-- Runs a routine for its result. It has no rows, or nobody looks at them. -/
def settle (C : Callbacks H E) (id : Nat) (routine : Routine E.Store α) :
    Worldly H E (Except EngineFault α) := do
  match ← C.run (S := Unit) (β := Empty) id (fun _ _ => return .inl ()) () routine with
  | .ended _ result => return result

def first (C : Callbacks H E) (id : Nat) (routine : Routine E.Store α) :
    Worldly H E (Except EngineFault (Option (List SqlValue))) := do
  match ← C.run (S := Unit) id (fun _ values => return .inr values) () routine with
  | .ended _ (.ok _) => return .ok none
  | .ended _ (.error fault) => return .error fault
  | .left values => return .ok (some values)

/-- Runs a routine for all its rows, as they are read. A row that cannot be read is the last. -/
def collect (C : Callbacks H E) (id : Nat) (read : List SqlValue → Except EngineFault β)
    (routine : Routine E.Store α) : Worldly H E (Except EngineFault (List β)) := do
  let offer (rows : List β) (values : List SqlValue) :
      Worldly H E (List β ⊕ EngineFault) :=
    match read values with
    | .ok row => return .inl (row :: rows)
    | .error fault => return .inr fault
  match ← C.run id offer [] routine with
  | .ended rows (.ok _) => return .ok rows.reverse
  | .ended _ (.error fault) | .left fault => return .error fault

end Callbacks

end RowSource
