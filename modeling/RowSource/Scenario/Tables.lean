import RowSource.Scenario.Recipe
import RowSource.Table.Scan
import RowSource.Status

/-!
# Scenarios for tables

A bench of modules, tables and scans over one status, each kept by name, and the steps that use
them. Every step tells what the host noted during it.
-/

namespace RowSource.Scenario

namespace Bench

abbrev Event := HostEvent Empty

/-- Host code of the bench: it writes notes and has no other effect. -/
abbrev Noting := StateM (List Event)

abbrev Generator := Product Recipe

abbrev RowStream := ProductStream Stream

def note (event : Event) : Noting Unit := modify fun events => events ++ [event]

def recipes : Generation Noting Recipe Stream where
  generate recipe args := do
    note (.generated args)
    return recipe.openWith args
  advance stream := return stream.advance

def generation : Generation Noting Generator RowStream :=
  products recipes fun args => note (.generated args)

def define (factory : Factory Recipe) (args : List String) :
    Noting (Except HostError (Definition Generator)) := do
  note (.defined args)
  return factory.define args

end Bench

open Bench in
structure Bench where
  status : Status
  modules : List (TableModule (Factory Recipe))
  tables : List (String × ConnectedTable Generator) := []
  scans : List (String × Scan Generator RowStream) := []
  events : List Event := []

namespace Bench

inductive Step where
  | connect (module table : String) (args : List String)
  | plan (table : String) (constraints : List Constraint)
  | openScan (table scan : String)
  | start (scan : String) (number : Int32) (values : List SqlValue)
  | next (scan : String)
  | isEnded (scan : String)
  | rowid (scan : String)
  | column (scan : String) (position : Int)
  | drain (scan : String) (width : Nat)
  | closeScan (scan : String)
  | disconnect (table : String)
  | setIntegerMode (mode : IntegerMode)
  | describe

inductive Drained where
  | row (rowid : Int) (values : List (Except Failure SqlValue))
  | failed (failure : Failure)

inductive Answer where
  | done
  | failed (failure : Failure)
  | connected (connected : Connected Generator)
  | planned (info : IndexInfo)
  | planFailed (failure : Failure) (info : IndexInfo)
  | opened
  | flag (value : Bool)
  | identifier (value : Int)
  | value (value : SqlValue)
  | drained (rows : List Drained)
  | described (modules tables scans : List String)
  | unknownName

/-! ### Keeping things by name -/

def named? {α : Type} (entries : List (String × α)) (name : String) : Option α :=
  (entries.find? fun entry => entry.1 == name).map (·.2)

def withoutEntry {α : Type} (entries : List (String × α)) (name : String) : List (String × α) :=
  entries.filter fun entry => entry.1 != name

def withEntry {α : Type} (entries : List (String × α)) (name : String) (value : α) :
    List (String × α) :=
  (name, value) :: withoutEntry entries name

def inOrder {α : Type} (entries : List (String × α)) : List α :=
  (entries.mergeSort fun a b => !(b.1 < a.1)).map (·.2)

def hasEntry {α : Type} (entries : List (String × α)) (name : String) : Bool :=
  (named? entries name).isSome

def module? (bench : Bench) (name : String) : Option (TableModule (Factory Recipe)) :=
  bench.modules.reverse.find? fun module => module.name == name

def modulesByName (modules : List (TableModule (Factory Recipe))) :
    List (String × TableModule (Factory Recipe)) :=
  modules.foldl (fun entries module => withEntry entries module.name module) []

def withScan (bench : Bench) (name : String) (scan : Scan Generator RowStream) : Bench :=
  { bench with scans := withEntry bench.scans name scan }

/-- Runs host code, and keeps what it notes. -/
def hosting {α : Type} (bench : Bench) (call : Noting α) : α × Bench :=
  let (result, events) := call.run bench.events
  (result, { bench with events := events })

def checked : Except Failure Unit → Answer
  | .ok () => .done
  | .error failure => .failed failure

/-! ### Steps -/

def shown (scan : Scan Generator RowStream) (width : Nat) : List (Except Failure SqlValue) :=
  (List.range width).map fun position => scan.column (Int.ofNat position)

/-- Reads at most `limit` rows, and stops at a failure. -/
def drain (width : Nat) : Nat → Scan Generator RowStream →
    Noting (List Drained × Scan Generator RowStream)
  | 0, scan => return ([], scan)
  | limit + 1, scan => do
      if scan.ended then return ([], scan)
      let row := Drained.row scan.rowid (shown scan width)
      match ← scan.next generation with
      | (.ok (), scan) =>
          let (rows, scan) ← drain width limit scan
          return (row :: rows, scan)
      | (.error failure, scan) => return ([row, .failed failure], scan)

def drainLimit : Nat := 2000

def step (bench : Bench) : Step → Answer × Bench
  | .connect module table args =>
      match bench.module? module with
      | none => (.unknownName, bench)
      | some module =>
          let (result, bench) :=
            bench.hosting (module.connect define (return bench.status.integerMode) args)
          match result with
          | .error failure => (.failed failure, bench)
          | .ok connected =>
              (.connected connected,
                { bench with tables := withEntry bench.tables table connected.table })
  | .plan table constraints =>
      match named? bench.tables table with
      | none => (.unknownName, bench)
      | some table =>
          match Plan.answer table.parameterNames (IndexInfo.fresh constraints) with
          | (.ok (), info) => (.planned info, bench)
          | (.error failure, info) => (.planFailed failure info, bench)
  | .openScan table name =>
      match named? bench.tables table with
      | none => (.unknownName, bench)
      | some table =>
          let entered := bench.status.enterIteration
          let status := if hasEntry bench.scans name then entered.exitIteration else entered
          (.opened, { bench.withScan name (.idle table) with status := status })
  | .start name number values =>
      match named? bench.scans name with
      | none => (.unknownName, bench)
      | some scan =>
          let ((result, scan), bench) := bench.hosting (scan.start generation number values)
          (checked result, bench.withScan name scan)
  | .next name =>
      match named? bench.scans name with
      | none => (.unknownName, bench)
      | some scan =>
          let ((result, scan), bench) := bench.hosting (scan.next generation)
          (checked result, bench.withScan name scan)
  | .isEnded name =>
      match named? bench.scans name with
      | none => (.unknownName, bench)
      | some scan => (.flag scan.ended, bench)
  | .rowid name =>
      match named? bench.scans name with
      | none => (.unknownName, bench)
      | some scan => (.identifier scan.rowid, bench)
  | .column name position =>
      match named? bench.scans name with
      | none => (.unknownName, bench)
      | some scan =>
          match scan.column position with
          | .ok value => (.value value, bench)
          | .error failure => (.failed failure, bench)
  | .drain name width =>
      match named? bench.scans name with
      | none => (.unknownName, bench)
      | some scan =>
          let ((rows, scan), bench) := bench.hosting (drain width drainLimit scan)
          (.drained rows, bench.withScan name scan)
  | .closeScan name =>
      if hasEntry bench.scans name then
        (.flag true,
          { bench with
            scans := withoutEntry bench.scans name, status := bench.status.exitIteration })
      else
        (.flag false, bench)
  | .disconnect table => (.done, { bench with tables := withoutEntry bench.tables table })
  | .setIntegerMode mode =>
      (.done, { bench with status := { bench.status with integerMode := mode } })
  | .describe =>
      (.described ((inOrder (modulesByName bench.modules)).map TableModule.describe)
        ((inOrder bench.tables).map ConnectedTable.describe)
        ((inOrder bench.scans).map Scan.describe), bench)

def Step.scan? : Step → Option String
  | .openScan _ scan | .start scan _ _ | .next scan | .isEnded scan | .rowid scan
  | .column scan _ | .drain scan _ | .closeScan scan => some scan
  | _ => none

structure Report where
  answer : Answer
  events : List Event
  iterators : Nat
  /-- Whether the scan of the step has ended, and its row. -/
  scan : Option (Bool × Int)

def run (bench : Bench) : List Step → List Report
  | [] => []
  | step :: rest =>
      let (answer, after) := { bench with events := [] }.step step
      let scan := (step.scan?.bind (named? after.scans)).map fun scan => (scan.ended, scan.rowid)
      ⟨answer, after.events, after.status.iterators, scan⟩ :: after.run rest

end Bench

end RowSource.Scenario
