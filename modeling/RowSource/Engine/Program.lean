import RowSource.Engine.Fault
import RowSource.Plan.Constraint

/-!
# Programs of the engine

A call of the engine, written as a tree. The engine works on a store of its own; where it needs a
table of the host it makes a demand and waits for the reply, and a statement that has found a row
hands it out and waits to be asked for the next one. At each of these points the store is handed
over as well, because whoever runs the program may use the store before it goes on.

A demand that host code fails is never replied to. The program is given up then, as it is when
nobody wants its further rows.
-/

namespace RowSource

/-- What a program asks of the tables of the host. Tables and scans go by the numbers that replies
gave them. -/
inductive Demand where
  | connect (module : String) (args : List String)
  | plan (table : Nat) (constraints : List Constraint)
  | openScan (table : Nat)
  | start (scan : Nat) (number : Int32) (values : List SqlValue)
  | next (scan : Nat)
  | isEnded (scan : Nat)
  | column (scan : Nat) (position : Nat)
  | rowid (scan : Nat)

structure DeclaredTable where
  number : Nat
  schemaSql : String
  directOnly : Bool

abbrev Demand.Reply : Demand → Type
  | .connect _ _ => DeclaredTable
  /- Nothing when the table turns the plan down. -/
  | .plan _ _ => Option IndexInfo
  | .openScan _ => Nat
  | .start _ _ _ => Unit
  | .next _ => Unit
  | .isEnded _ => Bool
  | .column _ _ => SqlValue
  | .rowid _ => Int

inductive Program (σ α : Type) where
  | finish (result : Except EngineFault α) (store : σ)
  /-- A demand, with what becomes of the store when it fails. -/
  | ask (demand : Demand) (store : σ) (abandon : σ → σ)
      (resume : demand.Reply → σ → Program σ α)
  /-- A row, with what becomes of the store when it was the last one wanted. -/
  | row (values : List SqlValue) (store : σ) (abandon : σ → σ) (resume : σ → Program σ α)

namespace Program

variable {σ α β : Type}

def andThen (program : Program σ α) (rest : α → σ → Program σ β) : Program σ β :=
  match program with
  | .finish (.ok value) store => rest value store
  | .finish (.error fault) store => .finish (.error fault) store
  | .ask demand store abandon resume =>
      .ask demand store abandon fun reply store => (resume reply store).andThen rest
  | .row values store abandon resume =>
      .row values store abandon fun store => (resume store).andThen rest

def orElse (program : Program σ α) (calls : σ → Bool) (other : σ → Program σ α) : Program σ α :=
  match program with
  | .finish (.ok value) store => .finish (.ok value) store
  | .finish (.error fault) store =>
      if calls store then other store else .finish (.error fault) store
  | .ask demand store abandon resume =>
      .ask demand store abandon fun reply store => (resume reply store).orElse calls other
  | .row values store abandon resume =>
      .row values store abandon fun store => (resume store).orElse calls other

def guarded (cleanUp : σ → σ) : Program σ α → Program σ α
  | .finish (.ok value) store => .finish (.ok value) store
  | .finish (.error fault) store => .finish (.error fault) (cleanUp store)
  | .ask demand store abandon resume =>
      .ask demand store (fun store => cleanUp (abandon store)) fun reply store =>
        (resume reply store).guarded cleanUp
  | .row values store abandon resume =>
      .row values store abandon fun store => (resume store).guarded cleanUp

def closing (close : σ → σ) : Program σ α → Program σ α
  | .finish result store => .finish result (close store)
  | .ask demand store abandon resume =>
      .ask demand store (fun store => close (abandon store)) fun reply store =>
        (resume reply store).closing close
  | .row values store abandon resume =>
      .row values store (fun store => close (abandon store)) fun store =>
        (resume store).closing close

/-- Takes a last step however a program ends. The step may fail when all has gone well so far. -/
def ending (last : σ → Except EngineFault Unit × σ) : Program σ α → Program σ α
  | .finish (.ok value) store =>
      let (result, store) := last store
      .finish (result.map fun () => value) store
  | .finish (.error fault) store => .finish (.error fault) (last store).2
  | .ask demand store abandon resume =>
      .ask demand store (fun store => (last (abandon store)).2) fun reply store =>
        (resume reply store).ending last
  | .row values store abandon resume =>
      .row values store (fun store => (last (abandon store)).2) fun store =>
        (resume store).ending last

/-- The result of a program that has no use for host tables nor for its rows. -/
def resultAlone : Program σ α → Except EngineFault α × σ
  | .finish result store => (result, store)
  | .ask _ store abandon _ => (.error (.failed 1 none), abandon store)
  | .row _ store _ resume => (resume store).resultAlone

end Program

/-- A part of a program: what it does with a store, for its result. -/
def Routine (σ α : Type) := σ → Program σ α

namespace Routine

variable {σ α : Type}

instance : Monad (Routine σ) where
  pure value := fun store => .finish (.ok value) store
  bind routine rest := fun store => (routine store).andThen rest

def look (f : σ → α) : Routine σ α := fun store => .finish (.ok (f store)) store

def update (f : σ → σ) : Routine σ Unit := fun store => .finish (.ok ()) (f store)

def fail (fault : EngineFault) : Routine σ α := fun store => .finish (.error fault) store

def ofExcept (result : Except EngineFault α) : Routine σ α :=
  fun store => .finish result store

def ask (demand : Demand) : Routine σ demand.Reply :=
  fun store => .ask demand store id fun reply store => .finish (.ok reply) store

def row (values : List SqlValue) : Routine σ Unit :=
  fun store => .row values store id fun store => .finish (.ok ()) store

def orElse (routine : Routine σ α) (calls : σ → Bool) (other : Routine σ α) : Routine σ α :=
  fun store => (routine store).orElse calls other

def guarded (cleanUp : σ → σ) (routine : Routine σ α) : Routine σ α :=
  fun store => (routine store).guarded cleanUp

def closing (close : σ → σ) (routine : Routine σ α) : Routine σ α :=
  fun store => (routine store).closing close

def ending (last : σ → Except EngineFault Unit × σ) (routine : Routine σ α) : Routine σ α :=
  fun store => (routine store).ending last

end Routine

end RowSource
