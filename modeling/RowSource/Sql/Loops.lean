import RowSource.Sql.Path
import RowSource.Sql.QueryPlan

/-!
# Loops

From a path to nested loops. A condition that the way to a source makes sure of is not checked. Every
other one is checked in the first loop in which all that it needs has been read.
-/

namespace RowSource.Sql

inductive Origin.Base (Q : Type) where
  | stored (table : TableId)
  | hosted (table : Nat)
  | derived (query : Q)
  | kept (slot : Nat)

structure LoopSource (Q : Type) where
  number : Nat
  base : Origin.Base Q
  stored : StoredSource

namespace Condition

def probe? (condition : Condition) : Option Probe :=
  match condition.column, condition.op with
  | some (_, ref), some op =>
      some
        { column := ref.position, op := op, value := condition.value
          comparison := condition.comparison, isChoice := condition.isChoice
          bounds := condition.bounds, isPresence := condition.isPresence }
  | _, _ => none

structure Settling where
  conditions : List Condition
  read : Places
  /-- The rows before the source stay without any of its own: only conditions that join them can be
  settled. -/
  isOuter : Bool

/-- Settles the condition at a position, and the one that implies it once nothing that it implies is
left. A condition that needs more than has been read is not settled. -/
def settle (settling : Settling) : Nat → List Nat → Nat → List Nat
  | 0, settled, _ => settled
  | fuel + 1, settled, position =>
      match settling.conditions[position]? with
      | none => settled
      | some condition =>
          if settled.contains position || !Places.within condition.needs settling.read ||
              (settling.isOuter && condition.join.isNone) then settled
          else
            let settled := position :: settled
            match condition.parent with
            | none => settled
            | some parent =>
                let isDone := settling.conditions.zipIdx.all fun (other, index) =>
                  other.parent != some parent || settled.contains index
                if isDone && !(condition.bounds.any fun bounds => bounds.folds) then
                  settle settling fuel settled parent
                else settled

/-- Settles conditions one after another. No condition implies itself, so there are no longer chains
than there are conditions. -/
def settleAll (settling : Settling) (settled positions : List Nat) : List Nat :=
  positions.foldl (settle settling settling.conditions.length) settled

end Condition

def probesOf (conditions : List Condition) (positions : List Nat) : List Probe :=
  positions.filterMap fun position => (conditions[position]?).bind Condition.probe?

namespace LoopSource

variable {Q : Type}

/-- The conditions that an index made for the purpose is searched by, one for each column. -/
def driving (source : LoopSource Q) (conditions : List Condition) (done : Places) : List Nat :=
  let driving := conditions.zipIdx.filter fun (condition, _) =>
    source.stored.canDrive condition && Places.within condition.valueNeeds done
  (driving.foldl
    (fun (columns, positions) (condition, position) =>
      let column := condition.column.bind fun entry => entry.2.position
      if columns.contains column then (columns, positions)
      else (columns ++ [column], positions ++ [position]))
    (([], []) : List (Option Nat) × List Nat)).2

/-- The columns that an index made for the purpose holds beside those of its key. -/
def besides (source : LoopSource Q) (probes : List Probe) : List Nat :=
  (List.range source.stored.columns.length).filter fun position =>
    (source.stored.table.isNone || source.stored.used.contains position) &&
      !(probes.any fun probe => probe.column == some position)

def scan (source : LoopSource Q) (columns : List IndexColumn) (probes : List Probe)
    (isOneRow backwards : Bool) : Access Q :=
  match source.base with
  | .stored table => .stored table columns probes isOneRow backwards
  | .hosted table => .hosted table 0 []
  | .derived query => .derived query
  | .kept slot => .kept slot backwards

def identifiers : List IndexColumn := [{ position := none }]

/-- What a host table asks for when it asks for the value of a condition. -/
def hostValue (settled : List Nat) (position : Nat) (condition : Condition) : HostValue where
  value := condition.value
  comparison := condition.comparison
  isChoice := condition.isChoice
  check := if condition.isChoice && !settled.contains position then condition.column.map (·.2)
    else none

/-- How the rows are reached by a way, and the conditions that it makes sure of. A choice is made sure
of by a host table in any case: its rows are compared with one value at a time. -/
def access (source : LoopSource Q) (conditions : List Condition) (done : Places)
    (backwards : Bool) (way : Way) : Access Q × List Nat :=
  match way.means with
  | .ordered index equals _ isOneRow _ =>
      let columns := (index.map (·.columns)).getD identifiers
      let bounds := way.terms.drop equals
      let descends := (columns[equals]?).any (·.descending)
      let terms := way.terms.take equals ++ if backwards != descends then bounds.reverse else bounds
      (source.scan columns (probesOf conditions terms) isOneRow backwards, way.terms)
  | .lookup =>
      let driving := source.driving conditions done
      let probes := probesOf conditions driving
      (.lookup source.number (source.scan identifiers [] false false) probes (source.besides probes),
        driving)
  | .hosted number settled =>
      let values := way.terms.filterMap fun term =>
        (conditions[term]?).map (hostValue settled term)
      let sure := way.terms.filter fun term =>
        settled.contains term || (conditions[term]?).any (·.isChoice)
      match source.base with
      | .hosted table => (.hosted table number values, sure)
      | _ => (source.scan identifiers [] false false, sure)

end LoopSource

/-! ### Levels -/

structure Levels (Q : Type) where
  loops : List (Loop Q) := []
  done : Places := 0
  settled : List Nat

namespace Levels

variable {Q : Type}

def due (conditions : List Condition) (settled : List Nat) (read : Places) : List Nat :=
  (List.range conditions.length).filter fun position =>
    !settled.contains position && (conditions[position]?).any fun condition =>
      condition.isBase && Places.within condition.needs read

/-- Conditions in the order in which they are checked: first those that an index can decide, and last
those that hold queries which have to be run each time. -/
def inOrder (conditions : List Condition) (number : Nat) (index : Option Index) (due : List Nat) :
    List Nat :=
  let depends (position : Nat) : Bool :=
    (conditions[position]?).any fun condition => condition.term.isDependent
  let isDecided (position : Nat) : Bool :=
    index.any fun index => (conditions[position]?).any fun condition =>
      index.coversTerm number condition.term
  let (later, sooner) := due.partition depends
  sooner.filter isDecided ++ (sooner.filter fun position => !isDecided position) ++ later

def termsOf (conditions : List Condition) (positions : List Nat) : List Term :=
  positions.filterMap fun position => (conditions[position]?).map (·.term)

def further (conditions : List Condition) (sources : List (LoopSource Q)) (reversed : List Nat)
    (levels : Levels Q) (way : Way) : Levels Q :=
  match sources[way.place]? with
  | none => levels
  | some source =>
      let read := levels.done ||| Places.single way.place
      let isOuter := source.stored.isOuter
      let (access, sure) := source.access conditions levels.done (reversed.contains way.place) way
      let settled := Condition.settleAll ⟨conditions, read, isOuter⟩ levels.settled sure
      let due := due conditions settled read
      let joins (position : Nat) : Bool :=
        (conditions[position]?).any fun condition => condition.join.isSome
      let first := if isOuter then due.filter joins else due
      let first := inOrder conditions source.number way.index? first
      let rest := if isOuter then due.filter fun position => !joins position else []
      let loop : Loop Q :=
        if isOuter then
          { source := source.number
            access := access
            matching := some (termsOf conditions first)
            conditions := termsOf conditions rest }
        else
          { source := source.number, access := access, conditions := termsOf conditions first }
      { loops := levels.loops ++ [loop], done := read, settled := settled ++ due }

end Levels

/-- The conditions that can be checked before anything is read. With nothing to be read those are
all. -/
def firstChecks (conditions : List Condition) (hasSources : Bool) : List Nat :=
  (List.range conditions.length).filter fun position =>
    (conditions[position]?).any fun condition =>
      condition.isBase && condition.needs == 0 &&
        (!hasSources || (!condition.term.varies && !condition.term.hasQuery))

namespace Path

/-- Whether a source can be left out: rows stay without any of its own, at most one of them makes a
difference, and nothing but the conditions that join them speaks of it. -/
def isIdle (conditions : List Condition) (outer : List Nat) (used : Places) (isDistinct : Bool)
    (way : Way) : Bool :=
  let self := Places.single way.place
  outer.contains way.place && (isDistinct || way.isOneRow) && Places.disjoint used self &&
    conditions.all fun condition =>
      Places.disjoint condition.needs self || condition.join == some way.place

/-- A path without the sources that can be left out, but for the first one. -/
def withoutIdle (path : Path) (conditions : List Condition) (outer : List Nat) (used : Places)
    (isDistinct : Bool) : Path :=
  { path with ways := path.ways.take 1 ++
      (path.ways.drop 1).filter fun way => !isIdle conditions outer used isDistinct way }

def loops {Q : Type} (path : Path) (conditions : List Condition)
    (sources : List (LoopSource Q)) : List Term × List (Loop Q) :=
  let first := firstChecks conditions !sources.isEmpty
  let levels := path.ways.foldl (Levels.further conditions sources path.reversed)
    { settled := first }
  (Levels.termsOf conditions first, levels.loops)

end Path

end RowSource.Sql
