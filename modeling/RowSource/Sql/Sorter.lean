import RowSource.Sql.Affinity
import RowSource.Sql.Syntax

/-!
# Sorting rows

A sorter takes rows with their keys and gives them back in order; of rows with equal keys the one that
came first is first. A sorter that has room for some rows only keeps the first ones in that order.
-/

namespace RowSource.Sql

structure SortValue where
  value : Datum
  direction : Direction
  collation : Collation

namespace SortValue

/-- The order of two values of a key. Nulls may count as greater than anything. -/
def order (a b : SortValue) : Ordering :=
  let plain :=
    if a.direction.nullsLarge && a.value.isNull != b.value.isNull then
      if a.value.isNull then .gt else .lt
    else compareValues a.collation a.value b.value
  if a.direction.descending then plain.swap else plain

end SortValue

def compareKeys : List SortValue → List SortValue → Ordering
  | a :: as, b :: bs => (a.order b).then (compareKeys as bs)
  | _, _ => .eq

def keysInOrder (a b : List SortValue) : Bool := compareKeys a b != .gt

structure SortedRow where
  keys : List SortValue
  values : List Datum

structure Sorter where
  rows : List SortedRow := []
  room : Option Nat

namespace Sorter

/-- The position of the last row in order. Of equal rows it is the one that came last. -/
def last? (rows : List SortedRow) : Option (Nat × SortedRow) :=
  rows.zipIdx.foldl
    (fun last (row, position) =>
      match last with
      | none => some (position, row)
      | some (_, other) => if keysInOrder row.keys other.keys then last else some (position, row))
    none

/-- Whether a row with some keys would be kept. -/
def admits (sorter : Sorter) (keys : List SortValue) : Bool :=
  sorter.room != some 0 ||
    match last? sorter.rows with
    | some (_, row) => !keysInOrder row.keys keys
    | none => false

/-- Takes a row. The last one in order has to go if there is no room. -/
def insert (sorter : Sorter) (row : SortedRow) : Sorter :=
  match sorter.room with
  | some 0 =>
      match last? sorter.rows with
      | some (position, _) => { sorter with rows := row :: sorter.rows.eraseIdx position }
      | none => sorter
  | room => { rows := row :: sorter.rows, room := room.map (· - 1) }

def sorted (sorter : Sorter) : List SortedRow :=
  sorter.rows.reverse.mergeSort fun a b => keysInOrder a.keys b.keys

end Sorter

end RowSource.Sql
