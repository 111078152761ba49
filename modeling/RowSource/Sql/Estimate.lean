import RowSource.Number.Power

/-!
# Estimates

How many rows there will be and what it costs to find them. An estimate is ten times the binary
logarithm of what it stands for, so that products are sums; sums are looked up in a short table.
-/

namespace RowSource.Sql

/-- Ten times a binary logarithm. -/
abbrev Estimate := Int

namespace Estimate

/-- The tenths between one power of two and the next, by eighths. -/
def eighths : List Int := [0, 2, 3, 5, 6, 7, 8, 9]

def ofCount (count : Nat) : Estimate :=
  if count < 2 then 0
  else 10 * count.log2 + eighths.getD (8 * count / twoTo count.log2 - 8) 0

/-- What a sum is greater than its greater part, by the difference of its parts. -/
def excess (difference : Nat) : Int :=
  if difference ≤ 1 then 10
  else if difference ≤ 3 then 9
  else if difference ≤ 5 then 8
  else if difference ≤ 8 then 7
  else if difference ≤ 11 then 6
  else if difference ≤ 14 then 5
  else if difference ≤ 18 then 4
  else if difference ≤ 24 then 3
  else if difference ≤ 31 then 2
  else if difference ≤ 49 then 1
  else 0

def sum (a b : Estimate) : Estimate := max a b + excess (a - b).natAbs

def search (rows : Estimate) : Estimate :=
  if rows ≤ 10 then 0 else ofCount rows.toNat - 33

def table : Estimate := 200

def query : Estimate := 320

end Estimate

end RowSource.Sql
