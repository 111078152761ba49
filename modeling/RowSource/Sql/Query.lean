import RowSource.Sql.Database
import RowSource.Sql.Term

/-!
# Queries

A query whose names are resolved. It has one arm, or several whose rows are put together one arm
after another, and every arm reads its sources: tables, host tables, and queries of their own, which
may be those of views.
-/

namespace RowSource.Sql

inductive Origin (Q : Type) where
  | stored (id : TableId) (table : Table)
  | hosted (table : HostedTable)
  | derived (view : Option String) (query : Q)

/-- A source of a query. Its number is its own within the statement. -/
structure Source (Q : Type) where
  number : Nat
  origin : Origin Q
  columns : List Column
  /-- The positions of the columns that have no affinity. -/
  untyped : List Nat := []
  used : List Nat := []
  arguments : List Term := []
  /-- It is to be read after the sources before it. -/
  crossed : Bool := false
  /-- The conditions under which its rows join those of the sources before it, which stay even when
  no row joins them. -/
  outer : Option (List Term) := none
  hint : IndexHint := .free

structure Arm (Q : Type) where
  results : List Term
  sources : List (Source Q)
  conditions : List Term
  /-- The functions over all rows. There is one row of results if there are any and no groups. -/
  totals : List Aggregate
  groups : List Term := []
  isGrouped : Bool := false
  having : List Term := []
  isDistinct : Bool := false
  isComplex : Bool
  /-- It stands or stood among other arms. -/
  isCompound : Bool
  isValues : Bool := false

/-- What rows are sorted by. A key may be a copy of a result. -/
structure OrderKey where
  term : Term
  direction : Direction
  copy : Option Nat
  order : Option Collation := none

def OrderKey.collation (key : OrderKey) : Collation :=
  (key.order <|> key.term.collation?).getD .binary

structure Query where
  arms : List (Arm Query)
  links : List Compound := []
  order : List OrderKey
  limit : Option Term
  offset : Option Term
  /-- It was changed for the query that reads it. -/
  isChanged : Bool := false
  views : Nat := 0

namespace Source

variable {Q : Type}

def isHosted (source : Source Q) : Bool :=
  match source.origin with
  | .hosted _ => true
  | _ => false

def query? (source : Source Q) : Option Q :=
  match source.origin with
  | .derived _ query => some query
  | _ => none

def withQuery (source : Source Q) (query : Q) : Source Q :=
  match source.origin with
  | .derived view _ => { source with origin := .derived view query }
  | _ => source

/-- The reference to a column of a source. That which shows the identifier of the row is the
identifier. -/
def ref (source : Source Q) (position : Nat) (column : Column) : ColumnRef :=
  let isKey := match source.origin with
    | .stored _ table => table.key == some position
    | _ => false
  let filled := source.outer.isNone
  if isKey then ⟨source.number, none, some .integer, none, filled⟩
  else
    let affinity := if source.untyped.contains position then none else some column.affinity
    ⟨source.number, some position, affinity, some column.collation, column.notNull && filled⟩

def rowid? (source : Source Q) : Option ColumnRef :=
  let shows := match source.origin with
    | .stored _ table => table.keyed.isNone
    | .hosted table => table.hasRowid
    | .derived _ _ => false
  if shows then some ⟨source.number, none, some .integer, none, source.outer.isNone⟩ else none

def terms (source : Source Q) : List Term := source.arguments ++ source.outer.getD []

def mapTerms (source : Source Q) (f : Term → Term) : Source Q :=
  { source with arguments := source.arguments.map f, outer := source.outer.map (·.map f) }

end Source

namespace Arm

variable {Q : Type}

def isAggregate (arm : Arm Q) : Bool := arm.isGrouped || !arm.totals.isEmpty

def terms (arm : Arm Q) (order : List OrderKey) : List Term :=
  arm.results ++ arm.totals.flatMap Aggregate.terms ++ arm.conditions ++
    arm.sources.flatMap Source.terms ++ arm.groups ++ arm.having ++ order.map (·.term)

def positionsOf (source : Nat) (terms : List Term) : List Nat :=
  ((terms.flatMap Term.columns).filterMap fun ref =>
    if ref.source = source then ref.position else none).eraseDups

def withUsed (arm : Arm Q) (order : List OrderKey) (numbers : List Nat) : Arm Q :=
  let terms := arm.terms order
  { arm with sources := arm.sources.map fun source =>
      if source.number ∈ numbers then { source with used := positionsOf source.number terms }
      else source }

def mapTerms (arm : Arm Q) (f : Term → Term) : Arm Q :=
  { arm with
    results := arm.results.map f
    conditions := arm.conditions.map f
    sources := arm.sources.map fun source => source.mapTerms f
    totals := arm.totals.map fun total => total.mapTerms f
    groups := arm.groups.map f
    having := arm.having.map f }

def substitute (arm : Arm Q) (f : ColumnRef → Term) : Arm Q := arm.mapTerms (Term.substitute f)

end Arm

def OrderKey.substitute (key : OrderKey) (f : ColumnRef → Term) : OrderKey :=
  { key with term := key.term.substitute f }

namespace Query

def isConcatenation (query : Query) : Bool := query.links.all (· == .unionAll)

/-- The greatest number of a limit that a plan takes into account. -/
def fixedLimit? (query : Query) : Option Int := query.limit.bind Term.integer?

def firstAffinity? (terms : List Term) : Option Affinity := terms.findSome? Term.affinity?

/-- The affinity of a column of a query, whose term in every arm is given: that of the first arm that
has one, unless other arms have values of another kind. -/
def affinityOf (terms : List Term) : Option Affinity :=
  let others := terms.eraseIdx ((terms.findIdx? fun term => term.affinity?.isSome).getD 0)
  let has (kind : Term.Kinds → Bool) : Bool := others.any fun term => kind term.kinds
  match firstAffinity? terms with
  | none => none
  | some .text => if has (·.number) then some .blob else some .text
  | some affinity =>
      if affinity.isNumeric then
        if has (·.text) then some .blob
        else
          match terms.head? with
          | some (.cast _ _) => some .flexible
          | _ => some affinity
      else some affinity

def width (query : Query) : Nat :=
  (query.arms.head?.map fun arm => arm.results.length).getD 0

def columnTerms (query : Query) (position : Nat) : List Term :=
  query.arms.filterMap fun arm => arm.results[position]?

def affinities (query : Query) : List (Option Affinity) :=
  (List.range query.width).map fun position => affinityOf (query.columnTerms position)

def collations (query : Query) : List (Option Collation) :=
  (List.range query.width).map fun position =>
    (query.columnTerms position).head?.bind Term.collation?

def shape (query : Query) : Shape := ⟨query.affinities.zip query.collations⟩

def withinTo : Nat → Query → List Query
  | 0, query => [query]
  | fuel + 1, query =>
      query :: (query.arms.flatMap fun arm => arm.sources.filterMap Source.query?).flatMap
        (withinTo fuel)

def within (query : Query) : List Query := withinTo query.views query

def leaves (query : Query) : List (Source Query) :=
  query.within.flatMap fun part => part.arms.flatMap fun arm =>
    arm.sources.filter fun source => source.query?.isNone

/-- Whether a query takes something of the query around it. -/
def takesOuter (query : Query) : Bool :=
  query.within.any fun part =>
    (part.arms.any fun arm => (arm.terms part.order).any Term.takesOuter) ||
      (part.limit.toList ++ part.offset.toList).any Term.takesOuter

def reading (queries : List Query) : List TableId × List Nat :=
  let leaves := queries.flatMap leaves
  (leaves.filterMap fun source =>
    match source.origin with
    | .stored id _ => some id
    | _ => none,
    leaves.filterMap fun source =>
      match source.origin with
      | .hosted table => some table.number
      | _ => none)

end Query

end RowSource.Sql
