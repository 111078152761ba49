import RowSource.Sql.Way

/-!
# Ways to stored rows

The rows of a table, and those of a view that was run, can all be gone through. Those of a table can
also be found by their identifiers and through the indexes that keep columns unique, and if that
promises to pay an index is made for the purpose.
-/

namespace RowSource.Sql

structure StoredSource where
  place : Nat
  table : Option Table
  columns : List Column
  used : List Nat
  rows : Estimate
  isOuter : Bool := false
  hint : IndexHint := .free
  /-- Its rows depend on a query around. -/
  isDependent : Bool := false

structure Wishes where
  conditions : List Condition
  order : List ColumnRef := []
  /-- Rows are changed as they are found. -/
  changing : Bool := false

namespace Table

def width (table : Table) : Nat :=
  (table.columns.map (·.size)).foldl Nat.add (if table.key.isNone then 1 else 0)

def widthOf (table : Table) (columns : List IndexColumn) : Nat :=
  let sizes := columns.map fun column =>
    match column.position.bind fun position => table.columns[position]? with
    | some column => column.size
    | none => 1
  sizes.foldl Nat.add 0

def rowsLeft (keyCount : Nat) : List Estimate :=
  Estimate.table :: (List.range keyCount).map fun position =>
    if position + 1 = keyCount then 0 else [33, 32, 30, 28, 27].getD position 23

def hasColumn (columns : List IndexColumn) (column : IndexColumn) : Bool :=
  columns.any fun other =>
    other.position == column.position && other.collation == column.collation

def plainColumn (table : Table) (position : Nat) : IndexColumn where
  position := some position
  collation := ((table.columns[position]?).map (·.collation)).getD .binary

def primaryColumns (table : Table) (positions : List Nat) : List IndexColumn :=
  match table.unique.find? fun uniqueness => uniqueness.primary with
  | some uniqueness => uniqueness.columns
  | none => positions.map table.plainColumn

def index (table : Table) (uniqueness : Uniqueness) : Index :=
  let key := uniqueness.columns.map fun column =>
    if column.position.isSome && column.position == table.key then
      { column with position := none }
    else column
  let others := match table.keyed with
    | none => [{ position := none }]
    | some primary =>
        if uniqueness.primary then
          (List.range table.columns.length).filterMap fun position =>
            if uniqueness.positions.contains position then none
            else some (table.plainColumn position)
        else (table.primaryColumns primary).filter fun column => !hasColumn key column
  let isRows := table.keyed.isSome && uniqueness.primary
  { columns := key ++ others
    keyCount := key.length
    isFilled := isRows || uniqueness.positions.all fun position =>
      (table.columns[position]?).any (·.notNull)
    holdsRows := isRows
    size := Estimate.ofCount (4 * table.widthOf (key ++ others))
    left := rowsLeft key.length }

def indexes (table : Table) : List Index := table.unique.map table.index

end Table

namespace Index

def ofIdentifiers (rows : Estimate) : Index where
  columns := [{ position := none }]
  keyCount := 1
  isFilled := true
  left := [rows, 0]

def positions (index : Index) : List (Option Nat) := index.columns.map (·.position)

def covers (index : Index) (used : List Nat) : Bool :=
  index.holdsRows || used.all fun position => index.positions.contains (some position)

def coversTerm (index : Index) (source : Nat) (term : Term) : Bool :=
  term.columns.all fun ref => ref.source != source || index.positions.contains ref.position

def mayHelp (index : Index) (source : Nat) (order : List ColumnRef) : Bool :=
  order.any fun ref =>
    ref.source == source &&
      (ref.position.isNone || (index.positions.take index.keyCount).contains ref.position)

end Index

def servesComparison (comparison column : Affinity) : Bool :=
  match comparison with
  | .blob => true
  | .text => column == .text
  | _ => column.isNumeric

namespace StoredSource

def self (source : StoredSource) : Places := Places.single source.place

def affinity (source : StoredSource) (position : Nat) : Affinity :=
  ((source.columns[position]?).map (·.affinity)).getD .blob

def isFilled (source : StoredSource) : Option Nat → Bool
  | some position => (source.columns[position]?).any (·.notNull)
  | none => true

/-- Whether a condition may be used on the rows of the source. Rows that need not join any are only
looked for by the conditions under which they do. -/
def admits (source : StoredSource) (condition : Condition) : Bool :=
  !source.isOuter || condition.join == some source.place

def isOn (source : StoredSource) (column : Option Nat) (condition : Condition) : Bool :=
  match condition.column with
  | some (place, ref) =>
      place == source.place && ref.position == column && !condition.isForHost &&
        source.admits condition
  | none => false

def canSearch (source : StoredSource) (column : IndexColumn) (condition : Condition) : Bool :=
  source.isOn column.position condition && Places.disjoint condition.valueNeeds source.self &&
    match column.position with
    | some position =>
        condition.op == some .isNull ||
          (servesComparison condition.comparison.affinity (source.affinity position) &&
            condition.comparison.collation == column.collation)
    | none => condition.bounds.isNone

def canDrive (source : StoredSource) (condition : Condition) : Bool :=
  match condition.column with
  | some (place, ref) =>
      place == source.place && condition.isEquality && !condition.isForHost &&
        source.admits condition &&
        match ref.position with
        | some position =>
            servesComparison condition.comparison.affinity (source.affinity position) &&
              !(source.table.any fun table => table.unique.any fun uniqueness =>
                uniqueness.positions.head? == some position)
        | none => false
  | none => false

def thinned (source : StoredSource) (wishes : Wishes) (total : Estimate) (way : Way) : Way :=
  let known := way.needs ||| source.self
  let (rows, cut) := wishes.conditions.zipIdx.foldl
    (fun (rows, cut) (condition, index) =>
      let applies := condition.isBase && Places.within condition.needs known &&
        !Places.disjoint condition.needs source.self
      let isUsed := way.terms.any fun term =>
        term == index || ((wishes.conditions[term]?).any fun used => used.parent == some index)
      if !applies || isUsed then (rows, cut)
      else if condition.isEquality then
        let isSmall := condition.value.integer?.any fun i => decide (-1 ≤ i) && decide (i ≤ 1)
        (rows - 1, max cut (if isSmall then 10 else 20))
      else (rows - 1, cut))
    (way.rows, 0)
  { way with rows := min rows (total - cut) }

/-! ### Indexes made for the purpose -/

def lookups (source : StoredSource) (wishes : Wishes) (needs : Places) (ways : List Way) :
    List Way :=
  if (source.table.any fun table => table.keyed.isSome) || source.hint != .free ||
      source.isDependent then ways
  else
    wishes.conditions.zipIdx.foldl
      (fun ways (condition, index) =>
        if source.canDrive condition && Places.disjoint condition.valueNeeds source.self then
          let search := Estimate.search source.rows
          let extra : Int := if source.table.isSome then 28 else -25
          Way.add ways
            { place := source.place
              needs := needs ||| condition.valueNeeds
              setup := max 0 (search + source.rows + extra)
              run := Estimate.sum search 43
              rows := 43
              terms := [index]
              means := .lookup }
        else ways)
      ways

/-! ### Searches -/

structure Search where
  equals : Nat := 0
  terms : List Nat := []
  needs : Places
  rows : Estimate
  /-- The rows are bounded from below already. -/
  hasLower : Bool := false
  isOneRow : Bool := false
  hasEquality : Bool := false
  /-- Ways of different orders are not compared with each other. -/
  order : Nat := 0
  /-- How often the search is made, once for each of several values. -/
  times : Estimate := 0

def bounded (rows : Estimate) (hasLower hasUpper lowerCounts : Bool) : Estimate :=
  let cut : Int :=
    (if hasLower && lowerCounts then 20 else 0) + (if hasUpper then 20 else 0) +
      if hasLower && hasUpper then 20 else 0
  let most := rows - (if hasLower then 1 else 0) - if hasUpper then 1 else 0
  min most (max 10 (rows - cut))

def isLower (op : ConstraintOp) : Bool := op = .gt || op = .ge

def isUpper (op : ConstraintOp) : Bool := op = .lt || op = .le

def choiceCount (condition : Condition) : Estimate :=
  match condition.isChoice, condition.value with
  | true, .inList _ members => Estimate.ofCount members.length
  | true, _ => 46
  | false, _ => 0

def narrowed (wishes : Wishes) (index : Index) (search : Search) (condition : Condition)
    (position : Nat) (op : ConstraintOp) : Search :=
  let terms := search.terms ++ [position]
  let needs := search.needs ||| condition.valueNeeds
  if isLower op || isUpper op then
    let lower := if isLower op then some condition else
      if search.hasLower then search.terms.getLast?.bind fun term => wishes.conditions[term]?
      else none
    { search with
      terms := terms, needs := needs, hasLower := isLower op
      rows := bounded search.rows lower.isSome (isUpper op || condition.bounds.isSome)
        (lower.all fun c => !c.isPresence) }
  else
    let isEquality := condition.isEquality
    let column := ((index.columns[search.equals]?).map (·.position)).join
    let atEnd := column.isSome && search.times == 0 && search.equals + 1 == index.keyCount
    let before := index.left.getD search.equals 0
    let after := index.left.getD (search.equals + 1) 0
    { search with
      equals := search.equals + 1
      terms := terms
      needs := needs
      rows := search.rows + (after - before) + if op = .isNull then 10 else 0
      times := search.times + choiceCount condition
      isOneRow := search.isOneRow || (isEquality &&
        (column.isNone || (atEnd && (index.isFilled || (index.keyCount == 1 && op == .eq)))))
      hasEquality := search.hasEquality || isEquality }

/-- The way that a search is. What a step costs depends on the size of the entries. -/
def searchWay (source : StoredSource) (index : Option Index) (step total : Estimate)
    (isCovering : Bool) (search : Search) : Way :=
  let found := Estimate.sum (Estimate.search total) (search.rows + step)
  { place := source.place
    needs := search.needs
    run := search.times +
      if isCovering || index.isNone then found else Estimate.sum found (search.rows + 16)
    rows := search.rows + search.times
    order := search.order
    terms := search.terms
    means := .ordered index search.equals isCovering search.isOneRow search.hasEquality }

/-- Adds the ways that narrow a search down by conditions on its next column, and on those after
it. There are no more columns than `fuel`, and each can have one lower bound. -/
def searches (source : StoredSource) (wishes : Wishes) (index : Index) (through : Option Index)
    (step : Estimate) (isCovering : Bool) : Nat → Search → List Way → List Way
  | 0, _, ways => ways
  | fuel + 1, search, ways =>
      let total := index.left.headD 0
      match index.columns[search.equals]? with
      | none => ways
      | some column =>
          wishes.conditions.zipIdx.foldl
            (fun ways (condition, position) =>
              match condition.op with
              | none => ways
              | some op =>
                  let isWanted := if search.hasLower then isUpper op
                    else op = .eq || op = .is || op = .isNull || isLower op || isUpper op
                  let isIdle := (op = .isNull || condition.isPresence) &&
                    source.isFilled column.position
                  if !isWanted || isIdle || !source.canSearch column condition then ways
                  else
                    let next := narrowed wishes index search condition position op
                    let way := source.thinned wishes total
                      (source.searchWay through step total isCovering next)
                    let ways := Way.add ways way
                    let goesOn := !isUpper op && condition.bounds.isNone && (decide (next.equals < index.keyCount) ||
                      (!index.holdsRows && decide (next.equals < index.columns.length)))
                    if !goesOn then ways
                    else
                      let further := if isLower op then { next with rows := search.rows } else next
                      searches source wishes index through step isCovering fuel further ways)
            ways

/-! ### All ways -/

def scan (source : StoredSource) (wishes : Wishes) (needs : Places) (number : Nat) : Way :=
  let order := if (Index.ofIdentifiers source.rows).mayHelp number wishes.order then 1 else 0
  source.thinned wishes source.rows
    { place := source.place, needs := needs, run := source.rows + 16, rows := source.rows
      order := order, means := .ordered none 0 false false false }

/-- What is saved of the look-ups of rows by the first conditions that an index can decide. -/
def saved (index : Index) (number : Nat) : List Condition → Int
  | [] => 0
  | condition :: rest =>
      if index.coversTerm number condition.term then
        (if condition.isEquality then 20 else 1) + saved index number rest
      else 0

def throughIndex (source : StoredSource) (table : Table) (wishes : Wishes) (needs : Places)
    (number : Nat) (index : Index) (orderNumber : Nat) (ways : List Way) : List Way :=
  let isCovering := index.covers source.used
  let rowSize := Estimate.ofCount (4 * table.width)
  let step := 1 + 15 * index.size / rowSize
  let helps := index.mayHelp number wishes.order
  let order := if helps then orderNumber else 0
  let goesThrough := helps || table.keyed.isSome ||
    (isCovering && decide (index.size < rowSize) && !wishes.changing)
  let ways :=
    if goesThrough then
      let entries := source.rows + step
      Way.add ways (source.thinned wishes source.rows
        { place := source.place, needs := needs
          run :=
            if isCovering then entries
            else Estimate.sum entries (source.rows + 16 - saved index number wishes.conditions)
          rows := source.rows
          order := order
          means := .ordered (some index) 0 isCovering false false })
    else ways
  source.searches wishes index (some index) step isCovering (2 * index.columns.length + 1)
    { needs := needs, rows := source.rows, order := order } ways

def ways (source : StoredSource) (wishes : Wishes) (needs : Places) (number : Nat)
    (ways : List Way) : List Way :=
  let ways := if wishes.changing then ways else source.lookups wishes needs ways
  match source.table with
  | none => Way.add ways (source.scan wishes needs number)
  | some table =>
      let ways :=
        if table.keyed.isSome then ways
        else
          let scan := source.scan wishes needs number
          source.searches wishes (Index.ofIdentifiers source.rows) none 16 true 3
            { needs := needs, rows := source.rows, order := scan.order } (Way.add ways scan)
      if source.hint == .none && table.keyed.isNone then ways
      else
        table.indexes.zipIdx.foldl
          (fun ways (index, position) =>
            source.throughIndex table wishes needs number index (position + 2) ways)
          ways

/-! ### A single row -/

/-- The first condition by which a column can be searched without reading anything else. -/
def constant? (source : StoredSource) (wishes : Wishes) (column : IndexColumn)
    (operators : List ConstraintOp) : Option Nat :=
  wishes.conditions.findIdx? fun condition =>
    source.canSearch column condition && condition.valueNeeds == 0 &&
      !condition.isChoice && condition.op.any operators.contains

/-- The way to the only row that can meet the conditions, if one of the keys is given whole. -/
def direct? (source : StoredSource) (wishes : Wishes) : Option Way :=
  (if source.hint = .free then source.table else none).bind fun table =>
    let found (index : Option Index) (terms : List Nat) (isCovering : Bool) (run : Estimate) : Way :=
      { place := source.place, needs := 0, run := run, rows := 1, terms := terms
        means := .ordered index terms.length isCovering true true }
    let byIdentifier :=
      if table.keyed.isSome then none
      else
        (source.constant? wishes { position := none } [.eq, .is]).map fun term =>
          found none [term] true 33
    byIdentifier <|> (table.indexes.filter fun index => index.keyCount ≤ 3).findSome? fun index =>
      let operators := if index.isFilled then [ConstraintOp.eq, .is] else [.eq]
      ((index.columns.take index.keyCount).mapM fun column =>
        source.constant? wishes column operators).map fun terms =>
          found (some index) terms (index.covers source.used) 39

end StoredSource

end RowSource.Sql
