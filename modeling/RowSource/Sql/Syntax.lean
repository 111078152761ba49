import RowSource.Sql.Numeral

/-!
# Syntax of SQL

The statements that the engine understands, as trees. Expressions may hold queries, and queries hold
expressions: the tree of an expression is given for any kind of query, and that of a query puts
itself there.
-/

namespace RowSource.Sql

inductive UnaryOp where
  | negate | identity | not | complement | isNull | isNotNull
  deriving DecidableEq

inductive BinaryOp where
  | or | and
  | eq | ne | is | isNot
  | lt | le | gt | ge
  | bitAnd | bitOr | shiftLeft | shiftRight
  | add | subtract
  | multiply | divide | remainder
  | concat
  deriving DecidableEq

namespace BinaryOp

def compares : BinaryOp → Bool
  | .eq | .ne | .is | .isNot | .lt | .le | .gt | .ge => true
  | _ => false

end BinaryOp

inductive Resolution where
  | rollback | abort | fail | ignore | replace
  deriving DecidableEq, Inhabited

structure Call where
  name : String
  place : Nat
  isStar : Bool := false
  isDistinct : Bool := false
  deriving DecidableEq

structure Direction where
  descending : Bool := false
  /-- Whether nulls come first, if that is said. -/
  nullsFirst : Option Bool := none
  deriving DecidableEq, Inhabited

/-- Whether nulls count as greater than any value. -/
def Direction.nullsLarge (direction : Direction) : Bool :=
  direction.nullsFirst == some direction.descending

/-- An expression. A place is that of its first byte in the text. -/
inductive Expr (Q : Type) where
  | literal (value : Datum)
  | number (source : String) (place : Nat)
  | parameter (number : Nat) (place : Nat)
  /-- A column, by its name and perhaps those of its table and database. A name in double quotes may
  turn out to be a text, and only a plain one a truth value. -/
  | column (database table : Option String) (name : String) (quote : Option Char) (place : Nat)
  | call (call : Call) (arguments : List (Expr Q))
  /-- A call of a function over all rows that takes them in some order. -/
  | ordered (call : Expr Q) (keys : List (Expr Q)) (directions : List Direction)
  /-- A call of a function over all rows that takes only some of them. -/
  | filtered (call condition : Expr Q)
  | cast (operand : Expr Q) (type : String)
  | collate (operand : Expr Q) (collation : String) (place : Nat)
  | unary (op : UnaryOp) (operand : Expr Q)
  | binary (op : BinaryOp) (left right : Expr Q)
  | between (operand low high : Expr Q)
  | row (items : List (Expr Q))
  | inList (operand : Expr Q) (members : List (Expr Q))
  | inQuery (operand : Expr Q) (query : Q)
  | nonempty (query : Q)
  | query (query : Q)
  | choice (condition result otherwise : Expr Q)
  | caseOf (operand choices : Expr Q)
  /-- What a trigger does to the statement that has set it off. -/
  | raise (resolution : Resolution) (message : Expr Q) (place : Nat)

instance {Q : Type} : Inhabited (Expr Q) := ⟨.literal .null⟩

namespace Expr

variable {Q : Type}

mutual

def hasCall : Expr Q → Bool
  | literal _ | number _ _ | parameter _ _ | column _ _ _ _ _ | nonempty _ | query _ | raise _ _ _ =>
      false
  | call _ _ | ordered _ _ _ | filtered _ _ => true
  | cast operand _ | collate operand _ _ | unary _ operand | inQuery operand _ => operand.hasCall
  | binary _ left right | caseOf left right => left.hasCall || right.hasCall
  | between operand low high | choice operand low high =>
      operand.hasCall || low.hasCall || high.hasCall
  | row items => anyHasCall items
  | inList operand members => operand.hasCall || anyHasCall members

def anyHasCall : List (Expr Q) → Bool
  | [] => false
  | item :: rest => item.hasCall || anyHasCall rest

end

def isChoice : Expr Q → Bool
  | choice _ _ _ => true
  | _ => false

mutual

def height : Expr Q → Nat
  | literal _ | number _ _ | parameter _ _ | column _ _ _ _ _ | nonempty _ | query _ | raise _ _ _ => 1
  | collate _ _ _ => 1
  | call _ arguments => greatestHeight arguments + 1
  | ordered inner _ _ | filtered inner _ => inner.height
  | cast operand _ | unary _ operand | inQuery operand _ | between operand _ _ => operand.height + 1
  | binary _ left right => max left.height right.height + 1
  | row _ => 1
  | inList operand members => max operand.height (greatestHeight members) + 1
  | choice condition result otherwise =>
      max (max condition.height result.height + 1)
        (if otherwise.isChoice then otherwise.height else otherwise.height + 1)
  | caseOf operand choices => max (operand.height + 1) choices.height

def greatestHeight : List (Expr Q) → Nat
  | [] => 0
  | item :: rest => max item.height (greatestHeight rest)

end

def isZero : Expr Q → Bool
  | number source _ => Numeral.small? source == some 0
  | _ => false

/-- Two conditions together. They are false from the start if one of them is a plain zero and no
function is called in either. -/
def both (left right : Expr Q) : Expr Q :=
  if (left.isZero || right.isZero) && !left.hasCall && !right.hasCall then .number "0" 0
  else .binary .and left right

def integer? : Expr Q → Option Int
  | number source _ => (Numeral.small? source).map Int.ofNat
  | unary .negate operand => operand.integer?.map (- ·)
  | unary .identity operand => operand.integer?
  | _ => none

def withoutCollation : Expr Q → Expr Q
  | collate operand _ _ => operand.withoutCollation
  | other => other

end Expr

/-! ### Queries -/

inductive ResultColumn (Q : Type) where
  | all
  | allOf (table : String)
  | expr (value : Expr Q) (label : Option String) (text : String)

structure Join where
  natural : Bool := false
  /-- It is to be read after the tables before it. -/
  crossed : Bool := false
  /-- Rows of the tables before it stay when none of its rows joins them. -/
  keepsLeft : Bool := false
  /-- Its rows stay when they join none of those before it. -/
  keepsRight : Bool := false
  deriving DecidableEq, Inhabited

structure TableName where
  database : Option String := none
  name : String
  written : String := ""
  place : Nat := 0
  databaseText : String := ""
  databasePlace : Nat := 0
  deriving DecidableEq, Inhabited

def TableName.text (name : TableName) : String :=
  match name.database with
  | some database => database ++ "." ++ name.name
  | none => name.name

inductive TableItem (Q : Type) where
  | named (name : TableName) (arguments : Option (List (Expr Q)))
  | query (query : Q)

inductive IndexHint where
  | free | none
  | by (index : String)
  deriving DecidableEq

structure TableRef (Q : Type) where
  item : TableItem Q
  label : Option String := none
  join : Join := {}
  condition : Option (Expr Q) := none
  shared : List String := []
  hint : IndexHint := .free
  /-- It is a query of some tables joined in parentheses, whose columns keep their tables' names. -/
  isJoined : Bool := false

structure SelectCore (Q : Type) where
  distinct : Bool := false
  columns : List (ResultColumn Q)
  tables : List (TableRef Q) := []
  condition : Option (Expr Q) := none
  groups : List (Expr Q) := []
  having : Option (Expr Q) := none
  isValues : Bool := false

structure SortKey (Q : Type) where
  key : Expr Q
  direction : Direction := {}

inductive Compound where
  | unionAll | union | intersect | except
  deriving DecidableEq, Inhabited

def Compound.name : Compound → String
  | .unionAll => "UNION ALL"
  | .union => "UNION"
  | .intersect => "INTERSECT"
  | .except => "EXCEPT"

structure SelectPart (Q : Type) where
  link : Compound := .unionAll
  core : SelectCore Q

structure CommonTable (Q : Type) where
  name : String
  columns : Option (List String)
  query : Q

structure Select where
  tables : List (CommonTable Select) := []
  parts : List (SelectPart Select)
  order : List (SortKey Select) := []
  limit : Option (Expr Select) := none
  offset : Option (Expr Select) := none

abbrev Expression := Expr Select

/-! ### Declarations -/

inductive ReferenceAction where
  | nothing | restrict | setNull | setDefault | cascade
  deriving DecidableEq, Inhabited

structure Reference where
  columns : List Nat
  table : String
  targets : List String := []
  onDelete : ReferenceAction := .nothing
  onUpdate : ReferenceAction := .nothing
  /-- It need not hold before the transaction is committed. -/
  deferred : Bool := false
  deriving DecidableEq

structure ColumnDef where
  name : String
  type : String
  primaryKey : Bool := false
  notNull : Bool := false
  onNull : Option Resolution := none
  collation : String := "BINARY"
  generated : Option Expression := none
  isStored : Bool := false
  default : Option Expression := none
  defaultText : String := ""

structure KeyColumn where
  column : Nat
  collation : Option String := none
  descending : Bool := false
  deriving DecidableEq

structure KeyDef where
  primary : Bool
  columns : List KeyColumn
  resolution : Option Resolution := none

structure CheckDef where
  condition : Expression
  label : String

structure TableDef where
  columns : List ColumnDef := []
  keys : List KeyDef := []
  rowidColumn : Option Nat := none
  /-- What becomes of a row whose identifier is taken. -/
  onRowid : Option Resolution := none
  autoincrement : Bool := false
  checks : List CheckDef := []
  references : List Reference := []
  strict : Bool := false
  withoutRowid : Bool := false

structure NewName where
  name : TableName
  temporary : Bool := false
  ifNotExists : Bool := false

/-! ### Changes -/

structure Assignment where
  columns : List String
  value : Expression
  place : Nat := 0

structure Upsert where
  /-- The columns of the key that may be broken, with what a key over them has to be restricted to. -/
  target : List (SortKey Select) := []
  targetCondition : Option Expression := none
  /-- Nothing is done if nothing is changed. -/
  changes : Option (List Assignment) := none
  condition : Option Expression := none

inductive RowsSource where
  | query (query : Select)
  | defaults

structure Insertion where
  resolution : Option Resolution := none
  tables : List (CommonTable Select) := []
  table : TableName
  label : Option String := none
  columns : Option (List String) := none
  source : RowsSource
  upserts : List Upsert := []
  returning : List (ResultColumn Select) := []

structure Updating where
  resolution : Option Resolution := none
  tables : List (CommonTable Select) := []
  table : TableName
  label : Option String := none
  hint : IndexHint := .free
  changes : List Assignment
  sources : List (TableRef Select) := []
  condition : Option Expression := none
  returning : List (ResultColumn Select) := []

structure Deletion where
  tables : List (CommonTable Select) := []
  table : TableName
  label : Option String := none
  hint : IndexHint := .free
  condition : Option Expression := none
  returning : List (ResultColumn Select) := []

/-- When a transaction keeps other connections from changing the database: when it changes it itself,
at once, or at once together with reading. -/
inductive Beginning where
  | deferred
  | immediate
  | exclusive
  deriving DecidableEq

inductive EntryKind where
  | table | view | index | trigger
  deriving DecidableEq

def EntryKind.name : EntryKind → String
  | .table => "table"
  | .view => "view"
  | .index => "index"
  | .trigger => "trigger"

inductive Command where
  | select (query : Select)
  | insert (insertion : Insertion)
  | update (updating : Updating)
  | delete (deletion : Deletion)
  | createTable (name : NewName) (table : TableDef)
  | createTableAs (name : NewName) (query : Select)
  | createView (name : NewName) (columns : Option (List String)) (query : Select)
  | createVirtual (name : NewName) (module : String) (args : List String)
  | drop (kind : EntryKind) (name : TableName) (ifExists : Bool)
  | begin (beginning : Beginning)
  | commit
  | rollback
  | savepoint (name : String)
  | release (name : String)
  | rollbackTo (name : String)

end RowSource.Sql
