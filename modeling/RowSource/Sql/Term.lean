import RowSource.Sql.Affinity
import RowSource.Sql.Function
import RowSource.Sql.Syntax

/-!
# Terms

Expressions whose names are resolved: every column is a position in one of the sources that a query
reads. A source has its number within the whole statement, so a term keeps its meaning when it is
carried from one query into another. A query within a term stands in a slot of its own, and takes
what it needs of the query around it as arguments.
-/

namespace RowSource.Sql

structure ColumnRef where
  source : Nat
  /-- The position of the column. The identifier of the row has none. -/
  position : Option Nat
  affinity : Option Affinity
  /-- The order of its texts. The identifier of the row has none. -/
  collation : Option Collation := none
  /-- The column always holds something. -/
  filled : Bool := false
  deriving DecidableEq, Inhabited

namespace ColumnRef

def isSame (a b : ColumnRef) : Bool := a.source == b.source && a.position == b.position

def number (ref : ColumnRef) : Int := (ref.position.map Int.ofNat).getD (-1)

def isPlain (ref : ColumnRef) : Bool := ref.affinity.all (· == .blob)

end ColumnRef

structure Shape where
  columns : List (Option Affinity × Option Collation)
  deriving DecidableEq, Inhabited

inductive Term where
  | literal (value : Datum)
  /-- A hexadecimal number that is too large, and its place if a complaint may point to it. -/
  | oversized (source : String) (place : Option Nat)
  | parameter (number : Nat)
  | column (ref : ColumnRef)
  /-- A column that is known to equal a value. -/
  | fixed (ref : ColumnRef) (value : Term)
  /-- An argument of the query, which is a column of a query around it. -/
  | outer (index : Nat) (ref : ColumnRef)
  /-- The result of a function over all rows, with the collation that its arguments ask for. -/
  | total (index : Nat) (collation : Option Collation)
  | call (function : Scalar) (arguments : List Term)
  | cast (operand : Term) (type : String)
  | collate (operand : Term) (collation : Collation) (explicit : Bool)
  | unary (op : UnaryOp) (operand : Term)
  /-- Whether an operand is true, or false, as wanted. -/
  | truth (operand : Term) (negated wanted : Bool)
  | binary (op : BinaryOp) (left right : Term)
  | between (operand low high : Term)
  | row (items : List Term)
  | inList (operand : Term) (members : List Term)
  | inQuery (operand : Term) (slot : Nat) (arguments : List Term) (shape : Shape)
  | nonempty (slot : Nat) (arguments : List Term)
  | query (slot : Nat) (arguments : List Term) (shape : Shape)
  | choice (condition result otherwise : Term)
  | caseOf (operand choices : Term)
  | raise (resolution : Resolution) (message : Term)
  deriving Inhabited

namespace Term

mutual

def collect {α : Type} (f : Term → List α) : Term → List α
  | term@(literal _) | term@(oversized _ _) | term@(parameter _) | term@(column _)
  | term@(outer _ _) | term@(total _ _) => f term
  | fixed ref value => f (fixed ref value) ++ value.collect f
  | call function arguments => f (call function arguments) ++ collectAll f arguments
  | cast operand type => f (cast operand type) ++ operand.collect f
  | collate operand collation explicit =>
      f (collate operand collation explicit) ++ operand.collect f
  | unary op operand => f (unary op operand) ++ operand.collect f
  | truth operand negated wanted => f (truth operand negated wanted) ++ operand.collect f
  | binary op left right => f (binary op left right) ++ left.collect f ++ right.collect f
  | between operand low high =>
      f (between operand low high) ++ operand.collect f ++ low.collect f ++ high.collect f
  | row items => f (row items) ++ collectAll f items
  | inList operand members =>
      f (inList operand members) ++ operand.collect f ++ collectAll f members
  | inQuery operand slot arguments shape =>
      f (inQuery operand slot arguments shape) ++ operand.collect f ++ collectAll f arguments
  | nonempty slot arguments => f (nonempty slot arguments) ++ collectAll f arguments
  | query slot arguments shape => f (query slot arguments shape) ++ collectAll f arguments
  | choice condition result otherwise =>
      f (choice condition result otherwise) ++ condition.collect f ++ result.collect f ++
        otherwise.collect f
  | caseOf operand choices => f (caseOf operand choices) ++ operand.collect f ++ choices.collect f
  | raise resolution message => f (raise resolution message) ++ message.collect f

def collectAll {α : Type} (f : Term → List α) : List Term → List α
  | [] => []
  | term :: rest => term.collect f ++ collectAll f rest

end

mutual

/-- A term built anew from the inside out: each term in it is changed once those within it are. -/
def transform (f : Term → Term) : Term → Term
  | term@(literal _) | term@(oversized _ _) | term@(parameter _) | term@(column _)
  | term@(outer _ _) | term@(total _ _) | term@(fixed _ _) => f term
  | call function arguments => f (.call function (transformAll f arguments))
  | cast operand type => f (.cast (operand.transform f) type)
  | collate operand collation explicit => f (.collate (operand.transform f) collation explicit)
  | unary op operand => f (.unary op (operand.transform f))
  | truth operand negated wanted => f (.truth (operand.transform f) negated wanted)
  | binary op left right => f (.binary op (left.transform f) (right.transform f))
  | between operand low high =>
      f (.between (operand.transform f) (low.transform f) (high.transform f))
  | row items => f (.row (transformAll f items))
  | inList operand members => f (.inList (operand.transform f) (transformAll f members))
  | inQuery operand slot arguments shape =>
      f (.inQuery (operand.transform f) slot (transformAll f arguments) shape)
  | nonempty slot arguments => f (.nonempty slot (transformAll f arguments))
  | query slot arguments shape => f (.query slot (transformAll f arguments) shape)
  | choice condition result otherwise =>
      f (.choice (condition.transform f) (result.transform f) (otherwise.transform f))
  | caseOf operand choices => f (.caseOf (operand.transform f) (choices.transform f))
  | raise resolution message => f (.raise resolution (message.transform f))

def transformAll (f : Term → Term) : List Term → List Term
  | [] => []
  | term :: rest => term.transform f :: transformAll f rest

end

mutual

def same : Term → Term → Bool
  | literal a, literal b => a == b
  | oversized a _, oversized b _ => a == b
  | parameter a, parameter b => a == b
  | column a, column b => a == b
  | fixed a v, fixed b w => a == b && v.same w
  | outer a _, outer b _ => a == b
  | total a _, total b _ => a == b
  | call f a, call g b => f == g && sameAll a b
  | cast a s, cast b t => s == t && a.same b
  | collate a c d, collate b e f => c == e && d == f && a.same b
  | unary o a, unary p b => o == p && a.same b
  | truth a m v, truth b n w => m == n && v == w && a.same b
  | binary o a b, binary p c d => o == p && a.same c && b.same d
  | between a b c, between d e f => a.same d && b.same e && c.same f
  | row a, row b => sameAll a b
  | inList a b, inList c d => a.same c && sameAll b d
  | inQuery a s b _, inQuery c t d _ => s == t && a.same c && sameAll b d
  | nonempty s a, nonempty t b => s == t && sameAll a b
  | query s a _, query t b _ => s == t && sameAll a b
  | choice a b c, choice d e f => a.same d && b.same e && c.same f
  | caseOf a b, caseOf c d => a.same c && b.same d
  | raise a m, raise b n => a == b && m.same n
  | _, _ => false

def sameAll : List Term → List Term → Bool
  | [], [] => true
  | a :: as, b :: bs => a.same b && sameAll as bs
  | _, _ => false

end

instance : BEq Term := ⟨same⟩

def columns (term : Term) : List ColumnRef :=
  term.collect fun
    | column ref => [ref]
    | _ => []

def sources (term : Term) : List Nat := term.columns.map (·.source)

def totals (term : Term) : List Nat :=
  term.collect fun
    | total index _ => [index]
    | _ => []

def slots (term : Term) : List Nat :=
  term.collect fun
    | inQuery _ slot _ _ | nonempty slot _ | query slot _ _ => [slot]
    | _ => []

def hasQuery (term : Term) : Bool := !term.slots.isEmpty

def oversized? (term : Term) : Option (String × Option Nat) :=
  (term.collect fun
    | oversized source place => [(source, place)]
    | _ => []).head?

def varies (term : Term) : Bool :=
  !(term.collect fun
    | call function _ => if (Function.scalar function).isStable then [] else [()]
    | _ => []).isEmpty

def hasCall (term : Term) : Bool :=
  !(term.collect fun
    | call _ _ | total _ _ => [()]
    | _ => []).isEmpty

def substitute (f : ColumnRef → Term) (term : Term) : Term :=
  term.transform fun
    | column ref => f ref
    | other => other

def bare : Term → Term
  | collate operand _ _ => operand.bare
  | call .likely (operand :: _) => operand.bare
  | term => term

def uncollated : Term → Term
  | collate operand _ _ => operand.uncollated
  | term => term

def affinity? : Term → Option Affinity
  | column ref | fixed ref _ | outer _ ref => ref.affinity
  | cast _ type => some (Affinity.ofType type)
  | collate operand _ _ => operand.affinity?
  | row (first :: _) => first.affinity?
  | query _ _ shape => shape.columns.head?.bind (·.1)
  | _ => none

mutual

def explicit? : Term → Option Collation
  | literal _ | oversized _ _ | parameter _ | column _ | fixed _ _ | outer _ _ | nonempty _ _
  | query _ _ _ => none
  | total _ collation => collation
  | collate _ collation explicit => if explicit then some collation else none
  | call _ arguments => firstExplicit? arguments
  | cast operand _ | unary _ operand | truth operand _ _ | inQuery operand _ _ _ | raise _ operand =>
      operand.explicit?
  | binary _ left right | caseOf left right => left.explicit? <|> right.explicit?
  | between operand low high | choice operand low high =>
      operand.explicit? <|> low.explicit? <|> high.explicit?
  | row items => (items.head?.map fun _ => ()).bind fun _ => firstExplicit? items
  | inList operand members => operand.explicit? <|> firstExplicit? members

def firstExplicit? : List Term → Option Collation
  | [] => none
  | term :: rest => term.explicit? <|> firstExplicit? rest

end

/-- The collation of a term: one that is asked for within it, or else that of its column. -/
def collation? : Term → Option Collation
  | column ref | fixed ref _ | outer _ ref => ref.collation
  | collate _ collation _ => some collation
  | cast operand _ | unary .identity operand => operand.collation?
  | row (first :: _) => first.collation?
  | query _ _ _ => none
  | term => term.explicit?

/-- How two terms are compared with each other. A collation that is asked for on the left goes before
one on the right, and those go before the collations of columns. -/
def comparison (left right : Term) : Comparison where
  affinity := comparisonAffinity left.affinity? right.affinity?
  collation :=
    let collation :=
      if left.explicit?.isSome then left.collation?
      else if right.explicit?.isSome then right.collation?
      else left.collation? <|> right.collation?
    collation.getD .binary

def column? : Term → Option ColumnRef
  | column ref => some ref
  | _ => none

/-- The column that a term stands for, known or not. -/
def standsFor? : Term → Option ColumnRef
  | column ref | fixed ref _ => some ref
  | _ => none

def isConstant (term : Term) : Bool :=
  (term.collect fun
    | column _ | total _ _ | outer _ _ | inQuery _ _ _ _ | nonempty _ _ | query _ _ _ => [()]
    | call function _ => if (Function.scalar function).isStable then [] else [()]
    | _ => []).isEmpty

def isFilled : Term → Bool
  | literal value => !value.isNull
  | column ref => ref.filled
  | unary .negate operand | unary .identity operand => operand.isFilled
  | _ => false

def isDependent (term : Term) : Bool :=
  !(term.collect fun
    | inQuery _ _ (_ :: _) _ | nonempty _ (_ :: _) | query _ (_ :: _) _ => [()]
    | _ => []).isEmpty

def takesOuter (term : Term) : Bool :=
  !(term.collect fun
    | outer _ _ => [()]
    | _ => []).isEmpty

def isZero : Term → Bool
  | literal (.integer i) => i == 0
  | _ => false

def isTrue : Term → Bool
  | literal (.integer i) => decide (0 < i.toInt) && decide (i.toInt < 2147483648)
  | _ => false

def integer? : Term → Option Int
  | literal (.integer i) => some i.toInt
  | unary .negate operand => operand.integer?.map (- ·)
  | unary .identity operand => operand.integer?
  | _ => none

/-- A term where a plain number on one side of `AND` or `OR` decides for a side. -/
def simplified : Term → Term
  | binary .and left right =>
      let right' := right.simplified
      let left' := left.simplified
      if left'.isTrue || right'.isZero then right'
      else if right'.isTrue || left'.isZero then left'
      else .binary .and left right
  | binary .or left right =>
      let right' := right.simplified
      let left' := left.simplified
      if left'.isTrue || right'.isZero then left'
      else if right'.isTrue || left'.isZero then right'
      else .binary .or left right
  | term => term

/-- The side of `AND` or `OR` that alone decides, the left one or else the right one, if a plain number
is on the other. -/
def side? (op : BinaryOp) (left right : Term) : Option Bool :=
  let left := left.simplified
  let right := right.simplified
  if left.isTrue || right.isZero then some (op == .or)
  else if right.isTrue || left.isZero then some (op == .and)
  else none

def conjuncts : Term → List Term
  | binary .and left right => left.conjuncts ++ right.conjuncts
  | collate (binary .and left right) _ _ => left.conjuncts ++ right.conjuncts
  | term => [term]

def disjuncts : Term → List Term
  | binary .or left right => left.disjuncts ++ right.disjuncts
  | term => [term]

structure Kinds where
  number : Bool := false
  text : Bool := false
  blob : Bool := false

def Kinds.ofAffinity : Option Affinity → Kinds
  | some .text => { text := true, blob := true }
  | some .blob | none => { number := true, text := true, blob := true }
  | _ => { number := true, blob := true }

def Kinds.either (a b : Kinds) : Kinds :=
  ⟨a.number || b.number, a.text || b.text, a.blob || b.blob⟩

def kinds : Term → Kinds
  | unary .identity operand | collate operand _ _ => operand.kinds
  | literal .null => {}
  | literal (.text _) => { text := true }
  | literal (.blob _) => { blob := true }
  | binary .concat _ _ => { text := true, blob := true }
  | parameter _ | total _ _ | call _ _ => { number := true, text := true, blob := true }
  | column ref | fixed ref _ | outer _ ref => .ofAffinity ref.affinity
  | cast _ type => .ofAffinity (some (Affinity.ofType type))
  | query _ _ shape => .ofAffinity (shape.columns.head?.bind (·.1))
  | row (first :: _) => .ofAffinity first.affinity?
  | caseOf _ choices => choices.kinds
  | choice _ result otherwise => result.kinds.either otherwise.kinds
  | _ => { number := true }

def items : Term → List Term
  | row items => items
  | term => [term]

/-- What a part of a row is compared as. That of a query is compared as a column. -/
def part (term : Term) (index : Nat) : Term :=
  match term with
  | row items => items.getD index (.literal .null)
  | query _ _ shape =>
      let (affinity, collation) := shape.columns.getD index (none, none)
      .column { source := 0, position := none, affinity := affinity, collation := collation }
  | term => term

def width : Term → Nat
  | row items => items.length
  | query _ _ shape => shape.columns.length
  | _ => 1

end Term

structure Aggregate where
  function : Summary
  arguments : List Term
  isDistinct : Bool := false
  /-- The order in which the rows are taken, with the directions. -/
  order : List (Term × Direction) := []
  filter : Option Term := none
  name : String
  place : Option Nat

namespace Aggregate

def same (a b : Aggregate) : Bool :=
  a.function == b.function && Term.sameAll a.arguments b.arguments && a.isDistinct == b.isDistinct &&
    Term.sameAll (a.order.map (·.1)) (b.order.map (·.1)) &&
    a.order.map (·.2) == b.order.map (·.2) &&
    (match a.filter, b.filter with
      | none, none => true
      | some s, some t => s.same t
      | _, _ => false)

def terms (aggregate : Aggregate) : List Term :=
  aggregate.arguments ++ aggregate.order.map (·.1) ++ aggregate.filter.toList

def mapTerms (aggregate : Aggregate) (f : Term → Term) : Aggregate :=
  { aggregate with
    arguments := aggregate.arguments.map f
    order := aggregate.order.map fun (key, direction) => (f key, direction)
    filter := aggregate.filter.map f }

def collation (aggregate : Aggregate) : Collation :=
  (aggregate.arguments.findSome? Term.collation?).getD .binary

end Aggregate

/-- Conditions with one more. They are false from the start if one of them is a plain zero and no
function is called. -/
def withCondition (conditions : List Term) (condition : Term) : List Term :=
  if conditions.isEmpty then condition.conjuncts
  else if (conditions.length == 1 && conditions.any Term.isZero || condition.isZero) &&
      !conditions.any Term.hasCall && !condition.hasCall then [.literal (.integer 0)]
  else conditions ++ condition.conjuncts

end RowSource.Sql
