import RowSource.Table.Connection
import RowSource.Text.Blank

/-!
# Recipes for host code

A recipe is a row generator given by data: it yields rows in which arguments may stand for cells,
counts, or fails. `Factory` is a table factory given in the same way.
-/

namespace RowSource.Scenario

inductive Cell where
  | value (value : HostValue)
  | argument (position : Nat)
  deriving DecidableEq

def Cell.fill (args : List HostValue) : Cell → HostValue
  | .value given => given
  | .argument position => args.getD position .missing

inductive Source where
  | rows (rows : List (Except HostError (List Cell)))
  | echo
  /-- The numbers from one to the first argument, or to a default. -/
  | count (default : Int)
  | squares
  | fails (error : HostError)

structure Recipe where
  /-- No rows unless the argument at a position is an integer. -/
  condition : Option (Nat × Int) := none
  source : Source

inductive Stream where
  | listed (rows : RowList)
  /-- The numbers from `next` to `last`, each with its square if asked for. -/
  | counted (next last : Int) (squares : Bool)

namespace Stream

def advance : Stream → Except HostError Advance × Stream
  | .listed rows =>
      let (step, rows) := RowList.advance rows
      (step, .listed rows)
  | .counted next last squares =>
      if next ≤ last then
        (.ok (.row (if squares then [.bigint next, .bigint (next * next)] else [.bigint next])),
          .counted (next + 1) last squares)
      else
        (.ok .done, .counted next last squares)

def advances (stream : Stream) : Nat → List (Except HostError Advance)
  | 0 => []
  | count + 1 =>
      let (step, stream) := stream.advance
      step :: stream.advances count

end Stream

def integerAt (args : List HostValue) (position : Nat) : Option Int :=
  (args[position]?.bind HostValue.asInteger).map Int64.toInt

namespace Source

def openWith (args : List HostValue) : Source → Except HostError Stream
  | .rows list => .ok (.listed (list.map fun row => row.map fun cells => cells.map (Cell.fill args)))
  | .echo => .ok (.listed [.ok args])
  | .count default => .ok (.counted 1 ((integerAt args 0).getD default) false)
  | .squares =>
      match integerAt args 0 with
      | some last => .ok (.counted 1 last true)
      | none => .error (.message "upto must be an integer")
  | .fails error => .error error

end Source

def Recipe.openWith (recipe : Recipe) (args : List HostValue) : Except HostError Stream :=
  match recipe.condition with
  | some (position, wanted) =>
      if integerAt args position = some wanted then recipe.source.openWith args
      else .ok (.listed [])
  | none => recipe.source.openWith args

inductive Factory (G : Type) where
  | raw (definition : Definition G)
  | blueprint (blueprint : Blueprint G)
  | palette
  | fails (error : HostError)

inductive Product (G : Type) where
  | own (generator : G)
  | prefixed (rows : PrefixedRows G)
  | palette (names : List String)

inductive ProductStream (S : Type) where
  | own (stream : S)
  | prefixed (stream : PrefixedStream S)
  | palette (rows : RowList)

def withGenerator {G H : Type} (f : G → H) (d : Definition G) : Definition H :=
  { d with generator := f d.generator }

/-- What a palette lists: the declared arguments without the blanks around them. -/
def paletteNames (args : List String) : List String :=
  (args.drop 3).map fun name => String.ofList (trim name.toList)

namespace Factory

variable {G : Type}

def define (args : List String) : Factory G → Except HostError (Definition (Product G))
  | .raw definition => .ok (withGenerator .own definition)
  | .blueprint plan => (plan.define args).map (withGenerator .prefixed)
  | .palette =>
      .ok ⟨"CREATE TABLE x(name)", .palette (paletteNames args), [], none, false⟩
  | .fails error => .error error

end Factory

/-- How products are run, given how the generators in them are. A palette's run is noted too. -/
def products {m : Type → Type} [Monad m] {G S : Type} (run : Generation m G S)
    (note : List HostValue → m Unit) : Generation m (Product G) (ProductStream S) where
  generate product args :=
    match product with
    | .own generator => return (← run.generate generator args).map .own
    | .prefixed rows => return (← run.prefixed.generate rows args).map .prefixed
    | .palette names => do
        note args
        return .ok (.palette (names.map fun name => .ok [.text name]))
  advance stream :=
    match stream with
    | .own stream => do
        let (step, stream) ← run.advance stream
        return (step, .own stream)
    | .prefixed stream => do
        let (step, stream) ← run.prefixed.advance stream
        return (step, .prefixed stream)
    | .palette rows =>
        let (step, rows) := RowList.advance rows
        return (step, .palette rows)

inductive HostEvent (Answer : Type) where
  | defined (args : List String)
  | generated (args : List HostValue)
  | reentered (answers : List Answer)

end RowSource.Scenario
