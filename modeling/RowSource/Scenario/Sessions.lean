import RowSource.Scenario.Recipe
import RowSource.Session.HostCode
import RowSource.Sql.Engine

/-!
# Scenarios for sessions

Sessions and statements kept by name, and the steps that use them. Host code is a scenario as well:
a generator may run steps while the engine is calling it, and so may the rows of an iteration.
-/

namespace RowSource.Scenario

/-- A parameter: a value, or a value of the row that is being iterated. -/
inductive Param where
  | value (value : HostValue)
  | rowValue (position : Nat)

mutual

inductive SessionStep where
  | openSession (session path : String) (options : Options)
  | info (session : String)
  | describe (session : String)
  | setIntegerMode (session : String) (mode : IntegerMode)
  | setUnsafeMode (session : String) (enabled : Bool)
  | register (session name : String) (factory : Factory SessionRecipe) (eponymous : Bool)
  | exec (session sql : String)
  | query (session sql : String) (params : List Param)
  | runSql (session sql : String) (params : List Param)
  | prepare (session statement sql : String) (mode : Option IntegerMode)
  | run (session statement : String) (params : List Param)
  | first (session statement : String) (params : List Param) (named : Option (List String))
      (positions : Option (List Nat))
  | all (session statement : String) (params : List Param)
  /-- Iterates, with steps to be run for every row. A strict body stops at its first failure and
  hands that on. -/
  | iterate (session statement : String) (params : List Param) (body : Option (List SessionStep))
      (strict : Bool) (breakAt failAt : Option Nat)
  | close (session : String)
  | closeAll (session : String)
  | drop (session : String)
  | takeEvents (session : String)

inductive SessionRecipe where
  | mk (steps : Option (List SessionStep)) (recipe : Recipe)

end

mutual

inductive SessionAnswer where
  | done
  | failed (failure : Failure)
  | noSession
  | noStatement
  /-- A parameter asks for a value of a row where no row is iterated. -/
  | noRow
  | info (path : String) (readonly inTransaction : Bool) (mode : IntegerMode) (unsafeMode : Bool)
      (openSessions : Nat)
  | described (text : String)
  | rows (rows : List Row)
  | ran (result : RunResult)
  | prepared (statement : Statement)
  | first (row : Option Row) (named positions : Option (List (Option HostValue)))
  | iterated (rows : List IteratedRow) (result : Except Failure Unit)
  | closedAll (released left : Nat)
  | dropped (openSessions : Nat)
  | events (events : List (HostEvent SessionReport))

inductive SessionReport where
  | mk (answer : SessionAnswer) (status : Option Status)

inductive IteratedRow where
  | mk (values : List HostValue) (body : BodyAnswer)

inductive BodyAnswer where
  | nothing
  | reports (reports : List SessionReport)
  | answers (answers : List SessionAnswer)
  | failed
  | noSession
  | noStatement

end

structure Iteration where
  row : Option (List HostValue) := none
  /-- The rows so far, the latest first. -/
  seen : List IteratedRow := []

structure Memory where
  sessions : List (String × Nat) := []
  statements : List (String × Statement) := []
  events : List (HostEvent SessionReport) := []
  /-- The running iterations, the innermost first. -/
  iterations : List Iteration := []
  /-- Some parameter has asked for a row where there was none. No further step is run. -/
  isSpoilt : Bool := false

abbrev scenarioHost : Host where
  Memory := Memory
  Factory := Factory SessionRecipe
  Generator := Product SessionRecipe
  Stream := ProductStream Stream

abbrev ScenarioWorld := World scenarioHost Sql.engine

abbrev Running := Worldly scenarioHost Sql.engine

abbrev ScenarioCallbacks := Callbacks scenarioHost Sql.engine

def SessionStep.session : SessionStep → String
  | openSession session _ _ | info session | describe session | setIntegerMode session _
  | setUnsafeMode session _ | register session _ _ _ | exec session _ | query session _ _
  | runSql session _ _ | prepare session _ _ _ | run session _ _ | first session _ _ _ _
  | all session _ _ | iterate session _ _ _ _ _ _ | close session | closeAll session
  | drop session | takeEvents session => session

namespace Memory

def session? (memory : Memory) (name : String) : Option Nat :=
  (memory.sessions.find? fun known => known.1 == name).map (·.2)

def statement? (memory : Memory) (name : String) : Option Statement :=
  (memory.statements.find? fun known => known.1 == name).map (·.2)

def withoutSession (memory : Memory) (name : String) : Memory :=
  match memory.session? name with
  | none => memory
  | some id =>
      { memory with
        sessions := memory.sessions.filter fun known => known.1 != name
        statements := memory.statements.filter fun known => known.2.session != id }

def withSession (memory : Memory) (name : String) (id : Nat) : Memory :=
  let memory := memory.withoutSession name
  { memory with sessions := (name, id) :: memory.sessions }

def withStatement (memory : Memory) (name : String) (statement : Statement) : Memory :=
  { memory with
    statements := (name, statement) :: memory.statements.filter fun known => known.1 != name }

def currentRow? (memory : Memory) : Option (List HostValue) :=
  memory.iterations.findSome? (·.row)

def value? (memory : Memory) : Param → Option HostValue
  | .value given => some given
  | .rowValue position => memory.currentRow?.map fun row => row.getD position .missing

def updateIteration (memory : Memory) (f : Iteration → Iteration) : Memory :=
  match memory.iterations with
  | iteration :: outer => { memory with iterations := f iteration :: outer }
  | [] => memory

end Memory

namespace SessionScenario

def remembered {α : Type} (f : Memory → α) : Running α := do return f (← get).memory

def remember (f : Memory → Memory) : Running Unit :=
  modify fun w => { w with memory := f w.memory }

def withSession (name : String) (action : Nat → Running SessionAnswer) : Running SessionAnswer := do
  match ← remembered (·.session? name) with
  | some id => action id
  | none => return .noSession

def withStatement (name : String) (action : Statement → Running SessionAnswer) :
    Running SessionAnswer := do
  match ← remembered (·.statement? name) with
  | some statement => action statement
  | none => return .noStatement

def withValues (params : List Param) (action : List HostValue → Running SessionAnswer) :
    Running SessionAnswer := do
  match params.mapM (← remembered id).value? with
  | some values => action values
  | none =>
      remember fun memory => { memory with isSpoilt := true }
      return .noRow

def answered {α : Type} (action : Action scenarioHost Sql.engine α) (answer : α → SessionAnswer) :
    Running SessionAnswer := do
  match ← action.run with
  | .ok value => return answer value
  | .error failure => return .failed failure

def openSessions : Running Nat := do return Session.openCount (← get)

/-- Opens a session under a name. The one that had the name is dropped then. -/
def openUnder (name path : String) (options : Options) : Running SessionAnswer := do
  match ← (Session.openSession (E := Sql.engine) path options).run with
  | .error failure => return .failed failure
  | .ok id =>
      match ← remembered (·.session? name) with
      | some old => let _ ← (Session.drop old).run
      | none => pure ()
      remember (·.withSession name id)
      return .done

def dropNamed (name : String) (id : Nat) : Running SessionAnswer := do
  let _ ← (Session.drop id).run
  remember (·.withoutSession name)
  return .dropped (← openSessions)

def info (id : Nat) : Running SessionAnswer := do
  match ← (Session.inTransaction id).run with
  | .error failure => return .failed failure
  | .ok inTransaction =>
      let s := (← get).session id
      return .info s.path s.readonly inTransaction s.status.integerMode s.status.unsafeMode
        (← openSessions)

def prepare (C : ScenarioCallbacks) (id : Nat) (name sql : String) (mode : Option IntegerMode) :
    Running SessionAnswer := do
  match ← (Session.prepare C id sql).run with
  | .error failure => return .failed failure
  | .ok statement =>
      let statement :=
        match mode with
        | some mode => statement.withIntegerMode mode
        | none => statement
      remember (·.withStatement name statement)
      return .prepared statement

def first (C : ScenarioCallbacks) (statement : Statement) (params : List HostValue)
    (named : Option (List String)) (positions : Option (List Nat)) : Running SessionAnswer :=
  answered (statement.first C params) fun row =>
    .first row (named.map fun names => names.map fun name => row.bind (·.named? name))
      (positions.map fun positions => positions.map fun position => row.bind (·.get? position))

/-- What becomes of a row after its body: the iteration fails, stops or goes on. -/
def afterBody (row : Row) (body : BodyAnswer) (breakAt failAt : Option Nat) :
    Running (Except Failure Bool) := do
  let seen ← remembered fun memory => ((memory.iterations.head?).map (·.seen.length)).getD 0
  remember (·.updateIteration fun iteration =>
    { iteration with seen := .mk row.values body :: iteration.seen })
  if failAt = some (seen + 1) then return .error (.invalidArgument "stop")
  else return .ok (breakAt ≠ some (seen + 1))

def cutShort (row : Row) (body : BodyAnswer) (result : Except Failure Bool) :
    Running (Except Failure Bool) := do
  remember (·.updateIteration fun iteration =>
    { iteration with seen := .mk row.values body :: iteration.seen })
  return result

def iterate (C : ScenarioCallbacks) (statement : Statement) (params : List HostValue)
    (visit : Row → Running (Except Failure Bool)) : Running SessionAnswer := do
  remember fun memory => { memory with iterations := {} :: memory.iterations }
  let result ← (statement.iterate C params fun row => ExceptT.mk (visit row)).run
  let seen ← remembered fun memory => ((memory.iterations.head?).map (·.seen)).getD []
  remember fun memory => { memory with iterations := memory.iterations.tail }
  return .iterated seen.reverse result

mutual

def answerStep (C : ScenarioCallbacks) : SessionStep → Running SessionAnswer
  | .openSession name path options => openUnder name path options
  | .info name => withSession name info
  | .describe name => withSession name fun id => do
      return .described (((← get).session id).describe "#")
  | .setIntegerMode name mode => withSession name fun id =>
      answered (Session.setIntegerMode id mode) fun _ => .done
  | .setUnsafeMode name enabled => withSession name fun id =>
      answered (Session.setUnsafeMode id enabled) fun _ => .done
  | .register name module factory eponymous => withSession name fun id =>
      answered (Session.registerTable id module factory eponymous) fun _ => .done
  | .exec name sql => withSession name fun id => answered (Session.exec C id sql) fun _ => .done
  | .query name sql params => withSession name fun id =>
      withValues params fun values => answered (Session.query C id sql values) .rows
  | .runSql name sql params => withSession name fun id =>
      withValues params fun values => answered (Session.run C id sql values) .ran
  | .prepare name statement sql mode => withSession name fun id => prepare C id statement sql mode
  | .run _ name params => withStatement name fun statement =>
      withValues params fun values => answered (statement.run C values) .ran
  | .first _ name params named positions => withStatement name fun statement =>
      withValues params fun values => first C statement values named positions
  | .all _ name params => withStatement name fun statement =>
      withValues params fun values => answered (statement.all C values) .rows
  | .iterate _ name params none _ breakAt failAt => withStatement name fun statement =>
      withValues params fun values =>
        iterate C statement values fun row => afterBody row .nothing breakAt failAt
  | .iterate _ name params (some body) strict breakAt failAt =>
      withStatement name fun statement => withValues params fun values =>
        iterate C statement values fun row => do
          remember (·.updateIteration fun iteration => { iteration with row := some row.values })
          if strict then
            match ← answerStrictly C body with
            | .ok answers => afterBody row (.answers answers) breakAt failAt
            | .error (.failed failure) => cutShort row .failed (.error failure)
            | .error .noSession => cutShort row .noSession (.ok false)
            | .error _ => cutShort row .noStatement (.ok false)
          else
            let reports ← answerSteps C body
            afterBody row (.reports reports) breakAt failAt
  | .close name => withSession name fun id => answered (Session.close id) fun _ => .done
  | .closeAll _ => do
      match ← (Session.closeAll (H := scenarioHost) (E := Sql.engine)).run with
      | .ok released => return .closedAll released (← openSessions)
      | .error failure => return .failed failure
  | .drop name => withSession name (dropNamed name)
  | .takeEvents _ => do
      let events ← remembered (·.events)
      remember fun memory => { memory with events := [] }
      return .events events

def answerSteps (C : ScenarioCallbacks) : List SessionStep → Running (List SessionReport)
  | [] => return []
  | step :: rest => do
      if ← remembered (·.isSpoilt) then return []
      let answer ← answerStep C step
      let w ← get
      let status := (w.memory.session? step.session).map w.status
      return .mk answer status :: (← answerSteps C rest)

/-- The answers to steps up to the first failure, or that failure. -/
def answerStrictly (C : ScenarioCallbacks) :
    List SessionStep → Running (Except SessionAnswer (List SessionAnswer))
  | [] => return .ok []
  | step :: rest => do
      match ← answerStep C step with
      | .failed failure => return .error (.failed failure)
      | .noSession => return .error .noSession
      | .noStatement => return .error .noStatement
      | .noRow => return .error .noRow
      | answer => return (← answerStrictly C rest).map (answer :: ·)

end

def note (event : HostEvent SessionReport) : Running Unit :=
  remember fun memory => { memory with events := memory.events ++ [event] }

def recipes (C : ScenarioCallbacks) : Generation Running SessionRecipe Stream where
  generate recipe args := do
    let .mk steps recipe := recipe
    note (.generated args)
    match steps with
    | none => pure ()
    | some steps => note (.reentered (← answerSteps C steps))
    return recipe.openWith args
  advance stream := return stream.advance

def host : HostCode scenarioHost Sql.engine where
  above C :=
    { define := fun factory args => do
        note (.defined args)
        return factory.define args
      generation := products (recipes C) fun args => note (.generated args) }

/-- How deep calls of host code may be nested. -/
def hostDepth : Nat := 1000

/-- The reports on the steps of a scenario, unless a parameter asks for a row where there is none. -/
def run? (steps : List SessionStep) : Option (List SessionReport) :=
  let start : ScenarioWorld := { memory := {} }
  let (reports, world) := (answerSteps (host.callbacks hostDepth) steps).run start
  if world.memory.isSpoilt then none else some reports

end SessionScenario

end RowSource.Scenario
