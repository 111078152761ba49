import RowSource.Session.Reading

/-!
# Host code

Host code runs inside operations: a factory is asked to define a table, a generator to generate and
a stream to advance, and the rows of an iteration are handed to it. While it runs it may use any
session by the operations of this library, and has no other way to change the world than those and
its own memory. `HostAction` says so of one call; `HostCode` is a whole host of which it is true.

Host code that calls an operation may find itself called again inside it. `HostCode.callbacks`
serves such calls to any depth that is asked for, and refuses them below.
-/

namespace RowSource

variable {H : Host} {E : Engine}

/-- What host code may do, with its own callbacks served by `C`. -/
inductive HostAction (C : Callbacks H E) : {α : Type} → Worldly H E α → Prop where
  | pure {α : Type} (value : α) : HostAction C (pure value)
  | bind {α β : Type} {action : Worldly H E α} {rest : α → Worldly H E β} :
      HostAction C action → (∀ value, HostAction C (rest value)) → HostAction C (action >>= rest)
  /-- Host code may look at its memory, at the sessions and at the registry. -/
  | look {α : Type} (f : H.Memory → List (Session H) → List Nat → α) :
      HostAction C (do let w ← get; return f w.memory w.sessions w.registry)
  | remember (f : H.Memory → H.Memory) :
      HostAction C (modify fun w => { w with memory := f w.memory })
  | openSession (path : String) (options : Options) :
      HostAction C (Session.openSession path options).run
  | close (id : Nat) : HostAction C (Session.close id).run
  | drop (id : Nat) : HostAction C (Session.drop id).run
  | closeAll : HostAction C Session.closeAll.run
  | inTransaction (id : Nat) : HostAction C (Session.inTransaction id).run
  | setIntegerMode (id : Nat) (mode : IntegerMode) :
      HostAction C (Session.setIntegerMode id mode).run
  | setUnsafeMode (id : Nat) (enabled : Bool) :
      HostAction C (Session.setUnsafeMode id enabled).run
  | exec (id : Nat) (sql : String) : HostAction C (Session.exec C id sql).run
  | prepare (id : Nat) (sql : String) : HostAction C (Session.prepare C id sql).run
  | registerTable (id : Nat) (name : String) (factory : H.Factory) (eponymous : Bool) :
      HostAction C (Session.registerTable id name factory eponymous).run
  | run (s : Statement) (params : List HostValue) : HostAction C (s.run C params).run
  | first (s : Statement) (params : List HostValue) : HostAction C (s.first C params).run
  | all (s : Statement) (params : List HostValue) : HostAction C (s.all C params).run
  | iterate (s : Statement) (params : List HostValue) {body : Row → Action H E Bool} :
      (∀ row, HostAction C (body row).run) → HostAction C (s.iterate C params body).run

structure Callbacks.Made (C : Callbacks H E) (made : Callbacks H E) : Prop where
  define (factory : H.Factory) (args : List String) : HostAction C (made.define factory args)
  generate (generator : H.Generator) (args : List HostValue) :
    HostAction C (made.generation.generate generator args)
  advance (stream : H.Stream) : HostAction C (made.generation.advance stream)

/-- A host, by how its callbacks use the callbacks that are served inside them. -/
structure HostCode (H : Host) (E : Engine) where
  above : Callbacks H E → Callbacks H E

def HostCode.Admissible (host : HostCode H E) : Prop := ∀ C, Callbacks.Made C (host.above C)

def Callbacks.refused : Callbacks H E where
  define _ _ := return .error (.message "host code is nested too deeply")
  generation :=
    { generate := fun _ _ => return .error (.message "host code is nested too deeply")
      advance := fun stream =>
        return (.error (.message "host code is nested too deeply"), stream) }

/-- The callbacks of a host, nested to a depth. -/
def HostCode.callbacks (host : HostCode H E) : Nat → Callbacks H E
  | 0 => .refused
  | depth + 1 => host.above (host.callbacks depth)

theorem Callbacks.made_refused (C : Callbacks H E) : Callbacks.Made C Callbacks.refused where
  define _ _ := .pure _
  generate _ _ := .pure _
  advance _ := .pure _

end RowSource
