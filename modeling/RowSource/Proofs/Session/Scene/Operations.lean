import RowSource.Proofs.Session.CallbackFailure
import RowSource.Proofs.Session.Course
import RowSource.Proofs.Session.Scene

/-!
# Scenes of operations

The periods of an operation and the steps of an iteration, and from them every operation from the end
of its checks on: it gives back all marks that it takes, and refuses nothing any more unless its
session is closed on the way.
-/

namespace RowSource

variable {H : Host} {E : Engine} {α β τ : Type}

/-- What is done with the rows of an iteration is steady. -/
def Execution.Steady (later : World H E → World H E → Prop) : Execution H E → Prop
  | .read _ _ (.iterate body) => ∀ row, RowSource.Steady later (body row).run
  | _ => True

/-- The failures of what is done with the rows of an iteration. -/
def Execution.Gives : Execution H E → Failure → Prop
  | .read _ _ (.iterate body), failure => ∃ row w, ((body row).run w).1 = .error failure
  | _, _ => False

def Operation.Steady (later : World H E → World H E → Prop) : Operation H E → Prop
  | .execute call => call.Steady later
  | _ => True

def Operation.Gives : Operation H E → Failure → Prop
  | .execute call, failure => call.Gives failure
  | _, _ => False

namespace Scene

variable {scene : Scene H E}

variable (scene) in
/-- How an operation may fail that has begun to work. -/
def Ends (failure : Failure) (w : World H E) : Prop :=
  failure.Unrefused ∨ scene.given failure ∨ failure = .refused .notOpen ∧ w.Lost scene.session

variable (scene) in
def Operates (stage : Mark) (operation : Operating H E α) : Prop :=
  scene.Tries stage scene.Ends operation

theorem At.isBusy {stage : Mark} {w : World H E} (here : scene.At stage w) :
    (w.status scene.session).isBusy = stage.isBusy := by
  have marked : w.marks scene.session = _ := congrFun here.marked scene.session
  rw [Marks.change_same] at marked
  exact congrArg Mark.isBusy marked

theorem At.markBusy {live lent : Nat} {w : World H E} (here : scene.At ⟨false, live, lent⟩ w) :
    (w.status scene.session).markBusy = .ok { w.status scene.session with isBusy := true } := by
  unfold Status.markBusy
  rw [here.isBusy]
  rfl

section Operations

variable {view : E.Store → τ} (sound : scene.Sound view)
include sound

theorem lasts_ends : scene.Lasts scene.Ends := by
  intro failure w v present later ends
  rcases ends with unrefused | given | ⟨refused, lost⟩
  · exact .inl unrefused
  · exact .inr (.inl given)
  · exact .inr (.inr ⟨refused, sound.evolution.lost later present lost⟩)

/-! ### Periods -/

/-- A change before an operation is taken back after it. -/
theorem Operates.within {before : World H E → Prop} {next inner : Mark}
    {operation : Operating H E α} {enter leave : World H E → World H E}
    (enters : scene.Runs before (modify enter) fun _ => scene.At inner)
    (operates : scene.Operates inner operation)
    (leaves : scene.Runs (scene.At inner) (modify leave) fun _ => scene.At next) :
    scene.Runs before
      (do
        modify enter
        let result ← operation.run
        modify leave
        return result)
      (scene.Tried next scene.Ends) := by
  refine Runs.bind sound enters fun _ => Runs.bind sound operates fun result => ?_
  refine Runs.bind sound (leaves.tried (lasts_ends sound) result) fun _ => ?_
  exact Runs.pure sound fun _ tried => tried

theorem beginBusy {live lent : Nat} {w : World H E} (here : scene.At ⟨false, live, lent⟩ w) :
    let begun := w.updateStatus scene.session fun _ =>
      { w.status scene.session with isBusy := true }
    scene.later w begun ∧ scene.At ⟨true, live, lent⟩ begun := by
  rw [World.updateStatus_known w scene.session fun status => { status with isBusy := true }]
  have begins : scene.Runs (scene.At ⟨false, live, lent⟩)
      (modify (World.updateStatus scene.session fun status => { status with isBusy := true }))
      fun _ => scene.At ⟨true, live, lent⟩ :=
    Runs.updateStatus (g := Mark.busy) sound (fun _ => ⟨rfl, rfl⟩) fun _ => rfl
  obtain ⟨along, begun⟩ := begins w here
  exact ⟨along.since, begun⟩

theorem endBusy {live lent : Nat} :
    scene.Runs (scene.At ⟨true, live, lent⟩)
      (modify (World.updateStatus scene.session Status.clearBusy))
      fun _ => scene.At ⟨false, live, lent⟩ :=
  Runs.updateStatus (g := Mark.idle) sound (fun _ => ⟨rfl, rfl⟩) fun _ => rfl

theorem Operates.withBusy {live lent : Nat} {operation : Operating H E α}
    (operates : scene.Operates ⟨true, live, lent⟩ operation) :
    scene.Operates ⟨false, live, lent⟩ (Thrown.withBusy scene.session operation) := by
  apply Runs.look
  intro w here
  rw [here.markBusy]
  refine within sound ?_ operates (endBusy sound)
  rintro v ⟨rfl, _⟩
  obtain ⟨since, begun⟩ := beginBusy sound here
  exact ⟨.of_later _ since, begun⟩

theorem Operates.withIteration {isBusy : Bool} {live lent : Nat} {operation : Operating H E α}
    (operates : scene.Operates ⟨isBusy, live + 1, lent⟩ operation) :
    scene.Operates ⟨isBusy, live, lent⟩ (Thrown.withIteration scene.session operation) := by
  refine within sound ?_ operates ?_
  · exact Runs.updateStatus (g := Mark.scanning 1) sound (fun _ => ⟨rfl, rfl⟩) fun _ => rfl
  · exact Runs.updateStatus (g := fun mark => { mark with iterators := mark.iterators - 1 }) sound
      (fun _ => ⟨rfl, rfl⟩) fun _ => rfl

theorem Operates.borrowing {isBusy : Bool} {live lent : Nat} {operation : Operating H E α}
    (operates : scene.Operates ⟨isBusy, live, lent + 1⟩ operation) :
    scene.Operates ⟨isBusy, live, lent⟩ (Thrown.borrowing scene.session operation) := by
  apply Runs.look
  intro w here
  cases connected : (w.session scene.session).connected with
  | false =>
      refine Runs.pure sound ?_
      rintro v ⟨rfl, _⟩
      exact ⟨here, .inr (.inr ⟨rfl, .inr connected⟩)⟩
  | true =>
      have borrowed : scene.Runs (scene.At ⟨isBusy, live, lent⟩)
          (modify (World.updateSession scene.session fun s => { s with borrowers := s.borrowers + 1 }))
          fun _ => scene.At ⟨isBusy, live, lent + 1⟩ :=
        Runs.updateSession (g := Mark.lent) sound (fun _ => ⟨rfl, rfl⟩) fun _ => rfl
      refine Runs.strengthen (Runs.bind sound borrowed fun _ => ?_) fun v given => given.2
      refine within sound ?_ operates ?_
      · exact Runs.updateStatus (g := id) sound (fun _ => ⟨rfl, rfl⟩) fun _ => rfl
      · exact Runs.updateSession (g := fun mark => { mark with borrowers := mark.borrowers - 1 })
          sound (fun _ => ⟨rfl, rfl⟩) fun _ => rfl

/-- What is reported of a call of the engine is no refusal. -/
theorem Operates.explaining {live : Nat} {call : Calling H E α} (calls : scene.Calls live call) :
    scene.Operates ⟨true, live, 1⟩ (Thrown.explaining scene.session call) := by
  refine Runs.bind sound calls fun result => ?_
  cases result with
  | ok value =>
      exact Runs.pure sound fun _ here => here
  | error trouble =>
      rintro w ⟨here, unrefused⟩
      have discarded : scene.Runs (scene.At ⟨true, live, 1⟩)
          (modify (World.updateStatus scene.session Status.discardStale))
          fun _ => scene.At ⟨true, live, 1⟩ :=
        Runs.updateStatus (g := id) sound (fun _ => ⟨rfl, rfl⟩) fun _ => rfl
      exact Runs.bind sound discarded
        (fun _ => Runs.pure sound fun _ here => ⟨here, .inl (unrefused.failure _)⟩) w here

theorem Operates.withConnection {live : Nat} {call : Calling H E α}
    (calls : scene.Calls live call) :
    scene.Operates ⟨true, live, 0⟩ (Thrown.withConnection scene.session call) :=
  borrowing sound (explaining sound calls)

/-! ### Iterations -/

section Iterations

variable {s : Statement} (same : s.session = scene.session) {live : Nat}

/-- Between two rows the session may have been closed, but not made busy. -/
theorem beginStep_runs {lent : Nat} :
    scene.Runs (scene.At ⟨false, live, lent⟩)
      (liftM (Statement.beginStep scene.session : Worldly H E (Except Failure Unit)))
      fun result w =>
        (result = .ok () → scene.At ⟨true, live, lent⟩ w) ∧
          ∀ failure, result = .error failure →
            scene.At ⟨false, live, lent⟩ w ∧ scene.Ends failure w := by
  refine Runs.lift fun w here => ?_
  unfold Statement.beginStep
  rw [Worldly.get_bind_apply]
  unfold Status.requireOpen
  cases opened : (w.status scene.session).isOpen with
  | false =>
      refine ⟨sound.evolution.refl w, (nomatch ·), ?_⟩
      rintro _ ⟨⟩
      exact ⟨here, .inr (.inr ⟨rfl, .inl opened⟩)⟩
  | true =>
      rw [if_pos rfl]
      dsimp only
      rw [Worldly.get_bind_apply, here.markBusy]
      obtain ⟨since, begun⟩ := beginBusy sound here
      exact ⟨since, fun _ => begun, fun _ failed => nomatch failed⟩

variable {body : Row → Action H E Bool} (steady : ∀ row, Steady scene.later (body row).run)
  (given : ∀ row w failure, ((body row).run w).1 = .error failure → scene.given failure)
include same steady given

theorem handOver_runs (within : 0 < live) (columns : List String) (values : List SqlValue) :
    scene.Runs (scene.At ⟨true, live, 1⟩) (Thrown.handOver s columns body values)
      (scene.Offered live false fun exit w =>
        ∀ failure, exit = .error failure → scene.Ends failure w) := by
  have known : scene.Calls live (Thrown.known (Statement.readRow s.integerMode columns values)) :=
    Calls.known sound _
  unfold Thrown.handOver
  rw [same]
  refine Runs.bind sound (Operates.explaining sound known) fun row => ?_
  refine Runs.bind sound ((endBusy sound).tried (lasts_ends sound) row) fun _ => ?_
  cases row with
  | error failure =>
      refine Runs.pure sound ?_
      rintro w ⟨here, ends⟩
      exact ⟨here, by rintro _ ⟨⟩; exact ends⟩
  | ok row =>
      have hosted : scene.Runs (scene.At ⟨false, live, 1⟩) (liftM (body row).run)
          fun answer w => scene.At ⟨false, live, 1⟩ w ∧
            ∀ failure, answer = .error failure → scene.given failure :=
        Runs.lift fun w here => by
          obtain ⟨since, kept⟩ := steady row w
          exact ⟨since, here.alike sound since kept, given row w⟩
      refine Runs.hand sound (fun w here => ⟨live, within, here⟩) ?_
      refine Runs.bind sound hosted fun answer => ?_
      rcases answer with failure | (_ | _)
      · refine Runs.pure sound ?_
        rintro w ⟨here, thrown⟩
        exact ⟨here, by rintro _ ⟨⟩; exact .inr (.inl (thrown failure rfl))⟩
      · exact Runs.pure sound fun w here => ⟨here.1, fun _ failed => nomatch failed⟩
      · refine Runs.bind sound ((beginStep_runs sound).strengthen fun w here => here.1) fun begun => ?_
        cases begun with
        | error failure =>
            refine Runs.pure sound ?_
            rintro w ⟨_, stopped⟩
            obtain ⟨here, ends⟩ := stopped failure rfl
            exact ⟨here, by rintro _ ⟨⟩; exact ends⟩
        | ok begun =>
            exact Runs.pure sound fun w here => here.1 rfl

omit same steady given in
theorem ended_runs (info : StatementInfo) (result : Except Trouble Unit) :
    scene.Runs (scene.Tried ⟨true, live, 1⟩ (fun trouble _ => trouble.Unrefused) result)
      (do return (info, ← Thrown.endSteps scene.session result))
      fun outcome => scene.Tried ⟨false, live, 1⟩ scene.Ends outcome.2 := by
  have explained : scene.Runs
      (scene.Tried ⟨true, live, 1⟩ (fun trouble _ => trouble.Unrefused) result)
      (Thrown.explaining scene.session (ExceptT.mk (return result))).run
      (scene.Tried ⟨true, live, 1⟩ scene.Ends) := by
    cases result with
    | ok complete =>
        exact Operates.explaining sound (Tries.pure sound complete)
    | error trouble =>
        rintro w ⟨here, unrefused⟩
        have thrown : scene.Calls live (ExceptT.mk (return .error trouble) : Calling H E Unit) :=
          Runs.pure sound fun _ here => ⟨here, unrefused⟩
        exact Operates.explaining sound thrown w here
  have ended : scene.Runs
      (scene.Tried ⟨true, live, 1⟩ (fun trouble _ => trouble.Unrefused) result)
      (Thrown.endSteps scene.session result) (scene.Tried ⟨false, live, 1⟩ scene.Ends) := by
    refine Runs.bind sound explained fun explained => ?_
    refine Runs.bind sound ((endBusy sound).tried (lasts_ends sound) explained) fun _ => ?_
    exact Runs.pure sound fun _ tried => tried
  exact Runs.bind sound ended fun _ => Runs.pure sound fun _ tried => tried

theorem rows_runs (within : 0 < live) (columns : List String) (info : StatementInfo)
    {routine : Routine E.Store Unit} (keeps : routine.Keeps view) :
    scene.Runs (scene.At ⟨true, live, 1⟩)
      (do
        match ← (Thrown.run scene.callbacks scene.session
            (fun _ values => Thrown.handOver s columns body values) () routine).run with
        | .ok (.inr exit) => return (info, exit)
        | .ok (.inl _) => return (info, ← Thrown.endSteps scene.session (.ok ()))
        | .error trouble => return (info, ← Thrown.endSteps scene.session (.error trouble)))
      fun outcome => scene.Tried ⟨false, live, 1⟩ scene.Ends outcome.2 := by
  have offers (opened : Nat) (state : Unit) (values : List SqlValue) :=
    handOver_runs sound same steady given (Nat.add_pos_left within opened) columns values
  have lasts : scene.Lasts fun (exit : Except Failure Unit) w =>
      ∀ failure, exit = .error failure → scene.Ends failure w :=
    fun exit w v present later ends failure failed =>
      lasts_ends sound failure w v present later (ends failure failed)
  refine Runs.bind sound (run_runs sound offers lasts () keeps) fun outcome => ?_
  rcases outcome with trouble | (ended | exit)
  · exact ended_runs sound info (.error trouble)
  · exact ended_runs sound info (.ok ())
  · refine Runs.pure sound ?_
    rintro w ⟨here, ends⟩
    cases exit with
    | error failure => exact ⟨here, ends failure rfl⟩
    | ok complete => exact here

theorem steps_runs (within : 0 < live) (held : HeldStatement E) (values : List SqlValue) :
    scene.Runs (scene.At ⟨false, live, 1⟩) (Thrown.steps scene.callbacks s held values body)
      fun outcome => scene.Tried ⟨false, live, 1⟩ scene.Ends outcome.2 := by
  unfold Thrown.steps
  rw [same]
  refine Runs.bind sound (beginStep_runs sound) fun begun => ?_
  cases begun with
  | error failure =>
      exact Runs.pure sound fun w stopped => stopped.2 failure rfl
  | ok begun =>
      refine Runs.strengthen ?_ fun w begun => begun.1 rfl
      refine Runs.bind sound (Calls.renew sound s.text held) fun result => ?_
      cases result with
      | error trouble =>
          exact ended_runs sound held.info (.error trouble)
      | ok statement =>
          exact rows_runs sound same steady given within held.info.columns (E.info statement)
            (sound.engine.execute _ statement values)

theorem boundSteps_runs (within : 0 < live) (held : HeldStatement E) (values : List SqlValue) :
    scene.Runs (scene.At ⟨false, live, 1⟩) (Thrown.boundSteps scene.callbacks s held values body)
      fun outcome => scene.Tried ⟨false, live, 1⟩ scene.Ends outcome.2 := by
  have known : scene.Calls live (Thrown.known (held.info.bind values)) := Calls.known sound _
  unfold Thrown.boundSteps
  rw [same]
  refine Runs.bind sound (Operates.withBusy sound (.explaining sound known)) fun bound => ?_
  cases bound with
  | error failure =>
      exact Runs.pure sound fun _ tried => tried
  | ok values =>
      exact steps_runs sound same steady given within held values

end Iterations

/-! ### Operations -/

theorem execute_operates (call : Execution H E) (same : call.session = scene.session)
    (steady : call.Steady scene.later) (given : ∀ failure, call.Gives failure → scene.given failure)
    (values : List SqlValue) :
    scene.Operates ⟨false, 0, 0⟩ (Thrown.engaged scene.callbacks call values) := by
  have firstRow (statement : E.Statement) (values : List SqlValue) : scene.Calls 0
      (Thrown.first scene.callbacks scene.session (E.execute scene.session statement values)) :=
    Calls.first sound (sound.engine.execute _ statement values)
  rcases call with ⟨id, sql⟩ | ⟨s, params⟩ | ⟨s, params, fetch⟩
  · cases same
    exact .withBusy sound (.withConnection sound (Calls.batch sound _ _))
  · change s.session = scene.session at same
    unfold Thrown.engaged
    simp only [same]
    refine .withBusy sound (.withConnection sound (Calls.withEngine sound same values ?_))
    intro columns statement values
    refine (firstRow statement values).bind sound fun row => ?_
    cases row with
    | some row => exact Calls.known sound (.error .returnedRows)
    | none => exact Tries.look fun w => Tries.pure sound _
  · change s.session = scene.session at same
    cases fetch with
    | first =>
        unfold Thrown.engaged
        simp only [same]
        refine .withBusy sound (.withConnection sound (Calls.withEngine sound same values ?_))
        intro columns statement values
        refine (firstRow statement values).bind sound fun row => ?_
        cases row with
        | none => exact Tries.pure sound none
        | some row => exact Calls.known sound _
    | all =>
        unfold Thrown.engaged
        simp only [same]
        refine .withBusy sound (.withConnection sound (Calls.withEngine sound same values ?_))
        intro columns statement values
        exact Calls.collect sound _ (sound.engine.execute _ statement values)
    | iterate body =>
        have fails (row : Row) (w : World H E) (failure : Failure)
            (failed : ((body row).run w).1 = .error failure) : scene.given failure :=
          given failure ⟨row, w, failed⟩
        unfold Thrown.engaged
        simp only [same]
        refine .withIteration sound (.borrowing sound ?_)
        refine (Operates.withBusy sound (.explaining sound (Calls.hold sound s.text))).bind sound ?_
        intro held
        refine Runs.bind sound (boundSteps_runs sound same steady fails Nat.one_pos held values) ?_
        intro (info, result)
        refine Runs.bind sound ((Runs.keep sound s.text info).tried (lasts_ends sound) result) ?_
        exact fun _ => Runs.pure sound fun _ tried => tried

theorem prepare_operates (sql : String) (values : List SqlValue) :
    scene.Operates ⟨false, 0, 0⟩
      ((Operation.prepare scene.session sql).engaged scene.callbacks values) := by
  refine .withBusy sound ?_
  refine (Operates.withConnection sound (Calls.hold sound _)).bind sound fun held => ?_
  refine Tries.silent sound (Runs.keep sound _ _) fun _ => ?_
  exact Tries.look fun w => Tries.pure sound _

omit sound in
/-- Registering a table tells the engine first, and the session later. Neither step alone need lead to
a later world, so this is for an order that does not see either. -/
theorem register_operates (sound : scene.Sound fun _ => ())
    (loose : ∀ {w v : World H E}, w.Alike (fun _ => ()) v → scene.later w v) (name : String)
    (factory : H.Factory) (eponymous : Bool) (values : List SqlValue) :
    scene.Operates ⟨false, 0, 0⟩ ((Operation.registerTable scene.session name factory
      eponymous).engaged scene.callbacks values) := by
  refine .withBusy sound ?_
  refine (Operates.withConnection sound fun w here => ?_).bind sound fun _ => ?_
  · rw [Noting.get_bind_run]
    cases E.createModule scene.session name eponymous w.store with
    | error fault =>
        exact ⟨.of_later _ (sound.evolution.refl w), here, trivial⟩
    | ok store =>
        have stored := sound.evolution.later_updateStore (f := fun _ => store) (w := w) rfl
        exact ⟨.of_later _ stored, here.alike sound stored rfl⟩
  · let record (s : Session H) : Session H :=
      { s with
        moduleNames := s.moduleNames ++ [foldCase name]
        modules := s.modules ++ [⟨name, factory⟩] }
    have registered : scene.Runs (scene.At ⟨true, 0, 0⟩)
        (modify (World.updateSession scene.session record)) fun _ => scene.At ⟨true, 0, 0⟩ :=
      fun w here => ⟨.of_later () (loose (w.alike_updateSession (f := record) (fun _ => rfl) _)),
        here.updateSession (f := record) (g := id) (fun _ => rfl) fun _ => rfl⟩
    exact Runs.bind sound registered fun _ => Runs.pure sound fun _ here => here

end Operations

end Scene

/-! ### Registering a table -/

/-- What makes no demand and hands no row over. -/
def Noting.Silent (action : Noting H E α) : Prop := ∀ w, (action w).events = []

namespace Noting.Silent

theorem pure (value : α) : Silent (Pure.pure value : Noting H E α) := fun _ => rfl

theorem change (f : World H E → World H E) : Silent (modify f : Noting H E Unit) := fun _ => rfl

theorem bind {action : Noting H E α} {rest : α → Noting H E β} (first : Silent action)
    (second : ∀ value, Silent (rest value)) : Silent (action >>= rest) :=
  fun w => List.append_eq_nil_iff.mpr ⟨first w, second _ _⟩

theorem withBusy {id : Nat} {operation : Operating H E α} (silent : Silent operation.run) :
    Silent (Thrown.withBusy id operation).run := by
  intro w
  unfold Thrown.withBusy
  rw [ExceptT.run_mk, Noting.get_bind_apply]
  cases (w.status id).markBusy with
  | error failure =>
      rfl
  | ok status =>
      exact ((change _).bind fun _ => silent.bind fun _ => (change _).bind fun _ => .pure _) w

theorem withConnection {id : Nat} {call : Calling H E α} (silent : Silent call.run) :
    Silent (Thrown.withConnection id call).run := by
  have explained : Silent (Thrown.explaining id call).run := by
    refine silent.bind fun result => ?_
    cases result with
    | ok value => exact .pure _
    | error trouble => exact fun w => rfl
  intro w
  unfold Thrown.withConnection Thrown.borrowing
  rw [ExceptT.run_mk, Noting.get_bind_apply]
  split
  · rfl
  · exact ((change _).bind fun _ => (change _).bind fun _ => explained.bind fun _ =>
      (change _).bind fun _ => .pure _) w

end Noting.Silent

theorem Evolution.refused_steady {view : E.Store → τ} {later : World H E → World H E → Prop}
    (evolution : Evolution view later) : (Callbacks.refused : Callbacks H E).Steady later :=
  ⟨fun _ _ => evolution.pure _, fun _ _ => evolution.pure _, fun _ => evolution.pure _⟩

/-! ### From the beginning to the end -/

namespace Operation

/-- The scene of an operation that begins in some world. -/
def scene (C : Callbacks H E) (later : World H E → World H E → Prop) (operation : Operation H E)
    (w : World H E) : Scene H E where
  session := operation.session
  marks := w.marks
  callbacks := C
  later := later
  given := operation.Gives

theorem scene_at {C : Callbacks H E} {later : World H E → World H E → Prop}
    {operation : Operation H E} {w : World H E} {values : List SqlValue}
    (admitted : operation.admitted (w.session operation.session) = .ok values) :
    (operation.scene C later w).At ⟨false, 0, 0⟩ w := by
  obtain ⟨opened, idle⟩ := available_of_admitted admitted
  refine ⟨World.present_of_open opened, (Marks.change_of_fixed ?_).symm⟩
  have unmarked : (w.marks operation.session).isBusy = false := idle
  change Mark.mk false _ _ = w.marks operation.session
  rw [← unmarked]
  rfl

section Registering

variable {C : Callbacks H E} {id : Nat} {name : String} {factory : H.Factory} {eponymous : Bool}
  {values : List SqlValue} {w : World H E}

theorem registerTable_silent : Noting.Silent
    ((Operation.registerTable (E := E) id name factory eponymous).engaged C values).run := by
  refine .withBusy (.bind (.withConnection fun w => ?_) fun result => ?_)
  · rw [Noting.get_bind_run]
    cases E.createModule id name eponymous w.store <;> rfl
  · cases result with
    | error failure => exact .pure _
    | ok made => exact fun w => rfl

/-- Registering a table calls no host code. -/
theorem registerTable_tried {view : E.Store → τ} {later : World H E → World H E → Prop}
    (evolution : Evolution view later) :
    let operation : Operation H E := .registerTable id name factory eponymous
    let scene := operation.scene C later w
    let noted := (operation.engaged C values).run w
    operation.admitted (w.session id) = .ok values →
      scene.Along w noted ∧ scene.Tried ⟨false, 0, 0⟩ scene.Ends noted.result noted.world := by
  intro operation scene noted admitted
  have since : later w noted.world := by
    have settled := operation.settles Callbacks.refused_calm trivial w trivial
    have begun : (operation.thrown Callbacks.refused).run w = noted := thrown_of_admitted admitted
    have performed : (Session.registerTable id name factory eponymous).run w = _ := settled.same
    have registered := evolution.registerTable id name factory eponymous w
    rwa [performed, begun] at registered
  have along : scene.Along w noted := by
    have silent : noted.events = [] := registerTable_silent w
    have whole : noted = ⟨noted.result, [], noted.world⟩ := by rw [← silent]
    rw [whole]
    exact .of_later _ since
  -- The marks and the failure are the same in whatever order worlds follow each other.
  let coarse : Scene H E := operation.scene Callbacks.refused (World.Leads fun _ => True) w
  have evolves : Evolution _ coarse.later := World.Leads.evolution lawless E.keeps_nothing
  have sound : coarse.Sound fun _ => () :=
    ⟨evolves, evolves.refused_steady, E.keeps_nothing.toStatementsKeep⟩
  have tried : coarse.Tried ⟨false, 0, 0⟩ coarse.Ends noted.result noted.world :=
    (Scene.register_operates sound (World.Leads.of_alike lawless) name factory eponymous values w
      (scene_at admitted)).2
  have here : scene.At ⟨false, 0, 0⟩ noted.world := ⟨tried.here.present, tried.here.marked⟩
  refine ⟨along, ?_⟩
  cases result : noted.result with
  | ok registered =>
      exact here
  | error failure =>
      rw [result] at tried
      exact ⟨here, tried.2⟩

end Registering

/-- An operation gives back every mark that it takes. Once it is admitted it fails with a refusal only
if its session is lost in the end, or if that is what host code gave it for a row. -/
theorem thrown_along {view : E.Store → τ} {C : Callbacks H E}
    {later : World H E → World H E → Prop} (evolution : Evolution view later)
    (steady : C.Steady later) (engine : E.StatementsKeep view) (operation : Operation H E)
    (hosted : operation.Steady later) (w : World H E) :
    let scene := operation.scene C later w
    let noted := (operation.thrown C).run w
    scene.Along w noted ∧ noted.world.marks = w.marks ∧
      ∀ values, operation.admitted (w.session operation.session) = .ok values →
        ∀ failure, noted.result = .error failure → scene.Ends failure noted.world := by
  intro scene noted
  cases admitted : operation.admitted (w.session operation.session) with
  | error failure =>
      have refused : noted = ⟨.error failure, [], w⟩ := thrown_of_refused admitted
      rw [refused]
      exact ⟨.of_later _ (evolution.refl w), rfl, fun _ impossible => nomatch impossible⟩
  | ok values =>
      have begun : noted = (operation.engaged C values).run w := thrown_of_admitted admitted
      have sound : scene.Sound view := ⟨evolution, steady, engine⟩
      have enacted : scene.Along w noted ∧
          scene.Tried ⟨false, 0, 0⟩ scene.Ends noted.result noted.world := by
        rw [begun]
        cases operation with
        | prepare id sql =>
            exact Scene.prepare_operates sound sql values w (scene_at admitted)
        | registerTable id name factory eponymous =>
            exact registerTable_tried evolution admitted
        | execute call =>
            exact Scene.execute_operates sound call rfl hosted (fun _ given => given) values w
              (scene_at admitted)
      obtain ⟨along, tried⟩ := enacted
      refine ⟨along, tried.here.marked.trans (scene_at admitted).marked.symm, ?_⟩
      intro _ _ failure failed
      rw [failed] at tried
      exact tried.2

end Operation

end RowSource
