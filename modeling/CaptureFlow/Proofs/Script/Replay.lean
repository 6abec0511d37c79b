import CaptureFlow.Proofs.Camera.Calls
import CaptureFlow.Proofs.Session.Failing
/-! # What a replay reports

The timeline of a replay has an entry for each step, with what the host is told while the step is
delivered and, if the operation fails, the failure as the last event (`Session.entryOf`).  No
callback is lost or comes under another step, and none is mistaken for such a failure
(`Accounts`).  Since steps are delivered one after the other, more of them only add to a report.

As long as the preferred camera can be remembered, a step fails for two reasons
(`FailedEntry`): no camera could be opened, which is also what the listener was told, or a display
was not turned by a right angle, and then nothing has happened (`Script.replay_accounts`). -/

namespace CaptureFlow

def SessionEvent.isStepFailed : SessionEvent → Bool
  | .stepFailed _ => true
  | _ => false

namespace Session

variable {s s₀ : Session} {b : Backing} {q : Schedule} {cause : Failure}

/-! ### What the host is told -/

/-- What the host is told during an operation. -/
def callbacks (s : Session) (op : SessionOp) : List SessionEvent :=
  (s.perform op).signals.filterMap (·.event?)

theorem signal?_ne_stepFailed {event : CameraEvent Photographer} {told : SessionEvent}
    (meant : s.signal? event = some (.told told)) : told.isStepFailed = false := by
  cases event with
  | delivered ticket tag frame =>
      cases tag with
      | session =>
          obtain rfl := SessionSignal.told.inj (Option.some.inj meant)
          unfold pictureEvent
          split
          · rfl
          · split <;> rfl
      | host label => cases meant
  | failed cause ticket =>
      obtain rfl := SessionSignal.told.inj (Option.some.inj meant)
      rfl
  | requested | discarded | answered => cases meant

theorem Scheduled.ne_stepFailed {event : SessionEvent} (h : Scheduled event) :
    event.isStepFailed = false := by
  cases h <;> rfl

theorem Tracks.callbacks (h : Tracks q s) (op : SessionOp) :
    ∀ event ∈ s.callbacks op, event.isStepFailed = false := by
  intro event mem
  obtain ⟨signal, told, meant⟩ := List.mem_filterMap.mp mem
  cases signal with
  | handed label frame => cases meant
  | told event' =>
      obtain rfl := Option.some.inj meant
      rw [(h.perform op).signals] at told
      rcases List.mem_append.mp told with told | told
      · obtain ⟨e, _, meant⟩ := List.mem_filterMap.mp told
        exact signal?_ne_stepFailed meant
      · obtain ⟨event, scheduled, same⟩ := List.mem_map.mp told
        obtain rfl := SessionSignal.told.inj same
        exact (scheduled_run q _ event scheduled).ne_stepFailed

/-! ### Entries -/

/-- The failure of an operation as the last event of its step. -/
def stepFailure (answer : Except Failure SessionReply) : List SessionEvent :=
  match answer with
  | .ok _ => []
  | .error cause => [.stepFailed cause]

/-- The entry of a step that is delivered to `s`. -/
def entryOf (s : Session) (index : Nat) (step : Step) : TimelineEntry where
  index := index
  step := step
  events := s.callbacks step.op ++ stepFailure (s.perform step.op).answer

/-- The session before the step with this index. -/
def before (s₀ : Session) (steps : List Step) (index : Nat) : Session :=
  s₀.performAll ((steps.take index).map Step.op)

theorem deliver_eq (s : Session) (index : Nat) (step : Step) :
    s.deliver step = ((s.entryOf index step).events, (s.perform step.op).session) := by
  cases answered : (s.perform step.op).answer with
  | ok reply => simp only [deliver, entryOf, stepFailure, callbacks, answered, List.append_nil]
  | error cause => simp only [deliver, entryOf, stepFailure, callbacks, answered]

theorem deliverAll_cons (s : Session) (index : Nat) (step : Step) (rest : List Step) :
    s.deliverAll index (step :: rest) =
      (s.entryOf index step :: ((s.perform step.op).session.deliverAll (index + 1) rest).1,
        ((s.perform step.op).session.deliverAll (index + 1) rest).2) := by
  simp only [deliverAll, deliver_eq s index step]
  rfl

theorem deliverAll_append (s : Session) (index : Nat) (steps more : List Step) :
    (s.deliverAll index (steps ++ more)).1 = (s.deliverAll index steps).1 ++
      ((s.deliverAll index steps).2.deliverAll (index + steps.length) more).1 := by
  induction steps generalizing s index with
  | nil => rfl
  | cons step rest ih =>
      rw [List.cons_append, deliverAll_cons, deliverAll_cons, ih, List.length_cons,
        Nat.add_right_comm, Nat.add_assoc]
      rfl

/-- Every step has its entry, in its place. -/
theorem deliverAll_eq (s : Session) (first : Nat) (steps : List Step) :
    (s.deliverAll first steps).1 =
      steps.mapIdx fun index step => (s.before steps index).entryOf (first + index) step := by
  induction steps generalizing s first with
  | nil => rfl
  | cons step rest ih =>
      rw [deliverAll_cons, List.mapIdx_cons, ih]
      simp only [Nat.add_right_comm first 1]
      rfl

/-- Together the entries hold all that the host is told. -/
theorem Tracks.deliverAll (h : Tracks q s) (index : Nat) (steps : List Step) :
    ((s.deliverAll index steps).1.flatMap (·.events)).filter (!·.isStepFailed) =
      (s.signalsOf (steps.map Step.op)).filterMap (·.event?) := by
  induction steps generalizing s q index with
  | nil => rfl
  | cons step rest ih =>
      have told : (s.callbacks step.op).filter (!·.isStepFailed) = s.callbacks step.op :=
        List.filter_eq_self.mpr fun event mem => by rw [h.callbacks step.op event mem]; rfl
      have failure : (stepFailure (s.perform step.op).answer).filter (!·.isStepFailed) = [] := by
        cases (s.perform step.op).answer <;> rfl
      rw [deliverAll_cons, List.flatMap_cons, List.filter_append, entryOf, List.filter_append, told,
        failure, List.append_nil, ih (h.perform step.op).tracks]
      exact (List.filterMap_append ..).symm

/-! ### Steps that fail -/

/-- An entry with a failure is that of an operation that has failed. -/
theorem Tracks.answer_of_stepFailed (h : Tracks q s) {index : Nat} {step : Step}
    (failed : .stepFailed cause ∈ (s.entryOf index step).events) :
    (s.perform step.op).answer = .error cause := by
  rcases List.mem_append.mp failed with told | failed
  · cases h.callbacks step.op _ told
  · cases answered : (s.perform step.op).answer with
    | ok reply =>
        rw [answered] at failed
        cases failed
    | error e =>
        rw [answered] at failed
        have same := SessionEvent.stepFailed.inj (List.mem_singleton.mp failed)
        exact congrArg Except.error same.symm

/-- The entry of a step that failed with `cause` when it was delivered to `s`. -/
inductive FailedEntry (s : Session) (cause : Failure) : TimelineEntry → Prop
  | camera {index : Nat} {step : Step} (opens : step = .resume ∨ step = .flip) :
      FailedEntry s cause ⟨index, step, [.cameraError cause, .stepFailed cause]⟩
  | rotation {index : Nat} {id : UInt64} {degrees : UInt16} (skew : degrees ∉ [0, 90, 180, 270])
      (unchanged : (s.perform (Step.surface id degrees).op).session = s) :
      FailedEntry s cause ⟨index, .surface id degrees, [.stepFailed cause]⟩

theorem Prefers.failedEntry (h : Prefers b s) (tracks : Tracks q s) {index : Nat} {step : Step}
    (failed : .stepFailed cause ∈ (s.entryOf index step).events) :
    FailedEntry s cause (s.entryOf index step) := by
  have answered := tracks.answer_of_stepFailed failed
  have fails := h.fails tracks (ofHost_op step) answered
  obtain ⟨op, same⟩ : ∃ op, step.op = op := ⟨_, rfl⟩
  simp only [entryOf, callbacks, same] at answered fails ⊢
  rw [answered]
  cases fails with
  | opening opens told =>
      rw [told]
      refine .camera ?_
      subst same
      cases step <;> simp [Step.op] at opens ⊢
  | rotation skew nothing =>
      -- Of all steps only a surface is delivered as this operation.
      cases step with
      | surface id degrees =>
          cases same
          rw [nothing]
          exact .rotation skew (congrArg SessionStep.session nothing)
      | _ => cases same

/-! ### Calls of the device -/

theorem deviceCalls_performAll (agreed : s.gated.Agreed) (ops : List SessionOp) :
    s.deviceCalls <+: (s.performAll ops).deviceCalls := by
  have grows : s.gated.device.Grows (s.performAll ops).gated.device :=
    @camera_keeps s (fun c _ => s.gated.device.Grows c.device)
      (fun _ _ _ _ _ move grows => grows.trans move.grows) [] agreed (.refl _) ops
  exact grows.calls

end Session

/-! ### Replays -/

/-- A report that accounts for all that `steps` cause in a session that begins as `s₀`. -/
structure Accounts (s₀ : Session) (steps : List Step) (report : Report) : Prop where
  timeline : report.timeline =
    steps.mapIdx fun index step => (s₀.before steps index).entryOf index step
  callbacks : (report.timeline.flatMap (·.events)).filter (!·.isStepFailed) =
    (s₀.signalsOf (steps.map Step.op)).filterMap (·.event?)
  deviceCalls : report.deviceCalls = (s₀.performAll (steps.map Step.op)).deviceCalls
  finalFacing : report.finalFacing = (s₀.performAll (steps.map Step.op)).facing

namespace Script

open Session

variable {script : Script} {store opened : Store} {s₀ : Session} {q : Schedule}

def reportOn (s₀ : Session) (steps : List Step) : Report where
  timeline := (s₀.deliverAll 0 steps).1
  deviceCalls := (s₀.deliverAll 0 steps).2.deviceCalls
  finalFacing := (s₀.deliverAll 0 steps).2.facing

theorem accounts_reportOn (tracks : Tracks q s₀) (steps : List Step) :
    Accounts s₀ steps (reportOn s₀ steps) := by
  constructor
  · have timeline := s₀.deliverAll_eq 0 steps
    simp only [Nat.zero_add] at timeline
    exact timeline
  · exact tracks.deliverAll 0 steps
  · exact congrArg Session.deviceCalls (deliverAll_session s₀ 0 steps)
  · exact congrArg Session.facing (deliverAll_session s₀ 0 steps)

theorem reportOn_append (agreed : s₀.gated.Agreed) (steps more : List Step) :
    (reportOn s₀ steps).timeline <+: (reportOn s₀ (steps ++ more)).timeline ∧
      (reportOn s₀ steps).deviceCalls <+: (reportOn s₀ (steps ++ more)).deviceCalls := by
  constructor
  · exact ⟨_, (deliverAll_append s₀ 0 steps more).symm⟩
  · simp only [reportOn, deliverAll_session, List.map_append, performAll_append]
    exact deviceCalls_performAll (agreed_performAll agreed _) _

theorem replay_of_ofDevice
    (made : ofDevice { spec := script.camera.device } store script.orientation =
      (.ok s₀, opened)) :
    script.replay store =
      (.ok (reportOn s₀ script.steps), (s₀.deliverAll 0 script.steps).2.store) := by
  rw [replay, made]
  rfl

theorem replay_error_iff (script : Script) (store : Store) (cause : Failure) :
    (script.replay store).1 = .error cause ↔ store.preferredFacing.1 = .error cause := by
  unfold replay ofDevice
  cases store.preferredFacing with
  | mk result opened =>
      cases result with
      | error e => simp only [Except.error.injEq]
      | ok facing => exact ⟨nofun, nofun⟩

/-- **Replays account for every step and every event.**  Over every script and store, a replay fails
just as reading the preferred camera does, if at all.  Otherwise its report accounts for all that
the steps cause in the session that is made, and more steps only add to it.  If the preferred camera
can be remembered, the steps that fail are those of `FailedEntry`. -/
theorem replay_accounts (script : Script) (store : Store) :
    (∀ cause, (script.replay store).1 = .error cause ↔ store.preferredFacing.1 = .error cause) ∧
    ∀ report after, script.replay store = (.ok report, after) → ∃ s₀ opened,
      ofDevice { spec := script.camera.device } store script.orientation = (.ok s₀, opened) ∧
      Accounts s₀ script.steps report ∧
      (∀ more, ∃ longer last,
        { script with steps := script.steps ++ more }.replay store = (.ok longer, last) ∧
        report.timeline <+: longer.timeline ∧ report.deviceCalls <+: longer.deviceCalls) ∧
      (store.Accepts → ∀ (index : Nat) (entry : TimelineEntry) (cause : Failure),
        report.timeline[index]? = some entry → .stepFailed cause ∈ entry.events →
        FailedEntry (s₀.before script.steps index) cause entry) := by
  refine ⟨replay_error_iff script store, fun report after replayed => ?_⟩
  cases made : ofDevice { spec := script.camera.device } store script.orientation with
  | mk result opened =>
      cases result with
      | error e =>
          rw [replay, made] at replayed
          cases replayed
      | ok s₀ =>
          rw [replay_of_ofDevice made] at replayed
          obtain rfl := Except.ok.inj (Prod.mk.inj replayed).1
          have tracks := tracks_of_ofDevice made
          have accounts := accounts_reportOn tracks script.steps
          refine ⟨s₀, opened, rfl, accounts, fun more => ?_, fun accepts index entry cause => ?_⟩
          · let longer : Script := { script with steps := script.steps ++ more }
            exact ⟨_, _, @replay_of_ofDevice longer _ _ _ made,
              reportOn_append (agreed_of_ofDevice made) script.steps more⟩
          · intro here failed
            rw [accounts.timeline, List.getElem?_mapIdx] at here
            obtain ⟨step, _, rfl⟩ := Option.map_eq_some_iff.mp here
            have prefers :=
              (prefers_of_ofDevice made accepts).performSteps (script.steps.take index)
            exact prefers.failedEntry (tracks.performAll _) failed

/-- A camera without preview sizes cannot be opened, and a display turned by 45 degrees is refused;
the replay goes on to its end. -/
theorem replay_accounts_unsized :
    let script : Script :=
      { camera := { previewSizes := some [] }, steps := [.resume, .surface 1 45, .pause] }
    let unsized : Failure := .camera (.noPreviewSizes .back)
    let refused : Failure := .argument (.badRotation 45)
    ∃ report after s₀, script.replay .volatile = (.ok report, after) ∧
      Accounts s₀ script.steps report ∧
      FailedEntry (s₀.before script.steps 0) unsized
        ⟨0, .resume, [.cameraError unsized, .stepFailed unsized]⟩ ∧
      FailedEntry (s₀.before script.steps 1) refused
        ⟨1, .surface 1 45, [.stepFailed refused]⟩ := by
  intro script unsized refused
  have timeline : (script.replay .volatile).1.toOption.map (·.timeline) = some
      [⟨0, .resume, [.cameraError unsized, .stepFailed unsized]⟩,
        ⟨1, .surface 1 45, [.stepFailed refused]⟩, ⟨2, .pause, []⟩] := by decide +kernel
  cases replayed : script.replay .volatile with
  | mk result after =>
      rw [replayed] at timeline
      cases result with
      | error cause => cases timeline
      | ok report =>
          obtain ⟨s₀, opened, _, accounts, _, fails⟩ :=
            (replay_accounts script .volatile).2 report after replayed
          have fails := fails fun _ _ => List.not_mem_nil
          have entries : report.timeline = _ := Option.some.inj timeline
          rw [entries] at fails
          exact ⟨report, after, s₀, rfl, accounts,
            fails 0 _ unsized rfl (.tail _ (.head _)), fails 1 _ refused rfl (.head _)⟩

end Script

end CaptureFlow
