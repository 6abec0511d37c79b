import CaptureFlow.Proofs.Camera.Causes
import CaptureFlow.Proofs.Camera.Serving
/-! # What waits for a camera to open

What has been asked for too early waits: the surfaces that are to be linked for the camera to open,
turns and pictures for the preview to run.  When the camera is open, the surfaces are linked one
after the other, and the first preview that starts lets all turns and pictures run, in their order,
before the next surface is linked (`Unblocks`).

This is what running the queues comes to if nobody reacts (`Ready.unblocks`), whichever of the calls
are refused or fail.  In `Ready` stands what has to be known of an open camera, and `Went` is a part
of the run: the calls that it makes, each with what the listener is told of it. -/

namespace CaptureFlow

variable {τ : Type} {info : CameraInfo} {preview : Size}

/-! ### Running the queues -/

/-- The exchanges that are made when `links` are run on an open camera, with `requests` waiting for
its preview: whether it streams in the end, and which requests wait then. -/
inductive Unblocks (info : CameraInfo) (preview : Size) :
    Bool → List (CameraAction (Receiver τ)) → List (CameraAction (Receiver τ)) → List Exchange →
      Bool → List (CameraAction (Receiver τ)) → Prop
  | ended (streaming : Bool) (requests : List (CameraAction (Receiver τ))) :
      Unblocks info preview streaming [] requests [] streaming requests
  | unstarted {streaming last : Bool} {links requests left : List (CameraAction (Receiver τ))}
      {exchanges : List Exchange} (surface : UInt64) {outcome : CallOutcome}
      (undone : outcome ≠ .done)
      (others : Unblocks info preview streaming links requests exchanges last left) :
      Unblocks info preview streaming (.linkSurface surface :: links) requests
        (⟨.startPreview preview surface, outcome⟩ :: exchanges) last left
  | started {streaming last : Bool} {links requests left : List (CameraAction (Receiver τ))}
      {served exchanges : List Exchange} (surface : UInt64)
      (inOrder : served.map (·.call) = requests.map (CameraAction.call info preview))
      (others : Unblocks info preview true links [] exchanges last left) :
      Unblocks info preview streaming (.linkSurface surface :: links) requests
        (⟨.startPreview preview surface, .done⟩ :: served ++ exchanges) last left

/-- The rotation by which an action turns the picture. -/
def CameraAction.turn? {β : Type} : CameraAction β → Option ScreenRotation
  | .applyRotation rotation => some rotation
  | _ => none

/-- The rotation that is recorded when these actions have been run. -/
def rotationAfter {β : Type} (rotation : ScreenRotation) (actions : List (CameraAction β)) :
    ScreenRotation :=
  (actions.filterMap CameraAction.turn?).getLastD rotation

namespace CameraMachine

open GatedCamera CameraMove

variable {m m' m₁ : CameraMachine τ} {streaming : Bool}
  {links requests : List (CameraAction (Receiver τ))} {exchanges more : List Exchange}

/-! ### Parts of a run -/

/-- From `m` to `m'` these calls have been made and the listener has been told what has become of
them, with the same camera selected and open. -/
structure Went (m : CameraMachine τ) (exchanges : List Exchange) (m' : CameraMachine τ) : Prop
    extends Made m exchanges (failuresIn exchanges) m' where
  steady : Steady m.camera m'.camera
  cycle : m'.camera.gate.cycle = m.camera.gate.cycle

theorem went_withGate {gate : Gate CameraStage (CameraAction (Receiver τ))}
    (cycle : gate.cycle = m.camera.gate.cycle)
    (flag : gate.isComplete .initialized = m.camera.gate.isComplete .initialized) :
    Went m [] (m.withGate gate) :=
  ⟨made_nothing rfl rfl rfl, steady_withGate m.camera flag, cycle⟩

theorem Went.refl (m : CameraMachine τ) : Went m [] m := ⟨.refl m, .refl _, rfl⟩

theorem Went.trans (h : Went m exchanges m₁) (h' : Went m₁ more m') :
    Went m (exchanges ++ more) m' := by
  refine ⟨?_, h.steady.trans h'.steady, h'.cycle.trans h.cycle⟩
  rw [failuresIn_append]
  exact h.toMade.trans h'.toMade

/-- What is known of a camera that is open, whether it streams, what waits for each stage, and that
nobody reacts. -/
structure Ready (info : CameraInfo) (preview : Size) (streaming : Bool)
    (links requests : List (CameraAction (Receiver τ))) (m : CameraMachine τ) : Prop where
  agreed : m.camera.Agreed
  known : m.camera.info = some info
  size : m.camera.previewSize = some preview
  gate : GateAt m.camera.gate true streaming links requests
  hushed : Hushed m
  bodies : ∀ receiver, .takePicture receiver ∈ requests → receiver.body = []

/-- A part of a run leaves an open camera ready if its gate is known then. -/
theorem Ready.after (h : Ready info preview streaming links requests m) (went : Went m exchanges m')
    (agreed : m'.camera.Agreed) {now : Bool} {links' requests' : List (CameraAction (Receiver τ))}
    (gate : GateAt m'.camera.gate true now links' requests')
    (fewer : ∀ action ∈ requests', action ∈ requests) :
    Ready info preview now links' requests' m' := by
  constructor
  · exact agreed
  · rw [went.steady.info, h.known]
  · rw [went.steady.previewSize, h.size]
  · exact gate
  · exact went.toMade.hushed h.hushed
  · exact fun receiver mem => h.bodies receiver (fewer _ mem)

theorem Ready.withGate (h : Ready info preview streaming links requests m)
    {gate : Gate CameraStage (CameraAction (Receiver τ))}
    {links' requests' : List (CameraAction (Receiver τ))}
    (at_ : GateAt gate true streaming links' requests')
    (cycle : gate.cycle = m.camera.gate.cycle)
    (fewerLinks : ∀ action ∈ links', action ∈ links)
    (fewer : ∀ action ∈ requests', action ∈ requests) :
    Ready info preview streaming links' requests' (m.withGate gate) := by
  have flags : gate.isComplete = m.camera.gate.isComplete := by
    funext stage
    cases stage with
    | initialized => rw [at_.initialized, h.gate.initialized]
    | previewStarted => rw [at_.previewStarted, h.gate.previewStarted]
  refine h.after (went_withGate cycle (congrFun flags _)) ?_ at_ fewer
  refine h.agreed.withGate (at_.stages.trans h.gate.stages.symm) flags fun stage action mem => ?_
  cases stage with
  | initialized =>
      rw [at_.links] at mem
      exact h.agreed.queues _ action (h.gate.links ▸ fewerLinks action mem)
  | previewStarted =>
      rw [at_.requests] at mem
      exact h.agreed.queues _ action (h.gate.requests ▸ fewer action mem)

theorem agreed_run (agreed : m.camera.Agreed) {action : CameraAction (Receiver τ)}
    (complete : m.camera.isAt action.stage = true) : (m.run action).machine.camera.Agreed :=
  (moves_run m (.offered complete) rfl agreed).follows.agreed agreed

/-! ### Turns and pictures -/

theorem run_request (hushed : Hushed m) {action : CameraAction (Receiver τ)}
    (stage : action.stage = .previewStarted)
    (body : ∀ receiver, action = .takePicture receiver → receiver.body = []) :
    (m.run action).LeadsTo (m.run action).machine ∧
      (m.run action).machine.camera.gate = m.camera.gate ∧
      (m.run action).machine.camera.surface = m.camera.surface ∧
      (m.run action).machine.camera.rotation = rotationAfter m.camera.rotation [action] := by
  cases action with
  | linkSurface surface => cases stage
  | applyRotation rotation =>
      have gate := gate_applyRotation m.camera rotation
      have surface := surface_applyRotation m.camera rotation
      have recorded : (m.camera.applyRotation rotation).2.rotation = rotation := by
        simp only [applyRotation]
        split <;> rfl
      cases applied : m.camera.applyRotation rotation with
      | mk result camera =>
          rw [applied] at gate surface recorded
          simp only [run, applied]
          cases result with
          | ok _ => exact ⟨leadsTo_nil _, gate, surface, recorded⟩
          | error cause =>
              rw [camera_fail]
              exact ⟨leadsTo_fail (m := m.withCamera camera) hushed cause none, gate, surface,
                recorded⟩
  | takePicture receiver =>
      cases taken : m.camera.takePicture with
      | mk result camera =>
          obtain ⟨_, rfl⟩ := Prod.mk.inj ((takePicture_eq m.camera).symm.trans taken)
          simp only [run, taken]
          cases result with
          | ok frame =>
              rw [body receiver rfl]
              exact ⟨leadsTo_perform_nil _ _, rfl, rfl, rfl⟩
          | error cause =>
              let after := m.withCamera { m.camera with device := m.camera.device.takePicture.2 }
              rw [camera_fail]
              exact ⟨leadsTo_fail (m := after) hushed cause _, rfl, rfl, rfl⟩

/-- A camera that streams serves a turn or a picture. -/
theorem Ready.request (h : Ready info preview true links requests m)
    (action : CameraAction (Receiver τ)) (stage : action.stage = .previewStarted)
    (body : ∀ receiver, action = .takePicture receiver → receiver.body = []) :
    ∃ outcome m', (m.run action).LeadsTo m' ∧ Went m [⟨action.call info preview, outcome⟩] m' ∧
      Ready info preview true links requests m' ∧ m'.camera.surface = m.camera.surface ∧
      m'.camera.rotation = rotationAfter m.camera.rotation [action] := by
  have complete : m.camera.isAt action.stage = true := by
    rw [stage]
    exact h.gate.previewStarted
  obtain ⟨outcome, made⟩ := made_run h.agreed h.known h.size action complete
  obtain ⟨leads, gate, surface, rotation⟩ := run_request h.hushed stage body
  have went : Went m [⟨action.call info preview, outcome⟩] (m.run action).machine :=
    ⟨made, steady_run m action, by rw [gate]⟩
  refine ⟨outcome, _, leads, went, ?_, surface, rotation⟩
  refine h.after went (agreed_run h.agreed complete) ?_ fun _ mem => mem
  rw [gate]
  exact h.gate

theorem rotationAfter_cons {β : Type} (rotation : ScreenRotation) (action : CameraAction β)
    (rest : List (CameraAction β)) :
    rotationAfter rotation (action :: rest) =
      rotationAfter (rotationAfter rotation [action]) rest := by
  cases action with
  | linkSurface | takePicture => rfl
  | applyRotation last => exact List.getLastD_cons ..

theorem Ready.serves (h : Ready info preview true links requests m) :
    ∃ exchanges m', LeadsTo
        { machine := m, work := [.dispatch .previewStarted m.camera.gate.cycle] } m' ∧
      Went m exchanges m' ∧
      exchanges.map (·.call) = requests.map (CameraAction.call info preview) ∧
      Ready info preview true links [] m' ∧ m'.camera.surface = m.camera.surface ∧
      m'.camera.rotation = rotationAfter m.camera.rotation requests := by
  induction requests generalizing m with
  | nil => exact ⟨[], m, leadsTo_dispatched _ h.gate.requests, .refl m, rfl, h, rfl, rfl⟩
  | cons action requests ih =>
      obtain ⟨gate, taken, cycle, left⟩ := h.gate.take_request
      have stage : action.stage = .previewStarted :=
        h.agreed.queues _ action (h.gate.requests ▸ List.mem_cons_self)
      have before : Ready info preview true links requests (m.withGate gate) :=
        h.withGate left cycle (fun _ mem => mem) fun _ mem => List.mem_cons_of_mem _ mem
      have popped : Went m [] (m.withGate gate) :=
        went_withGate cycle (left.initialized.trans h.gate.initialized.symm)
      obtain ⟨outcome, m₁, ran, went, after, surface, rotation⟩ :=
        before.request action stage fun receiver same =>
          h.bodies receiver (same ▸ List.mem_cons_self)
      obtain ⟨exchanges, m', leads, wentOn, inOrder, done, surface', rotation'⟩ := ih after
      have same : m₁.camera.gate.cycle = m.camera.gate.cycle := went.cycle.trans cycle
      refine ⟨⟨action.call info preview, outcome⟩ :: exchanges, m', ?_,
        (popped.trans went).trans wentOn, ?_, done, surface'.trans surface, ?_⟩
      · rw [same] at leads
        exact leadsTo_dispatch taken ran leads
      · rw [List.map_cons, inOrder, List.map_cons]
      · rw [rotationAfter_cons, rotation', rotation]
        rfl

/-! ### Surfaces -/

theorem Ready.started (h : Ready info preview streaming links requests m)
    (empty : streaming = true → requests = []) {surface : UInt64}
    (made : Made m [⟨.startPreview preview surface, .done⟩] [] m₁)
    (camera : m₁.camera = { m.camera with surface := some surface, device := m₁.camera.device })
    (agreed : (m₁.reach .previewStarted).machine.camera.Agreed)
    (steady : Steady m.camera (m₁.reach .previewStarted).machine.camera) :
    ∃ exchanges m', (m₁.reach .previewStarted).LeadsTo m' ∧
      Went m (⟨.startPreview preview surface, .done⟩ :: exchanges) m' ∧
      m'.camera.surface = some surface ∧
      exchanges.map (·.call) = requests.map (CameraAction.call info preview) ∧
      Ready info preview true links [] m' ∧
      m'.camera.rotation = rotationAfter m.camera.rotation requests := by
  have before : GateAt m₁.camera.gate true streaming links requests := by
    rw [camera]
    exact h.gate
  have rotation : m₁.camera.rotation = m.camera.rotation := by rw [camera]
  have linked : m₁.camera.surface = some surface := by rw [camera]
  have sameCycle : m₁.camera.gate.cycle = m.camera.gate.cycle := by rw [camera]
  cases streaming with
  | true =>
      -- the preview has run before, so nothing waits for it
      obtain rfl := empty rfl
      have again : m₁.camera.gate.complete? .previewStarted = some (m₁.camera.gate, false) :=
        Gate.complete?_again_iff.mpr ⟨rfl, before.previewStarted⟩
      simp only [reach, again] at agreed steady ⊢
      have went : Went m [⟨.startPreview preview surface, .done⟩]
          (m₁.withGate m₁.camera.gate) :=
        ⟨made.quietly (made_nothing rfl rfl rfl), steady, sameCycle⟩
      exact ⟨[], _, leadsTo_nil _, went, linked, rfl,
        h.after went agreed before fun _ mem => mem, rotation⟩
  | false =>
      obtain ⟨gate, completed, cycle, after⟩ := before.complete_streaming
      simp only [reach, completed, if_true] at agreed steady ⊢
      have went : Went m [⟨.startPreview preview surface, .done⟩] (m₁.withGate gate) :=
        ⟨made.quietly (made_nothing rfl rfl rfl), steady, cycle.trans sameCycle⟩
      have ready := h.after went agreed after fun _ mem => mem
      obtain ⟨exchanges, m', leads, wentOn, inOrder, done, surface', rotation'⟩ := ready.serves
      have same : (m₁.withGate gate).camera.gate.cycle = m₁.camera.gate.cycle := cycle
      rw [same] at leads
      refine ⟨exchanges, m', leads, went.trans wentOn, surface'.trans linked, inOrder, done, ?_⟩
      rw [rotation']
      exact congrArg (rotationAfter · requests) rotation

/-- A surface is linked: if the preview starts, what waits for it is served. -/
theorem Ready.link (h : Ready info preview streaming links requests m)
    (empty : streaming = true → requests = []) (surface : UInt64) :
    ∃ outcome exchanges m', (m.run (.linkSurface surface)).LeadsTo m' ∧
      Went m (⟨.startPreview preview surface, outcome⟩ :: exchanges) m' ∧
      m'.camera.surface = some surface ∧
      (outcome ≠ .done ∧ exchanges = [] ∧ Ready info preview streaming links requests m' ∧
          m'.camera.rotation = m.camera.rotation ∨
        outcome = .done ∧
          exchanges.map (·.call) = requests.map (CameraAction.call info preview) ∧
          Ready info preview true links [] m' ∧
          m'.camera.rotation = rotationAfter m.camera.rotation requests) := by
  have complete : m.camera.isAt (CameraAction.linkSurface (β := Receiver τ) surface).stage = true :=
    h.gate.initialized
  have opened : m.camera.device.opened.isSome = true := h.agreed.opened.symm.trans complete
  have agreed := agreed_run h.agreed complete
  have steady := steady_run m (.linkSurface surface)
  have linked := links_run opened h.size surface
  generalize m.run (.linkSurface surface) = move at agreed steady linked ⊢
  cases linked with
  | @unstarted m₁ outcome cause undone made failure camera =>
      have cameraEq := (camera_fail m₁ cause none).trans camera
      have hushed := made.hushed h.hushed
      have went : Went m [⟨.startPreview preview surface, outcome⟩] (m₁.fail cause).machine := by
        refine ⟨?_, steady, ?_⟩
        · rw [failuresIn_singleton failure]
          exact made.trans (made_fail m₁ cause none)
        · rw [cameraEq]
      refine ⟨outcome, [], _, leadsTo_fail hushed cause none, went, ?_,
        .inl ⟨undone, rfl, h.after went agreed ?_ fun _ mem => mem, ?_⟩⟩
      · rw [cameraEq]
      · rw [cameraEq]
        exact h.gate
      · rw [cameraEq]
  | started made camera =>
      obtain ⟨exchanges, m', leads, went, linked, inOrder, ready, rotation⟩ :=
        h.started empty made camera agreed steady
      exact ⟨.done, exchanges, m', leads, went, linked, .inr ⟨rfl, inOrder, ready, rotation⟩⟩

/-- All that waits for the camera to open is run. -/
theorem Ready.unblocks (h : Ready info preview streaming links requests m)
    (empty : streaming = true → requests = []) :
    ∃ exchanges last left m', LeadsTo
        { machine := m, work := [.dispatch .initialized m.camera.gate.cycle] } m' ∧
      Went m exchanges m' ∧ Unblocks info preview streaming links requests exchanges last left ∧
      Ready info preview last [] left m' := by
  induction links generalizing m streaming requests with
  | nil =>
      exact ⟨[], streaming, requests, m, leadsTo_dispatched _ h.gate.links, .refl m,
        .ended streaming requests, h⟩
  | cons action links ih =>
      obtain ⟨gate, taken, cycle, left⟩ := h.gate.take_link
      have stage : action.stage = .initialized :=
        h.agreed.queues _ action (h.gate.links ▸ List.mem_cons_self)
      have before : Ready info preview streaming links requests (m.withGate gate) :=
        h.withGate left cycle (fun _ mem => List.mem_cons_of_mem _ mem) fun _ mem => mem
      have popped : Went m [] (m.withGate gate) :=
        went_withGate cycle (left.initialized.trans h.gate.initialized.symm)
      cases action with
      | applyRotation | takePicture => cases stage
      | linkSurface surface =>
          obtain ⟨outcome, served, m₁, ran, went, -, after⟩ := before.link empty surface
          have same : m₁.camera.gate.cycle = m.camera.gate.cycle := went.cycle.trans cycle
          rcases after with ⟨undone, rfl, after, -⟩ | ⟨rfl, inOrder, after, -⟩
          · obtain ⟨exchanges, last, remain, m', leads, wentOn, others, ready⟩ := ih after empty
            rw [same] at leads
            exact ⟨_, last, remain, m', leadsTo_dispatch taken ran leads,
              (popped.trans went).trans wentOn, .unstarted surface undone others, ready⟩
          · obtain ⟨exchanges, last, remain, m', leads, wentOn, others, ready⟩ :=
              ih after fun _ => rfl
            rw [same] at leads
            exact ⟨_, last, remain, m', leadsTo_dispatch taken ran leads,
              (popped.trans went).trans wentOn, .started surface inOrder others, ready⟩

end CameraMachine

end CaptureFlow
