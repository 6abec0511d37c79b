import CaptureFlow.Proofs.Camera.Work
/-! # What a call comes to, and what the listener is told

A device answers a call in order with an error just if the call has not been done, and why not can
be read off the exchange (`Exchange.failure?`, `Device.Judged`).  So the calls that have been made
account for what the listener has been told: `Made m exchanges causes m'` says that from `m` to `m'`
the device was given these calls and the listener told of these failures, in this order and of no
others.

An action that runs makes one call, and the listener is told of the failure in its exchange, if
there is one (`made_run`). -/

namespace CaptureFlow

variable {τ : Type}

/-! ### Failures of a device -/

/-- The method whose calls may be refused; a stop never is. -/
def DeviceCall.method? : DeviceCall → Option Refusable
  | .openCamera _ => some .openCamera
  | .startPreview .. => some .startPreview
  | .setRotation _ => some .setRotation
  | .takePicture => some .takePicture
  | .stop => none

/-- How a device fails a call that is in order. -/
def DeviceCall.fault? : DeviceCall → Option Failure
  | .openCamera _ => some (.camera .noFrontCamera)
  | .startPreview .. => some (.transfer .previewRejected)
  | _ => none

/-- The failure of which an exchange tells. -/
def Exchange.failure? (e : Exchange) : Option Failure :=
  match e.outcome with
  | .done => none
  | .refused => e.call.method?.map fun method => .transfer (.refused method)
  | .failed => e.call.fault?

def failuresIn (exchanges : List Exchange) : List Failure :=
  exchanges.filterMap Exchange.failure?

theorem failuresIn_append (exchanges more : List Exchange) :
    failuresIn (exchanges ++ more) = failuresIn exchanges ++ failuresIn more :=
  List.filterMap_append

theorem failuresIn_singleton {e : Exchange} {cause : Failure} (failure : e.failure? = some cause) :
    failuresIn [e] = [cause] := by
  rw [failuresIn, List.filterMap_cons_some failure, List.filterMap_nil]

namespace Device

/-- A call in order has been done, or it has been answered with the failure in its exchange. -/
inductive Judged {α : Type} (d : Device) (call : DeviceCall) (d' : Device) :
    CallOutcome → Except Failure α → Prop
  | done {a : α} (exchanged : Exchanged d ⟨call, .done⟩ d') : Judged d call d' .done (.ok a)
  | undone {outcome : CallOutcome} {cause : Failure} (exchanged : Exchanged d ⟨call, outcome⟩ d')
      (undone : outcome ≠ .done) (failure : Exchange.failure? ⟨call, outcome⟩ = some cause) :
      Judged d call d' outcome (.error cause)

variable {d : Device}

theorem judged_refuse {α : Type} (d : Device) (refusals : DeviceRefusals) {call : DeviceCall}
    {method : Refusable} (refusable : call.method? = some method) :
    Judged d call ({ d with refusals }.refuse (α := α) call method).2 .refused
      ({ d with refusals }.refuse (α := α) call method).1 := by
  refine .undone (exchanged_undone d refusals .refused (by decide) ?_) (by decide) ?_
  · rintro rfl
    cases refusable
  · simp only [Exchange.failure?, refusable, Option.map_some]

theorem judged_fail {α : Type} (d : Device) (refusals : DeviceRefusals) {call : DeviceCall}
    {cause : Failure} (fault : call.fault? = some cause) :
    Judged d call ({ d with refusals }.fail (α := α) call cause).2 .failed
      ({ d with refusals }.fail (α := α) call cause).1 := by
  refine .undone (exchanged_undone d refusals .failed (by decide) ?_) (by decide) fault
  rintro rfl
  cases fault

theorem judged_openCamera (facing : Facing) (closed : d.opened = none) :
    ∃ outcome, Judged d (.openCamera facing) (d.openCamera facing).2 outcome
      (d.openCamera facing).1 := by
  simp only [openCamera]
  split
  · exact ⟨_, judged_refuse d _ rfl⟩
  · split
    next current opened => exact absurd (closed.symm.trans opened) (by simp)
    · split
      · exact ⟨_, judged_fail d _ rfl⟩
      · refine ⟨.done, .done ?_⟩
        constructor <;> simp [record, Exchange.opens, Exchange.streams, Exchange.isStop]

theorem judged_startPreview (size : Size) (surface : UInt64) (opened : d.opened.isSome = true) :
    ∃ outcome, Judged d (.startPreview size surface) (d.startPreview size surface).2 outcome
      (d.startPreview size surface).1 := by
  have present : ¬d.opened.isNone = true := by simp [← Option.not_isSome, opened]
  simp only [startPreview, if_neg present]
  split
  · exact ⟨_, judged_refuse d _ rfl⟩
  · split
    · exact ⟨_, judged_fail d _ rfl⟩
    · refine ⟨.done, .done ?_⟩
      constructor <;> simp [record, Exchange.opens, Exchange.streams, Exchange.isStop]

theorem judged_setRotation (d : Device) (degrees : UInt16) :
    ∃ outcome, Judged d (.setRotation degrees) (d.setRotation degrees).2 outcome
      (d.setRotation degrees).1 := by
  simp only [setRotation]
  split
  · exact ⟨_, judged_refuse d _ rfl⟩
  · refine ⟨.done, .done ?_⟩
    constructor <;> simp [record, Exchange.opens, Exchange.streams, Exchange.isStop]

theorem judged_takePicture (previewing : d.previewing = true) :
    ∃ outcome, Judged d .takePicture d.takePicture.2 outcome d.takePicture.1 := by
  have streams : ¬(!d.previewing) = true := by rw [previewing]; decide
  simp only [takePicture, if_neg streams]
  split
  · exact ⟨_, judged_refuse d _ rfl⟩
  · refine ⟨.done, .done ?_⟩
    constructor <;> simp [record, Exchange.opens, Exchange.streams, Exchange.isStop]

end Device

/-! ### What the listener is told -/

/-- The failures of which the listener has been told, in their order. -/
def told (trace : List (CameraEvent τ)) : List Failure :=
  trace.filterMap fun
    | .failed cause _ => some cause
    | _ => none

theorem told_append (trace events : List (CameraEvent τ)) :
    told (trace ++ events) = told trace ++ told events := List.filterMap_append

/-! ### Calls and what is told of them -/

/-- The call that an action makes to the device of an open camera. -/
def CameraAction.call {β : Type} (info : CameraInfo) (preview : Size) : CameraAction β → DeviceCall
  | .linkSurface surface => .startPreview preview surface
  | .applyRotation rotation =>
    .setRotation (cameraRotation info.sensorOrientation info.facing rotation)
  | .takePicture _ => .takePicture

namespace CameraMachine

variable {m m' m₁ : CameraMachine τ} {exchanges more : List Exchange} {causes others : List Failure}

/-- From `m` to `m'` these calls have been made to the device, and the listener has been told of
these failures. -/
structure Made (m : CameraMachine τ) (exchanges : List Exchange) (causes : List Failure)
    (m' : CameraMachine τ) : Prop where
  exchanges : m'.camera.device.exchanges = m.camera.device.exchanges ++ exchanges
  told : told m'.trace = told m.trace ++ causes
  plan : ∀ ops ∈ m'.plan, ops ∈ m.plan

theorem made_nothing (device : m'.camera.device = m.camera.device)
    (quiet : told m'.trace = told m.trace) (plan : m'.plan = m.plan) : Made m [] [] m' :=
  ⟨by rw [device, List.append_nil], by rw [quiet, List.append_nil], fun _ mem => plan ▸ mem⟩

theorem Made.refl (m : CameraMachine τ) : Made m [] [] m := made_nothing rfl rfl rfl

theorem Made.trans (h : Made m exchanges causes m₁) (h' : Made m₁ more others m') :
    Made m (exchanges ++ more) (causes ++ others) m' := by
  constructor
  · rw [h'.exchanges, h.exchanges, List.append_assoc]
  · rw [h'.told, h.told, List.append_assoc]
  · exact fun ops mem => h.plan ops (h'.plan ops mem)

theorem Made.quietly (h : Made m exchanges causes m₁) (h' : Made m₁ [] [] m') :
    Made m exchanges causes m' := by
  have both := h.trans h'
  rwa [List.append_nil, List.append_nil] at both

theorem Made.hushed (h : Made m exchanges causes m') (hushed : Hushed m) : Hushed m' :=
  fun ops mem => hushed ops (h.plan ops mem)

theorem made_fail (m : CameraMachine τ) (cause : Failure) (ticket : Option Nat) :
    Made m [] [cause] (m.fail cause ticket).machine := by
  constructor
  · rw [camera_fail, List.append_nil]
  · rw [trace_fail, told_append]
    rfl
  · exact (spawns_fail m cause ticket).plan

theorem made_call {camera : GatedCamera (Receiver τ)} {call : DeviceCall} {outcome : CallOutcome}
    (exchanged : Device.Exchanged m.camera.device ⟨call, outcome⟩ camera.device) :
    Made m [⟨call, outcome⟩] [] (m.withCamera camera) :=
  ⟨exchanged.exchanges_eq, (List.append_nil _).symm, fun _ mem => mem⟩

theorem made_undone {camera : GatedCamera (Receiver τ)} {call : DeviceCall} {outcome : CallOutcome}
    {cause : Failure} (exchanged : Device.Exchanged m.camera.device ⟨call, outcome⟩ camera.device)
    (failure : Exchange.failure? ⟨call, outcome⟩ = some cause) (ticket : Option Nat) :
    Made m [⟨call, outcome⟩] (failuresIn [⟨call, outcome⟩])
      ((m.withCamera camera).fail cause ticket).machine := by
  rw [failuresIn_singleton failure]
  exact (made_call exchanged).trans (made_fail _ cause ticket)

theorem made_reach (stages : m.camera.gate.stages = CameraStage.all) (stage : CameraStage) :
    Made m [] [] (m.reach stage).machine := by
  obtain ⟨gate, _, _, after⟩ := reach_eq m stages stage
  rw [after]
  exact made_nothing rfl rfl rfl

/-- What linking a surface to an open camera comes to: the preview starts, so that its stage is
reached, or it does not, and the listener is told why. -/
inductive Links (m : CameraMachine τ) (preview : Size) (surface : UInt64) : CameraMove τ → Prop
  | started {m₁ : CameraMachine τ} (made : Made m [⟨.startPreview preview surface, .done⟩] [] m₁)
      (camera : m₁.camera = { m.camera with surface := some surface, device := m₁.camera.device }) :
      Links m preview surface (m₁.reach .previewStarted)
  | unstarted {m₁ : CameraMachine τ} {outcome : CallOutcome} {cause : Failure}
      (undone : outcome ≠ .done) (made : Made m [⟨.startPreview preview surface, outcome⟩] [] m₁)
      (failure : Exchange.failure? ⟨.startPreview preview surface, outcome⟩ = some cause)
      (camera : m₁.camera = { m.camera with surface := some surface, device := m₁.camera.device }) :
      Links m preview surface (m₁.fail cause)

theorem links_run {preview : Size} (opened : m.camera.device.opened.isSome = true)
    (size : m.camera.previewSize = some preview) (surface : UInt64) :
    Links m preview surface (m.run (.linkSurface surface)) := by
  obtain ⟨outcome, judged⟩ := Device.judged_startPreview preview surface opened
  simp only [run, GatedCamera.startPreview_eq surface size]
  cases called : m.camera.device.startPreview preview surface with
  | mk result device =>
      rw [called] at judged
      let linked := m.withCamera { m.camera with surface := some surface, device }
      cases judged with
      | done exchanged =>
          have made : Made m [⟨.startPreview preview surface, .done⟩] [] linked :=
            made_call exchanged
          exact .started made rfl
      | undone exchanged undone failure =>
          have made : Made m [⟨.startPreview preview surface, outcome⟩] [] linked :=
            made_call exchanged
          exact .unstarted undone made failure rfl

/-- An action whose time has come makes its call, and the listener is told if that is not done. -/
theorem made_run {info : CameraInfo} {preview : Size} (agreed : m.camera.Agreed)
    (known : m.camera.info = some info) (size : m.camera.previewSize = some preview)
    (action : CameraAction (Receiver τ)) (ready : m.camera.isAt action.stage = true) :
    ∃ outcome, Made m [⟨action.call info preview, outcome⟩]
      (failuresIn [⟨action.call info preview, outcome⟩]) (m.run action).machine := by
  cases action with
  | linkSurface surface =>
      have opened : m.camera.device.opened.isSome = true := agreed.opened.symm.trans ready
      have links := links_run opened size surface
      generalize m.run (.linkSurface surface) = move at links ⊢
      cases links with
      | @started m₁ made camera =>
          have stages : m₁.camera.gate.stages = CameraStage.all := by
            rw [camera]
            exact agreed.stages
          exact ⟨.done, made.quietly (made_reach stages _)⟩
      | @unstarted m₁ outcome cause _ made failure _ =>
          refine ⟨outcome, ?_⟩
          rw [CameraAction.call, failuresIn_singleton failure]
          exact made.trans (made_fail m₁ cause none)
  | applyRotation rotation =>
      obtain ⟨outcome, judged⟩ := Device.judged_setRotation m.camera.device
        (cameraRotation info.sensorOrientation info.facing rotation)
      refine ⟨outcome, ?_⟩
      simp only [run, GatedCamera.applyRotation_eq rotation known]
      cases called : m.camera.device.setRotation
        (cameraRotation info.sensorOrientation info.facing rotation) with
      | mk result device =>
          rw [called] at judged
          cases judged with
          | done exchanged => exact made_call exchanged
          | undone exchanged _ failure => exact made_undone exchanged failure none
  | takePicture receiver =>
      have previewing : m.camera.device.previewing = true := agreed.previewing.symm.trans ready
      obtain ⟨outcome, judged⟩ := Device.judged_takePicture previewing
      refine ⟨outcome, ?_⟩
      simp only [run, GatedCamera.takePicture_eq]
      cases called : m.camera.device.takePicture with
      | mk result device =>
          rw [called] at judged
          cases judged with
          | done exchanged =>
              let after := m.withCamera { m.camera with device }
              have made : Made m _ _ after := made_call exchanged
              exact made.quietly (made_nothing rfl ((told_append ..).trans (List.append_nil _)) rfl)
          | undone exchanged _ failure => exact made_undone exchanged failure _

end CameraMachine

end CaptureFlow
