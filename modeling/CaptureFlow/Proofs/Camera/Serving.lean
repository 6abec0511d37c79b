import CaptureFlow.Proofs.Camera.Run
import CaptureFlow.Proofs.Camera.Willing
import CaptureFlow.Geometry.Selection
/-! # A camera that serves requests

A host asks a camera for turns and for pictures, when it streams or before.  What happens to the
camera over a device that can stream and refuses nothing goes step by step: it is opened
(`Attends.opens`), streams into a surface (`Attends.links`), and serves one request after the other
(`Attends.serve`).  In `Attends` stands how far it has come, by the calls to the device and the
pictures that have been delivered.

The requests that have come before the camera streams wait in the queue of the second stage, with
the surface in that of the first one (`GateAt`).  Once the camera streams, the run of the queue
serves them from its head on (`Attends.dispatch`). -/

namespace CaptureFlow

/-! ### Requests -/

/-- What a host asks of a camera that streams; a picture goes to a receiver that does nothing. -/
inductive HostRequest (τ : Type) where
  | turn (rotation : ScreenRotation)
  | picture (tag : τ)

namespace HostRequest

variable {τ : Type}

def op : HostRequest τ → CameraOp τ
  | .turn rotation => .setScreenRotation rotation.degrees
  | .picture tag => .capture tag []

def call (spec : DeviceSpec) (facing : Facing) : HostRequest τ → DeviceCall
  | .turn rotation => .setRotation (cameraRotation spec.sensorOrientation facing rotation)
  | .picture _ => .takePicture

def action (ticket : Nat) : HostRequest τ → CameraAction (Receiver τ)
  | .turn rotation => .applyRotation rotation
  | .picture tag => .takePicture ⟨ticket, tag, []⟩

/-- What is left to do when it has been served. -/
def reaction : HostRequest τ → List (CameraTask τ)
  | .turn _ => []
  | .picture tag => [.perform (.receiver tag) []]

/-- Whom a picture is for. -/
def tag? : HostRequest τ → Option τ
  | .turn _ => none
  | .picture tag => some tag

theorem stage_action (r : HostRequest τ) (ticket : Nat) :
    (r.action ticket).stage = .previewStarted := by
  cases r <;> rfl

end HostRequest

section requests

variable {τ : Type}

/-- The receivers of the pictures among `requests`. -/
def tagsOf (requests : List (HostRequest τ)) : List τ := requests.filterMap HostRequest.tag?

/-- The actions that wait for `requests`, the pictures with tickets from `ticket` on. -/
def actionsFrom (ticket : Nat) : List (HostRequest τ) → List (CameraAction (Receiver τ))
  | [] => []
  | r :: rest => r.action ticket :: actionsFrom (ticket + (tagsOf [r]).length) rest

/-- The pictures among `requests`: each with its ticket, its receiver and the frame. -/
def shots (spec : DeviceSpec) (requests : List (HostRequest τ)) : List (Nat × τ × Frame) :=
  (tagsOf requests).mapIdx fun ticket tag => (ticket, tag, spec.picture ticket)

def deliveries (trace : List (CameraEvent τ)) : List (Nat × τ × Frame) :=
  trace.filterMap fun
    | .delivered ticket tag frame => some (ticket, tag, frame)
    | _ => none

theorem tagsOf_append (requests rest : List (HostRequest τ)) :
    tagsOf (requests ++ rest) = tagsOf requests ++ tagsOf rest := List.filterMap_append

theorem actionsFrom_append (ticket : Nat) (requests : List (HostRequest τ)) (r : HostRequest τ) :
    actionsFrom ticket (requests ++ [r]) =
      actionsFrom ticket requests ++ [r.action (ticket + (tagsOf requests).length)] := by
  induction requests generalizing ticket with
  | nil => rfl
  | cons first rest ih =>
      have tags : tagsOf (first :: rest) = tagsOf [first] ++ tagsOf rest :=
        tagsOf_append [first] rest
      rw [List.cons_append, actionsFrom, ih, actionsFrom, tags, List.length_append, Nat.add_assoc,
        List.cons_append]

theorem tagsOf_turn (requests : List (HostRequest τ)) (rotation : ScreenRotation) :
    tagsOf (requests ++ [.turn rotation]) = tagsOf requests := by
  rw [tagsOf_append]
  exact List.append_nil _

theorem tagsOf_picture (requests : List (HostRequest τ)) (tag : τ) :
    tagsOf (requests ++ [.picture tag]) = tagsOf requests ++ [tag] := tagsOf_append requests _

theorem shots_turn (spec : DeviceSpec) (requests : List (HostRequest τ))
    (rotation : ScreenRotation) :
    shots spec (requests ++ [.turn rotation]) = shots spec requests := by
  rw [shots, tagsOf_turn, shots]

theorem shots_picture (spec : DeviceSpec) (requests : List (HostRequest τ)) (tag : τ) :
    shots spec (requests ++ [.picture tag]) = shots spec requests ++
      [((tagsOf requests).length, tag, spec.picture (tagsOf requests).length)] := by
  rw [shots, tagsOf_picture]
  exact List.mapIdx_concat

end requests

/-! ### The gate of a camera -/

/-- The flags and the queues of the two stages. -/
structure GateAt {α : Type} (g : Gate CameraStage α) (opened streaming : Bool)
    (links requests : List α) : Prop where
  stages : g.stages = CameraStage.all
  initialized : g.isComplete .initialized = opened
  previewStarted : g.isComplete .previewStarted = streaming
  links : g.pending .initialized = links
  requests : g.pending .previewStarted = requests

namespace GateAt

variable {α : Type} {g : Gate CameraStage α} {opened streaming : Bool} {links requests : List α}

theorem declared (h : GateAt g opened streaming links requests) (stage : CameraStage) :
    stage ∈ g.stages := by
  rw [h.stages]
  cases stage <;> decide

theorem queue_link (h : GateAt g false streaming links requests) (a : α) :
    ∃ g', g.offer? .initialized a = some (g', false) ∧
      GateAt g' false streaming (links ++ [a]) requests := by
  obtain ⟨g', offered, queued⟩ := Gate.exists_queued (h.declared _) h.initialized a
  refine ⟨g', offered, ?_⟩
  constructor <;> simp [queued.stages, queued.flags, queued.queues, h.stages, h.initialized,
    h.previewStarted, h.links, h.requests]

theorem queue_request (h : GateAt g opened false links requests) (a : α) :
    ∃ g', g.offer? .previewStarted a = some (g', false) ∧
      GateAt g' opened false links (requests ++ [a]) := by
  obtain ⟨g', offered, queued⟩ := Gate.exists_queued (h.declared _) h.previewStarted a
  refine ⟨g', offered, ?_⟩
  constructor <;> simp [queued.stages, queued.flags, queued.queues, h.stages, h.initialized,
    h.previewStarted, h.links, h.requests]

theorem complete_opening (h : GateAt g false streaming links requests) :
    ∃ g', g.complete? .initialized = some (g', true) ∧ g'.cycle = g.cycle ∧
      GateAt g' true streaming links requests := by
  obtain ⟨g', completed, marked⟩ := Gate.exists_marked (h.declared _) h.initialized
  refine ⟨g', completed, marked.cycle, ?_⟩
  constructor <;> simp [marked.stages, marked.flags, marked.queues, h.stages, h.previewStarted,
    h.links, h.requests]

theorem complete_streaming (h : GateAt g opened false links requests) :
    ∃ g', g.complete? .previewStarted = some (g', true) ∧ g'.cycle = g.cycle ∧
      GateAt g' opened true links requests := by
  obtain ⟨g', completed, marked⟩ := Gate.exists_marked (h.declared _) h.previewStarted
  refine ⟨g', completed, marked.cycle, ?_⟩
  constructor <;> simp [marked.stages, marked.flags, marked.queues, h.stages, h.initialized,
    h.links, h.requests]

theorem take_link {a : α} (h : GateAt g true streaming (a :: links) requests) :
    ∃ g', g.take? .initialized g.cycle = some (a, g') ∧ g'.cycle = g.cycle ∧
      GateAt g' true streaming links requests := by
  obtain ⟨g', taken, popped, remain⟩ := Gate.exists_popped h.initialized h.links
  refine ⟨g', taken, popped.cycle, ?_⟩
  constructor <;> simp [popped.stages, popped.flags, popped.others, remain, h.stages,
    h.initialized, h.previewStarted, h.requests]

theorem take_request {a : α} (h : GateAt g opened true links (a :: requests)) :
    ∃ g', g.take? .previewStarted g.cycle = some (a, g') ∧ g'.cycle = g.cycle ∧
      GateAt g' opened true links requests := by
  obtain ⟨g', taken, popped, remain⟩ := Gate.exists_popped h.previewStarted h.requests
  refine ⟨g', taken, popped.cycle, ?_⟩
  constructor <;> simp [popped.stages, popped.flags, popped.others, remain, h.stages,
    h.initialized, h.previewStarted, h.links]

end GateAt

/-! ### The camera between two events -/

/-- A device of this kind can stream the camera that looks to `facing`. -/
structure DeviceSpec.Streams (spec : DeviceSpec) (facing : Facing) : Prop where
  present : spec.count ≠ 0
  front : facing = .front → 2 ≤ spec.count
  sizes : spec.previewSizes ≠ []
  previews : spec.failPreview = false

/-- A kind of device that can stream one of its cameras at `preview`, and a surface for it. -/
structure Setting where
  spec : DeviceSpec
  facing : Facing
  surface : UInt64
  preview : Size
  streams : spec.Streams facing
  largest : largest? spec.previewSizes = some preview

namespace Setting

variable {τ : Type}

def info (setting : Setting) : CameraInfo :=
  ⟨setting.facing, setting.spec.sensorOrientation, setting.spec.previewSizes⟩

/-- The calls to the device by the time it has been opened, streams and has served some requests. -/
def calls (setting : Setting) (opened streaming : Bool) (served : List (HostRequest τ)) :
    List DeviceCall :=
  (if opened then [.openCamera setting.facing] else []) ++
    (if streaming then [.startPreview setting.preview setting.surface] else []) ++
    served.map (·.call setting.spec setting.facing)

theorem calls_append (setting : Setting) (opened streaming : Bool) (served : List (HostRequest τ))
    (r : HostRequest τ) :
    setting.calls opened streaming (served ++ [r]) =
      setting.calls opened streaming served ++ [r.call setting.spec setting.facing] := by
  simp [calls]

end Setting

namespace CameraMachine

variable {τ : Type} {setting : Setting} {opened streaming : Bool}
  {m m' : CameraMachine τ}

/-- The device has been opened, streams and has served some requests, and no failure has been
told. -/
structure Attends (setting : Setting) (opened streaming : Bool) (served : List (HostRequest τ))
    (m : CameraMachine τ) : Prop where
  device : m.camera.device.Obeys setting.spec (setting.calls opened streaming served)
  isOpen : m.camera.device.opened = if opened then some setting.facing else none
  previewing : m.camera.device.previewing = streaming
  taken : m.camera.device.picturesTaken.toNat = min (tagsOf served).length (UInt64.size - 1)
  facing : m.camera.facing = setting.facing
  known : opened = true →
    m.camera.info = some setting.info ∧ m.camera.previewSize = some setting.preview
  delivered : deliveries m.trace = shots setting.spec served
  silent : ∀ cause ticket, .failed cause ticket ∉ m.trace

theorem Attends.congr {served : List (HostRequest τ)}
    (h : Attends setting opened streaming served m)
    {gate : Gate CameraStage (CameraAction (Receiver τ))}
    (camera : m'.camera = { m.camera with gate }) (trace : m'.trace = m.trace) :
    Attends setting opened streaming served m' := by
  obtain ⟨camera', _, _, _, trace'⟩ := m'
  obtain rfl : camera' = { m.camera with gate } := camera
  obtain rfl : trace' = m.trace := trace
  exact { h with }

/-! ### Serving requests -/

theorem Attends.serve_turn {served : List (HostRequest τ)} (h : Attends setting true true served m)
    (rotation : ScreenRotation) :
    ∃ m', m.run (.applyRotation rotation) = { machine := m' } ∧
      Attends setting true true (served ++ [.turn rotation]) m' ∧
      m'.camera.gate = m.camera.gate ∧ m'.tickets = m.tickets := by
  obtain ⟨device, called, obeys, isOpen, previewing, taken⟩ := h.device.setRotation
    (cameraRotation setting.spec.sensorOrientation setting.facing rotation)
  have applied : m.camera.applyRotation rotation =
      (.ok (), { m.camera with rotation, device }) := by
    rw [GatedCamera.applyRotation_eq rotation (h.known rfl).1]
    simp only [Setting.info, called]
  refine ⟨m.withCamera { m.camera with rotation, device }, ?_, ?_, rfl, rfl⟩
  · simp only [run, applied]
  · refine { h with
      device := ?_
      isOpen := isOpen.trans h.isOpen
      previewing := previewing.trans h.previewing
      taken := ?_
      delivered := ?_ }
    · rw [Setting.calls_append]
      exact obeys
    · rw [tagsOf_turn]
      exact (congrArg UInt64.toNat taken).trans h.taken
    · rw [shots_turn]
      exact h.delivered

theorem Attends.serve_picture {served : List (HostRequest τ)}
    (h : Attends setting true true served m) (tag : τ) :
    ∃ m', m.run (.takePicture ⟨(tagsOf served).length, tag, []⟩) =
        { machine := m', work := [.perform (.receiver tag) []] } ∧
      Attends setting true true (served ++ [.picture tag]) m' ∧
      m'.camera.gate = m.camera.gate ∧ m'.tickets = m.tickets := by
  obtain ⟨device, called, obeys, isOpen, previewing, taken⟩ :=
    h.device.takePicture h.previewing h.taken
  refine ⟨(m.withCamera { m.camera with device }).log
    [.delivered (tagsOf served).length tag (setting.spec.picture (tagsOf served).length)],
    ?_, ?_, rfl, rfl⟩
  · simp only [run, GatedCamera.takePicture, called]
  · refine { h with
      device := ?_
      isOpen := isOpen.trans h.isOpen
      previewing := previewing.trans h.previewing
      taken := ?_
      delivered := ?_
      silent := ?_ }
    · rw [Setting.calls_append]
      exact obeys
    · rw [tagsOf_picture, List.length_append]
      exact taken
    · rw [shots_picture, ← h.delivered]
      exact List.filterMap_append
    · intro cause ticket mem
      rcases List.mem_append.mp mem with mem | mem
      · exact h.silent cause ticket mem
      · cases List.mem_singleton.mp mem

/-- A camera that streams serves a request when its action runs. -/
theorem Attends.serve {served : List (HostRequest τ)} (h : Attends setting true true served m)
    (r : HostRequest τ) :
    ∃ m', m.run (r.action (tagsOf served).length) = { machine := m', work := r.reaction } ∧
      Attends setting true true (served ++ [r]) m' ∧ m'.camera.gate = m.camera.gate ∧
      m'.tickets = m.tickets := by
  cases r with
  | turn rotation => exact h.serve_turn rotation
  | picture tag => exact h.serve_picture tag

/-! ### Running the queues -/

theorem finish_reaction (m : CameraMachine τ) (r : HostRequest τ) (rest : List (CameraTask τ)) :
    { m with stack := r.reaction ++ rest }.finish = { m with stack := rest }.finish := by
  cases r with
  | turn rotation => rfl
  | picture tag => exact finish_of_step rfl

/-- A camera that streams serves all that waits, in its order. -/
theorem Attends.dispatch {served : List (HostRequest τ)} (waiting : List (HostRequest τ))
    (h : Attends setting true true served m) {links : List (CameraAction (Receiver τ))}
    (gate : GateAt m.camera.gate true true links (actionsFrom (tagsOf served).length waiting))
    {rest : List (CameraTask τ)}
    (stack : m.stack = .dispatch .previewStarted m.camera.gate.cycle :: rest) :
    ∃ m', m.finish = m'.finish ∧ Attends setting true true (served ++ waiting) m' ∧
      GateAt m'.camera.gate true true links [] ∧ m'.tickets = m.tickets ∧ m'.stack = rest := by
  induction waiting generalizing served m with
  | nil =>
      refine ⟨{ m with stack := rest }, finish_dispatched stack gate.requests, ?_, gate, rfl, rfl⟩
      rw [List.append_nil]
      exact h.congr rfl rfl
  | cons r waiting ih =>
      obtain ⟨g, taken, cycle, gate⟩ := gate.take_request
      have before : Attends setting true true served (m.withGate g) := h.congr rfl rfl
      obtain ⟨m₁, ran, after, same, tickets⟩ := before.serve r
      let m₂ : CameraMachine τ := { m₁ with stack := m.stack }
      have gate₂ : m₂.camera.gate = g := same
      have now : Attends setting true true (served ++ [r]) m₂ := after.congr rfl rfl
      have left : GateAt m₂.camera.gate true true links
          (actionsFrom (tagsOf (served ++ [r])).length waiting) := by
        rw [gate₂, tagsOf_append, List.length_append]
        exact gate
      have goesOn : m₂.stack = .dispatch .previewStarted m₂.camera.gate.cycle :: rest := by
        rw [gate₂, cycle]
        exact stack
      obtain ⟨m₃, finish, final, settled, kept, rest'⟩ := ih now left goesOn
      refine ⟨m₃, ?_, ?_, settled, kept.trans tickets, rest'⟩
      · rw [finish_dispatch stack taken, ran, finish_reaction, finish]
      · rw [List.append_cons]
        exact final

/-! ### Opening and linking -/

/-- A closed camera is opened. -/
theorem Attends.opens (h : Attends setting false false [] m)
    {links requests : List (CameraAction (Receiver τ))}
    (gate : GateAt m.camera.gate false false links requests) :
    ∃ m', m.openSelected.1 =
        { machine := m', work := [.dispatch .initialized m.camera.gate.cycle] } ∧
      Attends setting true false [] m' ∧ GateAt m'.camera.gate true false links requests ∧
      m'.camera.gate.cycle = m.camera.gate.cycle ∧ m'.tickets = m.tickets := by
  obtain ⟨device, called, obeys, isOpen, previewing, taken⟩ :=
    h.device.openCamera h.isOpen setting.streams.front
  have opened : m.camera.openSelected = (.ok ⟨device.spec.count, setting.preview⟩,
      { m.camera with
        device, info := some setting.info, previewSize := some setting.preview }) := by
    simp only [GatedCamera.openSelected, h.device.spec, if_neg setting.streams.present, h.facing,
      called, setting.largest]
    rfl
  have closed : m.camera.isAt .initialized = false := gate.initialized
  obtain ⟨g, completed, cycle, gate⟩ := gate.complete_opening
  refine ⟨(m.withCamera { m.camera with
    device, info := some setting.info, previewSize := some setting.preview }).withGate g, ?_, ?_,
    gate, cycle, rfl⟩
  · simp only [openSelected, closed, opened, reach, withCamera, completed, Bool.false_eq_true,
      if_false]
    rfl
  · exact { h with
      device := obeys
      isOpen := isOpen
      previewing := previewing.trans h.previewing
      taken := (congrArg UInt64.toNat taken).trans h.taken
      known := fun _ => ⟨rfl, rfl⟩ }

theorem Attends.links (h : Attends setting true false [] m)
    {requests : List (CameraAction (Receiver τ))}
    (gate : GateAt m.camera.gate true false [] requests) :
    ∃ m', m.run (.linkSurface setting.surface) =
        { machine := m', work := [.dispatch .previewStarted m.camera.gate.cycle] } ∧
      Attends setting true true [] m' ∧ GateAt m'.camera.gate true true [] requests ∧
      m'.camera.gate.cycle = m.camera.gate.cycle ∧ m'.tickets = m.tickets := by
  have isOpen : m.camera.device.opened.isSome = true := by
    rw [h.isOpen]
    rfl
  obtain ⟨device, called, obeys, same, previewing, taken⟩ :=
    h.device.startPreview isOpen setting.streams.previews setting.preview setting.surface
  have started : m.camera.startPreview setting.surface =
      (.ok (), { m.camera with surface := some setting.surface, device }) := by
    rw [GatedCamera.startPreview_eq setting.surface (h.known rfl).2, called]
  obtain ⟨g, completed, cycle, gate⟩ := gate.complete_streaming
  refine ⟨(m.withCamera { m.camera with surface := some setting.surface, device }).withGate g, ?_,
    ?_, gate, cycle, rfl⟩
  · simp only [run, started, reach, withCamera, completed]
    rfl
  · exact { h with
      device := obeys
      isOpen := same.trans h.isOpen
      previewing := previewing
      taken := (congrArg UInt64.toNat taken).trans h.taken }

end CameraMachine

end CaptureFlow
