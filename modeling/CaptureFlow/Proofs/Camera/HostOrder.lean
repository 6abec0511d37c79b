import CaptureFlow.Proofs.Camera.Serving
import CaptureFlow.Proofs.Geometry.Selection
/-! # The order of a host's events

A host opens the camera, links a surface to it, and asks for turns and for pictures, each when the
event comes that makes it do so.  Over a device that can stream and refuses nothing it does not
matter when the two first ones come: the device is opened, streams, and then serves the requests in
their order, whatever of them came too early (`callAll_interleaving`).

What holds between two events is `Hosted`: as long as the camera does not stream, all requests wait,
and when it does, all have been served.  Each event has its lemma (`Hosted.openCamera`,
`Hosted.linkSurface`, `Hosted.request`); the one that lets the camera stream serves all that has
come so far (`Attends.streams`). -/

namespace CaptureFlow.CameraMachine

variable {τ : Type} {setting : Setting} {opened linked streaming : Bool} {m : CameraMachine τ}

/-! ### Events -/

/-- Between two events: the requests so far wait for the camera to stream, or have all been
served. -/
structure Hosted (setting : Setting) (opened linked : Bool) (past : List (HostRequest τ))
    (m : CameraMachine τ) : Prop where
  attends : Attends setting opened (opened && linked) (if opened && linked then past else []) m
  gate : GateAt m.camera.gate opened (opened && linked)
    (if linked && !opened then [.linkSurface setting.surface] else [])
    (if opened && linked then [] else actionsFrom 0 past)
  tickets : m.tickets = (tagsOf past).length
  idle : m.stack = []

variable {past : List (HostRequest τ)}

theorem hosted_new (setting : Setting) (plan : List (List (CameraOp τ))) :
    Hosted setting false false [] (ofDevice { spec := setting.spec } setting.facing plan) := by
  constructor
  · constructor
    · exact Device.obeys_new setting.spec
    · rfl
    · rfl
    · rfl
    · rfl
    · exact fun opened => by cases opened
    · rfl
    · exact fun _ _ mem => absurd mem List.not_mem_nil
  · exact ⟨rfl, rfl, rfl, rfl, rfl⟩
  · rfl
  · rfl

/-- An open camera streams when its surface is linked, and serves all that has come so far. -/
theorem Attends.streams (h : Attends setting true false [] m)
    (gate : GateAt m.camera.gate true false [] (actionsFrom 0 past))
    (tickets : m.tickets = (tagsOf past).length) (rest : List (CameraTask τ)) :
    ∃ m₁ : CameraMachine τ,
      { (m.run (.linkSurface setting.surface)).machine with
        stack := (m.run (.linkSurface setting.surface)).work ++ rest }.finish =
          { m₁ with stack := rest }.finish ∧
      Hosted setting true true past { m₁ with stack := [] } := by
  obtain ⟨m', ran, streaming, gate, cycle, kept⟩ := h.links gate
  rw [ran, ← cycle]
  let m₀ : CameraMachine τ :=
    { m' with stack := .dispatch .previewStarted m'.camera.gate.cycle :: rest }
  have now : Attends setting true true [] m₀ := streaming.congr rfl rfl
  obtain ⟨m₁, finish, attends, settled, kept₁, rfl⟩ := now.dispatch past gate rfl
  exact ⟨m₁, finish, attends.congr rfl rfl, settled, kept₁.trans (kept.trans tickets), rfl⟩

theorem Hosted.openCamera (h : Hosted setting false linked past m) :
    Hosted setting true linked past (m.call .openCamera).2 := by
  obtain ⟨m₁, opened, attends, gate, cycle, tickets⟩ := h.attends.opens h.gate
  let m₂ : CameraMachine τ := { m₁ with stack := [.dispatch .initialized m₁.camera.gate.cycle] }
  have called : (m.call .openCamera).2 = m₂.finish := by
    rw [call_of_start m .openCamera opened, h.idle, ← cycle, List.append_nil]
  rw [called]
  cases linked with
  | false =>
      rw [finish_dispatched (m := m₂) rfl gate.links, finish_of_idle rfl]
      exact ⟨attends.congr rfl rfl, gate, tickets.trans h.tickets, rfl⟩
  | true =>
      -- the surface waits, so that the camera streams within the run of the first stage
      obtain ⟨g, taken, _, gate⟩ := gate.take_link
      have linking : Attends setting true false [] (m₂.withGate g) := attends.congr rfl rfl
      obtain ⟨m₃, finish, hosted⟩ := linking.streams gate (tickets.trans h.tickets) m₂.stack
      rw [finish_dispatch (m := m₂) rfl taken, finish,
        finish_dispatched (m := { m₃ with stack := m₂.stack }) rfl hosted.gate.links,
        finish_of_idle rfl]
      exact hosted

theorem Hosted.linkSurface (h : Hosted setting opened false past m) :
    Hosted setting opened true past (m.call (.linkSurface setting.surface)).2 := by
  cases opened with
  | false =>
      obtain ⟨g, offered, gate⟩ := h.gate.queue_link (.linkSurface setting.surface)
      rw [call_of_quiet m (.linkSurface setting.surface) (submit_queued offered) h.idle h.idle]
      exact ⟨h.attends.congr rfl rfl, gate, h.tickets, h.idle⟩
  | true =>
      have complete : m.camera.gate.isComplete .initialized = true := h.gate.initialized
      obtain ⟨m₁, finish, hosted⟩ := h.attends.streams h.gate h.tickets m.stack
      rw [call_of_start m (.linkSurface setting.surface) (submit_due complete), finish, h.idle,
        finish_of_idle rfl]
      exact hosted

def ask (m : CameraMachine τ) : HostRequest τ → CameraMachine τ
  | .turn _ => m
  | .picture _ => { m with tickets := m.tickets + 1 }.log [.requested m.tickets]

theorem start_request (m : CameraMachine τ) (r : HostRequest τ) :
    m.start r.op = (m.ask r).submit (r.action m.tickets) := by
  cases r with
  | turn rotation =>
      simp only [HostRequest.op, start, ScreenRotation.read_degrees]
      rfl
  | picture tag => rfl

theorem Attends.ask {served : List (HostRequest τ)} (h : Attends setting opened streaming served m)
    (r : HostRequest τ) : Attends setting opened streaming served (m.ask r) := by
  cases r with
  | turn rotation => exact h
  | picture tag =>
      refine { h with delivered := ?_, silent := ?_ }
      · rw [← h.delivered]
        exact List.filterMap_append.trans (List.append_nil _)
      · intro cause ticket mem
        rcases List.mem_append.mp mem with mem | mem
        · exact h.silent cause ticket mem
        · cases List.mem_singleton.mp mem

theorem camera_ask (m : CameraMachine τ) (r : HostRequest τ) : (m.ask r).camera = m.camera := by
  cases r <;> rfl

theorem stack_ask (m : CameraMachine τ) (r : HostRequest τ) : (m.ask r).stack = m.stack := by
  cases r <;> rfl

theorem tickets_ask (m : CameraMachine τ) (r : HostRequest τ) :
    (m.ask r).tickets = m.tickets + (tagsOf [r]).length := by
  cases r <;> rfl

theorem Hosted.tickets_ask (h : Hosted setting opened linked past m) (r : HostRequest τ) :
    (m.ask r).tickets = (tagsOf (past ++ [r])).length := by
  rw [CameraMachine.tickets_ask, h.tickets, tagsOf_append, List.length_append]

/-- As long as the camera does not stream, a request waits. -/
theorem Hosted.request_waits (h : Hosted setting opened linked past m)
    (early : (opened && linked) = false) (r : HostRequest τ) :
    Hosted setting opened linked (past ++ [r]) (m.call r.op).2 := by
  have idle : (m.ask r).stack = [] := (m.stack_ask r).trans h.idle
  have attends : Attends setting opened false [] (m.ask r) := by
    simpa only [early, Bool.false_eq_true, if_false] using h.attends.ask r
  have gate : GateAt (m.ask r).camera.gate opened false
      (if linked && !opened then [.linkSurface setting.surface] else []) (actionsFrom 0 past) := by
    rw [m.camera_ask r]
    simpa only [early, Bool.false_eq_true, if_false] using h.gate
  obtain ⟨g, offered, gate⟩ := gate.queue_request (r.action m.tickets)
  rw [← r.stage_action m.tickets] at offered
  have started := (congrArg CameraStart.toCameraMove (m.start_request r)).trans
    (submit_queued offered)
  rw [call_of_quiet m r.op started h.idle idle]
  refine ⟨?_, ?_, h.tickets_ask r, idle⟩
  · simp only [early, Bool.false_eq_true, if_false]
    exact attends.congr rfl rfl
  · simp only [early, Bool.false_eq_true, if_false]
    rw [actionsFrom_append, Nat.zero_add, ← h.tickets]
    exact gate

/-- When the camera streams, a request is served at once. -/
theorem Hosted.request_served (h : Hosted setting true true past m) (r : HostRequest τ) :
    Hosted setting true true (past ++ [r]) (m.call r.op).2 := by
  have attends : Attends setting true true past (m.ask r) := h.attends.ask r
  have gate : GateAt (m.ask r).camera.gate true true [] [] := by
    rw [m.camera_ask r]
    exact h.gate
  have complete : (m.ask r).camera.gate.isComplete (r.action m.tickets).stage = true := by
    rw [r.stage_action]
    exact gate.previewStarted
  obtain ⟨m₁, ran, served, same, tickets⟩ := attends.serve r
  have started := (congrArg CameraStart.toCameraMove (m.start_request r)).trans
    (submit_due complete)
  rw [call_of_start m r.op started, h.tickets, ran, finish_reaction, h.idle, finish_of_idle rfl]
  exact ⟨served.congr rfl rfl, same ▸ gate, tickets.trans (h.tickets_ask r), rfl⟩

theorem Hosted.request (h : Hosted setting opened linked past m) (r : HostRequest τ) :
    Hosted setting opened linked (past ++ [r]) (m.call r.op).2 := by
  cases streaming : opened && linked with
  | false => exact h.request_waits streaming r
  | true =>
      obtain ⟨rfl, rfl⟩ := Bool.and_eq_true_iff.mp streaming
      exact h.request_served r

/-! ### Any order of events -/

def callAll (m : CameraMachine τ) (ops : List (CameraOp τ)) : CameraMachine τ :=
  ops.foldl (fun m op => (m.call op).2) m

/-- `ops` are `requests` in their order, and among them, each once and in any order, the opening of
the camera and the linking of `surface`, unless `opened` or `linked` says that it has been done
before. -/
inductive Interleaving (surface : UInt64) :
    Bool → Bool → List (HostRequest τ) → List (CameraOp τ) → Prop
  | done : Interleaving surface true true [] []
  | openCamera {linked : Bool} {requests : List (HostRequest τ)} {ops : List (CameraOp τ)}
      (rest : Interleaving surface true linked requests ops) :
      Interleaving surface false linked requests (.openCamera :: ops)
  | linkSurface {opened : Bool} {requests : List (HostRequest τ)} {ops : List (CameraOp τ)}
      (rest : Interleaving surface opened true requests ops) :
      Interleaving surface opened false requests (.linkSurface surface :: ops)
  | request {opened linked : Bool} {requests : List (HostRequest τ)} {ops : List (CameraOp τ)}
      (r : HostRequest τ) (rest : Interleaving surface opened linked requests ops) :
      Interleaving surface opened linked (r :: requests) (r.op :: ops)

theorem Hosted.callAll {requests : List (HostRequest τ)} {ops : List (CameraOp τ)}
    (h : Hosted setting opened linked past m)
    (interleaved : Interleaving setting.surface opened linked requests ops) :
    Hosted setting true true (past ++ requests) (m.callAll ops) := by
  induction interleaved generalizing past m with
  | done =>
      rw [List.append_nil]
      exact h
  | openCamera _ ih => exact ih h.openCamera
  | linkSurface _ ih => exact ih h.linkSurface
  | request r _ ih =>
      rw [List.append_cons]
      exact ih (h.request r)

/-- The outcome of a run that has opened the camera, linked `surface` and served `requests`. -/
structure Settled (spec : DeviceSpec) (facing : Facing) (surface : UInt64) (preview : Size)
    (requests : List (HostRequest τ)) (m : CameraMachine τ) : Prop where
  calls : m.camera.device.calls = .openCamera facing :: .startPreview preview surface ::
    requests.map (·.call spec facing)
  done : ∀ e ∈ m.camera.device.exchanges, e.outcome = .done
  delivered : deliveries m.trace = shots spec requests
  complete : ∀ stage, m.camera.isAt stage = true
  empty : ∀ stage, m.camera.gate.pending stage = []
  silent : ∀ cause ticket, .failed cause ticket ∉ m.trace
  idle : m.stack = []

theorem Hosted.settled (h : Hosted setting true true past m) :
    Settled setting.spec setting.facing setting.surface setting.preview past m := by
  obtain ⟨attends, gate, _, idle⟩ := h
  constructor
  · exact attends.device.calls_eq
  · intro e mem
    rw [attends.device.exchanges] at mem
    obtain ⟨call, _, rfl⟩ := List.mem_map.mp mem
    rfl
  · exact attends.delivered
  · intro stage
    cases stage with
    | initialized => exact gate.initialized
    | previewStarted => exact gate.previewStarted
  · intro stage
    cases stage with
    | initialized => exact gate.links
    | previewStarted => exact gate.requests
  · exact attends.silent
  · exact idle

/-- **Any order of events.**  Over a device that can stream and refuses nothing, in whatever order
the camera is opened, a surface is linked and requests come in between: the calls to the device are
the opening, the start of the preview at the first of the largest sizes and one call for each
request, in the order of the requests, and all are done; the pictures are delivered in that order as
well, all stages are complete, nothing waits and the listener has never been called. -/
theorem callAll_interleaving {spec : DeviceSpec} {facing : Facing}
    (streams : spec.Streams facing) :
    ∃ preview, FirstLargest preview spec.previewSizes ∧
      ∀ (surface : UInt64) (requests : List (HostRequest τ)) (ops : List (CameraOp τ))
        (plan : List (List (CameraOp τ))), Interleaving surface false false requests ops →
        Settled spec facing surface preview requests
          ((ofDevice { spec } facing plan).callAll ops) := by
  obtain ⟨preview, largest⟩ := exists_largest? streams.sizes
  refine ⟨preview, firstLargest_of_largest? largest, ?_⟩
  intro surface requests ops plan interleaved
  have fresh := hosted_new ⟨spec, facing, surface, preview, streams, largest⟩ plan
  exact (fresh.callAll interleaved).settled

/-- The surface is there before the camera is open, and a picture has been asked for before; and
once more with the camera open from the start. -/
theorem callAll_interleaving_late : ∃ preview : Size,
    Settled {} .back 7 preview [.picture (), .turn .quarter, .picture ()]
      ((ofDevice {} .back).callAll
        [.capture () [], .linkSurface 7, .setScreenRotation 90, .openCamera, .capture () []]) ∧
    Settled {} .back 7 preview [.picture (), .turn .quarter, .picture ()]
      ((ofDevice {} .back).callAll
        [.openCamera, .capture () [], .setScreenRotation 90, .capture () [], .linkSurface 7]) := by
  have streams : DeviceSpec.Streams {} .back := by
    constructor <;> decide
  obtain ⟨preview, _, settled⟩ := @callAll_interleaving Unit _ _ streams
  have late : Interleaving 7 false false [.picture (), .turn .quarter, .picture ()]
      [.capture () [], .linkSurface 7, .setScreenRotation 90, .openCamera, .capture () []] :=
    .request (.picture ()) (.linkSurface (.request (.turn .quarter) (.openCamera
      (.request (.picture ()) .done))))
  have early : Interleaving 7 false false [.picture (), .turn .quarter, .picture ()]
      [.openCamera, .capture () [], .setScreenRotation 90, .capture () [], .linkSurface 7] :=
    .openCamera (.request (.picture ()) (.request (.turn .quarter) (.request (.picture ())
      (.linkSurface .done))))
  exact ⟨preview, settled 7 _ _ [] late, settled 7 _ _ [] early⟩

end CaptureFlow.CameraMachine
