import CaptureFlow.Session.Basic
import CaptureFlow.Proofs.Camera.Run
/-! # Runs of a session

A host performs operations on a session one after the other (`Session.performAll`), and what they
tell, each at its place, is collected along the way (`Session.collect`).  What every operation keeps
holds after all of them (`performAll_keeps`).

The parts of an operation that concern the view change neither the camera nor the store, and those
that concern the camera are calls of its machine, each with a trace of its own.  Which calls these
are is `Session.cameraOps`, and what the camera does meanwhile is `Session.cameraEvents`: the camera
goes by these calls alone (`perform_camera`), so what all moves keep holds along a whole run of the
session, with all that the camera has done so far for its trace (`camera_keeps`). -/

namespace CaptureFlow

namespace CameraMachine

variable {τ : Type} {m : CameraMachine τ}

/-- Calls from the outside, one after the other, each with a trace of its own: the machine after
them, and all that has happened meanwhile. -/
def callEach (m : CameraMachine τ) : List (CameraOp τ) → CameraMachine τ × List (CameraEvent τ)
  | [] => (m, [])
  | op :: rest =>
    let after := ({ m with trace := [] }.call op).2
    let (last, events) := after.callEach rest
    (last, after.trace ++ events)

/-- What is kept by every move, with the trace growing as the move tells, is kept by calls, with
all that happened meanwhile for the trace. -/
theorem callEach_keeps {P : GatedCamera (Receiver τ) → List (CameraEvent τ) → Prop}
    (moved : ∀ c c' trace events, c.Agreed → c.Moved c' events → P c trace → P c' (trace ++ events))
    {past : List (CameraEvent τ)} (agreed : m.camera.Agreed) (holds : P m.camera past)
    (ops : List (CameraOp τ)) :
    (m.callEach ops).1.camera.Agreed ∧
      P (m.callEach ops).1.camera (past ++ (m.callEach ops).2) := by
  induction ops generalizing m past with
  | nil => exact ⟨agreed, (List.append_nil past).symm ▸ holds⟩
  | cons op rest ih =>
      obtain ⟨follows, _⟩ := follows_call { m with trace := [] } op agreed
      have kept := follows.keeps (P := fun c trace => P c (past ++ trace))
        (fun c c' trace events agreed move holds => by
          rw [← List.append_assoc]
          exact moved c c' _ events agreed move holds)
        agreed ((List.append_nil past).symm ▸ holds)
      simp only [callEach]
      rw [← List.append_assoc]
      exact ih (follows.agreed agreed) kept

end CameraMachine

namespace Session

variable {s : Session}

def performAll (s : Session) (ops : List SessionOp) : Session :=
  ops.foldl (fun s op => (s.perform op).session) s

theorem performAll_append (s : Session) (ops more : List SessionOp) :
    s.performAll (ops ++ more) = (s.performAll ops).performAll more :=
  List.foldl_append

theorem performAll_keeps {P : Session → Prop} {ops : List SessionOp} (holds : P s)
    (kept : ∀ s, ∀ op ∈ ops, P s → P (s.perform op).session) : P (s.performAll ops) := by
  induction ops generalizing s with
  | nil => exact holds
  | cons op rest ih =>
      refine ih (kept s op List.mem_cons_self holds) fun s' op' mem => ?_
      exact kept s' op' (List.mem_cons_of_mem op mem)

/-- What `f` gives for each operation and the session before it, along a run. -/
def collect {α : Type} (f : Session → SessionOp → List α) (s : Session) : List SessionOp → List α
  | [] => []
  | op :: rest => f s op ++ (s.perform op).session.collect f rest

def signalsOf (s : Session) (ops : List SessionOp) : List SessionSignal :=
  s.collect (fun s op => (s.perform op).signals) ops

theorem ofDevice_ok {device : Device} {store after : Store} {orientation : Orientation}
    (made : ofDevice device store orientation = (.ok s, after)) :
    ∃ facing, store.preferredFacing = (.ok facing, after) ∧
      s = { camera := .ofDevice device facing, orientation, store := after } := by
  unfold ofDevice at made
  split at made
  · cases made
  next facing after' preferred =>
    obtain ⟨same, rfl⟩ := Prod.mk.inj made
    exact ⟨facing, preferred, (Except.ok.inj same).symm⟩

theorem agreed_of_ofDevice {spec : DeviceSpec} {refusals : DeviceRefusals}
    {reportedFacing : Option Facing} {store after : Store} {orientation : Orientation}
    (made : ofDevice { spec, refusals, reportedFacing } store orientation = (.ok s, after)) :
    s.gated.Agreed := by
  obtain ⟨facing, _, rfl⟩ := ofDevice_ok made
  have fresh : CameraMachine.Reached (CameraMachine.ofDevice (τ := Photographer)
    { spec, refusals, reportedFacing } facing) := .fresh ..
  exact fresh.agreed

/-- The machine of the camera before an operation, with a trace of its own. -/
def atRest (s : Session) : CameraMachine Photographer := { s.camera with trace := [] }

/-! ### What leaves the camera and the store alone -/

/-- `s'` has the camera and the store of `s`. -/
structure SameCore (s s' : Session) : Prop where
  camera : s'.camera = s.camera
  store : s'.store = s.store

theorem sameCore_announce (s : Session) (c : Capabilities) :
    SameCore s (s.announce c).session := by
  simp only [announce]
  split <;> exact ⟨rfl, rfl⟩

theorem sameCore_layOut (s : Session) (size : Size) : SameCore s (s.layOut size).session := by
  simp only [layOut]
  split <;> exact ⟨rfl, rfl⟩

/-! ### Operations with several parts -/

theorem answer_openCamera {s : Session} {reply : CameraReply}
    (answered : (s.operate .openCamera).answer = .ok reply) : ∃ c, reply = .capabilities c := by
  have started : (s.operate .openCamera).answer = .capabilities <$> s.atRest.openSelected.2 := rfl
  rw [started] at answered
  cases opened : s.atRest.openSelected.2 with
  | ok c =>
      rw [opened] at answered
      exact ⟨c, (Except.ok.inj answered).symm⟩
  | error e =>
      rw [opened] at answered
      cases answered

theorem answer_flip {s : Session} {reply : CameraReply}
    (answered : (s.operate .flip).answer = .ok reply) : ∃ f c, reply = .flipped f c := by
  have started : (s.operate .flip).answer = s.atRest.flip.answer := rfl
  rw [started, CameraMachine.flip] at answered
  split at answered
  · exact ⟨_, _, (Except.ok.inj answered).symm⟩
  · cases answered

/-- What comes of coming to the front: the camera cannot be opened, or its capabilities are
announced. -/
inductive Resumes (s : Session) : SessionStep Unit → Prop
  | failed {cause : Failure} (answered : (s.operate .openCamera).answer = .error cause) :
      Resumes s
        { session := (s.operate .openCamera).session,
          signals := (s.operate .openCamera).signals, answer := .error cause }
  | announced {c : Capabilities} {step : SessionStep Unit}
      (answered : (s.operate .openCamera).answer = .ok (.capabilities c))
      (announce : (s.operate .openCamera).session.announce c = step) :
      Resumes s { step with signals := (s.operate .openCamera).signals ++ step.signals }

theorem resumes (s : Session) : Resumes s s.resume := by
  unfold resume SessionStep.andThen
  split
  next cause answered => exact .failed answered
  next reply answered =>
    obtain ⟨c, rfl⟩ := answer_openCamera answered
    exact .announced answered rfl

/-- What comes of a flip: it is ignored, the other camera cannot be opened, it cannot be remembered,
or its capabilities are announced. -/
inductive Flips (s : Session) : SessionStep (Option Facing) → Prop
  | ignored (alone : s.canFlip = false) : Flips s { session := s, answer := .ok none }
  | failed {cause : Failure} (more : s.canFlip = true)
      (answered : (s.operate .flip).answer = .error cause) :
      Flips s
        { session := (s.operate .flip).session, signals := (s.operate .flip).signals,
          answer := .error cause }
  | forgotten {f : Facing} {c : Capabilities} {cause : Failure} {s' : Session}
      (more : s.canFlip = true) (answered : (s.operate .flip).answer = .ok (.flipped f c))
      (remember :
        (s.operate .flip).session.remember f = { session := s', answer := .error cause }) :
      Flips s { session := s', signals := (s.operate .flip).signals, answer := .error cause }
  | switched {f : Facing} {c : Capabilities} {s' : Session} {step : SessionStep Unit}
      (more : s.canFlip = true) (answered : (s.operate .flip).answer = .ok (.flipped f c))
      (remember : (s.operate .flip).session.remember f = { session := s', answer := .ok () })
      (announce : s'.announce c = step) :
      Flips s
        { session := step.session, signals := (s.operate .flip).signals ++ step.signals,
          answer := (fun _ => some f) <$> step.answer }

theorem flips (s : Session) : Flips s s.flip := by
  unfold flip
  cases more : s.canFlip with
  | false => exact .ignored more
  | true =>
      simp only [if_true, SessionStep.andThen]
      split
      next cause answered => exact .failed more answered
      next reply answered =>
        obtain ⟨f, c, rfl⟩ := answer_flip answered
        cases remembered : (s.operate .flip).session.remember f with
        | mk s' signals answer =>
            obtain rfl : signals = [] := (congrArg SessionStep.signals remembered).symm
            cases answer with
            | error cause =>
                simp only [remembered, List.append_nil]
                exact .forgotten more answered remembered
            | ok _ =>
                have switched := Flips.switched more answered remembered rfl
                cases announced : (s'.announce c).answer with
                | error cause =>
                    rw [announced] at switched
                    simp only [remembered, announced, List.nil_append]
                    exact switched
                | ok _ =>
                    rw [announced] at switched
                    simp only [remembered, announced, List.nil_append, List.append_nil]
                    exact switched

/-! ### What the camera does -/

def cameraOps (s : Session) : SessionOp → List (CameraOp Photographer)
  | .resume => [.openCamera]
  | .pause => [.release]
  | .provideSurface surface degrees =>
    match ScreenRotation.read degrees with
    | .error _ => []
    | .ok rotation =>
      match (s.operate (.linkSurface surface)).answer with
      | .error _ => [.linkSurface surface]
      | .ok _ => [.linkSurface surface, .setScreenRotation rotation.degrees]
  | .capture => [.capture .session []]
  | .flip => if s.canFlip then [.flip] else []
  | .camera op => [op]
  | .announce _ | .layOut _ | .orient _ | .describe => []

def cameraEvents (s : Session) (op : SessionOp) : List (CameraEvent Photographer) :=
  (s.camera.callEach (s.cameraOps op)).2

def cameraHistory (s : Session) (ops : List SessionOp) : List (CameraEvent Photographer) :=
  s.collect cameraEvents ops

theorem callEach_singleton (s : Session) (op : CameraOp Photographer) :
    s.camera.callEach [op] =
      ((s.operate op).session.camera, (s.operate op).session.camera.trace) :=
  Prod.ext rfl (List.append_nil _)

/-- Operations change the camera by its calls alone. -/
theorem perform_camera (s : Session) (op : SessionOp) :
    (s.perform op).session.camera = (s.camera.callEach (s.cameraOps op)).1 := by
  cases op with
  | resume =>
      have resumed := resumes s
      change s.resume.session.camera = _
      generalize s.resume = step at resumed ⊢
      cases resumed with
      | failed => rfl
      | announced _ announce => exact announce ▸ (sameCore_announce _ _).camera
  | pause => rfl
  | announce c => exact (sameCore_announce s c).camera
  | layOut size => exact (sameCore_layOut s size).camera
  | provideSurface surface degrees =>
      simp only [perform, cameraOps, provideSurface, SessionStep.andThen]
      cases ScreenRotation.read degrees with
      | error cause => rfl
      | ok rotation =>
          simp only [SessionStep.map]
          cases (s.operate (.linkSurface surface)).answer <;> rfl
  | orient orientation => rfl
  | capture => rfl
  | flip =>
      have flipped := flips s
      change s.flip.session.camera = _
      simp only [cameraOps]
      generalize s.flip = step at flipped ⊢
      cases flipped with
      | ignored alone =>
          rw [alone]
          rfl
      | failed more =>
          rw [more]
          rfl
      | forgotten more _ remember =>
          rw [more]
          exact (congrArg (·.session.camera) remember).symm
      | switched more _ remember announce =>
          rw [more]
          have same := announce ▸ (sameCore_announce _ _).camera
          exact same.trans (congrArg (·.session.camera) remember).symm
  | camera op => rfl
  | describe => rfl

/-- What is kept by every move of the camera, with the trace growing as the move tells, is kept by
operations of the session, with all that the camera did meanwhile for the trace. -/
theorem camera_keeps {P : GatedCamera (Receiver Photographer) →
      List (CameraEvent Photographer) → Prop}
    (moved : ∀ c c' trace events, c.Agreed → c.Moved c' events → P c trace → P c' (trace ++ events))
    {past : List (CameraEvent Photographer)} (agreed : s.gated.Agreed) (holds : P s.gated past)
    (ops : List SessionOp) :
    P (s.performAll ops).gated (past ++ s.cameraHistory ops) := by
  induction ops generalizing s past with
  | nil => exact (List.append_nil past).symm ▸ holds
  | cons op rest ih =>
      obtain ⟨agreed, kept⟩ := CameraMachine.callEach_keeps moved agreed holds (s.cameraOps op)
      rw [← perform_camera] at agreed kept
      simp only [cameraHistory, collect]
      rw [← List.append_assoc]
      exact ih agreed kept

theorem agreed_performAll (agreed : s.gated.Agreed) (ops : List SessionOp) :
    (s.performAll ops).gated.Agreed :=
  @camera_keeps s (fun c _ => c.Agreed) (fun _ _ _ _ agreed moved _ => (moved.agreed agreed).1) []
    agreed agreed ops

end Session

end CaptureFlow
