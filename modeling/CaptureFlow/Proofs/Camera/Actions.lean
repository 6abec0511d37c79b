import CaptureFlow.Proofs.Camera.QuietListener
/-! # What a moment does with actions

An action is handed to the gate by an operation that asks for it, or by a flip that links the
surface again and turns the picture (`Handed`).  It then runs at once or waits in its queue, from
which it is taken later.  `Acts m op? c` says what of this happens between a moment and the next,
with `c` for the camera after it; operations that open or close the camera are no actions, and stand
for themselves (`Next.acts`).

So whatever waits later has been waiting, or has been put into its queue meanwhile
(`Later.queued_since`). -/

namespace CaptureFlow

def GatedCamera.ran {β : Type} (c : GatedCamera β) : CameraAction β → GatedCamera β
  | .linkSurface surface =>
    match c.startPreview surface with
    | (.ok (), c') =>
      match c'.gate.complete? .previewStarted with
      | some (gate, _) => { c' with gate }
      | none => c'
    | (.error _, c') => c'
  | .applyRotation rotation => (c.applyRotation rotation).2
  | .takePicture _ => c.takePicture.2

/-- Whether an operation opens or closes a camera. -/
def CameraOp.switches {τ : Type} : CameraOp τ → Bool
  | .release => true
  | op => op.opens

namespace CameraMachine

open GatedCamera

variable {τ : Type} {m m' m₀ : CameraMachine τ} {op? : Option (CameraOp τ)}
  {action : CameraAction (Receiver τ)} {c : GatedCamera (Receiver τ)}

/-! ### Actions and the gate -/

/-- How an action comes to be handed to the gate: an operation asks for it, or a flip has left it to
be done. -/
inductive Handed (m : CameraMachine τ) (op? : Option (CameraOp τ)) :
    CameraAction (Receiver τ) → Prop
  | surface {surface : UInt64} (op : op? = some (.linkSurface surface)) :
      Handed m op? (.linkSurface surface)
  | rotation {degrees : UInt16} {rotation : ScreenRotation}
      (op : op? = some (.setScreenRotation degrees))
      (read : ScreenRotation.read degrees = .ok rotation) : Handed m op? (.applyRotation rotation)
  | picture {tag : τ} {body : List (CameraOp τ)} (op : op? = some (.capture tag body)) :
      Handed m op? (.takePicture ⟨m.tickets, tag, body⟩)
  | left {action : CameraAction (Receiver τ)} {rest : List (CameraTask τ)}
      (stack : m.stack = .offer action :: rest) : Handed m op? action

/-- What happens between `m` and a moment with the camera `c`. -/
inductive Acts (m : CameraMachine τ) (op? : Option (CameraOp τ)) (c : GatedCamera (Receiver τ)) :
    Prop
  | aside (camera : c = m.camera)
  | reselected (facing : Facing) (camera : c = { m.camera with facing })
  | queued {action : CameraAction (Receiver τ)}
      {gate : Gate CameraStage (CameraAction (Receiver τ))} (handed : Handed m op? action)
      (queued : Gate.Queued m.camera.gate action.stage action gate)
      (camera : c = { m.camera with gate })
  | served {action : CameraAction (Receiver τ)} (handed : Handed m op? action)
      (complete : m.camera.isAt action.stage = true) (camera : c = m.camera.ran action)
  | taken {action : CameraAction (Receiver τ)} {gate : Gate CameraStage (CameraAction (Receiver τ))}
      (popped : Gate.Popped m.camera.gate action.stage action gate)
      (camera : c = { m.camera with gate }.ran action)
  | switched {op : CameraOp τ} (op? : op? = some op) (switches : op.switches = true)
      (camera : c = (m.start op).machine.camera)

theorem camera_run (m : CameraMachine τ) (action : CameraAction (Receiver τ)) :
    (m.run action).machine.camera = m.camera.ran action := by
  cases action with
  | linkSurface surface =>
      cases started : m.camera.startPreview surface with
      | mk result camera =>
          simp only [run, ran, started]
          cases result with
          | error cause => exact camera_fail _ cause none
          | ok _ =>
              simp only [reach, withCamera]
              split
              next missing =>
                rw [missing]
                exact camera_fail _ _ none
              next gate first completed =>
                rw [completed]
                rfl
  | applyRotation rotation =>
      cases applied : m.camera.applyRotation rotation with
      | mk result camera =>
          simp only [run, ran, applied]
          cases result with
          | ok _ => rfl
          | error cause => exact camera_fail _ cause none
  | takePicture receiver =>
      cases taken : m.camera.takePicture with
      | mk result camera =>
          simp only [run, ran, taken]
          cases result with
          | ok frame => rfl
          | error cause => exact camera_fail _ cause _

theorem acts_offer? {move : CameraMove τ} (handed : Handed m op? action)
    (same : m'.camera = m.camera) (offered : m'.offer? action = some move) :
    Acts m op? move.machine.camera := by
  unfold offer? at offered
  split at offered
  · cases offered
  next gate due offered' =>
    obtain rfl := Option.some.inj offered
    rw [same] at offered'
    cases due with
    | true =>
        obtain ⟨rfl, complete⟩ := Gate.offer?_due_iff.mp offered'
        refine .served handed complete ?_
        rw [if_pos rfl, camera_run, withGate, withCamera, same]
    | false =>
        refine .queued handed (Gate.queued_of_offer? offered') ?_
        rw [if_neg Bool.false_ne_true, withGate, withCamera, same]

theorem acts_submit (handed : Handed m op? action) (same : m'.camera = m.camera) :
    Acts m op? (m'.submit action).machine.camera := by
  cases offered : m'.offer? action with
  | none =>
      simp only [submit, offered]
      exact .aside same
  | some move =>
      simp only [submit, offered]
      exact acts_offer? handed same offered

theorem acts_start (m : CameraMachine τ) (op : CameraOp τ) :
    Acts m (some op) (m.start op).machine.camera := by
  cases op with
  | linkSurface surface => exact acts_submit (.surface rfl) rfl
  | setScreenRotation degrees =>
      simp only [start]
      split
      · exact .aside rfl
      next rotation read => exact acts_submit (.rotation rfl read) rfl
  | capture tag body =>
      let requested := { m with tickets := m.tickets + 1 }.log [.requested m.tickets]
      show Acts m _ (requested.submit (.takePicture ⟨m.tickets, tag, body⟩)).machine.camera
      exact acts_submit (.picture rfl) rfl
  | describe => exact .aside rfl
  | openCamera | release | flip => exact .switched rfl rfl rfl

/-- Between two moments an action is handed to the gate or taken from its queue, or the camera is
opened or closed, or nothing is done to it but that it may be selected. -/
theorem Next.acts (h : Next m op? m') (agreed : m.camera.Agreed) : Acts m op? m'.camera := by
  cases h with
  | enter op idle => exact acts_start m op
  | step stepped =>
      obtain ⟨task, op?, move, kept, rest, stack, works, rfl⟩ := step_inv stepped
      rw [works.next?_eq stack]
      cases works with
      | ended | reported | emptied | missing => exact .aside rfl
      | performed origin op ops => exact acts_start m op
      | @taken _ _ action gate taken =>
          obtain ⟨rfl, popped⟩ := popped_of_taken agreed taken
          exact .taken popped (camera_run (m.withGate gate) action)
      | offered offered => exact acts_offer? (.left stack) rfl offered
      | reselected facing => exact .reselected facing rfl

theorem steady_ran (c : GatedCamera (Receiver τ)) (action : CameraAction (Receiver τ)) :
    Steady c (c.ran action) := by
  have steady := steady_run (m := { camera := c }) action
  rwa [camera_run] at steady

/-! ### The open camera -/

/-- `c'` is `c` with the same camera open, if any, be it selected or not. -/
structure SameOpen (c c' : GatedCamera (Receiver τ)) : Prop where
  initialized : c'.isAt .initialized = c.isAt .initialized
  info : c'.info = c.info
  previewSize : c'.previewSize = c.previewSize
  device : c.device.Kept c'.device

theorem sameOpen_of_steady {c c' : GatedCamera (Receiver τ)} (h : Steady c c') : SameOpen c c' :=
  ⟨h.initialized, h.info, h.previewSize, h.device⟩

/-- Between two moments the same camera stays open, unless it is released or flipped, or a closed
one is to be opened. -/
theorem Acts.sameOpen (h : Acts m op? c) (agreed : m.camera.Agreed) :
    SameOpen m.camera c ∨ ∃ op, op? = some op ∧ c = (m.start op).machine.camera ∧
      (op = .release ∨ op = .flip ∨ op = .openCamera ∧ m.camera.isAt .initialized = false) := by
  cases h with
  | aside camera =>
      rw [camera]
      exact .inl (sameOpen_of_steady (.refl _))
  | reselected facing camera =>
      rw [camera]
      exact .inl ⟨rfl, rfl, rfl, .refl _⟩
  | queued _ queued camera =>
      rw [camera]
      exact .inl (sameOpen_of_steady (steady_withGate m.camera (congrFun queued.flags _)))
  | served _ _ camera =>
      rw [camera]
      exact .inl (sameOpen_of_steady (steady_ran _ _))
  | taken popped camera =>
      rw [camera]
      have before := steady_withGate m.camera (congrFun popped.flags .initialized)
      exact .inl (sameOpen_of_steady (before.trans (steady_ran _ _)))
  | @switched op performed switches camera =>
      cases op with
      | linkSurface | setScreenRotation | capture | describe => cases switches
      | release => exact .inr ⟨_, performed, camera, .inl rfl⟩
      | flip => exact .inr ⟨_, performed, camera, .inr (.inl rfl)⟩
      | openCamera =>
          cases closed : m.camera.isAt .initialized with
          | false => exact .inr ⟨_, performed, camera, .inr (.inr ⟨rfl, rfl⟩)⟩
          | true =>
              obtain ⟨capabilities, same⟩ := openSelected_of_open agreed closed
              have unchanged : c = m.camera := by
                rw [camera]
                show m.openSelected.1.machine.camera = m.camera
                rw [same]
              rw [unchanged]
              exact .inl (sameOpen_of_steady (.refl _))

/-! ### What waits -/

theorem queues_ran (c : GatedCamera (Receiver τ)) (action : CameraAction (Receiver τ)) :
    (c.ran action).gate.pending = c.gate.pending := by
  cases action with
  | linkSurface surface =>
      have gate := gate_startPreview c surface
      simp only [ran]
      split
      next c' started =>
        rw [started] at gate
        split
        next gate' first completed =>
          rw [← gate]
          exact (Gate.flags_of_complete? completed).2.1
        next => exact congrArg Gate.pending gate
      next cause c' failed =>
        rw [failed] at gate
        exact congrArg Gate.pending gate
  | applyRotation rotation => exact congrArg Gate.pending (gate_applyRotation c rotation)
  | takePicture receiver => exact congrArg Gate.pending (gate_takePicture c)

theorem queues_openSelected (agreed : m.camera.Agreed) (stage : CameraStage) :
    ∀ a ∈ m.openSelected.1.machine.camera.gate.pending stage, a ∈ m.camera.gate.pending stage := by
  have gate := gate_openSelected m.camera
  unfold openSelected
  split
  · exact fun a mem => mem
  · split
    next capabilities camera opened =>
      rw [opened] at gate
      obtain ⟨gate', first, completed, after⟩ :=
        reach_eq (m.withCamera camera) (gate ▸ agreed.stages) .initialized
      have same : gate'.pending = camera.gate.pending := (Gate.flags_of_complete? completed).2.1
      intro a mem
      dsimp only at mem
      rw [after] at mem
      have mem' : a ∈ gate'.pending stage := mem
      rwa [same, gate] at mem'
    next cause camera failed =>
      intro a mem
      dsimp only at mem
      rw [camera_fail] at mem
      have mem' : a ∈ camera.gate.reset.pending stage := mem
      rw [Gate.pending_reset] at mem'
      cases mem'

theorem machine_flip (m : CameraMachine τ) :
    m.flip.machine = (m.release.select m.camera.facing.flipped).openSelected.1.machine := by
  unfold flip
  split <;> simp only [*]

theorem queues_flip (agreed : m.camera.Agreed) (stage : CameraStage) :
    m.flip.machine.camera.gate.pending stage = [] := by
  have before : (m.release.select m.camera.facing.flipped).camera.Agreed :=
    ((moves_release m).follows.trans (moves_select _ _).follows).agreed agreed
  rw [machine_flip]
  refine List.eq_nil_iff_forall_not_mem.mpr fun a mem => ?_
  have waits := queues_openSelected before stage a mem
  have reset : (m.release.select m.camera.facing.flipped).camera.gate.pending stage = [] :=
    Gate.pending_reset m.camera.gate stage
  rw [reset] at waits
  cases waits

theorem queues_of_switches (agreed : m.camera.Agreed) {op : CameraOp τ}
    (switches : op.switches = true) (stage : CameraStage) :
    ∀ a ∈ (m.start op).machine.camera.gate.pending stage, a ∈ m.camera.gate.pending stage := by
  intro a waits
  cases op with
  | openCamera => exact queues_openSelected agreed stage a waits
  | release =>
      have reset : (m.start .release).machine.camera.gate.pending stage = [] :=
        Gate.pending_reset m.camera.gate stage
      rw [reset] at waits
      cases waits
  | flip =>
      have reset : (m.start .flip).machine.camera.gate.pending stage = [] :=
        queues_flip agreed stage
      rw [reset] at waits
      cases waits
  | linkSurface | setScreenRotation | capture | describe => cases switches

/-- What waits after a moment has been waiting, or has just been put into its queue. -/
theorem Acts.waits (h : Acts m op? c) (agreed : m.camera.Agreed) {stage : CameraStage}
    {a : CameraAction (Receiver τ)} (waits : a ∈ c.gate.pending stage) :
    a ∈ m.camera.gate.pending stage ∨ Gate.Queued m.camera.gate a.stage a c.gate := by
  cases h with
  | aside camera =>
      subst camera
      exact .inl waits
  | reselected facing camera =>
      subst camera
      exact .inl waits
  | @queued action gate _ queued camera =>
      subst camera
      rcases queued.mem waits with earlier | ⟨-, rfl⟩
      · exact .inl earlier
      · exact .inr queued
  | served _ _ camera =>
      subst camera
      rw [queues_ran] at waits
      exact .inl waits
  | taken popped camera =>
      subst camera
      rw [queues_ran] at waits
      exact .inl (popped.mem waits)
  | @switched op _ switches camera =>
      subst camera
      exact .inl (queues_of_switches agreed switches stage a waits)

/-- Between `m₀` and `m` an action has been put into its queue. -/
def QueuedSince (m₀ : CameraMachine τ) (action : CameraAction (Receiver τ)) (m : CameraMachine τ) :
    Prop :=
  ∃ m₁ op? m₂, Later m₀ m₁ ∧ Next m₁ op? m₂ ∧
    Gate.Queued m₁.camera.gate action.stage action m₂.camera.gate ∧ Later m₂ m

theorem Later.agreed (h : Later m₀ m) (agreed : m₀.camera.Agreed) : m.camera.Agreed := by
  induction h with
  | now => exact agreed
  | enter op _ _ ih => exact ((follows_start _ op ih).1.congr rfl rfl).agreed ih
  | step _ stepped ih => exact (follows_step stepped ih).agreed ih

/-- If nothing waits now, what waits later has been put into its queue since. -/
theorem Later.queued_since (h : Later m₀ m) (agreed : m₀.camera.Agreed)
    (empty : ∀ stage, m₀.camera.gate.pending stage = []) {stage : CameraStage}
    {a : CameraAction (Receiver τ)} (waits : a ∈ m.camera.gate.pending stage) :
    QueuedSince m₀ a m := by
  refine h.induction (P := fun m => ∀ stage, ∀ a ∈ m.camera.gate.pending stage,
    QueuedSince m₀ a m) ?_ ?_ stage a waits
  · intro stage a mem
    rw [empty] at mem
    cases mem
  · intro m op? m' later next holds stage a mem
    have before := later.agreed agreed
    rcases (next.acts before).waits before mem with earlier | queued
    · obtain ⟨m₁, op?₁, m₂, before, between, queued, after⟩ := holds stage a earlier
      exact ⟨m₁, op?₁, m₂, before, between, queued, after.next next⟩
    · exact ⟨m, op?, m', later, next, queued, .now⟩

end CameraMachine

end CaptureFlow
