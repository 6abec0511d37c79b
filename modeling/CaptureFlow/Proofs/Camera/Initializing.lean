import CaptureFlow.Proofs.Camera.Actions
import CaptureFlow.Proofs.Camera.Switching
/-! # Opening the camera

To open a camera that is open changes nothing: the answer is that of the operation that has opened
it (`Reached.opened_by`).  A closed camera is opened, and all that has waited for that is run, or it
cannot be opened; then it is left closed with nothing waiting, and the listener is told why
(`Initializes`).  What is run when it is opened later has been asked for since.

`Reached.initializes` says this of every moment of a run.  The second part is for a listener and for
receivers that do nothing; what else they might do would come in between. -/

namespace CaptureFlow

variable {τ : Type}

/-! ### Who has opened the camera -/

/-- An answer that announces the capabilities of the camera that has been opened. -/
inductive CameraReply.Announces (known : Capabilities) : CameraReply → Prop
  | opened : Announces known (.capabilities known)
  | flipped (facing : Facing) : Announces known (.flipped facing known)

namespace CameraMachine

open GatedCamera CameraMove

variable {m m' m₀ m₁ : CameraMachine τ} {op : CameraOp τ} {known : Capabilities}

/-- The camera that is open at `m` was opened by `op`, performed at the moment `m₀`, whose answer
announced what is `known` of it, and none has been opened or closed since. -/
structure OpenedBy (m₀ : CameraMachine τ) (op : CameraOp τ) (known : Capabilities)
    (m : CameraMachine τ) : Prop where
  reached : Reached m₀
  announced : ∃ reply, (m₀.start op).answer = .ok reply ∧ reply.Announces known
  opens : ∃ m₁ made facing, Next m₀ (some op) m₁ ∧ m₁.camera.device.exchanges =
    m₀.camera.device.exchanges ++ made ++ [⟨.openCamera facing, .done⟩] ∧
    Later m₁ m ∧ m₁.camera.device.Kept m.camera.device

theorem OpenedBy.next {op? : Option (CameraOp τ)} (h : OpenedBy m₀ op known m)
    (next : Next m op? m') (kept : m.camera.device.Kept m'.camera.device) :
    OpenedBy m₀ op known m' := by
  obtain ⟨m₁, made, facing, between, exchanges, later, since⟩ := h.opens
  exact ⟨h.reached, h.announced, m₁, made, facing, between, exchanges, later.next next,
    since.trans kept⟩

theorem opened_by_openCamera (h : Reached m) (next : Next m (some .openCamera) m')
    (camera : m'.camera = (m.start .openCamera).machine.camera)
    (closed : m.camera.isAt .initialized = false) (isOpen : m'.camera.isAt .initialized = true) :
    ∃ known, OpenedBy m .openCamera known m' ∧ m'.camera.capabilities? = some known := by
  have machine : (m.start .openCamera).machine = m.openSelected.1.machine := rfl
  rw [camera, machine] at isOpen
  obtain ⟨known, opens⟩ := ok_of_initialized isOpen
  have opened := nowOpen_of_ok h.agreed closed opens
  rw [← machine, ← camera] at opened
  have answer : (m.start .openCamera).answer = .ok (.capabilities known) := by
    simp only [start, opens]
    rfl
  refine ⟨known, ⟨h, ⟨_, answer, .opened⟩, m', [], m.camera.facing, next, ?_, .now, .refl _⟩,
    opened.capable⟩
  rw [List.append_nil]
  exact opened.exchanges

theorem opened_by_flip (h : Reached m) (next : Next m (some .flip) m')
    (camera : m'.camera = (m.start .flip).machine.camera)
    (isOpen : m'.camera.isAt .initialized = true) :
    ∃ known, OpenedBy m .flip known m' ∧ m'.camera.capabilities? = some known := by
  have released := flipsFrom_released h.agreed
  have machine : (m.start .flip).machine = _ := machine_flip m
  rw [camera, machine] at isOpen
  obtain ⟨known, opens⟩ := ok_of_initialized isOpen
  have opened := nowOpen_of_ok released.agreed released.closed opens
  rw [← machine, ← camera] at opened
  have answer : (m.start .flip).answer = .ok (.flipped m.camera.facing.flipped known) :=
    congrArg CameraStart.answer (flip_of_ok opens)
  refine ⟨known, ⟨h, ⟨_, answer, .flipped _⟩, m', m.camera.stops, m.camera.facing.flipped, next, ?_,
    .now, .refl _⟩, opened.capable⟩
  rw [opened.exchanges, released.made.exchanges, released.facing]

/-- Between two moments an open camera stays open, or it is opened with its
capabilities announced. -/
theorem Next.opening {op? : Option (CameraOp τ)} (next : Next m op? m') (reached : Reached m)
    (isOpen : m'.camera.isAt .initialized = true) :
    SameOpen m.camera m'.camera ∨
      ∃ known op, OpenedBy m op known m' ∧ m'.camera.capabilities? = some known := by
  rcases (next.acts reached.agreed).sameOpen reached.agreed with
    same | ⟨op, rfl, camera, rfl | rfl | ⟨rfl, closed⟩⟩
  · exact .inl same
  · have closed : (m.start .release).machine.camera.isAt .initialized = false :=
      Gate.isComplete_reset m.camera.gate .initialized
    rw [camera, closed] at isOpen
    cases isOpen
  · obtain ⟨known, opened, capable⟩ := opened_by_flip reached next camera isOpen
    exact .inr ⟨known, .flip, opened, capable⟩
  · obtain ⟨known, opened, capable⟩ := opened_by_openCamera reached next camera closed isOpen
    exact .inr ⟨known, .openCamera, opened, capable⟩

/-- Whatever camera is open was opened by an operation that announced its capabilities. -/
theorem Reached.opened_by (h : Reached m) (isOpen : m.camera.isAt .initialized = true) :
    ∃ known m₀ op, OpenedBy m₀ op known m ∧ m.camera.capabilities? = some known := by
  -- every moment but the first comes after another one
  have next : ∀ {m m' : CameraMachine τ} {op? : Option (CameraOp τ)}, Reached m → Next m op? m' →
      (m.camera.isAt .initialized = true →
        ∃ known m₀ op, OpenedBy m₀ op known m ∧ m.camera.capabilities? = some known) →
      m'.camera.isAt .initialized = true →
        ∃ known m₀ op, OpenedBy m₀ op known m' ∧ m'.camera.capabilities? = some known := by
    intro m m' op? reached next before isOpen
    rcases next.opening reached isOpen with same | ⟨known, op, opened, capable⟩
    · obtain ⟨known, m₀, op, opened, capable⟩ := before (same.initialized.symm.trans isOpen)
      refine ⟨known, m₀, op, opened.next next same.device, ?_⟩
      rw [← capable, capabilities?, capabilities?, same.previewSize, same.device.spec]
    · exact ⟨known, m, op, opened, capable⟩
  induction h with
  | fresh => cases isOpen
  | enter op reached idle ih => exact next reached (.enter op idle) ih isOpen
  | step reached stepped ih => exact next reached (.step stepped) ih isOpen

/-! ### Closed cameras -/

/-- What opening a closed camera answers, and what it makes of the camera. -/
inductive Initializes (m : CameraMachine τ) : CameraAnswer → CameraMachine τ → Prop
  | opened {preview : Size} {exchanges : List Exchange} {streaming : Bool}
      {left : List (CameraAction (Receiver τ))} {m' : CameraMachine τ}
      (present : m.camera.device.spec.count ≠ 0)
      (largest : FirstLargest preview m.camera.device.spec.previewSizes)
      (unblocks : Unblocks (m.camera.device.infoOf m.camera.facing) preview false
        (m.camera.gate.pending .initialized) (m.camera.gate.pending .previewStarted)
        exchanges streaming left)
      (made : Made m (⟨.openCamera m.camera.facing, .done⟩ :: exchanges) (failuresIn exchanges) m')
      (facing : m'.camera.facing = m.camera.facing)
      (isOpen : m'.camera.device.opened = some m.camera.facing)
      (gate : GateAt m'.camera.gate true streaming [] left) :
      Initializes m (.ok (.capabilities ⟨m.camera.device.spec.count, preview⟩)) m'
  | missed {cause : Failure} {exchanges : List Exchange} {m' : CameraMachine τ}
      (misses : m.camera.device.spec.Misses m.camera.facing cause exchanges)
      (made : Made m exchanges [cause] m') (shut : Shut m m')
      (anew : ∀ rest m₂, Later { m' with stack := rest } m₂ →
        ∀ stage, ∀ action ∈ m₂.camera.gate.pending stage,
          QueuedSince { m' with stack := rest } action m₂) :
      Initializes m (.error cause) m'

theorem agreed_of_leadsTo {move : CameraMove τ} (h : move.LeadsTo m')
    (agreed : move.machine.camera.Agreed) : m'.camera.Agreed := by
  obtain ⟨n, done⟩ := h []
  have later : Later { move.machine with stack := move.work ++ [] } { m' with stack := [] } :=
    done ▸ Later.steps .now n
  exact later.agreed agreed

theorem bodies_of_receivers (bodies : ∀ r ∈ m.receivers, r.body = []) :
    ∀ receiver, .takePicture receiver ∈ m.camera.gate.pending .previewStarted →
      receiver.body = [] :=
  fun receiver mem => bodies receiver (List.mem_filterMap.mpr ⟨_, mem, rfl⟩)

/-- A closed camera is opened and all that has waited for that is run, or it stays closed. -/
theorem Reached.initializes_closed (h : Reached m) (closed : m.camera.isAt .initialized = false)
    (hushed : Hushed m) (bodies : ∀ r ∈ m.receivers, r.body = []) :
    ∃ answer m', Performed m .openCamera answer m' ∧ Initializes m answer m' := by
  cases result : m.openSelected.2 with
  | error cause =>
      have surface := h.recorded.surface_of_closed closed
      obtain ⟨exchanges, m', leads, misses, made, shut⟩ :=
        opening_missed h.agreed closed surface hushed result
      have agreed := agreed_of_leadsTo leads ((follows_openSelected m h.agreed).1.agreed h.agreed)
      refine ⟨.error cause, m', ⟨?_, leads⟩, .missed misses made shut ?_⟩
      · simp only [start, result]
        rfl
      · intro rest m₂ later stage action mem
        exact later.queued_since agreed shut.queues mem
  | ok known =>
      obtain ⟨preview, m₁, present, largest, rfl, opening, opened⟩ :=
        opening_done h.agreed closed hushed (bodies_of_receivers bodies) result
      obtain ⟨exchanges, streaming, left, m', leads, went, unblocks, ready⟩ :=
        opened.ready.unblocks fun streams => by cases streams
      refine ⟨_, m', ⟨?_, ?_⟩, .opened present largest unblocks (opened.made.trans went.toMade)
        (went.steady.facing.trans opened.facing)
        (went.steady.device.opened.trans opened.opened) ready.gate⟩
      · simp only [start, result]
        rfl
      · show m.openSelected.1.LeadsTo m'
        rw [opening]
        exact leads

/-- **Opening the camera.**  To open a camera that is open changes nothing, and the answer is what
was announced by the operation that opened it.  A closed camera that is to be opened, with nobody to
react, is opened and all that waits for that is run in order; or it is left closed, the listener
told once, with nothing waiting, so that only what is asked for afterwards is run when it is opened
later. -/
theorem Reached.initializes (h : Reached m) :
    (m.camera.isAt .initialized = true → ∃ known m₀ op, OpenedBy m₀ op known m ∧
      m.start .openCamera = { machine := m, answer := .ok (.capabilities known) }) ∧
    (m.camera.isAt .initialized = false → Hushed m → (∀ r ∈ m.receivers, r.body = []) →
      ∃ answer m', Performed m .openCamera answer m' ∧ Initializes m answer m') := by
  refine ⟨fun isOpen => ?_, fun closed hushed bodies =>
    h.initializes_closed closed hushed bodies⟩
  obtain ⟨known, m₀, op, opened, capable⟩ := h.opened_by isOpen
  refine ⟨known, m₀, op, opened, ?_⟩
  simp only [start, openSelected, isOpen, if_true, capable]
  rfl

/-- A camera that is asked for a preview, a turn and a picture before it is opened, which is refused
the first time. -/
def refusedOpening : CameraMachine Unit :=
  (((ofDevice { refusals := { openCamera := { refused := [0] } } } .back).enter
    (.linkSurface 7)).enter (.setScreenRotation 90)).enter (.capture () [])

theorem reached_refusedOpening : Reached refusedOpening :=
  .enter _ (.enter _ (.enter _ (.fresh ..) rfl) rfl) rfl

/-- The refusal is answered with all of this discarded.  The next opening succeeds, and what it has
announced is known of the open camera from then on. -/
theorem initializes_refused :
    refusedOpening.camera.waiting.length = 3 ∧
    (∃ m', Performed refusedOpening .openCamera (.error (.transfer (.refused .openCamera))) m' ∧
      Initializes refusedOpening (.error (.transfer (.refused .openCamera))) m') ∧
    ∃ m₀ op, OpenedBy m₀ op ⟨2, ⟨1920, 1080⟩⟩
      ((refusedOpening.enter .openCamera).enter .openCamera) := by
  have again : Reached ((refusedOpening.enter .openCamera).enter .openCamera) :=
    .enter _ (.enter _ reached_refusedOpening rfl) rfl
  refine ⟨rfl, ?_, ?_⟩
  · have bodies : ∀ r ∈ refusedOpening.receivers, r.body = [] := by
      intro r mem
      have single : refusedOpening.receivers = [⟨0, (), []⟩] := rfl
      rw [single] at mem
      rw [List.mem_singleton.mp mem]
    obtain ⟨answer, m', performed, initializes⟩ := reached_refusedOpening.initializes.2 rfl
      (fun _ mem => absurd mem List.not_mem_nil) bodies
    obtain rfl : .error (.transfer (.refused .openCamera)) = answer := performed.answer
    exact ⟨m', performed, initializes⟩
  · obtain ⟨known, m₀, op, opened, start⟩ := again.initializes.1 rfl
    have answer : Except.ok (CameraReply.capabilities ⟨2, ⟨1920, 1080⟩⟩) =
        Except.ok (CameraReply.capabilities known) := congrArg CameraStart.answer start
    obtain rfl := CameraReply.capabilities.inj (Except.ok.inj answer)
    exact ⟨m₀, op, opened⟩

end CameraMachine

end CaptureFlow
