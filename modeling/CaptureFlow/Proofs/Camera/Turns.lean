import CaptureFlow.Proofs.Camera.Actions
import CaptureFlow.Proofs.Camera.Attempts
import CaptureFlow.Proofs.Camera.Progress
/-! # What becomes of turns

A picture is turned by an action that waits for the preview.  Until it runs, a turn is on the stack,
left there by a flip, or in its queue; when it runs, its rotation is recorded and sent to the
device.  `Turns` is all of a machine that matters for this, and from one moment to the next it goes
on in few ways (`Turns.Goes`), as long as the same camera stays open (`Next.turns`).

So if no rotation is requested meanwhile and no flip is under way, the rotation requested last stays
the same (`Turns.Goes.requested`), and what a flip has left ends up as the last rotation sent
(`Turns.Goes.endsIn`). -/

namespace CaptureFlow

variable {τ : Type}

/-! ### Turns -/

/-- The rotation of a turn that is to be handed to the gate. -/
def CameraTask.turn? : CameraTask τ → Option ScreenRotation
  | .offer action => action.turn?
  | _ => none

/-- The rotation that an operation asks for. -/
def CameraOp.turn? : CameraOp τ → Option ScreenRotation
  | .setScreenRotation degrees => (ScreenRotation.read degrees).toOption
  | _ => none

/-- Whether an operation closes the camera that is open. -/
def CameraOp.closes : CameraOp τ → Bool
  | .release => true
  | .flip => true
  | _ => false

/-- Whether an exchange is a call to turn the picture. -/
def Exchange.turns (e : Exchange) : Bool :=
  match e.call with
  | .setRotation _ => true
  | _ => false

/-- A call that turns the picture of a camera, and what came of it. -/
def CameraInfo.turned (info : CameraInfo) (rotation : ScreenRotation) (outcome : CallOutcome) :
    Exchange :=
  ⟨.setRotation (cameraRotation info.sensorOrientation info.facing rotation), outcome⟩

/-- The turns that flips have left, those that wait for the preview, the rotation that is recorded,
and the calls that have been made. -/
@[ext]
structure Turns where
  left : List ScreenRotation
  waiting : List ScreenRotation
  recorded : ScreenRotation
  sent : List Exchange
deriving DecidableEq, Repr

namespace Turns

/-- The rotation requested last: the last one that waits, or else the one recorded. -/
def requested (t : Turns) : ScreenRotation := t.waiting.getLastD t.recorded

def queue (t : Turns) (rotation : ScreenRotation) : Turns :=
  { t with waiting := t.waiting ++ [rotation] }

def turn (t : Turns) (info : CameraInfo) (rotation : ScreenRotation) (outcome : CallOutcome) :
    Turns :=
  { t with recorded := rotation, sent := t.sent ++ [info.turned rotation outcome] }

/-- What becomes of an action that is handed to the gate, which may be a turn. -/
inductive Accepts (info : CameraInfo) (streaming : Bool) (t t' : Turns) :
    Option ScreenRotation → Prop
  | aside (after : t' = t) : Accepts info streaming t t' none
  | queued {rotation : ScreenRotation} (still : streaming = false) (after : t' = t.queue rotation) :
      Accepts info streaming t t' (some rotation)
  | served {rotation : ScreenRotation} {outcome : CallOutcome} (streams : streaming = true)
      (after : t' = t.turn info rotation outcome) : Accepts info streaming t t' (some rotation)

/-- How turns go on between two moments, with `asked?` for the rotation that is asked for. -/
inductive Goes (info : CameraInfo) (streaming : Bool) (asked? : Option ScreenRotation)
    (t t' : Turns) : Prop
  | asked (accepts : Accepts info streaming t t' asked?)
  | offered {rotation : ScreenRotation} {rest : List ScreenRotation} (unasked : asked? = none)
      (left : t.left = rotation :: rest)
      (accepts : Accepts info streaming { t with left := rest } t' (some rotation))
  | taken {rotation : ScreenRotation} {rest : List ScreenRotation} {outcome : CallOutcome}
      (unasked : asked? = none) (streams : streaming = true)
      (waiting : t.waiting = rotation :: rest)
      (after : t' = { t with waiting := rest }.turn info rotation outcome)

/-- No turn is under way: a flip has left none, and none waits if the preview runs. -/
structure CaughtUp (t : Turns) (streaming : Bool) : Prop where
  left : t.left = []
  waiting : streaming = true → t.waiting = []

/-- The last call to turn the picture was for `rotation`. -/
def SentLast (info : CameraInfo) (rotation : ScreenRotation) (t : Turns) : Prop :=
  ∃ earlier outcome, t.sent = earlier ++ [info.turned rotation outcome]

/-- All turns still to be made are by `rotation`, and there are some or the last one made was. -/
structure EndsIn (info : CameraInfo) (rotation : ScreenRotation) (t : Turns) : Prop where
  left : ∀ r ∈ t.left, r = rotation
  waiting : ∀ r ∈ t.waiting, r = rotation
  comes : t.left ≠ [] ∨ t.waiting ≠ [] ∨ t.SentLast info rotation

variable {info : CameraInfo} {streaming : Bool} {t t' : Turns} {rotation : ScreenRotation}

theorem sentLast_turn (t : Turns) (info : CameraInfo) (rotation : ScreenRotation)
    (outcome : CallOutcome) : (t.turn info rotation outcome).SentLast info rotation :=
  ⟨t.sent, outcome, rfl⟩

/-- A rotation that is asked for with no turn under way is the one requested last. -/
theorem Goes.asks (h : Goes info streaming (some rotation) t t') (caughtUp : t.CaughtUp streaming) :
    t'.left = [] ∧ t'.requested = rotation := by
  cases h with
  | asked accepts =>
      cases accepts with
      | queued still after =>
          subst after
          exact ⟨caughtUp.left, List.getLastD_concat⟩
      | served streams after =>
          subst after
          refine ⟨caughtUp.left, ?_⟩
          show t.waiting.getLastD rotation = rotation
          rw [caughtUp.waiting streams]
          rfl
  | offered unasked | taken unasked => cases unasked

theorem Goes.requested (h : Goes info streaming none t t') (left : t.left = []) :
    t'.left = [] ∧ t'.requested = t.requested := by
  cases h with
  | asked accepts =>
      obtain ⟨rfl⟩ := accepts
      exact ⟨left, rfl⟩
  | offered _ some_left =>
      rw [left] at some_left
      cases some_left
  | @taken first rest outcome _ _ waiting after =>
      subst after
      refine ⟨left, ?_⟩
      show rest.getLastD first = t.waiting.getLastD t.recorded
      rw [waiting, List.getLastD_cons]

/-- If all turns are by one rotation, the last call will be for it. -/
theorem Goes.endsIn (h : Goes info streaming none t t') (ends : t.EndsIn info rotation) :
    t'.EndsIn info rotation := by
  cases h with
  | asked accepts =>
      obtain ⟨rfl⟩ := accepts
      exact ends
  | @offered first rest _ left accepts =>
      obtain rfl := ends.left first (left ▸ List.mem_cons_self)
      have others : ∀ r ∈ rest, r = first := fun r mem =>
        ends.left r (left ▸ List.mem_cons_of_mem first mem)
      cases accepts with
      | queued still after =>
          subst after
          refine ⟨others, fun r mem => ?_, .inr (.inl (List.append_ne_nil_of_right_ne_nil _ ?_))⟩
          · rcases List.mem_append.mp mem with mem | mem
            · exact ends.waiting r mem
            · exact List.mem_singleton.mp mem
          · exact List.cons_ne_nil first []
      | served streams after =>
          subst after
          exact ⟨others, ends.waiting, .inr (.inr (sentLast_turn _ info first _))⟩
  | @taken first rest outcome _ _ waiting after =>
      obtain rfl := ends.waiting first (waiting ▸ List.mem_cons_self)
      subst after
      exact ⟨ends.left, fun r mem => ends.waiting r (waiting ▸ List.mem_cons_of_mem first mem),
        .inr (.inr (sentLast_turn _ info first outcome))⟩

theorem EndsIn.sentLast (h : t.EndsIn info rotation) (left : t.left = [])
    (waiting : t.waiting = []) : t.SentLast info rotation := by
  rcases h.comes with some_left | some_waits | sent
  · exact absurd left some_left
  · exact absurd waiting some_waits
  · exact sent

end Turns

/-! ### Turns of a camera -/

def GatedCamera.turns {β : Type} (c : GatedCamera β) (left : List ScreenRotation) : Turns where
  left := left
  waiting := (c.gate.pending .previewStarted).filterMap CameraAction.turn?
  recorded := c.rotation
  sent := c.device.exchanges.filter Exchange.turns

namespace CameraMachine

open GatedCamera

variable {m m' m₀ : CameraMachine τ} {action : CameraAction (Receiver τ)} {move : CameraMove τ}
  {info : CameraInfo} {op? : Option (CameraOp τ)} {left : List ScreenRotation}

/-- A camera is open and known by `info`. -/
structure OpenAs (info : CameraInfo) (m : CameraMachine τ) : Prop where
  agreed : m.camera.Agreed
  opened : m.camera.isAt .initialized = true
  known : m.camera.info = some info

def turns (m : CameraMachine τ) : Turns := m.camera.turns (m.stack.filterMap CameraTask.turn?)

/-- An action that runs records the rotation by which it turns the picture. -/
theorem rotation_ran (c : GatedCamera (Receiver τ)) (action : CameraAction (Receiver τ)) :
    (c.ran action).rotation = action.turn?.getD c.rotation := by
  cases action with
  | linkSurface surface =>
      have same : (c.startPreview surface).2.rotation = c.rotation := by
        simp only [startPreview]
        split <;> rfl
      simp only [ran]
      split
      next c' started =>
        rw [started] at same
        split <;> exact same
      next failed =>
        rw [failed] at same
        exact same
  | applyRotation rotation =>
      simp only [ran, applyRotation]
      split <;> rfl
  | takePicture receiver => rfl

/-- An action that runs turns the picture once, or not at all. -/
theorem OpenAs.accepts_run (h : OpenAs info m) (complete : m.camera.isAt action.stage = true)
    (left : List ScreenRotation) :
    (m.camera.turns left).Accepts info (m.camera.isAt .previewStarted)
      ((m.run action).machine.camera.turns left) action.turn? := by
  obtain ⟨preview, size⟩ := Option.isSome_iff_exists.mp (h.agreed.known h.opened).2
  obtain ⟨outcome, made⟩ := made_run h.agreed h.known size action complete
  have after : (m.run action).machine.camera.turns left =
      { m.camera.turns left with
        recorded := action.turn?.getD m.camera.rotation
        sent := (m.camera.turns left).sent ++
          [⟨action.call info preview, outcome⟩].filter Exchange.turns } := by
    rw [GatedCamera.turns, made.exchanges, List.filter_append, camera_run, queues_ran, rotation_ran]
    rfl
  rw [after]
  cases action with
  | linkSurface | takePicture => exact .aside (Turns.ext rfl rfl rfl (List.append_nil _))
  | applyRotation rotation => exact .served complete rfl

/-- An action that is handed to the gate runs, or it waits for the preview. -/
theorem OpenAs.accepts_offer? (h : OpenAs info m) (offered : m.offer? action = some move)
    (left : List ScreenRotation) :
    (m.camera.turns left).Accepts info (m.camera.isAt .previewStarted)
      (move.machine.camera.turns left) action.turn? := by
  unfold offer? at offered
  split at offered
  · cases offered
  next gate due offered' =>
    obtain rfl := Option.some.inj offered
    cases due with
    | true =>
        obtain ⟨rfl, complete⟩ := Gate.offer?_due_iff.mp offered'
        exact h.accepts_run complete left
    | false =>
        have queued := Gate.queued_of_offer? offered'
        rw [if_neg Bool.false_ne_true]
        have after : (m.withGate gate).camera.turns left = { m.camera.turns left with
            waiting := (gate.pending .previewStarted).filterMap CameraAction.turn? } := rfl
        have incomplete := queued.incomplete
        rw [after, queued.queues]
        cases action with
        | linkSurface surface =>
            -- a surface does not wait when the camera is open
            have complete : m.camera.gate.isComplete .initialized = true := h.opened
            rw [CameraAction.stage, complete] at incomplete
            cases incomplete
        | applyRotation rotation =>
            rw [CameraAction.stage, Function.update_self, List.filterMap_append]
            exact .queued incomplete rfl
        | takePicture receiver =>
            rw [CameraAction.stage, Function.update_self, List.filterMap_append]
            exact .aside (Turns.ext rfl (List.append_nil _) rfl rfl)

/-! ### From one moment to the next -/

theorem unturned_of_onward {tasks : List (CameraTask τ)} (onward : ∀ t ∈ tasks, Onward t) :
    tasks.filterMap CameraTask.turn? = [] :=
  List.filterMap_eq_nil_iff.mpr fun t mem => by cases onward t mem <;> rfl

theorem turns_of_onward {rest : List (CameraTask τ)} (onward : ∀ t ∈ move.work, Onward t) :
    turns { move.machine with stack := move.work ++ rest } =
      move.machine.camera.turns (rest.filterMap CameraTask.turn?) := by
  rw [turns, List.filterMap_append, unturned_of_onward onward]
  rfl

theorem OpenAs.accepts_submit (h : OpenAs info m) (action : CameraAction (Receiver τ))
    (left : List ScreenRotation) :
    (m.camera.turns left).Accepts info (m.camera.isAt .previewStarted)
      ((m.submit action).machine.camera.turns left) action.turn? := by
  obtain ⟨move, offered⟩ := exists_offer? h.agreed action
  simp only [submit, offered]
  exact h.accepts_offer? offered left

theorem OpenAs.accepts_start (h : OpenAs info m) {op : CameraOp τ} (stays : op.closes = false)
    (left : List ScreenRotation) :
    (m.camera.turns left).Accepts info (m.camera.isAt .previewStarted)
      ((m.start op).machine.camera.turns left) op.turn? := by
  cases op with
  | openCamera =>
      obtain ⟨capabilities, same⟩ := openSelected_of_open h.agreed h.opened
      simp only [start, same]
      exact .aside rfl
  | linkSurface surface => exact h.accepts_submit _ left
  | setScreenRotation degrees =>
      simp only [start, CameraOp.turn?]
      split
      next cause unread =>
        rw [unread]
        exact .aside rfl
      next rotation read =>
        rw [read]
        exact h.accepts_submit _ left
  | capture tag body =>
      let asked := { m with tickets := m.tickets + 1 }.log [.requested m.tickets]
      have same : OpenAs info asked := ⟨h.agreed, h.opened, h.known⟩
      exact same.accepts_submit _ left
  | describe => exact .aside rfl
  | release | flip => cases stays

theorem OpenAs.popped (h : OpenAs info m) {gate : Gate CameraStage (CameraAction (Receiver τ))}
    {stage : CameraStage} (popped : Gate.Popped m.camera.gate stage action gate) :
    OpenAs info (m.withGate gate) := by
  refine ⟨h.agreed.withGate popped.stages popped.flags fun stage a mem => ?_,
    (congrFun popped.flags _).trans h.opened, h.known⟩
  exact h.agreed.queues stage a (popped.mem mem)

theorem OpenAs.goes_of_popped (h : OpenAs info m)
    {gate : Gate CameraStage (CameraAction (Receiver τ))}
    (popped : Gate.Popped m.camera.gate action.stage action gate) (left : List ScreenRotation) :
    Turns.Goes info (m.camera.isAt .previewStarted) none (m.camera.turns left)
      (((m.withGate gate).run action).machine.camera.turns left) := by
  have flags : ∀ stage, (m.withGate gate).camera.isAt stage = m.camera.isAt stage :=
    congrFun popped.flags
  have accepts := (h.popped popped).accepts_run ((flags _).trans popped.complete) left
  have before : (m.withGate gate).camera.turns left = { m.camera.turns left with
      waiting := (gate.pending .previewStarted).filterMap CameraAction.turn? } := rfl
  rw [before] at accepts
  have complete := popped.complete
  have head := popped.head
  cases action with
  | linkSurface surface =>
      rw [popped.others .previewStarted (fun same => by cases same)] at accepts
      obtain ⟨after⟩ := accepts
      exact .asked (.aside after)
  | applyRotation rotation =>
      cases accepts with
      | queued still =>
          rw [flags, show m.camera.isAt .previewStarted = true from complete] at still
          cases still
      | served streams after =>
          refine .taken rfl complete ?_ after
          show (m.camera.gate.pending .previewStarted).filterMap _ = _
          rw [CameraAction.stage] at head
          rw [head]
          rfl
  | takePicture receiver =>
      obtain ⟨after⟩ := accepts
      refine .asked (.aside (after.trans (Turns.ext rfl ?_ rfl rfl)))
      show _ = (m.camera.gate.pending .previewStarted).filterMap _
      rw [CameraAction.stage] at head
      rw [head]
      rfl

theorem ne_flip_of_stays {op : CameraOp τ} (stays : op.closes = false) : op ≠ .flip := by
  rintro rfl
  cases stays

theorem Works.turns {task : CameraTask τ} {kept rest : List (CameraTask τ)}
    (h : Works m task op? move kept) (isOpen : OpenAs info m)
    (stays : ∀ op, op? = some op → op.closes = false) (stack : m.stack = task :: rest) :
    Turns.Goes info (m.camera.isAt .previewStarted) (op?.bind CameraOp.turn?) m.turns
      (CameraMachine.turns { move.machine with stack := move.work ++ (kept ++ rest) }) := by
  have before : m.turns = m.camera.turns ((task :: rest).filterMap CameraTask.turn?) := by
    rw [← stack, CameraMachine.turns]
  rw [before]
  cases h with
  | ended | reported | emptied | reselected => exact .asked (.aside rfl)
  | performed origin op ops =>
      rw [turns_of_onward (onward_start m (ne_flip_of_stays (stays op rfl)))]
      exact .asked (isOpen.accepts_start (stays op rfl) (rest.filterMap CameraTask.turn?))
  | taken taken =>
      obtain ⟨rfl, popped⟩ := popped_of_taken isOpen.agreed taken
      obtain ⟨_, _, outcome⟩ := outcome_take taken
      rw [turns_of_onward outcome.onward]
      exact isOpen.goes_of_popped popped (rest.filterMap CameraTask.turn?)
  | @missing action missing =>
      obtain ⟨_, offered⟩ := exists_offer? isOpen.agreed action
      rw [missing] at offered
      cases offered
  | @offered action move offered =>
      obtain ⟨_, _, outcome⟩ := outcome_offer? offered
      have accepts := isOpen.accepts_offer? offered (rest.filterMap CameraTask.turn?)
      rw [turns_of_onward outcome.onward]
      cases turn : action.turn? with
      | none =>
          rw [turn] at accepts
          rw [List.filterMap_cons_none (show CameraTask.turn? (.offer action) = none from turn)]
          exact .asked accepts
      | some rotation =>
          rw [turn] at accepts
          have head : ((.offer action :: rest).filterMap CameraTask.turn? : List ScreenRotation) =
              rotation :: rest.filterMap CameraTask.turn? := List.filterMap_cons_some turn
          rw [head]
          exact .offered rfl rfl accepts

/-- **Turns.**  Between two moments at which the same camera is open, turns go on as they may. -/
theorem Next.turns (h : Next m op? m') (isOpen : OpenAs info m)
    (stays : ∀ op, op? = some op → op.closes = false) :
    Turns.Goes info (m.camera.isAt .previewStarted) (op?.bind CameraOp.turn?) m.turns m'.turns := by
  cases h with
  | enter op idle =>
      have after : (m.enter op).turns =
          (m.start op).machine.camera.turns (m.stack.filterMap CameraTask.turn?) :=
        turns_of_onward (onward_start m (ne_flip_of_stays (stays op rfl)))
      rw [after]
      exact .asked (isOpen.accepts_start (stays op rfl) (m.stack.filterMap CameraTask.turn?))
  | step stepped =>
      obtain ⟨task, op?, move, kept, rest, stack, works, rfl⟩ := step_inv stepped
      rw [works.next?_eq stack] at stays ⊢
      exact works.turns isOpen stays stack

theorem OpenAs.next (h : OpenAs info m) (next : Next m op? m')
    (stays : ∀ op, op? = some op → op.closes = false) : OpenAs info m' := by
  have agreed : m'.camera.Agreed := (Later.now.next next).agreed h.agreed
  rcases (next.acts h.agreed).sameOpen h.agreed with same | ⟨op, rfl, -, rfl | rfl | ⟨rfl, closed⟩⟩
  · exact ⟨agreed, same.initialized.trans h.opened, same.info.trans h.known⟩
  · cases stays _ rfl
  · cases stays _ rfl
  · rw [h.opened] at closed
    cases closed

/-! ### Turns while nobody interferes -/

/-- From `m₀` to `m` no rotation is asked for, and the camera is neither released nor flipped. -/
inductive Untouched (m₀ : CameraMachine τ) : CameraMachine τ → Prop
  | now : Untouched m₀ m₀
  | next {m m' : CameraMachine τ} {op? : Option (CameraOp τ)} (since : Untouched m₀ m)
      (next : Next m op? m') (stays : ∀ op, op? = some op → op.closes = false)
      (unasked : op?.bind CameraOp.turn? = none) : Untouched m₀ m'

/-- What turns keep as they go on is kept as long as nobody interferes. -/
theorem Untouched.keeps {P : Turns → Prop} (h : Untouched m₀ m) (isOpen : OpenAs info m₀)
    (goes : ∀ {streaming t t'}, Turns.Goes info streaming none t t' → P t → P t')
    (holds : P m₀.turns) : OpenAs info m ∧ P m.turns := by
  induction h with
  | now => exact ⟨isOpen, holds⟩
  | @next m m' op? since next stays unasked ih =>
      obtain ⟨still, holds⟩ := ih
      have turns := next.turns still stays
      rw [unasked] at turns
      exact ⟨still.next next stays, goes turns holds⟩

theorem Untouched.steps (h : Untouched m₀ m) (n : Nat)
    (quiet : ∀ k < n, (CameraMachine.steps k m).next?.isNone = true) :
    Untouched m₀ (CameraMachine.steps n m) := by
  induction n generalizing m with
  | zero => exact h
  | succ n ih =>
      cases stepped : m.step with
      | none =>
          rw [steps_of_stuck stepped]
          exact h
      | some m' =>
          have none : m.next? = none := Option.isNone_iff_eq_none.mp (quiet 0 (Nat.succ_pos n))
          rw [steps_succ stepped]
          refine ih (h.next (.step stepped) ?_ ?_) fun k lt => ?_
          · rw [none]
            exact fun _ performed => by cases performed
          · rw [none]
            rfl
          · rw [← steps_succ stepped]
            exact quiet (k + 1) (Nat.succ_lt_succ lt)

/-- With nothing left to do, no turn is under way. -/
theorem Reached.caughtUp (h : Reached m) (idle : m.stack = []) :
    m.turns.CaughtUp (m.camera.isAt .previewStarted) := by
  constructor
  · show m.stack.filterMap CameraTask.turn? = []
    rw [idle]
    rfl
  · intro streams
    show (m.camera.gate.pending .previewStarted).filterMap CameraAction.turn? = []
    rw [h.settled idle streams]
    rfl

end CameraMachine

end CaptureFlow
