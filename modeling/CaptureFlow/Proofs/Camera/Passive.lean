import CaptureFlow.Proofs.Camera.Requests
/-! # Cameras to which nobody reacts

If neither the listener nor any receiver of a picture operates the camera from there (`Passive`),
then what an operation sets off leaves the selection and the open camera as the first moves of the
operation have left them (`Passive.finish`).  So the selection changes by a flip only, and whatever
camera is open is the selected one: a flip that fails goes back at once, with no camera open
(`Passive.call`, `Passive.call_flip`). -/

namespace CaptureFlow

variable {τ : Type}

/-- Whether a task performs no operation and leaves the selection alone. -/
def CameraTask.isPassive : CameraTask τ → Bool
  | .perform _ ops => ops.isEmpty
  | .offer action => action.receiver?.isNone
  | .reselect _ => false
  | .report .. => true
  | .dispatch .. => true

/-- Whether nobody reacts to an operation. -/
def CameraOp.isPassive : CameraOp τ → Bool
  | .capture _ body => body.isEmpty
  | _ => true

namespace CameraMachine

variable {m m' : CameraMachine τ} {move : CameraMove τ} {op : CameraOp τ}

/-- The listener does nothing, and neither do the receivers who wait. -/
structure Passive (m : CameraMachine τ) : Prop where
  plan : m.plan = []
  bodies : ∀ r ∈ m.receivers, r.body = []

/-- Nobody reacts within these tasks. -/
def Calm (tasks : List (CameraTask τ)) : Prop := ∀ t ∈ tasks, t.isPassive = true

theorem calm_nil : Calm ([] : List (CameraTask τ)) := fun _ mem => absurd mem List.not_mem_nil

theorem Calm.append {tasks rest : List (CameraTask τ)} (h : Calm tasks) (h' : Calm rest) :
    Calm (tasks ++ rest) := fun t mem => (List.mem_append.mp mem).elim (h t) (h' t)

/-! ### The work of a move -/

theorem calm_fail (plan : m.plan = []) (cause : Failure) (ticket : Option Nat) :
    Calm (m.fail cause ticket).work := by
  intro t mem
  obtain ⟨ops, planned, _⟩ := work_fail m cause ticket t mem
  rw [plan] at planned
  cases planned

theorem calm_reach (plan : m.plan = []) (stage : CameraStage) : Calm (m.reach stage).work := by
  unfold reach
  split
  · exact calm_fail plan _ none
  next gate first _ =>
    cases first with
    | true =>
        intro t mem
        rw [List.mem_singleton.mp mem]
        rfl
    | false => exact calm_nil

theorem calm_run (plan : m.plan = []) (action : CameraAction (Receiver τ))
    (bodies : ∀ r, action.receiver? = some r → r.body = []) : Calm (m.run action).work := by
  cases action with
  | linkSurface surface =>
      simp only [run]
      split
      next camera _ => exact calm_reach (m := m.withCamera camera) plan _
      next cause camera _ => exact calm_fail (m := m.withCamera camera) plan cause none
  | applyRotation rotation =>
      simp only [run]
      split
      · exact calm_nil
      next cause camera _ => exact calm_fail (m := m.withCamera camera) plan cause none
  | takePicture r =>
      simp only [run]
      split
      · intro t mem
        rw [List.mem_singleton.mp mem, bodies r rfl]
        rfl
      next cause camera _ => exact calm_fail (m := m.withCamera camera) plan cause _

theorem calm_offer? (plan : m.plan = []) {action : CameraAction (Receiver τ)}
    (h : m.offer? action = some move) (bodies : ∀ r, action.receiver? = some r → r.body = []) :
    Calm move.work := by
  unfold offer? at h
  split at h
  · cases h
  next gate due _ =>
    obtain rfl := Option.some.inj h
    cases due with
    | true => exact calm_run (m := m.withGate gate) plan action bodies
    | false => exact calm_nil

theorem calm_submit (plan : m.plan = []) (action : CameraAction (Receiver τ))
    (bodies : ∀ r, action.receiver? = some r → r.body = []) : Calm (m.submit action).work := by
  cases offered : m.offer? action with
  | none =>
      simp only [submit, offered]
      exact calm_nil
  | some move =>
      simp only [submit, offered]
      exact calm_offer? plan offered bodies

theorem calm_openSelected (plan : m.plan = []) : Calm m.openSelected.1.work := by
  unfold openSelected
  split
  · exact calm_nil
  · split
    next camera _ => exact calm_reach (m := m.withCamera camera) plan _
    next cause camera _ =>
      let closed := (m.withCamera { camera with gate := camera.gate.reset }).log
        [.discarded (ticketsOf camera.waiting)]
      exact calm_fail (m := closed) plan cause none

/-- An operation that is passive itself puts passive tasks on the stack, unless it is a flip. -/
theorem calm_start (plan : m.plan = []) (passive : op.isPassive = true) (other : op ≠ .flip) :
    Calm (m.start op).work := by
  cases op with
  | openCamera => exact calm_openSelected plan
  | linkSurface surface => exact calm_submit plan _ fun r same => by cases same
  | setScreenRotation degrees =>
      simp only [start]
      split
      · exact calm_nil
      · exact calm_submit plan _ fun r same => by cases same
  | capture tag body =>
      let requested := { m with tickets := m.tickets + 1 }.log [.requested m.tickets]
      refine calm_submit (m := requested) plan _ fun r same => ?_
      obtain rfl := Option.some.inj same
      exact List.isEmpty_iff.mp passive
  | release => exact calm_nil
  | flip => exact absurd rfl other
  | describe => exact calm_nil

/-! ### Steps -/

theorem plan_of_subset (plan : m.plan = []) (kept : ∀ ops ∈ m'.plan, ops ∈ m.plan) :
    m'.plan = [] := by
  rw [plan] at kept
  exact List.eq_nil_iff_forall_not_mem.mpr fun ops mem => List.not_mem_nil (kept ops mem)

theorem plan_start (plan : m.plan = []) (op : CameraOp τ) : (m.start op).machine.plan = [] := by
  refine plan_of_subset plan ?_
  by_cases flips : op = .flip
  · subst flips
    rcases spawns_flip m with spawns | ⟨_, _, _, _, kept, _⟩
    · exact spawns.plan
    · exact kept
  · exact (spawns_start m flips).plan

/-- Receivers who do something come from operations alone. -/
theorem Handles.bodies {op? : Option (CameraOp τ)} {work : List (CameraTask τ)}
    (h : Handles m m' op? work) (bodies : ∀ r ∈ m.receivers, r.body = [])
    (passive : ∀ op, op? = some op → op.isPassive = true) : ∀ r ∈ m'.receivers, r.body = [] := by
  intro r waits
  cases h with
  | aside aside => exact bodies r (aside.receivers ▸ waits)
  | queued op _ receivers =>
      rw [receivers] at waits
      rcases List.mem_append.mp waits with waits | waits
      · exact bodies r waits
      · obtain rfl := List.mem_singleton.mp waits
        exact List.isEmpty_iff.mp (passive _ op)
  | served _ _ receivers => exact bodies r (receivers ▸ waits)
  | taken _ receivers => exact bodies r (receivers ▸ List.mem_cons_of_mem _ waits)
  | cleared _ _ clears =>
      obtain ⟨_, receivers, _, _, aside⟩ := clears
      rw [aside.receivers, receivers] at waits
      cases waits

/-- A passive task leaves all passive, and the selection and the open camera as they are. -/
theorem Works.passive {task : CameraTask τ} {op? : Option (CameraOp τ)}
    {kept : List (CameraTask τ)} (h : Works m task op? move kept) (passive : Passive m)
    (agreed : m.camera.Agreed) (calm : task.isPassive = true) :
    Passive move.machine ∧ Calm (move.work ++ kept) ∧
      GatedCamera.Steady m.camera move.machine.camera := by
  have same : Passive m ∧ Calm ([] : List (CameraTask τ)) ∧
      GatedCamera.Steady m.camera m.camera :=
    ⟨passive, calm_nil, .refl _⟩
  cases h with
  | ended | emptied | missing => exact same
  | performed origin op ops => cases calm
  | reported => exact ⟨⟨passive.plan, passive.bodies⟩, same.2⟩
  | @taken _ _ action gate taken =>
      obtain ⟨rfl, popped⟩ := popped_of_taken agreed taken
      obtain ⟨camera, steady, outcome⟩ := outcome_take taken
      rw [← outcome.camera_eq] at steady
      have bodies : ∀ r, action.receiver? = some r → r.body = [] := by
        intro r same
        apply passive.bodies
        rw [receivers_popped popped, same]
        exact List.mem_cons_self
      refine ⟨⟨plan_of_subset passive.plan outcome.spawns.plan, ?_⟩, ?_, steady⟩
      · exact (handles_taken agreed taken).bodies passive.bodies fun op none => by cases none
      · refine (calm_run (m := m.withGate gate) passive.plan action bodies).append ?_
        intro t mem
        rw [List.mem_singleton.mp mem]
        rfl
  | @offered action _ offered =>
      have other : action.receiver? = none := Option.isNone_iff_eq_none.mp calm
      obtain ⟨camera, steady, outcome⟩ := outcome_offer? offered
      rw [← outcome.camera_eq] at steady
      refine ⟨⟨plan_of_subset passive.plan outcome.spawns.plan, ?_⟩, ?_, steady⟩
      · rw [(aside_offer? offered other).receivers]
        exact passive.bodies
      · refine (calm_offer? passive.plan offered fun r same => ?_).append calm_nil
        rw [other] at same
        cases same
  | reselected => cases calm

/-- What is passive stays so to the end, and leaves the selection and the open camera as
they are. -/
theorem Passive.finish (h : Passive m) (calm : Calm m.stack) (agreed : m.camera.Agreed) :
    Passive m.finish ∧ GatedCamera.Steady m.camera m.finish.camera := by
  have kept := (finish_induction (P := fun m' => Passive m' ∧ Calm m'.stack ∧ m'.camera.Agreed ∧
    GatedCamera.Steady m.camera m'.camera) ⟨h, calm, agreed, .refl _⟩ ?_).1
  · exact ⟨kept.1, kept.2.2.2⟩
  · rintro m₁ m₂ stepped ⟨passive, calm, agreed, steady⟩
    have after := (follows_step stepped agreed).agreed agreed
    obtain ⟨task, _, move, kept, rest, stack, works, rfl⟩ := step_inv stepped
    rw [stack] at calm
    obtain ⟨passive', work, steady'⟩ := works.passive passive agreed (calm _ List.mem_cons_self)
    refine ⟨⟨passive'.plan, passive'.bodies⟩, ?_, after, steady.trans steady'⟩
    rw [← List.append_assoc]
    exact work.append fun t mem => calm t (List.mem_cons_of_mem _ mem)

/-! ### Operations -/

/-- Whatever happens to a camera to which nobody reacts leaves it so, with nothing left to do, and
with the selected camera open if any is. -/
structure Rests (m : CameraMachine τ) : Prop extends Passive m where
  agreed : m.camera.Agreed
  idle : m.stack = []
  selects : m.camera.Selects

theorem facing_openSelected (c : GatedCamera (Receiver τ)) :
    c.openSelected.2.facing = c.facing := by
  unfold GatedCamera.openSelected
  split
  · rfl
  · split
    · rfl
    · split <;> rfl

theorem facing_opening (m : CameraMachine τ) :
    m.openSelected.1.machine.camera.facing = m.camera.facing := by
  unfold openSelected
  split
  · rfl
  · have kept := facing_openSelected m.camera
    split
    next capabilities camera opened =>
      rw [opened] at kept
      obtain ⟨gate, outcome, _⟩ := outcome_reach (m.withCamera camera) .initialized
      rw [outcome.camera_eq]
      exact kept
    next cause camera failed =>
      rw [failed] at kept
      rw [camera_fail]
      exact kept

theorem facing_start (m : CameraMachine τ) (other : op ≠ .flip) :
    (m.start op).machine.camera.facing = m.camera.facing := by
  cases op with
  | openCamera => exact facing_opening m
  | linkSurface surface => exact (steady_submit m _).facing
  | setScreenRotation degrees =>
      simp only [start]
      split
      · rfl
      · exact (steady_submit m _).facing
  | capture tag body =>
      let requested := { m with tickets := m.tickets + 1 }.log [.requested m.tickets]
      exact (steady_submit requested _).facing
  | release => rfl
  | flip => exact absurd rfl other
  | describe => rfl

theorem passive_start (h : Passive m) (agreed : m.camera.Agreed) (op : CameraOp τ)
    (passive : op.isPassive = true) : Passive (m.start op).machine := by
  refine ⟨plan_start h.plan op, (handles_start m agreed op).bodies h.bodies fun op' same => ?_⟩
  rw [← Option.some.inj same]
  exact passive

theorem Rests.call (h : Rests m) (passive : op.isPassive = true) (other : op ≠ .flip) :
    Rests (m.call op).2 ∧ (m.call op).2.camera.facing = m.camera.facing := by
  obtain ⟨follows, idle⟩ := follows_call m op h.agreed
  have started := passive_start h.toPassive h.agreed op passive
  have calm : Calm (m.enter op).stack := by
    refine (calm_start h.plan passive other).append ?_
    rw [h.idle]
    exact calm_nil
  have agreed : (m.enter op).camera.Agreed := (follows_start m op h.agreed).1.agreed h.agreed
  obtain ⟨finished, steady⟩ :=
    Passive.finish (m := m.enter op) ⟨started.plan, started.bodies⟩ calm agreed
  have selects : (m.start op).machine.camera.Selects := by
    rcases selection_start m op h.agreed with same | selects
    · exact h.selects.stays same
    · exact selects
  exact ⟨⟨finished, follows.agreed h.agreed, idle, selects.stays steady⟩,
    steady.facing.trans (facing_start m other)⟩

/-- A flip that opens the other camera puts passive tasks on the stack. -/
theorem flip_ok (plan : m.plan = []) {reply : CameraReply} (answered : m.flip.answer = .ok reply) :
    (∃ c, reply = .flipped m.camera.facing.flipped c) ∧ Calm m.flip.work ∧
      m.flip.machine.camera.facing = m.camera.facing.flipped := by
  have opens := calm_openSelected (m := m.release.select m.camera.facing.flipped) plan
  have facing := facing_opening (m.release.select m.camera.facing.flipped)
  unfold flip at answered ⊢
  split at answered
  next opening c opened =>
    rw [opened] at opens facing
    refine ⟨⟨c, (Except.ok.inj answered).symm⟩, (opens.append fun t mem => ?_).append ?_, facing⟩
    · obtain ⟨_, _, rfl⟩ := List.mem_map.mp mem
      rfl
    · intro t mem
      rw [List.mem_singleton.mp mem]
      rfl
  next opening e failed => cases answered

/-- A flip that cannot open the other camera leaves none open, and only has to go back. -/
theorem flip_error (plan : m.plan = []) {cause : Failure}
    (answered : m.flip.answer = .error cause) :
    m.flip.work = [.reselect m.camera.facing] ∧
      m.flip.machine.camera.isAt .initialized = false := by
  unfold flip at answered ⊢
  split at answered
  next opening c opened => cases answered
  next opening e failed =>
    have shut := not_opened (m := m.release.select m.camera.facing.flipped)
      (congrArg Prod.snd failed)
    rw [failed] at shut
    have nothing : opening.work = [] := by
      refine List.eq_nil_iff_forall_not_mem.mpr fun t mem => ?_
      obtain ⟨ops, planned, _⟩ := shut.2 t mem
      rw [show (m.release.select m.camera.facing.flipped).plan = [] from plan] at planned
      cases planned
    simp only [nothing]
    exact ⟨rfl, shut.1⟩

theorem call_flip_error (plan : m.plan = []) (idle : m.stack = []) {cause : Failure}
    (answered : m.flip.answer = .error cause) :
    (m.call .flip).2 = { m.flip.machine.select m.camera.facing with stack := [] } := by
  have stack : (m.enter .flip).stack = [.reselect m.camera.facing] := by
    rw [enter, show (m.start .flip).work = _ from (flip_error plan answered).1, idle]
    rfl
  rw [call_eq]
  refine (finish_of_step ?_).trans (finish_of_idle rfl)
  simp only [step, stack]
  rfl

/-- A flip that succeeds selects the other camera; one that fails leaves the selection as it is. -/
theorem Rests.call_flip (h : Rests m) : Rests (m.call .flip).2 ∧
    ((∃ c, (m.call .flip).1 = .ok (.flipped m.camera.facing.flipped c) ∧
      (m.call .flip).2.camera.facing = m.camera.facing.flipped) ∨
    ∃ cause, (m.call .flip).1 = .error cause ∧
      (m.call .flip).2.camera.facing = m.camera.facing) := by
  obtain ⟨follows, idle⟩ := follows_call m .flip h.agreed
  have started := passive_start h.toPassive h.agreed .flip rfl
  have agreed : (m.enter .flip).camera.Agreed := (follows_start m .flip h.agreed).1.agreed h.agreed
  cases answered : m.flip.answer with
  | ok reply =>
      obtain ⟨⟨c, rfl⟩, calm, facing⟩ := flip_ok h.plan answered
      have selects : m.flip.machine.camera.Selects := selects_flip m h.agreed
      have calm : Calm (m.enter .flip).stack := by
        refine calm.append ?_
        rw [h.idle]
        exact calm_nil
      obtain ⟨finished, steady⟩ :=
        Passive.finish (m := m.enter .flip) ⟨started.plan, started.bodies⟩ calm agreed
      exact ⟨⟨finished, follows.agreed h.agreed, idle, selects.stays steady⟩,
        .inl ⟨c, answered, steady.facing.trans facing⟩⟩
  | error cause =>
      have closed := (flip_error h.plan answered).2
      have last := call_flip_error h.plan h.idle answered
      refine ⟨⟨⟨?_, ?_⟩, follows.agreed h.agreed, idle, ?_⟩, .inr ⟨cause, answered, ?_⟩⟩
      · rw [last]
        exact started.plan
      · rw [last]
        exact started.bodies
      · rw [last]
        exact GatedCamera.selects_of_closed closed
      · rw [last]
        rfl

end CameraMachine

end CaptureFlow
