import CaptureFlow.Proofs.Camera.Outcome
/-! # Nothing is left behind a complete stage

What waits on a stage waits until the run of its queue comes to it, and that run is put on the stack
when the stage is completed.  `Covered m` says that a complete stage with a queue has its run on the
stack, one of the current cycle; no later run would take anything, and none would be started.

`Covers g move` says so of a move from the gate `g`: what it leaves waiting on a complete stage is
covered by the work of the move, or it has waited there before.  Each part of an operation covers
what it leaves, and a run leaves the stack only with its queue empty (`Works.keeps_dispatch`), so
that all is covered at every moment (`Reached.covered`). -/

namespace CaptureFlow.CameraMachine

variable {τ : Type} {m m' : CameraMachine τ} {move : CameraMove τ}
  {g g' : Gate CameraStage (CameraAction (Receiver τ))}

/-- What waits on a complete stage has its run on the stack. -/
def Covered (m : CameraMachine τ) : Prop :=
  ∀ stage, m.camera.isAt stage = true → m.camera.gate.pending stage ≠ [] →
    .dispatch stage m.camera.gate.cycle ∈ m.stack

/-- What a move from the gate `g` leaves waiting on a complete stage has its run in the work of the
move, or has waited there before. -/
def Covers (g : Gate CameraStage (CameraAction (Receiver τ))) (move : CameraMove τ) : Prop :=
  ∀ stage, move.machine.camera.isAt stage = true → move.machine.camera.gate.pending stage ≠ [] →
    .dispatch stage move.machine.camera.gate.cycle ∈ move.work ∨
      g.isComplete stage = true ∧ g.pending stage ≠ [] ∧
        move.machine.camera.gate.cycle = g.cycle

/-! ### Parts of a move -/

theorem covers_of_eq (gate : move.machine.camera.gate = g) : Covers g move := by
  subst gate
  exact fun stage complete waits => .inr ⟨complete, waits, rfl⟩

theorem covers_of_reset (g' : Gate CameraStage (CameraAction (Receiver τ)))
    (gate : move.machine.camera.gate = g'.reset) : Covers g move := by
  intro stage complete
  rw [GatedCamera.isAt, gate, Gate.isComplete_reset] at complete
  cases complete

theorem Covers.of_reset (h : Covers g'.reset move) : Covers g move := by
  intro stage complete waits
  rcases h stage complete waits with run | ⟨before, _⟩
  · exact .inl run
  · rw [Gate.isComplete_reset] at before
    cases before

theorem Covers.of_popped (h : Covers g' move) {stage : CameraStage}
    {action : CameraAction (Receiver τ)} (popped : Gate.Popped g stage action g') :
    Covers g move := by
  intro s complete waits
  rcases h s complete waits with run | ⟨before, waited, cycle⟩
  · exact .inl run
  · refine .inr ⟨popped.flags ▸ before, fun empty => ?_, cycle.trans popped.cycle⟩
    obtain ⟨a, mem⟩ := List.exists_mem_of_ne_nil _ waited
    have earlier := popped.mem mem
    rw [empty] at earlier
    cases earlier

theorem Covers.more (h : Covers g move) (rest : List (CameraTask τ)) :
    Covers g { move with work := move.work ++ rest } := by
  intro stage complete waits
  rcases h stage complete waits with run | before
  · exact .inl (List.mem_append_left rest run)
  · exact .inr before

theorem covers_fail (m : CameraMachine τ) (cause : Failure) (ticket : Option Nat) :
    Covers m.camera.gate (m.fail cause ticket) := by
  refine covers_of_eq ?_
  rw [camera_fail]

/-- A stage that is completed has its queue run. -/
theorem covers_reach (m : CameraMachine τ) (stage : CameraStage) :
    Covers m.camera.gate (m.reach stage) := by
  cases completed : m.camera.gate.complete? stage with
  | none =>
      simp only [reach, completed]
      exact covers_fail m _ none
  | some result =>
      obtain ⟨gate, first⟩ := result
      simp only [reach, completed]
      cases first with
      | false => exact covers_of_eq (Gate.complete?_again_iff.mp completed).1
      | true =>
          have marked := Gate.marked_of_complete? completed
          intro s complete waits
          by_cases here : s = stage
          · left
            rw [here]
            show CameraTask.dispatch stage gate.cycle ∈ [CameraTask.dispatch stage _]
            rw [marked.cycle]
            exact List.mem_singleton_self _
          · refine .inr ⟨?_, marked.queues ▸ waits, marked.cycle⟩
            have flag : gate.isComplete s = true := complete
            rwa [marked.flags, Function.update_of_ne here] at flag

theorem covers_run (m : CameraMachine τ) (action : CameraAction (Receiver τ)) :
    Covers m.camera.gate (m.run action) := by
  cases action with
  | linkSurface surface =>
      have gate := gate_startPreview m.camera surface
      cases started : m.camera.startPreview surface with
      | mk result camera =>
          rw [started] at gate
          simp only [run, started]
          rw [← gate]
          cases result with
          | ok _ => exact covers_reach (m.withCamera camera) _
          | error cause => exact covers_fail (m.withCamera camera) cause none
  | applyRotation rotation =>
      have gate := gate_applyRotation m.camera rotation
      cases applied : m.camera.applyRotation rotation with
      | mk result camera =>
          rw [applied] at gate
          simp only [run, applied]
          rw [← gate]
          cases result with
          | ok _ => exact covers_of_eq rfl
          | error cause => exact covers_fail (m.withCamera camera) cause none
  | takePicture receiver =>
      have gate := gate_takePicture m.camera
      cases taken : m.camera.takePicture with
      | mk result camera =>
          rw [taken] at gate
          simp only [run, taken]
          rw [← gate]
          cases result with
          | ok frame => exact covers_of_eq rfl
          | error cause => exact covers_fail (m.withCamera camera) cause _

theorem covers_offer? {action : CameraAction (Receiver τ)} (h : m.offer? action = some move) :
    Covers m.camera.gate move := by
  unfold offer? at h
  split at h
  · cases h
  next gate due offered =>
    obtain rfl := Option.some.inj h
    cases due with
    | true =>
        obtain ⟨rfl, _⟩ := Gate.offer?_due_iff.mp offered
        exact covers_run (m.withGate m.camera.gate) action
    | false =>
        have queued := Gate.queued_of_offer? offered
        intro s complete waits
        have flag : gate.isComplete s = true := complete
        have queue : gate.pending s ≠ [] := waits
        rw [queued.flags] at flag
        have other : s ≠ action.stage := by
          rintro rfl
          rw [queued.incomplete] at flag
          cases flag
        rw [queued.queues, Function.update_of_ne other] at queue
        exact .inr ⟨flag, queue, queued.cycle⟩

theorem covers_submit (m : CameraMachine τ) (action : CameraAction (Receiver τ)) :
    Covers m.camera.gate (m.submit action).toCameraMove := by
  cases offered : m.offer? action with
  | none =>
      simp only [submit, offered]
      exact covers_of_eq rfl
  | some move =>
      simp only [submit, offered]
      exact covers_offer? offered

/-! ### Operations -/

theorem covers_openSelected (m : CameraMachine τ) : Covers m.camera.gate m.openSelected.1 := by
  unfold openSelected
  split
  · exact covers_of_eq rfl
  · have gate := gate_openSelected m.camera
    split
    next capabilities camera opened =>
      rw [opened] at gate
      rw [← gate]
      exact covers_reach (m.withCamera camera) _
    next cause camera failed =>
      refine covers_of_reset camera.gate ?_
      rw [camera_fail]
      rfl

theorem covers_flip (m : CameraMachine τ) : Covers m.camera.gate m.flip.toCameraMove := by
  have opens : Covers m.camera.gate (m.release.select m.camera.facing.flipped).openSelected.1 :=
    (covers_openSelected (m.release.select m.camera.facing.flipped)).of_reset
  unfold flip
  split
  next opened =>
    rw [opened] at opens
    exact (opens.more _).more _
  next failed =>
    rw [failed] at opens
    exact opens.more _

theorem covers_start (m : CameraMachine τ) (op : CameraOp τ) :
    Covers m.camera.gate (m.start op).toCameraMove := by
  cases op with
  | openCamera => exact covers_openSelected m
  | linkSurface surface => exact covers_submit m _
  | setScreenRotation degrees =>
      simp only [start]
      split
      · exact covers_of_eq rfl
      · exact covers_submit m _
  | capture tag body =>
      let requested := { m with tickets := m.tickets + 1 }.log [.requested m.tickets]
      have covers := covers_submit requested (.takePicture ⟨m.tickets, tag, body⟩)
      have same : requested.camera.gate = m.camera.gate := rfl
      rw [same] at covers
      exact covers
  | release => exact covers_of_reset m.camera.gate rfl
  | flip => exact covers_flip m
  | describe => exact covers_of_eq rfl

/-! ### Steps -/

theorem Works.covers {task : CameraTask τ} {op? : Option (CameraOp τ)}
    {kept : List (CameraTask τ)} (h : Works m task op? move kept) : Covers m.camera.gate move := by
  cases h with
  | ended | reported | emptied | missing | reselected => exact covers_of_eq rfl
  | performed origin op ops => exact covers_start m op
  | @taken _ _ action gate taken =>
      exact (covers_run (m.withGate gate) action).of_popped (Gate.popped_of_take? taken)
  | offered offered => exact covers_offer? offered

/-- A run stays on the stack as long as its queue has something to run. -/
theorem Works.keeps_dispatch {stage : CameraStage} {op? : Option (CameraOp τ)}
    {kept : List (CameraTask τ)}
    (h : Works m (.dispatch stage m.camera.gate.cycle) op? move kept)
    (complete : m.camera.isAt stage = true) (waits : m.camera.gate.pending stage ≠ []) :
    .dispatch stage m.camera.gate.cycle ∈ kept := by
  cases h with
  | emptied nothing => exact absurd (Gate.take?_eq_none nothing rfl complete) waits
  | taken => exact List.mem_singleton_self _

theorem Covered.step (h : Covered m) (stepped : m.step = some m') : Covered m' := by
  obtain ⟨task, _, move, kept, rest, stack, works, rfl⟩ := step_inv stepped
  intro stage complete waits
  rcases works.covers stage complete waits with run | ⟨before, waited, cycle⟩
  · exact List.mem_append_left _ run
  · refine List.mem_append_right _ ?_
    show CameraTask.dispatch stage move.machine.camera.gate.cycle ∈ kept ++ rest
    rw [cycle]
    have covered := h stage before waited
    rw [stack] at covered
    rcases List.mem_cons.mp covered with rfl | mem
    · exact List.mem_append_left _ (works.keeps_dispatch before waited)
    · exact List.mem_append_right _ mem

theorem Reached.covered (h : Reached m) : Covered m := by
  induction h with
  | fresh => intro stage complete; cases stage <;> cases complete
  | @enter m op _ _ ih =>
      intro stage complete waits
      rcases covers_start m op stage complete waits with run | ⟨before, waited, cycle⟩
      · exact List.mem_append_left _ run
      · refine List.mem_append_right _ ?_
        show CameraTask.dispatch stage (m.start op).machine.camera.gate.cycle ∈ m.stack
        rw [cycle]
        exact ih stage before waited
  | step _ stepped ih => exact ih.step stepped

/-- When nothing is left to do, nothing waits on a complete stage. -/
theorem Reached.settled (h : Reached m) (idle : m.stack = []) {stage : CameraStage}
    (complete : m.camera.isAt stage = true) : m.camera.gate.pending stage = [] := by
  by_contra waits
  have run := h.covered stage complete waits
  rw [idle] at run
  cases run

end CaptureFlow.CameraMachine
