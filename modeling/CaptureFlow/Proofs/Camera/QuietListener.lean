import CaptureFlow.Proofs.Camera.Selected
/-! # Listeners that open nothing

A camera is left behind by a flip only if the listener opens one while the flip is under way.  So
if the listener neither opens the camera nor flips it in any of its reactions, none is ever left
behind (`not_leftBehind_of_quiet_listener`): whatever camera is open is the selected one, which is
the other side of `Reached.selects_iff`.  The receivers of pictures may do what they like: none of
them is called while a flip is to go back.

What is at work while a flip is to go back is told by the stack (`Settling`): no camera is open, and
above the task that goes back there are only reactions that open none.  Only a flip that has left
the camera closed puts such a task on the stack (`spawns_start`, `spawns_flip`), and as long as the
camera is closed an operation that does not open it sets nothing off (`start_of_closed`). -/

namespace CaptureFlow

variable {τ : Type}

/-- Whether an operation may open a camera. -/
def CameraOp.opens : CameraOp τ → Bool
  | .openCamera => true
  | .flip => true
  | _ => false

/-- Whether a task opens nothing, whatever state the camera is in. -/
def CameraTask.isQuiet : CameraTask τ → Bool
  | .perform _ ops => ops.all fun op => !op.opens
  | .report .. => true
  | _ => false

namespace CameraMachine

variable {m m' : CameraMachine τ}

/-! ### What moves put on the stack -/

/-- The reactions that are left are among the planned ones, and no flip is to go back. -/
structure Spawns (m : CameraMachine τ) (move : CameraMove τ) : Prop where
  plan : ∀ ops ∈ move.machine.plan, ops ∈ m.plan
  stays : ∀ facing, .reselect facing ∉ move.work

theorem Spawns.of_plan {m₁ : CameraMachine τ} {move : CameraMove τ} (h : Spawns m₁ move)
    (plan : m₁.plan = m.plan) : Spawns m move :=
  ⟨fun ops mem => plan ▸ h.plan ops mem, h.stays⟩

theorem spawns_none (m : CameraMachine τ) : Spawns m { machine := m } :=
  ⟨fun _ mem => mem, fun _ => List.not_mem_nil⟩

theorem spawns_fail (m : CameraMachine τ) (cause : Failure) (ticket : Option Nat) :
    Spawns m (m.fail cause ticket) := by
  cases plan : m.plan with
  | nil => constructor <;> simp [fail, log, plan]
  | cons ops rest =>
      constructor
      · intro ops' mem
        simp only [fail, log, plan] at mem
        exact plan ▸ List.mem_cons_of_mem ops mem
      · simp [fail, log, plan]

theorem Outcome.spawns {camera : GatedCamera (Receiver τ)} {move : CameraMove τ}
    (h : Outcome m camera move) : Spawns m move := by
  cases h with
  | silent work runs =>
      refine ⟨fun _ mem => mem, fun facing mem => ?_⟩
      obtain ⟨_, _, same⟩ := runs _ mem
      cases same
  | delivered receiver frame =>
      refine ⟨fun _ mem => mem, fun facing mem => ?_⟩
      cases List.mem_singleton.mp mem
  | failed cause ticket => exact (spawns_fail (m.withCamera camera) cause ticket).of_plan rfl

theorem spawns_submit (m : CameraMachine τ) (action : CameraAction (Receiver τ)) :
    Spawns m (m.submit action).toCameraMove := by
  obtain ⟨_, _, outcome⟩ := outcome_submit m action
  exact outcome.spawns

theorem spawns_openSelected (m : CameraMachine τ) : Spawns m m.openSelected.1 := by
  unfold openSelected
  split
  · exact spawns_none m
  · split
    next capabilities camera _ =>
      obtain ⟨_, outcome, _⟩ := outcome_reach (m.withCamera camera) .initialized
      exact outcome.of_withCamera.spawns
    next cause camera _ =>
      exact (spawns_fail ((m.withCamera { camera with gate := camera.gate.reset }).log
        [.discarded (ticketsOf camera.waiting)]) _ _).of_plan rfl

/-- Only a flip may have to go back. -/
theorem spawns_start (m : CameraMachine τ) {op : CameraOp τ} (other : op ≠ .flip) :
    Spawns m (m.start op).toCameraMove := by
  cases op with
  | openCamera => exact spawns_openSelected m
  | linkSurface surface => exact spawns_submit m _
  | setScreenRotation degrees =>
      simp only [start]
      split
      · exact spawns_none m
      · exact spawns_submit m _
  | capture tag body =>
      let requested := { m with tickets := m.tickets + 1 }.log [.requested m.tickets]
      have same : requested.plan = m.plan := rfl
      exact (spawns_submit requested (.takePicture ⟨m.tickets, tag, body⟩)).of_plan same
  | release => exact ⟨fun _ mem => mem, fun _ => List.not_mem_nil⟩
  | flip => exact absurd rfl other
  | describe => exact spawns_none m

/-! ### Flips that fail -/

theorem work_fail (m : CameraMachine τ) (cause : Failure) (ticket : Option Nat) :
    ∀ t ∈ (m.fail cause ticket).work, ∃ ops ∈ m.plan, t = .perform .listener ops := by
  cases plan : m.plan with
  | nil => simp [fail, log, plan]
  | cons ops rest => simp [fail, log, plan]

/-- When the selected camera cannot be opened, none is open, and only the listener reacts. -/
theorem not_opened {cause : Failure} (failed : m.openSelected.2 = .error cause) :
    m.openSelected.1.machine.camera.isAt .initialized = false ∧
      ∀ t ∈ m.openSelected.1.work, ∃ ops ∈ m.plan, t = .perform .listener ops := by
  cases known : (if m.camera.isAt .initialized then m.camera.capabilities? else none) with
  | some capabilities =>
      simp only [openSelected, known] at failed
      cases failed
  | none =>
      cases opened : m.camera.openSelected with
      | mk result camera =>
          simp only [openSelected, known, opened] at failed ⊢
          cases result with
          | ok capabilities => cases failed
          | error cause =>
              refine ⟨?_, work_fail _ _ _⟩
              rw [camera_fail]
              exact Gate.isComplete_reset camera.gate .initialized

/-- A flip has to go back only if it has left no camera open. -/
theorem spawns_flip (m : CameraMachine τ) :
    Spawns m m.flip.toCameraMove ∨
      ∃ (reactions : List (CameraTask τ)) (facing : Facing),
        m.flip.work = reactions ++ [.reselect facing] ∧
        m.flip.machine.camera.isAt .initialized = false ∧
        (∀ ops ∈ m.flip.machine.plan, ops ∈ m.plan) ∧
        ∀ t ∈ reactions, ∃ ops ∈ m.plan, t = .perform .listener ops := by
  have spawns := spawns_openSelected (m.release.select m.camera.facing.flipped)
  cases opened : (m.release.select m.camera.facing.flipped).openSelected with
  | mk opening result =>
      rw [opened] at spawns
      simp only [flip, opened]
      cases result with
      | ok capabilities =>
          refine .inl ⟨spawns.plan, fun facing mem => ?_⟩
          rcases List.mem_append.mp mem with mem | mem
          · rcases List.mem_append.mp mem with mem | mem
            · exact spawns.stays facing mem
            · obtain ⟨_, _, same⟩ := List.mem_map.mp mem
              cases same
          · cases List.mem_singleton.mp mem
      | error cause =>
          have failed : (m.release.select m.camera.facing.flipped).openSelected.2 =
              .error cause := by
            rw [opened]
          have closed := not_opened failed
          rw [opened] at closed
          exact .inr ⟨opening.work, _, rfl, closed.1, spawns.plan, closed.2⟩

/-! ### Operations on a closed camera -/

theorem submit_of_incomplete {action : CameraAction (Receiver τ)}
    (incomplete : m.camera.isAt action.stage = false) : (m.submit action).work = [] := by
  cases offered : m.camera.gate.offer? action.stage action with
  | none => simp only [submit, offer?, offered]
  | some result =>
      obtain ⟨gate, due⟩ := result
      cases due with
      | true =>
          have complete : m.camera.isAt action.stage = true := (Gate.offer?_due_iff.mp offered).2
          rw [complete] at incomplete
          cases incomplete
      | false => simp only [submit, offer?, offered, Bool.false_eq_true, if_false]

/-- As long as no camera is open, operations that open none only wait. -/
theorem start_of_closed (agreed : m.camera.Agreed) (closed : m.camera.isAt .initialized = false)
    {op : CameraOp τ} (quiet : op.opens = false) :
    (m.start op).work = [] ∧ (m.start op).machine.camera.isAt .initialized = false := by
  have still : m.camera.isAt .previewStarted = false := agreed.still_of_closed closed
  cases op with
  | openCamera => cases quiet
  | linkSurface surface =>
      exact ⟨submit_of_incomplete closed, (steady_submit m _).initialized.trans closed⟩
  | setScreenRotation degrees =>
      simp only [start]
      split
      · exact ⟨rfl, closed⟩
      · exact ⟨submit_of_incomplete still, (steady_submit m _).initialized.trans closed⟩
  | capture tag body =>
      let requested := { m with tickets := m.tickets + 1 }.log [.requested m.tickets]
      exact ⟨submit_of_incomplete (m := requested) still,
        (steady_submit requested _).initialized.trans closed⟩
  | release => exact ⟨rfl, Gate.isComplete_reset m.camera.gate .initialized⟩
  | flip => cases quiet
  | describe => exact ⟨rfl, closed⟩

/-! ### While a flip is under way -/

/-- The listener opens nothing, and while a flip is to go back, no camera is open and only tasks
that open none come before. -/
structure Settling (m : CameraMachine τ) : Prop where
  planned : ∀ ops ∈ m.plan, ∀ op ∈ ops, op.opens = false
  back : ∀ above facing below, m.stack = above ++ .reselect facing :: below →
    m.camera.isAt .initialized = false ∧ ∀ t ∈ above, t.isQuiet = true

theorem Settling.quiet (h : Settling m) {t : CameraTask τ}
    (reaction : ∃ ops ∈ m.plan, t = .perform .listener ops) : t.isQuiet = true := by
  obtain ⟨ops, mem, rfl⟩ := reaction
  simpa [CameraTask.isQuiet] using h.planned ops mem

theorem split_of_not_mem {α : Type} {xs rest above below : List α} {x : α} (absent : x ∉ xs)
    (split : xs ++ rest = above ++ x :: below) :
    ∃ between, above = xs ++ between ∧ rest = between ++ x :: below := by
  rcases List.append_eq_append_iff.mp split with ⟨between, same, later⟩ | ⟨shared, same, later⟩
  · exact ⟨between, same, later⟩
  · cases shared with
    | nil => exact ⟨[], by rw [same, List.append_nil, List.append_nil], later.symm⟩
    | cons first others =>
        obtain ⟨rfl, _⟩ := List.cons.inj later
        rw [same] at absent
        exact absurd (List.mem_append_right above List.mem_cons_self) absent

theorem Settling.ends (h : Settling m) {t : CameraTask τ} (stack : m.stack = t :: m'.stack)
    (plan : m'.plan = m.plan)
    (initialized : m'.camera.isAt .initialized = m.camera.isAt .initialized) : Settling m' := by
  refine ⟨fun ops mem => h.planned ops (plan ▸ mem), fun above facing below split => ?_⟩
  obtain ⟨closed, quiet⟩ :=
    h.back (t :: above) facing below (by rw [stack, split, List.cons_append])
  exact ⟨initialized.trans closed, fun t' mem => quiet t' (List.mem_cons_of_mem t mem)⟩

/-- Tasks that are not quiet are worked on only when no flip is to go back. -/
theorem Settling.works (h : Settling m) {t : CameraTask τ} {rest : List (CameraTask τ)}
    {move : CameraMove τ} (stack : m.stack = t :: rest) (busy : t.isQuiet = false)
    (spawns : Spawns m move) (left : List (CameraTask τ))
    (stays : ∀ facing, .reselect facing ∉ left) :
    Settling { move.machine with stack := move.work ++ (left ++ rest) } := by
  refine ⟨fun ops mem => h.planned ops (spawns.plan ops mem), fun above facing below split => ?_⟩
  obtain ⟨_, _, split⟩ := split_of_not_mem (spawns.stays facing) split
  obtain ⟨between, _, rfl⟩ := split_of_not_mem (stays facing) split
  have quiet := (h.back (t :: between) facing below stack).2 t List.mem_cons_self
  rw [busy] at quiet
  cases quiet

/-- What a flip sets off comes before `rest`, where no flip is to go back. -/
theorem Settling.flips (h : Settling m) {rest : List (CameraTask τ)}
    (stays : ∀ facing, .reselect facing ∉ rest) :
    Settling { m.flip.machine with stack := m.flip.work ++ rest } := by
  rcases spawns_flip m with spawns | ⟨reactions, previous, work, closed, plan, reacts⟩
  · refine ⟨fun ops mem => h.planned ops (spawns.plan ops mem), fun above facing below split => ?_⟩
    obtain ⟨between, _, rfl⟩ := split_of_not_mem (spawns.stays facing) split
    exact absurd (List.mem_append_right between List.mem_cons_self) (stays facing)
  · refine ⟨fun ops mem => h.planned ops (plan ops mem), fun above facing below split => ?_⟩
    have absent : .reselect facing ∉ reactions := by
      intro mem
      obtain ⟨_, _, same⟩ := reacts _ mem
      cases same
    have ordered :
        reactions ++ (.reselect previous :: rest) = above ++ .reselect facing :: below := by
      rw [← split, work, List.append_assoc, List.singleton_append]
    obtain ⟨between, rfl, goesBack⟩ := split_of_not_mem absent ordered
    cases between with
    | nil =>
        refine ⟨closed, fun t mem => h.quiet (reacts t ?_)⟩
        rwa [List.append_nil] at mem
    | cons first between =>
        obtain ⟨_, rfl⟩ := List.cons.inj goesBack
        exact absurd (List.mem_append_right between List.mem_cons_self) (stays facing)

/-- What an operation sets off comes before `rest`.  While a flip is to go back there, the
operation opens nothing. -/
theorem Settling.starts (h : Settling m) (agreed : m.camera.Agreed) (op : CameraOp τ)
    {rest : List (CameraTask τ)}
    (quiet : ∀ above facing below, rest = above ++ .reselect facing :: below →
      m.camera.isAt .initialized = false ∧ op.opens = false ∧ ∀ t ∈ above, t.isQuiet = true) :
    Settling { (m.start op).machine with stack := (m.start op).work ++ rest } := by
  by_cases flips : op = .flip
  · subst flips
    refine h.flips fun facing mem => ?_
    obtain ⟨above, below, split⟩ := List.append_of_mem mem
    cases (quiet above facing below split).2.1
  · have spawns := spawns_start m flips
    refine ⟨fun ops mem => h.planned ops (spawns.plan ops mem), fun above facing below split => ?_⟩
    obtain ⟨between, rfl, rest⟩ := split_of_not_mem (spawns.stays facing) split
    obtain ⟨closed, still, above⟩ := quiet between facing below rest
    obtain ⟨work, closed'⟩ := start_of_closed agreed closed still
    refine ⟨closed', ?_⟩
    rw [work]
    exact above

theorem Settling.performs (h : Settling m) (agreed : m.camera.Agreed) {origin : CameraOrigin τ}
    {op : CameraOp τ} {ops : List (CameraOp τ)} {rest : List (CameraTask τ)}
    (stack : m.stack = .perform origin (op :: ops) :: rest) :
    Settling { (m.start op).machine with
      stack := (m.start op).work ++
        .report origin op (m.start op).answer :: .perform origin ops :: rest } := by
  refine h.starts agreed op fun above facing below split => ?_
  have absent : CameraTask.reselect facing ∉
      [.report origin op (m.start op).answer, .perform origin ops] := by simp
  have ordered : [.report origin op (m.start op).answer, .perform origin ops] ++ rest =
      above ++ .reselect facing :: below := split
  obtain ⟨between, rfl, rfl⟩ := split_of_not_mem absent ordered
  obtain ⟨closed, above⟩ := h.back (.perform origin (op :: ops) :: between) facing below stack
  have reaction : op.opens = false ∧ ∀ op ∈ ops, op.opens = false := by
    simpa [CameraTask.isQuiet] using above _ List.mem_cons_self
  refine ⟨closed, reaction.1, fun t mem => ?_⟩
  rcases List.mem_append.mp mem with mem | mem
  · rcases List.mem_cons.mp mem with rfl | mem
    · rfl
    · rw [List.mem_singleton.mp mem]
      simpa [CameraTask.isQuiet] using reaction.2
  · exact above t (List.mem_cons_of_mem _ mem)

theorem Settling.step (h : Settling m) (agreed : m.camera.Agreed) (stepped : m.step = some m') :
    Settling m' := by
  obtain ⟨_, _, _, _, rest, stack, works, rfl⟩ := step_inv stepped
  cases works with
  | ended | reported | emptied | missing | reselected => exact h.ends stack rfl rfl
  | performed origin op ops => exact h.performs agreed stack
  | @taken stage cycle _ _ taken =>
      obtain ⟨_, _, outcome⟩ := outcome_take taken
      exact h.works stack rfl outcome.spawns [.dispatch stage cycle] (by simp)
  | offered offered =>
      obtain ⟨_, _, outcome⟩ := outcome_offer? offered
      exact h.works stack rfl outcome.spawns [] (by simp)

/-! ### The selected camera stays the open one -/

theorem Later.reached {m₀ : CameraMachine τ} (h : Later m₀ m) (reached : Reached m₀) :
    Reached m := by
  induction h with
  | now => exact reached
  | enter op _ idle ih => exact ih.enter op idle
  | step _ stepped ih => exact ih.step stepped

/-- What every move keeps, with the trace growing as the move tells, stays from `m₀` on. -/
theorem Later.keeps {P : GatedCamera (Receiver τ) → List (CameraEvent τ) → Prop}
    {m₀ : CameraMachine τ} (h : Later m₀ m) (reached : Reached m₀)
    (moved : ∀ c c' trace events, c.Agreed → c.Moved c' events → P c trace → P c' (trace ++ events))
    (holds : P m₀.camera m₀.trace) : P m.camera m.trace := by
  induction h with
  | now => exact holds
  | enter op since _ ih =>
      have agreed := (since.reached reached).agreed
      exact ((follows_start _ op agreed).1.congr rfl rfl).keeps moved agreed ih
  | step since stepped ih =>
      have agreed := (since.reached reached).agreed
      exact (follows_step stepped agreed).keeps moved agreed ih

theorem Later.settling {m₀ : CameraMachine τ} (h : Later m₀ m) (reached : Reached m₀)
    (settling : Settling m₀) : Settling m := by
  induction h with
  | now => exact settling
  | enter op since idle ih =>
      refine ih.starts (since.reached reached).agreed op fun above facing below split => ?_
      rw [idle] at split
      exact absurd split.symm (List.append_ne_nil_of_right_ne_nil above (List.cons_ne_nil _ _))
  | step since stepped ih => exact ih.step (since.reached reached).agreed stepped

/-- As long as flips go back only when no camera is open, an open camera is the selected one. -/
theorem Later.selects {m₀ : CameraMachine τ} (h : Later m₀ m) (reached : Reached m₀)
    (settling : Settling m₀) (selects : m₀.camera.Selects) : m.camera.Selects := by
  induction h with
  | now => exact selects
  | @enter m op since idle ih =>
      rcases selection_start m op (since.reached reached).agreed with steady | selected
      · exact ih.stays steady
      · exact selected
  | step since stepped ih =>
      rcases selection_step stepped (since.reached reached).agreed with
        steady | selected | ⟨facing, rest, stack, camera⟩
      · exact ih.stays steady
      · exact selected
      · apply GatedCamera.selects_of_closed
        rw [camera]
        exact ((since.settling reached settling).back [] facing rest stack).1

/-- **Quiet listeners.**  If the listener neither opens the camera nor flips it, no moment of a run
has a camera that was left behind, whatever the device refuses and the receivers of pictures do. -/
theorem not_leftBehind_of_quiet_listener {spec : DeviceSpec} {refusals : DeviceRefusals}
    {reportedFacing : Option Facing} {facing : Facing} {plan : List (List (CameraOp τ))}
    (quiet : ∀ ops ∈ plan, ∀ op ∈ ops, op.opens = false)
    (later : Later (ofDevice { spec, refusals, reportedFacing } facing plan) m) :
    ¬LeftBehind m := by
  have fresh : Reached (ofDevice { spec, refusals, reportedFacing } facing plan) := .fresh ..
  have settling : Settling (ofDevice { spec, refusals, reportedFacing } facing plan) := by
    refine ⟨quiet, fun above facing below split => ?_⟩
    exact absurd split.symm (List.append_ne_nil_of_right_ne_nil above (List.cons_ne_nil _ _))
  rw [← (later.reached fresh).selects_iff]
  exact later.selects fresh settling fun opened => by cases opened

end CameraMachine

end CaptureFlow
