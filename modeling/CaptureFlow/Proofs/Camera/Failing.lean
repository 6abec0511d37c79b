import CaptureFlow.Proofs.Camera.Passive
/-! # Operations that fail

Only opening a camera can fail, and a flip because it opens one: an action is accepted by the gate
whatever comes of it (`answer_submit`).  If the listener does nothing, a failure that is answered
has been told to the listener before, once, and nothing has been told since
(`call_openCamera_failed`, `call_flip_failed`). -/

namespace CaptureFlow.CameraMachine

variable {τ : Type} {m : CameraMachine τ} {cause : Failure}

/-! ### Openings -/

theorem fail_of_plan (plan : m.plan = []) (cause : Failure) (ticket : Option Nat) :
    m.fail cause ticket = { machine := m.log [.failed cause ticket] } := by
  simp only [fail, log, plan]

/-- An opening that fails discards what waits and tells the listener why. -/
theorem openSelected_failed (plan : m.plan = []) (failed : m.openSelected.2 = .error cause) :
    ∃ m₁ tickets, m.openSelected.1 = { machine := m₁ } ∧ m₁.stack = m.stack ∧
      m₁.trace = m.trace ++ [.discarded tickets, .failed cause none] := by
  cases known : (if m.camera.isAt .initialized then m.camera.capabilities? else none) with
  | some capabilities =>
      simp only [openSelected, known] at failed
      cases failed
  | none =>
      cases opened : m.camera.openSelected with
      | mk result camera =>
          simp only [openSelected, known, opened] at failed ⊢
          cases result with
          | ok capabilities => cases failed
          | error e =>
              obtain rfl := Except.error.inj failed
              let closed := (m.withCamera { camera with gate := camera.gate.reset }).log
                [.discarded (ticketsOf camera.waiting)]
              refine ⟨closed.log [.failed e none], ticketsOf camera.waiting,
                fail_of_plan (m := closed) plan e none, rfl, ?_⟩
              exact List.append_assoc ..

theorem call_openCamera_failed (plan : m.plan = []) (idle : m.stack = [])
    (failed : (m.call .openCamera).1 = .error cause) :
    ∃ tickets, (m.call .openCamera).2.trace =
      m.trace ++ [.discarded tickets, .failed cause none] := by
  have failed : m.openSelected.2 = .error cause := by
    cases result : m.openSelected.2 with
    | ok capabilities => simp only [call_eq, start, result] at failed; cases failed
    | error e => simp only [call_eq, start, result] at failed; rw [Except.error.inj failed]
  obtain ⟨m₁, tickets, opening, stack, trace⟩ := openSelected_failed plan failed
  refine ⟨tickets, ?_⟩
  rw [call_of_quiet m .openCamera opening idle (stack.trans idle), trace]

/-- A flip that fails has failed to open the other camera. -/
theorem flip_failed (answered : m.flip.answer = .error cause) :
    (m.release.select m.camera.facing.flipped).openSelected.2 = .error cause ∧
      m.flip.machine = (m.release.select m.camera.facing.flipped).openSelected.1.machine := by
  unfold flip at answered ⊢
  split at answered
  next => cases answered
  next opening e opened =>
    simp only [opened]
    exact ⟨congrArg Except.error (Except.error.inj answered), trivial⟩

theorem call_flip_failed (plan : m.plan = []) (idle : m.stack = [])
    (failed : (m.call .flip).1 = .error cause) :
    ∃ released tickets, (m.call .flip).2.trace =
      m.trace ++ [.discarded released, .discarded tickets, .failed cause none] := by
  obtain ⟨opening, same⟩ := flip_failed (m := m) failed
  obtain ⟨m₁, tickets, opened, -, trace⟩ :=
    openSelected_failed (m := m.release.select m.camera.facing.flipped) plan opening
  refine ⟨ticketsOf m.camera.waiting, tickets, ?_⟩
  rw [call_flip_error plan idle failed]
  show m.flip.machine.trace = _
  rw [same, opened, trace]
  exact List.append_assoc ..

/-! ### Actions -/

theorem exists_offer? (agreed : m.camera.Agreed) (action : CameraAction (Receiver τ)) :
    ∃ move, m.offer? action = some move := by
  cases offered : m.offer? action with
  | some move => exact ⟨move, rfl⟩
  | none =>
      exfalso
      unfold offer? at offered
      split at offered
      next missing =>
        apply Gate.offer?_eq_none_iff.mp missing
        rw [agreed.stages]
        cases action.stage <;> decide
      next => cases offered

theorem answer_submit (agreed : m.camera.Agreed) (action : CameraAction (Receiver τ)) :
    (m.submit action).answer = .ok .done := by
  obtain ⟨move, offered⟩ := exists_offer? agreed action
  simp only [submit, offered]

end CaptureFlow.CameraMachine
