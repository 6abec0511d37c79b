import CaptureFlow.Proofs.Camera.Passive
import CaptureFlow.Proofs.Preference.Preferred
import CaptureFlow.Proofs.Session.Run
import CaptureFlow.Script.Replay
/-! # The preferred camera is the selected one

A session selects the camera that its store names when it is made.  It remembers a camera only after
a flip that has selected it, and a flip that fails goes back; so the store names the selected camera
after every operation of the host, and any session made from that store later starts on it
(`preferred_is_selected`).

This needs a store that accepts what is set, and a host that leaves the inner camera to the session:
then nobody reacts to pictures or failures, and the selection and the store change together
(`Prefers.perform`). -/

namespace CaptureFlow

/-- Whether an operation leaves the inner camera to the session. -/
def SessionOp.ofHost : SessionOp → Bool
  | .camera _ => false
  | _ => true

namespace Session

variable {s s' : Session} {b : Backing}

/-- The camera rests, the store names the selected one and will accept another, and has otherwise
the rows of `b`. -/
structure Prefers (b : Backing) (s : Session) : Prop where
  rests : s.camera.Rests
  accepts : s.store.Accepts
  names : s.store.Names s.facing
  others : b.SameApart preferredCameraKey s.store.backing

theorem Prefers.congr (h : Prefers b s) (same : SameCore s s') : Prefers b s' := by
  obtain ⟨rests, accepts, names, others⟩ := h
  constructor
  · rwa [same.camera]
  · rwa [same.store]
  · rwa [same.store, facing, gated, same.camera]
  · rwa [same.store]

theorem Prefers.atRest (h : Prefers b s) : s.atRest.Rests :=
  ⟨⟨h.rests.plan, h.rests.bodies⟩, h.rests.agreed, h.rests.idle, h.rests.selects⟩

/-- Operations other than flips keep the selection. -/
theorem Prefers.operate (h : Prefers b s) (op : CameraOp Photographer)
    (passive : op.isPassive = true) (other : op ≠ .flip) :
    Prefers b (s.operate op).session := by
  obtain ⟨rests, facing⟩ := h.atRest.call passive other
  refine ⟨rests, h.accepts, ?_, h.others⟩
  have names := h.names
  rwa [Session.facing, gated, show s.camera.camera.facing = _ from facing.symm] at names

theorem Prefers.resume (h : Prefers b s) : Prefers b s.resume.session := by
  have opened := h.operate .openCamera rfl (by simp)
  have resumed := resumes s
  generalize s.resume = step at resumed ⊢
  cases resumed with
  | failed => exact opened
  | announced _ announce => exact announce ▸ opened.congr (sameCore_announce _ _)

theorem Prefers.provideSurface (h : Prefers b s) (surface : UInt64) (rotation : ScreenRotation) :
    Prefers b (s.provideSurface surface rotation).session := by
  have linked := h.operate (.linkSurface surface) rfl (by simp)
  have turned := linked.operate (.setScreenRotation rotation.degrees) rfl (by simp)
  simp only [Session.provideSurface, SessionStep.andThen]
  cases (s.operate (.linkSurface surface)).answer with
  | error cause => exact linked
  | ok reply => exact turned

/-- The selected camera can be remembered. -/
theorem prefers_remember (rests : s.camera.Rests) (accepts : s.store.Accepts)
    (others : b.SameApart preferredCameraKey s.store.backing) :
    (s.remember s.facing).answer = .ok () ∧ Prefers b (s.remember s.facing).session := by
  obtain ⟨store, remembered, accepts, names, kept⟩ := Store.remembers accepts s.facing
  rw [remember, remembered]
  exact ⟨rfl, rests, accepts, names, others.trans kept⟩

/-- A flip that succeeds selects the other camera and remembers it; one that fails does neither. -/
theorem Prefers.flip (h : Prefers b s) : Prefers b s.flip.session := by
  obtain ⟨rests, outcome⟩ := h.atRest.call_flip
  have remembered : ∀ f c, (s.operate .flip).answer = .ok (.flipped f c) →
      ((s.operate .flip).session.remember f).answer = .ok () ∧
        Prefers b ((s.operate .flip).session.remember f).session := by
    intro f c answered
    rcases outcome with ⟨_, ok, selected⟩ | ⟨_, failed, _⟩
    · obtain ⟨rfl, _⟩ := CameraReply.flipped.inj (Except.ok.inj (answered.symm.trans ok))
      rw [← selected]
      exact prefers_remember (s := (s.operate .flip).session) rests h.accepts h.others
    · cases answered.symm.trans failed
  have flipped := flips s
  generalize s.flip = step at flipped ⊢
  cases flipped with
  | ignored => exact h
  | failed _ answered =>
      refine ⟨rests, h.accepts, ?_, h.others⟩
      rcases outcome with ⟨_, ok, _⟩ | ⟨_, _, selected⟩
      · cases answered.symm.trans ok
      · have names := h.names
        rwa [Session.facing, gated, show s.camera.camera.facing = _ from selected.symm] at names
  | forgotten _ answered remember =>
      have works := (remembered _ _ answered).1
      rw [remember] at works
      cases works
  | switched _ answered remember announce =>
      have after := (remembered _ _ answered).2
      rw [remember] at after
      exact announce ▸ after.congr (sameCore_announce _ _)

theorem Prefers.perform (h : Prefers b s) {op : SessionOp} (host : op.ofHost = true) :
    Prefers b (s.perform op).session := by
  cases op with
  | resume => exact h.resume
  | pause => exact h.operate .release rfl (by simp)
  | announce c => exact h.congr (sameCore_announce s c)
  | layOut size => exact h.congr (sameCore_layOut s size)
  | provideSurface surface degrees =>
      simp only [Session.perform]
      cases ScreenRotation.read degrees with
      | error cause => exact h
      | ok rotation => exact h.provideSurface surface rotation
  | orient orientation => exact h.congr ⟨rfl, rfl⟩
  | capture =>
      have reset : Prefers b { s with view := s.view.reset } := h.congr ⟨rfl, rfl⟩
      exact reset.operate (.capture .session []) rfl (by simp)
  | flip => exact h.flip
  | camera op => cases host
  | describe => exact h

/-! ### Runs -/

/-- A session that has just been made is on the camera that its store names. -/
theorem prefers_of_ofDevice {spec : DeviceSpec} {refusals : DeviceRefusals}
    {reportedFacing : Option Facing} {store after : Store} {orientation : Orientation}
    (made : ofDevice { spec, refusals, reportedFacing } store orientation = (.ok s, after))
    (accepts : store.Accepts) : Prefers store.backing s := by
  have agreed := agreed_of_ofDevice made
  obtain ⟨facing, preferred, rfl⟩ := ofDevice_ok made
  obtain ⟨names, backing, sets⟩ := Store.names_of_preferredFacing preferred
  refine ⟨⟨⟨rfl, fun r mem => ?_⟩, agreed, rfl, fun opened => ?_⟩, ?_, names, ?_⟩
  · cases mem
  · cases opened
  · rw [Store.Accepts, sets]
    exact accepts
  · rw [backing]
    exact .refl _ _

theorem ofDevice_of_names {store : Store} {f : Facing} (names : store.Names f)
    (readable : store.gets.refusesNext = false) (device : Device) (orientation : Orientation) :
    ∃ s after, ofDevice device store orientation = (.ok s, after) ∧ s.facing = f := by
  have preferred := names.preferredFacing readable
  cases read : store.preferredFacing with
  | mk result after =>
      rw [read] at preferred
      obtain rfl : result = .ok f := preferred
      refine ⟨{ camera := .ofDevice device f, orientation, store := after }, after, ?_, rfl⟩
      simp only [ofDevice, read]

theorem Prefers.performAll (h : Prefers b s) (ops : List SessionOp)
    (host : ∀ op ∈ ops, op.ofHost = true) : Prefers b (s.performAll ops) :=
  performAll_keeps h fun _ op mem prefers => prefers.perform (host op mem)

/-- Whatever camera is open is the selected one. -/
theorem Prefers.opened (h : Prefers b s) {f : Facing} (opened : s.gated.device.opened = some f) :
    f = s.facing := by
  have initialized : s.gated.isAt .initialized = true := by
    rw [gated, h.rests.agreed.opened]
    exact congrArg Option.isSome opened
  exact Option.some.inj (opened.symm.trans (h.rests.selects initialized))

/-! ### Replays -/

theorem deliver_session (s : Session) (step : Step) :
    (s.deliver step).2 = (s.perform step.op).session := by
  unfold deliver
  dsimp only
  split <;> rfl

theorem deliverAll_session (s : Session) (index : Nat) (steps : List Step) :
    (s.deliverAll index steps).2 = s.performAll (steps.map Step.op) := by
  induction steps generalizing s index with
  | nil => rfl
  | cons step rest ih =>
      rw [List.map_cons, performAll, List.foldl_cons, ← deliver_session]
      exact ih (s.deliver step).2 (index + 1)

theorem ofHost_op (step : Step) : step.op.ofHost = true := by
  cases step <;> rfl

theorem Prefers.performSteps (h : Prefers b s) (steps : List Step) :
    Prefers b (s.performAll (steps.map Step.op)) :=
  h.performAll _ fun op mem => by
    obtain ⟨step, _, rfl⟩ := List.mem_map.mp mem
    exact ofHost_op step

theorem replay_prefers {script : Script} {store after : Store} {report : Report}
    (accepts : store.Accepts) (replayed : script.replay store = (.ok report, after)) :
    after.Names report.finalFacing ∧ store.backing.SameApart preferredCameraKey after.backing := by
  unfold Script.replay at replayed
  split at replayed
  · cases replayed
  next s₀ _ made =>
    have prefers := (prefers_of_ofDevice made accepts).performSteps script.steps
    have last := deliverAll_session s₀ 0 script.steps
    obtain ⟨same, rfl⟩ := Prod.mk.inj replayed
    obtain rfl := Except.ok.inj same
    dsimp only
    rw [last]
    exact ⟨prefers.names, prefers.others⟩

/-! ### The preference and the selection -/

/-- **The preferred camera.**  Over every store that can be read and accepts what is set, whatever
it holds, and every simulated device: after any operations of the host, however they end, the store
names the selected camera, no other camera is open, and all rows of the store but that one are as
they were.  So a session made from that store later is on the camera on which this one has ended,
and so is a replay over the rows that another replay has left. -/
theorem preferred_is_selected :
    (∀ (spec : DeviceSpec) (refusals : DeviceRefusals) (reportedFacing : Option Facing)
      (store after : Store) (orientation : Orientation) (s₀ : Session) (ops : List SessionOp),
      ofDevice { spec, refusals, reportedFacing } store orientation = (.ok s₀, after) →
      store.Accepts → (∀ op ∈ ops, op.ofHost = true) →
      (s₀.performAll ops).store.Names (s₀.performAll ops).facing ∧
      (∀ f, (s₀.performAll ops).gated.device.opened = some f → f = (s₀.performAll ops).facing) ∧
      store.backing.SameApart preferredCameraKey (s₀.performAll ops).store.backing ∧
      ∀ (device : Device) (orientation : Orientation) (later : Store),
        later.backing = (s₀.performAll ops).store.backing → later.gets.refusesNext = false →
        later.preferredFacing.1 = .ok (s₀.performAll ops).facing ∧
        ∃ s last, ofDevice device later orientation = (.ok s, last) ∧
          s.facing = (s₀.performAll ops).facing) ∧
    ∀ (script : Script) (table : Table Bytes) (report : Report) (after : Store),
      script.replay (.durable table) = (.ok report, after) →
      ∃ rows, after.durableTable? = some rows ∧
        (∀ k, k ≠ preferredCameraKey → rows.get? k = table.get? k) ∧
        ∀ (device : Device) (orientation : Orientation), ∃ s last,
          ofDevice device (.durable rows) orientation = (.ok s, last) ∧
          s.facing = report.finalFacing := by
  constructor
  · intro spec refusals reportedFacing store after orientation s₀ ops made accepts host
    have prefers := (prefers_of_ofDevice made accepts).performAll ops host
    refine ⟨prefers.names, fun f => prefers.opened, prefers.others, ?_⟩
    intro device orientation later backing readable
    have names : later.Names (s₀.performAll ops).facing := by
      rw [Store.Names, backing]
      exact prefers.names
    exact ⟨names.preferredFacing readable, ofDevice_of_names names readable device orientation⟩
  · intro script table report after replayed
    have accepts : (Store.durable table).Accepts := fun _ _ => List.not_mem_nil
    obtain ⟨names, others⟩ := replay_prefers accepts replayed
    obtain ⟨backing, gets, sets⟩ := after
    cases others with
    | @durable _ rows kept =>
        have named : (Store.durable rows.table).Names report.finalFacing := names
        exact ⟨rows.table, rfl, kept, ofDevice_of_names named rfl⟩

/-- A store whose preferred camera is a text, among other things. -/
def garbled : Store :=
  { backing := .volatile
      ⟨(Table.empty.insert preferredCameraKey (.text "front")).insert "theme" (.flag true)⟩ }

/-- The session begins on the back camera; its second flip is refused, and its store names the front
camera.  A replay that flips once leaves rows from which the next one begins on the front camera. -/
theorem preferred_is_selected_garbled :
    (∃ s₀ after, ofDevice { refusals := { openCamera := { refused := [2] } } } garbled =
        (.ok s₀, after) ∧ s₀.facing = .back ∧
      (s₀.performAll [.resume, .flip, .flip]).store.Names .front) ∧
    ∃ report after rows, Script.replay { steps := [.resume, .flip] } (.durable .empty) =
        (.ok report, after) ∧ after.durableTable? = some rows ∧
      ∃ s last, ofDevice {} (.durable rows) = (.ok s, last) ∧ s.facing = .front := by
  constructor
  · let s₀ : Session :=
      { camera := .ofDevice { refusals := { openCamera := { refused := [2] } } } .back
        store := { garbled with gets := garbled.gets.count } }
    have made : ofDevice { refusals := { openCamera := { refused := [2] } } } garbled =
        (.ok s₀, s₀.store) := rfl
    have ends : (s₀.performAll [.resume, .flip, .flip]).facing = .front := by decide +kernel
    have prefers := preferred_is_selected.1 _ _ _ _ _ _ s₀ [.resume, .flip, .flip] made
      (fun _ _ => List.not_mem_nil) (by decide)
    exact ⟨s₀, _, made, rfl, ends ▸ prefers.1⟩
  · have ends : ((Script.replay { steps := [.resume, .flip] } (.durable .empty)).1.toOption.map
        (·.finalFacing)) = some .front := by decide +kernel
    cases replayed : Script.replay { steps := [.resume, .flip] } (.durable .empty) with
    | mk result after =>
        rw [replayed] at ends
        cases result with
        | error cause => cases ends
        | ok report =>
            obtain ⟨rows, left, _, next⟩ := preferred_is_selected.2 _ _ report after replayed
            obtain ⟨s, last, made, same⟩ := next {} .portrait
            exact ⟨report, after, rows, rfl, left, s, last, made,
              same.trans (Option.some.inj ends)⟩

end Session

end CaptureFlow
