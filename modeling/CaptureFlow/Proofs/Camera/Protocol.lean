import CaptureFlow.Camera.Device
import CaptureFlow.Proofs.History
/-! # The protocol of a device

A device has to be operated in order: the camera is opened when it is not open, the preview starts
while the camera is open, the picture is turned and pictures are taken while the preview runs, and
only an open camera is stopped.  `Permitted` is this protocol as a law on the exchanges with a
device, whatever comes of the calls: a call that is refused or fails has to be in order as well.

What the protocol says of the past, a device knows: `Consistent` ties its flags to its history, so
that `permits` decides from the flags whether a call is in order (`Consistent.permitted_iff`).
`Handled` says what a call does and what it answers.  A call in order fails only if it is refused
or the device is of a kind that fails it; it never meets one of the failures that tell of a call
out of order (`Failure.isMisuse`). -/

namespace CaptureFlow

/-- Whether a failure tells that a device has been operated out of order. -/
def Failure.isMisuse : Failure → Bool
  | .camera (.alreadyOpen _) => true
  | .camera .notOpen => true
  | .camera .notPreviewing => true
  | _ => false

/-! ### The protocol -/

namespace Exchange

def isStop (e : Exchange) : Bool :=
  match e.call with
  | .stop => true
  | _ => false

def opens (e : Exchange) : Bool :=
  match e.call with
  | .openCamera _ => e.outcome == .done
  | _ => false

def streams (e : Exchange) : Bool :=
  match e.call with
  | .startPreview .. => e.outcome == .done
  | _ => false

end Exchange

/-- The camera has been opened, and not been stopped since. -/
def OpenAfter (past : List Exchange) : Prop :=
  ∃ facing, Since Exchange.isStop past ⟨.openCamera facing, .done⟩

/-- The preview has been started on the open camera, which has not been stopped since. -/
def StreamingAfter (past : List Exchange) : Prop :=
  ∃ earlier size surface since,
    past = earlier ++ ⟨.startPreview size surface, .done⟩ :: since ∧ OpenAfter earlier ∧
      ∀ e ∈ since, e.isStop = false

/-- A call that is in order after `past`. -/
def Permitted (past : List Exchange) (e : Exchange) : Prop :=
  match e.call with
  | .openCamera _ => ¬OpenAfter past
  | .startPreview .. => OpenAfter past
  | .setRotation _ => StreamingAfter past
  | .takePicture => StreamingAfter past
  | .stop => OpenAfter past

theorem Exchange.eq_of_opens {e : Exchange} (h : e.opens = true) :
    ∃ facing, e = ⟨.openCamera facing, .done⟩ := by
  obtain ⟨call, outcome⟩ := e
  cases call with
  | openCamera facing =>
      have done : outcome = .done := by simpa [opens] using h
      exact ⟨facing, by rw [done]⟩
  | startPreview | setRotation | takePicture | stop => simp [opens] at h

theorem Exchange.eq_of_streams {e : Exchange} (h : e.streams = true) :
    ∃ size surface, e = ⟨.startPreview size surface, .done⟩ := by
  obtain ⟨call, outcome⟩ := e
  cases call with
  | startPreview size surface =>
      have done : outcome = .done := by simpa [streams] using h
      exact ⟨size, surface, by rw [done]⟩
  | openCamera | setRotation | takePicture | stop => simp [streams] at h

theorem openAfter_append {past : List Exchange} {e : Exchange} :
    OpenAfter (past ++ [e]) ↔ e.opens = true ∨ OpenAfter past ∧ e.isStop = false := by
  constructor
  · rintro ⟨facing, since⟩
    rcases since.of_append with rfl | ⟨since, goesOn⟩
    · exact .inl rfl
    · exact .inr ⟨⟨facing, since⟩, goesOn⟩
  · rintro (opens | ⟨⟨facing, since⟩, goesOn⟩)
    · obtain ⟨facing, rfl⟩ := Exchange.eq_of_opens opens
      exact ⟨facing, since_append_self _ past _⟩
    · exact ⟨facing, since.append goesOn⟩

theorem OpenAfter.of_quiet {past since : List Exchange} (h : OpenAfter past)
    (quiet : ∀ e ∈ since, e.isStop = false) : OpenAfter (past ++ since) := by
  obtain ⟨facing, before, between, rfl, still⟩ := h
  refine ⟨facing, before, between ++ since, by rw [List.append_assoc, List.cons_append], ?_⟩
  intro e mem
  rcases List.mem_append.mp mem with mem | mem
  · exact still e mem
  · exact quiet e mem

theorem StreamingAfter.openAfter {past : List Exchange} (h : StreamingAfter past) :
    OpenAfter past := by
  obtain ⟨earlier, size, surface, since, rfl, opened, quiet⟩ := h
  apply opened.of_quiet
  intro e mem
  rcases List.mem_cons.mp mem with rfl | mem
  · rfl
  · exact quiet e mem

theorem streamingAfter_append {past : List Exchange} {e : Exchange} :
    StreamingAfter (past ++ [e]) ↔
      e.streams = true ∧ OpenAfter past ∨ StreamingAfter past ∧ e.isStop = false := by
  constructor
  · rintro ⟨earlier, size, surface, since, split, opened, quiet⟩
    rcases append_singleton_eq_split split with ⟨rfl, rfl, _⟩ | ⟨rest, rfl, rfl⟩
    · exact .inl ⟨rfl, opened⟩
    · refine .inr ⟨⟨earlier, size, surface, rest, rfl, opened, fun x mem => ?_⟩, ?_⟩
      · exact quiet x (List.mem_append_left [e] mem)
      · exact quiet e (List.mem_append_right rest List.mem_cons_self)
  · rintro (⟨streams, opened⟩ | ⟨⟨earlier, size, surface, since, rfl, opened, quiet⟩, goesOn⟩)
    · obtain ⟨size, surface, rfl⟩ := Exchange.eq_of_streams streams
      exact ⟨past, size, surface, [], rfl, opened, fun _ mem => absurd mem List.not_mem_nil⟩
    · refine ⟨earlier, size, surface, since ++ [e], ?_, opened, fun x mem => ?_⟩
      · rw [List.append_assoc, List.cons_append]
      · rcases List.mem_append.mp mem with mem | mem
        · exact quiet x mem
        · rwa [List.mem_singleton.mp mem]

/-! ### What a device knows -/

/-- The calls that a device of this kind fails. -/
def DeviceSpec.fails (spec : DeviceSpec) : DeviceCall → Bool
  | .openCamera facing => facing = .front ∧ spec.count < 2
  | .startPreview .. => spec.failPreview
  | _ => false

namespace Device

def exchanges (d : Device) : List Exchange := d.history.reverse

def permits (d : Device) : DeviceCall → Bool
  | .openCamera _ => d.opened.isNone
  | .startPreview .. => d.opened.isSome
  | .setRotation _ => d.previewing
  | .takePicture => d.previewing
  | .stop => d.opened.isSome

/-- A device that has been operated in order and knows in which state it is. -/
structure Consistent (d : Device) : Prop where
  lawful : Lawful Permitted d.exchanges
  opened : d.opened.isSome = true ↔ OpenAfter d.exchanges
  previewing : d.previewing = true ↔ StreamingAfter d.exchanges
  failures : ∀ e ∈ d.exchanges, e.outcome = .failed → d.spec.fails e.call = true

theorem Consistent.permitted_iff {d : Device} (h : d.Consistent) (e : Exchange) :
    Permitted d.exchanges e ↔ d.permits e.call = true := by
  unfold Permitted permits
  cases e.call with
  | openCamera =>
      show ¬OpenAfter d.exchanges ↔ d.opened.isNone = true
      rw [← h.opened]
      simp
  | startPreview => exact h.opened.symm
  | setRotation => exact h.previewing.symm
  | takePicture => exact h.previewing.symm
  | stop => exact h.opened.symm

theorem Consistent.opened_of_previewing {d : Device} (h : d.Consistent)
    (previewing : d.previewing = true) : d.opened.isSome = true :=
  h.opened.mpr (h.previewing.mp previewing).openAfter

theorem Consistent.still_of_closed {d : Device} (h : d.Consistent)
    (closed : d.opened.isSome = false) : d.previewing = false := by
  by_contra streaming
  have opened := h.opened_of_previewing (by simpa using streaming)
  rw [closed] at opened
  cases opened

/-! ### What a call does -/

/-- `d'` is `d` after one more exchange. -/
structure Exchanged (d : Device) (e : Exchange) (d' : Device) : Prop where
  history : d'.history = e :: d.history
  opened : d'.opened.isSome = (e.opens || d.opened.isSome && !e.isStop)
  previewing : d'.previewing = (e.streams || d.previewing && !e.isStop)
  spec : d'.spec = d.spec

theorem Exchanged.exchanges_eq {d d' : Device} {e : Exchange} (h : Exchanged d e d') :
    d'.exchanges = d.exchanges ++ [e] := by
  rw [exchanges, h.history, List.reverse_cons, exchanges]

theorem Exchanged.state_eq {d d' : Device} {e : Exchange} (h : Exchanged d e d')
    (opens : e.opens = false) (streams : e.streams = false) (goesOn : e.isStop = false) :
    d'.opened.isSome = d.opened.isSome ∧ d'.previewing = d.previewing := by
  rw [h.opened, h.previewing, opens, streams, goesOn]
  simp

/-- A call in order keeps a device consistent. -/
theorem Exchanged.consistent {d d' : Device} {e : Exchange} (h : Exchanged d e d')
    (consistent : d.Consistent) (permits : d.permits e.call = true)
    (proper : e.outcome = .failed → d.spec.fails e.call = true) : d'.Consistent := by
  have past := h.exchanges_eq
  constructor
  · rw [past, lawful_append_singleton]
    exact ⟨consistent.lawful, (consistent.permitted_iff e).mpr permits⟩
  · rw [past, openAfter_append, h.opened, ← consistent.opened]
    simp
  · rw [past, streamingAfter_append, h.previewing, ← consistent.previewing, ← consistent.opened]
    -- the preview is started on an open camera only, so the flag need not say so
    have open_of_streams : e.streams = true → d.opened.isSome = true := by
      intro streams
      obtain ⟨size, surface, rfl⟩ := Exchange.eq_of_streams streams
      exact permits
    cases streams : e.streams with
    | true => simp [open_of_streams streams]
    | false => simp
  · intro x mem failed
    rw [past] at mem
    rw [h.spec]
    rcases List.mem_append.mp mem with mem | mem
    · exact consistent.failures x mem failed
    · rw [List.mem_singleton.mp mem] at failed ⊢
      exact proper failed

/-- What comes of a call in order, and what the device answers: it does the call, or it does not
and says why, and then the call has been refused or is one that the device fails. -/
inductive Handled {α : Type} (d : Device) (call : DeviceCall) (d' : Device) :
    Except Failure α → Prop
  | done {a : α} (exchanged : Exchanged d ⟨call, .done⟩ d') : Handled d call d' (.ok a)
  | undone {cause : Failure} {outcome : CallOutcome} (exchanged : Exchanged d ⟨call, outcome⟩ d')
      (undone : outcome ≠ .done) (proper : outcome = .failed → d.spec.fails call = true)
      (cause_proper : cause.isMisuse = false) : Handled d call d' (.error cause)

theorem Handled.consistent {α : Type} {d d' : Device} {call : DeviceCall}
    {result : Except Failure α} (h : Handled d call d' result) (consistent : d.Consistent)
    (permits : d.permits call = true) : d'.Consistent := by
  cases h with
  | done exchanged => exact exchanged.consistent consistent permits fun failed => by cases failed
  | undone exchanged _ proper _ => exact exchanged.consistent consistent permits proper

theorem Handled.exchanged {α : Type} {d d' : Device} {call : DeviceCall}
    {result : Except Failure α} (h : Handled d call d' result) :
    ∃ outcome, Exchanged d ⟨call, outcome⟩ d' := by
  cases h with
  | done exchanged => exact ⟨_, exchanged⟩
  | undone exchanged _ _ _ => exact ⟨_, exchanged⟩

theorem Handled.proper {α : Type} {d d' : Device} {call : DeviceCall} {cause : Failure}
    (h : Handled (α := α) d call d' (.error cause)) : cause.isMisuse = false := by
  cases h with
  | undone _ _ _ cause_proper => exact cause_proper

/-- A call that is not done changes nothing but the history; only a stop is always done. -/
theorem exchanged_undone (d : Device) (refusals : DeviceRefusals) {call : DeviceCall}
    (outcome : CallOutcome) (undone : outcome ≠ .done) (goesOn : call ≠ .stop) :
    Exchanged d ⟨call, outcome⟩ ({ d with refusals }.record call outcome) := by
  cases call with
  | stop => exact absurd rfl goesOn
  | openCamera | startPreview | setRotation | takePicture =>
      constructor
      · rfl
      · simp [record, Exchange.opens, Exchange.isStop, undone]
      · simp [record, Exchange.streams, Exchange.isStop, undone]
      · rfl

theorem handled_refuse {α : Type} (d : Device) (refusals : DeviceRefusals) {call : DeviceCall}
    (method : Refusable) (goesOn : call ≠ .stop) :
    Handled d call ({ d with refusals }.refuse (α := α) call method).2
      ({ d with refusals }.refuse (α := α) call method).1 := by
  apply Handled.undone (exchanged_undone d refusals .refused (by decide) goesOn)
  · decide
  · intro failed
    cases failed
  · rfl

theorem handled_fail {α : Type} (d : Device) (refusals : DeviceRefusals) {call : DeviceCall}
    {cause : Failure} (goesOn : call ≠ .stop) (fails : d.spec.fails call = true)
    (cause_proper : cause.isMisuse = false) :
    Handled d call ({ d with refusals }.fail (α := α) call cause).2
      ({ d with refusals }.fail (α := α) call cause).1 := by
  apply Handled.undone (exchanged_undone d refusals .failed (by decide) goesOn)
  · decide
  · intro _
    exact fails
  · exact cause_proper

theorem handled_openCamera (d : Device) (facing : Facing)
    (permits : d.permits (.openCamera facing) = true) :
    Handled d (.openCamera facing) (d.openCamera facing).2 (d.openCamera facing).1 := by
  have closed : d.opened = none := Option.isNone_iff_eq_none.mp permits
  simp only [openCamera]
  split
  · exact handled_refuse d _ _ (by simp)
  · split
    next current opened => exact absurd (closed.symm.trans opened) (by simp)
    · split
      next missing => exact handled_fail d _ (by simp) (decide_eq_true missing) rfl
      · apply Handled.done
        constructor <;> simp [record, Exchange.opens, Exchange.streams, Exchange.isStop]

theorem handled_startPreview (d : Device) (size : Size) (surface : UInt64)
    (permits : d.permits (.startPreview size surface) = true) :
    Handled d (.startPreview size surface) (d.startPreview size surface).2
      (d.startPreview size surface).1 := by
  have opened : d.opened.isSome = true := permits
  simp only [startPreview]
  split
  · exact handled_refuse d _ _ (by simp)
  · split
    next closed =>
      rw [Option.isNone_iff_eq_none.mp closed] at opened
      cases opened
    · split
      next fails => exact handled_fail d _ (by simp) fails rfl
      · apply Handled.done
        constructor <;> simp [record, Exchange.opens, Exchange.streams, Exchange.isStop]

theorem handled_setRotation (d : Device) (degrees : UInt16) :
    Handled d (.setRotation degrees) (d.setRotation degrees).2 (d.setRotation degrees).1 := by
  simp only [setRotation]
  split
  · exact handled_refuse d _ _ (by simp)
  · apply Handled.done
    constructor <;> simp [record, Exchange.opens, Exchange.streams, Exchange.isStop]

theorem handled_takePicture (d : Device) (permits : d.permits .takePicture = true) :
    Handled d .takePicture d.takePicture.2 d.takePicture.1 := by
  have previewing : d.previewing = true := permits
  simp only [takePicture]
  split
  · exact handled_refuse d _ _ (by simp)
  · split
    next still =>
      rw [previewing] at still
      cases still
    · apply Handled.done
      constructor <;> simp [record, Exchange.opens, Exchange.streams, Exchange.isStop]

theorem exchanged_stop (d : Device) : Exchanged d ⟨.stop, .done⟩ d.stop := by
  constructor <;> simp [stop, record, Exchange.opens, Exchange.streams, Exchange.isStop]

theorem Consistent.stop {d : Device} (h : d.Consistent) (opened : d.opened.isSome = true) :
    d.stop.Consistent :=
  (exchanged_stop d).consistent h opened fun failed => by cases failed

theorem consistent_new (spec : DeviceSpec) (refusals : DeviceRefusals)
    (reportedFacing : Option Facing) :
    Consistent { spec, refusals, reportedFacing } := by
  constructor
  · exact lawful_nil _
  · constructor
    · intro opened
      cases opened
    · rintro ⟨facing, since⟩
      exact absurd since.mem List.not_mem_nil
  · constructor
    · intro previewing
      cases previewing
    · intro streaming
      obtain ⟨facing, since⟩ := streaming.openAfter
      exact absurd since.mem List.not_mem_nil
  · intro e mem
    exact absurd mem List.not_mem_nil

end Device

end CaptureFlow
