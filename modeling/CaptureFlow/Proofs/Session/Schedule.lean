import CaptureFlow.Proofs.Gate.View
import CaptureFlow.Proofs.Geometry.Scaling
import CaptureFlow.Proofs.Session.Run
/-! # When previews are transformed

How to stretch a preview is told once both the preview and the view are known.  A `Schedule` says
when that is without gates and waiting actions: it has a flag, the latest size of the view, the way
the display is held and the previews that wait.  Announcements and layouts meet in `Schedule.react`.

The session follows its schedule (`Tracks`): each operation tells what the camera brings up, then
what the schedule reacts with to the `Prompt` that the operation amounts to (`Tracks.perform`).  The
camera never brings up anything of this kind by itself, so along a run the previews are transformed
and switching is offered as the schedule says (`follows_schedule`).

A schedule whose view has been laid out has a size for it, by construction.  This is why the session
never has a preview to transform and no size to go by. -/

namespace CaptureFlow

/-! ### Transforms -/

/-- What is told about a `preview` on a view of size `view`. -/
def transformEvent (preview view : Size) (orientation : Orientation) : SessionEvent :=
  match PreviewTransform.compute preview view orientation with
  | .ok t => .transform t
  | .error cause => .cameraError cause

/-! ### The schedule -/

/-- What the session knows of the view, and the previews that wait for it. -/
structure Schedule where
  laidOut : Bool := false
  view : Option Size := none
  orientation : Orientation
  waiting : List Size := []
  sized : laidOut = true → view.isSome = true

/-- What matters to a schedule: capabilities are announced, the view is laid out, the display is
turned, or a picture is asked for. -/
inductive Prompt where
  | announced (c : Capabilities)
  | laidOut (size : Size)
  | turned (orientation : Orientation)
  | captured

namespace Schedule

/-- Nothing is known of the view yet. -/
def fresh (orientation : Orientation) : Schedule :=
  { laidOut := false, orientation, sized := nofun }

/-- The schedule after a prompt, and what is told. -/
def react (q : Schedule) : Prompt → Schedule × List SessionEvent
  | .announced c =>
    if laidOut : q.laidOut = true then
      let view := q.view.get (q.sized laidOut)
      (q, [.flipAvailable c.canFlip, transformEvent c.preview view q.orientation])
    else ({ q with waiting := q.waiting ++ [c.preview] }, [.flipAvailable c.canFlip])
  | .laidOut size =>
    if q.laidOut then ({ q with view := some size, sized := fun _ => rfl }, [])
    else
      ({ q with laidOut := true, view := some size, waiting := [], sized := fun _ => rfl },
        q.waiting.map fun preview => transformEvent preview size q.orientation)
  | .turned orientation => ({ q with orientation }, [])
  | .captured => ({ q with laidOut := false, waiting := [], sized := nofun }, [])

/-- The schedule after prompts, and all that is told. -/
def run (q : Schedule) : List Prompt → Schedule × List SessionEvent
  | [] => (q, [])
  | p :: rest =>
    let (q', events) := q.react p
    let (last, others) := q'.run rest
    (last, events ++ others)

theorem run_append (q : Schedule) (ps rest : List Prompt) :
    q.run (ps ++ rest) =
      (((q.run ps).1.run rest).1, (q.run ps).2 ++ ((q.run ps).1.run rest).2) := by
  induction ps generalizing q with
  | nil => rfl
  | cons p ps ih =>
      simp only [List.cons_append, run]
      rw [ih, List.append_assoc]

theorem run_singleton (q : Schedule) (p : Prompt) : q.run [p] = q.react p :=
  Prod.ext rfl (List.append_nil _)

end Schedule

/-- Whether the host is offered to switch cameras, or told how to stretch a preview. -/
def SessionSignal.ofSchedule : SessionSignal → Bool
  | .told (.flipAvailable _) => true
  | .told (.transform _) => true
  | _ => false

namespace Session

variable {s s' : Session} {q : Schedule}

/-! ### A session and its schedule -/

/-- The session is where its schedule is. -/
structure Tracks (q : Schedule) (s : Session) : Prop where
  stages : s.view.stages = [.laidOut]
  laidOut : s.view.isComplete .laidOut = q.laidOut
  waiting : s.view.pending .laidOut = q.waiting
  size : s.viewSize = q.view
  orientation : s.orientation = q.orientation

/-- The step goes with the reaction of the schedule. -/
structure Reacts (q : Schedule) (p : Prompt) (step : SessionStep Unit) : Prop where
  answer : step.answer = .ok ()
  signals : step.signals = (q.react p).2.map .told
  tracks : Tracks (q.react p).1 step.session

theorem Tracks.declared (h : Tracks q s) : ViewStage.laidOut ∈ s.view.stages := by
  rw [h.stages]
  exact List.mem_singleton_self _

theorem Tracks.sized (h : Tracks q s) (complete : s.view.isComplete .laidOut = true) :
    s.viewSize.isSome = true := by
  rw [h.size]
  exact q.sized (h.laidOut ▸ complete)

theorem transformSignals_eq {view : Size} {orientation : Orientation}
    (size : s.viewSize = some view) (held : s.orientation = orientation) (preview : Size) :
    s.transformSignals preview = [.told (transformEvent preview view orientation)] := by
  subst held
  simp only [transformSignals, size, transformEvent]
  cases PreviewTransform.compute preview view s.orientation <;> rfl

theorem Tracks.announce (h : Tracks q s) (c : Capabilities) :
    Reacts q (.announced c) (s.announce c) := by
  cases flag : q.laidOut with
  | true =>
      have due : s.view.offer? .laidOut c.preview = some (s.view, true) :=
        Gate.offer?_due_iff.mpr ⟨rfl, h.laidOut.trans flag⟩
      have size : s.viewSize = some (q.view.get (q.sized flag)) := by
        rw [h.size, Option.some_get]
      have told := transformSignals_eq (s := { s with capabilities := some c }) size h.orientation
      simp only [Session.announce, due, if_true]
      constructor
      · rfl
      · rw [Schedule.react, dif_pos flag]
        exact congrArg _ (told c.preview)
      · rw [Schedule.react, dif_pos flag]
        exact ⟨h.stages, h.laidOut, h.waiting, h.size, h.orientation⟩
  | false =>
      obtain ⟨view, offered, queued⟩ :=
        Gate.exists_queued h.declared (h.laidOut.trans flag) c.preview
      have waits : ¬q.laidOut = true := Bool.eq_false_iff.mp flag
      simp only [Session.announce, offered]
      constructor
      · rfl
      · rw [Schedule.react, dif_neg waits]
        rfl
      · rw [Schedule.react, dif_neg waits]
        refine ⟨queued.stages.trans h.stages, ?_, ?_, h.size, h.orientation⟩
        · exact (congrFun queued.flags _).trans h.laidOut
        · rw [queued.queues, Function.update_self, h.waiting]

theorem Tracks.layOut (h : Tracks q s) (size : Size) :
    Reacts q (.laidOut size) (s.layOut size) := by
  cases flag : q.laidOut with
  | true =>
      have again : s.view.complete? .laidOut = some (s.view, false) :=
        Gate.complete?_again_iff.mpr ⟨rfl, h.laidOut.trans flag⟩
      simp only [Session.layOut, again]
      constructor
      · rfl
      · rw [Schedule.react, if_pos flag]
        rfl
      · rw [Schedule.react, if_pos flag]
        exact ⟨h.stages, h.laidOut, h.waiting, rfl, h.orientation⟩
  | false =>
      obtain ⟨view, first, marked⟩ := Gate.exists_marked h.declared (h.laidOut.trans flag)
      have complete : view.isComplete .laidOut = true := by
        rw [marked.flags, Function.update_self]
      obtain ⟨last, drained, flags, empty, stages⟩ := Gate.drain_eq complete
      rw [marked.cycle, marked.queues, h.waiting] at drained
      have waits : ¬q.laidOut = true := Bool.eq_false_iff.mp flag
      have told := transformSignals_eq (s := { s with viewSize := some size }) rfl h.orientation
      simp only [Session.layOut, first, drained]
      constructor
      · rfl
      · rw [Schedule.react, if_neg waits, List.map_map, List.map_eq_flatMap]
        exact congrArg q.waiting.flatMap (funext told)
      · rw [Schedule.react, if_neg waits]
        refine ⟨stages.trans (marked.stages.trans h.stages), ?_, empty, rfl, h.orientation⟩
        rw [flags, complete]

theorem Tracks.capture (h : Tracks q s) :
    Tracks (q.react .captured).1 { s with view := s.view.reset } :=
  ⟨(Gate.stages_reset _).trans h.stages, Gate.isComplete_reset _ _, Gate.pending_reset _ _, h.size,
    h.orientation⟩

theorem Tracks.orient (h : Tracks q s) (orientation : Orientation) :
    Tracks (q.react (.turned orientation)).1 (s.orient orientation) :=
  ⟨h.stages, h.laidOut, h.waiting, h.size, rfl⟩

/-! ### Operations -/

/-- What an operation amounts to for the schedule.  Coming to the front and flipping announce
capabilities if they succeed, and a flip only if it selects a camera. -/
def prompt? (s : Session) : SessionOp → Option Prompt
  | .announce c => some (.announced c)
  | .resume =>
    match s.resume.answer, (s.operate .openCamera).answer with
    | .ok (), .ok (.capabilities c) => some (.announced c)
    | _, _ => none
  | .flip =>
    match s.flip.answer, (s.operate .flip).answer with
    | .ok (some _), .ok (.flipped _ c) => some (.announced c)
    | _, _ => none
  | .layOut size => some (.laidOut size)
  | .orient orientation => some (.turned orientation)
  | .capture => some .captured
  | .pause | .provideSurface .. | .camera _ | .describe => none

/-- What operations amount to for the schedule, in their order. -/
def prompts (s : Session) (ops : List SessionOp) : List Prompt :=
  s.collect (fun s op => (s.prompt? op).toList) ops

/-- An operation that tells what the camera brings up, then what the schedule reacts with. -/
structure Performs (q : Schedule) (s : Session) (op : SessionOp) : Prop where
  signals : (s.perform op).signals = (s.cameraEvents op).filterMap s.signal? ++
    (q.run (s.prompt? op).toList).2.map .told
  tracks : Tracks (q.run (s.prompt? op).toList).1 (s.perform op).session

theorem Tracks.operate (h : Tracks q s) (op : CameraOp Photographer) :
    Tracks q (s.operate op).session :=
  ⟨h.stages, h.laidOut, h.waiting, h.size, h.orientation⟩

theorem Tracks.remember (h : Tracks q s) (facing : Facing) :
    Tracks q (s.remember facing).session :=
  ⟨h.stages, h.laidOut, h.waiting, h.size, h.orientation⟩

theorem performs_of_silent {op : SessionOp} (silent : s.prompt? op = none)
    (signals : (s.perform op).signals = (s.cameraEvents op).filterMap s.signal?)
    (tracks : Tracks q (s.perform op).session) : Performs q s op := by
  constructor
  · rw [silent, signals]
    exact (List.append_nil _).symm
  · rwa [silent]

theorem performs_of_prompt {op : SessionOp} {p : Prompt} (prompted : s.prompt? op = some p)
    (signals : (s.perform op).signals =
      (s.cameraEvents op).filterMap s.signal? ++ (q.react p).2.map .told)
    (tracks : Tracks (q.react p).1 (s.perform op).session) : Performs q s op := by
  constructor
  · rw [prompted, Option.toList_some, Schedule.run_singleton, signals]
  · rwa [prompted, Option.toList_some, Schedule.run_singleton]

/-- What is told of a single call of the camera. -/
theorem signals_of_call {op : SessionOp} {call : CameraOp Photographer}
    (calls : s.cameraOps op = [call]) :
    (s.cameraEvents op).filterMap s.signal? = (s.operate call).signals := by
  rw [cameraEvents, calls, callEach_singleton]
  rfl

theorem Tracks.resume (h : Tracks q s) : Performs q s .resume := by
  have told : (s.cameraEvents .resume).filterMap s.signal? = (s.operate .openCamera).signals :=
    signals_of_call rfl
  have opened := h.operate .openCamera
  obtain ⟨step, came⟩ : ∃ step, s.resume = step := ⟨_, rfl⟩
  have resumed := came ▸ resumes s
  cases resumed with
  | failed =>
      refine performs_of_silent ?_ ?_ ?_
      · simp only [prompt?, came]
      · rw [told, perform, came]
        rfl
      · rw [perform, came]
        exact opened
  | @announced c _ answered announce =>
      subst announce
      have reacts := opened.announce c
      refine performs_of_prompt (p := .announced c) ?_ ?_ ?_
      · simp only [prompt?, came, answered, reacts.answer]
      · rw [told, ← reacts.signals, perform, came]
        rfl
      · rw [perform, came]
        exact reacts.tracks

theorem Tracks.flip (h : Tracks q s) : Performs q s .flip := by
  have flipped := h.operate .flip
  have calls : s.canFlip = true → s.cameraOps .flip = [.flip] := fun more => if_pos more
  obtain ⟨step, came⟩ : ∃ step, s.flip = step := ⟨_, rfl⟩
  have flips := came ▸ flips s
  cases flips with
  | ignored alone =>
      have none : s.cameraOps .flip = [] := if_neg (Bool.eq_false_iff.mp alone)
      refine performs_of_silent ?_ ?_ ?_
      · simp only [prompt?, came]
      · rw [cameraEvents, none, perform, came]
        rfl
      · rw [perform, came]
        exact h
  | failed more =>
      refine performs_of_silent ?_ ?_ ?_
      · simp only [prompt?, came]
      · rw [signals_of_call (calls more), perform, came]
        rfl
      · rw [perform, came]
        exact flipped
  | @forgotten f _ _ _ more _ remember =>
      have kept := flipped.remember f
      rw [remember] at kept
      refine performs_of_silent ?_ ?_ ?_
      · simp only [prompt?, came]
      · rw [signals_of_call (calls more), perform, came]
        rfl
      · rw [perform, came]
        exact kept
  | @switched f c _ _ more answered remember announce =>
      subst announce
      have kept := flipped.remember f
      rw [remember] at kept
      have reacts := kept.announce c
      refine performs_of_prompt (p := .announced c) ?_ ?_ ?_
      · simp only [prompt?, came, answered, reacts.answer]
        rfl
      · rw [signals_of_call (calls more), ← reacts.signals, perform, came]
        rfl
      · rw [perform, came]
        exact reacts.tracks

/-- Providing a surface makes one or two calls of the camera and tells nothing else. -/
theorem Tracks.provideSurface (h : Tracks q s) (surface : UInt64) (degrees : UInt16) :
    Performs q s (.provideSurface surface degrees) := by
  have linked := h.operate (.linkSurface surface)
  have turned := fun rotation : ScreenRotation =>
    linked.operate (.setScreenRotation rotation.degrees)
  refine performs_of_silent rfl ?_ ?_
  · simp only [Session.perform, cameraEvents, cameraOps]
    cases ScreenRotation.read degrees with
    | error cause => rfl
    | ok rotation =>
        simp only [Session.provideSurface, SessionStep.andThen]
        cases (s.operate (.linkSurface surface)).answer with
        | error cause =>
            simp only [callEach_singleton]
            rfl
        | ok reply =>
            simp only [CameraMachine.callEach, List.filterMap_append, List.append_nil]
            rfl
  · simp only [Session.perform]
    cases ScreenRotation.read degrees with
    | error cause => exact h
    | ok rotation =>
        simp only [Session.provideSurface, SessionStep.andThen]
        cases (s.operate (.linkSurface surface)).answer with
        | error cause => exact linked
        | ok reply => exact turned rotation

/-- Every operation goes with the schedule. -/
theorem Tracks.perform (h : Tracks q s) (op : SessionOp) : Performs q s op := by
  cases op with
  | resume => exact h.resume
  | announce c =>
      have reacts := h.announce c
      exact performs_of_prompt rfl reacts.signals reacts.tracks
  | layOut size =>
      have reacts := h.layOut size
      exact performs_of_prompt rfl reacts.signals reacts.tracks
  | orient orientation => exact performs_of_prompt rfl rfl (h.orient orientation)
  | capture =>
      refine performs_of_prompt rfl ?_ (h.capture.operate (.capture .session []))
      rw [signals_of_call rfl]
      exact (List.append_nil _).symm
  | flip => exact h.flip
  | pause =>
      exact performs_of_silent rfl (signals_of_call rfl).symm (h.operate .release)
  | provideSurface surface degrees => exact h.provideSurface surface degrees
  | camera op => exact performs_of_silent rfl (signals_of_call rfl).symm (h.operate op)
  | describe => exact performs_of_silent rfl rfl h

/-! ### Runs -/

theorem tracks_of_ofDevice {device : Device} {store after : Store} {orientation : Orientation}
    (made : ofDevice device store orientation = (.ok s, after)) :
    Tracks (.fresh orientation) s := by
  obtain ⟨_, _, rfl⟩ := ofDevice_ok made
  exact ⟨rfl, rfl, rfl, rfl, rfl⟩

/-- A run of the session is a run of its schedule. -/
theorem Tracks.performAll (h : Tracks q s) (ops : List SessionOp) :
    Tracks (q.run (s.prompts ops)).1 (s.performAll ops) := by
  induction ops generalizing s q with
  | nil => exact h
  | cons op rest ih =>
      rw [prompts, collect, Schedule.run_append]
      exact ih (h.perform op).tracks

/-- The camera by itself neither offers switching nor transforms a preview. -/
theorem ofSchedule_camera (s : Session) (events : List (CameraEvent Photographer)) :
    (events.filterMap s.signal?).filter SessionSignal.ofSchedule = [] := by
  refine List.filter_eq_nil_iff.mpr fun signal mem => ?_
  obtain ⟨event, _, meant⟩ := List.mem_filterMap.mp mem
  cases event with
  | delivered ticket tag frame =>
      cases tag with
      | session =>
          obtain rfl := Option.some.inj meant
          unfold pictureEvent
          split
          · exact Bool.false_ne_true
          · split <;> exact Bool.false_ne_true
      | host label =>
          obtain rfl := Option.some.inj meant
          exact Bool.false_ne_true
  | failed cause ticket =>
      obtain rfl := Option.some.inj meant
      exact Bool.false_ne_true
  | requested | discarded | answered => cases meant

/-- Along a run, switching is offered and previews are transformed as the schedule says. -/
theorem Tracks.signalsOf (h : Tracks q s) (ops : List SessionOp) :
    (s.signalsOf ops).filter SessionSignal.ofSchedule =
      ((q.run (s.prompts ops)).2.map SessionSignal.told).filter SessionSignal.ofSchedule := by
  induction ops generalizing s q with
  | nil => rfl
  | cons op rest ih =>
      have performs := h.perform op
      have later := ih performs.tracks
      rw [prompts, Session.signalsOf] at later ⊢
      rw [collect, collect, Schedule.run_append, List.map_append, List.filter_append,
        List.filter_append, later, performs.signals, List.filter_append, ofSchedule_camera,
        List.nil_append]

/-- What a schedule tells: an offer of switching, a transform, or in its place that a size is
empty. -/
inductive Scheduled : SessionEvent → Prop
  | offered (available : Bool) : Scheduled (.flipAvailable available)
  | transformed (t : PreviewTransform) : Scheduled (.transform t)
  | emptySize {size : Size} (empty : size.isEmpty = true) :
      Scheduled (.cameraError (.emptySize size))

theorem scheduled_transformEvent (preview view : Size) (orientation : Orientation) :
    Scheduled (transformEvent preview view orientation) := by
  unfold transformEvent
  rcases PreviewTransform.compute_cases preview view orientation with ⟨t, computed⟩ |
    ⟨size, empty, computed⟩
  · rw [computed]
    exact .transformed t
  · rw [computed]
    exact .emptySize empty

theorem scheduled_react (q : Schedule) (p : Prompt) : ∀ event ∈ (q.react p).2, Scheduled event := by
  intro event mem
  cases p with
  | announced c =>
      simp only [Schedule.react] at mem
      split at mem
      · rcases List.mem_pair.mp mem with rfl | rfl
        · exact .offered _
        · exact scheduled_transformEvent _ _ _
      · obtain rfl := List.mem_singleton.mp mem
        exact .offered _
  | laidOut size =>
      simp only [Schedule.react] at mem
      split at mem
      · cases mem
      · obtain ⟨preview, _, rfl⟩ := List.mem_map.mp mem
        exact scheduled_transformEvent _ _ _
  | turned | captured => cases mem

theorem scheduled_run (q : Schedule) (ps : List Prompt) :
    ∀ event ∈ (q.run ps).2, Scheduled event := by
  induction ps generalizing q with
  | nil => exact fun _ mem => absurd mem List.not_mem_nil
  | cons p rest ih =>
      intro event mem
      rcases List.mem_append.mp mem with here | later
      · exact scheduled_react q p event here
      · exact ih _ event later

/-! ### The session and its schedule -/

/-- **The schedule of transforms.**  Over any device and store, and along any operations: switching
is offered and previews are transformed as the schedule says and in its order, and every operation
tells first what the camera brings up and then what the schedule reacts with, which is such an event
or the error that a size is empty.  A view that has been laid out has a size, so no preview is
passed over. -/
theorem follows_schedule {device : Device} {store after : Store} {orientation : Orientation}
    {s₀ : Session} (made : ofDevice device store orientation = (.ok s₀, after))
    (ops : List SessionOp) :
    let q := (Schedule.fresh orientation).run (s₀.prompts ops)
    let s := s₀.performAll ops
    (s₀.signalsOf ops).filter SessionSignal.ofSchedule =
      (q.2.map SessionSignal.told).filter SessionSignal.ofSchedule ∧
    (∀ event ∈ q.2, Scheduled event) ∧
    Tracks q.1 s ∧ (∀ op, Performs q.1 s op) ∧
    (s.view.isComplete .laidOut = true → s.viewSize.isSome = true) := by
  have tracks := tracks_of_ofDevice made
  have last := tracks.performAll ops
  exact ⟨tracks.signalsOf ops, scheduled_run _ _, last, last.perform, last.sized⟩

/-- One preview waits for the layout and the next does not.  After a picture another one waits, and
the next layout finds it but is empty. -/
theorem follows_schedule_again :
    ∃ s₀ after, ofDevice {} .volatile = (.ok s₀, after) ∧
      let ops : List SessionOp :=
        [.resume, .layOut ⟨480, 960⟩, .orient .landscape, .resume, .capture, .resume, .pause]
      (s₀.signalsOf ops).filter SessionSignal.ofSchedule =
        [.told (.flipAvailable true), .told (.transform ⟨⟨2250000⟩, .identity⟩),
          .told (.flipAvailable true), .told (.transform ⟨⟨4000000⟩, .identity⟩),
          .told (.flipAvailable true)] ∧
      ((s₀.performAll ops).perform (.layOut ⟨0, 5⟩)).signals =
        [.told (.cameraError (.emptySize ⟨0, 5⟩))] := by
  let s₀ : Session :=
    { camera := .ofDevice {} .back, store := { Store.volatile with gets := .count .none } }
  have made : ofDevice {} .volatile = (.ok s₀, s₀.store) := rfl
  refine ⟨s₀, _, made, (follows_schedule made _).1.trans ?_, ?_⟩
  · decide +kernel
  · refine ((follows_schedule made _).2.2.2.1 (.layOut ⟨0, 5⟩)).signals.trans ?_
    decide +kernel

end Session

end CaptureFlow
