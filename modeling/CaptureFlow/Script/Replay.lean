import CaptureFlow.Script.Basic
/-! # Replaying a script

`Script.replay` delivers the steps of a script, one after the other, to a session over the
simulated device, and collects a `Report` of what the host was told at each step, of all calls that
the device received and of the camera selected in the end.  A step that fails is reported, and the
replay goes on with the next one, as a host would go on delivering events. -/

namespace CaptureFlow

/-! ### Reports -/

/-- What happened in answer to one step. -/
structure TimelineEntry where
  index : Nat
  step : Step
  events : List SessionEvent
deriving DecidableEq, Repr

/-- The outcome of a replay. -/
structure Report where
  timeline : List TimelineEntry
  deviceCalls : List DeviceCall
  finalFacing : Facing
deriving DecidableEq, Repr

def TimelineEntry.json (entry : TimelineEntry) : Json :=
  .object [("index", .ofNat entry.index), ("step", entry.step.json),
    ("events", .array (entry.events.map (·.json)))]

def Report.json (report : Report) : Json :=
  .object [("timeline", .array (report.timeline.map (·.json))),
    ("device_calls", .array (report.deviceCalls.map (·.json))),
    ("final_facing", .text report.finalFacing.name)]

/-! ### Replaying -/

/-- What the host is told by a signal; pictures handed to the host itself are not reported. -/
def SessionSignal.event? : SessionSignal → Option SessionEvent
  | .told event => some event
  | .handed .. => none

/-- Delivers one step: the events it causes, and the session after it. -/
def Session.deliver (s : Session) (step : Step) : List SessionEvent × Session :=
  let done := s.perform step.op
  let events := done.signals.filterMap (·.event?)
  match done.answer with
  | .ok _ => (events, done.session)
  | .error e => (events ++ [.stepFailed e], done.session)

/-- Delivers steps, the first of which has the given index. -/
def Session.deliverAll (s : Session) : Nat → List Step → List TimelineEntry × Session
  | _, [] => ([], s)
  | index, step :: rest =>
    let (events, s) := s.deliver step
    let (entries, s) := s.deliverAll (index + 1) rest
    (⟨index, step, events⟩ :: entries, s)

/-- Replays a script with the preferences in `store`; fails only if the preferred camera cannot be
read. -/
def Script.replay (script : Script) (store : Store) : Except Failure Report × Store :=
  match Session.ofDevice { spec := script.camera.device } store script.orientation with
  | (.error e, store) => (.error e, store)
  | (.ok session, _) =>
    let (timeline, last) := session.deliverAll 0 script.steps
    (.ok ⟨timeline, last.deviceCalls, last.facing⟩, last.store)

end CaptureFlow
