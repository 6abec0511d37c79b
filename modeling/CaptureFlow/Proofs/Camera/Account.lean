import CaptureFlow.Proofs.Camera.Progress
import CaptureFlow.Proofs.Camera.Requests
/-! # Every request has one outcome

A request for a picture is, at every moment of a run, in one of three places and there once: its
outcome has been told, it waits, or it has been discarded (`Accounted`).  The requests that wait do
so in the order in which they were made, and the first of them is served first, so that whoever
waited starts in turn (`Later.in_turn`).

From where a request is one can tell how it came there.  What waits was asked for by a `capture`
(`Later.asked`); an outcome is told at a moment of its own, to the receiver or the listener of that
`capture` (`Later.told`); and a request is discarded by a `release`, a `flip` or an opening that
fails, while it waits (`Later.discarded`).  `Later.one_outcome` puts all of this together with the
pictures that the device takes. -/

namespace CaptureFlow

namespace CameraMachine

variable {τ : Type} {m m' m₀ : CameraMachine τ} {op? : Option (CameraOp τ)}
  {work : List (CameraTask τ)}

/-! ### Where a request is -/

/-- The requests are numbered.  Each is in one place, and there once; those that wait do so in the
order of their numbers. -/
structure Accounted (m : CameraMachine τ) : Prop where
  numbered : requests m.trace = List.range m.tickets
  once : ∀ t, (settled m.trace).count t + m.waiting.count t + (dropped m.trace).count t =
    if t < m.tickets then 1 else 0
  order : m.waiting.Pairwise (· < ·)

theorem Accounted.lt_tickets (h : Accounted m) {t : Nat} (waits : t ∈ m.waiting) :
    t < m.tickets := by
  by_contra late
  have once := h.once t
  have there := List.count_pos_iff.mpr waits
  rw [if_neg late] at once
  omega

theorem Accounted.unsettled (h : Accounted m) {t : Nat} (waits : t ∈ m.waiting) :
    t ∉ settled m.trace := by
  intro told
  have once := h.once t
  have there := List.count_pos_iff.mpr waits
  have there' := List.count_pos_iff.mpr told
  rw [if_pos (h.lt_tickets waits)] at once
  omega

theorem Accounted.place (h : Accounted m) {t : Nat} (asked : t < m.tickets) :
    t ∈ settled m.trace ∨ t ∈ m.waiting ∨ t ∈ dropped m.trace := by
  have once := h.once t
  rw [if_pos asked] at once
  simp only [← List.count_pos_iff]
  omega

theorem Aside.accounted (h : Aside m m') (account : Accounted m) : Accounted m' := by
  obtain ⟨events, trace, none⟩ := h.trace
  have waiting : m'.waiting = m.waiting := congrArg (List.map _) h.receivers
  constructor
  · rw [trace, requests_append, none.requests, List.append_nil, h.tickets]
    exact account.numbered
  · rw [trace, settled_append, dropped_append, none.settled, none.dropped, List.append_nil,
      List.append_nil, waiting, h.tickets]
    exact account.once
  · rw [waiting]
    exact account.order

theorem Clears.accounted (h : Clears m m') (account : Accounted m) : Accounted m' := by
  obtain ⟨m₁, receivers, tickets, trace, aside⟩ := h
  have waiting : m₁.waiting = [] := congrArg (List.map _) receivers
  have told : settled m₁.trace = settled m.trace := by
    rw [trace, settled_append]
    exact List.append_nil _
  have lost : dropped m₁.trace = dropped m.trace ++ m.waiting := by
    rw [trace, dropped_append]
    exact congrArg _ (List.append_nil _)
  refine aside.accounted ⟨?_, fun t => ?_, ?_⟩
  · rw [trace, requests_append, tickets, ← account.numbered]
    exact List.append_nil _
  · rw [told, lost, waiting, tickets, ← account.once t, List.count_append, List.count_nil]
    omega
  · rw [waiting]
    exact .nil

/-- A new request waits behind all others. -/
theorem Accounted.queues (h : Accounted m) {tag : τ} {body : List (CameraOp τ)}
    (receivers : m'.receivers = m.receivers ++ [⟨m.tickets, tag, body⟩])
    (tickets : m'.tickets = m.tickets + 1) (trace : m'.trace = m.trace ++ [.requested m.tickets]) :
    Accounted m' := by
  have waiting : m'.waiting = m.waiting ++ [m.tickets] := by
    rw [CameraMachine.waiting, receivers, List.map_append]
    rfl
  have told : settled m'.trace = settled m.trace := by
    rw [trace, settled_append]
    exact List.append_nil _
  have lost : dropped m'.trace = dropped m.trace := by
    rw [trace, dropped_append]
    exact List.append_nil _
  refine ⟨?_, fun t => ?_, ?_⟩
  · rw [trace, requests_append, h.numbered, tickets, List.range_succ]
    rfl
  · have once := h.once t
    rw [told, lost, waiting, tickets]
    simp only [List.count_append, List.count_singleton, beq_iff_eq]
    split_ifs at once ⊢ <;> omega
  · rw [waiting, List.pairwise_append]
    refine ⟨h.order, List.pairwise_singleton _ _, fun t waits t' mem => ?_⟩
    rw [List.mem_singleton.mp mem]
    exact h.lt_tickets waits

theorem Accounted.serves (h : Accounted m) {tag : τ} {body : List (CameraOp τ)} {e : CameraEvent τ}
    (receivers : m'.receivers = m.receivers) (tickets : m'.tickets = m.tickets + 1)
    (trace : m'.trace = m.trace ++ [.requested m.tickets] ++ [e])
    (settles : Settles ⟨m.tickets, tag, body⟩ e work) : Accounted m' := by
  obtain ⟨noRequest, outcome, nothing⟩ := settles.tells
  have waiting : m'.waiting = m.waiting := congrArg (List.map _) receivers
  have told : settled m'.trace = settled m.trace ++ [m.tickets] := by
    rw [trace, settled_append, settled_append, outcome]
    exact congrArg (· ++ _) (List.append_nil _)
  have lost : dropped m'.trace = dropped m.trace := by
    rw [trace, dropped_append, dropped_append, nothing, List.append_nil]
    exact List.append_nil _
  refine ⟨?_, fun t => ?_, ?_⟩
  · rw [trace, requests_append, requests_append, noRequest, List.append_nil, h.numbered, tickets,
      List.range_succ]
    rfl
  · have once := h.once t
    rw [told, lost, waiting, tickets]
    simp only [List.count_append, List.count_singleton, beq_iff_eq]
    split_ifs at once ⊢ <;> omega
  · rw [waiting]
    exact h.order

/-- The first request that waits has its outcome. -/
theorem Accounted.takes (h : Accounted m) {r : Receiver τ} {e : CameraEvent τ}
    (receivers : m.receivers = r :: m'.receivers) (tickets : m'.tickets = m.tickets)
    (trace : m'.trace = m.trace ++ [e]) (settles : Settles r e work) : Accounted m' := by
  obtain ⟨noRequest, outcome, nothing⟩ := settles.tells
  have waiting : m.waiting = r.ticket :: m'.waiting := congrArg (List.map _) receivers
  refine ⟨?_, fun t => ?_, ?_⟩
  · rw [trace, requests_append, noRequest, List.append_nil, tickets, h.numbered]
  · rw [trace, settled_append, dropped_append, outcome, nothing, tickets, ← h.once t, waiting,
      List.append_nil, List.count_append, List.count_singleton, List.count_cons]
    omega
  · have order := h.order
    rw [waiting] at order
    exact order.of_cons

theorem Handles.accounted (h : Handles m m' op? work) (account : Accounted m) : Accounted m' := by
  cases h with
  | aside aside => exact aside.accounted account
  | queued _ _ receivers tickets trace => exact account.queues receivers tickets trace
  | served _ _ receivers tickets trace settles =>
      exact account.serves receivers tickets trace settles
  | taken _ receivers tickets trace settles =>
      exact account.takes receivers tickets trace settles
  | cleared _ _ clears => exact clears.accounted account

theorem Reached.accounted (h : Reached m) : Accounted m := by
  induction h with
  | fresh => exact ⟨rfl, fun t => rfl, .nil⟩
  | enter op reached idle ih =>
      obtain ⟨_, _, _, handles⟩ := (Next.enter op idle).handles reached
      exact handles.accounted ih
  | step reached stepped ih =>
      obtain ⟨_, _, _, handles⟩ := (Next.step stepped).handles reached
      exact handles.accounted ih

/-! ### What a moment tells -/

theorem mem_settled {trace : List (CameraEvent τ)} {ticket : Nat} :
    ticket ∈ settled trace ↔ ∃ e ∈ trace, ∃ taken, e.outcome? = some (ticket, taken) := by
  simp only [settled, outcomes, List.mem_map, List.mem_filterMap]
  constructor
  · rintro ⟨⟨_, taken⟩, ⟨e, mem, outcome⟩, rfl⟩
    exact ⟨e, mem, taken, outcome⟩
  · rintro ⟨e, mem, taken, outcome⟩
    exact ⟨_, ⟨e, mem, outcome⟩, rfl⟩

theorem not_told {events : List (CameraEvent τ)} (none : outcomes events = []) {e : CameraEvent τ}
    (mem : e ∈ events) : e.outcome? = Option.none := List.filterMap_eq_nil_iff.mp none e mem

/-- Either no outcome is told, or the last thing that happens is that one is told: that of a request
made just now, or that of the first request of the queue. -/
theorem Handles.outcome_cases (h : Handles m m' op? work) :
    (∃ events, m'.trace = m.trace ++ events ∧ outcomes events = []) ∨
    (∃ tag body e, op? = some (.capture tag body) ∧
      m'.trace = m.trace ++ [.requested m.tickets] ++ [e] ∧
      Settles ⟨m.tickets, tag, body⟩ e work) ∨
    ∃ r e, m.receivers = r :: m'.receivers ∧ m'.trace = m.trace ++ [e] ∧ Settles r e work := by
  cases h with
  | aside aside =>
      obtain ⟨events, trace, none⟩ := aside.trace
      exact .inl ⟨events, trace, none.outcomes⟩
  | queued _ _ _ _ trace => exact .inl ⟨_, trace, rfl⟩
  | served op _ _ _ trace settles => exact .inr (.inl ⟨_, _, _, op, trace, settles⟩)
  | taken _ receivers _ trace settles => exact .inr (.inr ⟨_, _, receivers, trace, settles⟩)
  | cleared _ _ clears =>
      obtain ⟨_, _, _, trace₁, aside⟩ := clears
      obtain ⟨events, trace, none⟩ := aside.trace
      refine .inl ⟨.discarded m.waiting :: events, ?_, none.outcomes⟩
      rw [trace, trace₁, List.append_assoc, List.singleton_append]

theorem Handles.dropped_eq (h : Handles m m' op? work) :
    dropped m'.trace = dropped m.trace ∨
    (∃ op, op? = some op ∧ m.Discards op) ∧ dropped m'.trace = dropped m.trace ++ m.waiting := by
  cases h with
  | aside aside =>
      obtain ⟨events, trace, none⟩ := aside.trace
      left
      rw [trace, dropped_append, none.dropped, List.append_nil]
  | queued _ _ _ _ trace =>
      left
      rw [trace, dropped_append]
      exact List.append_nil _
  | served _ _ _ _ trace settles =>
      left
      rw [trace, dropped_append, dropped_append, settles.tells.2.2, List.append_nil]
      exact List.append_nil _
  | taken _ _ _ trace settles =>
      left
      rw [trace, dropped_append, settles.tells.2.2, List.append_nil]
  | cleared op discards clears =>
      obtain ⟨_, _, _, trace₁, aside⟩ := clears
      obtain ⟨events, trace, none⟩ := aside.trace
      refine .inr ⟨⟨_, op, discards⟩, ?_⟩
      rw [trace, dropped_append, none.dropped, List.append_nil, trace₁, dropped_append]
      exact congrArg _ (List.append_nil _)

theorem Handles.tickets_le (h : Handles m m' op? work) : m.tickets ≤ m'.tickets := by
  cases h with
  | aside aside => exact Nat.le_of_eq aside.tickets.symm
  | queued _ _ _ tickets | served _ _ _ tickets => exact tickets ▸ Nat.le_succ _
  | taken _ _ tickets => exact Nat.le_of_eq tickets.symm
  | cleared _ _ clears =>
      obtain ⟨_, _, tickets, _, aside⟩ := clears
      exact Nat.le_of_eq (aside.tickets.trans tickets).symm

/-! ### Whose request it was -/

/-- At `m` the request of `r` has just been made, in a run from `m₀` on. -/
def AskedAt (m₀ : CameraMachine τ) (r : Receiver τ) (m : CameraMachine τ) : Prop :=
  ∃ before : CameraMachine τ, Later m₀ before ∧ before.tickets = r.ticket ∧
    Next before (some (.capture r.tag r.body)) m

/-- `e` tells at `m` what came of the request of `r`, after all that is in `past`. -/
structure ToldAt (past : List (CameraEvent τ)) (r : Receiver τ) (e : CameraEvent τ)
    (m : CameraMachine τ) : Prop where
  trace : m.trace = past ++ [e]
  settles : Settles r e m.stack

/-- What waits has been asked for. -/
def AllAsked (m₀ m : CameraMachine τ) : Prop :=
  ∀ r ∈ m.receivers, ∃ asked, AskedAt m₀ r asked ∧ Later asked m

/-- Whatever has been discarded waited when an operation discarded it. -/
def AllDiscarded (m₀ m : CameraMachine τ) : Prop :=
  ∀ ticket ∈ dropped m.trace, ∃ before op after, Later m₀ before ∧ ticket ∈ before.waiting ∧
    before.Discards op ∧ Next before (some op) after ∧ Later after m

theorem Later.asked (h : Later m₀ m) (reached : Reached m₀) (none : m₀.receivers = []) :
    AllAsked m₀ m := by
  refine h.induction (P := AllAsked m₀) ?_ fun m op? m' since next ih => ?_
  · intro r waits
    rw [none] at waits
    cases waits
  · have keeps : ∀ r ∈ m.receivers, ∃ asked, AskedAt m₀ r asked ∧ Later asked m' := by
      intro r waits
      obtain ⟨asked, made, later⟩ := ih r waits
      exact ⟨asked, made, later.next next⟩
    obtain ⟨work, rest, _, handles⟩ := next.handles (since.reached reached)
    intro r waits
    cases handles with
    | aside aside =>
        rw [aside.receivers] at waits
        exact keeps r waits
    | queued op _ receivers =>
        subst op
        rw [receivers] at waits
        rcases List.mem_append.mp waits with waits | waits
        · exact keeps r waits
        · obtain rfl := List.mem_singleton.mp waits
          exact ⟨m', ⟨m, since, rfl, next⟩, .now⟩
    | served _ _ receivers =>
        rw [receivers] at waits
        exact keeps r waits
    | taken _ receivers =>
        rw [receivers] at keeps
        exact keeps r (List.mem_cons_of_mem _ waits)
    | cleared _ _ clears =>
        obtain ⟨_, receivers, _, _, aside⟩ := clears
        rw [aside.receivers, receivers] at waits
        cases waits

/-- The law that an outcome was told at a moment before `m`. -/
def ToldBy (m₀ m : CameraMachine τ) (past : List (CameraEvent τ)) (e : CameraEvent τ) : Prop :=
  ∀ ticket taken, e.outcome? = some (ticket, taken) →
    ∃ r asked told, r.ticket = ticket ∧ AskedAt m₀ r asked ∧ Later asked told ∧
      ToldAt past r e told ∧ Later told m

theorem Later.told (h : Later m₀ m) (reached : Reached m₀) (none : m₀.receivers = [])
    (untold : outcomes m₀.trace = []) : Lawful (ToldBy m₀ m) m.trace := by
  refine h.induction (P := fun m => Lawful (ToldBy m₀ m) m.trace) ?_
    fun m op? m' since next ih => ?_
  · intro past e future split ticket taken outcome
    rw [not_told untold (split ▸ List.mem_append_right past List.mem_cons_self)] at outcome
    cases outcome
  · have before : Lawful (ToldBy m₀ m') m.trace := by
      intro past e future split ticket taken outcome
      obtain ⟨r, asked, told, same, made, later, at_, since⟩ :=
        ih past e future split ticket taken outcome
      exact ⟨r, asked, told, same, made, later, at_, since.next next⟩
    have silent : ∀ events : List (CameraEvent τ), outcomes events = [] →
        Lawful (ToldBy m₀ m') (m.trace ++ events) := by
      intro events none
      refine before.append fun past e mem ticket taken outcome => ?_
      rw [not_told none mem] at outcome
      cases outcome
    obtain ⟨work, rest, stack, handles⟩ := next.handles (since.reached reached)
    rcases handles.outcome_cases with ⟨events, trace, none⟩ |
      ⟨tag, body, e, op, trace, settles⟩ | ⟨r, e, receivers, trace, settles⟩
    · rw [trace]
      exact silent events none
    · subst op
      have told := settles.append rest
      rw [← stack] at told
      rw [trace]
      refine lawful_append_singleton.mpr ⟨silent _ rfl, fun ticket taken outcome => ?_⟩
      obtain rfl := settles.ticket_eq outcome
      exact ⟨_, m', m', rfl, ⟨m, since, rfl, next⟩, .now, ⟨trace, told⟩, .now⟩
    · have told := settles.append rest
      rw [← stack] at told
      rw [trace]
      refine lawful_append_singleton.mpr ⟨before, fun ticket taken outcome => ?_⟩
      obtain rfl := settles.ticket_eq outcome
      have waits : r ∈ m.receivers := receivers ▸ List.mem_cons_self
      obtain ⟨asked, made, later⟩ := since.asked reached none r waits
      exact ⟨r, asked, m', rfl, made, later.next next, ⟨trace, told⟩, .now⟩

theorem Later.discarded (h : Later m₀ m) (reached : Reached m₀) (none : dropped m₀.trace = []) :
    AllDiscarded m₀ m := by
  refine h.induction (P := AllDiscarded m₀) ?_ fun m op? m' since next ih => ?_
  · intro ticket lost
    rw [none] at lost
    cases lost
  · have before : ∀ ticket ∈ dropped m.trace, ∃ before op after, Later m₀ before ∧
        ticket ∈ before.waiting ∧ before.Discards op ∧ Next before (some op) after ∧
        Later after m' := by
      intro ticket lost
      obtain ⟨m₁, op, m₂, first, waits, discards, performed, later⟩ := ih ticket lost
      exact ⟨m₁, op, m₂, first, waits, discards, performed, later.next next⟩
    obtain ⟨_, _, _, handles⟩ := next.handles (since.reached reached)
    intro ticket lost
    rcases handles.dropped_eq with same | ⟨⟨op, rfl, discards⟩, more⟩
    · rw [same] at lost
      exact before ticket lost
    · rw [more] at lost
      rcases List.mem_append.mp lost with lost | waits
      · exact before ticket lost
      · exact ⟨m, op, m', since, waits, discards, next, .now⟩

/-! ### In turn -/

/-- The law that, when `ticket` starts, all requests before it have been settled or discarded. -/
def InTurn (ticket : Nat) (past : List (CameraEvent τ)) (e : CameraEvent τ) : Prop :=
  ∀ taken, e.outcome? = some (ticket, taken) →
    ∀ earlier < ticket, earlier ∈ settled past ∨ earlier ∈ dropped past

/-- The first request of a queue is the oldest that has no outcome. -/
theorem Accounted.first (h : Accounted m) {ticket : Nat} {rest : List Nat}
    (waiting : m.waiting = ticket :: rest) {earlier : Nat} (lt : earlier < ticket) :
    earlier ∈ settled m.trace ∨ earlier ∈ dropped m.trace := by
  have there : ticket < m.tickets := h.lt_tickets (waiting ▸ List.mem_cons_self)
  rcases h.place (Nat.lt_trans lt there) with told | waits | lost
  · exact .inl told
  · have order := h.order
    rw [waiting] at waits order
    rcases List.mem_cons.mp waits with rfl | waits
    · exact absurd lt (Nat.lt_irrefl _)
    · have := List.rel_of_pairwise_cons order waits
      omega
  · exact .inr lost

/-- A request that had to wait starts in turn. -/
theorem Later.in_turn (h : Later m₀ m) (reached : Reached m₀) {ticket : Nat}
    (waits : ticket ∈ m₀.waiting) : Lawful (InTurn ticket) m.trace := by
  have known := reached.accounted.lt_tickets waits
  refine (h.induction (P := fun m => ticket < m.tickets ∧ Lawful (InTurn ticket) m.trace) ?_
    fun m op? m' since next ih => ?_).2
  · refine ⟨known, fun past e future split taken outcome => ?_⟩
    have mem : e ∈ m₀.trace := split ▸ List.mem_append_right past List.mem_cons_self
    exact absurd (mem_settled.mpr ⟨e, mem, taken, outcome⟩) (reached.accounted.unsettled waits)
  · obtain ⟨known, before⟩ := ih
    have account := (since.reached reached).accounted
    have silent : ∀ events : List (CameraEvent τ), outcomes events = [] →
        Lawful (InTurn ticket) (m.trace ++ events) := by
      intro events none
      refine before.append fun past e mem taken outcome => ?_
      rw [not_told none mem] at outcome
      cases outcome
    obtain ⟨_, _, _, handles⟩ := next.handles (since.reached reached)
    refine ⟨Nat.lt_of_lt_of_le known handles.tickets_le, ?_⟩
    rcases handles.outcome_cases with ⟨events, trace, none⟩ |
      ⟨tag, body, e, _, trace, settles⟩ | ⟨r, e, receivers, trace, settles⟩
    · rw [trace]
      exact silent events none
    · rw [trace]
      refine lawful_append_singleton.mpr ⟨silent _ rfl, fun taken outcome => ?_⟩
      obtain rfl := settles.ticket_eq outcome
      exact absurd known (Nat.lt_irrefl _)
    · rw [trace]
      refine lawful_append_singleton.mpr ⟨before, fun taken outcome earlier lt => ?_⟩
      obtain rfl := settles.ticket_eq outcome
      exact account.first (congrArg (List.map _) receivers) lt

/-! ### All requests of a run -/

/-- At `m` a request is made: it waits behind all others unless the camera streams, and then it is
served at once. -/
def Asks (m : CameraMachine τ) (tag : τ) (body : List (CameraOp τ)) (m' : CameraMachine τ) : Prop :=
  if m.camera.isAt .previewStarted then
    m'.receivers = m.receivers ∧ ∃ e, m'.trace = m.trace ++ [.requested m.tickets] ++ [e] ∧
      Settles ⟨m.tickets, tag, body⟩ e m'.stack
  else
    m'.receivers = m.receivers ++ [⟨m.tickets, tag, body⟩] ∧
      m'.trace = m.trace ++ [.requested m.tickets]

theorem Next.asks {tag : τ} {body : List (CameraOp τ)} (h : Next m (some (.capture tag body)) m')
    (agreed : m.camera.Agreed) : Asks m tag body m' := by
  obtain ⟨rest, -, rfl⟩ := h.performs
  unfold Asks
  split
  next complete =>
    obtain ⟨receivers, _, e, trace, settles⟩ := capture_served complete tag body
    exact ⟨receivers, e, trace, settles.append rest⟩
  next incomplete =>
    have incomplete : m.camera.isAt .previewStarted = false := by simpa using incomplete
    obtain ⟨receivers, _, trace⟩ := capture_queued agreed incomplete tag body
    exact ⟨receivers, trace⟩

/-- What is known at `m` of the requests of a run from `start` on, over a device of the kind
`spec`. -/
structure Ledger (spec : DeviceSpec) (start m : CameraMachine τ) : Prop where
  /-- Each request is in one place, and there once. -/
  account : Accounted m
  /-- The device is called once for each outcome, in the same order. -/
  calls : m.camera.device.pictures = (outcomes m.trace).map (·.2)
  /-- Frames are numbered from one on, by a counter that stays at its largest value. -/
  frames : ∀ n frame, (frames m.trace)[n]? = some frame →
    frame.data = s!"frame-{min (n + 1) (UInt64.size - 1)}" ∧ frame.size = spec.pictureSize
  /-- Requests wait if they have to, and are served at once otherwise. -/
  asks : ∀ tag body m', Next m (some (.capture tag body)) m' → Asks m tag body m'
  /-- Outcomes are told to whom they belong. -/
  told : Lawful (ToldBy start m) m.trace
  /-- Whoever has waited starts in turn. -/
  inTurn : ∀ m₀ ticket, Later start m₀ → Later m₀ m → ticket ∈ m₀.waiting →
    Lawful (InTurn ticket) m.trace
  /-- Requests wait only for the camera to stream, or for the run that has come to them. -/
  waits : m.waiting ≠ [] → m.camera.isAt .previewStarted = false ∨
    .dispatch .previewStarted m.camera.gate.cycle ∈ m.stack
  /-- Requests are discarded only by operations, while they wait. -/
  discarded : AllDiscarded start m

/-- **One outcome.**  At every moment of a run, whatever receivers and the listener do and whatever
calls are refused, each request for a picture has come to one outcome or waits or has been
discarded, all in all once.  For each outcome the device has been called once, and the outcome has
been told once: the frame to the receiver of that request, or the failure to the listener.  The
pictures are numbered over the whole run; requests that have to wait start in the order in which
they were made; and a request without an outcome waits for the camera to stream, or was discarded
while it waited, by a release, a flip or an opening that failed. -/
theorem Later.one_outcome {spec : DeviceSpec} {refusals : DeviceRefusals}
    {reportedFacing : Option Facing} {facing : Facing} {plan : List (List (CameraOp τ))}
    (h : Later (ofDevice { spec, refusals, reportedFacing } facing plan) m) :
    Ledger spec (ofDevice { spec, refusals, reportedFacing } facing plan) m := by
  have fresh : Reached (ofDevice { spec, refusals, reportedFacing } facing plan) := .fresh ..
  have reached := h.reached fresh
  have tally := h.tallied
  constructor
  · exact reached.accounted
  · exact tally.told
  · intro n frame there
    rw [tally.frames, List.getElem?_map] at there
    obtain ⟨number, same, rfl⟩ := Option.map_eq_some_iff.mp there
    obtain ⟨_, rfl⟩ := List.getElem?_eq_some_iff.mp same
    rw [List.getElem_range]
    exact ⟨rfl, rfl⟩
  · exact fun tag body m' next => next.asks reached.agreed
  · exact h.told fresh rfl rfl
  · exact fun m₀ ticket since later waits => later.in_turn (since.reached fresh) waits
  · intro waits
    cases complete : m.camera.isAt .previewStarted with
    | false => exact .inl rfl
    | true =>
        refine .inr (reached.covered .previewStarted complete fun none => waits ?_)
        rw [waiting, receivers, none]
        rfl
  · exact h.discarded fresh rfl

/-- A camera whose second picture is refused, when it has just been opened.  Two requests wait for
it to stream; the receiver of the first one asks for another picture and releases the camera. -/
def nested : CameraMachine Unit :=
  ((((ofDevice { refusals := { takePicture := { refused := [1] } } } .back).enter
    (.capture () [.capture () [], .release])).enter (.capture () [])).enter
    (.linkSurface 7)).enter .openCamera

/-- The picture asked for from within is refused, and the second request is discarded. -/
theorem one_outcome_nested : ∃ m : CameraMachine Unit,
    outcomes m.trace = [(0, true), (2, false)] ∧ dropped m.trace = [1] ∧ m.stack = [] ∧
    Ledger {} (ofDevice { refusals := { takePicture := { refused := [1] } } } .back) m := by
  have entered :
      Later (ofDevice { refusals := { takePicture := { refused := [1] } } } .back) nested :=
    .enter _ (.enter _ (.enter _ (.enter _ .now rfl) rfl) rfl) rfl
  have ledger := Later.one_outcome (entered.steps 30)
  exact ⟨steps 30 nested, rfl, rfl, rfl, ledger⟩

end CameraMachine

end CaptureFlow
