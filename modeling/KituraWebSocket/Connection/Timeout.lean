/-
# The timer

The timer fires every half timeout, to within a tenth of that. It pings when nothing
has been received for more than 0.4 timeouts, and closes when nothing has been
received for more than a whole one. `closed_after_ping` says that these four
constants fit together: whatever the phase of the frames and the jitter of the
timer, the last firing before the one that closes has pinged, because it falls
between 0.45 and 1 timeouts after the last frame.
-/

import KituraWebSocket.Connection.Handshake
import Mathlib.Data.List.Chain
import Mathlib.Tactic.Linarith

namespace KituraWebSocket

namespace ConnectionEvent

/-- The clock reading of an event. -/
def clockReading : ConnectionEvent → Option ℚ
  | .received now _ | .timer now => some now
  | _ => none

/-- The time at which a frame is received. -/
def frameAt : ConnectionEvent → Option ℚ
  | .received now _ => some now
  | _ => none

/-- The time at which the timer fires. -/
def firedAt : ConnectionEvent → Option ℚ
  | .timer now => some now
  | _ => none

/-- The timeout stays as it is, and so do the references to the processor and the handler. -/
def Stays : ConnectionEvent → Prop
  | .serviceChanged _ | .handlerReleased | .processorReleased => False
  | _ => True

end ConnectionEvent

/-- When the timer fires in a list of events. -/
def firings (events : List ConnectionEvent) : List ℚ := events.filterMap ConnectionEvent.firedAt

/-- The clock readings in a list of events. -/
def clockReadings (events : List ConnectionEvent) : List ℚ :=
  events.filterMap ConnectionEvent.clockReading

/-- The time of the last frame received, or of the start if there was none. -/
def lastFrame (start : ℚ) (events : List ConnectionEvent) : ℚ :=
  events.foldl (fun last event => event.frameAt.getD last) start

/-- The times of a run with a timeout of `T` seconds: the clock does not go back, and the
timer fires at once and then every `T / 2`, with a leeway of `T / 20`. -/
structure Timetable (T : ℤ) (start : ℚ) (events : List ConnectionEvent) : Prop where
  ordered : (start :: clockReadings events).Pairwise (· ≤ ·)
  first : ∀ now ∈ (firings events).head?, now ≤ start + 5 / 100 * T
  period : (firings events).IsChain fun earlier later : ℚ =>
    45 / 100 * T ≤ later - earlier ∧ later - earlier ≤ 55 / 100 * T
  stays : ∀ event ∈ events, event.Stays

/-- From the start of a run to its end, frames are received at most `T` seconds apart. -/
def FrameEvery (T : ℤ) (start final : ℚ) (events : List ConnectionEvent) : Prop :=
  (∀ now ∈ clockReadings events, now ≤ final) ∧
    (start :: events.filterMap ConnectionEvent.frameAt ++ [final]).IsChain
      fun earlier later : ℚ => later ≤ earlier + T

theorem firings_concat (events : List ConnectionEvent) (event : ConnectionEvent) :
    firings (events ++ [event]) = firings events ++ event.firedAt.toList := by
  rw [firings, List.filterMap_append]
  cases hfired : event.firedAt <;> simp [hfired, firings]

theorem clockReadings_concat (events : List ConnectionEvent) (event : ConnectionEvent) :
    clockReadings (events ++ [event]) = clockReadings events ++ event.clockReading.toList := by
  rw [clockReadings, List.filterMap_append]
  cases hreading : event.clockReading <;> simp [hreading, clockReadings]

@[simp]
theorem lastFrame_concat (start : ℚ) (events : List ConnectionEvent) (event : ConnectionEvent) :
    lastFrame start (events ++ [event]) = event.frameAt.getD (lastFrame start events) := by
  simp [lastFrame]

/-- The last frame is received at the start or when the clock is read. -/
theorem lastFrame_mem (start : ℚ) (events : List ConnectionEvent) :
    lastFrame start events ∈ start :: clockReadings events := by
  induction events using List.reverseRecOn with
  | nil => exact List.mem_cons_self
  | append_singleton events event ih =>
    rw [lastFrame_concat, clockReadings_concat]
    cases event with
    | received now frame => simp [ConnectionEvent.frameAt, ConnectionEvent.clockReading]
    | timer now =>
      rw [List.mem_cons] at ih ⊢
      exact ih.imp_right (List.mem_append_left _)
    | _ => simpa [ConnectionEvent.frameAt, ConnectionEvent.clockReading] using ih

/-- The last frame is the last of the times at which frames are received. -/
theorem getLast_frames (start : ℚ) (events : List ConnectionEvent) :
    lastFrame start events ∈
      (start :: events.filterMap ConnectionEvent.frameAt).getLast? := by
  induction events using List.reverseRecOn with
  | nil => rfl
  | append_singleton events event ih =>
    rw [lastFrame_concat, List.filterMap_append, ← List.cons_append]
    cases hframe : event.frameAt with
    | none => simpa [hframe] using ih
    | some now =>
      have hone : [event].filterMap ConnectionEvent.frameAt = [now] := by simp [hframe]
      rw [hone, List.getLast?_concat]
      rfl

theorem firings_subset (events : List ConnectionEvent) :
    firings events ⊆ clockReadings events := by
  intro now hnow
  obtain ⟨event, hevent, hfired⟩ := List.mem_filterMap.mp hnow
  apply List.mem_filterMap.mpr
  cases event with
  | timer time => exact ⟨_, hevent, hfired⟩
  | _ => cases hfired

section Timetable

variable {T : ℤ} {start : ℚ} {events : List ConnectionEvent}

/-- The times of the beginning of a run. -/
theorem Timetable.of_append {more : List ConnectionEvent}
    (htimes : Timetable T start (events ++ more)) : Timetable T start events := by
  constructor
  · have hordered := htimes.ordered
    rw [clockReadings, List.filterMap_append, ← List.cons_append] at hordered
    exact (List.pairwise_append.mp hordered).1
  · intro now hnow
    apply htimes.first
    rw [Option.mem_def, firings] at hnow ⊢
    rw [List.filterMap_append, List.head?_append, hnow]
    rfl
  · have hperiod := htimes.period
    rw [firings, List.filterMap_append] at hperiod
    exact (List.isChain_append.mp hperiod).1
  · exact fun event hevent => htimes.stays event (List.mem_append_left more hevent)

/-- What an event with a clock reading comes after. -/
theorem Timetable.le_reading {event : ConnectionEvent} {now : ℚ}
    (htimes : Timetable T start (events ++ [event])) (hreading : event.clockReading = some now)
    {earlier : ℚ} (hearlier : earlier ∈ start :: clockReadings events) : earlier ≤ now := by
  have hordered := htimes.ordered
  rw [clockReadings_concat, hreading, ← List.cons_append] at hordered
  exact (List.pairwise_append.mp hordered).2.2 earlier hearlier now (by simp)

/-- The first firing comes soon after the start. -/
theorem Timetable.first_firing {now : ℚ}
    (htimes : Timetable T start (events ++ [.timer now])) (hnone : firings events = []) :
    now ≤ start + 5 / 100 * T := by
  apply htimes.first
  rw [firings_concat, hnone]
  rfl

/-- A later firing comes half a timeout after the one before. -/
theorem Timetable.next_firing {now fired : ℚ}
    (htimes : Timetable T start (events ++ [.timer now]))
    (hfired : fired ∈ (firings events).getLast?) :
    45 / 100 * T ≤ now - fired ∧ now - fired ≤ 55 / 100 * T := by
  have hperiod := htimes.period
  rw [firings_concat] at hperiod
  exact (List.isChain_append.mp hperiod).2.2 fired hfired now rfl

/-- If frames are received at most `T` seconds apart, the last one is never older. -/
theorem FrameEvery.recent {final now : ℚ} {before after : List ConnectionEvent}
    (hevery : FrameEvery T start final (before ++ .timer now :: after))
    (htimes : Timetable T start (before ++ .timer now :: after)) :
    now ≤ lastFrame start before + T := by
  obtain ⟨hfinal, hchain⟩ := hevery
  rw [List.filterMap_append, ← List.cons_append, List.append_assoc] at hchain
  have hnext := (List.isChain_append.mp hchain).2.2 _ (getLast_frames start before)
  have hordered := htimes.ordered
  rw [clockReadings, List.filterMap_append, ← List.cons_append] at hordered
  have hlater : ∀ later ∈ after.filterMap ConnectionEvent.clockReading, now ≤ later :=
    (List.pairwise_cons.mp (List.pairwise_append.mp hordered).2.1).1
  have hskip : (ConnectionEvent.timer now :: after).filterMap ConnectionEvent.frameAt =
      after.filterMap ConnectionEvent.frameAt := rfl
  rw [hskip] at hnext
  cases hframes : after.filterMap ConnectionEvent.frameAt with
  | nil =>
    rw [hframes] at hnext
    have hend := hfinal now (by simp [clockReadings, ConnectionEvent.clockReading])
    exact hend.trans (hnext final rfl)
  | cons frame frames =>
    rw [hframes] at hnext
    have hmem : frame ∈ after.filterMap ConnectionEvent.frameAt := by simp [hframes]
    obtain ⟨event, hevent, hframe⟩ := List.mem_filterMap.mp hmem
    have hreading : event.clockReading = some frame := by
      cases event with
      | received time received => exact hframe
      | _ => cases hframe
    have hfirst := hlater frame (List.mem_filterMap.mpr ⟨event, hevent, hreading⟩)
    exact hfirst.trans (hnext frame rfl)

end Timetable

namespace WebSocketConnection

/-- A connection in operation with a timeout, and the time of the last frame. -/
structure Watched (T : ℤ) (last : ℚ) (connection : WebSocketConnection) : Prop where
  service : connection.service = some ⟨some T⟩
  alive : connection.processorAlive = true
  attached : connection.handlerAttached = true
  last : connection.lastFrameReceivedAt = some last

/-- A ping is written when the timer fires, and no frame is received after that. -/
def PingedSince (handler : SocketHandler) (T : ℤ) (start : ℚ) (events : List ConnectionEvent)
    (pinged : ℚ) : Prop :=
  ∃ before after connection next, events = before ++ .timer pinged :: after ∧
    (∀ event ∈ after, event.frameAt = none) ∧
    run handler (opened (some ⟨some T⟩) start) before = .ok connection ∧
    step handler connection (.timer pinged) = .ok next ∧
    next.log = connection.log ++ [.frame (SentFrame.of .ping none)]

section Watched

variable {handler : SocketHandler} {T : ℤ} {last now : ℚ} {connection : WebSocketConnection}

theorem Watched.sent (hwatched : connection.Watched T last) (opCode : FrameOpcode)
    (payload : Option (List UInt8)) : (connection.sent opCode payload).Watched T last := by
  have hsent : (connection.sent opCode payload).service = connection.service ∧
      (connection.sent opCode payload).lastFrameReceivedAt = connection.lastFrameReceivedAt := by
    rw [WebSocketConnection.sent]
    split <;> exact ⟨rfl, rfl⟩
  constructor
  · rw [hsent.1, hwatched.service]
  · rw [sent_processorAlive, hwatched.alive]
  · rw [sent_handlerAttached, hwatched.attached]
  · rw [hsent.2, hwatched.last]

theorem Watched.sentIfActive (hwatched : connection.Watched T last) (opCode : FrameOpcode)
    (payload : Option (List UInt8)) : (connection.sentIfActive opCode payload).Watched T last := by
  rw [WebSocketConnection.sentIfActive]
  split
  · exact hwatched.sent opCode payload
  · exact hwatched

theorem Watched.noted (hwatched : connection.Watched T last) (now : ℚ) (frame : WSFrame) :
    (connection.noted now frame).Watched T now := by
  constructor
  · exact hwatched.service
  · exact hwatched.alive
  · exact hwatched.attached
  · simp [WebSocketConnection.noted, hwatched.last]

theorem Watched.settled (hwatched : connection.Watched T last) {verdict : Verdict}
    (hopen : verdict.closes = false) : (connection.settled handler verdict).Watched T last := by
  cases verdict with
  | nothing => exact hwatched
  | deliver message => exact ⟨hwatched.service, hwatched.alive, hwatched.attached, hwatched.last⟩
  | pong payload => exact hwatched.sent .pong (some payload)
  | violation description => cases hopen
  | invalidData description => cases hopen
  | closed reason description => cases hopen

/-- An event that leaves the connection active leaves it watched. -/
theorem Watched.after (hwatched : connection.Watched T last) {event : ConnectionEvent}
    (hstays : event.Stays) (hopen : connection.ends event = false) :
    (connection.after handler event).Watched T (event.frameAt.getD last) := by
  cases event with
  | sendData message asBinary => exact hwatched.sentIfActive _ _
  | sendString message => exact hwatched.sentIfActive _ _
  | ping withMessage => exact hwatched.sentIfActive _ _
  | close reason description => cases hopen
  | drop reason description => cases hopen
  | received now frame => exact (hwatched.noted now frame).settled hopen
  | parseError error => cases hopen
  | timer now =>
    rw [WebSocketConnection.after]
    cases hverdict : connection.timerVerdict now with
    | rest => exact hwatched
    | ping => exact hwatched.sentIfActive .ping none
    | expired => simp [ends, hverdict] at hopen
  | processorClose =>
    rw [ends, hwatched.alive] at hopen
    cases hopen
  | socketClosed =>
    rw [ends, hwatched.alive] at hopen
    cases hopen
  | serviceChanged service => exact hstays.elim
  | handlerReleased => exact hstays.elim
  | processorReleased => exact hstays.elim

theorem Watched.timerVerdict_eq (hwatched : connection.Watched T last) (now : ℚ) :
    connection.timerVerdict now =
      if |last - now| > T * (4 / 10) then if |last - now| > T then .expired else .ping
      else .rest := by
  rw [timerVerdict, hwatched.service, hwatched.last]
  rfl

/-- The timer rests while the last frame is recent. -/
theorem Watched.recent (hwatched : connection.Watched T last)
    (hrest : connection.timerVerdict now = .rest) : now - last ≤ 4 / 10 * T := by
  rw [hwatched.timerVerdict_eq] at hrest
  split_ifs at hrest with hquiet
  have hrecent := (abs_le.mp (not_lt.mp hquiet)).1
  linarith

/-- The timer closes when more than the timeout has passed. -/
theorem Watched.expired (hwatched : connection.Watched T last) (hordered : last ≤ now)
    (hexpired : connection.timerVerdict now = .expired) : T < now - last := by
  rw [hwatched.timerVerdict_eq] at hexpired
  split_ifs at hexpired with hquiet hdead
  rw [abs_of_nonpos (by linarith)] at hdead
  linarith

/-- The timer writes a ping. -/
theorem Watched.pings (hwatched : connection.Watched T last) (hactive : connection.active = true)
    (hping : connection.timerVerdict now = .ping) :
    (connection.after handler (.timer now)).log =
      connection.log ++ [.frame (SentFrame.of .ping none)] := by
  rw [after_log, outputs, hping]
  simp [framedIfActive, framed, hactive, hwatched.alive, hwatched.attached]

end Watched

/-- What the timer has done for an active connection: it rested at its last firing, or it has
pinged then. -/
structure Waiting (handler : SocketHandler) (T : ℤ) (start : ℚ) (events : List ConnectionEvent)
    (connection : WebSocketConnection) : Prop where
  watched : connection.Watched T (lastFrame start events)
  pinged : ∀ fired ∈ (firings events).getLast?,
    fired - lastFrame start events ≤ 4 / 10 * T ∨ PingedSince handler T start events fired

/-- A ping stays the last thing to happen until the next frame. -/
theorem PingedSince.concat {handler : SocketHandler} {T : ℤ} {start pinged : ℚ}
    {events : List ConnectionEvent} (hpinged : PingedSince handler T start events pinged)
    {event : ConnectionEvent} (hother : event.frameAt = none) :
    PingedSince handler T start (events ++ [event]) pinged := by
  obtain ⟨before, after, connection, next, rfl, hquiet, hrun, hstep, hlog⟩ := hpinged
  refine ⟨before, after ++ [event], connection, next, by simp, ?_, hrun, hstep, hlog⟩
  intro later hlater
  rcases List.mem_append.mp hlater with hearlier | hnow
  · exact hquiet later hearlier
  · rw [List.mem_singleton.mp hnow]
    exact hother

section Run

variable {handler : SocketHandler} {T : ℤ} {start : ℚ} {events : List ConnectionEvent}

/-- Every event that leaves the connection active leaves it waiting. -/
theorem Waiting.step {connection : WebSocketConnection} (hT : 1 ≤ T)
    (hwaiting : Waiting handler T start events connection)
    (hrun : run handler (opened (some ⟨some T⟩) start) events = .ok connection)
    (hactive : connection.active = true) {event : ConnectionEvent}
    (htimes : Timetable T start (events ++ [event])) (hopen : connection.ends event = false) :
    Waiting handler T start (events ++ [event]) (connection.after handler event) := by
  have hT : (1 : ℚ) ≤ T := by exact_mod_cast hT
  constructor
  · rw [lastFrame_concat]
    exact hwaiting.watched.after (htimes.stays event (by simp)) hopen
  · intro fired hfired
    rw [firings_concat] at hfired
    rw [lastFrame_concat]
    cases event with
    | timer now =>
      obtain rfl : fired = now := by
        simpa [ConnectionEvent.firedAt, eq_comm] using hfired
      cases hverdict : connection.timerVerdict fired with
      | rest => exact .inl (hwaiting.watched.recent hverdict)
      | ping =>
        right
        refine ⟨events, [], connection, _, rfl, by simp, hrun, timerFired_returns connection fired, ?_⟩
        exact hwaiting.watched.pings hactive hverdict
      | expired => simp [ends, hverdict] at hopen
    | received now frame =>
      -- The frame comes after the last firing.
      have hearlier : fired ∈ firings events := by
        apply List.mem_of_getLast?
        simpa [ConnectionEvent.firedAt] using hfired
      have hordered := htimes.le_reading rfl (List.mem_cons_of_mem start (firings_subset _ hearlier))
      left
      show fired - now ≤ 4 / 10 * T
      linarith
    | _ =>
      simp only [ConnectionEvent.firedAt, Option.toList_none, List.append_nil] at hfired
      exact (hwaiting.pinged fired hfired).imp_right fun hpinged => hpinged.concat rfl

/-- An active connection is waiting, all along a run. -/
theorem waiting_of_run {connection : WebSocketConnection} (hT : 1 ≤ T)
    (htimes : Timetable T start events)
    (hrun : run handler (opened (some ⟨some T⟩) start) events = .ok connection)
    (hactive : connection.active = true) : Waiting handler T start events connection := by
  induction events using List.reverseRecOn generalizing connection with
  | nil =>
    cases hrun
    exact ⟨⟨rfl, rfl, rfl, rfl⟩, fun fired hfired => by cases hfired⟩
  | append_singleton events event ih =>
    obtain ⟨middle, hmiddle, hlast⟩ := FallibleRun.run_concat_ok.mp hrun
    obtain rfl := eq_after_of_step hlast
    obtain ⟨hbefore, hopen⟩ : middle.active = true ∧ middle.ends event = false := by
      simpa [after_active] using hactive
    exact (ih htimes.of_append hmiddle hbefore).step hT hmiddle hbefore htimes hopen

end Run

/-- The timer closes an active connection. -/
def TimesOut (handler : SocketHandler) (connection : WebSocketConnection)
    (event : ConnectionEvent) : Prop :=
  connection.active = true ∧ ∃ now next, event = .timer now ∧
    step handler connection event = .ok next ∧ next.active = false

theorem expired_of_timesOut {handler : SocketHandler} {connection : WebSocketConnection} {now : ℚ}
    (hout : connection.TimesOut handler (.timer now)) : connection.timerVerdict now = .expired := by
  obtain ⟨hactive, _, next, _, hstep, hclosed⟩ := hout
  rw [eq_after_of_step hstep, after_active, hactive] at hclosed
  simpa [ends] using hclosed

/-- When the timer closes an active connection, more than the timeout has passed since the last
frame, and a ping was written after that frame and at least 0.45 timeouts before the close. A
connection on which frames arrive at least every `T` seconds is never closed by the timer. -/
theorem closed_after_ping (handler : SocketHandler) (T : ℤ) (hT : 1 ≤ T) (start : ℚ)
    (events : List ConnectionEvent) (htimes : Timetable T start events) :
    (∀ before now after connection, events = before ++ .timer now :: after →
      run handler (opened (some ⟨some T⟩) start) before = .ok connection →
      connection.TimesOut handler (.timer now) →
      T < now - lastFrame start before ∧
        ∃ pinged, PingedSince handler T start before pinged ∧
          lastFrame start before < pinged ∧ pinged ≤ now - 45 / 100 * T) ∧
    ∀ final, FrameEvery T start final events →
      FallibleRun.NoStep (step handler) (opened (some ⟨some T⟩) start) events
        (TimesOut handler) := by
  have hpositive : (1 : ℚ) ≤ T := by exact_mod_cast hT
  have hexpired : ∀ before now after connection, events = before ++ .timer now :: after →
      run handler (opened (some ⟨some T⟩) start) before = .ok connection →
      connection.TimesOut handler (.timer now) →
      Waiting handler T start before connection ∧ T < now - lastFrame start before := by
    intro before now after connection hsplit hrun hout
    rw [hsplit, List.append_cons] at htimes
    have htimes := htimes.of_append
    have hwaiting := waiting_of_run hT htimes.of_append hrun hout.1
    exact ⟨hwaiting, hwaiting.watched.expired (htimes.le_reading rfl (lastFrame_mem start before))
      (expired_of_timesOut hout)⟩
  constructor
  · intro before now after connection hsplit hrun hout
    obtain ⟨hwaiting, hlong⟩ := hexpired before now after connection hsplit hrun hout
    rw [hsplit, List.append_cons] at htimes
    have htimes := htimes.of_append
    have hstarted := htimes.of_append.ordered
    refine ⟨hlong, ?_⟩
    cases hfirings : (firings before).getLast? with
    | none =>
      -- The first firing comes too soon after the start to close.
      have hsoon := htimes.first_firing (List.getLast?_eq_none_iff.mp hfirings)
      have hafter : start ≤ lastFrame start before := by
        rcases List.mem_cons.mp (lastFrame_mem start before) with hstart | hread
        · exact hstart.ge
        · exact (List.pairwise_cons.mp hstarted).1 _ hread
      linarith
    | some fired =>
      have hperiod := htimes.next_firing hfirings
      rcases hwaiting.pinged fired hfirings with hrecent | hpinged
      · linarith
      · exact ⟨fired, hpinged, by linarith, by linarith⟩
  · intro final hevery before event after connection hsplit hrun hout
    obtain ⟨now, _, rfl, _⟩ := hout.2
    have hlong := (hexpired before now after connection hsplit hrun hout).2
    rw [hsplit] at hevery htimes
    have hrecent := hevery.recent htimes
    linarith

/-- Nothing is received for a second and a half after the start. -/
theorem closed_after_ping_silence :
    (1 : ℤ) < (3 / 2 : ℚ) - lastFrame 0 [.timer 0, .timer (1 / 2), .timer 1] ∧
      ∃ pinged, PingedSince ⟨fun _ => false⟩ 1 0 [.timer 0, .timer (1 / 2), .timer 1] pinged ∧
        lastFrame 0 [.timer 0, .timer (1 / 2), .timer 1] < pinged ∧
        pinged ≤ 3 / 2 - 45 / 100 * (1 : ℤ) :=
  (closed_after_ping ⟨fun _ => false⟩ 1 le_rfl 0
    [.timer 0, .timer (1 / 2), .timer 1, .timer (3 / 2)]
    ⟨by decide +kernel, by decide +kernel, by decide +kernel, by simp [ConnectionEvent.Stays]⟩).1
    [.timer 0, .timer (1 / 2), .timer 1] (3 / 2) []
    (((opened (some ⟨some 1⟩) 0).sent .ping none).sent .ping none) rfl (by decide +kernel)
    ⟨by decide +kernel, 3 / 2,
      (((opened (some ⟨some 1⟩) 0).sent .ping none).sent .ping none).after ⟨fun _ => false⟩
        (.timer (3 / 2)),
      rfl, by decide +kernel, by decide +kernel⟩

end WebSocketConnection

end KituraWebSocket
