/-
# How long a silence lasts

`closed_after_ping` says that the timer is patient. It is not too patient either: as long as it
fires on time, a client that sends nothing is pinged within 0.95 timeouts, at most twice, and
the connection is closed within 1.55 timeouts (`silence_ends`).
-/

import KituraWebSocket.Connection.Timeout

namespace KituraWebSocket

/-- The timer is not overdue at a time that no clock reading comes after: it fires soon after the
start, and then again within 0.55 timeouts. -/
structure OnTime (T : ℤ) (start : ℚ) (events : List ConnectionEvent) (now : ℚ) : Prop where
  latest : ∀ reading ∈ clockReadings events, reading ≤ now
  started : firings events = [] → now ≤ start + 5 / 100 * T
  due : ∀ fired ∈ (firings events).getLast?, now ≤ fired + 55 / 100 * T

/-- Events without a frame leave the last frame the last. -/
theorem lastFrame_append_quiet (start : ℚ) (before : List ConnectionEvent)
    {quiet : List ConnectionEvent} (hquiet : ∀ event ∈ quiet, event.frameAt = none) :
    lastFrame start (before ++ quiet) = lastFrame start before := by
  induction quiet using List.reverseRecOn with
  | nil => rw [List.append_nil]
  | append_singleton quiet event ih =>
    rw [← List.append_assoc, lastFrame_concat, hquiet event (by simp)]
    exact ih fun earlier hearlier => hquiet earlier (by simp [hearlier])

/-- The second of two firings is at least 0.45 timeouts later. -/
def Apart (T : ℤ) (earlier later : ℚ) : Prop := earlier + 45 / 100 * T ≤ later

theorem Apart.isTrans {T : ℤ} (hT : 1 ≤ T) : IsTrans ℚ (Apart T) where
  trans earlier middle later hfirst hsecond := by
    have hpositive : (1 : ℚ) ≤ T := by exact_mod_cast hT
    simp only [Apart] at hfirst hsecond ⊢
    linarith

/-- No two firings are closer than 0.45 timeouts. -/
theorem Timetable.apart {T : ℤ} {start : ℚ} {events : List ConnectionEvent} (hT : 1 ≤ T)
    (htimes : Timetable T start events) {first second : ℚ} (hfirst : first ∈ firings events)
    (hsecond : second ∈ firings events) (hlater : first < second) : Apart T first second := by
  have hpositive : (1 : ℚ) ≤ T := by exact_mod_cast hT
  have htrans := Apart.isTrans hT
  have hchain : (firings events).IsChain (Apart T) := by
    refine htimes.period.imp fun {earlier later} hperiod => ?_
    simp only [Apart]
    linarith [hperiod.1]
  -- Of two different firings, one is the earlier.
  have hpairwise := List.isChain_iff_pairwise.mp hchain
  have heither : (firings events).Pairwise fun earlier later =>
      Apart T earlier later ∨ Apart T later earlier := hpairwise.imp .inl
  have hsymm : Std.Symm fun earlier later => Apart T earlier later ∨ Apart T later earlier :=
    ⟨fun _ _ h => h.symm⟩
  rcases heither.forall hfirst hsecond hlater.ne with happart | happart
  · exact happart
  · simp only [Apart] at happart
    linarith

namespace WebSocketConnection

section Pinged

variable {handler : SocketHandler} {T : ℤ} {start : ℚ} {events : List ConnectionEvent}
  {connection : WebSocketConnection}

/-- Only the timer's ping of an active connection appends a ping and nothing else. -/
theorem pings_of_outputs {now : ℚ}
    (houtputs : connection.outputs handler (.timer now) = [.frame (SentFrame.of .ping none)]) :
    connection.timerVerdict now = .ping ∧ connection.active = true := by
  rw [outputs] at houtputs
  cases hverdict : connection.timerVerdict now with
  | rest =>
    rw [hverdict] at houtputs
    cases houtputs
  | ping =>
    simp only [hverdict, framedIfActive] at houtputs
    cases hactive : connection.active with
    | true => exact ⟨rfl, rfl⟩
    | false => simp [hactive] at houtputs
  | expired =>
    simp only [hverdict, notifiedOutputs, closeRequest] at houtputs
    split_ifs at houtputs with hactive
    · have hlast := congrArg List.getLast? houtputs
      simp at hlast
    · simp at houtputs

/-- The timer pings between 0.4 and 1 timeouts after the last frame, at one of its firings. -/
theorem PingedSince.between {pinged : ℚ} (hT : 1 ≤ T) (htimes : Timetable T start events)
    (hpinged : PingedSince handler T start events pinged) :
    pinged ∈ firings events ∧ lastFrame start events + 4 / 10 * T < pinged ∧
      pinged ≤ lastFrame start events + T := by
  obtain ⟨before, after, connection, next, rfl, hquiet, hrun, hstep, hlog⟩ := hpinged
  rw [log_of_step hstep, List.append_cancel_left_eq] at hlog
  obtain ⟨hverdict, hactive⟩ := pings_of_outputs hlog
  have htimes' : Timetable T start (before ++ [.timer pinged]) := by
    rw [List.append_cons] at htimes
    exact htimes.of_append
  have hwatched := (waiting_of_run hT htimes'.of_append hrun hactive).watched
  have hordered := htimes'.le_reading rfl (lastFrame_mem start before)
  have hlast : lastFrame start (before ++ .timer pinged :: after) = lastFrame start before := by
    apply lastFrame_append_quiet
    intro event hevent
    rcases List.mem_cons.mp hevent with rfl | hlater
    · rfl
    · exact hquiet event hlater
  rw [hwatched.timerVerdict_eq, abs_of_nonpos (by linarith)] at hverdict
  split_ifs at hverdict with hlong hdead
  rw [hlast]
  refine ⟨?_, by linarith, by linarith⟩
  simp [firings, ConnectionEvent.firedAt]

end Pinged

/-- As long as the timer fires on time, an active connection has received a frame in the last 1.55
timeouts. If the last frame is more than 0.95 timeouts old, the client has been pinged since, and it
is pinged at most twice. -/
theorem silence_ends (handler : SocketHandler) (T : ℤ) (hT : 1 ≤ T) (start now : ℚ)
    (events : List ConnectionEvent) (htimes : Timetable T start events)
    (hontime : OnTime T start events now) (last : WebSocketConnection)
    (hrun : run handler (opened (some ⟨some T⟩) start) events = .ok last)
    (hactive : last.active = true) :
    now ≤ lastFrame start events + 155 / 100 * T ∧
      (lastFrame start events + 95 / 100 * T < now →
        ∃ pinged, PingedSince handler T start events pinged) ∧
      ∀ first second third, first < second → second < third →
        PingedSince handler T start events first → PingedSince handler T start events second →
          ¬ PingedSince handler T start events third := by
  have hpositive : (1 : ℚ) ≤ T := by exact_mod_cast hT
  have hwaiting := waiting_of_run hT htimes hrun hactive
  have hstarted : start ≤ lastFrame start events := by
    rcases List.mem_cons.mp (lastFrame_mem start events) with hstart | hread
    · exact hstart.ge
    · exact (List.pairwise_cons.mp htimes.ordered).1 _ hread
  refine ⟨?_, ?_, ?_⟩
  · cases hfirings : (firings events).getLast? with
    | none =>
      have hsoon := hontime.started (List.getLast?_eq_none_iff.mp hfirings)
      linarith
    | some fired =>
      have hdue := hontime.due fired hfirings
      rcases hwaiting.pinged fired hfirings with hrecent | hpinged
      · linarith
      · have hbetween := (hpinged.between hT htimes).2.2
        linarith
  · intro hlong
    cases hfirings : (firings events).getLast? with
    | none =>
      have hsoon := hontime.started (List.getLast?_eq_none_iff.mp hfirings)
      linarith
    | some fired =>
      have hdue := hontime.due fired hfirings
      rcases hwaiting.pinged fired hfirings with hrecent | hpinged
      · linarith
      · exact ⟨fired, hpinged⟩
  · intro first second third hfirst hsecond hone htwo hthree
    obtain ⟨hone, hearly, _⟩ := hone.between hT htimes
    obtain ⟨htwo, _, _⟩ := htwo.between hT htimes
    obtain ⟨hthree, _, hlate⟩ := hthree.between hT htimes
    have hgap := htimes.apart hT hone htwo hfirst
    have hgap' := htimes.apart hT htwo hthree hsecond
    simp only [Apart] at hgap hgap'
    linarith

/-- A timeout of one second, and a silence from the start. -/
theorem silence_ends_start :
    (3 / 2 : ℚ) ≤ lastFrame 0 [.timer 0, .timer (1 / 2), .timer 1] + 155 / 100 * (1 : ℤ) ∧
      (lastFrame 0 [.timer 0, .timer (1 / 2), .timer 1] + 95 / 100 * (1 : ℤ) < 3 / 2 →
        ∃ pinged, PingedSince ⟨fun _ => false⟩ 1 0 [.timer 0, .timer (1 / 2), .timer 1] pinged) ∧
      ∀ first second third, first < second → second < third →
        PingedSince ⟨fun _ => false⟩ 1 0 [.timer 0, .timer (1 / 2), .timer 1] first →
        PingedSince ⟨fun _ => false⟩ 1 0 [.timer 0, .timer (1 / 2), .timer 1] second →
          ¬ PingedSince ⟨fun _ => false⟩ 1 0 [.timer 0, .timer (1 / 2), .timer 1] third :=
  silence_ends ⟨fun _ => false⟩ 1 le_rfl 0 (3 / 2) [.timer 0, .timer (1 / 2), .timer 1]
    ⟨by decide +kernel, by decide +kernel, by decide +kernel, by simp [ConnectionEvent.Stays]⟩
    ⟨by decide +kernel, by decide +kernel, by decide +kernel⟩
    (((opened (some ⟨some 1⟩) 0).sent .ping none).sent .ping none) (by decide +kernel) rfl

end WebSocketConnection

end KituraWebSocket
