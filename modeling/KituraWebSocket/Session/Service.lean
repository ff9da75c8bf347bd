/-
# A client is served

`said_is_given` is about a connection that is still in operation. That it is, is proved here:
a client that says messages, pings and pongs is never refused. However its bytes are cut, as
long as the masks of empty frames stay whole, every socket read returns and leaves the
connection in operation; only what does not come from the client can end it (`Interrupts`).
-/

import KituraWebSocket.Session.Client

namespace KituraWebSocket

open Scanner Grammar

namespace Assembler

@[simp]
theorem after_failed (frames : List WSFrame) : after failed frames = failed := by
  induction frames with
  | nil => rfl
  | cons frame frames ih => rw [after_cons, show step failed frame = (failed, []) from rfl, ih]

/-- A conversation, and any beginning of it, leaves the assembler ready for what comes next. -/
theorem after_said {said : List Utterance} {first second : List WSFrame}
    (hsaid : first ++ second = (said.flatMap Utterance.frames).map ClientFrame.delivered) :
    after idle first ≠ failed := by
  intro hfailed
  have hlast : after idle (first ++ second) = failed := by
    rw [after_append, hfailed, after_failed]
  -- A ping behind it all would be answered.
  have hping := outputs_said said [⟨true, .ping, []⟩]
  have hnothing := outputs_said said []
  rw [← hsaid, List.append_nil] at hnothing
  rw [← hsaid, outputs_append, hnothing, hlast, outputs_failed] at hping
  simp [outputs, step] at hping

end Assembler

namespace WSSocketProcessor

/-- Calls among which there is no error are all there are. -/
theorem eq_received_of_upToFirstError {calls : List ConnectionCall} {frames : List WSFrame}
    (hcalls : upToFirstError calls = frames.map .received) : calls = frames.map .received := by
  induction calls generalizing frames with
  | nil => exact hcalls
  | cons call calls ih =>
    cases call with
    | received frame =>
      cases frames with
      | nil => cases hcalls
      | cons first frames =>
        obtain ⟨hfirst, hlater⟩ := List.cons.inj hcalls
        rw [hfirst, ih hlater, List.map_cons]
    | close reason description =>
      cases frames with
      | nil => cases hcalls
      | cons first frames => cases (List.cons.inj hcalls).1

end WSSocketProcessor

namespace WebSocketConnection

/-- A connection in operation stays so for frames that the assembler does not fail for. -/
theorem run_timed_running {handler : SocketHandler} {connection : WebSocketConnection}
    {assembler : Assembler} {frames : List WSFrame} (hrunning : connection.Running)
    (hcoupled : connection.Coupled assembler) (hordinary : ∀ frame ∈ frames, Ordinary frame)
    (hfine : ∀ first second, frames = first ++ second → assembler.after first ≠ .failed)
    (clock : ℕ → ℚ) (count : ℕ) :
    ∃ last, connection.run handler (Session.timed clock count (frames.map .frame)) = .ok last ∧
      last.Running := by
  induction frames generalizing connection assembler count with
  | nil => exact ⟨connection, rfl, hrunning⟩
  | cons frame frames ih =>
    obtain ⟨_, hfailed | ⟨hopen, _⟩⟩ :=
      verdict_coupled hcoupled (hordinary frame List.mem_cons_self) (clock count)
    · exact absurd hfailed (hfine [frame] frames rfl)
    · have hnoted : (connection.noted (clock count) frame).Running :=
        ⟨hrunning.active, hrunning.alive, hrunning.attached⟩
      have hnext : (connection.after handler (.received (clock count) frame)).Running :=
        (settled_harmless handler hnoted hopen).1
      obtain ⟨last, hrun, hlast⟩ := ih hnext (received_coupled hcoupled hnext).2
        (fun other hother => hordinary other (List.mem_cons_of_mem _ hother))
        (fun first second hsplit => hfine (frame :: first) second (by rw [hsplit]; rfl))
        (count + 1)
      refine ⟨last, ?_, hlast⟩
      rw [List.map_cons, Session.timed, run, FallibleRun.run_cons]
      rw [step, received_eq]
      exact hrun

/-- An event that ends a connection in operation, or stops the program. -/
def Interrupts (connection : WebSocketConnection) : ConnectionEvent → Prop
  | .close _ _ | .drop _ _ | .processorClose | .socketClosed => True
  | .timer now => connection.timerVerdict now = .expired
  | .handlerReleased | .processorReleased => True
  | .sendData message _ => 2 ^ 32 ≤ message.length
  | .sendString message => 2 ^ 32 ≤ (utf8Bytes message).length
  | .ping withMessage => 2 ^ 32 ≤ ((withMessage.map utf8Bytes).getD []).length
  | .received _ _ | .parseError _ | .serviceChanged _ => False

/-- Nothing else does. -/
theorem running_of_not_interrupts {handler : SocketHandler} {connection : WebSocketConnection}
    (hrunning : connection.Running) {event : ConnectionEvent} (houtside : event.parsed = false)
    (hharmless : ¬ connection.Interrupts event) :
    ∃ next, step handler connection event = .ok next ∧ next.Running := by
  have hsends {opCode : FrameOpcode} (hknown : opCode ≠ .unknown) {payload : Option (List UInt8)}
      (hfits : ¬ 2 ^ 32 ≤ (payload.getD []).length) :
      ∃ next, (if connection.active then connection.sendMessage opCode payload
        else .ok connection) = .ok next ∧ next.Running := by
    rw [if_pos hrunning.active]
    refine ⟨_, sendMessage_eq hknown (Nat.not_le.mp hfits) connection, ?_⟩
    exact ⟨by simpa using hrunning.active, by simpa using hrunning.alive,
      by simpa using hrunning.attached⟩
  cases event with
  | sendData message asBinary =>
    rw [step, sendData_eq]
    exact hsends (by cases asBinary <;> decide) hharmless
  | sendString message =>
    rw [step, sendString_eq]
    exact hsends (by decide) hharmless
  | ping withMessage =>
    rw [step, ping_eq]
    exact hsends (by decide) hharmless
  | close reason description => exact absurd trivial hharmless
  | drop reason description => exact absurd trivial hharmless
  | received now frame => cases houtside
  | parseError error => cases houtside
  | timer now =>
    rw [step, timerFired_eq]
    cases hverdict : connection.timerVerdict now with
    | rest => exact ⟨connection, rfl, hrunning⟩
    | ping =>
      simp only [ping_eq]
      exact hsends (by decide) (by simp)
    | expired => exact absurd hverdict hharmless
  | processorClose => exact absurd trivial hharmless
  | socketClosed => exact absurd trivial hharmless
  | serviceChanged service => exact ⟨_, rfl, hrunning.active, hrunning.alive, hrunning.attached⟩
  | handlerReleased => exact absurd trivial hharmless
  | processorReleased => exact absurd trivial hharmless

end WebSocketConnection

namespace Endpoint

open WSSocketProcessor

variable {handler : SocketHandler}

/-- A socket read returns. -/
theorem read_returns {endpoint : Endpoint} (hwf : endpoint.session.parser.Wf) (clock : ℕ → ℚ)
    (bytes : List UInt8) : ∃ next, step handler endpoint (.read clock bytes) = .ok next := by
  cases halive : endpoint.session.connection.processorAlive with
  | false => exact ⟨endpoint, by simp [step, halive]⟩
  | true =>
    obtain ⟨after, afterIndex, afterBuffer, _, hdeliver⟩ :=
      exists_deliver hwf endpoint.session.byteIndex endpoint.buffer bytes
    obtain ⟨calling, hreplay⟩ := replayAll_returns (Session.callsReturn_clockedCalls handler clock)
      (endpoint.session.connection, 0)
      (found endpoint.session.parser ((endpoint.buffer ++ bytes).drop endpoint.session.byteIndex))
    exact ⟨_, by simp [step, halive, Session.calling, hdeliver, hreplay]; rfl⟩

/-- What does not come from the client ends the connection, or stops the program. -/
def Interrupts (endpoint : Endpoint) : EndpointEvent → Prop
  | .connection event => endpoint.session.connection.Interrupts event.1
  | .read _ _ | .retained _ => False

/-- One more socket read of a client leaves the connection in operation. -/
theorem running_of_read {service : Option WebSocketService} {start : ℚ} {said : List Utterance}
    {events : List EndpointEvent} {endpoint next : Endpoint} {clock : ℕ → ℚ} {bytes : List UInt8}
    (hrun : run handler (opened service start) events = .ok endpoint)
    (hrunning : endpoint.session.connection.Running)
    (huncut : Uncut (reads (events ++ [.read clock bytes])))
    (hspoken : (reads (events ++ [.read clock bytes])).flatten <+: spoken said)
    (hstep : step handler endpoint (.read clock bytes) = .ok next) :
    next.session.connection.Running := by
  obtain ⟨reading, frames, hhears⟩ := hears_of_run hrun hrunning
  obtain ⟨found, later, hdeliver, _, hcalls, hconnection⟩ :=
    hhears.mirrors.read hrunning.alive hstep
  obtain ⟨followed, hfollowed, hfollows⟩ :=
    follows_deliverAll (reads (events ++ [.read clock bytes]))
  have hrecorded : deliverAll recorder { processor := fresh [] }
      (reads (events ++ [.read clock bytes])) = .ok later := by
    rw [reads_concat]
    exact FallibleRun.run_concat_ok.mpr ⟨reading, hhears.recorded, hdeliver⟩
  obtain rfl : later = followed := Except.ok.inj (hrecorded.symm.trans hfollowed)
  -- Everything that the parser has found so far are frames of the client.
  obtain ⟨first, second, hsaid, hscan⟩ := scan_spoken hspoken
  have hall := calls_of_uncut hfollows huncut
  rw [hscan, List.map_map] at hall
  replace hall : later.processor.connection = first.map .received :=
    eq_received_of_upToFirstError hall
  rw [hcalls, hhears.calls] at hall
  obtain ⟨old, new, rfl, hold, hnew⟩ := List.map_eq_append_iff.mp hall.symm
  have hinjective : Function.Injective ConnectionCall.received :=
    fun _ _ h => ConnectionCall.received.inj h
  obtain rfl : old = frames := hinjective.list_map hold
  obtain rfl := eq_frames_of_calls hnew
  have hordinary : ∀ frame ∈ new, WebSocketConnection.Ordinary frame := by
    intro frame hframe
    have hmem : frame ∈ (said.flatMap Utterance.frames).map ClientFrame.delivered := by
      rw [← hsaid]
      exact List.mem_append_left _ (List.mem_append_right _ hframe)
    obtain ⟨sent, hsent, rfl⟩ := List.mem_map.mp hmem
    obtain ⟨utterance, _, hutterance⟩ := List.mem_flatMap.mp hsent
    exact (utterance.parts sent hutterance).ordinary
  have hfine : ∀ early late, new = early ++ late →
      (Assembler.idle.after old).after early ≠ .failed := by
    rintro early late rfl
    rw [← Assembler.after_append]
    rw [List.append_assoc, List.append_assoc, ← List.append_assoc] at hsaid
    exact Assembler.after_said hsaid
  obtain ⟨last, hlast, hstill⟩ :=
    WebSocketConnection.run_timed_running hrunning hhears.coupled hordinary hfine clock 0
  rwa [Except.ok.inj (hconnection.symm.trans hlast)]

/-- Whatever part of a conversation the socket reads amount to, the run returns and leaves the
connection in operation, unless something else ends it. -/
theorem running_of_spoken {service : Option WebSocketService} {start : ℚ} {said : List Utterance}
    {events : List EndpointEvent} (huncut : Uncut (reads events))
    (hspoken : (reads events).flatten <+: spoken said)
    (hothers : FallibleRun.NoStep (step handler) (opened service start) events Interrupts) :
    ∃ last, run handler (opened service start) events = .ok last ∧
      last.session.connection.Running := by
  induction events using List.reverseRecOn with
  | nil =>
    refine ⟨_, rfl, ?_⟩
    cases service <;> exact ⟨rfl, rfl, rfl⟩
  | append_singleton events event ih =>
    have hreads := reads_concat events event
    obtain ⟨middle, hmiddle, hrunning⟩ : ∃ last,
        run handler (opened service start) events = .ok last ∧
          last.session.connection.Running := by
      apply ih
      · rw [hreads] at huncut
        exact huncut.of_append
      · refine List.IsPrefix.trans ?_ hspoken
        rw [hreads, List.flatten_append]
        exact List.prefix_append _ _
      · intro before other after state hsplit hbefore
        exact hothers before other (after ++ [event]) state (by rw [hsplit]; simp) hbefore
    have hconcat {next : Endpoint} (hstep : step handler middle event = .ok next) :
        run handler (opened service start) (events ++ [event]) = .ok next :=
      FallibleRun.run_concat_ok.mpr ⟨middle, hmiddle, hstep⟩
    cases event with
    | read clock bytes =>
      have hwf : middle.session.parser.Wf :=
        (connection_of_run WSFrameParser.wf_fresh hmiddle).1
      obtain ⟨next, hstep⟩ : ∃ next, step handler middle (.read clock bytes) = .ok next :=
        read_returns hwf clock bytes
      exact ⟨next, hconcat hstep, running_of_read hmiddle hrunning huncut hspoken hstep⟩
    | connection event =>
      obtain ⟨next, hnext, hstill⟩ : ∃ next,
          middle.session.connection.step handler event.1 = .ok next ∧ next.Running :=
        WebSocketConnection.running_of_not_interrupts hrunning event.2
          (hothers events _ [] middle rfl hmiddle)
      have hstep : step handler middle (.connection event) =
          .ok { middle with session := { middle.session with connection := next } } := by
        simp [step, held, hrunning.alive, hnext]
      exact ⟨_, hconcat hstep, hstill⟩
    | retained kept => exact ⟨_, hconcat rfl, hrunning⟩

/-- A client says messages in any fragments, with pings and pongs anywhere, and its bytes are read
in any pieces that leave the masks of empty frames whole. As long as nothing else ends the
connection, every step returns, the connection stays in operation, and what it has enqueued for the
service and handed over as pongs is the beginning of what the client should be answered: all of it
when all bytes have been read. -/
theorem client_is_served (handler : SocketHandler) (service : Option WebSocketService)
    (start : ℚ) (said : List Utterance) (events : List EndpointEvent)
    (huncut : Uncut (reads events)) (hspoken : (reads events).flatten <+: spoken said)
    (hothers : FallibleRun.NoStep (step handler) (opened service start) events Interrupts) :
    ∃ last, run handler (opened service start) events = .ok last ∧
      last.session.connection.Running ∧
      answers last.session.connection.log <+:
        greeting service ++ said.flatMap Utterance.answer ∧
      ((reads events).flatten = spoken said →
        answers last.session.connection.log =
          greeting service ++ said.flatMap Utterance.answer) := by
  obtain ⟨last, hrun, hrunning⟩ := running_of_spoken huncut hspoken hothers
  refine ⟨last, hrun, hrunning, ?_, answers_of_spoken hrun hrunning huncut⟩
  obtain ⟨frames, hscanned, hanswers⟩ := scanned_of_run hrun hrunning huncut
  obtain ⟨first, second, hsaid, hscan⟩ := scan_spoken hspoken
  have hinjective : Function.Injective StreamEvent.frame := fun _ _ h => StreamEvent.frame.inj h
  obtain rfl : frames = first := hinjective.list_map (hscanned.symm.trans hscan)
  have houtputs := Assembler.outputs_said said []
  rw [List.append_nil, ← hsaid, Assembler.outputs_append] at houtputs
  rw [hanswers, List.prefix_append_right_inj]
  refine ⟨(Assembler.idle.after frames).outputs second, houtputs.trans ?_⟩
  exact List.append_nil _

/-- Two bytes in two fragments with a ping between them, in three pieces. -/
theorem client_is_served_twoBytes :
    ∃ last, run ⟨fun _ => false⟩ (opened (some ⟨none⟩) 0)
        [.read (fun _ => 0) [2, 0x81, 0, 0, 0], .retained false, .read (fun _ => 0) [0, 1, 0x89],
          .read (fun _ => 0) [0x81, 0, 0, 0, 0, 7, 0x80, 0x81, 0, 0, 0, 0, 2]] = .ok last ∧
      last.session.connection.Running ∧
      answers last.session.connection.log <+:
        greeting (some ⟨none⟩) ++ [Utterance.message twoBytes].flatMap Utterance.answer ∧
      (([[2, 0x81, 0, 0, 0], [0, 1, 0x89], [0x81, 0, 0, 0, 0, 7, 0x80, 0x81, 0, 0, 0, 0, 2]] :
          List (List UInt8)).flatten = spoken [.message twoBytes] →
        answers last.session.connection.log =
          greeting (some ⟨none⟩) ++ [Utterance.message twoBytes].flatMap Utterance.answer) := by
  have hspoken : ([[2, 0x81, 0, 0, 0], [0, 1, 0x89],
      [0x81, 0, 0, 0, 0, 7, 0x80, 0x81, 0, 0, 0, 0, 2]] : List (List UInt8)).flatten =
        spoken [.message twoBytes] := by
    decide +kernel
  refine client_is_served ⟨fun _ => false⟩ (some ⟨none⟩) 0 [.message twoBytes]
    [.read (fun _ => 0) [2, 0x81, 0, 0, 0], .retained false, .read (fun _ => 0) [0, 1, 0x89],
      .read (fun _ => 0) [0x81, 0, 0, 0, 0, 7, 0x80, 0x81, 0, 0, 0, 0, 2]]
    (uncut_of_spoken (hspoken ▸ List.prefix_rfl) twoBytes_payloads) (hspoken ▸ List.prefix_rfl) ?_
  intro before event after state hsplit _
  have hmem : event ∈ before ++ event :: after := by simp
  rw [← hsplit] at hmem
  simp only [List.mem_cons, List.not_mem_nil, or_false] at hmem
  rcases hmem with rfl | rfl | rfl | rfl <;> exact id

end Endpoint

end KituraWebSocket
