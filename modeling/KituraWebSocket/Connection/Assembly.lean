/-
# Assembling messages

`Assembler` says what a stream of frames means to the service: a message is one
final frame or a frame and its continuations up to a final one, and is delivered
once, as the concatenation of its fragments. A connection, fed the frames one by
one, shows the service and the client what the assembler shows, up to and
including the first failure.
-/

import KituraWebSocket.Connection.Effects

namespace KituraWebSocket

/-- What the service and the client see. -/
inductive Visible
  | frame (opCode : FrameOpcode) (payload : List UInt8)
  | callback (callback : Callback)
  deriving DecidableEq, Repr

inductive MessageKind
  | text
  | binary
  deriving DecidableEq, Repr

/-- Between two messages, within the fragments of one, or failed. -/
inductive Assembler
  | idle
  | within (kind : MessageKind) (fragments : List (List UInt8))
  | failed
  deriving DecidableEq, Repr

namespace Assembler

/-- A complete message. -/
def complete (kind : MessageKind) (fragments : List (List UInt8)) : Assembler × List Visible :=
  match kind with
  | .binary => (idle, [.callback (.receivedData fragments.flatten)])
  | .text =>
    match stringFromUTF8 fragments.flatten with
    | some text => (idle, [.callback (.receivedString text)])
    | none => (failed, [.frame .close
        (BigEndian.bytes 2 1007 ++ utf8Bytes "Failed to convert received payload to UTF-8 String")])

/-- A violation of the protocol closes the connection and disconnects the service. -/
def violate (description : String) : Assembler × List Visible :=
  (failed, [.frame .close (BigEndian.bytes 2 1002 ++ utf8Bytes description),
    .callback (.disconnected .protocolError)])

/-- The first frame of a message. -/
def begin (kind : MessageKind) (frame : WSFrame) : Assembler × List Visible :=
  if frame.finalFrame then complete kind [frame.payload] else (within kind [frame.payload], [])

/-- Take in a frame. -/
def step (assembler : Assembler) (frame : WSFrame) : Assembler × List Visible :=
  match assembler, frame.opCode with
  | failed, _ => (failed, [])
  | assembler, .ping => (assembler, [.frame .pong frame.payload])
  | idle, .text => begin .text frame
  | idle, .binary => begin .binary frame
  | idle, .continuation => violate "Continuation sent with prior binary or text frame"
  | within kind fragments, .continuation =>
    if frame.finalFrame then complete kind (fragments ++ [frame.payload])
    else (within kind (fragments ++ [frame.payload]), [])
  | within _ _, .text => violate "A text frame must be the first in the message"
  | within _ _, .binary => violate "A binary frame must be the first in the message"
  | assembler, _ => (assembler, [])

/-- What is seen of a sequence of frames. -/
def outputs : Assembler → List WSFrame → List Visible
  | _, [] => []
  | assembler, frame :: frames => (assembler.step frame).2 ++ outputs (assembler.step frame).1 frames

/-- How many frames there are up to and including the one at which the assembler fails. -/
def lifetime : Assembler → List WSFrame → ℕ
  | failed, _ => 0
  | _, [] => 0
  | assembler, frame :: frames => lifetime (assembler.step frame).1 frames + 1

@[simp]
theorem lifetime_failed (frames : List WSFrame) : lifetime failed frames = 0 := by
  cases frames <;> rfl

@[simp]
theorem outputs_failed (frames : List WSFrame) : outputs failed frames = [] := by
  induction frames with
  | nil => rfl
  | cons frame frames ih => rw [outputs, show step failed frame = (failed, []) from rfl, ih]; rfl

/-- A frame within a fragmented message: a continuation that is not final, a ping or a
pong. -/
def Inner (frame : WSFrame) : Prop :=
  (frame.opCode = .continuation ∧ frame.finalFrame = false) ∨ frame.opCode = .ping ∨
    frame.opCode = .pong

/-- The pongs that the pings among some frames ask for. -/
def pongs (frames : List WSFrame) : List Visible :=
  (frames.filter (·.opCode = .ping)).map fun frame => .frame .pong frame.payload

/-- The payloads of the continuations among some frames. -/
def continuations (frames : List WSFrame) : List (List UInt8) :=
  (frames.filter (·.opCode = .continuation)).map (·.payload)

theorem outputs_inner {kind : MessageKind} {fragments : List (List UInt8)} {frames : List WSFrame}
    (hinner : ∀ frame ∈ frames, Inner frame) (more : List WSFrame) :
    outputs (within kind fragments) (frames ++ more) =
      pongs frames ++ outputs (within kind (fragments ++ continuations frames)) more := by
  induction frames generalizing fragments with
  | nil => simp [pongs, continuations]
  | cons frame frames ih =>
    have hrest : ∀ other ∈ frames, Inner other := fun other hother => hinner other (by simp [hother])
    rw [List.cons_append, outputs]
    rcases hinner frame (by simp) with ⟨hopCode, hfinal⟩ | hopCode | hopCode
    · simp [step, hopCode, hfinal, ih hrest, pongs, continuations]
    · simp [step, hopCode, ih hrest, pongs, continuations]
    · simp [step, hopCode, ih hrest, pongs, continuations]

/-- A first frame that is not final, continuations among which pings and pongs may stand, and a
final continuation: each ping is answered in its place, and the message is the concatenation of all
fragments. -/
theorem outputs_fragmented {kind : MessageKind} {first last : WSFrame} {inner : List WSFrame}
    (hfirst : first.opCode = (match kind with | .text => .text | .binary => .binary))
    (hopen : first.finalFrame = false) (hinner : ∀ frame ∈ inner, Inner frame)
    (hlast : last.opCode = .continuation) (hfinal : last.finalFrame = true)
    (more : List WSFrame) :
    outputs idle (first :: (inner ++ last :: more)) =
      pongs inner ++
        ((complete kind (first.payload :: continuations inner ++ [last.payload])).2 ++
          outputs (complete kind (first.payload :: continuations inner ++ [last.payload])).1
            more) := by
  have hbegin : step idle first = (within kind [first.payload], []) := by
    cases kind <;> simp [step, hfirst, begin, hopen]
  rw [outputs, hbegin, List.nil_append, outputs_inner hinner, outputs]
  simp [step, hlast, hfinal]

end Assembler

/-- What the service and the client see of an output. -/
def Output.visible : Output → Option Visible
  | .frame sent => some (.frame sent.opCode sent.payload)
  | .callback enqueued => some (.callback enqueued)
  | .prepareToClose => none

/-- The message state of a kind. -/
def MessageKind.state : MessageKind → MessageStates
  | .text => .text
  | .binary => .binary

namespace WebSocketConnection

/-- A frame that the assembler is given: not a close, and a legal one if it is a ping or
a pong. -/
def Ordinary (frame : WSFrame) : Prop :=
  frame.opCode ≠ .close ∧
    (frame.opCode = .ping ∨ frame.opCode = .pong →
      frame.finalFrame = true ∧ frame.payload.length ≤ 125)

/-- The state of a connection and the state of the assembler it follows. -/
def Coupled (connection : WebSocketConnection) : Assembler → Prop
  | .idle => connection.messageState = .unknown
  | .within kind fragments =>
    connection.messageState = kind.state ∧ connection.message = fragments.flatten
  | .failed => False

/-- What is seen of a judgement that is carried out on a running connection. -/
def Verdict.shown : Verdict → List Visible
  | .nothing => []
  | .deliver message => [.callback message]
  | .pong payload => [.frame .pong payload]
  | .violation description =>
    [.frame .close (closePayload (some .protocolError) (some description)),
      .callback (.disconnected .protocolError)]
  | .invalidData description =>
    [.frame .close (closePayload (some .invalidDataContents) (some description))]
  | .closed reason description =>
    [.frame .close (closePayload (some reason) description), .callback (.disconnected reason)]

theorem settledOutputs_shown {connection : WebSocketConnection} (hrunning : connection.Running)
    (verdict : Verdict) :
    (connection.settledOutputs verdict).filterMap Output.visible = verdict.shown := by
  have hframed (opCode : FrameOpcode) (payload : Option (List UInt8)) :
      connection.framed opCode payload = [.frame (SentFrame.of opCode payload)] :=
    if_pos ⟨hrunning.alive, hrunning.attached⟩
  have hrequest : connection.closeRequest = [.prepareToClose] :=
    if_pos ⟨hrunning.alive, hrunning.attached⟩
  cases verdict <;>
    simp [settledOutputs, notifiedOutputs, closedOutputs, hframed, hrequest, hrunning.active,
      List.filterMap_cons, Output.visible, SentFrame.of, Verdict.shown]

/-- A harmless judgement leaves a running connection running, and the message alone. -/
theorem settled_harmless (handler : SocketHandler) {connection : WebSocketConnection}
    (hrunning : connection.Running) {verdict : Verdict} (hharmless : verdict.closes = false) :
    (connection.settled handler verdict).Running ∧
      (connection.settled handler verdict).messageState = connection.messageState ∧
      (connection.settled handler verdict).message = connection.message := by
  cases verdict with
  | nothing => exact ⟨hrunning, rfl, rfl⟩
  | deliver message => exact ⟨⟨hrunning.active, hrunning.alive, hrunning.attached⟩, rfl, rfl⟩
  | pong payload =>
    refine ⟨⟨?_, ?_, ?_⟩, ?_, ?_⟩
    · simpa [settled] using hrunning.active
    · simpa [settled] using hrunning.alive
    · simpa [settled] using hrunning.attached
    · simp [settled]
    · simp [settled]
  | violation description => cases hharmless
  | invalidData description => cases hharmless
  | closed reason description => cases hharmless

/-- The judgement of a whole text is what the assembler makes of it. -/
theorem textVerdict_complete (fragments : List (List UInt8)) :
    (textVerdict fragments.flatten).shown = (Assembler.complete .text fragments).2 ∧
      ((Assembler.complete .text fragments).1 = .failed ∨
        (textVerdict fragments.flatten).closes = false ∧
          (Assembler.complete .text fragments).1 = .idle) := by
  cases htext : stringFromUTF8 fragments.flatten with
  | some text => simp [textVerdict, Assembler.complete, htext, Verdict.shown, Verdict.closes]
  | none =>
    simp only [textVerdict, Assembler.complete, htext, Verdict.shown, true_or, and_true]
    rfl

/-- The judgement of a frame and the assembler's step agree. -/
theorem verdict_coupled {connection : WebSocketConnection} {assembler : Assembler}
    (hcoupled : connection.Coupled assembler) {frame : WSFrame} (hordinary : Ordinary frame)
    (now : ℚ) :
    (connection.verdict frame).shown = (assembler.step frame).2 ∧
      ((assembler.step frame).1 = .failed ∨
        (connection.verdict frame).closes = false ∧
          (connection.noted now frame).Coupled (assembler.step frame).1) := by
  obtain ⟨finalFrame, opCode, payload⟩ := frame
  obtain ⟨hclose, hcontrol⟩ := hordinary
  cases assembler with
  | failed => exact hcoupled.elim
  | idle =>
    have hstate : connection.messageState = .unknown := hcoupled
    cases opCode with
    | close => exact absurd rfl hclose
    | text =>
      cases finalFrame with
      | false =>
        simp [verdict, noted, assembled, Assembler.step, Assembler.begin, Coupled, Verdict.shown,
          Verdict.closes, MessageKind.state, hstate]
      | true =>
        have htext := textVerdict_complete [payload]
        rw [List.flatten_singleton] at htext
        refine ⟨by simpa [verdict, Assembler.step, Assembler.begin, hstate] using htext.1, ?_⟩
        refine htext.2.imp_right fun h => ⟨?_, ?_⟩
        · simpa [verdict, hstate] using h.1
        · simp [Assembler.step, Assembler.begin, h.2, Coupled, noted, assembled, hstate]
    | binary =>
      cases finalFrame <;>
        simp [verdict, noted, assembled, Assembler.step, Assembler.begin, Assembler.complete,
          Coupled, Verdict.shown, Verdict.closes, MessageKind.state, hstate]
    | continuation =>
      refine ⟨?_, .inl rfl⟩
      simp only [verdict, hstate, if_true]
      rfl
    | ping =>
      obtain ⟨rfl, hlength⟩ := hcontrol (.inl rfl)
      have hshort : payload.length < 126 := by simp only at hlength; omega
      simp [verdict, noted, assembled, Assembler.step, Coupled, Verdict.shown, Verdict.closes,
        hstate, hshort]
    | pong => exact ⟨rfl, .inr ⟨rfl, hstate⟩⟩
    | unknown => exact ⟨rfl, .inr ⟨rfl, hstate⟩⟩
  | within kind fragments =>
    obtain ⟨hstate, hmessage⟩ : connection.messageState = kind.state ∧
      connection.message = fragments.flatten := hcoupled
    have hkind : kind.state ≠ .unknown := by cases kind <;> decide
    have hunfinished : connection.messageState ≠ .unknown := hstate.trans_ne hkind
    cases opCode with
    | close => exact absurd rfl hclose
    | text =>
      refine ⟨?_, .inl rfl⟩
      simp only [verdict, if_pos hunfinished]
      rfl
    | binary =>
      refine ⟨?_, .inl rfl⟩
      simp only [verdict, if_pos hunfinished]
      rfl
    | continuation =>
      cases finalFrame with
      | false =>
        simp [verdict, noted, assembled, Assembler.step, Coupled, Verdict.shown, Verdict.closes,
          hkind, hstate, hmessage]
      | true =>
        cases kind with
        | binary =>
          simp [verdict, noted, assembled, Assembler.step, Assembler.complete, Coupled,
            Verdict.shown, Verdict.closes, MessageKind.state, hstate, hmessage]
        | text =>
          have htext := textVerdict_complete (fragments ++ [payload])
          rw [List.flatten_append, List.flatten_singleton, ← hmessage] at htext
          refine ⟨by simpa [verdict, Assembler.step, hstate, MessageKind.state] using htext.1, ?_⟩
          refine htext.2.imp_right fun h => ⟨?_, ?_⟩
          · simpa [verdict, hstate, MessageKind.state] using h.1
          · simp [Assembler.step, h.2, Coupled, noted, assembled, hunfinished]
    | ping =>
      obtain ⟨rfl, hlength⟩ := hcontrol (.inl rfl)
      have hshort : payload.length < 126 := by simp only at hlength; omega
      simp [verdict, noted, assembled, Assembler.step, Coupled, Verdict.shown, Verdict.closes,
        hstate, hmessage, hshort]
    | pong => exact ⟨rfl, .inr ⟨rfl, hstate, hmessage⟩⟩
    | unknown => exact ⟨rfl, .inr ⟨rfl, hstate, hmessage⟩⟩

/-- Received frames, each with the time at which it was received. -/
def receiveAll (handler : SocketHandler) (connection : WebSocketConnection)
    (frames : List (ℚ × WSFrame)) : Except Fault WebSocketConnection :=
  FallibleRun.run (fun connection arrival => received handler arrival.1 connection arrival.2)
    connection frames

/-- From coupled states, what is seen up to the first failure is the same. -/
theorem receiveAll_coupled (handler : SocketHandler) (frames : List (ℚ × WSFrame))
    (hordinary : ∀ arrival ∈ frames, Ordinary arrival.2) {connection : WebSocketConnection}
    {assembler : Assembler} (hrunning : connection.Running)
    (hcoupled : connection.Coupled assembler) :
    ∃ next outputs, receiveAll handler connection
        (frames.take (assembler.lifetime (frames.map Prod.snd))) = .ok next ∧
      next.log = connection.log ++ outputs ∧
      outputs.filterMap Output.visible = assembler.outputs (frames.map Prod.snd) := by
  induction frames generalizing connection assembler with
  | nil => exact ⟨connection, [], by cases assembler <;> rfl, by simp, rfl⟩
  | cons arrival frames ih =>
    obtain ⟨now, frame⟩ := arrival
    have hframe : Ordinary frame := hordinary (now, frame) (by simp)
    obtain ⟨hshown, hnext⟩ := verdict_coupled hcoupled hframe now
    have hnoted : (connection.noted now frame).Running :=
      ⟨hrunning.active, hrunning.alive, hrunning.attached⟩
    have hlog := settled_log handler (connection.noted now frame) (connection.verdict frame)
    have hfirst := settledOutputs_shown hnoted (connection.verdict frame)
    have hlifetime : assembler.lifetime (frame :: frames.map Prod.snd) =
        (assembler.step frame).1.lifetime (frames.map Prod.snd) + 1 := by
      cases assembler with
      | failed => exact hcoupled.elim
      | idle => rfl
      | within kind fragments => rfl
    have hrun : ∀ rest, receiveAll handler connection ((now, frame) :: rest) = receiveAll handler
        ((connection.noted now frame).settled handler (connection.verdict frame)) rest := by
      intro rest
      rw [receiveAll, FallibleRun.run_cons, received_eq]
      rfl
    rw [List.map_cons, hlifetime, List.take_succ_cons, hrun, Assembler.outputs, ← hshown]
    rcases hnext with hfailed | ⟨hharmless, hcoupled'⟩
    · rw [hfailed]
      exact ⟨_, _, by rw [Assembler.lifetime_failed]; rfl, hlog, by simp [hfirst]⟩
    · obtain ⟨hrunning', hstate, hmessage⟩ := settled_harmless handler hnoted hharmless
      have hcoupled'' : ((connection.noted now frame).settled handler
          (connection.verdict frame)).Coupled (assembler.step frame).1 := by
        unfold Coupled at hcoupled' ⊢
        rwa [hstate, hmessage]
      obtain ⟨next, later, hrest, hlater, hvisible⟩ :=
        ih (fun other hother => hordinary other (by simp [hother])) hrunning' hcoupled''
      refine ⟨next, _, hrest, hlater.trans ((congrArg (· ++ later) hlog).trans
        (List.append_assoc _ _ _)), ?_⟩
      rw [List.filterMap_append, hfirst, hvisible]

/-- A connection in operation that is fed frames, none of them a close and all pings and pongs
legal, enqueues the callbacks and hands over the frames of the reference assembler, up to and
including the first failure. -/
theorem receiveAll_assembles (handler : SocketHandler) (service : Option WebSocketService)
    (start : ℚ) (frames : List (ℚ × WSFrame))
    (hordinary : ∀ arrival ∈ frames, Ordinary arrival.2) :
    ∃ next outputs, receiveAll handler (opened service start)
        (frames.take (Assembler.idle.lifetime (frames.map Prod.snd))) = .ok next ∧
      next.log = (opened service start).log ++ outputs ∧
      outputs.filterMap Output.visible = Assembler.idle.outputs (frames.map Prod.snd) := by
  apply receiveAll_coupled handler frames hordinary
  · cases service <;> exact ⟨rfl, rfl, rfl⟩
  · cases service <;> rfl

/-- A text in two fragments with a ping between them. -/
theorem receiveAll_assembles_text :
    ∃ next outputs, receiveAll ⟨fun _ => false⟩ (opened none 0)
        [(0, ⟨false, .text, [104]⟩), (1, ⟨true, .ping, []⟩), (2, ⟨true, .continuation, [105]⟩)] =
          .ok next ∧
      next.log = (opened none 0).log ++ outputs ∧
      outputs.filterMap Output.visible =
        Assembler.idle.outputs [⟨false, .text, [104]⟩, ⟨true, .ping, []⟩,
          ⟨true, .continuation, [105]⟩] :=
  receiveAll_assembles ⟨fun _ => false⟩ none 0
    [(0, ⟨false, .text, [104]⟩), (1, ⟨true, .ping, []⟩), (2, ⟨true, .continuation, [105]⟩)]
    (by simp [Ordinary])

end WebSocketConnection

end KituraWebSocket
