/-
# A client

What a client says, and the frames it says it with: messages in fragments, with pings and
pongs on their own and between the fragments, each payload under a mask of its own and with
the shortest length field. `said_is_given` is the round trip through the whole server: what
a client says is what the service is given.
-/

import KituraWebSocket.Connection.Integrity
import KituraWebSocket.Session.Conversation
import KituraWebSocket.Session.Delivery

namespace KituraWebSocket

open Grammar

/-- A payload that fits into one frame, and the mask that it is sent with. -/
structure MaskedPayload where
  payload : List UInt8
  mask : List UInt8
  bounded : payload.length < 2 ^ 32
  maskSize : mask.length = 4

/-- The second byte of a masked frame, with the shortest length. -/
def maskedSecond (length : ℕ) : UInt8 :=
  0x80 ||| if length < 126 then UInt8.ofNat length else if length < 2 ^ 16 then 126 else 127

/-- The length field behind it. -/
def maskedField (length : ℕ) : List UInt8 :=
  if length < 126 then [] else BigEndian.bytes (shortestSize length) length

/-- The second byte and the length field say what they should. -/
theorem maskedLength {length : ℕ} (hsmall : length < 2 ^ 64) :
    maskBit (maskedSecond length) = true ∧
      (maskedField length).length = extendedSize (maskedSecond length) ∧
      announcedLength (maskedSecond length) (maskedField length) = length := by
  rw [maskedSecond, maskedField, shortestSize]
  by_cases hshort : length < 126
  · have hall : ∀ length : Fin 126, maskBit (0x80 ||| UInt8.ofNat length) = true ∧
        extendedSize (0x80 ||| UInt8.ofNat length) = 0 ∧
        ((0x80 ||| UInt8.ofNat length) &&& 0x7f).toNat = length := by
      decide +kernel
    obtain ⟨hmask, hsize, hvalue⟩ := hall ⟨length, hshort⟩
    rw [if_pos hshort, if_pos hshort]
    exact ⟨hmask, hsize.symm, by rw [announcedLength, if_pos hsize, hvalue]⟩
  · rw [if_neg hshort, if_neg hshort, if_neg hshort]
    by_cases hmedium : length < 2 ^ 16
    · rw [if_pos hmedium, if_pos hmedium]
      exact ⟨by decide, BigEndian.length_bytes _ _,
        BigEndian.value_bytes (hmedium.trans_le (by decide))⟩
    · rw [if_neg hmedium, if_neg hmedium]
      exact ⟨by decide, BigEndian.length_bytes _ _,
        BigEndian.value_bytes (hsmall.trans_le (by decide))⟩

namespace MaskedPayload

variable (masked : MaskedPayload) (finalFrame : Bool) (opCode : FrameOpcode)

/-- The payload as it is sent. -/
def wire : List UInt8 :=
  masked.payload.mapIdx fun i byte => byte ^^^ masked.mask.getD (i % 4) 0

/-- The frame that carries the payload. -/
def frame (hknown : opCode ≠ .unknown) : ClientFrame where
  finalFrame := finalFrame
  opCode := opCode
  second := maskedSecond masked.payload.length
  field := maskedField masked.payload.length
  mask := masked.mask
  wire := masked.wire
  known := hknown
  masked := (maskedLength (masked.bounded.trans (by decide))).1
  fieldSize := (maskedLength (masked.bounded.trans (by decide))).2.1
  maskSize := masked.maskSize
  wireSize := by
    rw [(maskedLength (masked.bounded.trans (by decide))).2.2, wire, List.length_mapIdx]

/-- Masked twice with the same mask, the payload is itself. -/
theorem frame_payload (hknown : opCode ≠ .unknown) :
    (masked.frame finalFrame opCode hknown).payload = masked.payload := by
  apply List.ext_getElem
  · simp [ClientFrame.payload, frame, wire]
  · intro i _ _
    simp only [ClientFrame.payload, frame, wire, List.getElem_mapIdx]
    rw [UInt8.xor_assoc, UInt8.xor_self, UInt8.xor_zero]

theorem frame_delivered (hknown : opCode ≠ .unknown) :
    (masked.frame finalFrame opCode hknown).delivered =
      ⟨finalFrame, opCode, masked.payload⟩ := by
  rw [ClientFrame.delivered, frame_payload]
  rfl

/-- Its length field is small enough for the parser. -/
theorem frame_small (hknown : opCode ≠ .unknown)
    (hlong : extendedSize (masked.frame finalFrame opCode hknown).second = 8) :
    BigEndian.value (masked.frame finalFrame opCode hknown).field < 2 ^ 32 := by
  have hannounced := (maskedLength (masked.bounded.trans (by decide))).2.2
  have hsize : extendedSize (maskedSecond masked.payload.length) = 8 := hlong
  rw [announcedLength, if_neg (by omega)] at hannounced
  exact hannounced.trans_lt masked.bounded

end MaskedPayload

/-- A ping or a pong. -/
structure Control where
  ping : Bool
  body : MaskedPayload
  legal : body.payload.length ≤ 125

namespace Control

def opCode (control : Control) : FrameOpcode := if control.ping then .ping else .pong

theorem opCode_known (control : Control) : control.opCode ≠ .unknown := by
  rw [opCode]
  split <;> decide

def frame (control : Control) : ClientFrame :=
  control.body.frame true control.opCode control.opCode_known

/-- A ping is answered with its own payload. -/
def answer (control : Control) : List Visible :=
  if control.ping then [.frame .pong control.body.payload] else []

end Control

/-- What a message says. -/
inductive Content
  | text (words : String)
  | binary (data : List UInt8)
  deriving DecidableEq, Repr

namespace Content

def kind : Content → MessageKind
  | .text _ => .text
  | .binary _ => .binary

def bytes : Content → List UInt8
  | .text words => utf8Bytes words
  | .binary data => data

/-- The callback that delivers it. -/
def callback : Content → Callback
  | .text words => .receivedString words
  | .binary data => .receivedData data

end Content

theorem MessageKind.opCode_known (kind : MessageKind) : kind.opCode ≠ .unknown := by
  cases kind <;> decide

/-- A message in fragments. Every fragment but the last comes with the control frames that are
sent behind it. -/
structure Message where
  content : Content
  fragments : List (MaskedPayload × List Control)
  last : MaskedPayload
  whole : (fragments.flatMap fun fragment => fragment.1.payload) ++ last.payload = content.bytes

namespace Message

/-- The frames behind the first of a fragmented message. -/
def continued (fragment : MaskedPayload × List Control) : List ClientFrame :=
  fragment.1.frame false .continuation (by decide) :: fragment.2.map Control.frame

def frames (message : Message) : List ClientFrame :=
  let opCode := message.content.kind.opCode
  let known := message.content.kind.opCode_known
  match message.fragments with
  | [] => [message.last.frame true opCode known]
  | first :: later =>
    first.1.frame false opCode known ::
      (first.2.map Control.frame ++ later.flatMap continued ++
        [message.last.frame true .continuation (by decide)])

/-- The pings within a message are answered before it is delivered. -/
def answer (message : Message) : List Visible :=
  (message.fragments.flatMap fun fragment => fragment.2.flatMap Control.answer) ++
    [.callback message.content.callback]

end Message

/-- What a client says between two messages, or a message. -/
inductive Utterance
  | control (sent : Control)
  | message (sent : Message)

namespace Utterance

def frames : Utterance → List ClientFrame
  | .control sent => [sent.frame]
  | .message sent => sent.frames

def answer : Utterance → List Visible
  | .control sent => sent.answer
  | .message sent => sent.answer

end Utterance

namespace Assembler

/-- The fragments of a content are assembled to it. -/
theorem complete_content {content : Content} {fragments : List (List UInt8)}
    (hwhole : fragments.flatten = content.bytes) :
    complete content.kind fragments = (idle, [.callback content.callback]) := by
  cases content with
  | binary data => simp [complete, Content.kind, Content.callback, hwhole, Content.bytes]
  | text words =>
    have htext : stringFromUTF8 fragments.flatten = some words :=
      stringFromUTF8_eq_some.mpr hwhole.symm
    simp [complete, Content.kind, Content.callback, htext]

theorem pongs_append (first second : List WSFrame) :
    pongs (first ++ second) = pongs first ++ pongs second := by
  simp [pongs]

theorem continuations_append (first second : List WSFrame) :
    continuations (first ++ second) = continuations first ++ continuations second := by
  simp [continuations]

/-- The frames of control frames, as they are delivered. -/
theorem delivered_controls (controls : List Control) :
    (∀ frame ∈ (controls.map Control.frame).map ClientFrame.delivered, Inner frame) ∧
      pongs ((controls.map Control.frame).map ClientFrame.delivered) =
        controls.flatMap Control.answer ∧
      continuations ((controls.map Control.frame).map ClientFrame.delivered) = [] := by
  induction controls with
  | nil => simp [pongs, continuations]
  | cons control controls ih =>
    obtain ⟨hinner, hpongs, hnone⟩ := ih
    have hdelivered : control.frame.delivered = ⟨true, control.opCode, control.body.payload⟩ :=
      control.body.frame_delivered true _ _
    rw [List.map_cons, List.map_cons, hdelivered]
    refine ⟨?_, ?_, ?_⟩
    · rintro frame hframe
      rcases List.mem_cons.mp hframe with rfl | hlater
      · cases hping : control.ping <;> simp [Inner, Control.opCode, hping]
      · exact hinner frame hlater
    · rw [List.flatMap_cons, ← hpongs]
      cases hping : control.ping <;> simp [pongs, Control.opCode, Control.answer, hping]
    · rw [← hnone]
      cases hping : control.ping <;> simp [continuations, Control.opCode, hping]

/-- The frames within a fragmented message, as they are delivered. -/
theorem delivered_continued (fragments : List (MaskedPayload × List Control)) :
    (∀ frame ∈ (fragments.flatMap Message.continued).map ClientFrame.delivered, Inner frame) ∧
      pongs ((fragments.flatMap Message.continued).map ClientFrame.delivered) =
        fragments.flatMap (fun fragment => fragment.2.flatMap Control.answer) ∧
      continuations ((fragments.flatMap Message.continued).map ClientFrame.delivered) =
        fragments.map (fun fragment => fragment.1.payload) := by
  induction fragments with
  | nil => simp [pongs, continuations]
  | cons fragment fragments ih =>
    obtain ⟨hinner, hpongs, hpieces⟩ := ih
    obtain ⟨hcontrols, hanswers, hnone⟩ := delivered_controls fragment.2
    have hfirst : (Message.continued fragment).map ClientFrame.delivered =
        ⟨false, .continuation, fragment.1.payload⟩ ::
          (fragment.2.map Control.frame).map ClientFrame.delivered := by
      rw [Message.continued, List.map_cons, MaskedPayload.frame_delivered]
    rw [List.flatMap_cons, List.map_append, hfirst, pongs_append, continuations_append, hpongs,
      hpieces, List.flatMap_cons, List.map_cons]
    refine ⟨?_, ?_, ?_⟩
    · intro frame hframe
      rw [List.mem_append, List.mem_cons] at hframe
      rcases hframe with (rfl | hcontrol) | hlater
      · exact .inl ⟨rfl, rfl⟩
      · exact hcontrols frame hcontrol
      · exact hinner frame hlater
    · rw [← hanswers]
      simp [pongs]
    · have hbehind : continuations (⟨false, .continuation, fragment.1.payload⟩ ::
          (fragment.2.map Control.frame).map ClientFrame.delivered) =
          fragment.1.payload ::
            continuations ((fragment.2.map Control.frame).map ClientFrame.delivered) := by
        simp [continuations]
      rw [hbehind, hnone]
      rfl

/-- The pings of a message are answered, it is delivered, and the assembler is idle again. -/
theorem outputs_message (message : Message) (more : List WSFrame) :
    outputs idle (message.frames.map ClientFrame.delivered ++ more) =
      message.answer ++ outputs idle more := by
  obtain ⟨content, fragments, last, hwhole⟩ := message
  cases fragments with
  | nil =>
    have hcomplete : complete content.kind [last.payload] =
        (idle, [.callback content.callback]) :=
      complete_content (by simpa using hwhole)
    have hstep : step idle ⟨true, content.kind.opCode, last.payload⟩ =
        (idle, [.callback content.callback]) := by
      rw [← hcomplete]
      cases content.kind <;> rfl
    simp [Message.frames, Message.answer, MaskedPayload.frame_delivered, outputs, hstep]
  | cons first later =>
    obtain ⟨hcontrols, hanswers, hnone⟩ := delivered_controls first.2
    obtain ⟨hinner, hpongs, hpieces⟩ := delivered_continued later
    have hcomplete : complete content.kind
        (first.1.payload :: later.map (fun fragment => fragment.1.payload) ++ [last.payload]) =
          (idle, [.callback content.callback]) := by
      apply complete_content
      rw [← hwhole]
      simp [List.flatMap_def]
    have hframes : (Message.frames ⟨content, first :: later, last, hwhole⟩).map
        ClientFrame.delivered ++ more =
        ⟨false, content.kind.opCode, first.1.payload⟩ ::
          (((first.2.map Control.frame).map ClientFrame.delivered ++
            (later.flatMap Message.continued).map ClientFrame.delivered) ++
            ⟨true, .continuation, last.payload⟩ :: more) := by
      simp [Message.frames, MaskedPayload.frame_delivered]
    have hall : ∀ frame ∈ (first.2.map Control.frame).map ClientFrame.delivered ++
        (later.flatMap Message.continued).map ClientFrame.delivered, Inner frame := by
      intro frame hframe
      exact (List.mem_append.mp hframe).elim (hcontrols frame) (hinner frame)
    have hfragmented := @outputs_fragmented content.kind
      ⟨false, content.kind.opCode, first.1.payload⟩ ⟨true, .continuation, last.payload⟩ _
      (by cases content.kind <;> rfl) rfl hall rfl rfl more
    rw [hframes, hfragmented, pongs_append, continuations_append, hanswers, hnone, hpongs, hpieces,
      List.nil_append, hcomplete]
    simp [Message.answer]

/-- What a client says. -/
theorem outputs_said (said : List Utterance) (more : List WSFrame) :
    outputs idle ((said.flatMap Utterance.frames).map ClientFrame.delivered ++ more) =
      said.flatMap Utterance.answer ++ outputs idle more := by
  induction said with
  | nil => rfl
  | cons utterance said ih =>
    rw [List.flatMap_cons, List.flatMap_cons, List.map_append, List.append_assoc,
      List.append_assoc, ← ih]
    cases utterance with
    | message sent => exact outputs_message sent _
    | control sent =>
      have hdelivered : sent.frame.delivered = ⟨true, sent.opCode, sent.body.payload⟩ :=
        sent.body.frame_delivered true _ _
      have hstep : step idle ⟨true, sent.opCode, sent.body.payload⟩ = (idle, sent.answer) := by
        cases hping : sent.ping <;> simp [Control.opCode, Control.answer, step, hping]
      rw [Utterance.frames, List.map_singleton, hdelivered, List.singleton_append, outputs, hstep]
      rfl

end Assembler

/-- The callback among what is seen. -/
def Visible.callback? : Visible → Option Callback
  | .callback enqueued => some enqueued
  | .frame _ _ => none

/-- The callbacks are among the answers. -/
theorem callbacks_of_answers (log : List Output) :
    callbacks log = (answers log).filterMap Visible.callback? := by
  rw [callbacks, answers, List.filterMap_filterMap]
  congr 1
  funext output
  cases output with
  | callback enqueued => rfl
  | prepareToClose => rfl
  | frame sent =>
    by_cases hpong : sent.opCode = .pong <;>
      simp [Output.enqueued, Output.answer, Visible.callback?, hpong]

namespace Utterance

/-- The callback that a message is delivered by. -/
def callback? : Utterance → Option Callback
  | .control _ => none
  | .message sent => some sent.content.callback

theorem Control.callbacks_answer (control : Control) :
    control.answer.filterMap Visible.callback? = [] := by
  rw [Control.answer]
  split <;> rfl

theorem callbacks_answer (utterance : Utterance) :
    utterance.answer.filterMap Visible.callback? = utterance.callback?.toList := by
  cases utterance with
  | control sent => exact Control.callbacks_answer sent
  | message sent =>
    have hcontrols : (sent.fragments.flatMap fun fragment =>
        fragment.2.flatMap Control.answer).filterMap Visible.callback? = [] := by
      simp [List.filterMap_flatMap, Control.callbacks_answer]
    rw [answer, Message.answer, List.filterMap_append, hcontrols]
    rfl

theorem callbacks_answers (said : List Utterance) :
    (said.flatMap answer).filterMap Visible.callback? = said.filterMap callback? := by
  induction said with
  | nil => rfl
  | cons utterance said ih =>
    rw [List.flatMap_cons, List.filterMap_append, callbacks_answer, ih]
    cases hcallback : utterance.callback? <;> simp [hcallback]

/-- A frame of a client: a control frame, or a part of a message. -/
inductive Part : ClientFrame → Prop
  | control (sent : Control) : Part sent.frame
  | data (masked : MaskedPayload) (finalFrame : Bool) {opCode : FrameOpcode}
      (known : opCode ≠ .unknown)
      (data : opCode = .text ∨ opCode = .binary ∨ opCode = .continuation) :
      Part (masked.frame finalFrame opCode known)

/-- There are no others. -/
theorem parts (utterance : Utterance) : ∀ frame ∈ utterance.frames, Part frame := by
  have hcontrols (controls : List Control) : ∀ frame ∈ controls.map Control.frame, Part frame := by
    intro frame hframe
    obtain ⟨control, _, rfl⟩ := List.mem_map.mp hframe
    exact .control control
  intro frame hframe
  cases utterance with
  | control sent => exact hcontrols [sent] frame (by simpa [frames] using hframe)
  | message sent =>
    obtain ⟨content, fragments, last, hwhole⟩ := sent
    have hkind : content.kind.opCode = .text ∨ content.kind.opCode = .binary ∨
        content.kind.opCode = .continuation := by
      cases content.kind <;> simp [MessageKind.opCode]
    cases fragments with
    | nil =>
      obtain rfl : frame = _ := by simpa [frames, Message.frames] using hframe
      exact .data last true _ hkind
    | cons first later =>
      have hcases : frame = first.1.frame false content.kind.opCode content.kind.opCode_known ∨
          frame ∈ first.2.map Control.frame ∨ frame ∈ later.flatMap Message.continued ∨
          frame = last.frame true .continuation (by decide) := by
        simpa [frames, Message.frames] using hframe
      rcases hcases with rfl | hfirst | hlater | rfl
      · exact .data first.1 false _ hkind
      · exact hcontrols first.2 frame hfirst
      · obtain ⟨fragment, _, hfragment⟩ := List.mem_flatMap.mp hlater
        rcases List.mem_cons.mp hfragment with rfl | hbehind
        · exact .data fragment.1 false _ (.inr (.inr rfl))
        · exact hcontrols fragment.2 frame hbehind
      · exact .data last true _ (.inr (.inr rfl))

/-- A frame of a client is small enough for the parser. -/
theorem Part.small {frame : ClientFrame} (hpart : Part frame)
    (hlong : extendedSize frame.second = 8) : BigEndian.value frame.field < 2 ^ 32 := by
  cases hpart with
  | control sent => exact sent.body.frame_small _ _ _ hlong
  | data masked finalFrame known => exact masked.frame_small _ _ _ hlong

/-- And one that the assembler is given. -/
theorem Part.ordinary {frame : ClientFrame} (hpart : Part frame) :
    WebSocketConnection.Ordinary frame.delivered := by
  cases hpart with
  | control sent =>
    have hdelivered : sent.frame.delivered = ⟨true, sent.opCode, sent.body.payload⟩ :=
      sent.body.frame_delivered true _ _
    rw [hdelivered]
    exact ⟨by cases hping : sent.ping <;> simp [Control.opCode, hping], fun _ => ⟨rfl, sent.legal⟩⟩
  | data masked finalFrame known hdata =>
    rw [MaskedPayload.frame_delivered]
    rcases hdata with rfl | rfl | rfl <;> simp [WebSocketConnection.Ordinary]

end Utterance

namespace Endpoint

open WSSocketProcessor

/-- The bytes of what a client says. -/
def spoken (said : List Utterance) : List UInt8 :=
  ClientFrame.encodeAll (said.flatMap Utterance.frames)

theorem spoken_small (said : List Utterance) : LongLengthsSmall (spoken said) := by
  apply longLengthsSmall_encodeAll
  intro frame hframe
  obtain ⟨utterance, _, hutterance⟩ := List.mem_flatMap.mp hframe
  exact (utterance.parts frame hutterance).small

/-- What the parser finds in a beginning of what a client says. -/
theorem scan_spoken {said : List Utterance} {bytes : List UInt8} (hspoken : bytes <+: spoken said) :
    ∃ first second, first ++ second =
        (said.flatMap Utterance.frames).map ClientFrame.delivered ∧
      (Scanner.scan .start bytes).2 = first.map .frame := by
  obtain ⟨more, hmore⟩ := hspoken
  obtain ⟨frames, rest, hlongest, _, _, hscan⟩ :=
    exists_longest _ (spoken said) le_rfl (spoken_small said)
  obtain ⟨rfl, rfl⟩ := hlongest.eq_of_encodeAll
  rw [← hmore, Scanner.scan_append] at hscan
  have hevents := congrArg Prod.snd hscan
  simp only [Scanner.scan_nil, List.append_nil] at hevents
  obtain ⟨first, second, hsplit, hfirst, _⟩ := List.map_eq_append_iff.mp hevents.symm
  refine ⟨first.map ClientFrame.delivered, second.map ClientFrame.delivered, ?_, ?_⟩
  · rw [hsplit, List.map_append]
  · rw [← hfirst, List.map_map]
    rfl

/-- What a client says can be cut anywhere if every part of it carries something. -/
theorem uncut_of_spoken {said : List Utterance} {reads : List (List UInt8)}
    (hspoken : reads.flatten <+: spoken said)
    (hpayloads : ∀ frame ∈ said.flatMap Utterance.frames, frame.payload ≠ []) : Uncut reads := by
  apply uncut_of_payloads
  intro frame hframe
  obtain ⟨first, second, hsaid, hscan⟩ := scan_spoken hspoken
  have hmem : frame ∈ (said.flatMap Utterance.frames).map ClientFrame.delivered := by
    rw [← hsaid]
    exact List.mem_append_left _ (by simpa [hscan] using hframe)
  obtain ⟨sent, hsent, rfl⟩ := List.mem_map.mp hmem
  exact hpayloads sent hsent

/-- What a client has said is answered, in order. -/
theorem answers_of_spoken {handler : SocketHandler} {service : Option WebSocketService}
    {start : ℚ} {events : List EndpointEvent} {last : Endpoint} {said : List Utterance}
    (hrun : run handler (opened service start) events = .ok last)
    (hrunning : last.session.connection.Running) (huncut : Uncut (reads events))
    (hspoken : (reads events).flatten = spoken said) :
    answers last.session.connection.log =
      greeting service ++ said.flatMap Utterance.answer := by
  obtain ⟨frames, hscan, hanswers⟩ := scanned_of_run hrun hrunning huncut
  rw [hspoken] at hscan
  obtain ⟨decoded, rest, hlongest, _, rfl⟩ := exists_longest_of_scan (spoken_small said) hscan
  obtain ⟨rfl, _⟩ := hlongest.eq_of_encodeAll
  have houtputs := Assembler.outputs_said said []
  rw [List.append_nil] at houtputs
  rw [hanswers, houtputs]
  exact congrArg _ (List.append_nil _)

/-- A client says messages in any fragments, with pings and pongs anywhere, and its bytes are read
in any pieces that leave the masks of empty frames whole, while the service sends, the timer fires
and the callback queue takes its turns in any order. If the connection is still in operation and no
block found it or its service gone, then what the service has been given and what is still in the
queue is `connected` and the messages, each once and in order. And every ping has been answered, in
its place. -/
theorem said_is_given (handler : SocketHandler) (service : WebSocketService) (start : ℚ)
    (said : List Utterance) (events : List (SerialQueue.Event EndpointEvent))
    (last : SerialQueue.State Endpoint Callback)
    (hrun : runQueued handler (opened (some service) start) events = .ok last)
    (hrunning : last.machine.session.connection.Running)
    (huncut : Uncut (reads (events.filterMap SerialQueue.Event.machine?)))
    (hspoken : (reads (events.filterMap SerialQueue.Event.machine?)).flatten = spoken said)
    (hkept : FallibleRun.NoStep (SerialQueue.step (callbackQueue handler))
      (SerialQueue.start (callbackQueue handler) (opened (some service) start)) events
      (Lost handler)) :
    last.performed ++ last.pending = .connected :: said.filterMap Utterance.callback? ∧
      answers last.machine.session.connection.log =
        .callback .connected :: said.flatMap Utterance.answer := by
  have hwf : (opened (some service) start).session.parser.Wf := WSFrameParser.wf_fresh
  have hanswers := answers_of_spoken (SerialQueue.machine_of_run hrun) hrunning huncut hspoken
  have hcomplete := (SerialQueue.complete_iff (callbackQueue_grows handler) hwf hrun).mpr hkept
  refine ⟨hcomplete.trans ?_, hanswers⟩
  show callbacks last.machine.session.connection.log = _
  rw [callbacks_of_answers, hanswers, List.filterMap_append, Utterance.callbacks_answers]
  rfl

/-- Two bytes in two fragments, with a ping between them. -/
def twoBytes : Message where
  content := .binary [1, 2]
  fragments := [(⟨[1], [0, 0, 0, 0], by decide, rfl⟩,
    [⟨true, ⟨[7], [0, 0, 0, 0], by decide, rfl⟩, by decide⟩])]
  last := ⟨[2], [0, 0, 0, 0], by decide, rfl⟩
  whole := rfl

theorem twoBytes_payloads :
    ∀ frame ∈ [Utterance.message twoBytes].flatMap Utterance.frames, frame.payload ≠ [] := by
  decide

/-- It is read in two pieces. Its callback is still in the queue. -/
theorem said_is_given_twoBytes :
    [Callback.connected] ++ [.receivedData [1, 2]] =
        .connected :: [Utterance.message twoBytes].filterMap Utterance.callback? ∧
      answers ((((WebSocketConnection.opened (some ⟨none⟩) 0).sent .pong (some [7]))).enqueue
          (.receivedData [1, 2])).log =
        .callback .connected :: [Utterance.message twoBytes].flatMap Utterance.answer := by
  have hrun : runQueued ⟨fun _ => false⟩ (opened (some ⟨none⟩) 0)
      [.machine (.read (fun _ => 0) [2, 0x81, 0, 0, 0]), .work,
        .machine (.read (fun _ => 0)
          [0, 1, 0x89, 0x81, 0, 0, 0, 0, 7, 0x80, 0x81, 0, 0, 0, 0, 2])] =
      .ok ⟨⟨⟨{ ((WebSocketConnection.opened (some ⟨none⟩) 0).sent .pong (some [7])).enqueue
            (.receivedData [1, 2]) with message := [1, 2] },
          { frame := ⟨true, .continuation, []⟩, masked := true }, 0⟩, [], true⟩,
        [.receivedData [1, 2]], [.connected]⟩ := by
    decide +kernel
  have hspoken : (reads [.read (fun _ => 0) [2, 0x81, 0, 0, 0], .read (fun _ => 0)
      [0, 1, 0x89, 0x81, 0, 0, 0, 0, 7, 0x80, 0x81, 0, 0, 0, 0, 2]]).flatten =
      spoken [.message twoBytes] := by
    decide +kernel
  exact said_is_given ⟨fun _ => false⟩ ⟨none⟩ 0 [.message twoBytes] _ _ hrun ⟨rfl, rfl, rfl⟩
    (uncut_of_spoken (hspoken ▸ List.prefix_rfl) twoBytes_payloads) hspoken
    ((SerialQueue.complete_iff (callbackQueue_grows _) WSFrameParser.wf_fresh hrun).mp rfl)

end Endpoint

end KituraWebSocket
