/-
# Outgoing control frames

What a control frame may carry: at most 125 bytes, and, in a close frame, a status
code that is meant to be sent. The library keeps to the first in every frame that it
writes by itself, but not in those whose text the service gives
(`controlFramesLegal_iff`); and it writes the two codes 1005 and 1006, which are only
meant for the service, when it closes for want of an answer or of a reason
(`codesSendable_iff`).
-/

import KituraWebSocket.Connection.CloseFrames

namespace KituraWebSocket

/-- A close, ping or pong frame has a payload of at most 125 bytes. -/
def LegalControl (sent : SentFrame) : Prop :=
  sent.opCode ∈ [.close, .ping, .pong] → sent.payload.length ≤ 125

instance (sent : SentFrame) : Decidable (LegalControl sent) := by
  unfold LegalControl
  infer_instance

@[simp]
theorem SentFrame.of_opCode (opCode : FrameOpcode) (payload : Option (List UInt8)) :
    (SentFrame.of opCode payload).opCode = opCode := rfl

@[simp]
theorem SentFrame.of_payload (opCode : FrameOpcode) (payload : Option (List UInt8)) :
    (SentFrame.of opCode payload).payload = payload.getD [] := rfl

namespace WebSocketConnection

/-- Everything that carrying out a judgement puts into a control frame fits in. -/
def Verdict.Fits : Verdict → Prop
  | .nothing | .deliver _ => True
  | .pong payload => payload.length ≤ 125
  | .violation description | .invalidData description => (utf8Bytes description).length ≤ 123
  | .closed _ description => ∀ text, description = some text → (utf8Bytes text).length ≤ 123

theorem textVerdict_fits (data : List UInt8) : (textVerdict data).Fits := by
  rw [textVerdict]
  split
  · trivial
  · exact (show (utf8Bytes _).length ≤ 123 by decide +kernel)

theorem closeVerdict_fits (payload : List UInt8) : (closeVerdict payload).Fits := by
  rw [closeVerdict]
  split
  · rename_i hlength
    cases htext : stringFromUTF8 (payload.drop 2) with
    | none => exact (show (utf8Bytes _).length ≤ 123 by decide +kernel)
    | some description =>
      intro text htext'
      obtain rfl := Option.some.inj htext'
      rw [length_utf8Bytes_of_stringFromUTF8 htext, List.length_drop]
      omega
  · split
    · rintro text hnone
      cases hnone
    · exact (show (utf8Bytes _).length ≤ 123 by decide +kernel)

/-- Every judgement fits. -/
theorem verdict_fits (connection : WebSocketConnection) (frame : WSFrame) :
    (connection.verdict frame).Fits := by
  have hjudged := connection.verdict_cases frame
  generalize connection.verdict frame = verdict at hjudged ⊢
  cases hjudged with
  | nothing => trivial
  | data message final whole => trivial
  | text data whole => exact textVerdict_fits data
  | close opCode active => exact closeVerdict_fits frame.payload
  | pong legal => exact Nat.le_of_lt_succ legal.2.2
  | violation description short => exact short

/-- The service gives a control frame more text than it may carry. -/
def Overlong (connection : WebSocketConnection) : ConnectionEvent → Prop
  | .ping (some message) => connection.active = true ∧ 125 < (utf8Bytes message).length
  | .close _ (some description) | .drop _ (some description) =>
    123 < (utf8Bytes description).length
  | _ => False

/-- The service gives too much, and the frame reaches the handler. -/
def SendsOverlong (connection : WebSocketConnection) (event : ConnectionEvent) : Prop :=
  connection.processorAlive = true ∧ connection.handlerAttached = true ∧
    connection.Overlong event

/-- A close frame is legal exactly if its description takes at most 123 bytes. -/
theorem legalControl_close (reason : Option WebSocketCloseReasonCode)
    (description : Option String) :
    LegalControl (SentFrame.of .close (some (closePayload reason description))) ↔
      ∀ text, description = some text → (utf8Bytes text).length ≤ 123 := by
  cases description with
  | none => simp [LegalControl, closePayload, hostToNetwork]
  | some text =>
    simp only [LegalControl, SentFrame.of_opCode, SentFrame.of_payload, Option.getD_some,
      length_closePayload, Option.some.injEq, forall_eq']
    constructor
    · intro hlegal
      have := hlegal (by simp)
      omega
    · intro hshort _
      omega

theorem legalControl_closeFrame (reason : WebSocketCloseReasonCode)
    (description : Option String) :
    LegalControl (closeFrame reason description) ↔
      ∀ text, description = some text → (utf8Bytes text).length ≤ 123 :=
  legalControl_close (some reason) description

/-- The frame that a judgement asks for is legal. -/
theorem legalControl_of_asks {connection : WebSocketConnection} {verdict : Verdict}
    (hfits : verdict.Fits) {sent : SentFrame} (hasks : verdict.Asks connection sent) :
    LegalControl sent := by
  cases hasks with
  | pong payload => exact fun _ => hfits
  | violation description active =>
    rw [legalControl_closeFrame]
    rintro text htext
    obtain rfl := Option.some.inj htext
    exact hfits
  | invalidData description =>
    rw [legalControl_closeFrame]
    rintro text htext
    obtain rfl := Option.some.inj htext
    exact hfits
  | closed reason description active =>
    rw [legalControl_closeFrame]
    exact hfits

/-- The frame of a step is legal unless the service gives too much. -/
theorem legalControl_frameOf {connection : WebSocketConnection} {event : ConnectionEvent}
    {sent : SentFrame} (hframe : connection.frameOf event = some sent) :
    LegalControl sent ↔ ¬ connection.Overlong event := by
  cases frameOf_cases hframe with
  | sendData message asBinary active => cases asBinary <;> simp [LegalControl, Overlong]
  | sendString message active => simp [LegalControl, Overlong]
  | ping withMessage active => cases withMessage <;> simp [LegalControl, Overlong, active]
  | close reason description =>
    rw [legalControl_close]
    cases description <;> simp [Overlong]
  | drop reason description =>
    rw [legalControl_close]
    cases description <;> simp [Overlong]
  | received now frame sent judged =>
    exact iff_of_true (legalControl_of_asks (connection.verdict_fits frame) judged) id
  | parseError error =>
    rw [legalControl_closeFrame]
    simp [Overlong, error.length_description]
  | pinged now due active => simp [LegalControl, Overlong]
  | expired now due active => simp [legalControl_closeFrame, Overlong]
  | processorClose active => simp [legalControl_closeFrame, Overlong]
  | socketClosed active => simp [legalControl_closeFrame, Overlong]

/-- An argument that is too long asks for a frame. -/
theorem frameOf_of_overlong {connection : WebSocketConnection} {event : ConnectionEvent}
    (hlong : connection.Overlong event) : ∃ sent, connection.frameOf event = some sent := by
  cases event with
  | ping withMessage =>
    cases withMessage with
    | none => exact hlong.elim
    | some message => exact ⟨_, if_pos hlong.1⟩
  | close reason description => exact ⟨_, rfl⟩
  | drop reason description => exact ⟨_, rfl⟩
  | _ => exact hlong.elim

/-- The frames that a step hands over are legal exactly if it does not send too much. -/
theorem legalControl_reaching (connection : WebSocketConnection) (event : ConnectionEvent) :
    (∀ sent ∈ connection.reaching (connection.frameOf event), LegalControl sent) ↔
      ¬ connection.SendsOverlong event := by
  constructor
  · rintro hlegal ⟨halive, hattached, hlong⟩
    obtain ⟨sent, hframe⟩ := frameOf_of_overlong hlong
    have hsent := hlegal sent (reaching_eq_some.mpr ⟨halive, hattached, hframe⟩)
    exact (legalControl_frameOf hframe).mp hsent hlong
  · intro hfits sent hsent
    obtain ⟨halive, hattached, hframe⟩ := reaching_eq_some.mp hsent
    exact (legalControl_frameOf hframe).mpr fun hlong => hfits ⟨halive, hattached, hlong⟩

/-- Every close, ping and pong frame that a run hands over has a payload of at most 125 bytes,
exactly when the service never gives one a longer text. -/
theorem controlFramesLegal_iff (handler : SocketHandler) (service : Option WebSocketService)
    (start : ℚ) (events : List ConnectionEvent) (last : WebSocketConnection)
    (hrun : run handler (opened service start) events = .ok last) :
    (∀ sent ∈ handed last.log, LegalControl sent) ↔
      FallibleRun.NoStep (step handler) (opened service start) events SendsOverlong := by
  have hstart : ∀ sent ∈ handed (opened service start).log, LegalControl sent := by
    have hinit : handed (opened service start).log = [] := by cases service <;> rfl
    simp [hinit]
  refine (FallibleRun.run_iff_noStep (fun _ _ => True)
    (fun _ connection => ∀ sent ∈ handed connection.log, LegalControl sent) trivial
    (fun _ _ _ _ _ _ => trivial) ?_ hrun).trans (and_iff_right hstart)
  intro _ connection event next _ hreturns
  rw [log_of_step hreturns, handed_append, handed_outputs, List.forall_mem_append,
    ← legalControl_reaching]
  apply and_congr_right
  intro _
  simp only [Option.mem_toList, Option.mem_def]

/-- A close with a short text. -/
theorem controlFramesLegal_iff_close :
    (∀ sent ∈ handed ((opened (some ⟨none⟩) 0).after ⟨fun _ => false⟩
        (.close (some .goingAway) (some "bye"))).log, LegalControl sent) ↔
      FallibleRun.NoStep (step ⟨fun _ => false⟩) (opened (some ⟨none⟩) 0)
        [.close (some .goingAway) (some "bye")] SendsOverlong :=
  controlFramesLegal_iff ⟨fun _ => false⟩ (some ⟨none⟩) 0 [.close (some .goingAway) (some "bye")]
    _ (by decide +kernel)

/-- A ping with a text of 126 letters. -/
theorem not_controlFramesLegal_ping :
    ∃ last, run ⟨fun _ => false⟩ (opened (some ⟨none⟩) 0)
        [.ping (some (String.ofList (List.replicate 126 'a')))] = .ok last ∧
      ¬ ∀ sent ∈ handed last.log, LegalControl sent :=
  ⟨(opened (some ⟨none⟩) 0).after ⟨fun _ => false⟩
    (.ping (some (String.ofList (List.replicate 126 'a')))), by decide +kernel, by decide +kernel⟩

end WebSocketConnection

/-- A close frame carries no status code, or one that the receiver accepts unchanged. -/
def CodeSendable (sent : SentFrame) : Prop :=
  sent.opCode = .close → sent.payload.length < 2 ∨
    (WebSocketCloseReasonCode.fromCode (networkToHost (sent.payload.take 2))).code.toNat =
      networkToHost (sent.payload.take 2)

instance (sent : SentFrame) : Decidable (CodeSendable sent) := by
  unfold CodeSendable
  infer_instance

namespace WebSocketConnection

/-- The code of a close frame is that of its reason. -/
theorem codeSendable_closeFrame (reason : WebSocketCloseReasonCode)
    (description : Option String) :
    CodeSendable (closeFrame reason description) ↔ reason.Sendable := by
  have hcode : networkToHost (hostToNetwork 2 reason.code.toNat) = reason.code.toNat :=
    BigEndian.value_bytes reason.code.toNat_lt
  have htake : (closeFrame reason description).payload.take 2 =
      hostToNetwork 2 reason.code.toNat := by
    cases description <;>
      simp [closeFrame, closePayload, hostToNetwork, List.take_of_length_le]
  have hlength : ¬ (closeFrame reason description).payload.length < 2 := by
    cases description with
    | none => simp [closeFrame, closePayload, hostToNetwork]
    | some text =>
      show ¬ (closePayload (some reason) (some text)).length < 2
      rw [length_closePayload]
      omega
  rw [CodeSendable, htake, hcode, WebSocketCloseReasonCode.Sendable, ← UInt16.toNat_inj]
  simp only [hlength, false_or]
  exact ⟨fun h => h rfl, fun h _ => h⟩

/-- The service gives a reason of its own. -/
def GivesReason : ConnectionEvent → Prop
  | .close (some _) _ | .drop (some _) _ => True
  | _ => False

/-- The library closes with a reason that is only meant for the service: for want of a reason in
the client's close frame, of life, or of a socket. -/
def LocalReason (connection : WebSocketConnection) : ConnectionEvent → Prop
  | .received _ frame => frame.opCode = .close ∧ frame.payload = []
  | .timer now => connection.timerVerdict now = .expired
  | .processorClose | .socketClosed => True
  | _ => False

/-- It does so on an active connection whose handler can be reached. -/
def SendsLocalReason (connection : WebSocketConnection) (event : ConnectionEvent) : Prop :=
  connection.processorAlive = true ∧ connection.handlerAttached = true ∧
    connection.active = true ∧ connection.LocalReason event

/-- The client's close is taken from its close frame alone. -/
theorem verdict_eq_closed {connection : WebSocketConnection} {frame : WSFrame}
    {reason : WebSocketCloseReasonCode} {description : Option String}
    (hverdict : connection.verdict frame = .closed reason description) :
    frame.opCode = .close ∧ connection.active = true ∧
      closeVerdict frame.payload = .closed reason description := by
  have hjudged := connection.verdict_cases frame
  generalize connection.verdict frame = verdict at hjudged hverdict
  cases hjudged with
  | nothing => cases hverdict
  | data message final whole => cases hverdict
  | text data whole =>
    rw [textVerdict] at hverdict
    split at hverdict <;> cases hverdict
  | close opCode active => exact ⟨opCode, active, hverdict⟩
  | pong legal => cases hverdict
  | violation description short => cases hverdict

/-- The reason of a close frame can be sent back unless the frame is empty. -/
theorem closeVerdict_sendable {payload : List UInt8} {reason : WebSocketCloseReasonCode}
    {description : Option String} (hverdict : closeVerdict payload = .closed reason description) :
    reason.Sendable ↔ payload ≠ [] := by
  rw [closeVerdict] at hverdict
  split_ifs at hverdict with hlength hempty
  · have hnonempty : payload ≠ [] := by
      rintro rfl
      simp at hlength
    have hfits : networkToHost (payload.take 2) < 2 ^ 16 := by
      have hvalue := BigEndian.value_lt (payload.take 2)
      rwa [List.length_take, Nat.min_eq_left hlength.1] at hvalue
    split at hverdict
    · cases hverdict
      exact iff_of_true (WebSocketCloseReasonCode.sendable_fromCode hfits) hnonempty
    · cases hverdict
  · cases hverdict
    rw [List.length_eq_zero_iff] at hempty
    exact iff_of_false (by decide) (not_not_intro hempty)

/-- The status code of a step is one to be sent, unless the reason is only meant for the service. -/
theorem codeSendable_frameOf {connection : WebSocketConnection} {event : ConnectionEvent}
    {sent : SentFrame} (hown : ¬ GivesReason event)
    (hframe : connection.frameOf event = some sent) :
    CodeSendable sent ↔ ¬ (connection.active = true ∧ connection.LocalReason event) := by
  have hother (opCode : FrameOpcode) (payload : Option (List UInt8)) (hopCode : opCode ≠ .close) :
      CodeSendable (SentFrame.of opCode payload) := fun hclose => absurd hclose hopCode
  cases frameOf_cases hframe with
  | sendData message asBinary active =>
    exact iff_of_true (hother _ _ (by cases asBinary <;> decide)) fun h => h.2
  | sendString message active => exact iff_of_true (hother _ _ (by decide)) fun h => h.2
  | ping withMessage active => exact iff_of_true (hother _ _ (by decide)) fun h => h.2
  | close reason description =>
    cases reason with
    | some reason => exact absurd trivial hown
    | none => exact iff_of_true ((codeSendable_closeFrame .normal _).mpr (by decide)) fun h => h.2
  | drop reason description =>
    cases reason with
    | some reason => exact absurd trivial hown
    | none => exact iff_of_true ((codeSendable_closeFrame .normal _).mpr (by decide)) fun h => h.2
  | received now frame sent judged =>
    -- An empty close frame is judged to be the client's close, for want of a reason.
    have hempty (hactive : connection.active = true)
        (hlocal : connection.LocalReason (.received now frame)) :
        connection.verdict frame = .closed .noReasonCodeSent none := by
      obtain ⟨hopCode, hpayload⟩ := hlocal
      simp [verdict, hopCode, hactive, hpayload, closeVerdict]
    generalize hverdict : connection.verdict frame = verdict at judged hempty
    cases judged with
    | pong payload =>
      apply iff_of_true (hother _ _ (by decide))
      rintro ⟨hactive, hlocal⟩
      cases hempty hactive hlocal
    | violation description active =>
      apply iff_of_true ((codeSendable_closeFrame _ _).mpr (by decide))
      rintro ⟨hactive, hlocal⟩
      cases hempty hactive hlocal
    | invalidData description =>
      apply iff_of_true ((codeSendable_closeFrame _ _).mpr (by decide))
      rintro ⟨hactive, hlocal⟩
      cases hempty hactive hlocal
    | closed reason description active =>
      obtain ⟨hopCode, _, hclose⟩ := verdict_eq_closed hverdict
      rw [codeSendable_closeFrame, closeVerdict_sendable hclose]
      simp [LocalReason, active, hopCode]
  | parseError error =>
    exact iff_of_true ((codeSendable_closeFrame _ _).mpr (by decide)) fun h => h.2
  | pinged now due active =>
    exact iff_of_true (hother _ _ (by decide)) (by simp [LocalReason, due])
  | expired now due active =>
    rw [codeSendable_closeFrame]
    exact iff_of_false (by decide) (not_not_intro ⟨active, due⟩)
  | processorClose active =>
    rw [codeSendable_closeFrame]
    exact iff_of_false (by decide) (not_not_intro ⟨active, trivial⟩)
  | socketClosed active =>
    rw [codeSendable_closeFrame]
    exact iff_of_false (by decide) (not_not_intro ⟨active, trivial⟩)

/-- A reason that is only meant for the service asks for a frame all the same. -/
theorem frameOf_of_localReason {connection : WebSocketConnection} {event : ConnectionEvent}
    (hactive : connection.active = true) (hlocal : connection.LocalReason event) :
    ∃ sent, connection.frameOf event = some sent := by
  cases event with
  | received now frame =>
    obtain ⟨hopCode, hpayload⟩ := hlocal
    exact ⟨closeFrame .noReasonCodeSent none, by
      simp [frameOf, verdict, verdictFrame, closeVerdict, hopCode, hpayload, hactive]⟩
  | timer now =>
    have hverdict : connection.timerVerdict now = .expired := hlocal
    exact ⟨closeFrame .closedAbnormally none, by simp [frameOf, hverdict, hactive]⟩
  | processorClose => exact ⟨_, if_pos hactive⟩
  | socketClosed => exact ⟨_, if_pos hactive⟩
  | _ => exact hlocal.elim

theorem not_givesReason_of_localReason {connection : WebSocketConnection}
    {event : ConnectionEvent} (hlocal : connection.LocalReason event) : ¬ GivesReason event := by
  cases event with
  | close reason description => exact hlocal.elim
  | drop reason description => exact hlocal.elim
  | _ => exact id

/-- What a step writes without a reason from the service has a status code to be sent, or none. -/
def SendsSendable (connection : WebSocketConnection) (event : ConnectionEvent)
    (next : WebSocketConnection) : Prop :=
  ¬ GivesReason event → ∀ written, next.log = connection.log ++ written →
    ∀ sent ∈ handed written, CodeSendable sent

/-- Every close frame that a run writes without a reason from the service carries a code that the
receiver accepts unchanged, or none, exactly when no step of the run closes an active connection
within reach of its handler for an empty close frame, for its timeout, or by the processor's `close`
or `socketClosed`. -/
theorem codesSendable_iff (handler : SocketHandler) (service : Option WebSocketService)
    (start : ℚ) (events : List ConnectionEvent) (last : WebSocketConnection)
    (hrun : run handler (opened service start) events = .ok last) :
    FallibleRun.EveryStep (step handler) (opened service start) events SendsSendable ↔
      FallibleRun.NoStep (step handler) (opened service start) events SendsLocalReason := by
  apply FallibleRun.everyStep_iff_noStep (fun _ _ => True) trivial (fun _ _ _ _ _ _ => trivial)
    _ hrun
  intro _ connection event next _ hreturns
  have hlog := log_of_step hreturns
  constructor
  · rintro hsendable ⟨halive, hattached, hactive, hlocal⟩
    have hown := not_givesReason_of_localReason hlocal
    obtain ⟨sent, hframe⟩ := frameOf_of_localReason hactive hlocal
    have hmem : sent ∈ handed (connection.outputs handler event) := by
      rw [handed_outputs, Option.mem_toList]
      exact reaching_eq_some.mpr ⟨halive, hattached, hframe⟩
    exact (codeSendable_frameOf hown hframe).mp (hsendable hown _ hlog sent hmem)
      ⟨hactive, hlocal⟩
  · intro hkept hown written hwritten sent hmem
    obtain rfl : connection.outputs handler event = written :=
      List.append_cancel_left (hlog.symm.trans hwritten)
    rw [handed_outputs, Option.mem_toList] at hmem
    obtain ⟨halive, hattached, hframe⟩ := reaching_eq_some.mp hmem
    exact (codeSendable_frameOf hown hframe).mpr fun h => hkept ⟨halive, hattached, h⟩

/-- A client that gives a reason gets it back. -/
theorem codesSendable_iff_close :
    FallibleRun.EveryStep (step ⟨fun _ => false⟩) (opened (some ⟨none⟩) 0)
        [.received 0 ⟨true, .close, [0x03, 0xE8]⟩] SendsSendable ↔
      FallibleRun.NoStep (step ⟨fun _ => false⟩) (opened (some ⟨none⟩) 0)
        [.received 0 ⟨true, .close, [0x03, 0xE8]⟩] SendsLocalReason :=
  codesSendable_iff ⟨fun _ => false⟩ (some ⟨none⟩) 0 [.received 0 ⟨true, .close, [0x03, 0xE8]⟩]
    ((opened (some ⟨none⟩) 0).after ⟨fun _ => false⟩ (.received 0 ⟨true, .close, [0x03, 0xE8]⟩))
    (by decide +kernel)

/-- An empty close frame is answered with the code 1005. -/
theorem not_codesSendable_empty_close :
    ¬ FallibleRun.EveryStep (step ⟨fun _ => false⟩) (opened (some ⟨none⟩) 0)
      [.received 0 ⟨true, .close, []⟩] SendsSendable := by
  intro hevery
  have hsendable := hevery [] _ [] _
    ((opened (some ⟨none⟩) 0).after ⟨fun _ => false⟩ (.received 0 ⟨true, .close, []⟩)) rfl rfl
    (by decide +kernel) id _ (after_log _ _ _)
  revert hsendable
  decide +kernel

end WebSocketConnection

end KituraWebSocket
