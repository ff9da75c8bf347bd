/-
# Closing from all sides

`close`, `drop`, `connectionClosed`, the processor's `close` and `socketClosed`,
received frames and the timer may close a connection in any order and any number
of times, and the handler may call back in the middle. `closesOnce_iff` says that
they do so once: the calls return, the connection stays closed and the service is
told at most once. All that stands in the way is a description so long that
its length does not fit into the header of a close frame.
-/

import KituraWebSocket.Connection.Callbacks

namespace KituraWebSocket

/-- What happens to a connection, with calls of `connectionClosed` on their own. -/
inductive ClosingEvent
  | event (event : ConnectionEvent)
  | /-- `connectionClosed(reason:description:reasonToSendBack:)`. -/
    connectionClosed (reason : WebSocketCloseReasonCode) (description : Option String)
      (reasonToSendBack : Option WebSocketCloseReasonCode)

/-- The service only sends, and closes nothing. -/
def ClosingEvent.onlySends : ClosingEvent → Bool
  | .event (.sendData _ _) | .event (.sendString _) | .event (.ping _) => true
  | _ => false

/-- The service closes. -/
def ClosingEvent.isOwnClose : ClosingEvent → Bool
  | .event (.close _ _) | .event (.drop _ _) => true
  | _ => false

namespace WebSocketConnection

/-- One event. -/
def closingStep (handler : SocketHandler) (connection : WebSocketConnection) :
    ClosingEvent → Except Fault WebSocketConnection
  | .event event => step handler connection event
  | .connectionClosed reason description reasonToSendBack =>
    connectionClosed handler callDepth connection reason description reasonToSendBack

/-- The connection after `connectionClosed`. -/
def answered (handler : SocketHandler) (connection : WebSocketConnection)
    (reason : WebSocketCloseReasonCode) (description : Option String)
    (reasonToSendBack : Option WebSocketCloseReasonCode) : WebSocketConnection :=
  if connection.active then
    (connection.closed handler (some (reasonToSendBack.getD reason)) description true).enqueue
      (.disconnected reason)
  else connection.askedToClose handler

/-- The connection after an event. -/
def closingAfter (handler : SocketHandler) (connection : WebSocketConnection) :
    ClosingEvent → WebSocketConnection
  | .event event => connection.after handler event
  | .connectionClosed reason description reasonToSendBack =>
    connection.answered handler reason description reasonToSendBack

/-- The description of a close frame whose length does not fit into 32 bits. -/
def TooLong (description : Option String) : Prop :=
  ∃ text, description = some text ∧ 2 ^ 32 ≤ 2 + (utf8Bytes text).length

/-- A close frame with a description that is too long is about to be written. -/
def Overflows (connection : WebSocketConnection) (event : ClosingEvent) : Prop :=
  connection.processorAlive = true ∧
    match event with
    | .event (.close _ description) | .event (.drop _ description) => TooLong description
    | .connectionClosed _ description _ => connection.active = true ∧ TooLong description
    | _ => False

theorem tooLong_iff (reason : Option WebSocketCloseReasonCode) (description : Option String) :
    TooLong description ↔ 2 ^ 32 ≤ (closePayload reason description).length := by
  cases description with
  | none =>
    have hcode : (closePayload reason none).length = 2 := by simp [closePayload, hostToNetwork]
    simp [TooLong, hcode]
  | some text => simp [TooLong, length_closePayload]

section Returns

variable {handler : SocketHandler} {connection next : WebSocketConnection}

/-- Closing returns, unless there is a processor and the description is too long. -/
theorem closeConnection_returns {reason : Option WebSocketCloseReasonCode}
    {description : Option String} (hard : Bool)
    (hfits : ¬ (connection.processorAlive = true ∧ TooLong description)) (depth : ℕ) :
    closeConnection handler (depth + 4) connection reason description hard =
      .ok (connection.closed handler reason description hard) := by
  by_cases hlong : TooLong description
  · have hgone : connection.processorAlive = false := by
      simpa [hlong] using hfits
    apply closeConnection_of_sent
    simp [sendMessage, sent, hgone]
  · rw [tooLong_iff reason, Nat.not_le] at hlong
    exact closeConnection_eq depth hard hlong

/-- Otherwise the conversion of the length stops the program. -/
theorem closeConnection_overflow {reason : Option WebSocketCloseReasonCode}
    {description : Option String} (hard : Bool) (halive : connection.processorAlive = true)
    (hlong : TooLong description) (depth : ℕ) :
    closeConnection handler (depth + 1) connection reason description hard =
      .error .overflow := by
  rw [tooLong_iff reason] at hlong
  rw [closeConnection, sendMessage_overflow (by decide) halive (by simpa using hlong), error_bind]

theorem connectionClosed_returns {reason : WebSocketCloseReasonCode}
    {description : Option String} {reasonToSendBack : Option WebSocketCloseReasonCode}
    (hfits : ¬ (connection.processorAlive = true ∧ connection.active = true ∧
      TooLong description)) (depth : ℕ) :
    connectionClosed handler (depth + 5) connection reason description reasonToSendBack =
      .ok (connection.answered handler reason description reasonToSendBack) := by
  rw [connectionClosed, answered]
  cases hactive : connection.active with
  | true =>
    have hclosed : closeConnection handler (depth + 4) connection
        (some (reasonToSendBack.getD reason)) description true =
        .ok (connection.closed handler (some (reasonToSendBack.getD reason)) description true) :=
      closeConnection_returns true (fun h => hfits ⟨h.1, hactive, h.2⟩) depth
    simp only [if_true, hclosed, ok_bind, pure_eq_ok]
  | false =>
    cases halive : connection.processorAlive with
    | false => simp [askedToClose, halive]
    | true => simpa [halive] using processorClose_inactive handler (depth + 1) hactive halive

/-- Every event but a send returns, unless a description is too long. -/
theorem closingStep_returns (connection : WebSocketConnection) {event : ClosingEvent}
    (hcloses : event.onlySends = false) (hfits : ¬ connection.Overflows event) :
    closingStep handler connection event = .ok (connection.closingAfter handler event) := by
  cases event with
  | connectionClosed reason description reasonToSendBack =>
    exact connectionClosed_returns hfits 3
  | event event =>
    cases event with
    | sendData message asBinary => cases hcloses
    | sendString message => cases hcloses
    | ping withMessage => cases hcloses
    | close reason description => exact closeConnection_returns false hfits 4
    | drop reason description => exact closeConnection_returns true hfits 4
    | received now frame => exact received_eq handler now connection frame
    | parseError error =>
      exact closeConnection_eq 4 false (short_description (error.length_description.trans_lt (by decide)))
    | timer now => exact timerFired_returns connection now
    | processorClose => exact step_processorClose connection
    | socketClosed => exact step_socketClosed connection
    | serviceChanged service => rfl
    | handlerReleased => rfl
    | processorReleased => rfl

/-- An event whose description is too long does not return. -/
theorem closingStep_overflow {event : ClosingEvent} (hlong : connection.Overflows event) :
    closingStep handler connection event = .error .overflow := by
  obtain ⟨halive, hlong⟩ := hlong
  cases event with
  | connectionClosed reason description reasonToSendBack =>
    obtain ⟨hactive, hlong⟩ := hlong
    simp [closingStep, connectionClosed, callDepth, hactive,
      closeConnection_overflow true halive hlong]
  | event event =>
    cases event with
    | close reason description => exact closeConnection_overflow false halive hlong 7
    | drop reason description => exact closeConnection_overflow true halive hlong 7
    | _ => exact hlong.elim

/-- An event that returns has done what it does. -/
theorem eq_closingAfter_of_step {event : ClosingEvent}
    (hreturns : closingStep handler connection event = .ok next) :
    next = connection.closingAfter handler event := by
  by_cases hlong : connection.Overflows event
  · rw [closingStep_overflow hlong] at hreturns
    cases hreturns
  · cases event with
    | event event => exact eq_after_of_step hreturns
    | connectionClosed reason description reasonToSendBack =>
      rw [closingStep_returns connection rfl hlong] at hreturns
      cases hreturns
      rfl

end Returns

section Step

variable (handler : SocketHandler) {connection : WebSocketConnection}

theorem closingAfter_inactive (hinactive : connection.active = false) (event : ClosingEvent) :
    (connection.closingAfter handler event).active = false := by
  cases event with
  | event event => simp [closingAfter, after_active, hinactive]
  | connectionClosed reason description reasonToSendBack =>
    simp [closingAfter, answered, hinactive]

/-- The service's own close of an active connection. -/
def OwnClose (connection : WebSocketConnection) (event : ClosingEvent) : Prop :=
  connection.active = true ∧ event.isOwnClose = true

theorem inactive_of_ownClose {event : ClosingEvent} (hown : connection.OwnClose event) :
    (connection.closingAfter handler event).active = false := by
  cases event with
  | connectionClosed reason description reasonToSendBack => cases hown.2
  | event event =>
    cases event with
    | close reason description => simp [closingAfter, after]
    | drop reason description => simp [closingAfter, after]
    | _ => cases hown.2

theorem disconnections_closed (reason : Option WebSocketCloseReasonCode)
    (description : Option String) (hard : Bool) :
    (connection.closed handler reason description hard).disconnections =
      connection.disconnections := by
  simp [disconnections, closed_log]

theorem disconnections_told (connection : WebSocketConnection)
    (reason : WebSocketCloseReasonCode) :
    (connection.enqueue (.disconnected reason)).disconnections = connection.disconnections + 1 := by
  have hcallbacks : callbacks [.callback (.disconnected reason)] = [.disconnected reason] := rfl
  simp [disconnections, enqueue, emit, hcallbacks, Callback.isDisconnected]

/-- The service is told when an active connection ends, but not by its own close, and by nothing
else. -/
theorem disconnections_closingAfter (connection : WebSocketConnection) (event : ClosingEvent) :
    (connection.closingAfter handler event).disconnections = connection.disconnections ∨
      connection.active = true ∧ ¬ connection.OwnClose event ∧
        (connection.closingAfter handler event).active = false ∧
        (connection.closingAfter handler event).disconnections =
          connection.disconnections + 1 := by
  cases event with
  | event event =>
    by_cases hends : connection.active = true ∧ connection.ends event = true ∧
        ¬ connection.EndsSilently event
    · obtain ⟨hactive, hends, haloud⟩ := hends
      have hother : ¬ connection.OwnClose (.event event) := by
        rintro ⟨_, hown⟩
        cases event with
        | close reason description => exact haloud trivial
        | drop reason description => exact haloud trivial
        | _ => cases hown
      exact .inr ⟨hactive, hother, by simp [closingAfter, after_active, hends],
        disconnections_of_ends handler hactive hends haloud⟩
    · exact .inl (disconnections_of_not hends)
  | connectionClosed reason description reasonToSendBack =>
    rw [closingAfter, answered]
    cases hactive : connection.active with
    | true =>
      right
      have hother : ¬ connection.OwnClose (.connectionClosed reason description
          reasonToSendBack) := by
        rintro ⟨_, hown⟩
        cases hown
      refine ⟨rfl, hother, by simp [enqueue, emit], ?_⟩
      rw [if_pos rfl, disconnections_told, disconnections_closed]
    | false =>
      left
      simp [disconnections, askedToClose_log]

/-- The calls after which the handler must have been asked. A processor that has been released
cannot be called. -/
def ClosesHard (connection : WebSocketConnection) : ClosingEvent → Prop
  | .event (.drop _ _) | .connectionClosed _ _ _ => True
  | .event .processorClose | .event .socketClosed => connection.processorAlive = true
  | _ => False

theorem closed_asks {reason : Option WebSocketCloseReasonCode} {description : Option String}
    (halive : connection.processorAlive = true) (hattached : connection.handlerAttached = true) :
    .prepareToClose ∈ (connection.closed handler reason description true).log := by
  rw [closed_log, closedOutputs, closeRequest, if_pos rfl, if_pos ⟨halive, hattached⟩]
  simp

theorem askedToClose_asks (halive : connection.processorAlive = true)
    (hattached : connection.handlerAttached = true) :
    .prepareToClose ∈ (connection.askedToClose handler).log := by
  rw [askedToClose_log, closeRequest, if_pos ⟨halive, hattached⟩]
  simp

theorem notified_asks {reason : WebSocketCloseReasonCode} {description : Option String}
    (halive : connection.processorAlive = true) (hattached : connection.handlerAttached = true) :
    .prepareToClose ∈ (connection.notified handler reason description).log := by
  rw [notified]
  split
  · exact List.mem_append_left _ (closed_asks handler halive hattached)
  · exact askedToClose_asks handler halive hattached

/-- A hard close leaves an inactive connection, and a handler that can be reached has been asked
to prepare to close. -/
theorem closesHard_spec {event : ClosingEvent} (hhard : connection.ClosesHard event) :
    (connection.closingAfter handler event).active = false ∧
      (connection.processorAlive = true → connection.handlerAttached = true →
        .prepareToClose ∈ (connection.closingAfter handler event).log) := by
  cases event with
  | connectionClosed reason description reasonToSendBack =>
    rw [closingAfter, answered]
    cases hactive : connection.active with
    | true =>
      exact ⟨by simp [enqueue, emit], fun halive hattached =>
        List.mem_append_left _ (closed_asks handler halive hattached)⟩
    | false => exact ⟨by simpa using hactive, askedToClose_asks handler⟩
  | event event =>
    cases event with
    | drop reason description => exact ⟨by simp [closingAfter, after], closed_asks handler⟩
    | processorClose =>
      have hcallable : connection.processorAlive = true := hhard
      refine ⟨by simp [closingAfter, after_active, ends, hcallable], fun halive hattached => ?_⟩
      rw [closingAfter, after]
      split
      · rw [askedToClose_log]
        exact List.mem_append_left _ (notified_asks handler halive hattached)
      · exact askedToClose_asks handler halive hattached
    | socketClosed =>
      have hcallable : connection.processorAlive = true := hhard
      refine ⟨by simp [closingAfter, after_active, ends, hcallable], fun halive hattached => ?_⟩
      rw [closingAfter, after, if_pos halive]
      exact notified_asks handler halive hattached
    | _ => exact hhard.elim

end Step

/-- What closing keeps to, at an event of a run. -/
structure ClosesOnce (handler : SocketHandler) (start : WebSocketConnection)
    (before : List ClosingEvent) (connection : WebSocketConnection) (event : ClosingEvent) :
    Prop where
  /-- The call returns. -/
  returns : event.onlySends = false → ∃ next, closingStep handler connection event = .ok next
  /-- What is closed stays closed. -/
  stays : connection.active = false →
    ∀ next, closingStep handler connection event = .ok next → next.active = false
  /-- The service is told at most once. -/
  once : ∀ next, closingStep handler connection event = .ok next → next.disconnections ≤ 1
  /-- After the service's own close it is not told at all. -/
  silent : FallibleRun.SomeStep (closingStep handler) start (before ++ [event]) OwnClose →
    ∀ next, closingStep handler connection event = .ok next → next.disconnections = 0
  /-- After a hard close the connection is inactive, and the handler has been asked to prepare
  to close. -/
  asked : connection.ClosesHard event →
    ∀ next, closingStep handler connection event = .ok next → next.active = false ∧
      (connection.processorAlive = true → connection.handlerAttached = true →
        .prepareToClose ∈ next.log)

/-- What holds all along a run: an active connection has told nobody, and the service's own
close has made the connection inactive before anybody was told. -/
structure ClosingInvariant (handler : SocketHandler) (start : WebSocketConnection)
    (before : List ClosingEvent) (connection : WebSocketConnection) : Prop where
  untold : connection.active = true → connection.disconnections = 0
  once : connection.disconnections ≤ 1
  own : FallibleRun.SomeStep (closingStep handler) start before OwnClose →
    connection.active = false ∧ connection.disconnections = 0

/-- Every event keeps the invariant. -/
theorem ClosingInvariant.step {handler : SocketHandler} {start connection next : WebSocketConnection}
    {before : List ClosingEvent} {event : ClosingEvent}
    (hinv : ClosingInvariant handler start before connection)
    (hrun : FallibleRun.run (closingStep handler) start before = .ok connection)
    (hreturns : closingStep handler connection event = .ok next) :
    ClosingInvariant handler start (before ++ [event]) next := by
  obtain rfl := eq_closingAfter_of_step hreturns
  rcases disconnections_closingAfter handler connection event with
    hsame | ⟨hactive, hother, hends, htold⟩
  · constructor
    · intro hstill
      rw [hsame]
      apply hinv.untold
      by_contra hinactive
      rw [Bool.not_eq_true] at hinactive
      rw [closingAfter_inactive handler hinactive event] at hstill
      cases hstill
    · rw [hsame]
      exact hinv.once
    · rw [FallibleRun.someStep_concat hrun, hsame]
      rintro (hearlier | hnow)
      · exact ⟨closingAfter_inactive handler (hinv.own hearlier).1 event, (hinv.own hearlier).2⟩
      · exact ⟨inactive_of_ownClose handler hnow, hinv.untold hnow.1⟩
  · have huntold := hinv.untold hactive
    constructor
    · intro hstill
      rw [hends] at hstill
      cases hstill
    · omega
    · rw [FallibleRun.someStep_concat hrun]
      rintro (hearlier | hnow)
      · have hinactive := (hinv.own hearlier).1
        rw [hactive] at hinactive
        cases hinactive
      · exact absurd hnow hother

/-- It holds all along. -/
theorem closingInvariant_of_run {handler : SocketHandler} {start connection : WebSocketConnection}
    {before : List ClosingEvent} (huntold : start.disconnections = 0)
    (hrun : FallibleRun.run (closingStep handler) start before = .ok connection) :
    ClosingInvariant handler start before connection := by
  induction before using List.reverseRecOn generalizing connection with
  | nil =>
    cases hrun
    constructor
    · exact fun _ => huntold
    · omega
    · intro hown
      exact absurd (FallibleRun.noStep_nil start OwnClose) (FallibleRun.not_noStep.mpr hown)
  | append_singleton before event ih =>
    obtain ⟨middle, hmiddle, hlast⟩ := FallibleRun.run_concat_ok.mp hrun
    exact (ih hmiddle).step hmiddle hlast

/-- In a run in any order every call returns, the connection stays closed, the service is told at
most once and never after its own close, and a hard close asks the handler: exactly when no close
frame is to be written with a description that is too long. -/
theorem closesOnce_iff (handler : SocketHandler) (service : Option WebSocketService) (start : ℚ)
    (events : List ClosingEvent) :
    (∀ before event after connection, events = before ++ event :: after →
        FallibleRun.run (closingStep handler) (opened service start) before = .ok connection →
        ClosesOnce handler (opened service start) before connection event) ↔
      FallibleRun.NoStep (closingStep handler) (opened service start) events Overflows := by
  constructor
  · intro honce before event after connection hsplit hbefore hlong
    have hcloses : event.onlySends = false := by
      obtain ⟨_, hlong⟩ := hlong
      cases event with
      | connectionClosed reason description reasonToSendBack => rfl
      | event event =>
        cases event with
        | close reason description => rfl
        | drop reason description => rfl
        | _ => exact hlong.elim
    obtain ⟨next, hnext⟩ := (honce before event after connection hsplit hbefore).returns hcloses
    rw [closingStep_overflow hlong] at hnext
    cases hnext
  · intro hfits before event after connection hsplit hbefore
    have hinv : ClosingInvariant handler (opened service start) before connection := by
      apply closingInvariant_of_run _ hbefore
      cases service <;> rfl
    constructor
    · intro hcloses
      exact ⟨_, closingStep_returns connection hcloses
        (hfits before event after connection hsplit hbefore)⟩
    · intro hinactive next hreturns
      rw [eq_closingAfter_of_step hreturns]
      exact closingAfter_inactive handler hinactive event
    · intro next hreturns
      exact (hinv.step hbefore hreturns).once
    · intro hown next hreturns
      exact ((hinv.step hbefore hreturns).own hown).2
    · intro hhard next hreturns
      rw [eq_closingAfter_of_step hreturns]
      exact closesHard_spec handler hhard

/-- The service closes with a description of 4 GiB: the call does not return. -/
theorem not_closesOnce_long_description :
    ¬ ∀ before event after connection,
        [ClosingEvent.event (.close none (some (String.ofList (List.replicate (2 ^ 32) 'a'))))] =
          before ++ event :: after →
        FallibleRun.run (closingStep ⟨fun _ => false⟩) (opened (some ⟨none⟩) 0) before =
          .ok connection →
        ClosesOnce ⟨fun _ => false⟩ (opened (some ⟨none⟩) 0) before connection event := by
  intro honce
  obtain ⟨next, hnext⟩ := (honce [] _ [] _ rfl rfl).returns rfl
  have hlong : (opened (some ⟨none⟩) 0).Overflows
      (.event (.close none (some (String.ofList (List.replicate (2 ^ 32) 'a'))))) := by
    refine ⟨rfl, _, rfl, ?_⟩
    rw [length_utf8Bytes_replicate]
    omega
  rw [closingStep_overflow hlong] at hnext
  cases hnext

end WebSocketConnection

end KituraWebSocket
