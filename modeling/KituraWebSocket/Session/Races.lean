/-
# Racing calls

The methods of a connection may be called from any thread: from those of the service, by the
timer, by the thread that reads the socket. Each looks at `active` once, and only a single
`sendMessage` is under a lock. So a call is not one step but the steps below, and those of
other calls may fall anywhere between them. A call that nobody interrupts is what it is in one
step (`run_whole`). Otherwise the service may be told of the end of one connection several times
(`told_of_race`, `told_by_each`), and messages may follow the close frame, but only those of
calls that are underway by then (`quiet_of_race`).
-/

import KituraWebSocket.Connection.Closing
import KituraWebSocket.Session.Outgoing
import KituraWebSocket.Support.CheckThenAct
import Mathlib.Algebra.BigOperators.Group.Finset.Piecewise
import Mathlib.Algebra.Order.BigOperators.Group.Finset
import Mathlib.Algebra.Order.BigOperators.Group.List
import Mathlib.Data.Fintype.Card

namespace KituraWebSocket

open CheckThenAct WebSocketConnection

/-- A step of a call. -/
inductive Action
  | /-- `sendMessage`. -/
    send (opCode : FrameOpcode) (known : opCode ≠ .unknown) (payload : Option (List UInt8))
  | /-- `active = false`. -/
    shut
  | /-- `processor?.close()`. -/
    ask
  | /-- The block that calls `disconnected` is enqueued. -/
    tell (reason : WebSocketCloseReasonCode)
  deriving DecidableEq, Repr

def Action.perform (handler : SocketHandler) (connection : WebSocketConnection) :
    Action → Except Fault WebSocketConnection
  | .send opCode _ payload => connection.sendMessage opCode payload
  | .shut => .ok { connection with active := false }
  | .ask =>
    if connection.processorAlive then processorClose handler callDepth connection
    else .ok connection
  | .tell reason => .ok (connection.enqueue (.disconnected reason))

/-- A call of a method that looks at `active` at most once. -/
inductive Call
  | sendData (message : List UInt8) (asBinary : Bool)
  | sendString (message : String)
  | ping (withMessage : Option String)
  | close (reason : Option WebSocketCloseReasonCode) (description : Option String)
  | drop (reason : Option WebSocketCloseReasonCode) (description : Option String)
  | connectionClosed (reason : WebSocketCloseReasonCode) (description : Option String)
    (reasonToSendBack : Option WebSocketCloseReasonCode)
  deriving DecidableEq, Repr

namespace Call

/-- The close frame of `closeConnection(reason:description:hard:)`, and `active = false`. -/
def closing (reason : Option WebSocketCloseReasonCode) (description : Option String) :
    List Action :=
  [.send .close (by decide) (some (closePayload reason description)), .shut]

/-- The steps of a call, depending on what it finds. `close` and `drop` do not look. -/
def program : Call → Program Action
  | .sendData message true => ⟨[.send .binary (by decide) (some message)], []⟩
  | .sendData message false => ⟨[.send .text (by decide) (some message)], []⟩
  | .sendString message => ⟨[.send .text (by decide) (some (utf8Bytes message))], []⟩
  | .ping withMessage => ⟨[.send .ping (by decide) (withMessage.map utf8Bytes)], []⟩
  | .close reason description => ⟨closing reason description, closing reason description⟩
  | .drop reason description =>
    ⟨closing reason description ++ [.ask], closing reason description ++ [.ask]⟩
  | .connectionClosed reason description reasonToSendBack =>
    ⟨closing (some (reasonToSendBack.getD reason)) description ++ [.ask, .tell reason], [.ask]⟩

/-- The call in one step. -/
def whole (handler : SocketHandler) (connection : WebSocketConnection) :
    Call → Except Fault WebSocketConnection
  | .sendData message asBinary => connection.sendData message asBinary
  | .sendString message => connection.sendString message
  | .ping withMessage => connection.ping withMessage
  | .close reason description => WebSocketConnection.close handler connection reason description
  | .drop reason description => WebSocketConnection.drop handler connection reason description
  | .connectionClosed reason description reasonToSendBack =>
    WebSocketConnection.connectionClosed handler callDepth connection reason description
      reasonToSendBack

/-- The call tells the service if it finds the connection active. -/
def tells : Call → Bool
  | .connectionClosed _ _ _ => true
  | _ => false

/-- The reason that it tells the service then. -/
def told : Call → Multiset WebSocketCloseReasonCode
  | .connectionClosed reason _ _ => {reason}
  | _ => 0

/-- The message that the call sends if it finds the connection active. -/
def messages : Call → Multiset WSFrame
  | .sendData message asBinary => {⟨true, if asBinary then .binary else .text, message⟩}
  | .sendString message => {⟨true, .text, utf8Bytes message⟩}
  | _ => 0

theorem card_told (call : Call) : call.told.card = if call.tells then 1 else 0 := by
  cases call <;> rfl

section Alone

variable {handler : SocketHandler} {connection : WebSocketConnection}

/-- The processor of a connection that is not active only asks the handler. -/
theorem perform_ask (hactive : connection.active = false) :
    Action.ask.perform handler connection = .ok (connection.askedToClose handler) := by
  rw [Action.perform]
  cases halive : connection.processorAlive with
  | false => simp [askedToClose, halive]
  | true => exact processorClose_inactive handler 5 hactive halive

theorem run_closing (reason : Option WebSocketCloseReasonCode) (description : Option String)
    (depth : ℕ) :
    FallibleRun.run (Action.perform handler) connection (closing reason description) =
      closeConnection handler (depth + 4) connection reason description false := by
  rw [closing, FallibleRun.run_cons]
  cases hsent : connection.sendMessage .close (some (closePayload reason description)) with
  | error fault =>
    rw [Action.perform, hsent, closeConnection, hsent]
    rfl
  | ok middle =>
    obtain rfl := eq_sent_of_sendMessage (by decide) hsent
    rw [closeConnection_of_sent depth false hsent, Action.perform, hsent]
    rfl

theorem run_closing_ask (reason : Option WebSocketCloseReasonCode) (description : Option String)
    (depth : ℕ) :
    FallibleRun.run (Action.perform handler) connection (closing reason description ++ [.ask]) =
      closeConnection handler (depth + 4) connection reason description true := by
  rw [FallibleRun.run_append, run_closing reason description depth]
  cases hsent : connection.sendMessage .close (some (closePayload reason description)) with
  | error fault => simp [closeConnection, hsent, Except.bind]
  | ok middle =>
    obtain rfl := eq_sent_of_sendMessage (by decide) hsent
    rw [closeConnection_of_sent depth false hsent, closeConnection_of_sent depth true hsent]
    exact (FallibleRun.run_singleton _ _).trans (perform_ask rfl)

/-- The steps of a call with nobody in between are the call. -/
theorem run_program (call : Call) :
    FallibleRun.run (Action.perform handler) connection
        (call.program.after connection.active) = call.whole handler connection := by
  cases call with
  | sendData message asBinary =>
    rw [whole, sendData_eq]
    cases asBinary <;> cases connection.active <;>
      first | exact FallibleRun.run_singleton _ _ | rfl
  | sendString message =>
    rw [whole, sendString_eq]
    cases connection.active <;> first | exact FallibleRun.run_singleton _ _ | rfl
  | ping withMessage =>
    rw [whole, ping_eq]
    cases connection.active <;> first | exact FallibleRun.run_singleton _ _ | rfl
  | close reason description =>
    rw [program, Program.after, ite_self]
    exact run_closing reason description 4
  | drop reason description =>
    rw [program, Program.after, ite_self]
    exact run_closing_ask reason description 4
  | connectionClosed reason description reasonToSendBack =>
    rw [whole, callDepth, WebSocketConnection.connectionClosed]
    cases hactive : connection.active with
    | true =>
      have hsteps : (Call.connectionClosed reason description reasonToSendBack).program.after true =
          (closing (some (reasonToSendBack.getD reason)) description ++ [.ask]) ++
            [.tell reason] := by
        rw [List.append_assoc]
        rfl
      rw [hsteps, FallibleRun.run_append, run_closing_ask _ _ 3]
      rfl
    | false =>
      have hsteps : (Call.connectionClosed reason description reasonToSendBack).program.after
          false = [.ask] := rfl
      rw [hsteps, FallibleRun.run_singleton, perform_ask hactive]
      cases halive : connection.processorAlive with
      | false => simp [askedToClose, halive]
      | true => simp [processorClose_inactive handler 4 hactive halive]

end Alone

end Call

/-- The race of some calls on a connection. -/
def race {ι : Type} (handler : SocketHandler) (calls : ι → Call) :
    Race ι WebSocketConnection Action Fault where
  flag := WebSocketConnection.active
  perform := Action.perform handler
  program call := (calls call).program

/-- The reason that the service is told by a callback. -/
def Callback.reason : Callback → Option WebSocketCloseReasonCode
  | .disconnected reason => some reason
  | .connected | .receivedData _ | .receivedString _ => none

/-- The reasons that the service has been told. -/
def reasonsTold (connection : WebSocketConnection) : Multiset WebSocketCloseReasonCode :=
  (callbacks connection.log).filterMap Callback.reason

theorem card_reasonsTold (connection : WebSocketConnection) :
    (reasonsTold connection).card = connection.disconnections := by
  rw [reasonsTold, Multiset.coe_card, List.length_filterMap_eq_countP, disconnections]
  congr 1
  funext callback
  cases callback <;> rfl

section Steps

variable {handler : SocketHandler} {connection next : WebSocketConnection} {action : Action}

/-- Nothing makes a connection active again. -/
theorem perform_inactive (hperform : action.perform handler connection = .ok next)
    (hactive : connection.active = false) : next.active = false := by
  cases action with
  | send opCode known payload =>
    rw [eq_sent_of_sendMessage known hperform]
    simpa using hactive
  | shut =>
    cases hperform
    rfl
  | ask =>
    rw [Call.perform_ask hactive] at hperform
    cases hperform
    simpa using hactive
  | tell reason =>
    cases hperform
    exact hactive

/-- What an action adds to the reasons that the service is told. -/
def Action.tellings : Action → Multiset WebSocketCloseReasonCode
  | .tell reason => {reason}
  | .send _ _ _ | .shut | .ask => 0

/-- As long as the processor is asked by an inactive connection only. -/
theorem reasonsTold_perform (hperform : action.perform handler connection = .ok next)
    (hasks : action = .ask → connection.active = false) :
    reasonsTold next = reasonsTold connection + action.tellings := by
  cases action with
  | send opCode known payload =>
    rw [eq_sent_of_sendMessage known hperform, reasonsTold, sent_log, callbacks_append,
      callbacks_framed, List.append_nil]
    exact (add_zero _).symm
  | shut =>
    cases hperform
    exact (add_zero _).symm
  | ask =>
    rw [Call.perform_ask (hasks rfl)] at hperform
    cases hperform
    rw [reasonsTold, askedToClose_log, callbacks_append, callbacks_closeRequest, List.append_nil]
    exact (add_zero _).symm
  | tell reason =>
    cases hperform
    rw [reasonsTold, enqueue, emit, callbacks_append, List.filterMap_append, ← Multiset.coe_add]
    rfl

/-- The messages that have been handed over. -/
def messagesHanded (connection : WebSocketConnection) : Multiset WSFrame :=
  messageFrames connection.log

/-- The messages that an action hands over, if the connection still has its handler. -/
def Action.messages : Action → Multiset WSFrame
  | .send .text _ payload => {⟨true, .text, payload.getD []⟩}
  | .send .binary _ payload => {⟨true, .binary, payload.getD []⟩}
  | .send _ _ _ | .shut | .ask | .tell _ => 0

theorem messages_perform (hperform : action.perform handler connection = .ok next) :
    ∃ outputs, next.log = connection.log ++ outputs ∧
      (messageFrames outputs : Multiset WSFrame) ≤ action.messages := by
  cases action with
  | send opCode known payload =>
    refine ⟨connection.framed opCode payload, ?_, ?_⟩
    · rw [eq_sent_of_sendMessage known hperform, sent_log]
    · rw [framed]
      split
      · cases opCode <;> exact le_rfl
      · exact Multiset.zero_le _
  | shut =>
    cases hperform
    exact ⟨[], (List.append_nil _).symm, Multiset.zero_le _⟩
  | ask =>
    have hstep : step handler connection .processorClose = .ok next := hperform
    refine ⟨_, log_of_step hstep, le_of_eq ?_⟩
    obtain ⟨hrunning, hother⟩ := messageFrames_outputs handler connection .processorClose
    have hnone := (em connection.Running).elim hrunning hother
    rw [hnone]
    rfl
  | tell reason =>
    cases hperform
    exact ⟨_, rfl, Multiset.zero_le _⟩

end Steps

/-- Before the processor is asked, the connection is made inactive. -/
def ShutFirst : List Action → Prop
  | [] | .shut :: _ => True
  | .ask :: _ => False
  | .send _ _ _ :: ahead | .tell _ :: ahead => ShutFirst ahead

theorem Call.shutFirst_up (call : Call) : ShutFirst call.program.up := by
  cases call with
  | sendData message asBinary => cases asBinary <;> trivial
  | _ => trivial

section Run

variable {ι : Type} [DecidableEq ι] {handler : SocketHandler} {calls : ι → Call}

/-- While the connection is active, every call that has looked is to make it inactive before it
asks. -/
def Guarded (state : State ι WebSocketConnection Action) : Prop :=
  state.shared.active = true → ∀ call found ahead, state.stage call = .acting found ahead →
    ShutFirst ahead

theorem Guarded.step {state next : State ι WebSocketConnection Action} {turn : ι}
    (hguarded : Guarded state)
    (hstep : CheckThenAct.step (race handler calls) state turn = .ok next) : Guarded next := by
  intro hactive call found ahead hstage
  rcases step_cases hstep with ⟨_, rfl⟩ | ⟨found', action, ahead', shared, hturn, hperform, rfl⟩ |
    ⟨_, rfl⟩
  · by_cases hsame : call = turn
    · subst hsame
      have hup : state.shared.active = true := hactive
      simp only [Function.update_self, race, hup, Stage.acting.injEq] at hstage
      obtain ⟨_, rfl⟩ := hstage
      exact (calls call).shutFirst_up
    · exact hguarded hactive call found ahead (by simpa [hsame] using hstage)
  · have hbefore : state.shared.active = true := by
      by_contra hinactive
      rw [perform_inactive hperform (by simpa using hinactive)] at hactive
      cases hactive
    by_cases hsame : call = turn
    · subst hsame
      obtain ⟨rfl, rfl⟩ : found' = found ∧ ahead' = ahead := by simpa using hstage
      have hfirst := hguarded hbefore call found' (action :: ahead') hturn
      cases action with
      | send opCode known payload => exact hfirst
      | tell reason => exact hfirst
      | ask => exact hfirst.elim
      | shut =>
        cases hperform
        cases hactive
    · exact hguarded hbefore call found ahead (by simpa [hsame] using hstage)
  · exact hguarded hactive call found ahead hstage

/-- The race of some calls on a connection, in the order of some turns. -/
def runRace (handler : SocketHandler) (calls : ι → Call) (connection : WebSocketConnection)
    (turns : List ι) : Except Fault (State ι WebSocketConnection Action) :=
  FallibleRun.run (CheckThenAct.step (race handler calls)) (start connection) turns

/-- The turns of a call in a row are the call in one step. -/
theorem run_whole (state : State ι WebSocketConnection Action) (turn : ι)
    (hwaiting : state.stage turn = .waiting) :
    ∃ count, FallibleRun.run (CheckThenAct.step (race handler calls)) state
        (List.replicate count turn) =
      ((calls turn).whole handler state.shared).map fun shared =>
        { stage := Function.update state.stage turn (.acting state.shared.active []),
          shared := shared } := by
  rw [← Call.run_program]
  exact ⟨_, run_alone (race handler calls) state turn hwaiting⟩

/-- What has been handed over stays. -/
theorem log_of_race {middle last : State ι WebSocketConnection Action} {after : List ι}
    (hafter : FallibleRun.run (CheckThenAct.step (race handler calls)) middle after = .ok last) :
    middle.shared.log <+: last.shared.log := by
  refine FallibleRun.run_invariant (fun state => middle.shared.log <+: state.shared.log) ?_
    (List.prefix_refl _) hafter
  intro state turn next hprefix hstep
  rcases step_cases hstep with ⟨_, rfl⟩ | ⟨_, action, _, shared, _, hperform, rfl⟩ | ⟨_, rfl⟩
  · exact hprefix
  · obtain ⟨outputs, hlog, _⟩ := messages_perform hperform
    exact hprefix.trans ⟨outputs, hlog.symm⟩
  · exact hprefix

/-- A call that goes through its steps tells the service, if it has found the connection active. -/
theorem sum_tellings (call : Call) (found : Bool) :
    ((call.program.after found).map Action.tellings).sum =
      if found = true then call.told else 0 := by
  cases call with
  | sendData message asBinary => cases asBinary <;> cases found <;> rfl
  | _ => cases found <;> rfl

variable [Fintype ι]

open Finset

/-- When all calls are done, the service has been told by those that have found the connection
active. -/
theorem reasonsTold_of_done {connection : WebSocketConnection} {turns : List ι}
    {last : State ι WebSocketConnection Action}
    (hrun : runRace handler calls connection turns = .ok last) (hdone : ∀ call, Done last call) :
    reasonsTold last.shared =
      reasonsTold connection + ∑ call with Found last call, (calls call).told := by
  have hbalanced : InBalance (race handler calls) Action.tellings reasonsTold connection last := by
    refine balance_run (fun _ _ _ hguarded hstep => Guarded.step hguarded hstep) ?_
      (fun _ _ _ _ hstage => by cases hstage) hrun
    intro state turn found action ahead shared hguarded hstage hperform
    refine reasonsTold_perform hperform fun hask => ?_
    subst hask
    by_contra hactive
    exact hguarded (by simpa using hactive) turn found _ hstage
  have howed : ∑ call, owed Action.tellings (last.stage call) = 0 := by
    refine sum_eq_zero fun call _ => ?_
    obtain ⟨found, hstage⟩ := hdone call
    rw [hstage]
    rfl
  have htaken : ∑ call, taken Action.tellings ((race handler calls).program call)
      (last.stage call) = ∑ call with Found last call, (calls call).told := by
    rw [sum_filter]
    refine sum_congr rfl fun call _ => ?_
    obtain ⟨found, hstage⟩ := hdone call
    have hfound : Found last call ↔ found = true := by simp [Found, hstage]
    rw [hstage]
    simp only [hfound]
    exact sum_tellings (calls call) found
  rw [InBalance, howed, htaken, add_zero] at hbalanced
  exact hbalanced

theorem disconnections_of_done {connection : WebSocketConnection} {turns : List ι}
    {last : State ι WebSocketConnection Action}
    (hrun : runRace handler calls connection turns = .ok last) (hdone : ∀ call, Done last call) :
    last.shared.disconnections = connection.disconnections +
      #{call | (calls call).tells ∧ Found last call} := by
  have hcard : #{call | (calls call).tells ∧ Found last call} =
      (∑ call with Found last call, (calls call).told).card := by
    simp only [Multiset.card_sum, Call.card_told, ← card_filter, filter_filter, and_comm]
  rw [hcard, ← card_reasonsTold, reasonsTold_of_done hrun hdone, Multiset.card_add,
    card_reasonsTold]

/-- However the steps of some calls follow each other, once all of them are done each call of
`connectionClosed` that has found the connection active has told the service its reason, and
nobody else has told it any. That is at most one, exactly if no such call has found the connection
active after another one. -/
theorem told_of_race (handler : SocketHandler) (calls : ι → Call)
    (connection : WebSocketConnection) (turns : List ι)
    (last : State ι WebSocketConnection Action)
    (hrun : runRace handler calls connection turns = .ok last) (hdone : ∀ call, Done last call) :
    reasonsTold last.shared =
        reasonsTold connection + ∑ call with Found last call, (calls call).told ∧
      last.shared.disconnections = connection.disconnections +
        #{call | (calls call).tells ∧ Found last call} ∧
      (last.shared.disconnections ≤ connection.disconnections + 1 ↔
        FallibleRun.NoStep (CheckThenAct.step (race handler calls)) (start connection) turns
          (Overtakes (race handler calls) {call | (calls call).tells = true})) := by
  have htold := disconnections_of_done hrun hdone
  refine ⟨reasonsTold_of_done hrun hdone, htold, ?_⟩
  rw [← alone_iff _ hrun, htold, Nat.add_le_add_iff_left, card_le_one_iff_subsingleton, Alone,
    coe_filter]
  simp

/-- The timer and the end of the socket. -/
def twoClosers (timer : Bool) : Call :=
  .connectionClosed (if timer then .closedAbnormally else .noReasonCodeSent) none none

/-- Both look before one of them closes. -/
theorem told_of_race_two :
    ∃ last, runRace ⟨fun _ => false⟩ twoClosers (opened (some ⟨some 1⟩) 0)
        [true, false, true, true, true, true, false, false, false, false] = .ok last ∧
      reasonsTold last.shared = reasonsTold (opened (some ⟨some 1⟩) 0) +
          ∑ call with Found last call, (twoClosers call).told ∧
        last.shared.disconnections = (opened (some ⟨some 1⟩) 0).disconnections +
          #{call | (twoClosers call).tells ∧ Found last call} ∧
        (last.shared.disconnections ≤ (opened (some ⟨some 1⟩) 0).disconnections + 1 ↔
          FallibleRun.NoStep (CheckThenAct.step (race ⟨fun _ => false⟩ twoClosers))
            (start (opened (some ⟨some 1⟩) 0))
            [true, false, true, true, true, true, false, false, false, false]
            (Overtakes (race ⟨fun _ => false⟩ twoClosers)
              {call | (twoClosers call).tells = true})) := by
  have hstages : (runRace ⟨fun _ => false⟩ twoClosers (opened (some ⟨some 1⟩) 0)
      [true, false, true, true, true, true, false, false, false, false]).map
        (fun last => (last.stage true, last.stage false)) =
      .ok (.acting true [], .acting true []) := by decide +kernel
  obtain ⟨last, hrun, hlast⟩ := map_eq_ok.mp hstages
  obtain ⟨htimer, hsocket⟩ := Prod.mk.inj hlast
  have hdone : ∀ call, Done last call
    | true => ⟨true, htimer⟩
    | false => ⟨true, hsocket⟩
  exact ⟨last, hrun, told_of_race ⟨fun _ => false⟩ twoClosers (opened (some ⟨some 1⟩) 0) _ last
    hrun hdone⟩

/-- Any number of calls of `connectionClosed` on an active connection can follow each other so that
the service is told by all of them. -/
theorem told_by_each (handler : SocketHandler) (calls : ι → Call)
    (hcalls : ∀ call, ∃ reason description reasonToSendBack,
      calls call = .connectionClosed reason description reasonToSendBack ∧ ¬ TooLong description)
    (connection : WebSocketConnection) (hactive : connection.active = true) :
    ∃ turns last, runRace handler calls connection turns = .ok last ∧
      (∀ call, Done last call) ∧
      last.shared.disconnections = connection.disconnections + Fintype.card ι := by
  have htotal (call : ι) (connection : WebSocketConnection) : ∃ next,
      FallibleRun.run (race handler calls).perform connection ((race handler calls).program call).up
        = .ok next := by
    obtain ⟨reason, description, reasonToSendBack, hcall, hfits⟩ := hcalls call
    have hsteps : (calls call).program.up =
        (Call.closing (some (reasonToSendBack.getD reason)) description ++ [.ask]) ++
          [.tell reason] := by
      rw [hcall, List.append_assoc]
      rfl
    simp only [race, hsteps]
    rw [FallibleRun.run_append, Call.run_closing_ask _ _ 0,
      closeConnection_returns true (fun hlong => hfits hlong.2) 0]
    exact ⟨_, rfl⟩
  have hup : (race handler calls).flag connection = true := hactive
  obtain ⟨turns, last, hrun, hlast⟩ := exists_everybody_finds connection hup htotal
  have hdone (call : ι) : Done last call := ⟨true, hlast call⟩
  refine ⟨turns, last, hrun, hdone, ?_⟩
  rw [disconnections_of_done hrun hdone, ← card_univ]
  congr 2
  refine filter_true_of_mem fun call _ => ⟨?_, [], hlast call⟩
  obtain ⟨reason, description, reasonToSendBack, hcall, _⟩ := hcalls call
  rw [hcall]
  rfl

/-- Both calls tell the service. -/
theorem told_by_each_two :
    ∃ turns last, runRace ⟨fun _ => false⟩ twoClosers (opened (some ⟨some 1⟩) 0) turns =
        .ok last ∧
      (∀ call, Done last call) ∧
      last.shared.disconnections =
        (opened (some ⟨some 1⟩) 0).disconnections + Fintype.card Bool := by
  refine told_by_each ⟨fun _ => false⟩ twoClosers (fun call => ⟨_, _, _, rfl, ?_⟩)
    (opened (some ⟨some 1⟩) 0) rfl
  rintro ⟨text, hnone, _⟩
  cases hnone

theorem sum_messages (call : Call) (found : Bool) :
    ((call.program.after found).map Action.messages).sum =
      if found = true then call.messages else 0 := by
  cases call with
  | sendData message asBinary => cases asBinary <;> cases found <;> rfl
  | _ => cases found <;> rfl

omit [DecidableEq ι] [Fintype ι] in
/-- A message ahead is that of a call which has found the connection active. -/
theorem owed_messages {state : State ι WebSocketConnection Action}
    (hunderway : Underway (race handler calls) state) (call : ι) :
    owed Action.messages (state.stage call) ≤
      if Found state call ∧ ¬ Done state call then (calls call).messages else 0 := by
  cases hstage : state.stage call with
  | waiting => exact Multiset.zero_le _
  | acting found ahead =>
    cases ahead with
    | nil => exact Multiset.zero_le _
    | cons action ahead =>
      have hsublist := (hunderway call found _ hstage).sublist.map Action.messages
      have hfound : Found state call ↔ found = true := by simp [Found, hstage]
      have hnotDone : ¬ Done state call := by simp [Done, hstage]
      simp only [hfound, hnotDone, not_false_eq_true, and_true]
      rw [owed_acting, ← sum_messages (calls call) found]
      exact hsublist.sum_le_sum fun _ _ => Multiset.zero_le _

/-- Once a connection is not active any more, nothing but the messages of those calls is handed
over that have found it active before and have not sent yet, each at most once. -/
theorem quiet_of_race (handler : SocketHandler) (calls : ι → Call)
    (connection : WebSocketConnection) (before after : List ι)
    (middle last : State ι WebSocketConnection Action)
    (hbefore : runRace handler calls connection before = .ok middle)
    (hinactive : middle.shared.active = false)
    (hafter : FallibleRun.run (CheckThenAct.step (race handler calls)) middle after = .ok last) :
    ∃ added, messageFrames last.shared.log = messageFrames middle.shared.log ++ added ∧
      (added : Multiset WSFrame) ≤
        ∑ call with Found middle call ∧ ¬ Done middle call, (calls call).messages := by
  have hpotential : potential Action.messages messagesHanded last ≤
      potential Action.messages messagesHanded middle := by
    refine potential_run (fun _ _ _ => perform_inactive) ?_ ?_ hinactive hafter
    · intro connection action next hperform
      obtain ⟨outputs, hlog, hfew⟩ := messages_perform hperform
      rw [messagesHanded, messagesHanded, hlog, messageFrames_append, ← Multiset.coe_add]
      exact add_le_add le_rfl hfew
    · intro call
      exact sum_messages (calls call) false
  have howed : ∑ call, owed Action.messages (middle.stage call) ≤
      ∑ call with Found middle call ∧ ¬ Done middle call, (calls call).messages := by
    rw [sum_filter]
    exact sum_le_sum fun call _ => owed_messages (underway_run hbefore) call
  obtain ⟨outputs, hlog⟩ := log_of_race hafter
  have hframes : messageFrames last.shared.log =
      messageFrames middle.shared.log ++ messageFrames outputs := by
    rw [← hlog, messageFrames_append]
  refine ⟨messageFrames outputs, hframes, ?_⟩
  rw [potential, potential, messagesHanded, messagesHanded, hframes, ← Multiset.coe_add,
    add_assoc] at hpotential
  exact ((Multiset.le_add_right _ _).trans (le_of_add_le_add_left hpotential)).trans howed

/-- A message of the service and its `close`. -/
def senderAndCloser (closes : Bool) : Call :=
  if closes then .close none none else .sendData [1] true

/-- The message is sent after the connection has been closed. -/
theorem quiet_of_race_sender :
    ∃ middle last, runRace ⟨fun _ => false⟩ senderAndCloser (opened (some ⟨none⟩) 0)
        [false, true, true, true] = .ok middle ∧
      FallibleRun.run (CheckThenAct.step (race ⟨fun _ => false⟩ senderAndCloser)) middle [false] =
        .ok last ∧
      messageFrames middle.shared.log = [] ∧
      messageFrames last.shared.log = [⟨true, .binary, [1]⟩] ∧
      ∃ added, messageFrames last.shared.log = messageFrames middle.shared.log ++ added ∧
        (added : Multiset WSFrame) ≤
          ∑ call with Found middle call ∧ ¬ Done middle call, (senderAndCloser call).messages := by
  have hfirst : (runRace ⟨fun _ => false⟩ senderAndCloser (opened (some ⟨none⟩) 0)
      [false, true, true, true]).map
        (fun state => (state.shared.active, messageFrames state.shared.log)) =
      .ok (false, []) := by decide +kernel
  have hwhole : (runRace ⟨fun _ => false⟩ senderAndCloser (opened (some ⟨none⟩) 0)
      ([false, true, true, true] ++ [false])).map
        (fun state => messageFrames state.shared.log) = .ok [⟨true, .binary, [1]⟩] := by
    decide +kernel
  obtain ⟨last, hrun, hone⟩ := map_eq_ok.mp hwhole
  obtain ⟨middle, hbefore, hafter⟩ := FallibleRun.run_append_ok.mp hrun
  rw [runRace, hbefore] at hfirst
  obtain ⟨hinactive, hnone⟩ := Prod.mk.inj (Except.ok.inj hfirst)
  exact ⟨middle, last, hbefore, hafter, hnone, hone,
    quiet_of_race ⟨fun _ => false⟩ senderAndCloser (opened (some ⟨none⟩) 0) _ _ middle last
      hbefore hinactive hafter⟩

end Run

end KituraWebSocket
