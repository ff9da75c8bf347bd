/-
# One call of process

A call of `process` makes the calls that the scanner's events stand for, whatever
connection it drives: it parses the same bytes for every connection, because no
call of the connection touches the parser or the index. `loop_outcome` says how the
loop of a call ends, and `exists_process` what the call does and returns.
-/

import KituraWebSocket.Receive.ParserLoop
import KituraWebSocket.WSSocketProcessor

namespace KituraWebSocket

open Scanner WSSocketProcessor

/-- The call that `process` makes for an event. -/
def StreamEvent.call : StreamEvent → ConnectionCall
  | .frame complete => .received complete
  | .error cause => .close (some .protocolError) (some cause.description)

namespace WSSocketProcessor

/-- Make the calls for a list of events, one after the other. -/
def replayAll {σ : Type} (calls : ConnectionCalls σ) (connection : σ)
    (events : List StreamEvent) : Except Fault σ :=
  FallibleRun.run (fun connection event => event.call.replay calls connection) connection events

@[simp]
theorem replayAll_nil {σ : Type} (calls : ConnectionCalls σ) (connection : σ) :
    replayAll calls connection [] = .ok connection := rfl

theorem replayAll_cons {σ : Type} (calls : ConnectionCalls σ) (connection : σ)
    (event : StreamEvent) (events : List StreamEvent) :
    replayAll calls connection (event :: events) =
      event.call.replay calls connection >>= fun next => replayAll calls next events := rfl

/-- The recorder writes the calls down. -/
theorem replayAll_recorder (recorded : List ConnectionCall) (events : List StreamEvent) :
    replayAll recorder recorded events = .ok (recorded ++ events.map StreamEvent.call) := by
  induction events generalizing recorded with
  | nil => simp
  | cons event events ih =>
    have hcall : event.call.replay recorder recorded = .ok (recorded ++ [event.call]) := by
      cases event <;> rfl
    rw [replayAll_cons, hcall, ok_bind, ih]
    simp

/-- Where the loop of `process` leaves off. -/
structure LoopExit where
  events : List StreamEvent
  failed : Bool
  parser : WSFrameParser
  index : ℕ

/-- How the loop can leave, started with a parser at an index of a buffer. -/
inductive LoopOutcome (buffer : List UInt8) (parser : WSFrameParser) (index : ℕ)
    (exit : LoopExit) : Prop
  | /-- After an error. -/
    error
      (failed : exit.failed = true)
      (scanned : scan parser.scanner (buffer.drop index) = (.failed, exit.events))
      (left : exit.parser.Wf ∧ ¬ exit.parser.Stuck ∧ exit.parser.state ≠ .lengthParsed)
      (bounds : index ≤ exit.index ∧ exit.index < buffer.length)
  | /-- Waiting for bytes, at the end of the buffer or before a header that is cut short. -/
    waiting (state : Scanner)
      (failed : exit.failed = false)
      (scanned : scan parser.scanner (buffer.drop index) = (state, exit.events))
      (rest : scan exit.parser.scanner (buffer.drop exit.index) = (state, []))
      (left : exit.parser.Wf)
      (bounds : index ≤ exit.index ∧ exit.index ≤ max index buffer.length)
      (waits : (buffer.drop exit.index = [] ∧ ¬ exit.parser.Stuck) ∨
        (HeaderShort (buffer.drop exit.index) ∧ exit.parser.state = .opCodeParsed ∧
          (exit.parser.Stuck ↔ LengthIsZero (buffer.drop exit.index))))

/-- What was scanned before the loop started belongs to the outcome. -/
theorem LoopOutcome.prepend {buffer : List UInt8} {parser next : WSFrameParser}
    {index consumed : ℕ} {before : List StreamEvent} {exit : LoopExit}
    (hscan : scan parser.scanner ((buffer.drop index).take consumed) = (next.scanner, before))
    (hwithin : consumed ≤ (buffer.drop index).length)
    (houtcome : LoopOutcome buffer next (index + consumed) exit) :
    LoopOutcome buffer parser index { exit with events := before ++ exit.events } := by
  have hrest : (buffer.drop index).drop consumed = buffer.drop (index + consumed) :=
    List.drop_drop
  rw [List.length_drop] at hwithin
  cases houtcome with
  | error failed scanned left bounds =>
    refine .error failed ?_ left ⟨by simp only; omega, bounds.2⟩
    rw [scan_of_take hscan, hrest, scanned]
  | waiting state failed scanned rest left bounds waits =>
    refine .waiting state failed ?_ rest left ⟨by simp only; omega, by simp only; omega⟩ waits
    rw [scan_of_take hscan, hrest, scanned]

/-- The loop, started with a parser at an index of a buffer, leaves at an exit after
making the calls of its events, whatever the connection. -/
def LeavesAt (buffer : List UInt8) (parser : WSFrameParser) (index : ℕ) (exit : LoopExit) : Prop :=
  ∀ (σ : Type) (calls : ConnectionCalls σ) (connection : σ) (budget : ℕ),
    (buffer.drop index).length < budget →
    BoundedLoop.iterate .outOfBudget (processRound calls buffer) budget
        ⟨connection, parser, index⟩ =
      replayAll calls connection exit.events >>= fun connection =>
        .ok (exit.failed, ⟨connection, exit.parser, exit.index⟩)

section Round

variable {buffer : List UInt8} {parser : WSFrameParser} {index : ℕ}

/-- Past the end of the buffer there is nothing to do. -/
theorem leavesAt_end (hend : ¬ index < buffer.length) :
    LeavesAt buffer parser index ⟨[], false, parser, index⟩ := by
  intro σ calls connection budget hbudget
  obtain ⟨budget, rfl⟩ : ∃ more, budget = more + 1 := ⟨budget - 1, by omega⟩
  have hround : processRound calls buffer ⟨connection, parser, index⟩ =
      .ok (.inr (false, ⟨connection, parser, index⟩)) := by
    rw [processRound, if_neg hend, pure_eq_ok]
  rw [BoundedLoop.iterate_done hround]
  rfl

/-- A call of the parser that consumes nothing ends the loop. -/
theorem leavesAt_idle {result : WSFrameParser.ParseResult} (hmore : index < buffer.length)
    (hparse : parser.parse buffer index = .ok result) (herror : result.error = none)
    (hidle : result.bytesConsumed = 0) :
    LeavesAt buffer parser index ⟨[], false, result.parser, index⟩ := by
  intro σ calls connection budget hbudget
  obtain ⟨budget, rfl⟩ : ∃ more, budget = more + 1 := ⟨budget - 1, by omega⟩
  have hround : processRound calls buffer ⟨connection, parser, index⟩ =
      .ok (.inr (false, ⟨connection, result.parser, index⟩)) := by
    simp [processRound, hmore, hparse, herror, hidle]
  rw [BoundedLoop.iterate_done hround]
  rfl

/-- An error closes the connection and ends the loop. -/
theorem leavesAt_error {result : WSFrameParser.ParseResult} {error : WebSocketError}
    (hmore : index < buffer.length) (hparse : parser.parse buffer index = .ok result)
    (herror : result.error = some error) :
    LeavesAt buffer parser index ⟨[.error error], true, result.parser, index⟩ := by
  intro σ calls connection budget hbudget
  obtain ⟨budget, rfl⟩ : ∃ more, budget = more + 1 := ⟨budget - 1, by omega⟩
  cases hclose : calls.close connection (some .protocolError) (some error.description) with
  | error fault =>
    simp [BoundedLoop.iterate, processRound, hmore, hparse, herror, hclose, replayAll_cons,
      StreamEvent.call, ConnectionCall.replay]
  | ok next =>
    have hround : processRound calls buffer ⟨connection, parser, index⟩ =
        .ok (.inr (true, ⟨next, result.parser, index⟩)) := by
      simp [processRound, hmore, hparse, herror, hclose]
    rw [BoundedLoop.iterate_done hround]
    simp [replayAll_cons, StreamEvent.call, ConnectionCall.replay, hclose]

/-- A pause after some bytes goes on behind them. -/
theorem leavesAt_paused {result : WSFrameParser.ParseResult} {exit : LoopExit}
    (hmore : index < buffer.length) (hparse : parser.parse buffer index = .ok result)
    (herror : result.error = none) (hcompleted : result.completed = false)
    (hconsumed : result.bytesConsumed ≠ 0)
    (hrest : LeavesAt buffer result.parser (index + result.bytesConsumed) exit) :
    LeavesAt buffer parser index exit := by
  intro σ calls connection budget hbudget
  obtain ⟨budget, rfl⟩ : ∃ more, budget = more + 1 := ⟨budget - 1, by omega⟩
  have hround : processRound calls buffer ⟨connection, parser, index⟩ =
      .ok (.inl ⟨connection, result.parser, index + result.bytesConsumed⟩) := by
    simp [processRound, hmore, hparse, herror, hcompleted, hconsumed]
  rw [BoundedLoop.iterate_next hround]
  exact hrest σ calls connection budget (by simp only [List.length_drop] at hbudget ⊢; omega)

/-- A complete frame is handed over, and the loop goes on behind it. -/
theorem leavesAt_completed {result : WSFrameParser.ParseResult} {exit : LoopExit}
    (hmore : index < buffer.length) (hparse : parser.parse buffer index = .ok result)
    (herror : result.error = none) (hcompleted : result.completed = true)
    (hconsumed : result.bytesConsumed ≠ 0)
    (hrest : LeavesAt buffer result.parser.reset (index + result.bytesConsumed) exit) :
    LeavesAt buffer parser index
      { exit with events := .frame result.parser.frame :: exit.events } := by
  intro σ calls connection budget hbudget
  obtain ⟨budget, rfl⟩ : ∃ more, budget = more + 1 := ⟨budget - 1, by omega⟩
  cases hreceived : calls.received connection result.parser.frame with
  | error fault =>
    simp [BoundedLoop.iterate, processRound, hmore, hparse, herror, hcompleted, hconsumed,
      hreceived, replayAll_cons, StreamEvent.call, ConnectionCall.replay]
  | ok next =>
    have hround : processRound calls buffer ⟨connection, parser, index⟩ =
        .ok (.inl ⟨next, result.parser.reset, index + result.bytesConsumed⟩) := by
      simp [processRound, hmore, hparse, herror, hcompleted, hconsumed, hreceived]
    rw [BoundedLoop.iterate_next hround,
      hrest σ calls next budget (by simp only [List.length_drop] at hbudget ⊢; omega)]
    simp [replayAll_cons, StreamEvent.call, ConnectionCall.replay, hreceived]

end Round

/-- A stuck parser keeps the loop from doing anything. -/
theorem leavesAt_stuck {buffer : List UInt8} {parser : WSFrameParser} {index : ℕ}
    (hwf : parser.Wf) (hstuck : parser.Stuck) :
    LeavesAt buffer parser index ⟨[], false, parser, index⟩ := by
  by_cases hmore : index < buffer.length
  · exact leavesAt_idle hmore (WSFrameParser.parse_stuck hwf hstuck) rfl rfl
  · exact leavesAt_end hmore

theorem end_outcome {buffer : List UInt8} {parser : WSFrameParser} {index : ℕ}
    (hnil : buffer.drop index = []) (hwf : parser.Wf) (hfree : ¬ parser.Stuck) :
    LoopOutcome buffer parser index ⟨[], false, parser, index⟩ := by
  refine .waiting parser.scanner rfl ?_ ?_ hwf ⟨le_rfl, le_max_left _ _⟩ (.inl ⟨hnil, hfree⟩)
  · simp [hnil]
  · simp [hnil]

/-- A header that is cut short is what the scanner has seen of it. -/
theorem scan_waiting {parser : WSFrameParser} {second : UInt8} {rest : List UInt8}
    (hstate : parser.state = .opCodeParsed) (hshort : HeaderShort (second :: rest)) :
    scan parser.scanner (second :: rest) =
      (.header parser.frame.finalFrame parser.frame.opCode (second :: rest), []) := by
  rw [WSFrameParser.scanner_opCodeParsed hstate, scan_header_short hshort.1 hshort.2]

/-- Nothing is found in bytes that only wait for more. -/
theorem waiting_silent {unread : List UInt8} {parser : WSFrameParser}
    (hwaits : unread = [] ∨ (HeaderShort unread ∧ parser.state = .opCodeParsed)) :
    (scan parser.scanner unread).2 = [] := by
  rcases hwaits with rfl | ⟨hshort, hstate⟩
  · rfl
  · cases unread with
    | nil => exact hshort.elim
    | cons second rest => rw [scan_waiting hstate hshort]

/-- From a parser between two calls that is not stuck, the loop leaves, and in one of the two
ways. -/
theorem loop_outcome (buffer : List UInt8) :
    ∀ (bound : ℕ) (parser : WSFrameParser) (index : ℕ), (buffer.drop index).length ≤ bound →
      parser.Wf → ¬ parser.Stuck →
      ∃ exit, LeavesAt buffer parser index exit ∧ LoopOutcome buffer parser index exit := by
  intro bound
  induction bound with
  | zero =>
    intro parser index hbound hwf hfree
    have hnil : buffer.drop index = [] := List.eq_nil_of_length_eq_zero (by omega)
    have hend : ¬ index < buffer.length := by simpa [List.drop_eq_nil_iff] using hnil
    exact ⟨_, leavesAt_end hend, end_outcome hnil hwf hfree⟩
  | succ bound ih =>
    intro parser index hbound hwf hfree
    by_cases hmore : index < buffer.length
    · obtain ⟨result, hparse, houtcome⟩ := WSFrameParser.parse_outcome buffer index hwf hfree
      cases houtcome with
      | error error returned scanned left =>
        exact ⟨_, leavesAt_error hmore hparse returned.2.1, .error rfl scanned left
          ⟨le_rfl, hmore⟩⟩
      | completed returned consumed scanned left =>
        have hless : (buffer.drop (index + result.bytesConsumed)).length ≤ bound := by
          simp only [List.length_drop] at hbound ⊢
          omega
        obtain ⟨exit, hleaves, hexit⟩ := ih result.parser.reset (index + result.bytesConsumed)
          hless left.wf_reset (WSFrameParser.not_stuck_reset _)
        exact ⟨_, leavesAt_completed hmore hparse returned.2 returned.1 (by omega) hleaves,
          hexit.prepend scanned consumed.2⟩
      | paused returned consumed scanned left waiting =>
        have hrest : (buffer.drop index).drop result.bytesConsumed =
            buffer.drop (index + result.bytesConsumed) := List.drop_drop
        rw [hrest] at waiting
        have hscanned := scan_of_take scanned
        rw [hrest, List.nil_append] at hscanned
        have hsilent : (scan result.parser.scanner
            (buffer.drop (index + result.bytesConsumed))).2 = [] :=
          waiting_silent (waiting.imp And.left fun h => ⟨h.1, h.2.1⟩)
        rw [hsilent] at hscanned
        have hstop : LoopOutcome buffer parser index
            ⟨[], false, result.parser, index + result.bytesConsumed⟩ := by
          rw [List.length_drop] at consumed
          refine .waiting _ rfl hscanned (Prod.ext rfl hsilent) left
            ⟨?_, ?_⟩ waiting
          · simp only
            omega
          · simp only
            omega
        by_cases hidle : result.bytesConsumed = 0
        · refine ⟨_, ?_, hstop⟩
          rw [hidle, Nat.add_zero]
          exact leavesAt_idle hmore hparse returned.2 hidle
        · have hgoOn {exit : LoopExit}
              (hrest : LeavesAt buffer result.parser (index + result.bytesConsumed) exit) :=
            leavesAt_paused hmore hparse returned.2 returned.1 hidle hrest
          by_cases hstuck : result.parser.Stuck
          · exact ⟨_, hgoOn (leavesAt_stuck left hstuck), hstop⟩
          · have hless : (buffer.drop (index + result.bytesConsumed)).length ≤ bound := by
              simp only [List.length_drop] at hbound ⊢
              omega
            obtain ⟨exit, hleaves, hexit⟩ := ih result.parser (index + result.bytesConsumed)
              hless left hstuck
            exact ⟨exit, hgoOn hleaves, hexit.prepend scanned consumed⟩
    · have hnil : buffer.drop index = [] := List.drop_eq_nil_iff.mpr (by omega)
      exact ⟨_, leavesAt_end hmore, end_outcome hnil hwf hfree⟩

/-- What `process` returns after the loop has left. -/
def LoopExit.finished (exit : LoopExit) (buffer : List UInt8) : Bool :=
  exit.failed || decide (exit.index ≥ buffer.length)

/-- The index after the call. An error leaves it where it was. -/
def LoopExit.nextIndex (exit : LoopExit) (buffer : List UInt8) : ℕ :=
  if exit.failed = false ∧ exit.index ≥ buffer.length then 0 else exit.index

section Exit

variable {exit : LoopExit} {buffer : List UInt8}

theorem LoopExit.finished_of_end (hend : buffer.length ≤ exit.index) :
    exit.finished buffer = true := by
  simp [finished, hend]

theorem LoopExit.nextIndex_of_end (hfailed : exit.failed = false)
    (hend : buffer.length ≤ exit.index) : exit.nextIndex buffer = 0 :=
  if_pos ⟨hfailed, hend⟩

theorem LoopExit.finished_of_more (hfailed : exit.failed = false)
    (hmore : exit.index < buffer.length) : exit.finished buffer = false := by
  simp [finished, hfailed, hmore]

theorem LoopExit.nextIndex_of_more (hmore : exit.index < buffer.length) :
    exit.nextIndex buffer = exit.index :=
  if_neg fun h => absurd h.2 (Nat.not_le.mpr hmore)

/-- A loop that waits has come to the end of the buffer, or to a header that is cut
short and stays unread. -/
theorem LoopExit.waiting_cases {state : Scanner} (hfailed : exit.failed = false)
    (hrest : scan exit.parser.scanner (buffer.drop exit.index) = (state, []))
    (hwaits : (buffer.drop exit.index = [] ∧ ¬ exit.parser.Stuck) ∨
      (HeaderShort (buffer.drop exit.index) ∧ exit.parser.state = .opCodeParsed ∧
        (exit.parser.Stuck ↔ LengthIsZero (buffer.drop exit.index)))) :
    (exit.finished buffer = true ∧ exit.nextIndex buffer = 0 ∧ exit.parser.scanner = state ∧
      ¬ exit.parser.Stuck) ∨
    ∃ second tail, buffer.drop exit.index = second :: tail ∧ exit.parser.state = .opCodeParsed ∧
      exit.finished buffer = false ∧ exit.nextIndex buffer = exit.index ∧
      exit.index < buffer.length ∧ HeaderShort (second :: tail) ∧
      state = .header exit.parser.frame.finalFrame exit.parser.frame.opCode (second :: tail) ∧
      (exit.parser.Stuck ↔ LengthIsZero (second :: tail)) := by
  rcases hwaits with ⟨hnil, hfree⟩ | ⟨hshort, hopCode, hstuck⟩
  · have hend : buffer.length ≤ exit.index := List.drop_eq_nil_iff.mp hnil
    rw [hnil] at hrest
    exact .inl ⟨exit.finished_of_end hend, exit.nextIndex_of_end hfailed hend,
      congrArg Prod.fst hrest, hfree⟩
  · cases hdrop : buffer.drop exit.index with
    | nil =>
      rw [hdrop] at hshort
      exact hshort.elim
    | cons second tail =>
      have hmore : exit.index < buffer.length :=
        lt_length_of_drop hdrop (List.cons_ne_nil _ _)
      rw [hdrop] at hrest hshort hstuck
      rw [scan_waiting hopCode hshort] at hrest
      exact .inr ⟨second, tail, rfl, hopCode, exit.finished_of_more hfailed hmore,
        exit.nextIndex_of_more hmore, hmore, hshort, (congrArg Prod.fst hrest).symm, hstuck⟩

end Exit

theorem process_eq {buffer : List UInt8} {parser : WSFrameParser} {index : ℕ} {exit : LoopExit}
    (hleaves : LeavesAt buffer parser index exit) {σ : Type} (calls : ConnectionCalls σ)
    (connection : σ) :
    process calls ⟨connection, parser, index⟩ buffer =
      replayAll calls connection exit.events >>= fun connection =>
        .ok (exit.finished buffer, ⟨connection, exit.parser, exit.nextIndex buffer⟩) := by
  rw [process, hleaves σ calls connection _ (by simp only [List.length_drop]; omega)]
  cases replayAll calls connection exit.events with
  | error fault => rfl
  | ok connection =>
    cases hfailed : exit.failed with
    | true => simp [hfailed, LoopExit.finished, LoopExit.nextIndex]
    | false =>
      by_cases hend : exit.index ≥ buffer.length
      · simp [hfailed, hend, LoopExit.finished, LoopExit.nextIndex]
      · simp [hfailed, hend, LoopExit.finished, LoopExit.nextIndex]

/-- What a parser finds in the bytes it has not read yet. -/
def found (parser : WSFrameParser) (unread : List UInt8) : List StreamEvent :=
  if parser.Stuck then [] else (scan parser.scanner unread).2

/-- From any parser between two calls the loop leaves, having found what there is to be
found, and the parser is again one between two calls. -/
theorem exists_exit {parser : WSFrameParser} (hwf : parser.Wf) (buffer : List UInt8) (index : ℕ) :
    ∃ exit, LeavesAt buffer parser index exit ∧ exit.parser.Wf ∧
      exit.events = found parser (buffer.drop index) ∧
      (¬ parser.Stuck → LoopOutcome buffer parser index exit) := by
  by_cases hstuck : parser.Stuck
  · refine ⟨⟨[], false, parser, index⟩, leavesAt_stuck hwf hstuck, hwf, ?_,
      fun h => absurd hstuck h⟩
    rw [found, if_pos hstuck]
  · obtain ⟨exit, hleaves, houtcome⟩ := loop_outcome buffer _ parser index le_rfl hwf hstuck
    refine ⟨exit, hleaves, ?_⟩
    rw [found, if_neg hstuck]
    cases houtcome with
    | error failed scanned left bounds =>
      exact ⟨left.1, (congrArg Prod.snd scanned).symm, fun _ => .error failed scanned left bounds⟩
    | waiting state failed scanned rest left bounds waits =>
      exact ⟨left, (congrArg Prod.snd scanned).symm,
        fun _ => .waiting state failed scanned rest left bounds waits⟩

/-- Whatever the connection, the call makes the calls for what the parser finds in the buffer behind
its index. -/
theorem exists_process {parser : WSFrameParser} (hwf : parser.Wf) (buffer : List UInt8)
    (index : ℕ) :
    ∃ finished next nextIndex, next.Wf ∧
      ∀ {σ : Type} (calls : ConnectionCalls σ) (connection : σ),
        process calls ⟨connection, parser, index⟩ buffer =
          replayAll calls connection (found parser (buffer.drop index)) >>= fun connection =>
            .ok (finished, ⟨connection, next, nextIndex⟩) := by
  obtain ⟨exit, hleaves, hwf', hevents, _⟩ := exists_exit hwf buffer index
  rw [← hevents]
  exact ⟨exit.finished buffer, exit.parser, exit.nextIndex buffer, hwf',
    fun calls connection => process_eq hleaves calls connection⟩

end WSSocketProcessor

end KituraWebSocket
