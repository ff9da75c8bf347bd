/-
# The index and the parser

`byteIndex` lives in the processor and the position inside a frame in the parser, and
between two calls of `process` the two should agree: the index counts the bytes of the
presented buffer that the parser has been fed. A `Ledger` says what is due, from
the socket reads alone. `agrees_iff` lists the calls that break the agreement: one
that finds an error anywhere but in the first byte of its buffer, because it leaves
the index or the begun frame behind, and one that presents the rest of a header to a
stuck parser.
-/

import KituraWebSocket.Receive.Chunking

namespace KituraWebSocket

open Scanner

namespace WSFrameParser

/-- The first byte of a frame is to be read, and it is illegal. -/
def FailsAtOnce (parser : WSFrameParser) (unread : List UInt8) : Prop :=
  parser.state = .initial ∧
    ∃ byte rest error, unread = byte :: rest ∧ readFirstByte byte = .error error

theorem parseLength_state {parser next : WSFrameParser} {bytes : List UInt8}
    {start length consumed : ℕ} {lengthByte : UInt8}
    (hreturns : parser.parseLength bytes start length lengthByte = .ok (consumed, next)) :
    next.state = parser.state := by
  rw [parseLength] at hreturns
  split_ifs at hreturns
  · obtain ⟨field, _, hnext⟩ := bind_eq_ok.mp hreturns
    cases hnext
    rfl
  · cases hreturns
    rfl
  · obtain ⟨field, _, hnext⟩ := bind_eq_ok.mp hreturns
    cases hnext
    rfl
  · cases hreturns
    rfl
  · cases hreturns
    rfl

theorem parseMaskAndLength_state {parser next : WSFrameParser} {bytes : List UInt8}
    {start length consumed : ℕ} {error : Option WebSocketError}
    (hreturns : parser.parseMaskAndLength bytes start length = .ok (error, consumed, next)) :
    next.state = parser.state := by
  rw [parseMaskAndLength] at hreturns
  obtain ⟨byte, _, hreturns⟩ := bind_eq_ok.mp hreturns
  dsimp only at hreturns
  split_ifs at hreturns with hmasked
  · obtain ⟨⟨bytesConsumed, measured⟩, hlength, hreturns⟩ := bind_eq_ok.mp hreturns
    have hstate := parseLength_state hlength
    dsimp only at hstate hreturns
    rw [← hstate]
    split_ifs at hreturns
    · obtain ⟨mask, _, hnext⟩ := bind_eq_ok.mp hreturns
      cases hnext
      rfl
    · cases hreturns
      rfl
    · cases hreturns
      rfl
  · cases hreturns
    rfl

/-- Behind the first byte of a frame the parser does not come back to it by itself. -/
theorem parseRound_behind {bytes : List UInt8} {parsing : ParseState}
    {outcome : ParseState ⊕ ParseResult} (hbehind : parsing.parser.state ≠ .initial)
    (hround : parseRound bytes parsing = .ok outcome) :
    Sum.elim (fun next => next.parser.state ≠ .initial)
      (fun result => result.parser.state ≠ .initial) outcome := by
  rw [parseRound] at hround
  dsimp only at hround
  split_ifs at hround with hmore
  · cases hstate : parsing.parser.state with
    | initial => exact absurd hstate hbehind
    | opCodeParsed =>
      rw [hstate] at hround
      obtain ⟨⟨error, bytesConsumed, next⟩, hparse, hround⟩ := bind_eq_ok.mp hround
      have hkept : next.state = .opCodeParsed := (parseMaskAndLength_state hparse).trans hstate
      dsimp only at hround
      split_ifs at hround
      · cases hround
        simp [hkept]
      · cases hround
        simp [hkept]
      · cases hround
        simp [ParseState.advance]
    | lengthParsed =>
      rw [hstate] at hround
      obtain ⟨⟨bytesConsumed, next⟩, _, hround⟩ := bind_eq_ok.mp hround
      cases hround
      simp [ParseState.advance]
  · cases hround
    exact hbehind

theorem parse_behind {parser : WSFrameParser} {buffer : List UInt8} {start : ℕ}
    {result : ParseResult} (hbehind : parser.state ≠ .initial)
    (hparse : parser.parse buffer start = .ok result) : result.parser.state ≠ .initial :=
  BoundedLoop.iterate_partial (fun parsing => parsing.parser.state ≠ .initial)
    (fun result => result.parser.state ≠ .initial) (fun _ _ => parseRound_behind) _ _ _ hbehind
    hparse

/-- A call that has a byte to read leaves the parser at the first byte of a frame only if that
byte is an error. -/
theorem initial_iff {parser : WSFrameParser} {buffer : List UInt8} {start : ℕ}
    {result : ParseResult} (hwf : parser.Wf) (hmore : start < buffer.length)
    (hparse : parser.parse buffer start = .ok result) :
    result.parser.state = .initial ↔ parser.FailsAtOnce (buffer.drop start) := by
  cases hstate : parser.state with
  | initial =>
    obtain ⟨byte, rest, hunread⟩ : ∃ byte rest, buffer.drop start = byte :: rest :=
      ⟨_, _, List.drop_eq_getElem_cons hmore⟩
    have hstart : ({ parser := parser, byteIndex := start, bytesParsed := 0 } :
        ParseState).parser.state = .initial := hstate
    cases hbyte : readFirstByte byte with
    | error cause =>
      obtain ⟨failed, hround, _, hfailed⟩ := parseRound_initial_error hunread hwf hstart hbyte
      rw [parse, BoundedLoop.iterate_done hround] at hparse
      cases hparse
      exact iff_of_true hfailed ⟨hstate, byte, rest, cause, hunread, hbyte⟩
    | ok legal =>
      obtain ⟨finalFrame, opCode⟩ := legal
      obtain ⟨next, hround, _⟩ := parseRound_initial_ok hunread hwf hstart hbyte
      rw [parse, BoundedLoop.iterate_next hround] at hparse
      apply iff_of_false
      · exact BoundedLoop.iterate_partial (fun parsing => parsing.parser.state ≠ .initial)
          (fun result => result.parser.state ≠ .initial) (fun _ _ => parseRound_behind) _ _ _
          (by simp [ParseState.advance]) hparse
      · rintro ⟨_, byte', rest', cause, hunread', hbyte'⟩
        rw [hunread] at hunread'
        cases hunread'
        rw [hbyte] at hbyte'
        cases hbyte'
  | opCodeParsed =>
    have hbehind : parser.state ≠ .initial := by simp [hstate]
    exact iff_of_false (parse_behind hbehind hparse) fun h => hbehind h.1
  | lengthParsed =>
    have hbehind : parser.state ≠ .initial := by simp [hstate]
    exact iff_of_false (parse_behind hbehind hparse) fun h => hbehind h.1

/-- The scanner stops at an illegal first byte. -/
theorem FailsAtOnce.scan {parser : WSFrameParser} {unread : List UInt8}
    (hfails : parser.FailsAtOnce unread) {count : ℕ} (hcount : 0 < count) :
    (Scanner.scan parser.scanner (unread.take count)).1 = .failed := by
  obtain ⟨hstate, byte, rest, error, rfl, hbyte⟩ := hfails
  rw [scanner_initial hstate, List.take_cons hcount, scan_start_error hbyte]

end WSFrameParser

namespace WSSocketProcessor

theorem LoopOutcome.index_le {buffer : List UInt8} {parser : WSFrameParser} {index : ℕ}
    {exit : LoopExit} (houtcome : LoopOutcome buffer parser index exit) : index ≤ exit.index := by
  cases houtcome with
  | error failed scanned left bounds => exact bounds.1
  | waiting state failed scanned rest left bounds waits => exact bounds.1

/-- The loop leaves in one way only. -/
theorem LeavesAt.unique {buffer : List UInt8} {parser : WSFrameParser} {index : ℕ}
    {first second : LoopExit} (hfirst : LeavesAt buffer parser index first)
    (hsecond : LeavesAt buffer parser index second) :
    first.failed = second.failed ∧ first.parser = second.parser ∧ first.index = second.index := by
  have hsame := (hfirst _ recorder [] _ (Nat.lt_succ_self _)).symm.trans
    (hsecond _ recorder [] _ (Nat.lt_succ_self _))
  simp only [replayAll_recorder, ok_bind, Except.ok.injEq, Prod.mk.injEq,
    WSSocketProcessor.mk.injEq] at hsame
  exact ⟨hsame.1, hsame.2.2⟩

/-- An error leaves the processor at the beginning of a buffer and of a frame only if it started
there and the first byte is the error. -/
theorem LeavesAt.error_at_start {buffer : List UInt8} {parser : WSFrameParser} {index : ℕ}
    {exit : LoopExit} (hwf : parser.Wf) (hfree : ¬ parser.Stuck)
    (hleaves : LeavesAt buffer parser index exit) (hfailed : exit.failed = true)
    (hbounds : index ≤ exit.index ∧ exit.index < buffer.length) :
    exit.index = 0 ∧ exit.parser.state = .initial ↔
      index = 0 ∧ parser.FailsAtOnce (buffer.drop index) := by
  have hmore : index < buffer.length := by omega
  obtain ⟨result, hparse, houtcome⟩ := WSFrameParser.parse_outcome buffer index hwf hfree
  have hinitial := WSFrameParser.initial_iff hwf hmore hparse
  cases houtcome with
  | error error returned scanned left =>
    obtain ⟨_, hparser, hindex⟩ := hleaves.unique (leavesAt_error hmore hparse returned.2.1)
    rw [hparser, hindex, hinitial]
  | completed returned consumed scanned left =>
    obtain ⟨rest, hrest, houtcome⟩ := loop_outcome buffer _ result.parser.reset
      (index + result.bytesConsumed) le_rfl left.wf_reset (WSFrameParser.not_stuck_reset _)
    obtain ⟨_, _, hindex⟩ :=
      hleaves.unique (leavesAt_completed hmore hparse returned.2 returned.1 (by omega) hrest)
    have hfurther := houtcome.index_le
    apply iff_of_false
    · rintro ⟨hzero, _⟩
      rw [hindex] at hzero
      simp only at hzero
      omega
    · rintro ⟨_, hfails⟩
      have hstopped := hfails.scan consumed.1
      rw [scanned] at hstopped
      cases hstopped
  | paused returned consumed scanned left waiting =>
    by_cases hidle : result.bytesConsumed = 0
    · have hwaits := (hleaves.unique (leavesAt_idle hmore hparse returned.2 hidle)).1
      rw [hfailed] at hwaits
      cases hwaits
    · by_cases hstuck : result.parser.Stuck
      · have hwaits := (hleaves.unique
          (leavesAt_paused hmore hparse returned.2 returned.1 hidle (leavesAt_stuck left hstuck))).1
        rw [hfailed] at hwaits
        cases hwaits
      · obtain ⟨rest, hrest, houtcome⟩ := loop_outcome buffer _ result.parser
          (index + result.bytesConsumed) le_rfl left hstuck
        obtain ⟨_, _, hindex⟩ :=
          hleaves.unique (leavesAt_paused hmore hparse returned.2 returned.1 hidle hrest)
        have hfurther := houtcome.index_le
        apply iff_of_false
        · rintro ⟨hzero, _⟩
          rw [hindex] at hzero
          omega
        · rintro ⟨_, hfails⟩
          have hstopped := hfails.scan (Nat.pos_of_ne_zero hidle)
          rw [scanned] at hstopped
          exact absurd hstopped (WSFrameParser.scanner_ne_failed _)

/-- What is due after some socket reads: the bytes heard since the start or the last parse
error, and the calls for everything that was to be read. -/
structure Ledger where
  heard : List UInt8 := []
  calls : List ConnectionCall := []

/-- What the bytes heard have led to. -/
def Ledger.scanner (ledger : Ledger) : Scanner := (scan .start ledger.heard).1

/-- One more read. At a parse error all that has been heard is given up, and with it whatever
follows the error in the same read: nothing is due for those bytes any more, and what is heard
next begins with the next read. -/
def Ledger.read (ledger : Ledger) (bytes : List UInt8) : Ledger where
  heard := if (scan ledger.scanner bytes).1 = .failed then [] else ledger.heard ++ bytes
  calls := ledger.calls ++ (scan ledger.scanner bytes).2.map StreamEvent.call

/-- What is due after a list of reads. -/
def due (reads : List (List UInt8)) : Ledger := reads.foldl Ledger.read {}

/-- The bytes of the buffer that the index has not passed. -/
def Reading.unread {σ : Type} (reading : Reading σ) : List UInt8 :=
  reading.buffer.drop reading.processor.byteIndex

/-- Between two calls, the index, the parser and the buffer agree with what is due. -/
structure Agrees (ledger : Ledger) (reading : Reading (List ConnectionCall)) : Prop where
  /-- The index does not go past the buffer. -/
  within : reading.processor.byteIndex ≤ reading.buffer.length
  /-- When the buffer has been emptied, the index is zero. -/
  emptied : reading.buffer = [] → reading.processor.byteIndex = 0
  /-- When an error has been reported, no frame has been begun. -/
  afresh : ledger.heard = [] → reading.processor.parser.state = .initial
  /-- The buffer holds the last bytes heard, and the parser has been fed what is before the index,
  each byte once and in order, and nothing else. -/
  fed : ∃ earlier, earlier ++ reading.buffer = ledger.heard ∧
    (scan .start (earlier ++ reading.buffer.take reading.processor.byteIndex)).1 =
      reading.processor.parser.scanner
  /-- What is still unread is a header that is cut short. -/
  waits : reading.unread = [] ∨
    HeaderShort reading.unread ∧ reading.processor.parser.state = .opCodeParsed
  /-- The calls due have been made. -/
  calls : reading.processor.connection = ledger.calls

/-- A call that breaks the agreement: it presents a stuck parser with the rest of the header, or
it finds an error that is not the first byte of a frame at the beginning of its buffer. -/
def Misplaces (reading : Reading (List ConnectionCall)) (bytes : List UInt8) : Prop :=
  (reading.processor.parser.Stuck ∧ ¬ HeaderShort (reading.unread ++ bytes)) ∨
    (∃ error, .error error ∈ found reading.processor.parser (reading.unread ++ bytes)) ∧
      ¬ (reading.processor.byteIndex = 0 ∧
        reading.processor.parser.FailsAtOnce (reading.unread ++ bytes))

/-- What holds between any two calls, whatever has gone wrong. -/
structure Sound (reading : Reading (List ConnectionCall)) : Prop where
  wf : reading.processor.parser.Wf
  stuck : reading.processor.parser.Stuck → LengthIsZero reading.unread

/-- What a call does that is presented a buffer with some new bytes at its end. -/
inductive Delivered (reading : Reading (List ConnectionCall)) (bytes : List UInt8)
    (next : Reading (List ConnectionCall)) : Prop
  | /-- Nothing, because the parser is stuck. -/
    idle (stuck : reading.processor.parser.Stuck)
      (same : next = { reading with buffer := reading.buffer ++ bytes })
  | /-- It has found an error and gives up the buffer. -/
    failed (free : ¬ reading.processor.parser.Stuck) (events : List StreamEvent)
      (scanned : scan reading.processor.parser.scanner
        ((reading.buffer ++ bytes).drop reading.processor.byteIndex) = (.failed, events))
      (calls : next.processor.connection =
        reading.processor.connection ++ events.map StreamEvent.call)
      (emptied : next.buffer = [])
      (left : next.processor.parser.Wf ∧ ¬ next.processor.parser.Stuck)
      (start : next.processor.byteIndex = 0 ∧ next.processor.parser.state = .initial ↔
        reading.processor.byteIndex = 0 ∧ reading.processor.parser.FailsAtOnce
          ((reading.buffer ++ bytes).drop reading.processor.byteIndex))
  | /-- It has read the whole buffer. -/
    finished (free : ¬ reading.processor.parser.Stuck) (events : List StreamEvent)
      (scanned : scan reading.processor.parser.scanner
        ((reading.buffer ++ bytes).drop reading.processor.byteIndex) =
          (next.processor.parser.scanner, events))
      (calls : next.processor.connection =
        reading.processor.connection ++ events.map StreamEvent.call)
      (emptied : next.buffer = [] ∧ next.processor.byteIndex = 0)
      (left : next.processor.parser.Wf ∧ ¬ next.processor.parser.Stuck)
  | /-- It waits for the rest of a header. -/
    waits (free : ¬ reading.processor.parser.Stuck) (events : List StreamEvent)
      (scanned : scan reading.processor.parser.scanner
        ((reading.buffer ++ bytes).drop reading.processor.byteIndex) =
          (.header next.processor.parser.frame.finalFrame next.processor.parser.frame.opCode
            next.unread, events))
      (calls : next.processor.connection =
        reading.processor.connection ++ events.map StreamEvent.call)
      (kept : next.buffer = reading.buffer ++ bytes)
      (bounds : reading.processor.byteIndex ≤ next.processor.byteIndex ∧
        next.processor.byteIndex < next.buffer.length)
      (left : next.processor.parser.Wf ∧ next.processor.parser.state = .opCodeParsed)
      (short : HeaderShort next.unread)
      (stuck : next.processor.parser.Stuck ↔ LengthIsZero next.unread)

theorem lengthIsZero_append {seen : List UInt8} (hzero : LengthIsZero seen) (more : List UInt8) :
    LengthIsZero (seen ++ more) := by
  cases seen with
  | nil => exact hzero.elim
  | cons second rest =>
    obtain ⟨hfield, hzero⟩ := hzero
    rw [List.cons_append]
    constructor
    · rw [List.length_append]
      omega
    · rw [headerLength_append hfield, hzero]

theorem lt_of_lengthIsZero {buffer : List UInt8} {index : ℕ}
    (hzero : LengthIsZero (buffer.drop index)) : index < buffer.length := by
  by_contra hend
  rw [List.drop_eq_nil_iff.mpr (Nat.not_lt.mp hend)] at hzero
  exact hzero

theorem deliver_cases {reading next : Reading (List ConnectionCall)} {bytes : List UInt8}
    (hsound : Sound reading) (hdeliver : deliver recorder reading bytes = .ok next) :
    Delivered reading bytes next := by
  by_cases hstuck : reading.processor.parser.Stuck
  · rw [deliver_stuck hsound.wf hstuck (lt_of_lengthIsZero (hsound.stuck hstuck))] at hdeliver
    exact .idle hstuck (Except.ok.inj hdeliver).symm
  · obtain ⟨⟨connection, parser, index⟩, buffer⟩ := reading
    obtain ⟨exit, hleaves, hexit, hevents, houtcome⟩ :=
      exists_exit hsound.wf (buffer ++ bytes) index
    rw [deliver_recorder hleaves] at hdeliver
    cases hdeliver
    cases houtcome hstuck with
    | error failed scanned left bounds =>
      have hfinished : exit.finished (buffer ++ bytes) = true := by
        simp [LoopExit.finished, failed]
      have hindex : exit.nextIndex (buffer ++ bytes) = exit.index :=
        LoopExit.nextIndex_of_more bounds.2
      refine .failed hstuck exit.events scanned rfl (by simp [hfinished]) ⟨left.1, left.2.1⟩ ?_
      simp only [hindex]
      exact hleaves.error_at_start hsound.wf hstuck failed bounds
    | waiting state failed scanned rest left bounds waits =>
      rcases exit.waiting_cases failed rest waits with ⟨hfinished, hindex, hscanner, hfree⟩ |
        ⟨second, tail, hunread, hopCode, hfinished, hindex, hmore, hshort, hstate, hzero⟩
      · refine .finished hstuck exit.events ?_ rfl ⟨by simp [hfinished], hindex⟩ ⟨left, hfree⟩
        rw [scanned, ← hscanner]
      · rw [← hunread] at hshort hstate hzero
        rw [hfinished, hindex, if_neg (by decide)]
        exact .waits hstuck exit.events (by rw [scanned, hstate]; rfl) rfl rfl
          ⟨bounds.1, hmore⟩ ⟨left, hopCode⟩ hshort hzero

/-- Every call keeps a processor sound. -/
theorem Delivered.sound {reading next : Reading (List ConnectionCall)} {bytes : List UInt8}
    (hsound : Sound reading) (hdelivered : Delivered reading bytes next) : Sound next := by
  cases hdelivered with
  | idle stuck same =>
    rw [same]
    refine ⟨hsound.wf, fun _ => ?_⟩
    have hzero := hsound.stuck stuck
    show LengthIsZero ((reading.buffer ++ bytes).drop reading.processor.byteIndex)
    rw [List.drop_append_of_le_length (lt_of_lengthIsZero hzero).le]
    exact lengthIsZero_append hzero bytes
  | failed free events scanned calls emptied left start =>
    exact ⟨left.1, fun hstuck => absurd hstuck left.2⟩
  | finished free events scanned calls emptied left =>
    exact ⟨left.1, fun hstuck => absurd hstuck left.2⟩
  | waits free events scanned calls kept bounds left short stuck => exact ⟨left.1, stuck.mp⟩

theorem state_of_scanner {parser : WSFrameParser} (hstart : parser.scanner = .start) :
    parser.state = .initial := by
  cases hstate : parser.state with
  | initial => rfl
  | opCodeParsed =>
    rw [WSFrameParser.scanner_opCodeParsed hstate] at hstart
    cases hstart
  | lengthParsed =>
    rw [WSFrameParser.scanner_lengthParsed hstate] at hstart
    cases hstart

/-- What holds of an emptied buffer and of a parser that has been fed nothing holds because the
index counts what the parser has been fed. -/
theorem agrees_of_fed {ledger : Ledger} {reading : Reading (List ConnectionCall)}
    (within : reading.processor.byteIndex ≤ reading.buffer.length)
    (fed : ∃ earlier, earlier ++ reading.buffer = ledger.heard ∧
      (scan .start (earlier ++ reading.buffer.take reading.processor.byteIndex)).1 =
        reading.processor.parser.scanner)
    (waits : reading.unread = [] ∨
      HeaderShort reading.unread ∧ reading.processor.parser.state = .opCodeParsed)
    (calls : reading.processor.connection = ledger.calls) : Agrees ledger reading := by
  refine ⟨within, ?_, ?_, fed, waits, calls⟩
  · intro hempty
    rw [hempty] at within
    exact Nat.le_zero.mp within
  · intro hnothing
    obtain ⟨earlier, hheard, hfed⟩ := fed
    rw [hnothing] at hheard
    obtain ⟨rfl, hempty⟩ := List.append_eq_nil_iff.mp hheard
    rw [hempty, List.take_nil] at hfed
    exact state_of_scanner hfed.symm

section Agreement

variable {ledger : Ledger} {reading next : Reading (List ConnectionCall)} {bytes : List UInt8}

theorem Agrees.unread_append (hagrees : Agrees ledger reading) (bytes : List UInt8) :
    (reading.buffer ++ bytes).drop reading.processor.byteIndex = reading.unread ++ bytes :=
  List.drop_append_of_le_length hagrees.within

/-- What is unread leads the parser to where the bytes heard lead. -/
theorem Agrees.scanned (hagrees : Agrees ledger reading) :
    scan reading.processor.parser.scanner reading.unread = (ledger.scanner, []) := by
  obtain ⟨earlier, hheard, hfed⟩ := hagrees.fed
  have hsilent : (scan reading.processor.parser.scanner reading.unread).2 = [] :=
    waiting_silent hagrees.waits
  have hwhole : earlier ++ reading.buffer.take reading.processor.byteIndex ++ reading.unread =
      ledger.heard := by
    rw [List.append_assoc, Reading.unread, List.take_append_drop, hheard]
  apply Prod.ext
  · rw [Ledger.scanner, ← hwhole, scan_append, hfed]
  · exact hsilent

/-- So the parser finds what is due. -/
theorem Agrees.scan_append (hagrees : Agrees ledger reading) (bytes : List UInt8) :
    scan reading.processor.parser.scanner (reading.unread ++ bytes) =
      scan ledger.scanner bytes := by
  rw [scan_append_of_eq hagrees.scanned]
  rfl

theorem scanner_append (ledger : Ledger) (bytes : List UInt8) :
    (scan .start (ledger.heard ++ bytes)).1 = (scan ledger.scanner bytes).1 := by
  rw [Scanner.scan_append]
  rfl

/-- What a call finds in its buffer is due. -/
theorem Agrees.due_of_scan (hagrees : Agrees ledger reading) {state : Scanner}
    {events : List StreamEvent}
    (hscan : scan reading.processor.parser.scanner
      ((reading.buffer ++ bytes).drop reading.processor.byteIndex) = (state, events)) :
    scan ledger.scanner bytes = (state, events) := by
  rw [← hagrees.scan_append, ← hagrees.unread_append, hscan]

/-- A call that calls for what it has found has made the calls that are due. -/
theorem Agrees.calls_read (hagrees : Agrees ledger reading) {state : Scanner}
    {events : List StreamEvent} (hdue : scan ledger.scanner bytes = (state, events))
    (hcalls : next.processor.connection =
      reading.processor.connection ++ events.map StreamEvent.call) :
    next.processor.connection = (ledger.read bytes).calls := by
  rw [hcalls, hagrees.calls, Ledger.read, hdue]

/-- A read without an error is heard. -/
theorem heard_read (hrunning : (scan ledger.scanner bytes).1 ≠ .failed) :
    (ledger.read bytes).heard = ledger.heard ++ bytes := if_neg hrunning

/-- A processor that is not stuck and has found no error goes on as it should. -/
theorem not_misplaces (hfree : ¬ reading.processor.parser.Stuck)
    (hrunning : (scan reading.processor.parser.scanner (reading.unread ++ bytes)).1 ≠ .failed) :
    ¬ Misplaces reading bytes := by
  rintro (⟨hstuck, _⟩ | ⟨herror, _⟩)
  · exact hfree hstuck
  · rw [found, if_neg hfree, ← failed_iff (WSFrameParser.scanner_ne_failed _)] at herror
    exact hrunning herror

/-- What the processor has been fed leads further by what it is fed now. -/
theorem Agrees.fed_append (hagrees : Agrees ledger reading)
    (hrunning : (scan ledger.scanner bytes).1 ≠ .failed) :
    ∃ earlier, earlier ++ (reading.buffer ++ bytes) = (ledger.read bytes).heard ∧
      (scan .start (earlier ++ reading.buffer.take reading.processor.byteIndex)).1 =
        reading.processor.parser.scanner := by
  obtain ⟨earlier, hheard, hfed⟩ := hagrees.fed
  refine ⟨earlier, ?_, hfed⟩
  rw [heard_read hrunning, ← List.append_assoc, hheard]

/-- A stuck parser agrees with what is due as long as the header is cut short. -/
theorem Agrees.idle (hagrees : Agrees ledger reading) (hsound : Sound reading)
    (hstuck : reading.processor.parser.Stuck) :
    Agrees (ledger.read bytes) { reading with buffer := reading.buffer ++ bytes } ↔
      HeaderShort (reading.unread ++ bytes) := by
  have hunread : Reading.unread { reading with buffer := reading.buffer ++ bytes } =
      reading.unread ++ bytes := hagrees.unread_append bytes
  constructor
  · intro hnext
    rcases hnext.waits with hnone | ⟨hshort, _⟩
    · rw [hunread] at hnone
      have hzero := hsound.stuck hstuck
      rw [(List.append_eq_nil_iff.mp hnone).1] at hzero
      exact hzero.elim
    · rwa [hunread] at hshort
  · intro hshort
    have hsilent : (scan ledger.scanner bytes).2 = [] := by
      rw [← hagrees.scan_append]
      exact waiting_silent (.inr ⟨hshort, hstuck.1⟩)
    have hrunning : (scan ledger.scanner bytes).1 ≠ .failed := by
      rw [← hagrees.scan_append, Ne, failed_iff (WSFrameParser.scanner_ne_failed _),
        hagrees.scan_append, hsilent]
      simp
    obtain ⟨earlier, hheard, hfed⟩ := hagrees.fed_append hrunning
    apply agrees_of_fed
    · rw [List.length_append]
      exact Nat.le_add_right_of_le hagrees.within
    · refine ⟨earlier, hheard, ?_⟩
      rw [List.take_append_of_le_length hagrees.within, hfed]
    · exact .inr ⟨by rwa [hunread], hstuck.1⟩
    · simp [Ledger.read, hsilent, hagrees.calls]

/-- A call keeps the agreement unless it misplaces the index or the parser. -/
theorem Agrees.next_iff (hagrees : Agrees ledger reading) (hsound : Sound reading)
    (hdelivered : Delivered reading bytes next) :
    Agrees (ledger.read bytes) next ↔ ¬ Misplaces reading bytes := by
  cases hdelivered with
  | idle stuck same =>
    rw [same, hagrees.idle hsound stuck]
    simp [Misplaces, stuck, found]
  | failed free events scanned calls emptied left start =>
    have hdue := hagrees.due_of_scan scanned
    rw [hagrees.unread_append] at scanned start
    have hfound : ∃ error, .error error ∈ found reading.processor.parser
        (reading.unread ++ bytes) := by
      rw [found, if_neg free, ← failed_iff (WSFrameParser.scanner_ne_failed _), scanned]
    have hheard : (ledger.read bytes).heard = [] := by
      rw [Ledger.read, hdue]
      rfl
    have hmisplaces : ¬ Misplaces reading bytes ↔
        next.processor.byteIndex = 0 ∧ next.processor.parser.state = .initial := by
      rw [start]
      simp [Misplaces, free, hfound]
    rw [hmisplaces]
    constructor
    · exact fun hnext => ⟨hnext.emptied emptied, hnext.afresh hheard⟩
    · rintro ⟨hindex, hstate⟩
      apply agrees_of_fed
      · omega
      · refine ⟨[], ?_, ?_⟩
        · rw [hheard, emptied]
          rfl
        · rw [emptied, WSFrameParser.scanner_initial hstate]
          simp
      · simp [Reading.unread, emptied]
      · exact hagrees.calls_read hdue calls
  | finished free events scanned calls emptied left =>
    have hdue := hagrees.due_of_scan scanned
    have hrunning : (scan ledger.scanner bytes).1 ≠ .failed := by
      rw [hdue]
      exact WSFrameParser.scanner_ne_failed _
    apply iff_of_true
    · apply agrees_of_fed
      · omega
      · refine ⟨ledger.heard ++ bytes, ?_, ?_⟩
        · rw [heard_read hrunning, emptied.1, List.append_nil]
        · rw [emptied.1, List.take_nil, List.append_nil, scanner_append, hdue]
      · simp [Reading.unread, emptied.1]
      · exact hagrees.calls_read hdue calls
    · exact not_misplaces free (by rwa [hagrees.scan_append])
  | waits free events scanned calls kept bounds left short stuck =>
    have hdue := hagrees.due_of_scan scanned
    have hrunning : (scan ledger.scanner bytes).1 ≠ .failed := by
      rw [hdue]
      simp
    apply iff_of_true
    · obtain ⟨earlier, hheard, hfed⟩ := hagrees.fed_append hrunning
      rw [← kept] at hheard
      apply agrees_of_fed
      · exact bounds.2.le
      · refine ⟨earlier, hheard, ?_⟩
        have hwhole : earlier ++ next.buffer.take next.processor.byteIndex ++ next.unread =
            ledger.heard ++ bytes := by
          rw [List.append_assoc, Reading.unread, List.take_append_drop, hheard,
            heard_read hrunning]
        rw [WSFrameParser.scanner_opCodeParsed left.2]
        apply header_of_scan
        rw [hwhole, scanner_append, hdue]
      · exact .inr ⟨short, left.2⟩
      · exact hagrees.calls_read hdue calls
    · exact not_misplaces free (by rwa [hagrees.scan_append])

end Agreement

/-- Through a list of socket reads the index, the parser and what `process` returns agree all along,
exactly when no call misplaces the index or the parser. -/
theorem agrees_iff (reads : List (List UInt8)) :
    FallibleRun.Always (deliver recorder) { processor := fresh [] } reads
        (fun before reading => Agrees (due before) reading) ↔
      FallibleRun.NoStep (deliver recorder) { processor := fresh [] } reads Misplaces := by
  obtain ⟨last, hrun, _⟩ := follows_deliverAll reads
  apply FallibleRun.always_iff_noStep (fun _ reading => Sound reading) _ _ _ _ _ hrun
  · exact ⟨WSFrameParser.wf_fresh, fun hstuck => by cases hstuck.1⟩
  · intro _ reading bytes next hsound hdeliver
    exact (deliver_cases hsound hdeliver).sound hsound
  · exact agrees_of_fed le_rfl ⟨[], rfl, rfl⟩ (.inl rfl) rfl
  · intro before reading bytes next hsound hagrees hdeliver
    rw [due, List.foldl_append]
    exact hagrees.next_iff hsound (deliver_cases hsound hdeliver)

/-- A ping, and behind it a byte with reserved bits: the call returns true and leaves the index
behind the ping. -/
theorem not_agrees_error_behind_ping :
    ¬ FallibleRun.Always (deliver recorder) { processor := fresh [] }
        [[0x89, 0x80, 0, 0, 0, 0, 0xF1]] (fun before reading => Agrees (due before) reading) := by
  intro halways
  obtain ⟨last, hrun, _⟩ := follows_deliverAll [[0x89, 0x80, 0, 0, 0, 0, 0xF1]]
  have hleft : (deliverAll recorder { processor := fresh [] }
      [[0x89, 0x80, 0, 0, 0, 0, 0xF1]]).map (fun reading =>
        (reading.buffer, reading.processor.byteIndex)) = .ok ([], 6) := by decide +kernel
  rw [hrun] at hleft
  obtain ⟨hempty, hindex⟩ : last.buffer = [] ∧ last.processor.byteIndex = 6 := by
    simpa [Except.map] using hleft
  have hzero := (halways _ [] last rfl hrun).emptied hempty
  rw [hindex] at hzero
  cases hzero

end WSSocketProcessor

end KituraWebSocket
