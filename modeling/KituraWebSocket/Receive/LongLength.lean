/-
# Lengths of eight bytes

A length field of eight bytes can hold any 64-bit number, and the parser reads its
last four. `readsLength_iff` says what that comes to: the parser takes the length
that the field says, and completes the frame with just that many bytes of payload,
exactly when the length is less than `2 ^ 32`. A longer frame is completed early,
and what follows of its payload is parsed as new frames.
-/

import KituraWebSocket.Receive.ParserLoop
import KituraWebSocket.WSSocketProcessor

namespace KituraWebSocket

open Scanner

namespace Scanner

/-- How far a frame has been read after some bytes of a stream that begins with its first byte,
if that is still to come, and its whole header. -/
inductive FrameProgress (first : List UInt8) (second : UInt8) (rest : List UInt8) (count : ℕ) :
    Scanner × List StreamEvent → Prop
  | /-- Not at all. -/
    start (before : count < first.length) : FrameProgress first second rest count (start, [])
  | /-- The header is not complete. -/
    header (finalFrame : Bool) (opCode : FrameOpcode)
      (within : first.length ≤ count ∧ count < first.length + headerSize second) :
      FrameProgress first second rest count
        (header finalFrame opCode ((second :: rest).take (count - first.length)), [])
  | /-- Some of the payload is missing. -/
    body (finalFrame : Bool) (opCode : FrameOpcode) (payload : List UInt8) :
      FrameProgress first second rest count
        (body finalFrame opCode (headerLength second rest) (headerMask second rest) payload, [])
  | /-- A frame has been found, whose payload has the length that the header gives. -/
    complete (scanner : Scanner) (finalFrame : Bool) (opCode : FrameOpcode)
      (events : List StreamEvent)
      (enough : headerLength second rest ≤ (rest.drop (headerSize second - 1)).length) :
      FrameProgress first second rest count
        (scanner, .frame ⟨finalFrame, opCode, unmask (headerMask second rest) 0
          ((rest.drop (headerSize second - 1)).take (headerLength second rest))⟩ :: events)

/-- Behind the first byte of a frame the scanner reads the frame that its header gives, and nothing
else. -/
theorem scan_progress {scanner : Scanner} {finalFrame : Bool} {opCode : FrameOpcode}
    {first rest : List UInt8} {second : UInt8}
    (hfirst : scan scanner first = (header finalFrame opCode [], []))
    (hmask : isMasked second = true) (hfull : headerSize second ≤ rest.length + 1) (more : ℕ) :
    FrameProgress first second rest (first.length + more)
      (scan scanner ((first ++ second :: rest).take (first.length + more))) := by
  rw [List.take_length_add_append, scan_append_of_eq hfirst, List.nil_append]
  by_cases hshort : more < headerSize second
  · have hscan : scan (header finalFrame opCode []) ((second :: rest).take more) =
        (header finalFrame opCode ((second :: rest).take more), []) := by
      cases more with
      | zero => rfl
      | succ more =>
        apply scan_header_short hmask
        rw [List.length_take]
        omega
    have hcount : first.length + more - first.length = more := by omega
    rw [hscan, ← congrArg ((second :: rest).take ·) hcount]
    exact .header finalFrame opCode (by omega)
  · obtain ⟨behind, rfl⟩ : ∃ behind, more = headerSize second + behind :=
      ⟨more - headerSize second, by omega⟩
    have hbefore : scan (header finalFrame opCode []) ((second :: rest).take 0) =
        (header finalFrame opCode [], []) := rfl
    have hheader := WSFrameParser.scan_take_header List.drop_zero hbefore hmask hfull
    have hbehind : (second :: rest).drop (headerSize second) =
        rest.drop (headerSize second - 1) :=
      List.drop_cons (Nat.lt_of_lt_of_le (lengthSize_pos second) (Nat.le_add_right _ _))
    rw [Nat.zero_add, enterBody] at hheader
    rw [List.take_add, hbehind]
    by_cases hzero : headerLength second rest = 0
    · rw [if_pos hzero] at hheader
      rw [scan_append_of_eq hheader]
      have hpayload : unmask (headerMask second rest) 0
          ((rest.drop (headerSize second - 1)).take (headerLength second rest)) = [] := by
        rw [hzero]
        rfl
      rw [← hpayload]
      exact .complete _ finalFrame opCode _ (by omega)
    · rw [if_neg hzero] at hheader
      rw [scan_append_of_eq hheader, List.nil_append]
      by_cases hmissing : ((rest.drop (headerSize second - 1)).take behind).length <
          headerLength second rest
      · rw [scan_body_short (by simpa using hmissing)]
        exact .body finalFrame opCode _
      · rw [List.length_take] at hmissing
        have hwhole : ((rest.drop (headerSize second - 1)).take behind).take
            (headerLength second rest) =
            (rest.drop (headerSize second - 1)).take (headerLength second rest) := by
          rw [List.take_take, Nat.min_eq_left (by omega)]
        have hpayload : ((rest.drop (headerSize second - 1)).take
            (headerLength second rest)).length = headerLength second rest := by
          rw [List.length_take]
          omega
        have hbody : scan (body finalFrame opCode (headerLength second rest)
            (headerMask second rest) []) ((rest.drop (headerSize second - 1)).take
              (headerLength second rest)) =
            (start, [.frame ⟨finalFrame, opCode, unmask (headerMask second rest) 0
              ((rest.drop (headerSize second - 1)).take (headerLength second rest))⟩]) :=
          scan_body_full (Nat.pos_of_ne_zero hzero) (by rw [hpayload]; simp)
        rw [← hwhole] at hbody
        rw [scan_of_take hbody, hwhole]
        exact .complete _ finalFrame opCode _ (by omega)

/-- When nothing of a header has been read, the header comes next. -/
theorem FrameProgress.at_header {first rest : List UInt8} {second : UInt8} {count : ℕ}
    {finalFrame : Bool} {opCode : FrameOpcode}
    (hprogress : FrameProgress first second rest count (.header finalFrame opCode [], [])) :
    (first ++ second :: rest).drop count = second :: rest := by
  generalize hfound : (Scanner.header finalFrame opCode [], ([] : List StreamEvent)) = found
    at hprogress
  cases hprogress with
  | start before => cases hfound
  | body finalFrame opCode payload => cases hfound
  | complete scanner finalFrame opCode events enough => cases hfound
  | header finalFrame' opCode' within =>
    injection hfound with hscanner
    injection hscanner with _ _ hnone
    rw [eq_comm, List.take_eq_nil_iff] at hnone
    obtain rfl : count = first.length := by
      have : count - first.length = 0 := hnone.resolve_right (List.cons_ne_nil _ _)
      omega
    exact List.drop_left

end Scanner

namespace WSFrameParser

/-- Calls of the parser on a stream, none of which completes a frame or reports an error, the
bytes they have consumed and the parser they leave. Each call is handed a buffer that
holds, from its start index on, a beginning of what is not consumed yet. -/
inductive Reads (parser : WSFrameParser) (stream : List UInt8) : ℕ → WSFrameParser → Prop
  | start : Reads parser stream 0 parser
  | call {consumed : ℕ} {reached : WSFrameParser} {buffer : List UInt8} {start : ℕ}
      {result : ParseResult} (earlier : Reads parser stream consumed reached)
      (seen : buffer.drop start <+: stream.drop consumed)
      (returned : reached.parse buffer start = .ok result)
      (pauses : result.completed = false ∧ result.error = none) :
      Reads parser stream (consumed + result.bytesConsumed) result.parser

/-- What holds after such calls. -/
structure Scanned (parser : WSFrameParser) (stream : List UInt8) (consumed : ℕ)
    (reached : WSFrameParser) : Prop where
  bound : consumed ≤ stream.length
  wf : reached.Wf
  scanned : scan parser.scanner (stream.take consumed) = (reached.scanner, [])
  /-- A parser is stuck when it has seen a length of zero and not the mask. -/
  stuck : reached.Stuck → ∃ seen, seen <+: stream.drop consumed ∧ LengthIsZero seen

/-- What a call sees of a stream is what there is, as far as it goes. -/
theorem take_seen {seen unread : List UInt8} (hseen : seen <+: unread) {count : ℕ}
    (hcount : count ≤ seen.length) : seen.take count = unread.take count := by
  obtain ⟨tail, rfl⟩ := hseen
  rw [List.take_append_of_le_length hcount]

theorem drop_seen {seen unread : List UInt8} (hseen : seen <+: unread) {count : ℕ}
    (hcount : count ≤ seen.length) : seen.drop count <+: unread.drop count := by
  obtain ⟨tail, rfl⟩ := hseen
  rw [List.drop_append_of_le_length hcount]
  exact List.prefix_append _ _

/-- The calls follow the scanner. -/
theorem Reads.scanned {parser : WSFrameParser} {stream : List UInt8} (hwf : parser.Wf)
    (hfree : ¬ parser.Stuck) {consumed : ℕ} {reached : WSFrameParser}
    (hreads : Reads parser stream consumed reached) : Scanned parser stream consumed reached := by
  induction hreads with
  | start => exact ⟨Nat.zero_le _, hwf, rfl, fun h => absurd h hfree⟩
  | @call consumed reached buffer start result earlier seen returned pauses ih =>
    by_cases hstuck : reached.Stuck
    · rw [parse_stuck ih.wf hstuck] at returned
      cases returned
      cases pauses.1
    · obtain ⟨result', hparse, houtcome⟩ := parse_outcome buffer start ih.wf hstuck
      obtain rfl : result = result' := Except.ok.inj (returned.symm.trans hparse)
      cases houtcome with
      | error error ended => simp [ended.2.1] at pauses
      | completed ended => simp [ended.1] at pauses
      | paused ended count scanned left waiting =>
        have hlength := count.trans seen.length_le
        rw [List.length_drop] at hlength
        constructor
        · have := ih.bound
          omega
        · exact left
        · rw [scan_take_add ih.scanned, ← take_seen seen count, scanned]
        · intro hnext
          rcases waiting with ⟨_, hnot⟩ | ⟨_, _, hzero⟩
          · exact absurd hnext hnot
          · refine ⟨_, ?_, hzero.mp hnext⟩
            rw [← List.drop_drop]
            exact drop_seen seen count

/-- A parser that is about to read a length, at the beginning of a frame or behind its first
byte. A stuck parser is one that has seen the length already. -/
def ReachesLength (parser : WSFrameParser) (first : List UInt8) : Prop :=
  parser.Wf ∧ ¬ parser.Stuck ∧
    ((parser.state = .initial ∧ ∃ byte finalFrame opCode, first = [byte] ∧
      readFirstByte byte = .ok (finalFrame, opCode)) ∨
    (parser.state = .opCodeParsed ∧ first = []))

/-- A call takes a length: it stores no other one with the mask, and it completes the frame
only with a payload of this length, all of which it has seen. -/
structure Takes (length : ℕ) (mask payload : List UInt8) (result : ParseResult) : Prop where
  stored : result.parser.state = .lengthParsed → result.parser.payloadLength = length
  completed : result.completed = true → result.parser.payloadLength = length ∧
    length ≤ payload.length ∧ result.parser.frame.payload = unmask mask 0 (payload.take length)

section Header

variable {parser : WSFrameParser} {first rest : List UInt8} {second : UInt8}

theorem ReachesLength.progress (hreaches : parser.ReachesLength first)
    (hmask : isMasked second = true) (hfull : headerSize second ≤ rest.length + 1) (count : ℕ) :
    FrameProgress first second rest count
      (scan parser.scanner ((first ++ second :: rest).take count)) := by
  obtain ⟨_, _, ⟨hstate, byte, finalFrame, opCode, rfl, hbyte⟩ | ⟨hstate, rfl⟩⟩ := hreaches
  · rw [scanner_initial hstate]
    have hfirst : scan .start [byte] = (.header finalFrame opCode [], []) := by
      rw [scan_start_ok hbyte]
      rfl
    cases count with
    | zero => exact .start (by simp)
    | succ count =>
      rw [Nat.add_comm]
      exact scan_progress hfirst hmask hfull count
  · rw [scanner_opCodeParsed hstate, ← Nat.zero_add count]
    exact scan_progress rfl hmask hfull count

/-- A reached parser that is stuck has seen the length of this header. -/
theorem ReachesLength.length_of_stuck (hreaches : parser.ReachesLength first)
    (hmask : isMasked second = true) (hfull : headerSize second ≤ rest.length + 1)
    {consumed : ℕ} {reached : WSFrameParser}
    (hscanned : Scanned parser (first ++ second :: rest) consumed reached)
    (hstuck : reached.Stuck) : headerLength second rest = 0 := by
  have hprogress := hreaches.progress hmask hfull consumed
  rw [hscanned.scanned, scanner_opCodeParsed hstuck.1] at hprogress
  obtain ⟨seen, hseen, hzero⟩ := hscanned.stuck hstuck
  rw [hprogress.at_header] at hseen
  cases seen with
  | nil => exact hzero.elim
  | cons byte bytes =>
    obtain ⟨rfl, tail, rfl⟩ := List.cons_prefix_cons.mp hseen
    rw [headerLength_append hzero.1, hzero.2]

/-- Every call on a frame takes the length that the header gives. -/
theorem ReachesLength.takes (hreaches : parser.ReachesLength first)
    (hmask : isMasked second = true) (hfull : headerSize second ≤ rest.length + 1)
    {consumed : ℕ} {reached : WSFrameParser}
    (hreads : Reads parser (first ++ second :: rest) consumed reached)
    {buffer : List UInt8} {start : ℕ}
    (hseen : buffer.drop start <+: (first ++ second :: rest).drop consumed) :
    ∃ result, reached.parse buffer start = .ok result ∧ result.error = none ∧
      Takes (headerLength second rest) (headerMask second rest)
        (rest.drop (headerSize second - 1)) result := by
  have hscanned := hreads.scanned hreaches.1 hreaches.2.1
  by_cases hstuck : reached.Stuck
  · have hzero := hreaches.length_of_stuck hmask hfull hscanned hstuck
    refine ⟨_, parse_stuck hscanned.wf hstuck, rfl, ?_, ?_⟩
    · intro hstate
      exact absurd (hstuck.1.symm.trans hstate) (by decide)
    · intro _
      rw [hzero]
      exact ⟨hstuck.2, Nat.zero_le _, hscanned.wf.payload_eq_nil hstuck.1⟩
  · obtain ⟨result, hparse, houtcome⟩ := parse_outcome buffer start hscanned.wf hstuck
    refine ⟨result, hparse, ?_⟩
    -- What the call consumes is a part of the frame.
    have hpart : ∀ count ≤ (buffer.drop start).length, FrameProgress first second rest
        (consumed + count) (scan reached.scanner ((buffer.drop start).take count)) := by
      intro count hcount
      rw [take_seen hseen hcount, ← scan_take_add hscanned.scanned]
      exact hreaches.progress hmask hfull (consumed + count)
    cases houtcome with
    | error error returned scanned left =>
      have hprogress := hpart _ le_rfl
      rw [List.take_length, scanned] at hprogress
      cases hprogress
    | completed returned count scanned left =>
      have hprogress := hpart _ count.2
      have hpayload := left.payload
      rw [scanned] at hprogress
      generalize hframe : result.parser.frame = frame at hprogress hpayload
      cases hprogress with
      | complete scanner finalFrame opCode events enough =>
        have hlength : result.parser.payloadLength = headerLength second rest := by
          rw [hpayload, length_unmask, List.length_take, Nat.min_eq_left enough]
        exact ⟨returned.2, fun _ => hlength, fun _ => ⟨hlength, enough, congrArg WSFrame.payload hframe⟩⟩
    | paused returned count scanned left waiting =>
      have hprogress := hpart _ count
      rw [scanned] at hprogress
      refine ⟨returned.2, ?_, ?_⟩
      · intro hstate
        have hfound := scanner_lengthParsed hstate
        have hmore := left.payload_lt hstate
        generalize result.parser.scanner = found at hprogress hfound
        cases hprogress with
        | start before => cases hfound
        | header finalFrame opCode within => cases hfound
        | body finalFrame opCode payload =>
          injection hfound with _ _ hlength
          omega
      · intro hcompleted
        rw [returned.1] at hcompleted
        cases hcompleted

/-- A call that sees the whole header stores its length, or completes the frame. -/
theorem ReachesLength.reads_header (hreaches : parser.ReachesLength first)
    (hmask : isMasked second = true) (hfull : headerSize second ≤ rest.length + 1)
    {result : ParseResult} (hparse : parser.parse (first ++ second :: rest) 0 = .ok result)
    (hfine : result.error = none) :
    result.completed = true ∨ result.parser.state = .lengthParsed := by
  obtain ⟨result', hparse', houtcome⟩ :=
    parse_outcome (first ++ second :: rest) 0 hreaches.1 hreaches.2.1
  obtain rfl : result = result' := Except.ok.inj (hparse.symm.trans hparse')
  rw [List.drop_zero] at houtcome
  cases houtcome with
  | error error returned scanned left =>
    rw [returned.2.1] at hfine
    cases hfine
  | completed returned count scanned left => exact .inl returned.1
  | paused returned count scanned left waiting =>
    right
    have hprogress := hreaches.progress hmask hfull result.bytesConsumed
    rw [scanned] at hprogress
    cases hstate : result.parser.state with
    | lengthParsed => rfl
    | initial =>
      rcases waiting with ⟨hend, _⟩ | ⟨_, hopCode, _⟩
      · rw [scanner_initial hstate] at hprogress
        cases hprogress with
        | start before =>
          rw [List.drop_eq_nil_iff, List.length_append] at hend
          omega
      · rw [hstate] at hopCode
        cases hopCode
    | opCodeParsed =>
      rw [scanner_opCodeParsed hstate] at hprogress
      rcases waiting with ⟨hend, _⟩ | ⟨hshort, _⟩
      · rw [hprogress.at_header] at hend
        cases hend
      · rw [hprogress.at_header] at hshort
        exact absurd hshort.2 (Nat.not_lt.mpr hfull)

end Header

/-- The second byte of a masked frame with a length of eight bytes, the length and the mask. -/
def longHeader (length : UInt64) (mask : List UInt8) : List UInt8 :=
  0xFF :: (BigEndian.bytes 8 length.toNat ++ mask)

/-- A length of eight bytes is not misread: after any calls on a stream that begins with such a
header, a further call reports an error or takes the length that the field says. -/
def ReadsLength (parser : WSFrameParser) (first : List UInt8) (length : UInt64)
    (mask following : List UInt8) : Prop :=
  ∀ consumed reached buffer start,
    Reads parser (first ++ longHeader length mask ++ following) consumed reached →
    buffer.drop start <+: (first ++ longHeader length mask ++ following).drop consumed →
    ∃ result, reached.parse buffer start = .ok result ∧
      (result.error.isSome = true ∨ Takes length.toNat mask following result)

section LongHeader

variable (length : UInt64) {mask : List UInt8} (following : List UInt8)

/-- The parser reads the last four bytes of the length. -/
theorem headerLength_long (mask : List UInt8) :
    headerLength 0xFF (BigEndian.bytes 8 length.toNat ++ mask ++ following) =
      length.toNat % 2 ^ 32 := by
  have hfield : ((BigEndian.bytes 8 length.toNat ++ mask ++ following).drop 4).take 4 =
      BigEndian.bytes 4 length.toNat := by
    rw [List.append_assoc, List.drop_append_of_le_length (by simp),
      List.take_append_of_le_length (by simp)]
    show ((BigEndian.bytes (4 + 4) length.toNat).drop 4).take 4 = _
    rw [BigEndian.drop_bytes, List.take_of_length_le (by simp)]
  rw [headerLength, if_neg (by decide), if_pos (by decide), hfield, BigEndian.value_bytes_eq_mod]
  rfl

theorem headerMask_long (hmask : mask.length = maskSize) :
    headerMask 0xFF (BigEndian.bytes 8 length.toNat ++ mask ++ following) = mask := by
  have hbehind : (BigEndian.bytes 8 length.toNat ++ (mask ++ following)).drop 8 =
      mask ++ following := List.drop_left' (by simp)
  rw [List.append_assoc, headerMask]
  show ((BigEndian.bytes 8 length.toNat ++ (mask ++ following)).drop 8).take maskSize = mask
  rw [hbehind, List.take_left' hmask]

theorem drop_long (hmask : mask.length = maskSize) :
    (BigEndian.bytes 8 length.toNat ++ mask ++ following).drop (headerSize 0xFF - 1) =
      following := by
  apply List.drop_left'
  rw [List.length_append, BigEndian.length_bytes, hmask]
  rfl

theorem headerSize_long (hmask : mask.length = maskSize) :
    headerSize 0xFF ≤ (BigEndian.bytes 8 length.toNat ++ mask ++ following).length + 1 := by
  have hsize : headerSize 0xFF = 8 + maskSize + 1 := by decide
  rw [List.length_append, List.length_append, BigEndian.length_bytes, hmask, hsize]
  omega

theorem long_stream (first mask : List UInt8) : first ++ longHeader length mask ++ following =
    first ++ 0xFF :: (BigEndian.bytes 8 length.toNat ++ mask ++ following) := by
  rw [List.append_assoc]
  rfl

variable {parser : WSFrameParser} {first : List UInt8} {length following}

/-- Every call takes what the last four bytes of the length say. -/
theorem ReachesLength.takes_long (hreaches : parser.ReachesLength first)
    (hmask : mask.length = maskSize) {consumed : ℕ} {reached : WSFrameParser}
    {buffer : List UInt8} {start : ℕ}
    (hreads : Reads parser (first ++ longHeader length mask ++ following) consumed reached)
    (hseen : buffer.drop start <+: (first ++ longHeader length mask ++ following).drop consumed) :
    ∃ result, reached.parse buffer start = .ok result ∧ result.error = none ∧
      Takes (length.toNat % 2 ^ 32) mask following result := by
  rw [long_stream] at hreads hseen
  have htakes := hreaches.takes (by decide) (headerSize_long length following hmask) hreads hseen
  rwa [headerLength_long, headerMask_long length following hmask,
    drop_long length following hmask] at htakes

end LongHeader

/-- Whatever the parser that reaches it, its mask and the bytes behind it, a header with a length of
eight bytes is not misread exactly when the length is less than `2 ^ 32`. -/
theorem readsLength_iff (parser : WSFrameParser) (first : List UInt8) (length : UInt64)
    (mask following : List UInt8) (hreaches : parser.ReachesLength first)
    (hmask : mask.length = maskSize) :
    ReadsLength parser first length mask following ↔ length.toNat < 2 ^ 32 := by
  constructor
  · intro hreads
    obtain ⟨result, hparse, hresult⟩ := hreads 0 parser _ 0 .start List.prefix_rfl
    obtain ⟨result', hparse', hfine, htakes⟩ := hreaches.takes_long hmask .start List.prefix_rfl
    obtain rfl : result = result' := Except.ok.inj (hparse.symm.trans hparse')
    have hright : Takes length.toNat mask following result :=
      hresult.resolve_left (by simp [hfine])
    -- The length stored is the one in the last four bytes.
    have hsame : length.toNat = length.toNat % 2 ^ 32 := by
      rw [long_stream] at hparse
      rcases hreaches.reads_header (by decide) (headerSize_long length following hmask) hparse
        hfine with hcompleted | hstate
      · exact_mod_cast (hright.completed hcompleted).1.symm.trans (htakes.completed hcompleted).1
      · exact_mod_cast (hright.stored hstate).symm.trans (htakes.stored hstate)
    rw [hsame]
    exact Nat.mod_lt _ (by decide)
  · intro hshort consumed reached buffer start hreads hseen
    obtain ⟨result, hparse, _, htakes⟩ := hreaches.takes_long hmask hreads hseen
    rw [Nat.mod_eq_of_lt hshort] at htakes
    exact ⟨result, hparse, .inr htakes⟩

/-- A binary frame of 65536 bytes, read by a fresh parser. -/
theorem readsLength_iff_binary :
    ReadsLength {} [0x82] 65536 [1, 2, 3, 4] [] ↔ (65536 : UInt64).toNat < 2 ^ 32 :=
  readsLength_iff {} [0x82] 65536 [1, 2, 3, 4] []
    ⟨wf_fresh, by decide, .inl ⟨rfl, 0x82, true, .binary, rfl, rfl⟩⟩ rfl

/-- The header of a frame of `2 ^ 32` bytes is taken for a whole frame without payload. -/
theorem not_readsLength_four_gigabytes :
    ¬ ReadsLength {} [0x82] 4294967296 [1, 2, 3, 4] [0x89, 0x80, 5, 6, 7, 8] := by
  intro hreads
  obtain ⟨result, hparse, hresult⟩ := hreads 0 {} _ 0 .start List.prefix_rfl
  have hwrong : (({} : WSFrameParser).parse ([0x82] ++ longHeader 4294967296 [1, 2, 3, 4] ++
      [0x89, 0x80, 5, 6, 7, 8]) 0).map (fun result => (result.completed, result.error,
        result.bytesConsumed, result.parser.payloadLength)) = .ok (true, none, 14, 0) := by
    decide +kernel
  rw [hparse] at hwrong
  obtain ⟨hcompleted, hfine, _, hempty⟩ : result.completed = true ∧ result.error = none ∧
      result.bytesConsumed = 14 ∧ result.parser.payloadLength = 0 := by
    simpa [Except.map] using hwrong
  rcases hresult with herror | htakes
  · rw [hfine] at herror
    cases herror
  · have hlength := (htakes.completed hcompleted).1
    rw [hempty] at hlength
    revert hlength
    decide

/-- The first bytes of its payload are handed over as a ping. -/
example : WSSocketProcessor.recordedCalls
    [[0x82] ++ longHeader 4294967296 [1, 2, 3, 4] ++ [0x89, 0x80, 5, 6, 7, 8]] =
      .ok [.received ⟨true, .binary, []⟩, .received ⟨true, .ping, []⟩] := by
  decide +kernel

end WSFrameParser

end KituraWebSocket
