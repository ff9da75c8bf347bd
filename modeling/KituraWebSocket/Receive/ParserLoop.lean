/-
# One call of the parser

A parser between two calls stands for a scanner state, and a call moves it as the
scanner moves over the bytes the call consumes. `parse_outcome` lists the ways a
call can end: an error, a complete frame, or a pause for more bytes.

One state has no counterpart. A header that was cut inside the mask leaves its
length stored; when that length is zero the next call finds it equal to the
length of the empty payload, and returns without looking at a byte (`Stuck`).
-/

import KituraWebSocket.Receive.ParserParts

namespace KituraWebSocket

namespace WSFrameParser

open Scanner

/-- The scanner state that a parser stands for. -/
def scanner (parser : WSFrameParser) : Scanner :=
  match parser.state with
  | .initial => .start
  | .opCodeParsed => .header parser.frame.finalFrame parser.frame.opCode []
  | .lengthParsed =>
    .body parser.frame.finalFrame parser.frame.opCode parser.payloadLength.toNat parser.mask
      parser.frame.payload

/-- What the fields hold in each state of the parser. -/
def FieldsFit (parser : WSFrameParser) : Prop :=
  match parser.state with
  | .initial => parser.payloadLength = -1 ∧ parser.frame.payload = []
  | .opCodeParsed => parser.frame.payload = []
  | .lengthParsed => (parser.frame.payload.length : ℤ) < parser.payloadLength

/-- A parser between two calls. -/
structure Wf (parser : WSFrameParser) : Prop where
  mask : parser.mask.length = maskSize
  fields : parser.FieldsFit

/-- A parser that takes the payload of the frame at hand for complete before it has
seen the mask. -/
def Stuck (parser : WSFrameParser) : Prop :=
  parser.state = .opCodeParsed ∧ parser.payloadLength = 0

instance (parser : WSFrameParser) : Decidable parser.Stuck := by
  unfold Stuck
  infer_instance

/-- A parser that has a complete frame. -/
structure Complete (parser : WSFrameParser) : Prop where
  mask : parser.mask.length = maskSize
  payload : parser.payloadLength = parser.frame.payload.length

theorem wf_fresh : Wf {} := ⟨rfl, rfl, rfl⟩

theorem Complete.wf_reset {parser : WSFrameParser} (h : parser.Complete) : parser.reset.Wf :=
  ⟨h.mask, rfl, rfl⟩

theorem not_stuck_reset (parser : WSFrameParser) : ¬ parser.reset.Stuck := fun h => by
  cases h.1

theorem scanner_initial {parser : WSFrameParser} (hstate : parser.state = .initial) :
    parser.scanner = .start := by
  simp [scanner, hstate]

theorem scanner_opCodeParsed {parser : WSFrameParser} (hstate : parser.state = .opCodeParsed) :
    parser.scanner = .header parser.frame.finalFrame parser.frame.opCode [] := by
  simp [scanner, hstate]

theorem scanner_lengthParsed {parser : WSFrameParser} (hstate : parser.state = .lengthParsed) :
    parser.scanner = .body parser.frame.finalFrame parser.frame.opCode
      parser.payloadLength.toNat parser.mask parser.frame.payload := by
  simp [scanner, hstate]

/-- Before the length there is no payload. -/
theorem Wf.payload_eq_nil {parser : WSFrameParser} (hwf : parser.Wf)
    (hstate : parser.state = .opCodeParsed) : parser.frame.payload = [] := by
  simpa only [FieldsFit, hstate] using hwf.fields

/-- After the length some of the payload is missing. -/
theorem Wf.payload_lt {parser : WSFrameParser} (hwf : parser.Wf)
    (hstate : parser.state = .lengthParsed) :
    (parser.frame.payload.length : ℤ) < parser.payloadLength := by
  simpa only [FieldsFit, hstate] using hwf.fields

/-- Between two calls nothing of a length is counted as seen. -/
theorem scanner_ne_header (parser : WSFrameParser) (finalFrame : Bool) (opCode : FrameOpcode)
    (second : UInt8) (rest : List UInt8) :
    parser.scanner ≠ .header finalFrame opCode (second :: rest) := by
  rw [scanner]
  split <;> simp

theorem scanner_ne_failed (parser : WSFrameParser) : parser.scanner ≠ .failed := by
  rw [scanner]
  split <;> simp

/-- Unless it is stuck, a parser between two calls is not done with its frame. -/
theorem Wf.payloadLength_ne {parser : WSFrameParser} (hwf : parser.Wf) (hfree : ¬ parser.Stuck) :
    parser.payloadLength ≠ parser.frame.payload.length := by
  have hfields := hwf.fields
  unfold FieldsFit at hfields
  unfold Stuck at hfree
  split at hfields
  · rw [hfields.1, hfields.2]
    decide
  · rename_i hstate
    rw [hfields]
    exact fun h => hfree ⟨hstate, by simpa using h⟩
  · omega

section Round

variable {bytes unread : List UInt8} {parsing : ParseState}

/-- An error on the first byte. -/
theorem parseRound_initial_error {byte : UInt8} {rest : List UInt8} {error : WebSocketError}
    (hunread : bytes.drop parsing.byteIndex = byte :: rest) (hwf : parsing.parser.Wf)
    (hstate : parsing.parser.state = .initial) (hbyte : readFirstByte byte = .error error) :
    ∃ parser, parseRound bytes parsing = .ok (.inr ⟨false, some error, 0, parser⟩) ∧
      parser.Wf ∧ parser.state = .initial := by
  have hfree : ¬ parsing.parser.Stuck := fun h => by simp [h.1] at hstate
  have hget : bytes[parsing.byteIndex]? = some byte := by simpa using getElem?_of_drop hunread 0
  obtain ⟨finalFrame, hparse⟩ := parseOpCode_error parsing.parser hget hbyte
  have hlt := lt_length_of_drop hunread (List.cons_ne_nil _ _)
  refine ⟨{ parsing.parser with
    frame := { parsing.parser.frame with finalFrame := finalFrame } }, ?_, ⟨hwf.mask, ?_⟩, hstate⟩
  · rw [parseRound, if_pos ⟨hlt, hwf.payloadLength_ne hfree⟩]
    simp only [hstate, hparse]
    rfl
  · simpa only [FieldsFit, hstate] using hwf.fields

/-- A legal first byte. -/
theorem parseRound_initial_ok {byte : UInt8} {rest : List UInt8} {finalFrame : Bool}
    {opCode : FrameOpcode} (hunread : bytes.drop parsing.byteIndex = byte :: rest)
    (hwf : parsing.parser.Wf) (hstate : parsing.parser.state = .initial)
    (hbyte : readFirstByte byte = .ok (finalFrame, opCode)) :
    ∃ parser, parseRound bytes parsing = .ok (.inl (parsing.advance 1 parser .opCodeParsed)) ∧
      (parsing.advance 1 parser .opCodeParsed).parser.Wf ∧
      ¬ (parsing.advance 1 parser .opCodeParsed).parser.Stuck ∧
      (parsing.advance 1 parser .opCodeParsed).parser.scanner = .header finalFrame opCode [] := by
  have hfree : ¬ parsing.parser.Stuck := fun h => by simp [h.1] at hstate
  have hget : bytes[parsing.byteIndex]? = some byte := by simpa using getElem?_of_drop hunread 0
  have hfields := hwf.fields
  simp only [FieldsFit, hstate] at hfields
  have hlt := lt_length_of_drop hunread (List.cons_ne_nil _ _)
  refine ⟨{ parsing.parser with
    frame := { parsing.parser.frame with finalFrame := finalFrame, opCode := opCode } },
    ?_, ⟨hwf.mask, hfields.2⟩, ?_, rfl⟩
  · rw [parseRound, if_pos ⟨hlt, hwf.payloadLength_ne hfree⟩]
    simp only [hstate, parseOpCode_ok hget hbyte, ok_bind, pure_eq_ok]
    rfl
  · simp [Stuck, ParseState.advance, hfields.1]

/-- A second byte without the mask bit. -/
theorem parseRound_unmasked {second : UInt8} {rest : List UInt8}
    (hunread : bytes.drop parsing.byteIndex = second :: rest) (hwf : parsing.parser.Wf)
    (hfree : ¬ parsing.parser.Stuck) (hstate : parsing.parser.state = .opCodeParsed)
    (hmask : isMasked second = false) :
    parseRound bytes parsing =
      .ok (.inr ⟨false, some .unmaskedFrame, 0, parsing.parser.noteLength second rest⟩) := by
  have hlt := lt_length_of_drop hunread (List.cons_ne_nil _ _)
  rw [parseRound, if_pos ⟨hlt, hwf.payloadLength_ne hfree⟩]
  simp [hstate, parseMaskAndLength_unmasked hunread hmask]

/-- A length and mask that are cut short. -/
theorem parseRound_short {second : UInt8} {rest : List UInt8}
    (hunread : bytes.drop parsing.byteIndex = second :: rest) (hwf : parsing.parser.Wf)
    (hfree : ¬ parsing.parser.Stuck) (hstate : parsing.parser.state = .opCodeParsed)
    (hshort : HeaderShort (second :: rest)) :
    parseRound bytes parsing =
      .ok (.inr ⟨false, none, parsing.bytesParsed, parsing.parser.noteLength second rest⟩) := by
  have hlt := lt_length_of_drop hunread (List.cons_ne_nil _ _)
  rw [parseRound, if_pos ⟨hlt, hwf.payloadLength_ne hfree⟩]
  simp [hstate, parseMaskAndLength_masked hunread hshort.1 hwf.mask, Nat.not_le.mpr hshort.2]

/-- A length and mask that are all there. -/
theorem parseRound_header {second : UInt8} {rest : List UInt8}
    (hunread : bytes.drop parsing.byteIndex = second :: rest) (hwf : parsing.parser.Wf)
    (hfree : ¬ parsing.parser.Stuck) (hstate : parsing.parser.state = .opCodeParsed)
    (hmask : isMasked second = true) (hfull : headerSize second ≤ rest.length + 1) :
    parseRound bytes parsing = .ok (.inl (parsing.advance (headerSize second)
      { parsing.parser.noteLength second rest with mask := headerMask second rest }
      .lengthParsed)) := by
  have hlt := lt_length_of_drop hunread (List.cons_ne_nil _ _)
  have hpos : headerSize second ≠ 0 := by
    have := lengthSize_pos second
    simp only [headerSize]
    omega
  rw [parseRound, if_pos ⟨hlt, hwf.payloadLength_ne hfree⟩]
  simp [hstate, parseMaskAndLength_masked hunread hmask hwf.mask, hfull, hpos]

/-- A piece of the payload. -/
theorem parseRound_payload (hunread : bytes.drop parsing.byteIndex = unread) (hne : unread ≠ [])
    (hwf : parsing.parser.Wf) (hstate : parsing.parser.state = .lengthParsed) :
    let count := (parsing.parser.bytesToUnmask parsing.byteIndex bytes.length).toNat
    parseRound bytes parsing = .ok (.inl (parsing.advance count { parsing.parser with
      frame := { parsing.parser.frame with
        payload := parsing.parser.frame.payload ++
          unmask parsing.parser.mask parsing.parser.frame.payload.length (unread.take count) } }
      .lengthParsed)) := by
  intro count
  have hfree : ¬ parsing.parser.Stuck := fun h => by simp [h.1] at hstate
  have hlt := lt_length_of_drop hunread hne
  rw [parseRound, if_pos ⟨hlt, hwf.payloadLength_ne hfree⟩]
  simp only [hstate, parsePayload_eq hunread hwf.mask, ok_bind, pure_eq_ok]
  rfl

/-- The end of the loop. -/
theorem parseRound_exit
    (hexit : ¬ (parsing.byteIndex < bytes.length ∧
      parsing.parser.payloadLength ≠ parsing.parser.frame.payload.length)) :
    parseRound bytes parsing = .ok (.inr
      ⟨parsing.parser.payloadLength == parsing.parser.frame.payload.length, none,
        parsing.bytesParsed, parsing.parser⟩) := by
  rw [parseRound, if_neg hexit, pure_eq_ok]

end Round

/-- How a call can end, told in terms of the bytes not yet read when it starts. -/
inductive ParseOutcome (parser : WSFrameParser) (unread : List UInt8) (result : ParseResult) : Prop
  | /-- With an error. -/
    error (error : WebSocketError)
      (returned : result.completed = false ∧ result.error = some error ∧ result.bytesConsumed = 0)
      (scanned : scan parser.scanner unread = (.failed, [.error error]))
      (left : result.parser.Wf ∧ ¬ result.parser.Stuck ∧ result.parser.state ≠ .lengthParsed)
  | /-- With a complete frame. -/
    completed
      (returned : result.completed = true ∧ result.error = none)
      (consumed : 0 < result.bytesConsumed ∧ result.bytesConsumed ≤ unread.length)
      (scanned : scan parser.scanner (unread.take result.bytesConsumed) =
        (.start, [.frame result.parser.frame]))
      (left : result.parser.Complete)
  | /-- Waiting for bytes, at the end of the buffer or before a header that is cut short. -/
    paused
      (returned : result.completed = false ∧ result.error = none)
      (consumed : result.bytesConsumed ≤ unread.length)
      (scanned : scan parser.scanner (unread.take result.bytesConsumed) =
        (result.parser.scanner, []))
      (left : result.parser.Wf)
      (waiting : (unread.drop result.bytesConsumed = [] ∧ ¬ result.parser.Stuck) ∨
        (HeaderShort (unread.drop result.bytesConsumed) ∧ result.parser.state = .opCodeParsed ∧
          (result.parser.Stuck ↔ LengthIsZero (unread.drop result.bytesConsumed))))

/-- What the loop over the parts of a frame keeps. -/
inductive ParseInvariant (parser : WSFrameParser) (unread : List UInt8) (start : ℕ)
    (parsing : ParseState) : Prop
  | /-- The frame is not complete. -/
    within (index : parsing.byteIndex = start + parsing.bytesParsed)
      (bound : parsing.bytesParsed ≤ unread.length)
      (wf : parsing.parser.Wf) (free : ¬ parsing.parser.Stuck)
      (scanned : scan parser.scanner (unread.take parsing.bytesParsed) =
        (parsing.parser.scanner, []))
  | /-- The frame is complete. -/
    done (bound : 0 < parsing.bytesParsed ∧ parsing.bytesParsed ≤ unread.length)
      (complete : parsing.parser.Complete)
      (scanned : scan parser.scanner (unread.take parsing.bytesParsed) =
        (.start, [.frame parsing.parser.frame]))

section Call

variable {parser : WSFrameParser} {bytes unread : List UInt8} {start : ℕ} {parsing : ParseState}

/-- A round either goes on within the invariant, consuming bytes, or ends the call. -/
def RoundGoesWell (parser : WSFrameParser) (bytes unread : List UInt8) (start : ℕ)
    (parsing : ParseState) : Prop :=
  (∃ next, parseRound bytes parsing = .ok (.inl next) ∧
    ParseInvariant parser unread start next ∧
    unread.length - next.bytesParsed < unread.length - parsing.bytesParsed) ∨
  ∃ result, parseRound bytes parsing = .ok (.inr result) ∧ ParseOutcome parser unread result

theorem round_initial {byte : UInt8} {rest : List UInt8}
    (hunread : bytes.drop parsing.byteIndex = byte :: rest)
    (hrest : unread.drop parsing.bytesParsed = byte :: rest)
    (index : parsing.byteIndex = start + parsing.bytesParsed)
    (bound : parsing.bytesParsed < unread.length) (wf : parsing.parser.Wf)
    (scanned : scan parser.scanner (unread.take parsing.bytesParsed) =
      (parsing.parser.scanner, []))
    (hstate : parsing.parser.state = .initial) :
    RoundGoesWell parser bytes unread start parsing := by
  have hscanner := scanner_initial hstate
  cases hbyte : readFirstByte byte with
  | error error =>
    obtain ⟨failed, hround, hwf, hinitial⟩ := parseRound_initial_error hunread wf hstate hbyte
    refine .inr ⟨_, hround, .error error ⟨rfl, rfl, rfl⟩ ?_ ⟨hwf, ?_, ?_⟩⟩
    · rw [scan_of_take scanned, hrest, hscanner, scan_start_error hbyte]
      rfl
    · exact fun h => absurd (hinitial.symm.trans h.1) (by decide)
    · simp [hinitial]
  | ok legal =>
    obtain ⟨finalFrame, opCode⟩ := legal
    obtain ⟨next, hround, hwf, hfree, hnext⟩ := parseRound_initial_ok hunread wf hstate hbyte
    refine .inl ⟨_, hround, .within ?_ ?_ hwf hfree ?_, ?_⟩
    · simp only [ParseState.advance, index]
      omega
    · simp only [ParseState.advance]
      omega
    · rw [hnext]
      simp only [ParseState.advance]
      rw [scan_take_add scanned, hrest, hscanner, List.take_succ_cons, scan_start_ok hbyte]
      simp
    · simp only [ParseState.advance]
      omega

theorem wf_noteLength {parser : WSFrameParser} (hwf : parser.Wf)
    (hstate : parser.state = .opCodeParsed) (second : UInt8) (rest : List UInt8) :
    (parser.noteLength second rest).Wf :=
  ⟨hwf.mask, by simpa only [FieldsFit, noteLength, hstate] using hwf.payload_eq_nil hstate⟩

/-- A whole header, as the scanner reads it behind what it has read before. -/
theorem scan_take_header {second : UInt8} {rest : List UInt8} {consumed : ℕ}
    {finalFrame : Bool} {opCode : FrameOpcode} {scanner : Scanner}
    (hrest : unread.drop consumed = second :: rest)
    (hscan : scan scanner (unread.take consumed) = (.header finalFrame opCode [], []))
    (hmasked : isMasked second = true) (hfull : headerSize second ≤ rest.length + 1) :
    scan scanner (unread.take (consumed + headerSize second)) =
      enterBody finalFrame opCode (headerLength second rest) (headerMask second rest) := by
  have hpos := lengthSize_pos second
  have hsize : headerSize second = lengthSize second + maskSize := rfl
  have htake : (second :: rest).take (headerSize second) =
      second :: rest.take (headerSize second - 1) :=
    List.take_cons (by omega)
  have htaken : (rest.take (headerSize second - 1)).length + 1 = headerSize second := by
    rw [List.length_take]
    omega
  have hkept := List.take_append_drop (headerSize second - 1) rest
  rw [scan_take_add hscan, hrest, htake, scan_header_full hmasked htaken, ← hkept,
    headerLength_append, headerMask_append, hkept]
  · omega
  · omega

section AtLength

variable {second : UInt8} {rest : List UInt8}
  (hunread : bytes.drop parsing.byteIndex = second :: rest)
  (hrest : unread.drop parsing.bytesParsed = second :: rest)
  (index : parsing.byteIndex = start + parsing.bytesParsed)
  (bound : parsing.bytesParsed < unread.length) (wf : parsing.parser.Wf)
  (free : ¬ parsing.parser.Stuck)
  (scanned : scan parser.scanner (unread.take parsing.bytesParsed) =
    (parsing.parser.scanner, []))
  (hstate : parsing.parser.state = .opCodeParsed)

include hunread hrest wf free scanned hstate

theorem round_unmasked (hmask : isMasked second = false) :
    RoundGoesWell parser bytes unread start parsing := by
  refine .inr ⟨_, parseRound_unmasked hunread wf free hstate hmask,
    .error .unmaskedFrame ⟨rfl, rfl, rfl⟩ ?_ ⟨wf_noteLength wf hstate second rest, ?_, ?_⟩⟩
  · rw [scan_of_take scanned, hrest, scanner_opCodeParsed hstate, scan_header_unmasked hmask]
    rfl
  · simpa [Stuck, noteLength, hmask] using free
  · simp [noteLength, hstate]

include bound

theorem round_short (hshort : HeaderShort (second :: rest)) :
    RoundGoesWell parser bytes unread start parsing := by
  refine .inr ⟨_, parseRound_short hunread wf free hstate hshort,
    .paused ⟨rfl, rfl⟩ bound.le ?_ (wf_noteLength wf hstate second rest) (.inr ⟨?_, ?_, ?_⟩)⟩
  · simpa [scanner, noteLength, hstate] using scanned
  · simpa only [hrest] using hshort
  · simpa [noteLength] using hstate
  · simp only [hrest, LengthIsZero, Stuck, noteLength, hstate, hshort.1, true_and]
    split
    · rename_i hfield
      simp [hfield]
    · rename_i hfield
      simp only [hfield, false_and, iff_false]
      exact fun h => free ⟨hstate, h⟩

include index

theorem round_header (hmask : isMasked second = true) (hfull : headerSize second ≤ rest.length + 1) :
    RoundGoesWell parser bytes unread start parsing := by
  have hpos := lengthSize_pos second
  have hpayload := wf.payload_eq_nil hstate
  have hlength : unread.length = parsing.bytesParsed + (rest.length + 1) := by
    have := congrArg List.length hrest
    simp only [List.length_drop, List.length_cons] at this
    omega
  have hfield : lengthSize second ≤ rest.length + 1 := by
    simp only [headerSize] at hfull
    omega
  rw [scanner_opCodeParsed hstate] at scanned
  have hheader := scan_take_header hrest scanned hmask hfull
  refine .inl ⟨_, parseRound_header hunread wf free hstate hmask hfull, ?_, ?_⟩
  · by_cases hzero : headerLength second rest = 0
    · refine .done ?_ ⟨length_headerMask hfull, ?_⟩ ?_
      · simp only [ParseState.advance, headerSize] at hfull ⊢
        omega
      · simp [ParseState.advance, noteLength, hmask, hfield, hzero, hpayload]
      · have hframe : parsing.parser.frame =
            ⟨parsing.parser.frame.finalFrame, parsing.parser.frame.opCode, []⟩ := by
          rw [← hpayload]
        rw [enterBody, if_pos hzero, ← hframe] at hheader
        exact hheader
    · refine .within ?_ ?_ ⟨length_headerMask hfull, ?_⟩ ?_ ?_
      · simp only [ParseState.advance, index]
        omega
      · simp only [ParseState.advance]
        omega
      · simp only [FieldsFit, ParseState.advance, noteLength, hmask, hfield, hpayload]
        simp
        omega
      · simp [Stuck, ParseState.advance]
      · simpa [ParseState.advance, enterBody, hzero, noteLength, hpayload, scanner, hmask,
          hfield] using hheader
  · simp only [ParseState.advance, headerSize] at hfull ⊢
    omega

/-- The round at the length has one of three outcomes. -/
theorem round_opCodeParsed : RoundGoesWell parser bytes unread start parsing := by
  cases hmask : isMasked second with
  | false => exact round_unmasked hunread hrest wf free scanned hstate hmask
  | true =>
    by_cases hfull : headerSize second ≤ rest.length + 1
    · exact round_header hunread hrest index bound wf free scanned hstate hmask hfull
    · exact round_short hunread hrest bound wf free scanned hstate ⟨hmask, by omega⟩

end AtLength

theorem round_lengthParsed (hunread : bytes.drop parsing.byteIndex = unread.drop parsing.bytesParsed)
    (index : parsing.byteIndex = start + parsing.bytesParsed)
    (bound : parsing.bytesParsed < unread.length) (wf : parsing.parser.Wf)
    (scanned : scan parser.scanner (unread.take parsing.bytesParsed) =
      (parsing.parser.scanner, []))
    (hstate : parsing.parser.state = .lengthParsed) :
    RoundGoesWell parser bytes unread start parsing := by
  have hne : unread.drop parsing.bytesParsed ≠ [] := by
    simpa [List.drop_eq_nil_iff] using bound
  have hmore := wf.payload_lt hstate
  have hlt := lt_length_of_drop hunread hne
  have hleft : bytes.length - parsing.byteIndex = unread.length - parsing.bytesParsed := by
    rw [length_eq_of_drop hunread, List.length_drop]
  have hround := parseRound_payload hunread hne wf hstate
  generalize hcount :
    (parsing.parser.bytesToUnmask parsing.byteIndex bytes.length).toNat = count at hround
  have hscanner := scanner_lengthParsed hstate
  have hpos : 0 < count := by
    simp only [← hcount, bytesToUnmask]
    omega
  have hwithin : parsing.bytesParsed + count ≤ unread.length := by
    simp only [← hcount, bytesToUnmask]
    omega
  have htaken : ((unread.drop parsing.bytesParsed).take count).length = count := by
    simp
    omega
  refine .inl ⟨_, hround, ?_, ?_⟩
  · by_cases hfull : parsing.parser.frame.payload.length + count =
        parsing.parser.payloadLength.toNat
    · refine .done ?_ ⟨wf.mask, ?_⟩ ?_
      · simp only [ParseState.advance]
        omega
      · simp only [ParseState.advance, List.length_append, length_unmask, htaken]
        omega
      · simp only [ParseState.advance]
        rw [scan_take_add scanned, hscanner, scan_body_full (by omega) (by omega)]
    · have hstill : parsing.parser.frame.payload.length + count <
          parsing.parser.payloadLength.toNat := by
        simp only [← hcount, bytesToUnmask] at hfull ⊢
        omega
      refine .within ?_ ?_ ⟨wf.mask, ?_⟩ ?_ ?_
      · simp only [ParseState.advance, index]
        omega
      · exact hwithin
      · simp only [FieldsFit, ParseState.advance, List.length_append, length_unmask, htaken]
        omega
      · simp [Stuck, ParseState.advance]
      · simp only [ParseState.advance]
        rw [scan_take_add scanned, hscanner, scan_body_short (by omega)]
        rfl
  · simp only [ParseState.advance]
    omega

/-- The invariant carries every round. -/
theorem ParseInvariant.round (hbytes : bytes.drop start = unread)
    (hinv : ParseInvariant parser unread start parsing) :
    RoundGoesWell parser bytes unread start parsing := by
  cases hinv with
  | within index bound wf free scanned =>
    have hunread : bytes.drop parsing.byteIndex = unread.drop parsing.bytesParsed := by
      rw [index, ← List.drop_drop, hbytes]
    by_cases hmore : parsing.bytesParsed < unread.length
    · cases hstate : parsing.parser.state with
      | initial =>
        obtain ⟨byte, rest, hrest⟩ : ∃ byte rest, unread.drop parsing.bytesParsed = byte :: rest :=
          ⟨_, _, List.drop_eq_getElem_cons hmore⟩
        exact round_initial (hunread.trans hrest) hrest index hmore wf scanned hstate
      | opCodeParsed =>
        obtain ⟨byte, rest, hrest⟩ : ∃ byte rest, unread.drop parsing.bytesParsed = byte :: rest :=
          ⟨_, _, List.drop_eq_getElem_cons hmore⟩
        exact round_opCodeParsed (hunread.trans hrest) hrest index hmore wf free scanned hstate
      | lengthParsed => exact round_lengthParsed hunread index hmore wf scanned hstate
    · have hdrop : unread.drop parsing.bytesParsed = [] := List.drop_eq_nil_iff.mpr (by omega)
      have hindex : ¬ parsing.byteIndex < bytes.length := by
        have := length_eq_of_drop hunread
        rw [hdrop, List.length_nil] at this
        omega
      refine .inr ⟨_, parseRound_exit fun h => hindex h.1, .paused ⟨?_, rfl⟩ bound scanned wf
        (.inl ⟨hdrop, free⟩)⟩
      simpa using wf.payloadLength_ne free
  | done bound complete scanned =>
    refine .inr ⟨_, parseRound_exit fun h => h.2 complete.payload, .completed ⟨?_, rfl⟩ bound
      scanned complete⟩
    simpa using complete.payload

/-- From a parser between two calls that is not stuck, a call returns, and in one of the three
ways. -/
theorem parse_outcome (bytes : List UInt8) (start : ℕ) (hwf : parser.Wf)
    (hfree : ¬ parser.Stuck) :
    ∃ result, parser.parse bytes start = .ok result ∧
      ParseOutcome parser (bytes.drop start) result :=
  BoundedLoop.iterate_total .outOfBudget (parseRound bytes)
    (ParseInvariant parser (bytes.drop start) start) (ParseOutcome parser (bytes.drop start))
    (fun parsing => (bytes.drop start).length - parsing.bytesParsed)
    (fun _ hinv => hinv.round rfl) _ _ (by simp)
    (.within rfl (Nat.zero_le _) hwf hfree rfl)

/-- A stuck parser returns at once, consuming nothing. -/
theorem parse_stuck (hwf : parser.Wf) (hstuck : parser.Stuck) :
    parser.parse bytes start = .ok ⟨true, none, 0, parser⟩ := by
  have hpayload := hwf.payload_eq_nil hstuck.1
  have hdone : parser.payloadLength = parser.frame.payload.length := by
    simp [hstuck.2, hpayload]
  rw [parse, BoundedLoop.iterate_done (parseRound_exit fun h => h.2 hdone)]
  simp [hdone]

end Call

end WSFrameParser

end KituraWebSocket
