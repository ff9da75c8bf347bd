/-
# Decoding a buffer

`process`, given a stream in one buffer, decodes it by the grammar of frames: it
delivers the longest sequence of complete frames, closes the connection when what
follows cannot start a frame, and otherwise returns false exactly when the buffer
ends inside the length and mask of a header.

A length field of eight bytes is read by its last four, hence the condition that
these fields are below 2^32.
-/

import KituraWebSocket.Grammar
import KituraWebSocket.Receive.ProcessLoop

namespace KituraWebSocket

open Scanner Grammar ClientFrame

theorem readFirstByte_firstByte {opCode : FrameOpcode} (hknown : opCode ≠ .unknown)
    (finalFrame : Bool) :
    readFirstByte (firstByte finalFrame opCode) = .ok (finalFrame, opCode) := by
  revert hknown
  cases finalFrame <;> cases opCode <;> decide

theorem readFirstByte_legal {first : UInt8} (hlegal : LegalFirst first) :
    ∃ finalFrame opCode, readFirstByte first = .ok (finalFrame, opCode) := by
  obtain ⟨finalFrame, opCode, hknown, rfl⟩ := hlegal.exists_firstByte
  exact ⟨finalFrame, opCode, readFirstByte_firstByte hknown finalFrame⟩

theorem readFirstByte_illegal {first : UInt8} (hillegal : ¬ LegalFirst first) :
    ∃ error, readFirstByte first = .error error := by
  have hbyte : ∀ byte : UInt8, ¬ LegalFirst byte → (readFirstByte byte).isOk = false := by
    apply forall_byte
    decide +kernel
  have hread := hbyte first hillegal
  cases h : readFirstByte first with
  | error error => exact ⟨error, rfl⟩
  | ok legal =>
    rw [h] at hread
    cases hread

theorem lengthSize_eq (second : UInt8) : lengthSize second = extendedSize second + 1 := by
  rw [lengthSize, extendedSize]
  split
  · rfl
  · split <;> rfl

theorem headerSize_eq (second : UInt8) : headerSize second = extendedSize second + 4 + 1 := by
  rw [headerSize, lengthSize_eq, maskSize]

/-- The parser reads a length field right, unless it has a bit among its first four bytes. -/
theorem headerLength_eq {second : UInt8} {field : List UInt8}
    (hfield : field.length = extendedSize second)
    (hsmall : extendedSize second = 8 → BigEndian.value field < 2 ^ 32) (more : List UInt8) :
    headerLength second (field ++ more) = announcedLength second field := by
  rw [headerLength_append (by rw [lengthSize_eq]; omega)]
  unfold headerLength announcedLength
  unfold extendedSize at *
  by_cases hshort : second &&& 0x7f = 126
  · simp only [if_pos hshort] at hfield ⊢
    rw [List.take_of_length_le hfield.le]
    rfl
  · by_cases hlong : second &&& 0x7f = 127
    · simp only [if_neg hshort, if_pos hlong] at hfield hsmall ⊢
      have hlow : (field.drop 4).length = 4 := by simp [hfield]
      have hvalue := BigEndian.value_append (field.take 4) (field.drop 4)
      rw [List.take_append_drop, hlow] at hvalue
      have := hsmall (by simp)
      rw [List.take_of_length_le hlow.le]
      simp
      omega
    · simp [hshort, hlong]

theorem headerMask_eq {second : UInt8} {field mask : List UInt8}
    (hfield : field.length = extendedSize second) (hmask : mask.length = 4) (more : List UInt8) :
    headerMask second (field ++ mask ++ more) = mask := by
  rw [headerMask, lengthSize_eq, Nat.add_sub_cancel, ← hfield, List.append_assoc,
    List.drop_left, maskSize, ← hmask, List.take_left]

/-- Unmasking is what the grammar says it is. -/
theorem Grammar.ClientFrame.payload_eq_unmask (frame : ClientFrame) :
    frame.payload = unmask frame.mask 0 frame.wire := by
  simp [ClientFrame.payload, unmask]
  rfl

/-- A whole header, as the scanner reads it. -/
theorem scan_wholeHeader {first second : UInt8} {field mask : List UInt8} {finalFrame : Bool}
    {opCode : FrameOpcode} (hfirst : readFirstByte first = .ok (finalFrame, opCode))
    (hmasked : maskBit second = true) (hfield : field.length = extendedSize second)
    (hmask : mask.length = 4)
    (hsmall : extendedSize second = 8 → BigEndian.value field < 2 ^ 32) :
    scan .start (first :: second :: (field ++ mask)) =
      enterBody finalFrame opCode (announcedLength second field) mask := by
  have hlength := headerLength_eq hfield hsmall mask
  have hkey := headerMask_eq hfield hmask []
  rw [List.append_nil] at hkey
  rw [scan_start_ok hfirst, scan_header_full hmasked, hlength, hkey]
  rw [List.length_append, hfield, hmask, headerSize_eq]

/-- A complete frame at the front of a stream is found. -/
theorem scan_frame (frame : ClientFrame) (rest : List UInt8)
    (hsmall : extendedSize frame.second = 8 → BigEndian.value frame.field < 2 ^ 32) :
    scan .start (frame.encode ++ rest) =
      ((scan .start rest).1, .frame frame.delivered :: (scan .start rest).2) := by
  have hheader := scan_wholeHeader (readFirstByte_firstByte frame.known frame.finalFrame)
    frame.masked frame.fieldSize frame.maskSize hsmall
  have hframe : scan .start frame.encode = (.start, [.frame frame.delivered]) := by
    have hsplit : frame.encode = (firstByte frame.finalFrame frame.opCode ::
        frame.second :: (frame.field ++ frame.mask)) ++ frame.wire := rfl
    rw [hsplit]
    by_cases hempty : announcedLength frame.second frame.field = 0
    · have hwire : frame.wire = [] :=
        List.eq_nil_of_length_eq_zero (frame.wireSize.trans hempty)
      rw [hwire, List.append_nil, hheader, enterBody, if_pos hempty, delivered,
        payload_eq_unmask, hwire, unmask_nil]
    · rw [enterBody, if_neg hempty] at hheader
      rw [scan_append_of_eq hheader, scan_body_full, delivered, payload_eq_unmask]
      · simp
      · simpa using Nat.pos_of_ne_zero hempty
      · simpa using frame.wireSize
  rw [scan_append_of_eq hframe]
  rfl

/-- An error is found where no frame can start. -/
theorem scan_illegal {rest : List UInt8} (hrest : StartsIllegal rest) :
    ∃ error, scan .start rest = (.failed, [.error error]) := by
  cases hrest with
  | first illegal =>
    obtain ⟨error, herror⟩ := readFirstByte_illegal illegal
    exact ⟨error, scan_start_error herror _⟩
  | unmasked legal clear =>
    obtain ⟨finalFrame, opCode, hread⟩ := readFirstByte_legal legal
    exact ⟨_, by rw [scan_start_ok hread, scan_header_unmasked clear]⟩

/-- Inside a length and mask nothing is found. -/
theorem scan_inHeader {rest : List UInt8} (hrest : EndsInHeader rest) :
    ∃ finalFrame opCode second more,
      scan .start rest = (.header finalFrame opCode (second :: more), []) := by
  cases hrest with
  | header legal masked short =>
    obtain ⟨finalFrame, opCode, hread⟩ := readFirstByte_legal legal
    refine ⟨_, _, _, _, (scan_start_ok hread _).trans (scan_header_short masked ?_)⟩
    rw [headerSize_eq]
    omega

/-- Neither is anything before it or in the payload. -/
theorem scan_elsewhere {rest : List UInt8} (hrest : EndsElsewhere rest)
    (hsmall : LongLengthsSmall rest) :
    ∃ scanner, scan .start rest = (scanner, []) ∧ scanner ≠ .failed ∧
      ∀ finalFrame opCode second more, scanner ≠ .header finalFrame opCode (second :: more) := by
  cases hrest with
  | nothing => exact ⟨.start, rfl, by simp⟩
  | first legal =>
    obtain ⟨finalFrame, opCode, hread⟩ := readFirstByte_legal legal
    exact ⟨_, scan_start_ok hread [], by simp⟩
  | @payload first second field mask wire legal masked fieldSize maskSize short =>
    obtain ⟨finalFrame, opCode, hread⟩ := readFirstByte_legal legal
    have hfield : extendedSize second = 8 → BigEndian.value field < 2 ^ 32 := fun height =>
      hsmall [] first second field (mask ++ wire) (by simp) legal masked height
        (fieldSize.trans height)
    have hheader := scan_wholeHeader hread masked fieldSize maskSize hfield
    rw [enterBody, if_neg (by omega)] at hheader
    refine ⟨.body finalFrame opCode (announcedLength second field) mask (unmask mask 0 wire),
      (scan_append_of_eq hheader).trans ?_, by simp⟩
    rw [scan_body_short (by simpa using short)]
    rfl

/-- What the scanner finds in a stream are the frames of the longest sequence and what
it finds in the rest. -/
theorem exists_longest (bound : ℕ) :
    ∀ bytes : List UInt8, bytes.length ≤ bound → LongLengthsSmall bytes →
      ∃ frames rest, IsLongest bytes frames rest ∧ LongLengthsSmall rest ∧
        (StartsIllegal rest ∨ EndsInHeader rest ∨ EndsElsewhere rest) ∧
        scan .start bytes = ((scan .start rest).1,
          (frames.map fun frame => .frame frame.delivered) ++ (scan .start rest).2) := by
  induction bound with
  | zero =>
    intro bytes hbound hsmall
    obtain rfl := List.eq_nil_of_length_eq_zero (Nat.le_zero.mp hbound)
    refine ⟨[], [], isLongest_nil ?_, hsmall, .inr (.inr .nothing), rfl⟩
    rintro ⟨frame, more, h⟩
    cases h
  | succ bound ih =>
    intro bytes hbound hsmall
    by_cases hfront : ∃ (frame : ClientFrame) (rest : List UInt8), bytes = frame.encode ++ rest
    · obtain ⟨frame, tail, rfl⟩ := hfront
      obtain ⟨frames, rest, hlongest, hrest, hcases, hscan⟩ := ih tail (by
        simp only [encode, List.length_append, List.length_cons] at hbound
        omega) hsmall.of_append
      refine ⟨frame :: frames, rest, hlongest.cons frame, hrest, hcases, ?_⟩
      rw [scan_frame frame tail hsmall.field, hscan]
      rfl
    · refine ⟨[], bytes, isLongest_nil hfront, hsmall, ?_, rfl⟩
      exact (front_cases bytes).resolve_left hfront

namespace WSSocketProcessor

/-- A fresh processor makes the calls of the stream in its first buffer, and returns
false exactly inside a header. -/
theorem process_fresh (bytes : List UInt8) :
    ∃ finished processor, process recorder (fresh []) bytes = .ok (finished, processor) ∧
      processor.connection = (scan .start bytes).2.map StreamEvent.call ∧
      (finished = false ↔ ∃ finalFrame opCode second more,
        (scan .start bytes).1 = .header finalFrame opCode (second :: more)) := by
  obtain ⟨exit, hleaves, _, _, houtcome⟩ := exists_exit WSFrameParser.wf_fresh bytes 0
  have hprocess := process_eq hleaves recorder []
  rw [replayAll_recorder, ok_bind, List.nil_append] at hprocess
  refine ⟨_, _, hprocess, ?_⟩
  cases houtcome (fun h => by cases h.1) with
  | error failed scanned left bounds =>
    have hscan : scan .start bytes = (.failed, exit.events) := scanned
    simp [hscan, LoopExit.finished, failed]
  | waiting state failed scanned rest left bounds waits =>
    have hscan : scan .start bytes = (state, exit.events) := scanned
    rw [hscan]
    refine ⟨rfl, ?_⟩
    rcases exit.waiting_cases failed rest waits with ⟨hfinished, _, rfl, _⟩ |
      ⟨second, tail, _, _, hfinished, _, _, _, rfl, _⟩
    · rw [hfinished]
      simp [exit.parser.scanner_ne_header]
    · simp [hfinished]

/-- A fresh processor delivers the longest sequence of complete frames its buffer starts with. It
closes the connection with a protocol error exactly when the rest cannot start a frame, and it
returns false exactly when the rest ends inside the length and mask of a header. -/
theorem process_decodes (bytes : List UInt8) (hsmall : LongLengthsSmall bytes) :
    ∃ frames rest finished processor, IsLongest bytes frames rest ∧
      process recorder (fresh []) bytes = .ok (finished, processor) ∧
      (StartsIllegal rest → ∃ error : WebSocketError, processor.connection =
        (frames.map fun frame => .received frame.delivered) ++
          [.close (some .protocolError) (some error.description)]) ∧
      (¬ StartsIllegal rest → processor.connection =
        frames.map fun frame => .received frame.delivered) ∧
      (finished = false ↔ EndsInHeader rest) := by
  obtain ⟨frames, rest, hlongest, hrest, hcases, hscan⟩ := exists_longest _ bytes le_rfl hsmall
  obtain ⟨finished, processor, hprocess, hcalls, hfinished⟩ := process_fresh bytes
  refine ⟨frames, rest, finished, processor, hlongest, hprocess, ?_⟩
  rw [hcalls, hfinished, hscan, List.map_append, List.map_map]
  -- Which of the three the rest is can be told from what the scanner makes of it.
  rcases hcases with hillegal | hheader | helsewhere
  · obtain ⟨error, herror⟩ := scan_illegal hillegal
    refine ⟨fun _ => ⟨error, by rw [herror]; rfl⟩, fun h => absurd hillegal h, ?_, ?_⟩
    · rw [herror]
      rintro ⟨_, _, _, _, h⟩
      cases h
    · intro h
      obtain ⟨_, _, _, _, hscan⟩ := scan_inHeader h
      rw [herror] at hscan
      cases hscan
  · obtain ⟨finalFrame, opCode, second, more, hinside⟩ := scan_inHeader hheader
    refine ⟨fun h => ?_, fun _ => by rw [hinside]; simp [StreamEvent.call],
      fun _ => hheader, fun _ => ⟨finalFrame, opCode, second, more, by rw [hinside]⟩⟩
    obtain ⟨error, herror⟩ := scan_illegal h
    rw [herror] at hinside
    cases hinside
  · obtain ⟨scanner, hscanner, hrunning, houtside⟩ := scan_elsewhere helsewhere hrest
    refine ⟨fun h => ?_, fun _ => by rw [hscanner]; simp [StreamEvent.call], ?_, fun h => ?_⟩
    · obtain ⟨error, herror⟩ := scan_illegal h
      rw [herror] at hscanner
      cases hscanner
    · rw [hscanner]
      rintro ⟨_, _, _, _, h⟩
      exact absurd h (houtside _ _ _ _)
    · obtain ⟨_, _, _, _, hinside⟩ := scan_inHeader h
      rw [hscanner] at hinside
      cases hinside
      exact absurd rfl (houtside _ _ _ _)

/-- A text frame and a byte with an RSV bit after it. -/
theorem process_decodes_text :
    ∃ frames rest finished processor,
      IsLongest [0x81, 0x81, 1, 2, 3, 4, 0x60, 0xc1] frames rest ∧
      process recorder (fresh []) [0x81, 0x81, 1, 2, 3, 4, 0x60, 0xc1] =
        .ok (finished, processor) ∧
      (StartsIllegal rest → ∃ error : WebSocketError, processor.connection =
        (frames.map fun frame => .received frame.delivered) ++
          [.close (some .protocolError) (some error.description)]) ∧
      (¬ StartsIllegal rest → processor.connection =
        frames.map fun frame => .received frame.delivered) ∧
      (finished = false ↔ EndsInHeader rest) :=
  process_decodes _ (by
    intro frames first second field rest hsplit _ _ _ hfield
    have hlength := congrArg List.length hsplit
    simp [hfield] at hlength
    omega)

end WSSocketProcessor

end KituraWebSocket
