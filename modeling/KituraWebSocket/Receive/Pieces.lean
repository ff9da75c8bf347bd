/-
# The payload in pieces

A payload arrives in as many pieces as the socket reads make of it. Each call of
`parsePayload` unmasks one of them, in blocks of 125 bytes, and takes the phase of the
mask from the payload that is there already. `parsePayload_pieces` says that none of
these boundaries can be seen: whatever the buffers and the indices in them, the
payload is what the pieces hold one after the other, each byte met by the mask
byte of its place, and it never grows past its length.
-/

import KituraWebSocket.Receive.ParserParts
import KituraWebSocket.Support.FallibleRun

namespace KituraWebSocket

/-- A buffer, and the index from which on it is read. -/
structure Piece where
  buffer : List UInt8
  start : ℕ
  deriving DecidableEq, Repr

/-- The bytes that a piece holds for a call. -/
def Piece.available (piece : Piece) : List UInt8 := piece.buffer.drop piece.start

namespace WSFrameParser

/-- A call of `parsePayload` on a piece: the bytes consumed and the parser afterwards. -/
def parsePiece (parser : WSFrameParser) (piece : Piece) : Except Fault (ℕ × WSFrameParser) :=
  parser.parsePayload piece.buffer piece.start piece.buffer.length

/-- Calls of `parsePayload` on one piece after the other. -/
def parsePieces (parser : WSFrameParser) (pieces : List Piece) : Except Fault WSFrameParser :=
  FallibleRun.run (fun parser piece => (parser.parsePiece piece).map Prod.snd) parser pieces

/-- The payload of the frame between two blocks of a call. -/
def PayloadWithin (parser : WSFrameParser) (piece : Piece) (payload : List UInt8) : Prop :=
  ∃ unmasking, BoundedLoop.Visits
    (unmaskBlock parser.mask piece.buffer piece.start
      (parser.bytesToUnmask piece.start piece.buffer.length).toNat)
    parser.unmaskStart unmasking ∧ unmasking.payload = payload

/-- What has become of a parser by calls on pieces that hold some bytes together. -/
structure Unmasked (mask : List UInt8) (length : ℕ) (held : List UInt8)
    (reached : WSFrameParser) : Prop where
  key : reached.mask = mask
  size : reached.payloadLength = length
  payload : reached.frame.payload = unmask mask 0 (held.take length)

section Piece

variable {mask held : List UInt8} {length : ℕ} {reached : WSFrameParser}

theorem Unmasked.payload_length (hunmasked : Unmasked mask length held reached) :
    reached.frame.payload.length = min length held.length := by
  rw [hunmasked.payload, length_unmask, List.length_take]

/-- A call may take what is missing of the payload, as far as the piece goes. -/
theorem Unmasked.bytesToUnmask (hunmasked : Unmasked mask length held reached) (piece : Piece) :
    (reached.bytesToUnmask piece.start piece.buffer.length).toNat =
      min (length - reached.frame.payload.length) piece.available.length := by
  rw [WSFrameParser.bytesToUnmask, hunmasked.size, Piece.available, List.length_drop]
  omega

/-- One call consumes what it may take, and unmasks it at the phase where the pieces before it have
left off. -/
theorem Unmasked.parsePiece (hunmasked : Unmasked mask length held reached)
    (hkey : mask.length = maskSize) (piece : Piece) :
    ∃ next, reached.parsePiece piece =
        .ok (min (length - reached.frame.payload.length) piece.available.length, next) ∧
      Unmasked mask length (held ++ piece.available) next := by
  have hunread : piece.buffer.drop piece.start = piece.available := rfl
  have hreached : reached.mask.length = maskSize := by rw [hunmasked.key, hkey]
  have hcall := parsePayload_eq hunread hreached
  simp only [hunmasked.bytesToUnmask piece] at hcall
  refine ⟨_, hcall, hunmasked.key, hunmasked.size, ?_⟩
  have htaken : piece.available.take (min (length - reached.frame.payload.length)
      piece.available.length) = piece.available.take (length - held.length) := by
    rw [List.take_eq_take_iff, hunmasked.payload_length]
    omega
  have hphase : (held.take length).length = reached.frame.payload.length := by
    rw [hunmasked.payload, length_unmask]
  show reached.frame.payload ++ unmask reached.mask reached.frame.payload.length
    (piece.available.take (min (length - reached.frame.payload.length)
      piece.available.length)) = _
  rw [htaken, List.take_append, unmask_append, Nat.zero_add, hphase, hunmasked.key,
    ← hunmasked.payload]

/-- Not even between two blocks does the payload grow past its length. -/
theorem Unmasked.payload_le (hunmasked : Unmasked mask length held reached)
    (hkey : mask.length = maskSize) {piece : Piece} {payload : List UInt8}
    (hwithin : reached.PayloadWithin piece payload) : payload.length ≤ length := by
  obtain ⟨unmasking, hvisit, rfl⟩ := hwithin
  have hcount := hunmasked.bytesToUnmask piece
  generalize (reached.bytesToUnmask piece.start piece.buffer.length).toNat = count at hvisit hcount
  have hkey : reached.mask.length = maskSize := by rw [hunmasked.key, hkey]
  have henough : count ≤ piece.available.length := by omega
  have hround : ∀ unmasking,
      UnmaskInvariant reached.mask reached.frame.payload piece.available count unmasking →
      (∃ next, unmaskBlock reached.mask piece.buffer piece.start count unmasking = .ok (.inl next) ∧
        UnmaskInvariant reached.mask reached.frame.payload piece.available count next ∧
        unmasking.bytesConsumed < next.bytesConsumed) ∨
      ∃ last, unmaskBlock reached.mask piece.buffer piece.start count unmasking =
        .ok (.inr last) := by
    intro unmasking hinv
    exact (unmaskBlock_cases rfl hkey henough hinv).imp_right fun h => ⟨unmasking, h.1⟩
  have hinv := (BoundedLoop.progresses _ UnmaskState.bytesConsumed hround
    (unmaskInvariant_start reached piece.available count)).2 unmasking hvisit
  have hgrown := congrArg List.length hinv.grown
  rw [List.length_append, length_unmask, List.length_take] at hgrown
  have hbefore := hunmasked.payload_length
  have hconsumed := hinv.within
  omega

end Piece

theorem unmasked_parsePieces {parser : WSFrameParser} {length : ℕ}
    (hkey : parser.mask.length = maskSize) (hlength : parser.payloadLength = length)
    (hempty : parser.frame.payload = []) (pieces : List Piece) :
    ∃ reached, parser.parsePieces pieces = .ok reached ∧
      Unmasked parser.mask length (pieces.flatMap Piece.available) reached := by
  induction pieces using List.reverseRecOn with
  | nil =>
    refine ⟨parser, rfl, rfl, hlength, ?_⟩
    rw [hempty, List.flatMap_nil, List.take_nil]
    rfl
  | append_singleton pieces piece ih =>
    obtain ⟨reached, hrun, hunmasked⟩ := ih
    obtain ⟨next, hcall, hnext⟩ := hunmasked.parsePiece hkey piece
    refine ⟨next, ?_, ?_⟩
    · apply FallibleRun.run_concat_ok.mpr
      refine ⟨reached, hrun, ?_⟩
      simp only [hcall]
      rfl
    · rwa [List.flatMap_append, List.flatMap_singleton]

/-- After calls on any pieces, from an empty payload, the payload is what the pieces hold together,
up to its length, with byte `i` met by byte `i mod 4` of the mask. A further call consumes what is
missing, or all that its piece holds, and at no time is the payload longer than its length. -/
theorem parsePayload_pieces (parser : WSFrameParser) (length : ℕ)
    (hkey : parser.mask.length = maskSize) (hlength : parser.payloadLength = length)
    (hempty : parser.frame.payload = []) (pieces : List Piece) :
    ∃ reached, parser.parsePieces pieces = .ok reached ∧
      reached.frame.payload =
        ((pieces.flatMap Piece.available).take
            (min length (pieces.flatMap Piece.available).length)).mapIdx
          (fun i byte => byte ^^^ parser.mask.getD (i % 4) 0) ∧
      reached.frame.payload.length ≤ length ∧
      ∀ piece,
        (∃ next, reached.parsePiece piece =
          .ok (min (length - reached.frame.payload.length) piece.available.length, next)) ∧
        ∀ payload, reached.PayloadWithin piece payload → payload.length ≤ length := by
  obtain ⟨reached, hrun, hunmasked⟩ := unmasked_parsePieces hkey hlength hempty pieces
  refine ⟨reached, hrun, ?_, ?_, fun piece => ⟨?_, ?_⟩⟩
  · rw [hunmasked.payload, unmask, ← List.take_take, List.take_length]
    simp only [Nat.zero_add, maskSize]
  · rw [hunmasked.payload_length]
    exact min_le_left _ _
  · obtain ⟨next, hcall, _⟩ := hunmasked.parsePiece hkey piece
    exact ⟨next, hcall⟩
  · exact fun payload => hunmasked.payload_le hkey

/-- Three bytes of payload in two pieces, with a byte of the next frame behind them. -/
theorem parsePayload_pieces_two :
    ∃ reached, ({ state := .lengthParsed, payloadLength := 3, mask := [1, 2, 3, 4] } :
        WSFrameParser).parsePieces [⟨[9, 10, 11], 1⟩, ⟨[12, 137], 0⟩] = .ok reached ∧
      reached.frame.payload = [11, 9, 15] ∧ reached.frame.payload.length ≤ 3 ∧
      ∀ piece,
        (∃ next, reached.parsePiece piece =
          .ok (min (3 - reached.frame.payload.length) piece.available.length, next)) ∧
        ∀ payload, reached.PayloadWithin piece payload → payload.length ≤ 3 :=
  parsePayload_pieces { state := .lengthParsed, payloadLength := 3, mask := [1, 2, 3, 4] } 3 rfl
    rfl rfl [⟨[9, 10, 11], 1⟩, ⟨[12, 137], 0⟩]

end WSFrameParser

end KituraWebSocket
