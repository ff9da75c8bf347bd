/-
# What the parts of the parser compute

One equation for each of `parseOpCode`, `parseMaskAndLength` and `parsePayload`, in
terms of the bytes not yet read and the vocabulary of the scanner. Later proofs
rewrite with these equations and never unfold the three functions.
-/

import KituraWebSocket.Receive.Scanner

namespace KituraWebSocket

theorem rsv_eq_zero_iff (byte : UInt8) : (byte &&& 0x70) >>> 4 = 0 ↔ byte &&& 0x70 = 0 :=
  forall_byte (P := fun byte => (byte &&& 0x70) >>> 4 = 0 ↔ byte &&& 0x70 = 0)
    (by decide +kernel) byte

/-- The byte at a distance from an index is that far into the bytes from the index on. -/
theorem getElem?_of_drop {bytes unread : List UInt8} {start : ℕ}
    (hunread : bytes.drop start = unread) (offset : ℕ) :
    bytes[start + offset]? = unread[offset]? := by
  rw [← hunread, List.getElem?_drop]

theorem length_eq_of_drop {bytes unread : List UInt8} {start : ℕ}
    (hunread : bytes.drop start = unread) : bytes.length - start = unread.length := by
  rw [← hunread, List.length_drop]

theorem lt_length_of_drop {bytes unread : List UInt8} {start : ℕ}
    (hunread : bytes.drop start = unread) (hne : unread ≠ []) : start < bytes.length := by
  have := length_eq_of_drop hunread
  have := List.length_pos_iff.mpr hne
  omega

namespace WSFrameParser

theorem parseOpCode_ok {parser : WSFrameParser} {bytes : List UInt8} {start : ℕ} {byte : UInt8}
    {finalFrame : Bool} {opCode : FrameOpcode} (hget : bytes[start]? = some byte)
    (hbyte : readFirstByte byte = .ok (finalFrame, opCode)) :
    parser.parseOpCode bytes start = .ok (none, 1, { parser with
      frame := { parser.frame with finalFrame := finalFrame, opCode := opCode } }) := by
  unfold readFirstByte at hbyte
  split at hbyte
  · cases hbyte
  · rename_i hrsv
    have hrsv' : (byte &&& 0x70) >>> 4 = 0 := (rsv_eq_zero_iff byte).mpr (not_not.mp hrsv)
    split at hbyte
    · rename_i code hcode
      cases hbyte
      simp [parseOpCode, readByte_ok hget, hrsv', hcode, -UInt8.toNat_and]
    · cases hbyte

theorem parseOpCode_error (parser : WSFrameParser) {bytes : List UInt8} {start : ℕ}
    {byte : UInt8} {error : WebSocketError} (hget : bytes[start]? = some byte)
    (hbyte : readFirstByte byte = .error error) :
    ∃ finalFrame, parser.parseOpCode bytes start =
      .ok (some error, 0, { parser with frame := { parser.frame with finalFrame := finalFrame } }) := by
  unfold readFirstByte at hbyte
  split at hbyte
  · rename_i hrsv
    cases hbyte
    have hrsv' : (byte &&& 0x70) >>> 4 ≠ 0 := fun h => hrsv ((rsv_eq_zero_iff byte).mp h)
    refine ⟨parser.frame.finalFrame, ?_⟩
    simp [parseOpCode, readByte_ok hget, hrsv']
  · rename_i hrsv
    have hrsv' : (byte &&& 0x70) >>> 4 = 0 := (rsv_eq_zero_iff byte).mpr (not_not.mp hrsv)
    split at hbyte
    · cases hbyte
    · rename_i hcode
      cases hbyte
      refine ⟨byte &&& 0x80 != 0, ?_⟩
      simp [parseOpCode, readByte_ok hget, hrsv', hcode, -UInt8.toNat_and]

/-- The parser once it has looked at a second byte and what follows it: the mask
flag, and the length if all of it is there. -/
def noteLength (parser : WSFrameParser) (second : UInt8) (rest : List UInt8) : WSFrameParser :=
  { parser with
    masked := isMasked second
    payloadLength :=
      if isMasked second ∧ lengthSize second ≤ rest.length + 1 then headerLength second rest
      else parser.payloadLength }

theorem parseMaskAndLength_unmasked {parser : WSFrameParser} {bytes rest : List UInt8} {start : ℕ}
    {second : UInt8} (hunread : bytes.drop start = second :: rest)
    (hmask : isMasked second = false) :
    parser.parseMaskAndLength bytes start bytes.length =
      .ok (some .unmaskedFrame, 0, parser.noteLength second rest) := by
  have hget : bytes[start]? = some second := by simpa using getElem?_of_drop hunread 0
  have hbit : (second &&& 0x80 != 0) = false := hmask
  simp only [parseMaskAndLength, readByte_ok hget, ok_bind, hbit, noteLength, hmask]
  rfl

/-- The length is read as soon as its bytes are there. -/
theorem parseLength_eq {parser : WSFrameParser} {bytes rest : List UInt8} {start : ℕ}
    {second : UInt8} (hunread : bytes.drop start = second :: rest) :
    parser.parseLength bytes start bytes.length (second &&& 0x7f) =
      .ok (if lengthSize second ≤ rest.length + 1 then
        (lengthSize second, { parser with payloadLength := headerLength second rest })
      else (0, parser)) := by
  have hlength : bytes.length - start = rest.length + 1 := length_eq_of_drop hunread
  have hrest : bytes.drop (start + 1) = rest := by
    rw [← List.drop_drop, hunread, List.drop_one, List.tail_cons]
  rw [parseLength, lengthSize, headerLength]
  split
  · by_cases henough : 3 ≤ rest.length + 1
    · rw [readRange_of_le (by omega) (by omega), hrest]
      simp [hlength, henough, networkToHost]
    · simp [hlength, henough]
  · split
    · by_cases henough : 9 ≤ rest.length + 1
      · have hfield : bytes.drop (start + 5) = rest.drop 4 := by
          rw [← hrest, List.drop_drop]
        rw [readRange_of_le (by omega) (by omega), hfield]
        simp [hlength, henough, networkToHost]
      · simp [hlength, henough]
    · simp

/-- Copying the mask reads the four bytes after the length. -/
theorem mapM_readByte {bytes unread : List UInt8} {start : ℕ} (offset count : ℕ)
    (hunread : bytes.drop start = unread) (henough : offset + count ≤ unread.length) :
    ((List.range count).mapM fun i => readByte bytes (start + offset + i)) =
      .ok ((unread.drop offset).take count) := by
  induction count with
  | zero => rfl
  | succ count ih =>
    have hget : bytes[start + offset + count]? = some unread[offset + count] := by
      rw [Nat.add_assoc, getElem?_of_drop hunread, List.getElem?_eq_getElem]
    have htake : (unread.drop offset).take (count + 1) =
        (unread.drop offset).take count ++ [unread[offset + count]] := by
      rw [List.take_succ_eq_append_getElem (by simp; omega), List.getElem_drop]
    rw [List.range_succ, List.mapM_append, ih (by omega), htake]
    simp [readByte_ok hget]

theorem parseMaskAndLength_masked {parser : WSFrameParser} {bytes rest : List UInt8} {start : ℕ}
    {second : UInt8} (hunread : bytes.drop start = second :: rest)
    (hmask : isMasked second = true) (hkey : parser.mask.length = maskSize) :
    parser.parseMaskAndLength bytes start bytes.length =
      if headerSize second ≤ rest.length + 1 then
        .ok (none, headerSize second,
          { parser.noteLength second rest with mask := headerMask second rest })
      else .ok (none, 0, parser.noteLength second rest) := by
  have hget : bytes[start]? = some second := by simpa using getElem?_of_drop hunread 0
  have hbit : (second &&& 0x80 != 0) = true := hmask
  have hlength : bytes.length - start = rest.length + 1 := length_eq_of_drop hunread
  have hrest : bytes.drop (start + 1) = rest := by
    rw [← List.drop_drop, hunread, List.drop_one, List.tail_cons]
  have hpos := lengthSize_pos second
  simp only [parseMaskAndLength, readByte_ok hget, ok_bind, hbit, not_true_eq_false, if_false,
    parseLength_eq hunread]
  by_cases hfield : lengthSize second ≤ rest.length + 1
  · by_cases hfull : headerSize second ≤ rest.length + 1
    · have henough : bytes.length - start - lengthSize second ≥ maskSize := by
        simp only [headerSize] at hfull
        omega
      have hcopy := mapM_readByte (lengthSize second) maskSize hunread
        (by simpa [headerSize] using hfull)
      have hdrop : (second :: rest).drop (lengthSize second) =
          rest.drop (lengthSize second - 1) := by
        rw [List.drop_cons hpos]
      simp only [hdrop] at hcopy
      rw [if_pos hfull]
      simp only [if_pos hfield, if_pos hpos, if_pos henough, hkey, hcopy, ok_bind, pure_eq_ok,
        noteLength, hmask, headerMask, headerSize, true_and]
    · have hnot : ¬ bytes.length - start - lengthSize second ≥ maskSize := by
        simp only [headerSize] at hfull
        omega
      simp only [if_pos hfield, if_neg hfull, if_pos hpos, if_neg hnot, pure_eq_ok, noteLength,
        hmask, true_and]
  · have hfull : ¬ headerSize second ≤ rest.length + 1 := by
      simp only [headerSize]
      omega
    simp only [if_neg hfield, if_neg hfull, lt_self_iff_false, if_false, pure_eq_ok, noteLength,
      hmask, true_and]

/-- Unmasking one byte writes it at its place in the block. -/
theorem unmaskByte_eq {mask bytes unread : List UInt8} {start : ℕ}
    (hunread : bytes.drop start = unread) (hkey : mask.length = maskSize)
    {before : UnmaskState} {index : ℕ} (hblock : index < before.unmaskedBytes.length)
    (hmore : before.bytesConsumed < unread.length) :
    unmaskByte mask bytes start before index = .ok
      { unmaskedBytes := before.unmaskedBytes.set index
          (unread[before.bytesConsumed] ^^^ mask.getD (before.bytesUnmasked % maskSize) 0)
        bytesConsumed := before.bytesConsumed + 1
        bytesUnmasked := before.bytesUnmasked + 1
        payload := before.payload } := by
  have hget : bytes[start + before.bytesConsumed]? = some unread[before.bytesConsumed] := by
    rw [getElem?_of_drop hunread, List.getElem?_eq_getElem]
  have hphase : before.bytesUnmasked % maskSize < mask.length := by
    rw [hkey]
    exact Nat.mod_lt _ (by decide)
  simp [unmaskByte, readByte_ok hget, readByte_of_lt hphase, writeByte_of_lt hblock,
    List.getElem?_eq_getElem hphase]

/-- Filling a block: the bytes go in unmasked, in order, from its front. -/
theorem foldlM_unmaskByte {mask bytes unread : List UInt8} {start : ℕ}
    (hunread : bytes.drop start = unread) (hkey : mask.length = maskSize)
    (before : UnmaskState) (count : ℕ) (hblock : count ≤ before.unmaskedBytes.length)
    (henough : before.bytesConsumed + count ≤ unread.length) :
    (List.range count).foldlM (unmaskByte mask bytes start) before = .ok
      { unmaskedBytes :=
          unmask mask before.bytesUnmasked ((unread.drop before.bytesConsumed).take count) ++
            before.unmaskedBytes.drop count
        bytesConsumed := before.bytesConsumed + count
        bytesUnmasked := before.bytesUnmasked + count
        payload := before.payload } := by
  induction count with
  | zero => simp
  | succ count ih =>
    have hmore : before.bytesConsumed + count < unread.length := by omega
    have htake : (unread.drop before.bytesConsumed).take (count + 1) =
        (unread.drop before.bytesConsumed).take count ++ [unread[before.bytesConsumed + count]] := by
      rw [List.take_succ_eq_append_getElem (by simp; omega), List.getElem_drop]
    have hfilled : ((unread.drop before.bytesConsumed).take count).length = count := by
      simp
      omega
    rw [List.range_succ, List.foldlM_append, ih (by omega) (by omega), ok_bind, List.foldlM_cons,
      unmaskByte_eq hunread hkey (by simp; omega) (by simpa using hmore), ok_bind,
      List.foldlM_nil, pure_eq_ok, htake, unmask_append, hfilled, unmask_singleton]
    have hset : (unmask mask before.bytesUnmasked
          ((unread.drop before.bytesConsumed).take count) ++ before.unmaskedBytes.drop count).set
          count (unread[before.bytesConsumed + count] ^^^
            mask.getD ((before.bytesUnmasked + count) % maskSize) 0) =
        unmask mask before.bytesUnmasked ((unread.drop before.bytesConsumed).take count) ++
          [unread[before.bytesConsumed + count] ^^^
            mask.getD ((before.bytesUnmasked + count) % maskSize) 0] ++
          before.unmaskedBytes.drop (count + 1) := by
      rw [List.set_append_right _ _ (by simp), List.append_assoc]
      congr 1
      rw [length_unmask, hfilled, Nat.sub_self, List.drop_eq_getElem_cons (by omega)]
      rfl
    simp only [hset, Nat.add_assoc]

/-- What the outer loop of `parsePayload` keeps: the block has its size, and the
payload has grown by the unmasked bytes consumed so far. -/
structure UnmaskInvariant (mask payload unread : List UInt8) (count : ℕ)
    (unmasking : UnmaskState) : Prop where
  block : unmasking.unmaskedBytes.length = blockSize
  within : unmasking.bytesConsumed ≤ count
  phase : unmasking.bytesUnmasked = payload.length + unmasking.bytesConsumed
  grown : unmasking.payload =
    payload ++ unmask mask payload.length (unread.take unmasking.bytesConsumed)

/-- One round of the outer loop consumes a block, or what is left of the count. -/
theorem unmaskBlock_next {mask bytes payload unread : List UInt8} {start count : ℕ}
    (hunread : bytes.drop start = unread) (hkey : mask.length = maskSize)
    (henough : count ≤ unread.length) {unmasking : UnmaskState}
    (hinv : UnmaskInvariant mask payload unread count unmasking)
    (hmore : unmasking.bytesConsumed < count) :
    ∃ next, unmaskBlock mask bytes start count unmasking = .ok (.inl next) ∧
      UnmaskInvariant mask payload unread count next ∧
      unmasking.bytesConsumed < next.bytesConsumed := by
  obtain ⟨hblock, hwithin, hphase, hgrown⟩ := hinv
  generalize hpiece : min blockSize (count - unmasking.bytesConsumed) = piece
  have hfits : piece ≤ blockSize := by omega
  have hpos : 0 < piece := by
    have : 0 < blockSize := by decide
    omega
  have hleft : unmasking.bytesConsumed + piece ≤ count := by omega
  have hfill := foldlM_unmaskByte hunread hkey unmasking piece (by omega) (by omega)
  have htaken : ((unread.drop unmasking.bytesConsumed).take piece).length = piece := by
    simp
    omega
  have hround : unmaskBlock mask bytes start count unmasking = .ok (.inl
      { unmaskedBytes :=
          unmask mask unmasking.bytesUnmasked ((unread.drop unmasking.bytesConsumed).take piece) ++
            unmasking.unmaskedBytes.drop piece
        bytesConsumed := unmasking.bytesConsumed + piece
        bytesUnmasked := unmasking.bytesUnmasked + piece
        payload := unmasking.payload ++
          unmask mask unmasking.bytesUnmasked ((unread.drop unmasking.bytesConsumed).take piece) }) := by
    simp only [unmaskBlock, if_pos hmore, hblock, hpiece, hfill, ok_bind]
    rw [readRange_of_le (Nat.zero_le _) (by simp; omega)]
    simp [htaken]
  refine ⟨_, hround, ⟨?_, ?_, ?_, ?_⟩, ?_⟩
  · simp only [List.length_append, length_unmask, htaken, List.length_drop, hblock]
    omega
  · exact hleft
  · simp only [hphase]
    omega
  · simp only [hgrown, List.append_assoc]
    rw [List.take_add, unmask_append, hphase]
    simp only [List.length_take]
    congr 3
    omega
  · simp only
    omega

/-- The loop over the blocks goes on, or it is done. -/
theorem unmaskBlock_cases {mask bytes payload unread : List UInt8} {start count : ℕ}
    (hunread : bytes.drop start = unread) (hkey : mask.length = maskSize)
    (henough : count ≤ unread.length) {unmasking : UnmaskState}
    (hinv : UnmaskInvariant mask payload unread count unmasking) :
    (∃ next, unmaskBlock mask bytes start count unmasking = .ok (.inl next) ∧
      UnmaskInvariant mask payload unread count next ∧
      unmasking.bytesConsumed < next.bytesConsumed) ∨
    unmaskBlock mask bytes start count unmasking = .ok (.inr unmasking) ∧
      unmasking.bytesConsumed = count := by
  by_cases hmore : unmasking.bytesConsumed < count
  · exact .inl (unmaskBlock_next hunread hkey henough hinv hmore)
  · have hwithin := hinv.within
    exact .inr ⟨by rw [unmaskBlock, if_neg hmore, pure_eq_ok], by omega⟩

/-- Where the loop over the blocks of a call starts. -/
def unmaskStart (parser : WSFrameParser) : UnmaskState where
  unmaskedBytes := List.replicate blockSize 0
  bytesConsumed := 0
  bytesUnmasked := parser.frame.payload.length
  payload := parser.frame.payload

theorem unmaskInvariant_start (parser : WSFrameParser) (unread : List UInt8) (count : ℕ) :
    UnmaskInvariant parser.mask parser.frame.payload unread count parser.unmaskStart :=
  ⟨by simp [unmaskStart], Nat.zero_le _, by simp [unmaskStart], by simp [unmaskStart]⟩

/-- A call appends the unmasked bytes it may take, and consumes exactly these. -/
theorem parsePayload_eq {parser : WSFrameParser} {bytes unread : List UInt8} {start : ℕ}
    (hunread : bytes.drop start = unread) (hkey : parser.mask.length = maskSize) :
    let count := (parser.bytesToUnmask start bytes.length).toNat
    parser.parsePayload bytes start bytes.length = .ok (count, { parser with
      frame := { parser.frame with
        payload := parser.frame.payload ++
          unmask parser.mask parser.frame.payload.length (unread.take count) } }) := by
  intro count
  have hlength : bytes.length - start = unread.length := length_eq_of_drop hunread
  have henough : count ≤ unread.length := by
    simp only [count, bytesToUnmask]
    omega
  have hround : ∀ unmasking,
      UnmaskInvariant parser.mask parser.frame.payload unread count unmasking →
      (∃ next, unmaskBlock parser.mask bytes start count unmasking = .ok (.inl next) ∧
        UnmaskInvariant parser.mask parser.frame.payload unread count next ∧
        count - next.bytesConsumed < count - unmasking.bytesConsumed) ∨
      ∃ last, unmaskBlock parser.mask bytes start count unmasking = .ok (.inr last) ∧
        UnmaskInvariant parser.mask parser.frame.payload unread count last ∧
        last.bytesConsumed = count := by
    intro unmasking hinv
    rcases unmaskBlock_cases hunread hkey henough hinv with
      ⟨next, hnext, hkept, hless⟩ | ⟨hdone, hall⟩
    · have hwithin := hkept.within
      exact .inl ⟨next, hnext, hkept, by omega⟩
    · exact .inr ⟨unmasking, hdone, hinv, hall⟩
  obtain ⟨last, hloop, hinv, hlast⟩ := BoundedLoop.iterate_total .outOfBudget _ _ _ _ hround
    (count + 1) parser.unmaskStart (by simp [unmaskStart])
    (unmaskInvariant_start parser unread count)
  have hgrown := hinv.grown
  rw [hlast] at hgrown
  have hcall : parser.parsePayload bytes start bytes.length =
      (BoundedLoop.iterate .outOfBudget (unmaskBlock parser.mask bytes start count) (count + 1)
        parser.unmaskStart >>= fun unmasking => .ok (unmasking.bytesConsumed,
          { parser with frame := { parser.frame with payload := unmasking.payload } })) := rfl
  rw [hcall, hloop, ok_bind, hlast, hgrown]

end WSFrameParser

end KituraWebSocket
