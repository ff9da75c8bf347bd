/-
# Lengths that can be sent

The header of a frame has three forms, with a length of seven bits, of two bytes or of
eight, and the shortest one that holds the length is to be used. `UnmaskedHeader` says
so without saying how it is computed. The source writes the eight bytes through a
conversion to thirty-two bits: `createFrameHeader_returns_iff` says that it writes
the header exactly for lengths below `2 ^ 32`, and that a service that sends more
stops the program.
-/

import KituraWebSocket.Send.Stream

namespace KituraWebSocket

namespace Grammar

/-- The header of an unmasked frame: its first byte, and the shortest code of its length. -/
def UnmaskedHeader (finalFrame : Bool) (opCode : FrameOpcode) (payloadLength : ℕ)
    (header : List UInt8) : Prop :=
  ∃ second field, header = firstByte finalFrame opCode :: second :: field ∧
    LengthCode payloadLength second field ∧
    ∀ second' field', LengthCode payloadLength second' field' → field.length ≤ field'.length

/-- A length field is one of three widths. -/
theorem extendedSize_cases (second : UInt8) :
    extendedSize second = 0 ∧ (second &&& 0x7f).toNat < 126 ∨ extendedSize second = 2 ∨
      extendedSize second = 8 :=
  forall_byte (P := fun second => extendedSize second = 0 ∧ (second &&& 0x7f).toNat < 126 ∨
    extendedSize second = 2 ∨ extendedSize second = 8) (by decide +kernel) second

/-- No code of a length has a field that is shorter than the shortest. -/
theorem LengthCode.shortestSize_le {payloadLength : ℕ} {second : UInt8} {field : List UInt8}
    (hcode : LengthCode payloadLength second field) :
    shortestSize payloadLength ≤ field.length := by
  obtain ⟨_, hwidth, hannounced⟩ := hcode
  rw [announcedLength] at hannounced
  rw [shortestSize, hwidth]
  rcases extendedSize_cases second with ⟨hnone, hseven⟩ | htwo | height
  · rw [if_pos hnone] at hannounced
    rw [if_pos (by omega)]
    exact Nat.zero_le _
  · have hvalue := BigEndian.value_lt field
    rw [if_neg (by omega)] at hannounced
    rw [hwidth, htwo, hannounced] at hvalue
    split_ifs <;> omega
  · split_ifs <;> omega

/-- The header that the grammar gives a frame of the server. -/
theorem unmaskedHeader_serverHeader (finalFrame : Bool) (opCode : FrameOpcode)
    {payloadLength : ℕ} (hsmall : payloadLength < 2 ^ 64) :
    UnmaskedHeader finalFrame opCode payloadLength
      (serverHeader finalFrame opCode payloadLength) := by
  obtain ⟨second, field, hheader, hcode, hshortest⟩ :=
    serverHeader_eq finalFrame opCode hsmall
  refine ⟨second, field, hheader, hcode, ?_⟩
  intro second' field' hother
  rw [hshortest]
  exact hother.shortestSize_le

end Grammar

open Grammar

/-- `createFrameHeader` appends the header of the frame. -/
theorem createFrameHeader_iff {opCode : FrameOpcode} (hknown : opCode ≠ .unknown)
    (finalFrame : Bool) (payloadLength : ℕ) (buffer : List UInt8) :
    (∃ header, WSFrame.createFrameHeader finalFrame opCode payloadLength buffer =
        .ok (buffer ++ header) ∧ UnmaskedHeader finalFrame opCode payloadLength header) ↔
      payloadLength < 2 ^ 32 := by
  constructor
  · rintro ⟨header, hreturns, _⟩
    by_contra hlong
    rw [createFrameHeader_overflow hknown (Nat.not_lt.mp hlong)] at hreturns
    cases hreturns
  · intro hsmall
    exact ⟨_, createFrameHeader_eq hknown hsmall finalFrame buffer,
      unmaskedHeader_serverHeader finalFrame opCode (hsmall.trans (by decide))⟩

namespace WebSocketConnection

/-- `send(message:asBinary:)` returns unless it is to write a frame that is too long. -/
theorem sendData_returns_iff (connection : WebSocketConnection) (message : List UInt8)
    (asBinary : Bool) :
    (∃ next, connection.sendData message asBinary = .ok next) ↔
      ¬ (connection.active = true ∧ connection.processorAlive = true ∧
        2 ^ 32 ≤ message.length) := by
  have hknown : (if asBinary then FrameOpcode.binary else .text) ≠ .unknown := by
    cases asBinary <;> decide
  cases hactive : connection.active with
  | false => simp [sendData, hactive]
  | true =>
    cases halive : connection.processorAlive with
    | false => simp [sendData, sendMessage, hactive, halive]
    | true =>
      have hcall : connection.sendData message asBinary =
          connection.sendMessage (if asBinary then .binary else .text) (some message) := by
        simp [sendData, hactive]
      rw [hcall]
      by_cases hlong : 2 ^ 32 ≤ message.length
      · rw [sendMessage_overflow hknown halive (by simpa using hlong)]
        simpa using hlong
      · rw [sendMessage_eq hknown (by simpa using hlong)]
        simpa using hlong

end WebSocketConnection

/-- For every frame that is sent, `createFrameHeader` appends its header to whatever the buffer
holds, exactly when the payload is shorter than `2 ^ 32` bytes. So `send(message:asBinary:)`
returns, exactly unless it is to write a message of at least that length. -/
theorem createFrameHeader_returns_iff (finalFrame : Bool) (opCode : FrameOpcode)
    (hsends : opCode ∈ [.text, .binary, .close, .ping, .pong]) (payloadLength : ℕ)
    (buffer : List UInt8) (connection : WebSocketConnection) (message : List UInt8)
    (asBinary : Bool) :
    ((∃ header, WSFrame.createFrameHeader finalFrame opCode payloadLength buffer =
        .ok (buffer ++ header) ∧ UnmaskedHeader finalFrame opCode payloadLength header) ↔
      payloadLength < 2 ^ 32) ∧
    ((∃ next, connection.sendData message asBinary = .ok next) ↔
      ¬ (connection.active = true ∧ connection.processorAlive = true ∧
        2 ^ 32 ≤ message.length)) := by
  have hknown : opCode ≠ .unknown := by
    rintro rfl
    simp at hsends
  exact ⟨createFrameHeader_iff hknown finalFrame payloadLength buffer,
    connection.sendData_returns_iff message asBinary⟩

/-- A text of `2 ^ 16` bytes takes eight bytes of length. -/
theorem createFrameHeader_returns_iff_text :
    ((∃ header, WSFrame.createFrameHeader true .text 65536 [] = .ok ([] ++ header) ∧
        UnmaskedHeader true .text 65536 header) ↔ 65536 < 2 ^ 32) ∧
    ((∃ next, (WebSocketConnection.opened (some ⟨none⟩) 0).sendData [104, 105] false =
        .ok next) ↔
      ¬ ((WebSocketConnection.opened (some ⟨none⟩) 0).active = true ∧
        (WebSocketConnection.opened (some ⟨none⟩) 0).processorAlive = true ∧
        2 ^ 32 ≤ ([104, 105] : List UInt8).length)) :=
  createFrameHeader_returns_iff true .text (by decide) 65536 []
    (WebSocketConnection.opened (some ⟨none⟩) 0) [104, 105] false

/-- A message of 4 GiB. -/
theorem not_createFrameHeader_four_gigabytes :
    (¬ ∃ header, WSFrame.createFrameHeader true .binary (2 ^ 32) [] = .ok ([] ++ header) ∧
      UnmaskedHeader true .binary (2 ^ 32) header) ∧
    ¬ ∃ next, (WebSocketConnection.opened (some ⟨none⟩) 0).sendData
      (List.replicate (2 ^ 32) 0) true = .ok next := by
  constructor
  · rw [createFrameHeader_iff (by decide)]
    exact Nat.lt_irrefl _
  · rw [WebSocketConnection.sendData_returns_iff, not_not]
    exact ⟨rfl, rfl, by rw [List.length_replicate]⟩

end KituraWebSocket
