/-
# Cutting a stream into socket reads

The processor is handed a stream in the pieces in which it arrives. Up to the
first parse error it should make the same calls however the stream was cut, and
`chunkingInvariant_iff` says when it does: unless a socket read ends between the
length and the end of the mask of a frame without payload. There the parser
stores the length zero, takes the frame for complete on the next call and never
consumes another byte.
-/

import KituraWebSocket.Receive.ProcessLoop

namespace KituraWebSocket

open Scanner

namespace WSSocketProcessor

/-- The calls up to the first parse error, that call included. -/
def upToFirstError : List ConnectionCall → List ConnectionCall
  | [] => []
  | .received frame :: calls => .received frame :: upToFirstError calls
  | .close reason description :: _ => [.close reason description]

/-- The processor hands over the same frames, and then reports the same error if
any, as when it is presented the whole stream in one buffer. -/
def ChunkingInvariant (reads : List (List UInt8)) : Prop :=
  (recordedCalls reads).map upToFirstError =
    (recordedCalls [reads.flatten]).map upToFirstError

instance (reads : List (List UInt8)) : Decidable (ChunkingInvariant reads) := by
  unfold ChunkingInvariant
  infer_instance

/-- The stream so far ends between the length and the end of the mask of a frame
whose length is zero. -/
def EmptyMaskPending : Scanner → Prop
  | .header _ _ seen => LengthIsZero seen
  | _ => False

/-- A cut between two parts of a stream falls between the length and the end of the
mask of a frame without payload that the stream completes. -/
def CutInEmptyMask (before after : List UInt8) : Prop :=
  ∃ finalFrame opCode second rest,
    (scan .start before).1 = .header finalFrame opCode (second :: rest) ∧
    LengthIsZero (second :: rest) ∧ headerSize second ≤ rest.length + 1 + after.length

theorem upToFirstError_frames (frames : List WSFrame) (calls : List ConnectionCall) :
    upToFirstError ((frames.map StreamEvent.frame).map StreamEvent.call ++ calls) =
      (frames.map StreamEvent.frame).map StreamEvent.call ++ upToFirstError calls := by
  induction frames with
  | nil => rfl
  | cons frame frames ih =>
    simp only [List.map_cons, List.cons_append, StreamEvent.call, upToFirstError, ih]

/-- The events of a stream are their own beginning up to the first error. -/
theorem upToFirstError_scan (bytes : List UInt8) :
    upToFirstError ((scan .start bytes).2.map StreamEvent.call) =
      (scan .start bytes).2.map StreamEvent.call := by
  obtain ⟨frames, ⟨_, hevents⟩ | ⟨error, herror⟩⟩ :=
    scan_cases (by decide : Scanner.start ≠ .failed) bytes
  · rw [hevents]
    simpa [upToFirstError] using upToFirstError_frames frames []
  · rw [herror, List.map_append, upToFirstError_frames]
    rfl

/-- After an error, further calls do not count. -/
theorem upToFirstError_append {bytes : List UInt8} (hfailed : (scan .start bytes).1 = .failed)
    (more : List ConnectionCall) :
    upToFirstError ((scan .start bytes).2.map StreamEvent.call ++ more) =
      (scan .start bytes).2.map StreamEvent.call := by
  obtain ⟨frames, ⟨hstate, _⟩ | ⟨error, herror⟩⟩ :=
    scan_cases (by decide : Scanner.start ≠ .failed) bytes
  · exact absurd hfailed hstate
  · rw [herror, List.map_append, List.append_assoc, upToFirstError_frames]
    rfl

/-- How a processor and the buffer of its handler relate to the bytes delivered in
a list of socket reads. -/
inductive Follows (reads : List (List UInt8)) (reading : Reading (List ConnectionCall)) : Prop
  | /-- The processor has made the calls of the stream so far, and what the buffer
    still holds is the beginning of a header. -/
    synced
      (calls : reading.processor.connection =
        (scan .start reads.flatten).2.map StreamEvent.call)
      (state : scan reading.processor.parser.scanner
        (reading.buffer.drop reading.processor.byteIndex) = ((scan .start reads.flatten).1, []))
      (running : (scan .start reads.flatten).1 ≠ .failed)
      (wf : reading.processor.parser.Wf) (free : ¬ reading.processor.parser.Stuck)
      (bound : reading.processor.byteIndex ≤ reading.buffer.length)
      (quiet : ∀ before after, reads = before ++ after →
        ¬ EmptyMaskPending (scan .start before.flatten).1)
  | /-- A read ended inside the mask of an empty frame, and nothing has happened since. -/
    stuck (before after : List (List UInt8)) (split : reads = before ++ after)
      (calls : reading.processor.connection =
        (scan .start before.flatten).2.map StreamEvent.call)
      (wf : reading.processor.parser.Wf) (stuck : reading.processor.parser.Stuck)
      (bound : reading.processor.byteIndex < reading.buffer.length)
      (finalFrame : Bool) (opCode : FrameOpcode) (second : UInt8) (rest : List UInt8)
      (pending : (scan .start before.flatten).1 = .header finalFrame opCode (second :: rest))
      (short : HeaderShort (second :: rest)) (zero : LengthIsZero (second :: rest))
      (first : ∀ early late, before = early ++ late → late ≠ [] →
        ¬ EmptyMaskPending (scan .start early.flatten).1)
  | /-- An error was reported. -/
    failed
      (calls : upToFirstError reading.processor.connection =
        (scan .start reads.flatten).2.map StreamEvent.call)
      (state : (scan .start reads.flatten).1 = .failed)
      (reported : ∀ more, upToFirstError (reading.processor.connection ++ more) =
        upToFirstError reading.processor.connection)
      (wf : reading.processor.parser.Wf)
      (quiet : ∀ before after, reads = before ++ after →
        ¬ EmptyMaskPending (scan .start before.flatten).1)

theorem not_emptyMaskPending_scanner (parser : WSFrameParser) :
    ¬ EmptyMaskPending parser.scanner := by
  unfold WSFrameParser.scanner
  split <;> simp [EmptyMaskPending, LengthIsZero]

/-- A cut after one more read is either an earlier cut or the end. -/
theorem split_concat {α : Type} {reads before after : List α} {bytes : α}
    (hsplit : reads ++ [bytes] = before ++ after) :
    (∃ late, reads = before ++ late) ∨ before = reads ++ [bytes] ∧ after = [] := by
  rcases List.eq_nil_or_concat after with rfl | ⟨late, last, rfl⟩
  · exact .inr ⟨by simpa using hsplit.symm, rfl⟩
  · rw [List.concat_eq_append, ← List.append_assoc] at hsplit
    exact .inl ⟨late, (List.append_inj' hsplit rfl).1⟩

/-- No mask of an empty frame was pending after any read, and none is after one more. -/
theorem quiet_concat {reads : List (List UInt8)} {bytes : List UInt8}
    (quiet : ∀ before after, reads = before ++ after →
      ¬ EmptyMaskPending (scan .start before.flatten).1)
    (hend : ¬ EmptyMaskPending (scan .start (reads ++ [bytes]).flatten).1) :
    ∀ before after, reads ++ [bytes] = before ++ after →
      ¬ EmptyMaskPending (scan .start before.flatten).1 := by
  intro before after hsplit
  rcases split_concat hsplit with ⟨late, hearly⟩ | ⟨rfl, _⟩
  · exact quiet before late hearly
  · exact hend

theorem follows_nil : Follows [] { processor := fresh [] } :=
  .synced rfl rfl (by decide) WSFrameParser.wf_fresh (fun h => by cases h.1) le_rfl (by
    intro before after hsplit
    obtain ⟨rfl, rfl⟩ := List.append_eq_nil_iff.mp hsplit.symm
    exact fun h => h)

/-- What the recorder and the buffer hold after one more read. -/
theorem deliver_recorder {connection : List ConnectionCall} {parser : WSFrameParser} {index : ℕ}
    {buffer bytes : List UInt8} {exit : LoopExit}
    (hleaves : LeavesAt (buffer ++ bytes) parser index exit) :
    deliver recorder ⟨⟨connection, parser, index⟩, buffer⟩ bytes = .ok
      { processor := ⟨connection ++ exit.events.map StreamEvent.call, exit.parser,
          exit.nextIndex (buffer ++ bytes)⟩
        buffer := if exit.finished (buffer ++ bytes) then [] else buffer ++ bytes } := by
  have hprocess := process_eq hleaves recorder connection
  rw [replayAll_recorder, ok_bind] at hprocess
  simp only [deliver, hprocess, ok_bind, pure_eq_ok]

/-- A stuck processor keeps what it is given in the buffer. -/
theorem deliver_stuck {reading : Reading (List ConnectionCall)} {bytes : List UInt8}
    (hwf : reading.processor.parser.Wf) (hstuck : reading.processor.parser.Stuck)
    (hmore : reading.processor.byteIndex < reading.buffer.length) :
    deliver recorder reading bytes = .ok { reading with buffer := reading.buffer ++ bytes } := by
  obtain ⟨⟨connection, parser, index⟩, buffer⟩ := reading
  have hstill : index < (buffer ++ bytes).length := by
    rw [List.length_append]
    exact Nat.lt_add_right _ hmore
  have hleaves : LeavesAt (buffer ++ bytes) parser index ⟨[], false, parser, index⟩ :=
    leavesAt_stuck hwf hstuck
  rw [deliver_recorder hleaves, LoopExit.finished_of_more rfl hstill,
    LoopExit.nextIndex_of_more hstill, List.map_nil, List.append_nil, if_neg (by decide)]

/-- One more read, from a processor that keeps up with the stream. -/
theorem follows_synced {reads : List (List UInt8)} {reading : Reading (List ConnectionCall)}
    (bytes : List UInt8)
    (calls : reading.processor.connection = (scan .start reads.flatten).2.map StreamEvent.call)
    (state : scan reading.processor.parser.scanner
      (reading.buffer.drop reading.processor.byteIndex) = ((scan .start reads.flatten).1, []))
    (wf : reading.processor.parser.Wf) (free : ¬ reading.processor.parser.Stuck)
    (bound : reading.processor.byteIndex ≤ reading.buffer.length)
    (quiet : ∀ before after, reads = before ++ after →
      ¬ EmptyMaskPending (scan .start before.flatten).1) :
    ∃ next, deliver recorder reading bytes = .ok next ∧ Follows (reads ++ [bytes]) next := by
  obtain ⟨⟨connection, parser, index⟩, buffer⟩ := reading
  simp only at calls state wf free bound
  obtain ⟨exit, hleaves, hexit, hevents, houtcome⟩ := exists_exit wf (buffer ++ bytes) index
  have hunread : (buffer ++ bytes).drop index = buffer.drop index ++ bytes :=
    List.drop_append_of_le_length bound
  have hwhole : scan .start (reads ++ [bytes]).flatten =
      ((scan parser.scanner ((buffer ++ bytes).drop index)).1,
        (scan .start reads.flatten).2 ++
          (scan parser.scanner ((buffer ++ bytes).drop index)).2) := by
    rw [hunread, scan_append_of_eq state, List.flatten_append, List.flatten_singleton, scan_append]
    simp
  have hcalls : connection ++ exit.events.map StreamEvent.call =
      (scan .start (reads ++ [bytes]).flatten).2.map StreamEvent.call := by
    rw [hwhole, hevents, found, if_neg free, calls, List.map_append]
  refine ⟨_, deliver_recorder hleaves, ?_⟩
  cases houtcome free with
  | error failed scanned left bounds =>
    have hstate : (scan .start (reads ++ [bytes]).flatten).1 = .failed := by
      rw [hwhole, scanned]
    refine .failed ?_ hstate ?_ hexit (quiet_concat quiet ?_)
    · rw [hcalls, upToFirstError_scan]
    · intro more
      rw [hcalls, upToFirstError_append hstate, upToFirstError_scan]
    · rw [hstate]
      exact fun h => h
  | waiting state failed scanned rest left bounds waits =>
    have hstate : (scan .start (reads ++ [bytes]).flatten).1 = state := by
      rw [hwhole, scanned]
    rcases exit.waiting_cases failed rest waits with ⟨hfinished, hindex, hscanner, hfree⟩ |
      ⟨second, tail, _, _, hfinished, hindex, hmore, hshort, rfl, hstuck⟩
    · -- All bytes are consumed: the buffer will be emptied.
      rw [hfinished, hindex, if_pos rfl]
      rw [← hscanner] at hstate
      refine .synced hcalls ?_ ?_ left hfree le_rfl (quiet_concat quiet ?_)
      · rw [List.drop_nil, scan_nil, hstate]
      · rw [hstate]
        exact WSFrameParser.scanner_ne_failed exit.parser
      · rw [hstate]
        exact not_emptyMaskPending_scanner exit.parser
    · -- A header that is cut short: the buffer will be presented again.
      rw [hfinished, hindex, if_neg (by decide)]
      by_cases hzero : LengthIsZero (second :: tail)
      · refine .stuck (reads ++ [bytes]) [] (by simp) hcalls left (hstuck.mpr hzero) hmore
          _ _ second tail hstate hshort hzero ?_
        intro early late hsplit hlate
        rcases split_concat hsplit with ⟨late, hearly⟩ | ⟨_, hnone⟩
        · exact quiet early late hearly
        · exact absurd hnone hlate
      · refine .synced hcalls ?_ ?_ left (fun h => hzero (hstuck.mp h)) hmore.le
          (quiet_concat quiet ?_)
        · rw [rest, hstate]
        · rw [hstate]
          simp
        · rw [hstate]
          exact hzero

/-- One more read, to a stuck processor. -/
theorem follows_stuck {reads before after : List (List UInt8)}
    {reading : Reading (List ConnectionCall)} (bytes : List UInt8)
    (split : reads = before ++ after)
    (calls : reading.processor.connection = (scan .start before.flatten).2.map StreamEvent.call)
    (wf : reading.processor.parser.Wf) (stuck : reading.processor.parser.Stuck)
    (bound : reading.processor.byteIndex < reading.buffer.length)
    {finalFrame : Bool} {opCode : FrameOpcode} {second : UInt8} {rest : List UInt8}
    (pending : (scan .start before.flatten).1 = .header finalFrame opCode (second :: rest))
    (short : HeaderShort (second :: rest)) (zero : LengthIsZero (second :: rest))
    (first : ∀ early late, before = early ++ late → late ≠ [] →
      ¬ EmptyMaskPending (scan .start early.flatten).1) :
    ∃ next, deliver recorder reading bytes = .ok next ∧ Follows (reads ++ [bytes]) next := by
  have hmore : reading.processor.byteIndex < (reading.buffer ++ bytes).length := by
    rw [List.length_append]
    exact Nat.lt_add_right _ bound
  exact ⟨_, deliver_stuck wf stuck bound, .stuck before (after ++ [bytes])
    (by rw [split, List.append_assoc]) calls wf stuck hmore finalFrame opCode second rest pending
    short zero first⟩

/-- One more read, after an error. -/
theorem follows_failed {reads : List (List UInt8)} {reading : Reading (List ConnectionCall)}
    (bytes : List UInt8)
    (calls : upToFirstError reading.processor.connection =
      (scan .start reads.flatten).2.map StreamEvent.call)
    (state : (scan .start reads.flatten).1 = .failed)
    (reported : ∀ more, upToFirstError (reading.processor.connection ++ more) =
      upToFirstError reading.processor.connection)
    (wf : reading.processor.parser.Wf)
    (quiet : ∀ before after, reads = before ++ after →
      ¬ EmptyMaskPending (scan .start before.flatten).1) :
    ∃ next, deliver recorder reading bytes = .ok next ∧ Follows (reads ++ [bytes]) next := by
  obtain ⟨⟨connection, parser, index⟩, buffer⟩ := reading
  have hwhole : scan .start (reads ++ [bytes]).flatten = scan .start reads.flatten := by
    rw [List.flatten_append, List.flatten_singleton, scan_append, state, scan_failed,
      List.append_nil, ← state]
  obtain ⟨exit, hleaves, hexit, _, _⟩ := exists_exit wf (buffer ++ bytes) index
  refine ⟨_, deliver_recorder hleaves, .failed ?_ (hwhole ▸ state) ?_ hexit
    (quiet_concat quiet ?_)⟩
  · rw [reported, hwhole, calls]
  · intro more
    rw [List.append_assoc, reported, reported]
  · rw [hwhole, state]
    exact fun h => h

/-- Every run follows the stream. -/
theorem follows_deliverAll (reads : List (List UInt8)) :
    ∃ reading, deliverAll recorder { processor := fresh [] } reads = .ok reading ∧
      Follows reads reading := by
  induction reads using List.reverseRecOn with
  | nil => exact ⟨_, rfl, follows_nil⟩
  | append_singleton reads bytes ih =>
    obtain ⟨reading, hrun, hfollows⟩ := ih
    have hstep : ∃ next, deliver recorder reading bytes = .ok next ∧
        Follows (reads ++ [bytes]) next := by
      cases hfollows with
      | synced calls state running wf free bound quiet =>
        exact follows_synced bytes calls state wf free bound quiet
      | stuck before after split calls wf stuck bound finalFrame opCode second rest pending short
          zero first =>
        exact follows_stuck bytes split calls wf stuck bound pending short zero first
      | failed calls state reported wf quiet =>
        exact follows_failed bytes calls state reported wf quiet
    obtain ⟨next, hdeliver, hnext⟩ := hstep
    refine ⟨next, ?_, hnext⟩
    exact FallibleRun.run_concat_ok.mpr ⟨reading, hrun, hdeliver⟩

/-- A fresh processor that is presented the whole stream at once makes the calls of the
stream. -/
theorem recordedCalls_whole (bytes : List UInt8) :
    (recordedCalls [bytes]).map upToFirstError =
      .ok ((scan .start bytes).2.map StreamEvent.call) := by
  obtain ⟨reading, hrun, hfollows⟩ := follows_deliverAll [bytes]
  have hcalls : upToFirstError reading.processor.connection =
      (scan .start [bytes].flatten).2.map StreamEvent.call := by
    cases hfollows with
    | synced calls =>
      rw [calls, upToFirstError_scan]
    | failed calls => exact calls
    | stuck before after split calls wf stuck bound finalFrame opCode second rest pending =>
      rcases List.cons_eq_append_iff.mp split with ⟨rfl, _⟩ | ⟨none, rfl, hnone⟩
      · cases pending
      · obtain ⟨rfl, rfl⟩ := List.append_eq_nil_iff.mp hnone.symm
        rw [calls, upToFirstError_scan]
  simpa [recordedCalls, hrun, Except.map] using hcalls

/-- A cut inside the mask of an empty frame leaves the mask pending. -/
theorem CutInEmptyMask.pending {before after : List UInt8} (hcut : CutInEmptyMask before after) :
    EmptyMaskPending (scan .start before).1 := by
  obtain ⟨finalFrame, opCode, second, rest, hstate, hzero, _⟩ := hcut
  rw [hstate]
  exact hzero

/-- No cut counts in a stream that ends before the first pending mask is complete. -/
theorem not_cut_of_pending {before after early late : List (List UInt8)} {finalFrame : Bool}
    {opCode : FrameOpcode} {second : UInt8} {rest : List UInt8}
    (hpending : (scan .start before.flatten).1 = .header finalFrame opCode (second :: rest))
    (hmasked : isMasked second = true)
    (hshort : rest.length + 1 + after.flatten.length < headerSize second)
    (hfirst : ∀ early late, before = early ++ late → late ≠ [] →
      ¬ EmptyMaskPending (scan .start early.flatten).1)
    (hsplit : before ++ after = early ++ late) : ¬ CutInEmptyMask early.flatten late.flatten := by
  intro hcut
  -- The cut lies behind the place where the mask became pending, at it or before it.
  rcases List.append_eq_append_iff.mp hsplit with ⟨middle, rfl, rfl⟩ | ⟨middle, rfl, rfl⟩
  · obtain ⟨finalFrame', opCode', second', rest', hstate, _, hsize⟩ := hcut
    rw [List.flatten_append, List.length_append] at hshort
    rw [List.flatten_append, scan_append, hpending, scan_header_more hmasked (by omega)] at hstate
    obtain ⟨_, _, rfl, rfl⟩ : finalFrame = finalFrame' ∧ opCode = opCode' ∧
        second = second' ∧ rest ++ middle.flatten = rest' := by simpa using hstate
    rw [List.length_append] at hsize
    omega
  · by_cases hmiddle : middle = []
    · subst hmiddle
      simp only [List.append_nil] at hpending hshort
      obtain ⟨finalFrame', opCode', second', rest', hstate, _, hsize⟩ := hcut
      rw [hpending] at hstate
      obtain ⟨_, _, rfl, rfl⟩ : finalFrame = finalFrame' ∧ opCode = opCode' ∧
          second = second' ∧ rest = rest' := by simpa using hstate
      simp only [List.nil_append] at hsize
      omega
    · exact hfirst early middle rfl hmiddle hcut.pending

/-- However a stream is cut into socket reads, the processor makes the calls it makes for the whole
stream, up to the first error, exactly when no read ends between the length and the end of the mask
of a frame without payload that a later read completes. -/
theorem chunkingInvariant_iff (reads : List (List UInt8)) :
    ChunkingInvariant reads ↔
      ∀ before after, reads = before ++ after →
        ¬ CutInEmptyMask before.flatten after.flatten := by
  obtain ⟨reading, hrun, hfollows⟩ := follows_deliverAll reads
  have hcalls : ChunkingInvariant reads ↔ upToFirstError reading.processor.connection =
      (scan .start reads.flatten).2.map StreamEvent.call := by
    rw [ChunkingInvariant, recordedCalls_whole]
    simp [recordedCalls, hrun, Except.map]
  rw [hcalls]
  cases hfollows with
  | synced calls state running wf free bound quiet =>
    rw [calls, upToFirstError_scan]
    exact iff_of_true rfl fun before after hsplit hcut =>
      quiet before after hsplit hcut.pending
  | failed calls state reported wf quiet =>
    exact iff_of_true calls fun before after hsplit hcut =>
      quiet before after hsplit hcut.pending
  | stuck before after split calls wf stuck bound finalFrame opCode second rest pending short
      zero first =>
    have hwhole : (scan .start reads.flatten).2 = (scan .start before.flatten).2 ++
        (scan (.header finalFrame opCode (second :: rest)) after.flatten).2 := by
      rw [split, List.flatten_append, scan_append, pending]
    rw [calls, upToFirstError_scan, hwhole, List.map_append, List.self_eq_append_right,
      List.map_eq_nil_iff]
    by_cases henough : headerSize second ≤ rest.length + 1 + after.flatten.length
    · -- The frame is completed later, and the stuck processor misses it.
      refine iff_of_false (scan_header_empty short.1 short.2 zero henough) fun hnone => ?_
      exact hnone before after split ⟨_, _, _, _, pending, zero, henough⟩
    · -- The stream ends before the frame does.
      have hfew : rest.length + 1 + after.flatten.length < headerSize second :=
        Nat.not_le.mp henough
      apply iff_of_true
      · rw [scan_header_more short.1 hfew]
      · intro early late hsplit
        exact not_cut_of_pending pending short.1 hfew first (split.symm.trans hsplit)

/-- A ping without payload, cut behind its length: the pong it asks for is never
requested. -/
theorem not_chunkingInvariant_empty_ping :
    ¬ ChunkingInvariant [[0x89, 0x80], [1, 2, 3, 4]] := by
  decide +kernel

end WSSocketProcessor

end KituraWebSocket
