/-
# Every call gets through

`frames_uninterleaved` is about what has been written; here it is about what will be. The
write lock is signalled on every path through `sendMessage`, so no call waits for ever: under
every fair schedule all calls return, and the handler has been given every frame, whole and
once.
-/

import KituraWebSocket.Send.Senders
import KituraWebSocket.Support.FairSchedule

namespace KituraWebSocket

open CriticalSection FairSchedule Grammar

namespace SendCall

/-- How far a position is from the end. -/
def Position.rank : Position → ℕ
  | .clear => 3
  | .header => 2
  | .payload => 1
  | .writeBuffer | .writePayload => 0

theorem ranked_code (call : SendCall) : Ranked call.code Position.rank := by
  intro position output next after hact
  replace hact : call.act position output = .ok (some next, after) := hact
  cases position with
  | clear =>
    cases hact
    decide
  | header =>
    rw [act, bind_eq_ok] at hact
    obtain ⟨_, _, hnext⟩ := hact
    cases hnext
    decide
  | payload =>
    rw [act] at hact
    split at hact
    · split at hact <;> cases hact <;> decide
    · cases hact
  | writeBuffer => cases hact
  | writePayload => cases hact

/-- The frame of a call. -/
def frame (call : SendCall) : WSFrame := ⟨true, call.opCode, call.payload.getD []⟩

/-- Whatever number of calls send at the same time, under a fair schedule the time comes when they
have all returned and the lock is free. The handler has then been given, behind what was written
before, the complete frames of all calls, each once, and a client decodes them to these frames and
nothing else. -/
theorem all_frames_written {ι : Type*} [DecidableEq ι] [Fintype ι] (calls : ι → SendCall)
    (start : SharedOutput) (schedule : ℕ → ι) (hfair : Fair schedule) :
    ∃ count state written,
      FallibleRun.run (step fun call => (calls call).code) (initial start)
        (turns schedule count) = .ok state ∧
      (∀ call, state.stage call = .done) ∧ state.semaphore = 1 ∧
      state.entered.Nodup ∧ (∀ call, call ∈ state.entered) ∧
      state.shared.writes.flatten = start.writes.flatten ++ written ∧
      PrefixCode.decodeAll decodeServerFrame state.entered.length written =
        some (state.entered.map fun call => (calls call).frame) := by
  obtain ⟨count, state, hrun, hdone, hfree, hall⟩ := CriticalSection.all_done
    (fun call => (calls call).total_code) (fun call => (calls call).ranked_code) start hfair
  refine ⟨count, state, _, hrun, hdone, hfree.semaphore, hfree.nodup, hall,
    writes_of_serial calls hfree.serial, ?_⟩
  have hstream : state.entered.flatMap (fun call => (calls call).encoding) =
      (state.entered.map fun call => (calls call).frame).flatMap serverFrame := by
    rw [List.flatMap_map]
    rfl
  rw [hstream]
  apply PrefixCode.decodeAll_flatMap _ (fun frame => by simp [serverFrame, serverHeader])
    (by simp)
  intro frame hframe
  obtain ⟨call, _, rfl⟩ := List.mem_map.mp hframe
  have hlength := (calls call).length_le
  exact decodeServerFrame_serverFrame (calls call).opCode_known
    (by simp only [SendCall.frame]; omega)

/-- A ping, and a message that does not fit into the buffer, whose calls take turns. -/
theorem all_frames_written_two :
    ∃ count state written,
      FallibleRun.run (step fun call : Bool => (if call then
          (⟨.ping, none, by decide, by decide⟩ : SendCall)
        else ⟨.binary, some (List.replicate 2000 0), by decide, by decide +kernel⟩).code)
        (initial ⟨[], []⟩) (turns (fun turn => turn % 2 == 0) count) = .ok state ∧
      (∀ call, state.stage call = .done) ∧ state.semaphore = 1 ∧
      state.entered.Nodup ∧ (∀ call, call ∈ state.entered) ∧
      state.shared.writes.flatten = [] ++ written ∧
      PrefixCode.decodeAll decodeServerFrame state.entered.length written =
        some (state.entered.map fun call : Bool => (if call then
            (⟨.ping, none, by decide, by decide⟩ : SendCall)
          else ⟨.binary, some (List.replicate 2000 0), by decide, by decide +kernel⟩).frame) := by
  apply all_frames_written _ ⟨[], []⟩
  intro turn now
  cases turn with
  | true => exact ⟨2 * now, by omega, by simp⟩
  | false => exact ⟨2 * now + 1, by omega, by simp [Nat.add_mod]⟩

end SendCall

end KituraWebSocket
