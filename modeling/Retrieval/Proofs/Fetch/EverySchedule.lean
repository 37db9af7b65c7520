import Retrieval.Proofs.Fetch.Streams

/-! What a listener receives under every schedule. One list of events is fixed by the answer, the
location and the mode. Whatever the room in the channel, whoever moves when, and whether or not
the listener goes away in between: what was received and what waits is the beginning of that list. -/
namespace Retrieval.Fetch

/-- What holds at every point of every schedule. -/
structure InStep (all : List Event) (capacity : Nat) (w : Watched) : Prop where
  beginning : w.received ++ w.stream.queue <+: all
  room : w.stream.queue.length ≤ capacity
  /-- A listener who has gone receives nothing more. -/
  silence : w.stream.dropped = true → ∀ more, (w.run more).received = w.received
  whole : Closed w.received → w.received = all
  /-- A listener who stays can still have all the rest. -/
  rest : w.stream.dropped = false → w.received ++ w.stream.drain.1 = all

variable {location : String} {c : Course} {w : Watched}

/-- What holds of both kinds of listeners. -/
theorem inStep (hp : c.Proper location) (h : Listening location c w ∨ Deserted location c w)
    (hr : 0 < w.stream.capacity) : InStep (c.promised location) w.stream.capacity w := by
  -- As long as the listener stays the account of events says it all; after that what it has stays.
  rcases h with h | h
  · refine ⟨⟨w.stream.upcoming, h.account⟩, h.room, fun hd => ?_, h.received_eq hp,
      fun _ => (h.drain_eq hp hr).1⟩
    rw [h.stays] at hd
    cases hd
  · refine ⟨?_, ?_, fun _ more => h.received_run more, h.whole, fun hd => ?_⟩
    · rw [h.empty, List.append_nil]
      exact h.beginning
    · rw [h.empty]
      exact Nat.zero_le _
    · rw [h.gone] at hd
      cases hd

theorem inStep_run (hp : c.Proper location) (h : Listening location c w)
    (hr : 0 < w.stream.capacity) (moves : List Move) :
    InStep (c.promised location) w.stream.capacity (w.run moves) := by
  have hcap := Watched.capacity_run w moves
  have hafter := listening_or_deserted_run hp (Or.inl h) moves
  have hin := inStep hp hafter (by rw [hcap]; exact hr)
  rw [hcap] at hin
  exact hin

/-- Nothing is lost, doubled or reordered under any schedule. The list does not depend on the room
in the channel, which may be as small as one place. Whoever gives a stream up after some events has
had the first ones of the list, and has had all there is for it. -/
theorem events_under_every_schedule {config : Config} {l : Loader} (hl : l.MadeFrom config)
    (hfit : config.eventBuffer.toNat ≤ Loader.maxChannelCapacity) (n : Nat) :
    ∃ s, l.stream? n = some s ∧
      (∀ limit, (s.take limit).1 =
          (promised l.request.location l.delivery (l.answer n)).take limit ∧
        ∀ moves, ((Watched.mk (s.take limit).2.2.1.cancel (s.take limit).1).run moves).received =
          (s.take limit).1) ∧
      ∀ moves, InStep (promised l.request.location l.delivery (l.answer n))
        (max config.eventBuffer.toNat 1) ((Watched.mk s []).run moves) := by
  have hp := proper_loader l n
  have hs := Loader.stream?_eq hl hfit n
  obtain ⟨hstart, hcap⟩ := listening_stream hl hs
  have hroom : 0 < max config.eventBuffer.toNat 1 := by omega
  rw [← promised_loader]
  refine ⟨_, hs, fun limit => ?_, fun moves => ?_⟩
  · have htaken := (hstart.take_eq hp limit hroom (List.nil_append _).symm).1
    exact ⟨htaken, Watched.received_cancel _ _⟩
  · exact inStep_run hp hstart hroom moves

/-- One place in the channel, an empty piece, and a body that breaks down behind its first data. -/
theorem events_under_every_schedule_one_place :
    let all : List Event := [.opened, .status "data.bin" 200 [], .chunk [1, 2] ⟨2, 9⟩,
      .error (.taskAborted "data.bin")]
    let l := Loader.sample true 0 [.response
      { status := 200, contentLength := some 9,
        body := some [.chunk [1, 2], .chunk [], .crash, .chunk [3]] }]
    l.MadeFrom { eventBuffer := 0 } ∧ (0 : UInt64).toNat ≤ Loader.maxChannelCapacity ∧
      ∃ s, l.stream? 0 = some s ∧ (∀ limit, (s.take limit).1 = all.take limit) ∧
        ∀ moves, InStep all 1 ((Watched.mk s []).run moves) := by
  intro all l
  have hl : l.MadeFrom { eventBuffer := 0 } := Loader.madeFrom_sample _ _ _
  obtain ⟨s, hs, htake, hrun⟩ := events_under_every_schedule hl (by decide) 0
  exact ⟨hl, by decide, s, hs, fun limit => (htake limit).1, hrun⟩

end Retrieval.Fetch
