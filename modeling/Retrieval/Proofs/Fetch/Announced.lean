import Retrieval.Proofs.Fetch.Progress

/-! The length that a response announces shows in the expected total of the counters and nowhere
else: neither the bytes nor the way a retrieval ends depend on it. -/
namespace Retrieval.Fetch

/-- The event without what is said of the bytes expected. -/
def Event.withoutTotal : Event → Event
  | chunk data progress => chunk data { progress with total := 0 }
  | event => event

theorem counted_withoutTotal (length : Option Nat) (come : Nat) (pieces : List Bytes) :
    (counted (reading length come) pieces).map Event.withoutTotal =
      counted (reading none come) pieces := by
  -- A length that is not announced leaves the total at zero, as erasing it does.
  induction pieces generalizing come with
  | nil => rfl
  | cons data rest ih =>
    simp only [counted, reading_add, List.map_cons, ih]
    rfl

theorem heading_withoutTotal (location : String) (reply : Reply) :
    (heading location reply).map Event.withoutTotal = heading location reply := by
  cases reply <;> rfl

theorem lastWord_withoutTotal (location : String) (o : Outcome) :
    (o.lastWord location).map Event.withoutTotal = o.lastWord location := by
  cases o <;> rfl

theorem promised_withoutTotal (location : String) (answer : Answer) :
    (promised location .progressive answer).map Event.withoutTotal =
      .opened :: (heading location answer.reply ++
        counted (reading none 0) (arrivals answer.reply) ++
        (verdict location answer.reply).lastWord location) := by
  simp only [promised_eq, chunks_progressive, List.map_cons, List.map_append,
    heading_withoutTotal, counted_withoutTotal, lastWord_withoutTotal]
  rfl

theorem loaded_tally (length : Option Nat) (come : Nat) (pieces : List Bytes) :
    (tally length come pieces).map (·.loaded) = (tally none come pieces).map (·.loaded) := by
  induction pieces generalizing come with
  | nil => rfl
  | cons data rest ih =>
    simp only [tally, List.map_cons, ih]
    rfl

section

variable {location : String} {first second : Answer} {r : Response} {length : Option Nat}

theorem verdict_announced (hf : first.reply = .response r)
    (hs : second.reply = .response { r with contentLength := length }) :
    verdict location first.reply = verdict location second.reply := by
  rw [hf, hs]
  rfl

theorem promised_announced (hf : first.reply = .response r)
    (hs : second.reply = .response { r with contentLength := length }) :
    (promised location .progressive first).map Event.withoutTotal =
      (promised location .progressive second).map Event.withoutTotal := by
  -- What is left of the events names the heading, the pieces and the verdict.
  rw [promised_withoutTotal, promised_withoutTotal, hf, hs]
  rfl

theorem promised_buffered_announced (hf : first.reply = .response r)
    (hs : second.reply = .response { r with contentLength := length }) :
    promised location .buffered first = promised location .buffered second := by
  -- Only the counters of single pieces would look at the length.
  have hchunks : chunks .buffered first.reply = chunks .buffered second.reply := by
    rw [hf, hs]
    rfl
  have hheading : heading location first.reply = heading location second.reply := by
    rw [hf, hs]
    rfl
  exact promised_congr hheading hchunks (verdict_announced hf hs)

theorem loaded_announced (request : Request) (target : Target) (hf : first.reply = .response r)
    (hs : second.reply = .response { r with contentLength := length }) :
    (whole request target first).progress.map (·.loaded) =
      (whole request target second).progress.map (·.loaded) := by
  rw [progress_whole, progress_whole, loaded_tally, loaded_tally second.reply.length?, hf, hs]
  rfl

end

theorem verdict_of_pieces {r : Response} (hr : r.status = 0 ∨ r.status = 200) {sent : List Bytes}
    (hb : r.body = some (sent.map .chunk)) (location : String) :
    verdict location (.response r) = .payload sent.flatten := by
  have hn : ¬(r.status ≠ 0 ∧ r.status ≠ 200) := by omega
  simp only [verdict, if_neg hn, hb, bodyOutcome_map_chunk]

/-- Of two responses that differ in the announced length alone, all retrievals come to the same and
bring the same events, but for the totals in the counters of single pieces. Pieces that all arrive
are the payload under every announcement: the room that is reserved for them is bounded, so that no
announcement breaks a retrieval down. -/
theorem announced_length_shows_in_totals {config : Config} {l : Loader} (hl : l.MadeFrom config)
    (hfit : config.eventBuffer.toNat ≤ Loader.maxChannelCapacity) {i j : Nat} {r : Response}
    {length : Option Nat} (hi : (l.answer i).reply = .response r)
    (hj : (l.answer j).reply = .response { r with contentLength := length }) :
    (l.whole i).outcome = (l.whole j).outcome ∧
    (l.whole i).progress.map (·.loaded) = (l.whole j).progress.map (·.loaded) ∧
    ∃ p p' b b', (l.inMode true).stream? i = some p ∧ (l.inMode true).stream? j = some p' ∧
      (l.inMode false).stream? i = some b ∧ (l.inMode false).stream? j = some b' ∧
      p.drain.1.map Event.withoutTotal = p'.drain.1.map Event.withoutTotal ∧
      p.drain.2.1 = p'.drain.2.1 ∧
      b.drain.1 = b'.drain.1 ∧ b.drain.2.1 = b'.drain.2.1 ∧
      ∀ sent : List Bytes, (r.status = 0 ∨ r.status = 200) → r.body = some (sent.map .chunk) →
        (l.whole j).outcome = .payload sent.flatten ∧
        Conveys l.request.location p'.drain.1 (.payload sent.flatten) ∧
        Conveys l.request.location b'.drain.1 (.payload sent.flatten) := by
  have hverdict : verdict l.request.location (l.answer i).reply =
      verdict l.request.location (l.answer j).reply := verdict_announced hi hj
  obtain ⟨p, p', hp, hp', hpe, hpe', hpend⟩ := exists_inMode_pair hl hfit true i j
  obtain ⟨b, b', hb, hb', hbe, hbe', hbend⟩ := exists_inMode_pair hl hfit false i j
  refine ⟨outcome_whole_congr hverdict, loaded_announced l.request l.target hi hj,
    p, p', b, b', hp, hp', hb, hb', ?_, hpend hverdict, ?_, hbend hverdict, ?_⟩
  · rw [hpe, hpe']
    exact promised_announced hi hj
  · rw [hbe, hbe']
    exact promised_buffered_announced hi hj
  · intro sent hr hbody
    have hpayload : verdict l.request.location (l.answer j).reply = .payload sent.flatten := by
      rw [← hverdict, hi]
      exact verdict_of_pieces hr hbody _
    have hwhole : (l.whole j).outcome = _ := outcome_loader l j
    rw [hwhole, hpe', hbe', ← hpayload]
    exact ⟨rfl, conveys_promised, conveys_promised⟩

/-- A length far beyond the body, and none. -/
theorem announced_length_shows_in_totals_beyond :
    let r : Response := { status := 200, body := some [.chunk [1], .chunk [2, 3]] }
    let l := Loader.sample true 1
      [.response r, .response { r with contentLength := some (2 ^ 64 - 1) }]
    l.MadeFrom { eventBuffer := 1 } ∧ (1 : UInt64).toNat ≤ Loader.maxChannelCapacity ∧
      (l.answer 0).reply = .response r ∧
      (l.answer 1).reply = .response { r with contentLength := some (2 ^ 64 - 1) } ∧
      (l.whole 0).outcome = (l.whole 1).outcome ∧ (l.whole 1).outcome = .payload [1, 2, 3] ∧
      (l.whole 0).progress = [⟨1, 0⟩, ⟨3, 0⟩] ∧
      (l.whole 1).progress = [⟨1, 2 ^ 64 - 1⟩, ⟨3, 2 ^ 64 - 1⟩] := by
  intro r l
  have hl : l.MadeFrom { eventBuffer := 1 } := Loader.madeFrom_sample _ _ _
  obtain ⟨hsame, -, p, p', b, b', -, -, -, -, -, -, -, -, hsent⟩ :=
    announced_length_shows_in_totals hl (by decide) (rfl : (l.answer 0).reply = .response r)
      (rfl : (l.answer 1).reply = .response { r with contentLength := some (2 ^ 64 - 1) })
  exact ⟨hl, by decide, rfl, rfl, hsame, (hsent [[1], [2, 3]] (Or.inr rfl) rfl).1, rfl, rfl⟩

end Retrieval.Fetch
