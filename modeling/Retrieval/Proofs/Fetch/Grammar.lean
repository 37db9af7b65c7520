import Retrieval.Proofs.Fetch.Pieces
import Retrieval.Proofs.Fetch.Streams

/-! The grammar of the events of a stream, for every schedule that polls the stream to its end, and
what it says of the reply. -/
namespace Retrieval.Fetch

/-- An opening, then a heading with the chunks behind it if there is one, then one terminal event. -/
def Shaped (events : List Event) : Prop :=
  ∃ middle last, events = .opened :: (middle ++ [last]) ∧ last.isTerminal = true ∧
    (middle = [] ∨ ∃ location code headers data,
      middle = .status location code headers :: data ∧ ∀ e ∈ data, e.data?.isSome = true)

/-- The events of a stream that has ended, by mode and answer. -/
structure Grammatical (location : String) (mode : Delivery) (answer : Answer)
    (events : List Event) : Prop where
  shape : Shaped events
  /-- A heading is there just where a response came, and repeats it. -/
  heading : ∀ place code headers, .status place code headers ∈ events ↔
    place = location ∧ ∃ r, answer.reply = .response r ∧ code = r.status ∧ headers = r.headers
  /-- Data and a completion need a success status and a payload. -/
  read : (∃ e ∈ events, e.data?.isSome = true ∨ e = .complete) →
    ∃ r items, answer.reply = .response r ∧ (r.status = 0 ∨ r.status = 200) ∧ r.body = some items
  progressive : mode = .progressive → [] ∉ pieces events
  buffered : mode = .buffered →
    (pieces events).length ≤ 1 ∧ (.complete ∈ events → (pieces events).length = 1)
  /-- Where the transport breaks down, an error follows on what its task has told till then. -/
  aborted : verdict location answer.reply = .crashed →
    ∀ request target, request.location = location →
      events = (course request target mode answer).events ++ [.error (.taskAborted location)]

theorem isSome_data?_of_mem_chunks {mode : Delivery} {reply : Reply} {event : Event}
    (h : event ∈ chunks mode reply) : event.data?.isSome = true := by
  obtain ⟨bytes, q, rfl⟩ := mem_chunks h
  rfl

theorem exists_lastWord (location : String) {o : Outcome} (h : o ≠ .stalled) :
    ∃ last, o.lastWord location = [last] ∧ last.isTerminal = true := by
  cases o with
  | stalled => exact absurd rfl h
  | _ => exact ⟨_, rfl, rfl⟩

theorem mem_lastWord_complete (location : String) {o : Outcome} :
    .complete ∈ o.lastWord location ↔ ∃ data, o = .payload data := by
  cases o <;> simp [Outcome.lastWord, Outcome.parting]

section

variable {location : String} {mode : Delivery} {answer : Answer}

/-- The events have their shape: an opening, a status with chunks if there was a response, and one
last word. -/
theorem shaped_promised (h : verdict location answer.reply ≠ .stalled) :
    Shaped (promised location mode answer) := by
  obtain ⟨last, hl, ht⟩ := exists_lastWord location h
  refine ⟨heading location answer.reply ++ chunks mode answer.reply, last, ?_, ht, ?_⟩
  · rw [promised_eq, hl]
  · cases hr : answer.reply with
    | response r =>
      exact Or.inr ⟨location, r.status, r.headers, chunks mode (.response r), rfl,
        fun e he => isSome_data?_of_mem_chunks he⟩
    | refusal cause => exact Or.inl rfl
    | crash => exact Or.inl rfl

theorem mem_promised {event : Event} : event ∈ promised location mode answer ↔
    event = .opened ∨ event ∈ heading location answer.reply ∨
      event ∈ chunks mode answer.reply ∨
      event ∈ (verdict location answer.reply).lastWord location := by
  rw [promised_eq]
  simp only [List.mem_cons, List.mem_append, or_assoc]

/-- The status events repeat the response, with the location that was asked for. -/
theorem status_mem_promised (place : String) (code : Nat) (headers : Headers) :
    .status place code headers ∈ promised location mode answer ↔
      place = location ∧ ∃ r, answer.reply = .response r ∧ code = r.status ∧
        headers = r.headers := by
  rw [mem_promised]
  constructor
  · rintro (h | h | h | h)
    · cases h
    · obtain ⟨r, hr, he⟩ := mem_heading.mp h
      cases he
      exact ⟨rfl, r, hr, rfl, rfl⟩
    · obtain ⟨bytes, q, he⟩ := mem_chunks h
      cases he
    · cases isTerminal_of_mem_lastWord h
  · rintro ⟨rfl, r, hr, rfl, rfl⟩
    exact Or.inr (Or.inl (mem_heading.mpr ⟨r, hr, rfl⟩))

/-- A stream is completed exactly when the verdict is a payload. -/
theorem complete_mem_promised : .complete ∈ promised location mode answer ↔
    ∃ data, verdict location answer.reply = .payload data := by
  rw [mem_promised, ← mem_lastWord_complete location]
  constructor
  · rintro (h | h | h | h)
    · cases h
    · obtain ⟨r, -, he⟩ := mem_heading.mp h
      cases he
    · obtain ⟨bytes, q, he⟩ := mem_chunks h
      cases he
    · exact h
  · exact fun h => Or.inr (Or.inr (Or.inr h))

/-- Chunks and completions come of a body that was read. -/
theorem body?_of_mem_promised {event : Event} (h : event ∈ promised location mode answer)
    (hd : event.data?.isSome = true ∨ event = .complete) :
    ∃ items, answer.reply.body? = some items := by
  -- Without a body there are no chunks and no payload that could be complete.
  have hread : answer.reply.body? ≠ none := by
    intro hnone
    rcases hd with hd | rfl
    · have hchunks : event ∈ chunks mode answer.reply := by
        rcases mem_promised.mp h with rfl | h | h | h
        · cases hd
        · obtain ⟨r, -, rfl⟩ := mem_heading.mp h
          cases hd
        · exact h
        · cases event with
          | chunk bytes q => cases isTerminal_of_mem_lastWord h
          | _ => cases hd
      simp only [chunks, hnone, List.not_mem_nil] at hchunks
    · obtain ⟨data, hv⟩ := complete_mem_promised.mp h
      rcases verdict_cases location answer.reply with ⟨items, hb, -⟩ | ⟨-, hno⟩
      · rw [hnone] at hb
        cases hb
      · exact hno data hv
  exact Option.ne_none_iff_exists'.mp hread

theorem grammatical_promised (h : verdict location answer.reply ≠ .stalled) :
    Grammatical location mode answer (promised location mode answer) where
  shape := shaped_promised h
  heading := status_mem_promised
  read := by
    rintro ⟨event, hm, hd⟩
    obtain ⟨items, hb⟩ := body?_of_mem_promised hm hd
    obtain ⟨r, hr, hs, hbody⟩ := body?_eq_some hb
    exact ⟨r, items, hr, hs, hbody⟩
  progressive := by
    rintro rfl hm
    rw [pieces_promised] at hm
    exact ne_nil_of_mem_arrivals (show [] ∈ arrivals answer.reply from hm) rfl
  buffered := by
    rintro rfl
    simp only [pieces_promised, complete_mem_promised]
    refine ⟨?_, ?_⟩
    · cases verdict location answer.reply <;> simp [Outcome.payloads]
    · rintro ⟨data, hv⟩
      rw [hv]
      rfl
  aborted := by
    rintro hv request target rfl
    have hend := (tells_course request target mode answer).2
    rw [hv] at hend
    rw [← promised_course request target]
    simp only [Course.promised, hend, Outcome.ending, if_true]

/-- Polling a stream to its end, under any schedule, gives events that obey the grammar. Further
polls give nothing, and unless the body never continues the end is still within reach. -/
theorem event_grammar {config : Config} {l : Loader} (hl : l.MadeFrom config) (n : Nat) :
    ((l.stream? n).isSome = true ↔ config.eventBuffer.toNat ≤ Loader.maxChannelCapacity) ∧
    ∀ s, l.stream? n = some s → ∀ moves,
      let w := (Watched.mk s []).run moves
      w.stream.dropped = false →
      (w.stream.poll.1 = .ended →
        Grammatical l.request.location l.delivery (l.answer n) w.received ∧
        ∀ more, (w.run more).stream.poll.1 = .ended ∧ (w.run more).received = w.received) ∧
      (verdict l.request.location (l.answer n).reply ≠ .stalled →
        ∃ more, Move.release ∉ more ∧ (w.run more).stream.poll.1 = .ended) := by
  refine ⟨Loader.stream?_isSome hl n, ?_⟩
  intro s hs moves w hstays
  have hp := proper_loader l n
  obtain ⟨hstart, hcap⟩ := listening_stream hl hs
  -- A stream that was not given up is still listened to.
  have hw : Listening l.request.location (l.course n) w := by
    rcases listening_or_deserted_run hp (Or.inl hstart) moves with h | h
    · exact h
    · rw [h.gone] at hstays
      cases hstays
  refine ⟨fun hpoll => ⟨?_, Watched.ended_run hpoll⟩, fun hv => ?_⟩
  · have hfinished : w.stream.receiver.finished = true := by
      refine (Stream.poll_eq_ended.mp hpoll).resolve_left ?_
      rw [hstays]
      decide
    have hclosed := hw.finished.mp hfinished
    have hall := hw.received_eq hp hclosed
    rw [hall, promised_loader] at hclosed ⊢
    exact grammatical_promised (closed_promised.mp hclosed)
  · have hroom : 0 < w.stream.capacity := by
      have hsame : w.stream.capacity = s.capacity := Watched.capacity_run _ moves
      omega
    exact hw.exists_end hp hroom fun he => hv (ending_course_eq_stalled.mp he)

/-- A body that breaks off in one of its pieces, over a channel with one place. -/
theorem event_grammar_broken_off :
    let l := Loader.sample true 0 [.response
      { status := 200, contentLength := some 2,
        body := some [.chunk [1], .chunk [], .failure (.fileRead "data.bin" (.system 5)), .chunk [2]] }]
    let events : List Event := [.opened, .status "data.bin" 200 [], .chunk [1] ⟨1, 2⟩,
      .error (.fileRead "data.bin" (.system 5))]
    l.MadeFrom { eventBuffer := 0 } ∧ ∃ s, l.stream? 0 = some s ∧
      let w := (Watched.mk s []).run
        [.work, .work, .poll, .work, .work, .poll, .work, .poll, .work, .work, .poll]
      w.stream.dropped = false ∧ w.stream.poll.1 = .ended ∧ w.received = events ∧
        verdict "data.bin" (l.answer 0).reply ≠ .stalled ∧
        Grammatical "data.bin" .progressive (l.answer 0) events :=
  ⟨Loader.madeFrom_sample _ _ _, _, rfl, rfl, rfl, rfl, nofun,
    (((event_grammar (Loader.madeFrom_sample true 0 _) 0).2 _ rfl
      [.work, .work, .poll, .work, .work, .poll, .work, .poll, .work, .work, .poll] rfl).1 rfl).1⟩

end

end Retrieval.Fetch
