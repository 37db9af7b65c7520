import Retrieval.Proofs.Fetch.Grammar

/-! All ways to fetch a resource come to the same. The verdict on a reply is what fetching as one
payload returns, and what the streams of both modes tell. -/
namespace Retrieval

/-- Whether the transport goes on after the item, or fails at it in order. -/
def BodyItem.orderly : BodyItem → Bool
  | crash | stall => false
  | chunk _ | failure _ | wait _ => true

/-- Whether the transport neither breaks down nor falls silent for ever. -/
def Reply.orderly : Reply → Bool
  | response r => r.body.all (·.all BodyItem.orderly)
  | refusal _ => true
  | crash => false

namespace Transport

variable {config : Config}

/-- The network answers or fails, and so does the body of its answer. -/
theorem orderly_exchange (network : Http.Network) (request : Request) (url : Url) :
    (exchange config network request url).orderly = true := by
  unfold exchange
  split
  · rfl
  · split
    · rfl
    · simp only [Reply.orderly, Option.all_some, List.all_map, List.all_eq_true]
      intro item hm
      cases item <;> rfl

/-- A file is missing or read, unless the buffer for an open one is too large to be asked for. -/
theorem orderly_openFile {files : Storage.FileSystem} {location : String} {path : Bytes}
    {read : Nat → Bytes → List Bytes}
    (h : ∀ source, files.openSource path = .ok source → chunkSize config ≤ maxBuffer) :
    (openFile config files location path read).reply.orderly = true := by
  unfold openFile
  split
  · rfl
  · rename_i source hsource
    rw [if_neg (Nat.not_lt.mpr (h source hsource))]
    simp [Reply.orderly, fileBody, BodyItem.orderly]

variable {files : Storage.FileSystem} {location : String} {path : Bytes}
  {read : Nat → Bytes → List Bytes} {source : Storage.Source} {cause : Storage.Failure}

theorem reply_openFile (ho : files.openSource path = .ok source)
    (hs : chunkSize config ≤ maxBuffer) :
    (openFile config files location path read).reply = .response
      { status := 0
        headers := fileHeaders source.length
        contentLength := source.length
        body := some (fileBody read location (chunkSize config) source) } := by
  simp only [openFile, ho, if_neg (Nat.not_lt.mpr hs)]

theorem reply_openFile_of_error (ho : files.openSource path = .error cause) :
    (openFile config files location path read).reply =
      .response { status := 0, statusText := cause.message, body := none } := by
  simp only [openFile, ho]

/-- An open file does not help where the buffer is too large to be asked for. -/
theorem reply_openFile_of_large (ho : files.openSource path = .ok source)
    (hs : maxBuffer < chunkSize config) :
    (openFile config files location path read).reply = .crash := by
  simp only [openFile, ho, gt_iff_lt, if_pos hs]

/-- What is read of a file is its payload, unless reading fails in the end. -/
theorem bodyOutcome_fileBody (size : Nat) :
    Fetch.bodyOutcome (fileBody read location size source) =
      source.failure.elim (.payload (read size source.content).flatten)
        fun cause => .failure (.fileRead location cause) := by
  rw [fileBody, Fetch.bodyOutcome_map_chunk_append]
  cases source.failure <;> simp [Fetch.Outcome.prepend]

theorem arrived_fileBody (size : Nat) :
    Fetch.arrived (fileBody read location size source) =
      (read size source.content).filter (!·.isEmpty) := by
  rw [fileBody, Fetch.arrived_map_chunk_append]
  cases source.failure <;> simp

end Transport

def Loader.inMode (l : Loader) (progressive : Bool) : Loader :=
  { l with transport := { l.transport with progressive } }

theorem Loader.madeFrom_inMode {config : Config} {l : Loader} (h : l.MadeFrom config)
    (progressive : Bool) : (l.inMode progressive).MadeFrom config :=
  have hmade := madeFrom_iff.mp h
  madeFrom_iff.mpr hmade

namespace Fetch

/-- What the events of a stream tell of an outcome. -/
def Conveys (location : String) (events : List Event) : Outcome → Prop
  | .payload data => events.getLast? = some .complete ∧ (pieces events).flatten = data
  | .failure cause => events.getLast? = some (.error cause)
  | .crashed => events.getLast? = some (.error (.taskAborted location))
  | .stalled => ¬Closed events

section

variable {location : String} {mode : Delivery} {answer : Answer}

/-- A terminal event is the last that is promised if and only if it is the last word of the verdict.
-/
theorem getLast?_promised {event : Event} (ht : event.isTerminal = true) :
    (promised location mode answer).getLast? = some event ↔
      event ∈ (verdict location answer.reply).lastWord location := by
  have he : promised location mode answer =
      (.opened :: (heading location answer.reply ++ chunks mode answer.reply)) ++
        (verdict location answer.reply).lastWord location := promised_eq location mode answer
  constructor
  · intro h
    have hm := List.mem_of_getLast? h
    rw [he] at hm
    -- What stands in front of the last word is never terminal.
    refine (List.mem_append.mp hm).resolve_left fun hfront => ?_
    rw [isTerminal_of_mem_front hfront] at ht
    cases ht
  · intro h
    have hlen := length_lastWord location (verdict location answer.reply)
    have hone : (verdict location answer.reply).lastWord location = [event] := by
      cases hl : (verdict location answer.reply).lastWord location with
      | nil => rw [hl] at h; cases h
      | cons first rest =>
        rw [hl, List.length_cons] at hlen
        obtain rfl : rest = [] := by
          refine List.eq_nil_of_length_eq_zero ?_
          split at hlen <;> omega
        rw [hl] at h
        rw [List.mem_singleton.mp h]
    rw [he, hone, List.getLast?_concat]

/-- The events of a stream convey its verdict, whatever their form. -/
theorem conveys_promised :
    Conveys location (promised location mode answer) (verdict location answer.reply) := by
  cases hv : verdict location answer.reply with
  | payload data =>
    refine ⟨(getLast?_promised rfl).mpr ?_, flatten_pieces_promised hv mode⟩
    rw [hv]
    exact List.mem_singleton.mpr rfl
  | failure cause =>
    refine (getLast?_promised rfl).mpr ?_
    rw [hv]
    exact List.mem_singleton.mpr rfl
  | crashed =>
    refine (getLast?_promised rfl).mpr ?_
    rw [hv]
    exact List.mem_singleton.mpr rfl
  | stalled =>
    exact fun h => closed_promised.mp h hv

theorem getLast?_eq_complete : (promised location mode answer).getLast? = some .complete ↔
    ∃ data, verdict location answer.reply = .payload data := by
  rw [getLast?_promised rfl, mem_lastWord_complete]

theorem getLast?_eq_error {cause : LoadError}
    (h : verdict location answer.reply ≠ .crashed) :
    (promised location mode answer).getLast? = some (.error cause) ↔
      verdict location answer.reply = .failure cause := by
  rw [getLast?_promised rfl]
  cases hv : verdict location answer.reply with
  | payload data => simp [Outcome.lastWord, Outcome.parting]
  | failure other => simp [Outcome.lastWord, Outcome.parting, eq_comm]
  | crashed => exact absurd hv h
  | stalled => simp [Outcome.lastWord, Outcome.parting]

/-- In the buffered mode a payload makes the events of a stream what they are, and can be told from
them. -/
theorem promised_buffered_iff {data : Bytes} :
    verdict location answer.reply = .payload data ↔
      ∃ r, answer.reply = .response r ∧ promised location .buffered answer =
        [.opened, .status location r.status r.headers, .chunk data ⟨0, data.length⟩,
          .complete] := by
  constructor
  · intro hv
    rcases verdict_cases location answer.reply with ⟨items, hb, ho⟩ | ⟨-, hno⟩
    · obtain ⟨r, hr, -⟩ := body?_eq_some hb
      refine ⟨r, hr, ?_⟩
      have hchunks : chunks .buffered answer.reply = [.chunk data ⟨0, data.length⟩] := by
        simp only [chunks, hb, handedOut, ← ho, hv, Outcome.single]
      rw [promised_eq, hchunks, hv, hr]
      rfl
    · exact absurd hv (hno data)
  · rintro ⟨r, -, he⟩
    -- The completion shows that there is a payload, and the one chunk shows which.
    have hc : .complete ∈ promised location .buffered answer := by
      rw [he]
      simp
    obtain ⟨other, hv⟩ := complete_mem_promised.mp hc
    have hpieces := flatten_pieces_promised hv .buffered
    rw [he] at hpieces
    have hdata : data ++ [] = other := hpieces
    rw [hv, ← hdata, List.append_nil]

theorem pieces_buffered_of_failure {cause : LoadError}
    (h : verdict location answer.reply = .failure cause) :
    pieces (promised location .buffered answer) = [] := by
  rw [pieces_promised, h]
  rfl

end

theorem bodyOutcome_of_orderly {items : List BodyItem}
    (h : items.all BodyItem.orderly = true) :
    (∃ data, bodyOutcome items = .payload data) ∨
      ∃ cause, bodyOutcome items = .failure cause := by
  unfold bodyOutcome
  cases ho : items.findSome? BodyItem.outcome? with
  | none => exact Or.inl ⟨_, rfl⟩
  | some o =>
    obtain ⟨item, hm, hitem⟩ := List.exists_of_findSome?_eq_some ho
    have horderly := List.all_eq_true.mp h item hm
    refine Or.inr ?_
    cases item with
    | failure cause => exact ⟨cause, (Option.some.inj hitem).symm⟩
    | crash => cases horderly
    | stall => cases horderly
    | chunk data => cases hitem
    | wait turns => cases hitem

/-- An orderly reply comes to a payload or to a failure. -/
theorem verdict_of_orderly {reply : Reply} (h : reply.orderly = true) (location : String) :
    (∃ data, verdict location reply = .payload data) ∨
      ∃ cause, verdict location reply = .failure cause := by
  cases reply with
  | crash => cases h
  | refusal cause => exact Or.inr ⟨cause, rfl⟩
  | response r =>
    rcases accept_cases location r with ⟨cause, -, hv, -⟩ | ⟨items, -, hv, hb⟩
    · exact Or.inr ⟨cause, hv⟩
    · obtain ⟨r', hr, -, hbody⟩ := body?_eq_some hb
      cases hr
      rw [hv]
      refine bodyOutcome_of_orderly ?_
      simpa only [Reply.orderly, hbody, Option.all_some] using h

/-- The streams of two sends are fixed by the answers, and one ends if the other does where the
answers come to the same. -/
theorem exists_inMode_pair {config : Config} {l : Loader} (hl : l.MadeFrom config)
    (hfit : config.eventBuffer.toNat ≤ Loader.maxChannelCapacity) (progressive : Bool) (i j : Nat) :
    ∃ s t, (l.inMode progressive).stream? i = some s ∧ (l.inMode progressive).stream? j = some t ∧
      s.drain.1 = promised l.request.location (.ofSupport progressive) (l.answer i) ∧
      t.drain.1 = promised l.request.location (.ofSupport progressive) (l.answer j) ∧
      (verdict l.request.location (l.answer i).reply =
        verdict l.request.location (l.answer j).reply → s.drain.2.1 = t.drain.2.1) := by
  have hmade := Loader.madeFrom_inMode hl progressive
  have hs := Loader.stream?_eq hmade hfit i
  have ht := Loader.stream?_eq hmade hfit j
  obtain ⟨hse, hsend⟩ := drain_stream hmade hs
  obtain ⟨hte, htend⟩ := drain_stream hmade ht
  refine ⟨_, _, hs, ht, hse, hte, fun hv => ?_⟩
  have hstall : verdict l.request.location (l.answer i).reply ≠ .stalled ↔
      verdict l.request.location (l.answer j).reply ≠ .stalled := by rw [hv]
  exact Bool.eq_iff_iff.mpr (hsend.trans (hstall.trans htend.symm))

theorem outcome_whole_congr {l : Loader} {i j : Nat}
    (hv : verdict l.request.location (l.answer i).reply =
      verdict l.request.location (l.answer j).reply) :
    (l.whole i).outcome = (l.whole j).outcome :=
  calc (l.whole i).outcome
    _ = verdict l.request.location (l.answer i).reply := outcome_loader l i
    _ = verdict l.request.location (l.answer j).reply := hv
    _ = (l.whole j).outcome := (outcome_loader l j).symm

/-- Fetching a payload whole, following it piece by piece and getting it in one piece succeed on the
same replies with the same data, and fail on the same replies for the same reason. -/
theorem retrievals_agree {config : Config} {l : Loader} (hl : l.MadeFrom config)
    (hfit : config.eventBuffer.toNat ≤ Loader.maxChannelCapacity) {i j k : Nat} {reply : Reply}
    (hi : (l.answer i).reply = reply) (hj : (l.answer j).reply = reply)
    (hk : (l.answer k).reply = reply) (ho : reply.orderly = true) :
    ∃ p b, (l.inMode true).stream? j = some p ∧ (l.inMode false).stream? k = some b ∧
      p.drain.2.1 = true ∧ b.drain.2.1 = true ∧
      ((∃ data, (l.whole i).outcome = .payload data) ∨
        ∃ cause, (l.whole i).outcome = .failure cause) ∧
      (∀ data, (l.whole i).outcome = .payload data ↔
        p.drain.1.getLast? = some .complete ∧ (pieces p.drain.1).flatten = data) ∧
      (∀ data, (l.whole i).outcome = .payload data ↔
        ∃ r, reply = .response r ∧ b.drain.1 =
          [.opened, .status l.request.location r.status r.headers, .chunk data ⟨0, data.length⟩,
            .complete]) ∧
      (∀ cause, (l.whole i).outcome = .failure cause ↔
        p.drain.1.getLast? = some (.error cause)) ∧
      (∀ cause, (l.whole i).outcome = .failure cause ↔
        b.drain.1.getLast? = some (.error cause) ∧ pieces b.drain.1 = []) := by
  have hlp := Loader.madeFrom_inMode hl true
  have hlb := Loader.madeFrom_inMode hl false
  have hp := Loader.stream?_eq hlp hfit j
  have hb := Loader.stream?_eq hlb hfit k
  obtain ⟨hpe, hpend⟩ := drain_stream hlp hp
  obtain ⟨hbe, hbend⟩ := drain_stream hlb hb
  refine ⟨_, _, hp, hb, ?_⟩
  -- The mode of the transport has no part in its answers.
  have hj' : ((l.inMode true).answer j).reply = reply := hj
  have hk' : ((l.inMode false).answer k).reply = reply := hk
  have hw : (l.whole i).outcome = verdict l.request.location reply :=
    (outcome_loader l i).trans (by rw [hi])
  -- An orderly reply leaves success and failure, so the events decide between these two.
  have hreturns := verdict_of_orderly ho l.request.location
  have hcrash : verdict l.request.location reply ≠ .crashed := by
    rcases hreturns with ⟨data, h⟩ | ⟨cause, h⟩ <;> rw [h] <;> nofun
  have hstall : verdict l.request.location reply ≠ .stalled := by
    rcases hreturns with ⟨data, h⟩ | ⟨cause, h⟩ <;> rw [h] <;> nofun
  refine ⟨hpend.mpr (by rw [hj']; exact hstall), hbend.mpr (by rw [hk']; exact hstall), ?_⟩
  rw [hw, hpe, hbe]
  refine ⟨hreturns, fun data => ?_, fun data => ?_, fun cause => ?_, fun cause => ?_⟩
  · rw [getLast?_eq_complete, hj']
    constructor
    · intro h
      exact ⟨⟨data, h⟩, flatten_pieces_promised (by rw [hj']; exact h) _⟩
    · rintro ⟨⟨other, h⟩, hdata⟩
      rw [flatten_pieces_promised (by rw [hj']; exact h)] at hdata
      rw [← hdata]
      exact h
  · rw [← hk']
    exact promised_buffered_iff
  · rw [getLast?_eq_error (by rw [hj']; exact hcrash), hj']
    exact Iff.rfl
  · rw [getLast?_eq_error (by rw [hk']; exact hcrash), hk']
    exact ⟨fun h => ⟨h, pieces_buffered_of_failure (by rw [hk']; exact h)⟩, And.left⟩

/-- A reply with an empty piece in its middle, told in three ways. -/
theorem retrievals_agree_empty_piece :
    let reply : Reply := .response
      { status := 0, contentLength := some 9, body := some [.chunk [1], .chunk [], .chunk [2]] }
    let l := Loader.sample true 1 [reply]
    l.MadeFrom { eventBuffer := 1 } ∧ (1 : UInt64).toNat ≤ Loader.maxChannelCapacity ∧
      reply.orderly = true ∧ (l.whole 0).outcome = .payload [1, 2] ∧
      ∃ p b, (l.inMode true).stream? 1 = some p ∧ (l.inMode false).stream? 2 = some b ∧
        p.drain.1.getLast? = some .complete ∧ (pieces p.drain.1).flatten = [1, 2] ∧
        b.drain.1 = [.opened, .status "data.bin" 0 [], .chunk [1, 2] ⟨0, 2⟩, .complete] := by
  intro reply l
  have hl : l.MadeFrom { eventBuffer := 1 } := Loader.madeFrom_sample _ _ _
  have h (n : Nat) : (l.answer n).reply = reply := by cases n <;> rfl
  obtain ⟨p, b, hp, hb, -, -, -, hpiece, hone, -⟩ :=
    retrievals_agree hl (by decide) (h 0) (h 1) (h 2) rfl
  obtain ⟨hlast, hdata⟩ := (hpiece [1, 2]).mp rfl
  obtain ⟨r, hr, hall⟩ := (hone [1, 2]).mp rfl
  obtain rfl := Reply.response.inj hr
  exact ⟨hl, by decide, rfl, rfl, p, b, hp, hb, hlast, hdata, hall⟩

/-- Whole and in both modes a retrieval comes to the verdict on the reply, and the data of a stream is
all that arrived before a failure, piece by piece, or the payload in one piece. -/
theorem verdict_of_every_retrieval {config : Config} {l : Loader} (hl : l.MadeFrom config)
    (n : Nat) :
    (l.whole n).outcome = verdict l.request.location (l.answer n).reply ∧
    ((l.stream? n).isSome = true ↔ config.eventBuffer.toNat ≤ Loader.maxChannelCapacity) ∧
    ∀ s, l.stream? n = some s →
      Conveys l.request.location s.drain.1 (verdict l.request.location (l.answer n).reply) ∧
      (s.drain.2.1 = true ↔ verdict l.request.location (l.answer n).reply ≠ .stalled) ∧
      pieces s.drain.1 =
        match l.delivery with
        | .progressive => arrivals (l.answer n).reply
        | .buffered => (verdict l.request.location (l.answer n).reply).payloads := by
  refine ⟨outcome_loader l n, Loader.stream?_isSome hl n, ?_⟩
  intro s hs
  obtain ⟨he, hend⟩ := drain_stream hl hs
  rw [he]
  exact ⟨conveys_promised, hend, pieces_promised l.request.location l.delivery (l.answer n)⟩

/-- The status comes before the payload that is not there, and a body has its data up to its first
failure told. -/
theorem verdict_of_every_retrieval_twice :
    let l := Loader.sample true 2
      [.response { status := 404, statusText := "Not Found", body := none },
        .response { status := 200, body := some [.chunk [1], .chunk [], .chunk [2],
          .failure (.fileRead "data.bin" (.system 5)), .chunk [3], .crash] }]
    l.MadeFrom { eventBuffer := 2 } ∧
      (l.whole 0).outcome = .failure (.http "data.bin" 404 "Not Found") ∧
      (l.whole 1).outcome = .failure (.fileRead "data.bin" (.system 5)) ∧
      ∃ s, l.stream? 1 = some s ∧
        s.drain.1.getLast? = some (.error (.fileRead "data.bin" (.system 5))) ∧
        pieces s.drain.1 = [[1], [2]] := by
  intro l
  have hl : l.MadeFrom { eventBuffer := 2 } := Loader.madeFrom_sample _ _ _
  obtain ⟨hfirst, -, -⟩ := verdict_of_every_retrieval hl 0
  obtain ⟨hsecond, -, htold⟩ := verdict_of_every_retrieval hl 1
  obtain ⟨hlast, -, hpieces⟩ := htold _ rfl
  exact ⟨hl, hfirst, hsecond, _, rfl, hlast, hpieces⟩

end Fetch
end Retrieval
