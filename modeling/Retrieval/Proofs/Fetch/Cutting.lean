import Mathlib.Data.List.TakeWhile
import Retrieval.Proofs.Fetch.Progress

/-! The way in which a body is cut into pieces. What a retrieval comes to depends on the bytes up to
the end of the body and on how it ends; pieces show in nothing but the places where a stream that goes
byte by byte stops to count. -/
namespace Retrieval

def BodyItem.isBlank : BodyItem → Bool
  | chunk data => data.isEmpty
  | wait _ => true
  | _ => false

namespace Fetch

def bytesBefore (items : List BodyItem) : Bytes :=
  (items.takeWhile (·.outcome?.isNone)).flatMap BodyItem.data

/-- An event in front of others. Data are joined to the data that follow, under the counters of
these. -/
def Event.joined : Event → List Event → List Event
  | chunk data _, chunk more progress :: rest => chunk (data ++ more) progress :: rest
  | event, rest => event :: rest

/-- Events with neighbouring chunks made into one. -/
def merged : List Event → List Event
  | [] => []
  | event :: rest => event.joined (merged rest)

theorem flatten_arrived_eq (items : List BodyItem) :
    (arrived items).flatten = bytesBefore items := by
  simp only [arrived, List.flatten_filter_not_isEmpty, bytesBefore, List.flatMap_def]

/-- A body comes to its first end, or to all of its bytes. -/
theorem bodyOutcome_eq (items : List BodyItem) :
    bodyOutcome items =
      (items.findSome? BodyItem.outcome?).getD (.payload (bytesBefore items)) := by
  unfold bodyOutcome
  cases h : items.findSome? BodyItem.outcome? with
  | some o => rfl
  | none =>
    -- Where no item ends the body, all of them come before its end.
    have hall : items.takeWhile (·.outcome?.isNone) = items :=
      List.takeWhile_eq_self_iff.mpr fun item hitem => by
        rw [List.findSome?_eq_none_iff.mp h item hitem]
        rfl
    simp only [bytesBefore, hall]

/-- Empty pieces and waits do not arrive. -/
theorem arrived_filter (items : List BodyItem) :
    arrived (items.filter (!·.isBlank)) = arrived items := by
  induction items with
  | nil => rfl
  | cons item rest ih =>
    cases item with
    | chunk data =>
      cases data with
      | nil => exact ih
      | cons byte more =>
        have hkeep : (BodyItem.chunk (byte :: more) :: rest).filter (!·.isBlank) =
            .chunk (byte :: more) :: rest.filter (!·.isBlank) := rfl
        rw [hkeep, arrived_chunk, arrived_chunk, ih]
    | wait turns => exact ih
    | failure cause => rfl
    | crash => rfl
    | stall => rfl

/-- Empty pieces and waits do not change what a body comes to. -/
theorem bodyOutcome_filter (items : List BodyItem) :
    bodyOutcome (items.filter (!·.isBlank)) = bodyOutcome items := by
  induction items with
  | nil => rfl
  | cons item rest ih =>
    cases item with
    | chunk data =>
      cases data with
      | nil =>
        rw [bodyOutcome_chunk, Outcome.prepend_nil]
        exact ih
      | cons byte more =>
        have hkeep : (BodyItem.chunk (byte :: more) :: rest).filter (!·.isBlank) =
            .chunk (byte :: more) :: rest.filter (!·.isBlank) := rfl
        rw [hkeep, bodyOutcome_chunk, bodyOutcome_chunk, ih]
    | wait turns => exact ih
    | failure cause => rfl
    | crash => rfl
    | stall => rfl

def lump (length : Option Nat) (come : Nat) (data : Bytes) : List Event :=
  if data = [] then [] else [.chunk data (reading length (come + data.length))]

/-- Merged, the chunks in front of a last word are one, however the bytes were cut. -/
theorem merged_counted (length : Option Nat) (come : Nat) {pieces : List Bytes}
    (hne : ∀ data ∈ pieces, data ≠ []) (location : String) (o : Outcome) :
    merged (counted (reading length come) pieces ++ o.lastWord location) =
      lump length come pieces.flatten ++ o.lastWord location := by
  induction pieces generalizing come with
  | nil => cases o <;> rfl
  | cons data rest ih =>
    have hdata : data ≠ [] := hne data List.mem_cons_self
    have hrest := ih (come + data.length) fun other h => hne other (List.mem_cons_of_mem _ h)
    have hwhole : data ++ rest.flatten ≠ [] := fun h => hdata (List.append_eq_nil_iff.mp h).1
    simp only [counted, reading_add, List.cons_append, merged, hrest, List.flatten_cons]
    -- Every piece has bytes, so what follows is a chunk to be joined or the last word.
    by_cases hr : rest.flatten = []
    · simp only [lump, hr, List.append_nil, if_neg hdata, if_true]
      cases o <;> rfl
    · simp only [lump, if_neg hr, if_neg hwhole, List.length_append, Nat.add_assoc]
      rfl

theorem merged_heading (location : String) (reply : Reply) (rest : List Event) :
    merged (heading location reply ++ rest) = heading location reply ++ merged rest := by
  cases reply <;> rfl

/-- Merged, the events of a stream that goes byte by byte depend on the bytes that arrive. -/
theorem merged_promised (location : String) (answer : Answer) :
    merged (promised location .progressive answer) =
      .opened :: (heading location answer.reply ++
        (lump answer.reply.length? 0 (arrivals answer.reply).flatten ++
          (verdict location answer.reply).lastWord location)) := by
  have hopen (rest : List Event) : merged (.opened :: rest) = .opened :: merged rest := rfl
  rw [promised_eq, chunks_progressive, List.append_assoc, hopen, merged_heading,
    merged_counted _ _ (fun data h => ne_nil_of_mem_arrivals h)]

section

variable {location : String} {first second : Answer} {r : Response} {items others : List BodyItem}

theorem heading_of_bodies (hf : first.reply = .response { r with body := some items })
    (hs : second.reply = .response { r with body := some others }) :
    heading location first.reply = heading location second.reply := by
  rw [hf, hs]
  rfl

theorem length?_of_bodies (hf : first.reply = .response { r with body := some items })
    (hs : second.reply = .response { r with body := some others }) :
    first.reply.length? = second.reply.length? := by
  rw [hf, hs]
  rfl

theorem verdict_of_bodyOutcome (hf : first.reply = .response { r with body := some items })
    (hs : second.reply = .response { r with body := some others })
    (ho : bodyOutcome items = bodyOutcome others) :
    verdict location first.reply = verdict location second.reply := by
  rw [hf, hs]
  simp only [verdict, ho]

theorem promised_buffered_of_bodyOutcome
    (hf : first.reply = .response { r with body := some items })
    (hs : second.reply = .response { r with body := some others })
    (ho : bodyOutcome items = bodyOutcome others) :
    promised location .buffered first = promised location .buffered second := by
  have hchunks : chunks .buffered first.reply = chunks .buffered second.reply := by
    rw [hf, hs]
    by_cases hr : r.status = 0 ∨ r.status = 200
    · simp only [chunks, Reply.body?, if_pos hr, handedOut, ho]
    · simp only [chunks, Reply.body?, if_neg hr]
  exact promised_congr (heading_of_bodies hf hs) hchunks (verdict_of_bodyOutcome hf hs ho)

theorem arrivals_congr {α : Type} (f : List Bytes → α)
    (hf : first.reply = .response { r with body := some items })
    (hs : second.reply = .response { r with body := some others })
    (h : f (arrived items) = f (arrived others)) :
    f (arrivals first.reply) = f (arrivals second.reply) := by
  rw [hf, hs]
  by_cases hr : r.status = 0 ∨ r.status = 200
  · simp only [arrivals, Reply.body?, if_pos hr]
    exact h
  · simp only [arrivals, Reply.body?, if_neg hr]

/-- Cuttings of the same bytes with the same end have the same merged events. -/
theorem merged_of_bytes (hf : first.reply = .response { r with body := some items })
    (hs : second.reply = .response { r with body := some others })
    (hbytes : bytesBefore items = bytesBefore others)
    (ho : bodyOutcome items = bodyOutcome others) :
    merged (promised location .progressive first) =
      merged (promised location .progressive second) := by
  have harrived : (arrived items).flatten = (arrived others).flatten := by
    rw [flatten_arrived_eq, flatten_arrived_eq, hbytes]
  have hall := arrivals_congr List.flatten hf hs harrived
  rw [merged_promised, merged_promised, heading_of_bodies hf hs, verdict_of_bodyOutcome hf hs ho,
    hall, length?_of_bodies hf hs]

theorem promised_of_arrived (hf : first.reply = .response { r with body := some items })
    (hs : second.reply = .response { r with body := some others })
    (harrived : arrived items = arrived others) (ho : bodyOutcome items = bodyOutcome others) :
    promised location .progressive first = promised location .progressive second := by
  have hall : arrivals first.reply = arrivals second.reply := arrivals_congr id hf hs harrived
  have hchunks : chunks .progressive first.reply = chunks .progressive second.reply := by
    rw [chunks_progressive, chunks_progressive, hall, length?_of_bodies hf hs]
  exact promised_congr (heading_of_bodies hf hs) hchunks (verdict_of_bodyOutcome hf hs ho)

theorem progress_of_arrived (request : Request) (target : Target)
    (hf : first.reply = .response { r with body := some items })
    (hs : second.reply = .response { r with body := some others })
    (harrived : arrived items = arrived others) :
    (whole request target first).progress = (whole request target second).progress := by
  have hall : arrivals first.reply = arrivals second.reply := arrivals_congr id hf hs harrived
  rw [progress_whole, progress_whole, hall, length?_of_bodies hf hs]

end

/-- Of two responses whose bodies hold the same bytes and end in the same way, all retrievals come to
the same; a buffered stream brings the same events, and one that goes byte by byte brings the same
once neighbouring chunks are made into one. Where the bodies differ in blank items alone, not even
that shows a difference. -/
theorem same_for_every_cutting {config : Config} {l : Loader} (hl : l.MadeFrom config)
    (hfit : config.eventBuffer.toNat ≤ Loader.maxChannelCapacity) {i j : Nat} {r : Response}
    {items others : List BodyItem}
    (hi : (l.answer i).reply = .response { r with body := some items })
    (hj : (l.answer j).reply = .response { r with body := some others }) :
    ∃ p p' b b', (l.inMode true).stream? i = some p ∧ (l.inMode true).stream? j = some p' ∧
      (l.inMode false).stream? i = some b ∧ (l.inMode false).stream? j = some b' ∧
      (bytesBefore items = bytesBefore others →
        items.findSome? BodyItem.outcome? = others.findSome? BodyItem.outcome? →
        (l.whole i).outcome = (l.whole j).outcome ∧
        merged p.drain.1 = merged p'.drain.1 ∧ p.drain.2.1 = p'.drain.2.1 ∧
        b.drain.1 = b'.drain.1 ∧ b.drain.2.1 = b'.drain.2.1) ∧
      (items.filter (!·.isBlank) = others.filter (!·.isBlank) →
        (l.whole i).outcome = (l.whole j).outcome ∧
        (l.whole i).progress = (l.whole j).progress ∧
        p.drain.1 = p'.drain.1 ∧ p.drain.2.1 = p'.drain.2.1 ∧
        b.drain.1 = b'.drain.1 ∧ b.drain.2.1 = b'.drain.2.1) := by
  obtain ⟨p, p', hp, hp', hpe, hpe', hpend⟩ := exists_inMode_pair hl hfit true i j
  obtain ⟨b, b', hb, hb', hbe, hbe', hbend⟩ := exists_inMode_pair hl hfit false i j
  -- Where both bodies come to the same, all but the single pieces is the same.
  have hends (ho : bodyOutcome items = bodyOutcome others) :
      (l.whole i).outcome = (l.whole j).outcome ∧ p.drain.2.1 = p'.drain.2.1 ∧
        b.drain.1 = b'.drain.1 ∧ b.drain.2.1 = b'.drain.2.1 := by
    have hverdict : verdict l.request.location (l.answer i).reply =
        verdict l.request.location (l.answer j).reply := verdict_of_bodyOutcome hi hj ho
    refine ⟨outcome_whole_congr hverdict, hpend hverdict, ?_, hbend hverdict⟩
    rw [hbe, hbe']
    exact promised_buffered_of_bodyOutcome hi hj ho
  refine ⟨p, p', b, b', hp, hp', hb, hb', ?_, ?_⟩
  · intro hbytes hstop
    have ho : bodyOutcome items = bodyOutcome others := by
      rw [bodyOutcome_eq, bodyOutcome_eq, hbytes, hstop]
    obtain ⟨hwhole, hpsame, hbuffered, hbsame⟩ := hends ho
    refine ⟨hwhole, ?_, hpsame, hbuffered, hbsame⟩
    rw [hpe, hpe']
    exact merged_of_bytes hi hj hbytes ho
  · intro hfilter
    have ho : bodyOutcome items = bodyOutcome others := by
      rw [← bodyOutcome_filter items, hfilter, bodyOutcome_filter]
    have harrived : arrived items = arrived others := by
      rw [← arrived_filter items, hfilter, arrived_filter]
    obtain ⟨hwhole, hpsame, hbuffered, hbsame⟩ := hends ho
    refine ⟨hwhole, progress_of_arrived l.request l.target hi hj harrived, ?_, hpsame, hbuffered, hbsame⟩
    rw [hpe, hpe']
    exact promised_of_arrived hi hj harrived ho

/-- Two cuttings of one body that fails, and the second of them without its blank items. -/
theorem same_for_every_cutting_failing :
    let cause : LoadError := .fileRead "data.bin" (.system 5)
    let r : Response := { status := 200, contentLength := some 2, body := none }
    let items : List BodyItem := [.chunk [1], .chunk [2, 3], .failure cause, .chunk [9]]
    let others : List BodyItem :=
      [.chunk [], .chunk [1, 2], .wait 2, .chunk [3], .failure cause, .crash]
    let plain : List BodyItem := [.chunk [1, 2], .chunk [3], .failure cause, .crash]
    let l := Loader.sample true 1
      [.response { r with body := some items }, .response { r with body := some others },
        .response { r with body := some plain }]
    l.MadeFrom { eventBuffer := 1 } ∧ (1 : UInt64).toNat ≤ Loader.maxChannelCapacity ∧
      (l.answer 0).reply = .response { r with body := some items } ∧
      (l.answer 1).reply = .response { r with body := some others } ∧
      (l.answer 2).reply = .response { r with body := some plain } ∧
      bytesBefore items = bytesBefore others ∧
      items.findSome? BodyItem.outcome? = others.findSome? BodyItem.outcome? ∧
      others.filter (!·.isBlank) = plain.filter (!·.isBlank) ∧
      (l.whole 0).outcome = (l.whole 1).outcome ∧ (l.whole 1).progress = (l.whole 2).progress ∧
      ∃ p p', (l.inMode true).stream? 0 = some p ∧ (l.inMode true).stream? 1 = some p' ∧
        merged p.drain.1 = merged p'.drain.1 := by
  intro cause r items others plain l
  have hl : l.MadeFrom { eventBuffer := 1 } := Loader.madeFrom_sample _ _ _
  have hfirst : (l.answer 0).reply = .response { r with body := some items } := rfl
  have hsecond : (l.answer 1).reply = .response { r with body := some others } := rfl
  have hthird : (l.answer 2).reply = .response { r with body := some plain } := rfl
  obtain ⟨p, p', _, _, hp, hp', -, -, hbytes, -⟩ :=
    same_for_every_cutting hl (by decide) hfirst hsecond
  obtain ⟨_, _, _, _, -, -, -, -, -, hblank⟩ :=
    same_for_every_cutting hl (by decide) hsecond hthird
  obtain ⟨hsame, hmerged, -⟩ := hbytes rfl rfl
  exact ⟨hl, by decide, hfirst, hsecond, hthird, rfl, rfl, rfl, hsame, (hblank rfl).2.1, p, p', hp,
    hp', hmerged⟩

end Fetch
end Retrieval
