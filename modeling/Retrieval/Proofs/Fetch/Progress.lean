import Retrieval.Proofs.Fetch.Agreement
import Retrieval.Proofs.Transfer.Counters

/-! The counters of a retrieval that goes byte by byte. Fetching a resource whole and following it
piece by piece report the same ones: those of the pieces so far, whatever length was announced. -/
namespace Retrieval

def Reply.length? : Reply → Option Nat
  | response r => r.contentLength
  | _ => none

namespace Fetch

def Event.progress? : Event → Option Progress
  | chunk _ progress => some progress
  | _ => none

def readings (events : List Event) : List Progress := events.filterMap Event.progress?

def reading (length : Option Nat) (come : Nat) : Progress :=
  ⟨come, Transfer.expected length come⟩

def tally (length : Option Nat) (come : Nat) : List Bytes → List Progress
  | [] => []
  | data :: rest =>
    reading length (come + data.length) :: tally length (come + data.length) rest

theorem reading_add (length : Option Nat) (come more : Nat) :
    (reading length come).add more = reading length (come + more) := by
  have htotal := Transfer.total_add length come more
  simp only [reading, ← htotal]
  rfl

theorem reading_zero (reply : Reply) : reading reply.length? 0 = ⟨0, announced reply⟩ := by
  cases reply with
  | response r =>
    have hexpected : Transfer.expected r.contentLength 0 = r.contentLength.getD 0 := by
      cases r.contentLength with
      | none => rfl
      | some total =>
        simp only [Transfer.expected, Option.getD_some]
        split <;> omega
    simp only [reading, Reply.length?, announced, hexpected]
  | refusal cause => rfl
  | crash => rfl

theorem length_tally (length : Option Nat) (come : Nat) (pieces : List Bytes) :
    (tally length come pieces).length = pieces.length := by
  induction pieces generalizing come with
  | nil => rfl
  | cons data rest ih => simp only [tally, List.length_cons, ih]

/-- The readings of a tally count what has come up to each piece. -/
theorem getElem?_tally (length : Option Nat) (come : Nat) (pieces : List Bytes) (k : Nat) :
    (tally length come pieces)[k]? =
      if k < pieces.length then
        some (reading length (come + (pieces.take (k + 1)).flatten.length))
      else none := by
  induction pieces generalizing come k with
  | nil => rfl
  | cons data rest ih =>
    cases k with
    | zero => simp [tally]
    | succ k =>
      simp only [tally, List.getElem?_cons_succ, ih, List.length_cons, Nat.add_lt_add_iff_right,
        List.take_succ_cons, List.flatten_cons, List.length_append, Nat.add_assoc]

theorem lt_loaded_of_mem_tally {length : Option Nat} {come : Nat} {pieces : List Bytes}
    (hne : ∀ data ∈ pieces, data ≠ []) {p : Progress} (hp : p ∈ tally length come pieces) :
    come < p.loaded := by
  induction pieces generalizing come with
  | nil => cases hp
  | cons data rest ih =>
    have hpos : 0 < data.length := List.length_pos_iff.mpr (hne data List.mem_cons_self)
    rcases List.mem_cons.mp hp with rfl | hp
    · exact Nat.lt_add_of_pos_right hpos
    · have hrest : ∀ other ∈ rest, other ≠ [] := fun other h => hne other (List.mem_cons_of_mem _ h)
      have hlater : come + data.length < p.loaded := ih hrest hp
      omega

theorem pairwise_tally (length : Option Nat) (come : Nat) {pieces : List Bytes}
    (hne : ∀ data ∈ pieces, data ≠ []) :
    (tally length come pieces).Pairwise (·.loaded < ·.loaded) := by
  induction pieces generalizing come with
  | nil => exact .nil
  | cons data rest ih =>
    have hrest : ∀ other ∈ rest, other ≠ [] := fun other h => hne other (List.mem_cons_of_mem _ h)
    exact List.pairwise_cons.mpr ⟨fun p hp => lt_loaded_of_mem_tally hrest hp, ih _ hrest⟩

/-- The last reading counts all bytes. -/
theorem getLast?_tally (length : Option Nat) (come : Nat) (pieces : List Bytes) :
    ((tally length come pieces).getLast?.map (·.loaded)).getD come =
      come + pieces.flatten.length := by
  induction pieces generalizing come with
  | nil => rfl
  | cons data rest ih =>
    -- Where nothing follows, the counters after this piece are the last.
    have hlast : ((tally length come (data :: rest)).getLast?.map (·.loaded)).getD come =
        ((tally length (come + data.length) rest).getLast?.map (·.loaded)).getD
          (come + data.length) := by
      rw [tally, List.getLast?_cons]
      cases (tally length (come + data.length) rest).getLast? <;> rfl
    calc ((tally length come (data :: rest)).getLast?.map (·.loaded)).getD come
      _ = come + data.length + rest.flatten.length := hlast.trans (ih (come + data.length))
      _ = come + (data :: rest).flatten.length := by
        rw [List.flatten_cons, List.length_append, Nat.add_assoc]

theorem readings_append (first second : List Event) :
    readings (first ++ second) = readings first ++ readings second := List.filterMap_append

theorem readings_counted (length : Option Nat) (come : Nat) (pieces : List Bytes) :
    readings (counted (reading length come) pieces) = tally length come pieces := by
  induction pieces generalizing come with
  | nil => rfl
  | cons data rest ih =>
    simp only [counted, reading_add, tally]
    exact congrArg (reading length (come + data.length) :: ·) (ih _)

theorem readings_heading (location : String) (reply : Reply) :
    readings (heading location reply) = [] := by
  cases reply <;> rfl

theorem readings_lastWord (location : String) (o : Outcome) :
    readings (o.lastWord location) = [] := by
  cases o <;> rfl

theorem chunks_progressive (reply : Reply) :
    chunks .progressive reply = counted (reading reply.length? 0) (arrivals reply) := by
  rw [reading_zero]
  simp only [chunks, arrivals, handedOut]
  cases reply.body? <;> rfl

theorem readings_promised (location : String) (answer : Answer) :
    readings (promised location .progressive answer) =
      tally answer.reply.length? 0 (arrivals answer.reply) := by
  rw [promised_eq, chunks_progressive]
  have hopen (rest : List Event) : readings (.opened :: rest) = readings rest := rfl
  rw [hopen, readings_append, readings_append, readings_heading, readings_lastWord,
    readings_counted, List.nil_append, List.append_nil]

/-- Each piece that arrives leaves one reading. -/
theorem progress_readWhole {t : Transfer} (ht : t.Receiving) {length : Option Nat} {come : Nat}
    (hp : t.progress = reading length come) (items : List BodyItem) :
    (readWhole t items).progress = tally length come (arrived items) := by
  -- The counters of the transfer are those that the next piece is added to.
  induction items generalizing t come with
  | nil => simp only [readWhole, guarded_finish ht, arrived_nil, tally]
  | cons item rest ih =>
    cases item with
    | chunk data =>
      by_cases hd : data.isEmpty = true
      · simp only [readWhole, arrived_chunk, if_pos hd]
        exact ih ht hp
      · have hnext : (t.perform (.data data.length)).progress =
            reading length (come + data.length) := by
          rw [← reading_add, ← hp]
          rfl
        simp only [readWhole, arrived_chunk, if_neg hd, guarded_data ht, tally, hnext]
        exact congrArg _ (ih (Transfer.receiving_perform_data t data.length) hnext)
    | wait turns => exact ih ht hp
    | failure cause => rfl
    | crash => rfl
    | stall => rfl

theorem progress_conclude (location : String) (w : Whole) :
    (conclude location w).progress = w.progress := by
  unfold conclude
  split
  · split <;> rfl
  · rfl

/-- The readings of a whole fetch are the tally of what arrives. -/
theorem progress_whole (request : Request) (target : Target) (answer : Answer) :
    (whole request target answer).progress =
      tally answer.reply.length? 0 (arrivals answer.reply) := by
  have hs : guarded { mode := .buffered } .start =
      .ok (({ mode := .buffered } : Transfer).perform .start) := guarded_of_accepted rfl
  simp only [whole, hs, progress_conclude]
  cases hreply : answer.reply with
  | crash => rfl
  | refusal cause => rfl
  | response r =>
    let received := (({ mode := .buffered } : Transfer).perform .start).perform
      (.headers (r.contentLength.getD 0))
    have hr : received.Receiving := Transfer.receiving_perform_headers _ _
    have hp : received.progress = reading (Reply.response r).length? 0 := by
      rw [reading_zero]
      rfl
    rw [readAnswer_response rfl]
    rcases accept_cases request.location r with ⟨cause, ha, -, hb⟩ | ⟨items, ha, -, hb⟩
    · rw [ha]
      simp only [arrivals, hb, tally]
    · rw [ha]
      simp only [arrivals, hb]
      exact progress_readWhole hr hp items

theorem length_arrived (items : List BodyItem) :
    (arrived items).length =
      (items.takeWhile (·.outcome?.isNone)).countP (!·.data.isEmpty) := by
  simp only [arrived, List.filter_map, List.length_map, List.countP_eq_length_filter]
  rfl

theorem total_reading (length : Option Nat) (come : Nat) :
    (reading length come).total =
      match length with
      | none => 0
      | some total => if total = 0 then 0 else max total come := rfl

/-- What bounds the bytes that have come and the length that was announced bounds the reading. -/
theorem reading_lt {reply : Reply} {come bound : Nat} (hc : come < bound)
    (ha : announced reply < bound) :
    (reading reply.length? come).loaded < bound ∧ (reading reply.length? come).total < bound := by
  refine ⟨hc, ?_⟩
  cases reply with
  | response r =>
    have ha : r.contentLength.getD 0 < bound := ha
    rw [total_reading]
    simp only [Reply.length?]
    cases hl : r.contentLength with
    | none => exact Nat.zero_lt_of_lt hc
    | some total =>
      rw [hl, Option.getD_some] at ha
      dsimp only
      split <;> omega
  | refusal cause => exact Nat.zero_lt_of_lt hc
  | crash => exact Nat.zero_lt_of_lt hc

/-- Fetching a resource whole reports the counters that its stream carries: one pair for each piece
that is not empty, up to the first item that ends the body, with all bytes so far and, where a length
is announced, that length or the bytes that have overtaken it. -/
theorem progress_of_every_retrieval {config : Config} {l : Loader} (hl : l.MadeFrom config)
    {i j : Nat} {reply : Reply} (hi : (l.answer i).reply = reply)
    (hj : (l.answer j).reply = reply) :
    let reported := (l.whole i).progress
    let pieces := arrivals reply
    (((l.inMode true).stream? j).isSome = true ↔
      config.eventBuffer.toNat ≤ Loader.maxChannelCapacity) ∧
    (∀ s, (l.inMode true).stream? j = some s → readings s.drain.1 = reported) ∧
    (reported.length =
      match reply.body? with
      | some items => (items.takeWhile (·.outcome?.isNone)).countP (!·.data.isEmpty)
      | none => 0) ∧
    (∀ k p, reported[k]? = some p →
      p.loaded = (pieces.take (k + 1)).flatten.length ∧
      p.total =
        match reply.length? with
        | none => 0
        | some total => if total = 0 then 0 else max total p.loaded) ∧
    reported.Pairwise (·.loaded < ·.loaded) ∧
    (∀ data, (l.whole i).outcome = .payload data →
      (reported.getLast?.map (·.loaded)).getD 0 = data.length) ∧
    ∀ bound, pieces.flatten.length < bound → announced reply < bound →
      ∀ p ∈ reported, p.loaded < bound ∧ p.total < bound := by
  intro reported pieces
  have hmade := Loader.madeFrom_inMode hl true
  have hreported : reported = tally reply.length? 0 pieces := by
    have h := progress_whole l.request l.target (l.answer i)
    rw [hi] at h
    exact h
  have hget (k : Nat) (p : Progress) (hk : reported[k]? = some p) :
      p = reading reply.length? (pieces.take (k + 1)).flatten.length := by
    rw [hreported, getElem?_tally, Nat.zero_add] at hk
    split at hk
    · exact (Option.some.inj hk).symm
    · cases hk
  refine ⟨Loader.stream?_isSome hmade j, ?_, ?_, ?_, ?_, ?_, ?_⟩
  · intro s hs
    -- Both loops add to the same counters, so both lists are the tally of what arrives.
    obtain ⟨hevents, -⟩ := drain_stream hmade hs
    have hread := readings_promised l.request.location (l.answer j)
    rw [hj] at hread
    rw [hevents, hreported]
    exact hread
  · rw [hreported, length_tally]
    simp only [pieces, arrivals]
    cases reply.body? with
    | none => rfl
    | some items => exact length_arrived items
  · intro k p hk
    rw [hget k p hk]
    exact ⟨rfl, rfl⟩
  · rw [hreported]
    exact pairwise_tally _ _ fun data hd => ne_nil_of_mem_arrivals hd
  · intro data hdata
    have hverdict : verdict l.request.location reply = .payload data := by
      rw [← hi, ← outcome_loader]
      exact hdata
    rw [hreported, getLast?_tally, flatten_arrivals hverdict, Nat.zero_add]
  · intro bound hcome hlength p hp
    obtain ⟨k, hk⟩ := List.mem_iff_getElem?.mp hp
    rw [hget k p hk]
    have hsplit : (pieces.take (k + 1)).flatten ++ (pieces.drop (k + 1)).flatten = pieces.flatten := by
      rw [← List.flatten_append, List.take_append_drop]
    have hcut := congrArg List.length hsplit
    rw [List.length_append] at hcut
    exact reading_lt (by omega) hlength

/-- A length is announced that the second piece overtakes, and the body then fails. -/
theorem progress_of_every_retrieval_overtaken :
    let reply : Reply := .response
      { status := 200, contentLength := some 3
        body := some [.chunk [1, 2], .chunk [], .wait 1, .chunk [3, 4],
          .failure (.fileRead "data.bin" (.system 5)), .chunk [5]] }
    let l := Loader.sample true 1 [reply]
    l.MadeFrom { eventBuffer := 1 } ∧ (l.answer 0).reply = reply ∧ (l.answer 1).reply = reply ∧
      (l.whole 0).progress = [⟨2, 3⟩, ⟨4, 4⟩] ∧ (l.whole 0).progress.length = 2 ∧
      ∃ s, (l.inMode true).stream? 1 = some s ∧ readings s.drain.1 = [⟨2, 3⟩, ⟨4, 4⟩] := by
  intro reply l
  have hl : l.MadeFrom { eventBuffer := 1 } := Loader.madeFrom_sample _ _ _
  have hsame (n : Nat) : (l.answer n).reply = reply := by cases n <;> rfl
  obtain ⟨hmade, hread, hlength, -⟩ := progress_of_every_retrieval hl (hsame 0) (hsame 1)
  obtain ⟨s, hs⟩ := Option.isSome_iff_exists.mp (hmade.mpr (by decide))
  exact ⟨hl, hsame 0, hsame 1, rfl, hlength, s, hs, hread s hs⟩

end Fetch
end Retrieval
