import Retrieval.Loader
import Retrieval.Proofs.Fetch.Drain

/-! The streams of loaders. Their courses end once, so that what is true of streams in general is
true of them: the events of a stream are fixed by the answer before the first turn is taken. -/
namespace Retrieval

/-- The loaders that settings lead to. -/
inductive Loader.MadeFrom (config : Config) (l : Loader) : Prop
  | given {request : Request} {transport : Transport}
      (h : Loader.withTransport request transport config = .ok l)
  | chosen {request : Request} {around : Surroundings}
      (h : Loader.create request config around = .ok l)

/-- A transport for the web refuses files, and makes one exchange of every other request. -/
theorem Transport.send_http {t : Transport} {config : Config} {network : Http.Network}
    (h : http config network = .ok t) (n : Nat) (request : Request) (target : Target) :
    t.send n request target =
      match target with
      | .file _ => { reply := .refusal (.unsupportedScheme request.location "file") }
      | .http url =>
        { reply := exchange config network request url
          accesses := (message? config request url).toList.map .host } := by
  unfold http at h
  split at h
  · cases h
    rfl
  · cases h

/-- A loader that chooses its transport takes one for its target. -/
theorem Loader.create_cases {request : Request} {config : Config} {around : Surroundings}
    {l : Loader} (h : create request config around = .ok l) :
    l.request = request ∧ Target.resolve request.location config.baseUrl = .ok l.target ∧
      l.capacity = channelCapacity config ∧
      ((∃ path, l.target = .file path ∧ l.transport = .file config around.files) ∨
        ∃ url, l.target = .http url ∧ Transport.http config around.network = .ok l.transport) := by
  unfold create at h
  split at h
  · cases h
  · rename_i hr
    split at h
    · cases h
    · rename_i hmade
      cases h
      exact ⟨rfl, hr, rfl, Or.inr ⟨_, rfl, hmade⟩⟩
  · rename_i hr
    cases h
    exact ⟨rfl, hr, rfl, Or.inl ⟨_, rfl, rfl⟩⟩

theorem Loader.madeFrom_iff {config : Config} {l : Loader} : l.MadeFrom config ↔
    Target.resolve l.request.location config.baseUrl = .ok l.target ∧
      l.capacity = channelCapacity config := by
  constructor
  · rintro (⟨h⟩ | ⟨h⟩)
    · unfold withTransport at h
      split at h
      · cases h
      · rename_i hr
        cases h
        exact ⟨hr, rfl⟩
    · obtain ⟨rfl, hr, hc, -⟩ := create_cases h
      exact ⟨hr, hc⟩
  · -- Whatever its transport, the loader could have been given it.
    rintro ⟨hr, hc⟩
    have hmade : withTransport l.request l.transport config = .ok l := by
      simp only [withTransport, hr, ← hc]
    exact .given hmade

theorem Loader.capacity_eq {config : Config} {l : Loader} (h : l.MadeFrom config) :
    l.capacity = max config.eventBuffer.toNat 1 := (madeFrom_iff.mp h).2

theorem Loader.isSome_stream? {l : Loader} {n : Nat} :
    (l.stream? n).isSome = true ↔ l.capacity ≤ maxChannelCapacity := by
  unfold stream?
  split
  · simp [*]
  · simp [*]

/-- The room that is set is passed on as it is, or as one place, and there is a channel of one place. -/
theorem Loader.capacity_le_iff {config : Config} {l : Loader} (h : l.MadeFrom config) :
    l.capacity ≤ maxChannelCapacity ↔ config.eventBuffer.toNat ≤ maxChannelCapacity := by
  have hone : 1 ≤ maxChannelCapacity := by decide
  rw [capacity_eq h, Nat.max_le, and_iff_left hone]

/-- A stream is made unless its channel would be too large, and it starts with the whole course
before it. -/
theorem Loader.stream?_eq {config : Config} {l : Loader} (h : l.MadeFrom config)
    (hfit : config.eventBuffer.toNat ≤ maxChannelCapacity) (n : Nat) :
    l.stream? n = some
      (.ofCourse l.request.location (max config.eventBuffer.toNat 1) l.delivery (l.course n)) := by
  rw [stream?, if_pos ((capacity_le_iff h).mpr hfit), capacity_eq h]

theorem Loader.stream?_isSome {config : Config} {l : Loader} (h : l.MadeFrom config) (n : Nat) :
    (l.stream? n).isSome = true ↔ config.eventBuffer.toNat ≤ maxChannelCapacity := by
  rw [isSome_stream?, capacity_le_iff h]

def Loader.sample (progressive : Bool) (room : UInt64) (replies : List Reply) : Loader :=
  ⟨{ location := "data.bin" }, .file (utf8 "data.bin"), .scripted progressive replies,
    max room.toNat 1⟩

theorem Loader.madeFrom_sample (progressive : Bool) (room : UInt64) (replies : List Reply) :
    (Loader.sample progressive room replies).MadeFrom { eventBuffer := room } := by
  have hmade : Loader.withTransport { location := "data.bin" } (.scripted progressive replies)
      { eventBuffer := room } = .ok (.sample progressive room replies) := by rfl
  exact .given hmade

namespace Fetch

theorem mem_heading {location : String} {reply : Reply} {event : Event} :
    event ∈ heading location reply ↔
      ∃ r, reply = .response r ∧ event = .status location r.status r.headers := by
  cases reply <;> simp [heading]

theorem mem_counted {p : Progress} {data : List Bytes} {event : Event}
    (h : event ∈ counted p data) : ∃ bytes q, event = .chunk bytes q := by
  induction data generalizing p with
  | nil => cases h
  | cons bytes rest ih =>
    rcases List.mem_cons.mp h with rfl | h
    · exact ⟨_, _, rfl⟩
    · exact ih h

theorem mem_single {o : Outcome} {event : Event} (h : event ∈ o.single) :
    ∃ bytes q, event = .chunk bytes q := by
  cases o with
  | payload data => exact ⟨_, _, List.mem_singleton.mp h⟩
  | failure _ => cases h
  | crashed => cases h
  | stalled => cases h

theorem mem_chunks {mode : Delivery} {reply : Reply} {event : Event}
    (h : event ∈ chunks mode reply) : ∃ bytes q, event = .chunk bytes q := by
  unfold chunks at h
  split at h
  · cases mode with
    | progressive => exact mem_counted h
    | buffered => exact mem_single h
  · cases h

theorem isTerminal_of_mem_front {location : String} {mode : Delivery} {reply : Reply}
    {event : Event} (h : event ∈ .opened :: (heading location reply ++ chunks mode reply)) :
    event.isTerminal = false := by
  rcases List.mem_cons.mp h with rfl | h
  · rfl
  · rcases List.mem_append.mp h with h | h
    · obtain ⟨r, -, rfl⟩ := mem_heading.mp h
      rfl
    · obtain ⟨bytes, q, rfl⟩ := mem_chunks h
      rfl

theorem isTerminal_of_mem_lastWord {location : String} {o : Outcome} {event : Event}
    (h : event ∈ o.lastWord location) : event.isTerminal = true := by
  cases o <;> simp only [Outcome.lastWord, Outcome.parting, List.mem_singleton,
    List.not_mem_nil] at h <;> rw [h] <;> rfl

theorem length_lastWord (location : String) (o : Outcome) :
    (o.lastWord location).length = if o.ending = .stalled then 0 else 1 := by
  cases o <;> rfl

theorem sealed_append {front last : List Event} (hf : ∀ e ∈ front, e.isTerminal = false)
    (hl : last.length ≤ 1) : Sealed (front ++ last) := by
  intro first event rest he ht
  -- The terminal event stands behind all of the front, where there is one place.
  have hlong : front.length ≤ first.length := by
    refine Decidable.byContradiction fun hlt => ?_
    have hin : event ∈ front := by
      have hget : (front ++ last)[first.length]? = some event := by
        rw [he, List.getElem?_append_right (Nat.le_refl _), Nat.sub_self, List.getElem?_cons_zero]
      rw [List.getElem?_append_left (by omega)] at hget
      exact List.mem_of_getElem? hget
    exact absurd (hf event hin) (by rw [ht]; decide)
  have hlen := congrArg List.length he
  simp only [List.length_append, List.length_cons] at hlen
  exact List.eq_nil_of_length_eq_zero (by omega)

theorem sealed_promised (location : String) (mode : Delivery) (answer : Answer) :
    Sealed (promised location mode answer) := by
  have hlen := length_lastWord location (verdict location answer.reply)
  have he : promised location mode answer =
      (.opened :: (heading location answer.reply ++ chunks mode answer.reply)) ++
        (verdict location answer.reply).lastWord location := promised_eq location mode answer
  rw [he]
  refine sealed_append (fun e h => isTerminal_of_mem_front h) ?_
  rw [hlen]
  split <;> omega

/-- A stream ends unless its body never continues. -/
theorem closed_promised {location : String} {mode : Delivery} {answer : Answer} :
    Closed (promised location mode answer) ↔ verdict location answer.reply ≠ .stalled := by
  have hlen := length_lastWord location (verdict location answer.reply)
  have he : promised location mode answer =
      (.opened :: (heading location answer.reply ++ chunks mode answer.reply)) ++
        (verdict location answer.reply).lastWord location := promised_eq location mode answer
  rw [he, ne_eq, ← Outcome.ending_eq_stalled]
  constructor
  · rintro ⟨event, hm, ht⟩ hs
    rw [if_pos hs] at hlen
    rw [List.eq_nil_of_length_eq_zero hlen, List.append_nil] at hm
    exact absurd (isTerminal_of_mem_front hm) (by rw [ht]; decide)
  · intro hs
    rw [if_neg hs] at hlen
    obtain ⟨event, hlast⟩ := List.length_eq_one_iff.mp hlen
    have hm : event ∈ (verdict location answer.reply).lastWord location := by simp [hlast]
    exact ⟨event, List.mem_append_right _ hm, isTerminal_of_mem_lastWord hm⟩

theorem ending_course_eq_stalled {request : Request} {target : Target} {mode : Delivery}
    {answer : Answer} :
    (course request target mode answer).ending = .stalled ↔
      verdict request.location answer.reply = .stalled := by
  have hend := (tells_course request target mode answer).2
  rw [hend, Outcome.ending_eq_stalled]

theorem proper_course (request : Request) (target : Target) (mode : Delivery) (answer : Answer) :
    (course request target mode answer).Proper request.location where
  once := by
    rw [promised_course]
    exact sealed_promised _ _ _
  ends := by
    rw [promised_course]
    exact closed_promised.trans (not_congr ending_course_eq_stalled).symm

theorem listening_ofCourse (location : String) (capacity : Nat) (mode : Delivery) (c : Course) :
    Listening location c ⟨.ofCourse location capacity mode c, []⟩ where
  stays := rfl
  account := by
    simp only [Stream.ofCourse, Stream.upcoming, Course.promised, Course.events, and_true,
      List.nil_append]
  room := Nat.zero_le _
  ending := rfl
  address := fun _ => rfl
  finished := by
    constructor
    · intro h
      cases h
    · rintro ⟨event, hm, -⟩
      cases hm

theorem promised_loader (l : Loader) (n : Nat) : (l.course n).promised l.request.location =
    promised l.request.location l.delivery (l.answer n) := promised_course _ _ _ _

theorem proper_loader (l : Loader) (n : Nat) : (l.course n).Proper l.request.location :=
  proper_course _ _ _ _

theorem outcome_loader (l : Loader) (n : Nat) :
    (l.whole n).outcome = verdict l.request.location (l.answer n).reply := outcome_whole _ _ _

/-- The stream of a loader starts with the whole course before it and the room that was set. -/
theorem listening_stream {config : Config} {l : Loader} (hl : l.MadeFrom config) {n : Nat}
    {s : Stream} (hs : l.stream? n = some s) :
    Listening l.request.location (l.course n) ⟨s, []⟩ ∧
      s.capacity = max config.eventBuffer.toNat 1 := by
  have hfit := (Loader.stream?_isSome hl n).mp (by rw [hs]; rfl)
  rw [Loader.stream?_eq hl hfit n] at hs
  cases hs
  exact ⟨listening_ofCourse _ _ _ _, rfl⟩

/-- Read to its end, the stream of a loader gives all its events, and it is seen to end unless the
body never continues. -/
theorem drain_stream {config : Config} {l : Loader} (hl : l.MadeFrom config) {n : Nat}
    {s : Stream} (hs : l.stream? n = some s) :
    s.drain.1 = promised l.request.location l.delivery (l.answer n) ∧
      (s.drain.2.1 = true ↔ verdict l.request.location (l.answer n).reply ≠ .stalled) := by
  obtain ⟨hstart, hcap⟩ := listening_stream hl hs
  have hroom : 0 < s.capacity := by omega
  obtain ⟨hall, hend⟩ := hstart.drain_eq (proper_loader l n) hroom
  exact ⟨hall.trans (promised_loader l n), hend.trans (not_congr ending_course_eq_stalled)⟩

end Fetch
end Retrieval
