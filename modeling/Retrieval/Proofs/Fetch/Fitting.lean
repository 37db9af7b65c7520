import Retrieval.Proofs.Fetch.EverySchedule
import Retrieval.Proofs.Fetch.Phases
import Retrieval.Proofs.Fetch.Progress

/-! Transports and the targets that they are for. A loader that chooses its transport chooses one
that takes its target; one that is given a transport of the other kind is refused by it, and no file
is looked at and no host asked for that. -/
namespace Retrieval

/-- A transport of the kind that a target asks for. -/
inductive Fits : Transport → Target → Prop
  | web {t : Transport} (config : Config) (network : Http.Network)
      (h : Transport.http config network = .ok t) (url : Url) : Fits t (.http url)
  | path (config : Config) (files : Storage.FileSystem) (read : Nat → Bytes → List Bytes)
      (path : Bytes) : Fits (.file config files read) (.file path)

/-- A transport of the other kind, and the name for the kind of the target. -/
inductive Misfits : Transport → Target → String → Prop
  | web (config : Config) (files : Storage.FileSystem) (read : Nat → Bytes → List Bytes)
      (url : Url) : Misfits (.file config files read) (.http url) "http"
  | path {t : Transport} (config : Config) (network : Http.Network)
      (h : Transport.http config network = .ok t) (path : Bytes) : Misfits t (.file path) "file"

namespace Transport

variable {t : Transport} {config : Config} {network : Http.Network} {request : Request}
  {target : Target} {kind : String} {cause : LoadError}

/-- A target of the other kind is refused at once. -/
theorem send_misfits (h : Misfits t target kind) (n : Nat) (request : Request) :
    t.send n request target =
      { reply := .refusal (.unsupportedScheme request.location kind) } := by
  cases h with
  | web config files read url => rfl
  | path config network hmade path => rw [send_http hmade]

/-- What a response raises is among the items of its body. -/
theorem mem_of_raises {r : Response} (h : (Reply.response r).Raises cause) :
    ∃ items, r.body = some items ∧ .failure cause ∈ items := by
  rcases h with hrefused | ⟨items, hb, hm⟩
  · cases hrefused
  · obtain ⟨other, hr, -, hbody⟩ := Fetch.body?_eq_some hb
    cases hr
    exact ⟨items, hbody, hm⟩

/-- An exchange raises nothing but failures of the network. -/
theorem network_of_raises_exchange {url : Url}
    (h : (exchange config network request url).Raises cause) :
    ∃ failure, cause = .network request.location failure := by
  have hrefused {failure : Http.Failure}
      (hr : (Reply.refusal (.network request.location failure)).Raises cause) :
      ∃ failure, cause = .network request.location failure := by
    rcases hr with hr | ⟨items, hb, -⟩
    · exact ⟨failure, (Reply.refusal.inj hr).symm⟩
    · cases hb
  unfold exchange at h
  split at h
  · exact hrefused h
  · split at h
    · exact hrefused h
    · obtain ⟨items, hbody, hm⟩ := mem_of_raises h
      cases hbody
      obtain ⟨item, -, hitem⟩ := List.mem_map.mp hm
      cases item with
      | ok data => cases hitem
      | error failure => exact ⟨failure, (BodyItem.failure.inj hitem).symm⟩

/-- A file raises nothing but failures of reading. -/
theorem fileRead_of_raises_openFile {files : Storage.FileSystem} {location : String} {path : Bytes}
    {read : Nat → Bytes → List Bytes}
    (h : (openFile config files location path read).reply.Raises cause) :
    ∃ failure, cause = .fileRead location failure := by
  unfold openFile at h
  split at h
  · obtain ⟨items, hbody, -⟩ := mem_of_raises h
    cases hbody
  · split at h
    · rcases h with hr | ⟨items, hb, -⟩
      · cases hr
      · cases hb
    · obtain ⟨items, hbody, hm⟩ := mem_of_raises h
      cases hbody
      rcases List.mem_append.mp hm with hchunk | hfailure
      · obtain ⟨data, -, hitem⟩ := List.mem_map.mp hchunk
        cases hitem
      · obtain ⟨failure, -, hitem⟩ := List.mem_map.mp hfailure
        exact ⟨failure, (BodyItem.failure.inj hitem).symm⟩

/-- A transport that takes a target does not complain of its scheme. -/
theorem raises_fits (h : Fits t target) {n : Nat}
    (hr : (t.send n request target).reply.Raises cause) :
    (∃ failure, cause = .network request.location failure) ∨
      ∃ failure, cause = .fileRead request.location failure := by
  cases h with
  | web config network hmade url =>
    rw [send_http hmade] at hr
    exact Or.inl (network_of_raises_exchange hr)
  | path config files read path => exact Or.inr (fileRead_of_raises_openFile hr)

end Transport

namespace Loader

variable {request : Request} {config : Config} {around : Surroundings} {l : Loader}

theorem fits_of_create (h : create request config around = .ok l) :
    Fits l.transport l.target := by
  obtain ⟨-, -, -, ⟨path, hp, ht⟩ | ⟨url, hu, ht⟩⟩ := create_cases h
  · rw [hp, ht]
    exact .path ..
  · rw [hu]
    exact .web _ _ ht _

theorem withTransport_eq_ok {t : Transport} (h : withTransport request t config = .ok l) :
    l.request = request ∧ l.transport = t := by
  unfold withTransport at h
  split at h
  · cases h
  · cases h
    exact ⟨rfl, rfl⟩

/-- For a target on the web a loader cannot be made if there is no transport for it. -/
theorem create_of_resolve {target : Target} (around : Surroundings)
    (h : Target.resolve request.location config.baseUrl = .ok target) :
    (∃ l, create request config around = .ok l ∧ l.target = target) ∨
      ∃ url cause, target = .http url ∧
        create request config around = .error (.clientBuild cause) := by
  cases target with
  | file path =>
    simp only [create, h]
    exact Or.inl ⟨_, rfl, rfl⟩
  | http url =>
    by_cases ha : config.userAgent.all Http.isHeaderText
    · simp only [create, h, Transport.http, if_pos ha]
      exact Or.inl ⟨_, rfl, rfl⟩
    · simp only [create, h, Transport.http, if_neg ha]
      exact Or.inr ⟨url, _, rfl, rfl⟩

end Loader

namespace Fetch

variable {request : Request} {config : Config} {around : Surroundings} {l : Loader} {n : Nat}

/-- Why a retrieval fails whose transport takes its target: for the response, for the network or in
reading a file. -/
theorem cause_fits (h : Fits l.transport l.target) {place : String} {cause : LoadError}
    (hv : verdict place (l.answer n).reply = .failure cause) :
    (∃ status text, cause = .http place status text) ∨ (∃ text, cause = .nullPayload place text) ∨
      (∃ failure, cause = .network l.request.location failure) ∨
      ∃ failure, cause = .fileRead l.request.location failure := by
  rcases verdict_eq_failure hv with hc | hc | hr
  · exact Or.inl hc
  · exact Or.inr (Or.inl hc)
  · exact Or.inr (Or.inr (Transport.raises_fits h hr))

/-- A transport that takes its target never lets a retrieval end for the scheme. -/
theorem verdict_fits (h : Fits l.transport l.target) (place location scheme : String) :
    verdict place (l.answer n).reply ≠ .failure (.unsupportedScheme location scheme) := by
  intro hv
  rcases cause_fits h hv with ⟨_, _, hc⟩ | ⟨_, hc⟩ | ⟨_, hc⟩ | ⟨_, hc⟩ <;> cases hc

/-- Under every schedule only promised events are received. -/
theorem mem_promised_of_received (hl : l.MadeFrom config) {s : Stream}
    (hs : l.stream? n = some s) {moves : List Move} {event : Event}
    (hm : event ∈ ((Watched.mk s []).run moves).received) :
    event ∈ promised l.request.location l.delivery (l.answer n) := by
  obtain ⟨hstart, hcap⟩ := listening_stream hl hs
  have hroom : 0 < s.capacity := by omega
  have hin := (inStep_run (proper_loader l n) hstart hroom moves).beginning
  rw [promised_loader] at hin
  exact hin.subset (List.mem_append_left _ hm)

theorem not_mem_received_fits (hl : l.MadeFrom config) (h : Fits l.transport l.target) {s : Stream}
    (hs : l.stream? n = some s) (moves : List Move) (location scheme : String) :
    .error (.unsupportedScheme location scheme) ∉ ((Watched.mk s []).run moves).received := by
  intro hm
  rcases error_mem_promised (mem_promised_of_received hl hs hm) with hv | ⟨-, hc⟩
  · exact verdict_fits h _ _ _ hv
  · cases hc

/-- A refusal is all that comes of a request, whole and in a stream. -/
theorem retrieved_of_refusal (hl : l.MadeFrom config) {cause : LoadError}
    (ha : l.answer n = { reply := .refusal cause }) :
    (l.whole n).outcome = .failure cause ∧ (l.whole n).progress = [] ∧
      ∀ s, l.stream? n = some s → s.drain.1 = [.opened, .error cause] ∧ s.drain.2.1 = true ∧
        ∀ moves, InStep [.opened, .error cause] (max config.eventBuffer.toNat 1)
          ((Watched.mk s []).run moves) := by
  have hv : verdict l.request.location (l.answer n).reply = .failure cause := by
    rw [ha]
    rfl
  have hall : promised l.request.location l.delivery (l.answer n) = [.opened, .error cause] := by
    rw [promised_eq, ha]
    rfl
  refine ⟨(outcome_loader l n).trans hv, ?_, fun s hs => ?_⟩
  · rw [Loader.whole, progress_whole, ha]
    rfl
  · obtain ⟨hevents, hends⟩ := drain_stream hl hs
    obtain ⟨hstart, hcap⟩ := listening_stream hl hs
    have hroom : 0 < s.capacity := by omega
    have hrun := inStep_run (proper_loader l n) hstart hroom
    rw [promised_loader, hall] at hrun
    refine ⟨hevents.trans hall, hends.mpr (by rw [hv]; nofun), fun moves => ?_⟩
    rw [← hcap]
    exact hrun moves

/-- A loader is made where its location leads somewhere, and fails as that fails; one that chooses
its transport fails besides only for a target on the web, and only because no transport for it can
be made. What it has chosen never refuses a target for its scheme. A transport of the other kind
refuses every time, in every mode and under every schedule, before a status, a piece of data or a
reading of the counters, and with no file opened and no message sent. -/
theorem transport_fits_target (request : Request) (config : Config) (around : Surroundings) :
    (∀ e, Target.resolve request.location config.baseUrl = .error e →
      Loader.create request config around = .error e ∧
      ∀ t, Loader.withTransport request t config = .error e) ∧
    (∀ target, Target.resolve request.location config.baseUrl = .ok target →
      (∀ t, ∃ l, Loader.withTransport request t config = .ok l ∧ l.target = target ∧
        l.transport = t) ∧
      ((∃ l, Loader.create request config around = .ok l ∧ l.target = target) ∨
        ∃ url cause, target = .http url ∧
          Loader.create request config around = .error (.clientBuild cause))) ∧
    (∀ l, Loader.create request config around = .ok l → ∀ n location scheme,
      (l.whole n).outcome ≠ .failure (.unsupportedScheme location scheme) ∧
      ∀ s, l.stream? n = some s → ∀ moves,
        .error (.unsupportedScheme location scheme) ∉ ((Watched.mk s []).run moves).received) ∧
    ∀ t l kind, Loader.withTransport request t config = .ok l → Misfits t l.target kind → ∀ n,
      let failure := LoadError.unsupportedScheme request.location kind
      l.answer n = { reply := .refusal failure, reports := [], accesses := [] } ∧
      (l.whole n).outcome = .failure failure ∧ (l.whole n).progress = [] ∧
      ((l.stream? n).isSome = true ↔ config.eventBuffer.toNat ≤ Loader.maxChannelCapacity) ∧
      ∀ s, l.stream? n = some s → s.drain.1 = [.opened, .error failure] ∧ s.drain.2.1 = true ∧
        ∀ moves, InStep [.opened, .error failure] (max config.eventBuffer.toNat 1)
          ((Watched.mk s []).run moves) := by
  refine ⟨fun e he => ⟨?_, fun t => ?_⟩, fun target ht => ⟨fun t => ?_, ?_⟩,
    fun l hcreate n location scheme => ⟨?_, fun s hs moves => ?_⟩, fun t l kind hmade hm n => ?_⟩
  · simp only [Loader.create, he]
  · simp only [Loader.withTransport, he]
  · simp only [Loader.withTransport, ht]
    exact ⟨_, rfl, rfl, rfl⟩
  · exact Loader.create_of_resolve around ht
  · -- A transport that was chosen fits its target, so no verdict speaks of the scheme.
    rw [outcome_loader]
    exact verdict_fits (Loader.fits_of_create hcreate) _ _ _
  · exact not_mem_received_fits (.chosen hcreate) (Loader.fits_of_create hcreate) hs moves _ _
  · -- A transport that does not fit answers before anything is opened or sent.
    intro failure
    have hl : l.MadeFrom config := .given hmade
    obtain ⟨hrequest, htransport⟩ := Loader.withTransport_eq_ok hmade
    have ha : l.answer n = { reply := .refusal failure } := by
      rw [Loader.answer, hrequest, htransport]
      exact Transport.send_misfits hm n request
    obtain ⟨hwhole, hprogress, hstream⟩ := retrieved_of_refusal hl ha
    exact ⟨ha, hwhole, hprogress, Loader.stream?_isSome hl n, hstream⟩

/-- A name that is a file and leads to the web under a base, each time with the other transport. -/
theorem transport_fits_target_crossed :
    let base : Url := { scheme := "http", host := some (.name "h"), path := .segments [""] }
    let files : Storage.FileSystem := { entries := [([utf8 "x"], .file [1])] }
    ∃ t l m, Transport.http {} (fun _ => .ok { status := 200 }) = .ok t ∧
      Loader.withTransport { location := "x" } (.file {} files) { baseUrl := some base } = .ok l ∧
      Loader.withTransport { location := "x" } t {} = .ok m ∧
      (l.whole 0).outcome = .failure (.unsupportedScheme "x" "http") ∧
      (m.whole 0).outcome = .failure (.unsupportedScheme "x" "file") ∧
      ∃ s, m.stream? 0 = some s ∧
        s.drain.1 = [.opened, .error (.unsupportedScheme "x" "file")] := by
  intro base files
  let url : Url := { scheme := "http", host := some (.name "h"), path := .segments ["x"] }
  obtain ⟨t, ht⟩ : ∃ t, Transport.http {} (fun _ => .ok { status := 200 }) = .ok t := ⟨_, rfl⟩
  let l : Loader := ⟨{ location := "x" }, .http url, .file {} files, 32⟩
  let m : Loader := ⟨{ location := "x" }, .file (utf8 "x"), t, 32⟩
  have hl : Loader.withTransport { location := "x" } (.file {} files) { baseUrl := some base } =
      .ok l := by rfl
  have hm : Loader.withTransport { location := "x" } t {} = .ok m := by rfl
  obtain ⟨-, -, -, hweb⟩ :=
    transport_fits_target { location := "x" } { baseUrl := some base } { files }
  obtain ⟨-, -, -, hpath⟩ := transport_fits_target { location := "x" } {} { files }
  obtain ⟨-, hrefused, -⟩ := hweb _ l _ hl (.web {} files _ url) 0
  obtain ⟨-, hother, -, -, hstream⟩ := hpath t m _ hm (.path {} _ ht (utf8 "x")) 0
  exact ⟨t, l, m, ht, hl, hm, hrefused, hother, _, rfl, (hstream _ rfl).1⟩

end Fetch
end Retrieval
