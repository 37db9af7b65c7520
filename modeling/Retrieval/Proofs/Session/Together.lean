import Retrieval.Proofs.Fetch.EverySchedule
import Retrieval.Proofs.Session.Sequence
import Retrieval.Proofs.Tables

/-! Streams of one loader that are open at the same time. Whatever happens to the session, one name
sees of it what is done to its own stream and the answers to its own requests, so that the facts
about one stream under every schedule hold of each of them. -/
namespace Retrieval

open Fetch (Move Watched Event Stream Listening Deserted InStep Closed)

inductive Deed
  /-- A new stream takes the place of an earlier one. -/
  | start
  /-- Its task or its listener takes one step. -/
  | move (m : Move)
  /-- Its listener asks for the next event, with the task running as far as it can before. -/
  | next
  | cancel

inductive Turn
  | on (name : String) (deed : Deed)
  | retrieve (way : Way)

def Turn.isOn (name : String) : Turn → Bool
  | .on other _ => other == name
  | .retrieve _ => false

structure Audience where
  session : Session
  received : String → List Event := fun _ => []

/-- The part of one name: its stream, as long as there is one, and what was received of it. -/
structure View where
  stream? : Option Stream
  received : List Event

namespace View

def tend (v : View) (f : Watched → Watched) : View :=
  match v.stream? with
  | some s => ⟨some (f ⟨s, v.received⟩).stream, (f ⟨s, v.received⟩).received⟩
  | none => v

def act (fresh : Option Stream) (v : View) : Deed → View
  | .start =>
    match fresh with
    | some s => ⟨some s, []⟩
    | none => v
  | .move m => v.tend fun w => w.act m
  | .next => v.tend fun w => ⟨w.stream.next.2.1, w.received ++ w.stream.next.1.events⟩
  | .cancel => ⟨none, v.received⟩

end View

namespace Audience

def ofLoader (l : Loader) : Audience := { session := { loader := l } }

def noted (received : String → List Event) (name : String) (events : List Event) :
    String → List Event :=
  fun other => if other = name then events else received other

def view (a : Audience) (name : String) : View :=
  ⟨a.session.streams.lookup name, a.received name⟩

def act (a : Audience) : Turn → Audience
  | .on name .start =>
    match a.session.start? name with
    | some s => ⟨s, noted a.received name []⟩
    | none => a
  | .on name (.move m) =>
    match a.session.streams.lookup name with
    | some stream =>
      let w := (Watched.mk stream (a.received name)).act m
      ⟨{ a.session with
          streams := a.session.streams.map fun (n, old) => (n, if n = name then w.stream else old) },
        noted a.received name w.received⟩
    | none => a
  | .on name .next =>
    match a.session.next? name with
    | some (result, _, s) =>
      ⟨s, noted a.received name (a.received name ++ result.events)⟩
    | none => a
  | .on name .cancel =>
    match a.session.cancel? name with
    | some s => { a with session := s }
    | none => a
  | .retrieve way =>
    match a.session.retrieve? way with
    | some (_, s) => { a with session := s }
    | none => a

def run (a : Audience) (turns : List Turn) : Audience := turns.foldl act a

variable {a b : Audience} {name other : String} {deed : Deed} {turn : Turn}

@[simp] theorem noted_self (received : String → List Event) (name : String) (events : List Event) :
    noted received name events name = events := if_pos rfl

@[simp] theorem noted_of_ne (received : String → List Event) (h : name ≠ other)
    (events : List Event) : noted received other events name = received name := if_neg h

theorem run_append (first second : List Turn) :
    a.run (first ++ second) = (a.run first).run second := List.foldl_append

/-- What is done on a name is seen of it as if the stream were alone. -/
theorem view_act_on (a : Audience) (name : String) (deed : Deed) :
    (a.act (.on name deed)).view name =
      (a.view name).act (a.session.loader.stream? a.session.count) deed := by
  cases deed with
  | start =>
    cases hs : a.session.loader.stream? a.session.count with
    | none => simp [act, Session.start?, Session.stream?, View.act, hs]
    | some s => simp [act, Session.start?, Session.stream?, View.act, view, hs]
  | move m =>
    cases hl : a.session.streams.lookup name with
    | none => simp [act, View.act, View.tend, view, hl]
    | some s => simp [act, View.act, View.tend, view, hl, lookup_map_self]
  | next =>
    cases hl : a.session.streams.lookup name with
    | none => simp [act, Session.next?, View.act, View.tend, view, hl]
    | some s => simp [act, Session.next?, View.act, View.tend, view, hl, lookup_map_self]
  | cancel =>
    cases hl : a.session.streams.lookup name with
    | none => simp [act, Session.cancel?, View.act, view, hl]
    | some s => simp [act, Session.cancel?, View.act, view, hl, lookup_filter_self]

/-- A turn that is not on a name is not seen of it. -/
theorem view_act_of_ne (h : turn.isOn name = false) : (a.act turn).view name = a.view name := by
  cases turn with
  -- A retrieval of its own touches no stream.
  | retrieve way =>
    have hkept : ∀ account after, a.session.retrieve? way = some (account, after) →
        after.streams = a.session.streams := by
      intro account after hr
      obtain ⟨_, rfl⟩ := Session.retrieve?_kept hr
      rfl
    cases hr : a.session.retrieve? way with
    | none => simp only [act, hr]
    | some done => simp only [act, hr, view, hkept _ _ hr]
  -- A deed on another name looks up, replaces or removes that name only.
  | on other deed =>
    have hne : name ≠ other := by
      intro he
      simp [Turn.isOn, he] at h
    cases deed with
    | start =>
      have hbeq : (name == other) = false := beq_false_of_ne hne
      cases hs : a.session.loader.stream? a.session.count with
      | none => simp [act, Session.start?, Session.stream?, hs]
      | some s =>
        simp [act, Session.start?, Session.stream?, view, hs, hne, hbeq, List.lookup_cons,
          lookup_filter_of_ne _ hne]
    | move m =>
      cases hl : a.session.streams.lookup other with
      | none => simp [act, hl]
      | some s => simp [act, view, hl, hne, lookup_map_of_ne _ _ hne]
    | next =>
      cases hl : a.session.streams.lookup other with
      | none => simp [act, Session.next?, hl]
      | some s => simp [act, Session.next?, view, hl, hne, lookup_map_of_ne _ _ hne]
    | cancel =>
      cases hl : a.session.streams.lookup other with
      | none => simp [act, Session.cancel?, hl]
      | some s => simp [act, Session.cancel?, view, hl, lookup_filter_of_ne _ hne]

/-- How often a turn sends the request depends on the loader alone. -/
def sends (l : Loader) : Turn → Nat
  | .on _ .start => if l.capacity ≤ Loader.maxChannelCapacity then 1 else 0
  | .on _ _ => 0
  | .retrieve way => if (l.account? 0 way).isSome = true then 1 else 0

theorem loader_act (a : Audience) (turn : Turn) :
    (a.act turn).session.loader = a.session.loader := by
  cases turn with
  | retrieve way =>
    cases hr : a.session.retrieve? way with
    | none => simp only [act, hr]
    | some done =>
      obtain ⟨_, hkept⟩ := Session.retrieve?_kept hr
      simp only [act, hr, hkept]
      rfl
  | on name deed =>
    cases deed with
    | start =>
      cases hs : a.session.loader.stream? a.session.count <;>
        simp [act, Session.start?, Session.stream?, hs]
    | move m => cases hl : a.session.streams.lookup name <;> simp [act, hl]
    | next => cases hl : a.session.streams.lookup name <;> simp [act, Session.next?, hl]
    | cancel => cases hl : a.session.streams.lookup name <;> simp [act, Session.cancel?, hl]

theorem loader_run (a : Audience) (turns : List Turn) :
    (a.run turns).session.loader = a.session.loader := by
  induction turns generalizing a with
  | nil => rfl
  | cons turn rest ih => exact (ih (a.act turn)).trans (loader_act a turn)

theorem count_act {config : Config} (hl : a.session.loader.MadeFrom config) (turn : Turn) :
    (a.act turn).session.count = a.session.count + sends a.session.loader turn := by
  cases turn with
  | retrieve way =>
    -- Which answer a request gets has no part in whether it can be made.
    have hsome : (a.session.loader.account? a.session.count way).isSome =
        (a.session.loader.account? 0 way).isSome := by
      rw [Bool.eq_iff_iff, Loader.isSome_account?, Loader.isSome_account?]
    cases hr : a.session.loader.account? a.session.count way with
    | none =>
      rw [hr] at hsome
      simp [act, Session.retrieve?_eq hl, hr, sends, ← hsome]
    | some account =>
      have hdone : a.session.retrieve? way = some (account, a.session.sentOnce) :=
        (Session.retrieve?_eq_some hl).mpr ⟨hr, rfl⟩
      rw [hr] at hsome
      simp only [act, hdone, sends, ← hsome, Option.isSome_some, if_true]
      exact Session.count_sentOnce
  | on name deed =>
    cases deed with
    | start =>
      by_cases hfit : a.session.loader.capacity ≤ Loader.maxChannelCapacity
      · simp [act, Session.start?, Session.stream?, Loader.stream?, sends, hfit, Session.count,
          Nat.add_assoc]
      · simp [act, Session.start?, Session.stream?, Loader.stream?, sends, hfit]
    | move m =>
      cases hs : a.session.streams.lookup name <;> simp [act, hs, sends, Session.count]
    | next =>
      cases hs : a.session.streams.lookup name <;>
        simp [act, Session.next?, hs, sends, Session.count]
    | cancel =>
      cases hs : a.session.streams.lookup name <;>
        simp [act, Session.cancel?, hs, sends, Session.count]

/-- Two sessions that a name cannot tell apart, now and at all its later requests. -/
structure Alike (name : String) (a b : Audience) : Prop where
  loader : a.session.loader = b.session.loader
  ahead : ∀ k, a.session.loader.answer (a.session.count + k) =
    a.session.loader.answer (b.session.count + k)
  view : a.view name = b.view name

namespace Alike

variable {config : Config}

theorem act (h : Alike name a b) (hl : a.session.loader.MadeFrom config) (turn : Turn) :
    Alike name (a.act turn) (b.act turn) := by
  have hca := count_act hl turn
  have hcb := count_act (h.loader ▸ hl) turn
  refine ⟨by rw [loader_act, loader_act, h.loader], ?_, ?_⟩
  · intro k
    rw [loader_act, hca, hcb, ← h.loader, Nat.add_assoc, Nat.add_assoc]
    exact h.ahead _
  · by_cases hon : turn.isOn name = true
    · cases turn with
      | retrieve way => cases hon
      | on other deed =>
        obtain rfl : other = name := beq_iff_eq.mp hon
        -- A stream that is opened has the same course on both sides.
        have hfresh : a.session.loader.stream? a.session.count =
            b.session.loader.stream? b.session.count := by
          have hanswer := h.ahead 0
          simp only [Nat.add_zero] at hanswer
          simp only [Loader.stream?, Loader.course, ← h.loader, hanswer]
        rw [view_act_on, view_act_on, h.view, hfresh]
    · have hoff : turn.isOn name = false := Bool.eq_false_iff.mpr hon
      rw [view_act_of_ne hoff, view_act_of_ne hoff]
      exact h.view

theorem run (h : Alike name a b) (hl : a.session.loader.MadeFrom config) (turns : List Turn) :
    Alike name (a.run turns) (b.run turns) := by
  induction turns generalizing a b with
  | nil => exact h
  | cons turn rest ih => exact ih (h.act hl turn) (loader_act a turn ▸ hl)

/-- What is done to other streams goes unnoticed where it sends nothing, or where all answers are
the same. -/
theorem aside (h : Alike name a b) (hl : a.session.loader.MadeFrom config)
    (hoff : turn.isOn name = false)
    (hsends : sends a.session.loader turn = 0 ∨
      ∀ n, a.session.loader.answer n = a.session.loader.answer 0) :
    Alike name (a.act turn) b := by
  refine ⟨(loader_act a turn).trans h.loader, ?_, (view_act_of_ne hoff).trans h.view⟩
  intro k
  rw [loader_act, count_act hl]
  rcases hsends with hnone | hall
  · rw [hnone, Nat.add_zero]
    exact h.ahead k
  · rw [hall, hall (b.session.count + k)]

/-- A name cannot tell a session from one in which nothing but its own stream is there. -/
theorem run_filter (h : Alike name a b) (hl : a.session.loader.MadeFrom config)
    (hall : ∀ n, a.session.loader.answer n = a.session.loader.answer 0) (turns : List Turn) :
    Alike name (a.run turns) (b.run (turns.filter (·.isOn name))) := by
  induction turns generalizing a b with
  | nil => exact h
  | cons turn rest ih =>
    have hmade : (a.act turn).session.loader.MadeFrom config := loader_act a turn ▸ hl
    have hnext : ∀ n, (a.act turn).session.loader.answer n =
        (a.act turn).session.loader.answer 0 := by
      rw [loader_act]
      exact hall
    by_cases hon : turn.isOn name = true
    · rw [List.filter_cons_of_pos hon]
      exact ih (h.act hl turn) hmade hnext
    · rw [List.filter_cons_of_neg hon]
      exact ih (h.aside hl (Bool.eq_false_iff.mpr hon) (Or.inr hall)) hmade hnext

end Alike

/-- What holds of the part of a name: its stream, at work or given up, has told the beginning of
these events. -/
structure Kept (l : Loader) (all : List Event) (v : View) : Prop where
  beginning : v.received <+: all
  whole : Closed v.received → v.received = all
  stream : ∀ s, v.stream? = some s → s.capacity = l.capacity ∧
    ∃ c : Fetch.Course, c.Proper l.request.location ∧ c.promised l.request.location = all ∧
      (Listening l.request.location c ⟨s, v.received⟩ ∨
        Deserted l.request.location c ⟨s, v.received⟩)

namespace Kept

variable {l : Loader} {all : List Event} {v : View}

theorem inStep (h : Kept l all v) (hroom : 0 < l.capacity) {s : Stream} (hs : v.stream? = some s) :
    InStep all l.capacity ⟨s, v.received⟩ := by
  obtain ⟨hcap, c, hp, rfl, hw⟩ := h.stream s hs
  have hin := Fetch.inStep hp hw (by rw [hcap]; exact hroom)
  rw [hcap] at hin
  exact hin

/-- Schedules of the stream keep to it. -/
theorem tend (h : Kept l all v) (hroom : 0 < l.capacity) {f : Watched → Watched}
    (hf : ∀ w, ∃ moves, f w = w.run moves) : Kept l all (v.tend f) := by
  cases hs : v.stream? with
  | none => simpa only [View.tend, hs] using h
  | some s =>
    obtain ⟨hcap, c, hp, hall, hw⟩ := h.stream s hs
    obtain ⟨moves, hrun⟩ := hf ⟨s, v.received⟩
    have hafter := Fetch.listening_or_deserted_run hp hw moves
    have hsame := Watched.capacity_run ⟨s, v.received⟩ moves
    rw [← hrun] at hafter hsame
    have hin := Fetch.inStep hp hafter (by rw [hsame, hcap]; exact hroom)
    rw [hall] at hin
    simp only [View.tend, hs]
    refine ⟨(List.prefix_append _ _).trans hin.beginning, hin.whole, ?_⟩
    rintro _ ⟨⟩
    exact ⟨hsame.trans hcap, c, hp, hall, hafter⟩

theorem act {config : Config} (hl : l.MadeFrom config)
    (hall : ∀ n, Fetch.promised l.request.location l.delivery (l.answer n) = all)
    (h : Kept l all v) (n : Nat) (deed : Deed) : Kept l all (v.act (l.stream? n) deed) := by
  have hcap := Loader.capacity_eq hl
  have hroom : 0 < l.capacity := by omega
  cases deed with
  | start =>
    cases hs : l.stream? n with
    | none => exact h
    | some s =>
      obtain ⟨hstart, hsame⟩ := Fetch.listening_stream hl hs
      refine ⟨List.nil_prefix, nofun, ?_⟩
      rintro _ ⟨⟩
      have hpromised := (Fetch.promised_loader l n).trans (hall n)
      exact ⟨hsame.trans hcap.symm, _, Fetch.proper_loader l n, hpromised, Or.inl hstart⟩
  | move m => exact h.tend hroom fun w => ⟨[m], rfl⟩
  | next =>
    have hnext (w : Watched) : ∃ moves,
        Watched.mk w.stream.next.2.1 (w.received ++ w.stream.next.1.events) = w.run moves := by
      obtain ⟨moves, -, hrun, -⟩ := w.stream.exists_run_next w.received
      exact ⟨moves, hrun.symm⟩
    exact h.tend hroom hnext
  | cancel => exact ⟨h.beginning, h.whole, nofun⟩

theorem run {config : Config} (hl : l.MadeFrom config)
    (hall : ∀ n, Fetch.promised l.request.location l.delivery (l.answer n) = all)
    (hloader : a.session.loader = l) (h : Kept l all (a.view name)) (turns : List Turn) :
    Kept l all ((a.run turns).view name) := by
  induction turns generalizing a with
  | nil => exact h
  | cons turn rest ih =>
    refine ih ((loader_act a turn).trans hloader) ?_
    by_cases hon : turn.isOn name = true
    · cases turn with
      | retrieve way => cases hon
      | on other deed =>
        obtain rfl : other = name := beq_iff_eq.mp hon
        rw [view_act_on, hloader]
        exact h.act hl hall _ deed
    · rw [view_act_of_ne (Bool.eq_false_iff.mpr hon)]
      exact h

end Kept

theorem alike_refl (name : String) (a : Audience) : Alike name a a := ⟨rfl, fun _ => rfl, rfl⟩

/-- However many streams of a loader are open, in whatever order they are opened, polled and given
up and their tasks take their steps, each is received as if it were alone. What is done to one of
them, giving it up included, makes no difference to another. -/
theorem streams_undisturbed {config : Config} {l : Loader} (hl : l.MadeFrom config) {reply : Reply}
    (hsame : ∀ n, (l.answer n).reply = reply) (turns : List Turn) (name : String) :
    let a := (ofLoader l).run turns
    (∀ k alone, l.stream? k = some alone →
      a.received name <+: alone.drain.1 ∧
      (Closed (a.received name) → a.received name = alone.drain.1) ∧
      ∀ s, a.session.streams.lookup name = some s →
        InStep alone.drain.1 (max config.eventBuffer.toNat 1) ⟨s, a.received name⟩) ∧
    (∀ other deed first rest, other ≠ name → deed ≠ .start →
      turns = first ++ .on other deed :: rest →
        a.view name = ((ofLoader l).run (first ++ rest)).view name) ∧
    ((∀ n, l.answer n = l.answer 0) →
      a.view name = ((ofLoader l).run (turns.filter (·.isOn name))).view name) := by
  intro a
  refine ⟨?_, ?_, ?_⟩
  · intro k alone halone
    obtain ⟨hdrain, -⟩ := Fetch.drain_stream hl halone
    have hcap := Loader.capacity_eq hl
    -- The events depend on the reply, and the reply is always the same.
    have hall (n : Nat) : Fetch.promised l.request.location l.delivery (l.answer n) =
        alone.drain.1 := by
      rw [hdrain, Fetch.promised_eq, Fetch.promised_eq, hsame, hsame]
    -- Before the first stream of that name there is nothing to keep.
    have hempty : Kept l alone.drain.1 ((ofLoader l).view name) :=
      ⟨List.nil_prefix, nofun, nofun⟩
    have hkept := Kept.run hl hall rfl hempty turns
    refine ⟨hkept.beginning, hkept.whole, ?_⟩
    intro s hs
    rw [← hcap]
    exact hkept.inStep (by omega) hs
  · rintro other deed first rest hne hdeed rfl
    have hoff : (Turn.on other deed).isOn name = false := beq_false_of_ne hne
    -- A turn that opens no stream sends nothing, so that later requests get the same answers.
    have hnone (m : Loader) : sends m (.on other deed) = 0 := by
      cases deed with
      | start => exact absurd rfl hdeed
      | _ => rfl
    have hbefore : ((ofLoader l).run first).session.loader.MadeFrom config := by
      rw [loader_run]
      exact hl
    have halike := (alike_refl name ((ofLoader l).run first)).aside hbefore hoff (Or.inl (hnone _))
    have hview := (halike.run (loader_act _ _ ▸ hbefore) rest).view
    rw [run_append]
    exact (congrArg (fun b : Audience => b.view name) (run_append first _)).trans hview
  · intro hanswers
    exact ((alike_refl name (ofLoader l)).run_filter hl hanswers turns).view

/-- One stream is given up behind its first event, and the other one has all of its own. -/
theorem streams_undisturbed_pair :
    let l := Loader.sample true 0 [.response { status := 200, body := some [.chunk [1]] }]
    let step (name : String) : List Turn := [.on name (.move .work), .on name (.move .poll)]
    let turns := [.on "a" .start, .on "b" .start] ++ step "a" ++ step "b" ++ step "a" ++ step "b" ++
      [.on "b" .cancel] ++ step "a" ++ step "b" ++ step "a" ++ step "a" ++ step "a"
    l.MadeFrom { eventBuffer := 0 } ∧ (∀ n, (l.answer n).reply = (l.answer 0).reply) ∧
      (((ofLoader l).run turns).received "b").length = 1 ∧
      (((ofLoader l).run turns).received "a").length = 4 ∧
      ∃ alone, l.stream? 0 = some alone ∧
        ((ofLoader l).run turns).received "a" = alone.drain.1 := by
  intro l step turns
  have hl : l.MadeFrom { eventBuffer := 0 } := Loader.madeFrom_sample _ _ _
  have h (n : Nat) : (l.answer n).reply = (l.answer 0).reply := by cases n <;> rfl
  have ha : (((ofLoader l).run turns).received "a").length = 4 := by decide +kernel
  have hb : (((ofLoader l).run turns).received "b").length = 1 := by decide +kernel
  have hlast : (((ofLoader l).run turns).received "a").any Event.isTerminal = true := by
    decide +kernel
  have hclosed : Closed (((ofLoader l).run turns).received "a") := List.any_eq_true.mp hlast
  obtain ⟨hall, -⟩ := streams_undisturbed hl h turns "a"
  obtain ⟨-, hwhole, -⟩ := hall 0 _ rfl
  exact ⟨hl, h, hb, ha, _, rfl, hwhole hclosed⟩

end Audience
end Retrieval
