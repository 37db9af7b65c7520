import Retrieval.Proofs.Fetch.Schedule

/-! Nothing is lost, doubled or put in another place on the way from a task to its listener. One
invariant holds as long as the listener stays, another one after that, and every move keeps to
them. -/
namespace Retrieval.Fetch

def Sealed (events : List Event) : Prop :=
  ∀ first event rest, events = first ++ event :: rest → event.isTerminal = true → rest = []

def Closed (events : List Event) : Prop := ∃ event ∈ events, event.isTerminal = true

theorem closed_append_singleton {events : List Event} (h : ¬Closed events) (event : Event) :
    Closed (events ++ [event]) ↔ event.isTerminal = true := by
  constructor
  · rintro ⟨e, hm, he⟩
    rcases List.mem_append.mp hm with hm | hm
    · exact absurd ⟨e, hm, he⟩ h
    · rwa [← List.mem_singleton.mp hm]
  · intro he
    exact ⟨event, by simp, he⟩

theorem Sealed.rest_eq_nil {events first rest : List Event} (hs : Sealed events)
    (he : events = first ++ rest) (hc : Closed first) : rest = [] := by
  obtain ⟨event, hm, ht⟩ := hc
  -- Behind the terminal event come the end of the first part and the rest, and both are empty.
  obtain ⟨before, behind, hfirst⟩ := List.append_of_mem hm
  have hsplit : events = before ++ event :: (behind ++ rest) := by
    rw [he, hfirst, List.append_assoc, List.cons_append]
  exact (List.append_eq_nil_iff.mp (hs _ _ _ hsplit ht)).2

def through {α : Type} (ends : α → Bool) : List α → List α
  | [] => []
  | item :: rest => if ends item then [item] else item :: through ends rest

section

variable {α : Type} (ends : α → Bool)

theorem through_append {item : α} (h : ends item = true) (front rest : List α) :
    through ends (front ++ item :: rest) = through ends (front ++ [item]) := by
  induction front with
  | nil => simp only [List.nil_append, through, if_pos h]
  | cons first more ih => simp only [List.cons_append, through, ih]

end

def untilClosed (events : List Event) : List Event := through Event.isTerminal events

theorem untilClosed_cons (event : Event) (rest : List Event) :
    untilClosed (event :: rest) =
      if event.isTerminal then [event] else event :: untilClosed rest := rfl

theorem not_closed_nil : ¬Closed [] := by
  rintro ⟨event, hm, -⟩
  cases hm

theorem closed_cons (event : Event) (rest : List Event) :
    Closed (event :: rest) ↔ event.isTerminal = true ∨ Closed rest := by
  simp only [Closed, List.mem_cons, exists_eq_or_imp]

theorem Sealed.tail {event : Event} {rest : List Event} (h : Sealed (event :: rest)) :
    Sealed rest := by
  intro first last behind he
  exact h (event :: first) last behind (congrArg (event :: ·) he)

theorem Sealed.beginning {events first : List Event} (h : Sealed events) (hp : first <+: events) :
    Sealed first := by
  obtain ⟨rest, rfl⟩ := hp
  intro before last behind he ht
  have hsplit : first ++ rest = before ++ last :: (behind ++ rest) := by
    rw [he, List.append_assoc, List.cons_append]
  exact (List.append_eq_nil_iff.mp (h _ _ _ hsplit ht)).1

theorem untilClosed_eq {events : List Event} (h : Sealed events) : untilClosed events = events := by
  induction events with
  | nil => rfl
  | cons event rest ih =>
    rw [untilClosed_cons]
    split
    · rename_i ht
      rw [h [] event rest rfl ht]
    · rw [ih h.tail]

/-- A course whose events end once, and with it if it ends at all. -/
structure Course.Proper (location : String) (c : Course) : Prop where
  once : Sealed (c.promised location)
  ends : Closed (c.promised location) ↔ c.ending ≠ .stalled

/-- What holds of a stream as long as its listener stays: what was received, what waits and what is
still to come make up the events of the course. -/
structure Listening (location : String) (c : Course) (w : Watched) : Prop where
  stays : w.stream.dropped = false
  account : w.received ++ w.stream.queue ++ w.stream.upcoming = c.promised location
  room : w.stream.queue.length ≤ w.stream.capacity
  ending : w.stream.ending = c.ending
  address : w.stream.receiver.finished = false → w.stream.receiver.location = location
  finished : w.stream.receiver.finished = true ↔ Closed w.received

structure Deserted (location : String) (c : Course) (w : Watched) : Prop where
  gone : w.stream.dropped = true
  beginning : w.received <+: c.promised location
  empty : w.stream.queue = []
  whole : Closed w.received → w.received = c.promised location

variable {location : String} {c : Course} {w : Watched}

namespace Listening

theorem received_eq (hp : c.Proper location) (h : Listening location c w)
    (hc : Closed w.received) : w.received = c.promised location := by
  have he : c.promised location = w.received ++ (w.stream.queue ++ w.stream.upcoming) := by
    rw [← h.account, List.append_assoc]
  rw [he, hp.once.rest_eq_nil he hc, List.append_nil]

theorem work (h : Listening location c w) : Listening location c (w.act .work) := by
  rcases w.work_cases with ⟨he, -⟩ | ⟨act, tr, rest, hs, hact, he, -⟩ | ⟨_, _, _, -, hd, -⟩ |
    ⟨event, tr, rest, hs, -, hq, he, -⟩
  · rw [he]
    exact h
  · -- A step that the listener is not told of hands nothing out.
    have hnone : emitted w.stream.steps = emitted rest := by
      rw [hs]
      exact List.filterMap_cons_none hact
    have hup : w.stream.upcoming = ({ w.stream with
        steps := rest, transfer := tr, sent := w.stream.sent ++ act.request?.toList } :
        Stream).upcoming := by
      simp only [Stream.upcoming, hnone]
    rw [he]
    exact ⟨h.stays, hup ▸ h.account, h.room, h.ending, h.address, h.finished⟩
  · exact absurd hd (by rw [h.stays]; decide)
  · -- An event passes from what is to come to the end of the channel.
    have hup : w.stream.upcoming = event :: ({ w.stream with
        queue := w.stream.queue ++ [event], steps := rest, transfer := tr } :
        Stream).upcoming := by
      simp only [Stream.upcoming, hs]
      rfl
    rw [he]
    refine ⟨h.stays, ?_, ?_, h.ending, h.address, h.finished⟩
    · rw [← h.account, hup]
      simp only [List.append_assoc, List.cons_append, List.nil_append]
    · simp only [List.length_append, List.length_singleton]
      omega

theorem not_closed (h : Listening location c w) (hf : w.stream.receiver.finished = false) :
    ¬Closed w.received := by
  intro hc
  have hover := h.finished.mpr hc
  rw [hf] at hover
  cases hover

/-- A task that goes without a last word has broken down. -/
theorem crashed_of_gone (hp : c.Proper location) (h : Listening location c w)
    (hf : w.stream.receiver.finished = false) (hq : w.stream.queue = [])
    (hg : w.stream.taskGone = true) : w.stream.steps = [] ∧ w.stream.ending = .crashed := by
  obtain ⟨hsteps, hns⟩ : w.stream.steps = [] ∧ c.ending ≠ .stalled := by
    simpa [Stream.taskGone, h.ending] using hg
  refine ⟨hsteps, Decidable.byContradiction fun hne => ?_⟩
  -- Had the task finished, its last word would have been received.
  have hup : w.stream.upcoming = [] := by
    simp [Stream.upcoming, hsteps, hne, emitted]
  have hacc := h.account
  rw [hq, hup, List.append_nil, List.append_nil] at hacc
  apply h.not_closed hf
  rw [hacc]
  exact hp.ends.mpr hns

theorem poll (hp : c.Proper location) (h : Listening location c w) :
    Listening location c (w.act .poll) := by
  rcases Stream.poll_cases h.stays with ⟨hf, he⟩ | ⟨hf, event, rest, hq, he⟩ |
    ⟨hf, hq, hg, he⟩ | ⟨hf, hq, hg, he⟩
  · simpa only [Watched.act, he, Poll.events, List.append_nil] using h
  · have hopen := h.not_closed hf
    simp only [Watched.act, he, Poll.events]
    have hall : c.promised location =
        (w.received ++ [event]) ++ (rest ++ w.stream.upcoming) := by
      rw [← h.account, hq]
      simp only [List.append_assoc, List.cons_append, List.nil_append]
    refine ⟨h.stays, ?_, ?_, h.ending, fun _ => h.address hf, ?_⟩
    · -- Behind a terminal event nothing is to come, so the mark it leaves takes nothing away.
      by_cases ht : event.isTerminal = true
      · have hnone := hp.once.rest_eq_nil hall ((closed_append_singleton hopen event).mpr ht)
        obtain ⟨hrest, hup⟩ := List.append_eq_nil_iff.mp hnone
        have hsteps : emitted w.stream.steps = [] := (List.append_eq_nil_iff.mp hup).1
        rw [hall, hrest, hup]
        simp [Stream.upcoming, hsteps, ht]
      · have hf' : event.isTerminal = false := Bool.eq_false_iff.mpr ht
        rw [hall, ← List.append_assoc]
        simp only [Stream.upcoming, hf, hf']
    · have hlen := h.room
      rw [hq, List.length_cons] at hlen
      exact Nat.le_of_succ_le hlen
    · exact (closed_append_singleton hopen event).symm
  · -- A word that the task owes is made up by the listener.
    have hopen := h.not_closed hf
    obtain ⟨hsteps, hcrash⟩ := h.crashed_of_gone hp hf hq hg
    have hacc : w.received ++ w.stream.upcoming = c.promised location := by
      simpa only [hq, List.append_nil] using h.account
    have hup : w.stream.upcoming = [.error (.taskAborted w.stream.receiver.location)] := by
      simp [Stream.upcoming, hsteps, hcrash, hf, emitted]
    simp only [Watched.act, he, Poll.events]
    refine ⟨h.stays, ?_, Nat.zero_le _, h.ending, fun hff => Bool.noConfusion hff, ?_⟩
    · rw [← hacc, hup]
      simp [Stream.upcoming, hsteps, emitted]
    · exact ⟨fun _ => (closed_append_singleton hopen _).mpr rfl, fun _ => rfl⟩
  · simpa only [Watched.act, he, Poll.events, List.append_nil] using h

theorem release (hp : c.Proper location) (h : Listening location c w) :
    Deserted location c (w.act .release) := by
  have hover : Closed w.received → w.received = c.promised location := h.received_eq hp
  -- What waited is lost, and what was received is still the beginning.
  refine ⟨rfl, ⟨w.stream.queue ++ w.stream.upcoming, ?_⟩, rfl, hover⟩
  rw [← List.append_assoc]
  exact h.account

theorem abort (h : Listening location c w) : Listening location c (w.act .abort) := by
  -- Nobody stops the task of a listener who is there.
  have hstay : w.act .abort = w := if_neg (by rw [h.stays]; decide)
  exact hstay.symm ▸ h

end Listening

/-- Nothing reaches a listener who has gone. -/
theorem Deserted.act (h : Deserted location c w) (move : Move) :
    Deserted location c (w.act move) := by
  cases move with
  | work =>
    rcases w.work_cases with ⟨he, -⟩ | ⟨_, _, _, -, -, he, -⟩ | ⟨_, _, _, -, -, he⟩ |
      ⟨_, _, _, -, hd, -⟩
    · rw [he]
      exact h
    · rw [he]
      exact ⟨h.gone, h.beginning, h.empty, h.whole⟩
    · rw [he]
      exact ⟨h.gone, h.beginning, h.empty, h.whole⟩
    · exact absurd h.gone (by rw [hd]; decide)
  | poll =>
    -- A stream that was given up has ended.
    rw [Watched.act_poll_of_ended (Stream.poll_of_dropped h.gone)]
    exact h
  | release => exact ⟨rfl, h.beginning, rfl, h.whole⟩
  | abort =>
    have hstop : w.act .abort = { w with stream := w.stream.abort } := if_pos h.gone
    rw [hstop]
    exact ⟨h.gone, h.beginning, h.empty, h.whole⟩

theorem listening_or_deserted_act (hp : c.Proper location)
    (h : Listening location c w ∨ Deserted location c w) (move : Move) :
    Listening location c (w.act move) ∨ Deserted location c (w.act move) := by
  rcases h with h | h
  · cases move with
    | work => exact Or.inl h.work
    | poll => exact Or.inl (h.poll hp)
    | release => exact Or.inr (h.release hp)
    | abort => exact Or.inl h.abort
  · exact Or.inr (h.act move)

theorem listening_or_deserted_run (hp : c.Proper location)
    (h : Listening location c w ∨ Deserted location c w) (moves : List Move) :
    Listening location c (w.run moves) ∨ Deserted location c (w.run moves) := by
  refine Watched.run_of_act (P := fun v => Listening location c v ∨ Deserted location c v) ?_ h
  intro v move _ hv
  exact listening_or_deserted_act hp hv move

/-- A listener whom no move takes away stays. -/
theorem Listening.run (hp : c.Proper location) (h : Listening location c w) {moves : List Move}
    (hm : Move.release ∉ moves) : Listening location c (w.run moves) := by
  refine Watched.run_of_act (fun v move hmove hv => ?_) h
  cases move with
  | work => exact hv.work
  | poll => exact hv.poll hp
  | release => exact absurd hmove hm
  | abort => exact hv.abort

theorem Deserted.received_run (h : Deserted location c w) (moves : List Move) :
    (w.run moves).received = w.received := by
  have hended : w.stream.poll.1 = .ended := Stream.poll_eq_ended.mpr (Or.inl h.gone)
  exact (Watched.ended_run hended moves).2

end Retrieval.Fetch
