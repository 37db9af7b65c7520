import Retrieval.Proofs.Fetch.Sends
import Retrieval.Session

/-! One retrieval after another. What a retrieval comes to depends on the answer to its own request
and on nothing that went before, so that each might have been made by a loader of its own. That it
sends one request is read off the steps of its task, and the session only keeps what they sent. -/
namespace Retrieval

/-- A way to make a retrieval to its end. The counters that can be looked at while a payload is
fetched whole are a part of its account. -/
inductive Way
  | whole
  | stream
  | handlers (h : Fetch.Handlers)

inductive Account
  | whole (w : Fetch.Whole)
  | stream (events : List Fetch.Event) (ended : Bool) (reports : List Log.Event)
  | calls (calls : List Fetch.Call) (reports : List Log.Event)

namespace Loader

def scripted (l : Loader) (progressive : Bool) (replies : List Reply) : Loader :=
  { l with transport := .scripted progressive replies }

/-- The account of the retrieval whose request is sent for the `n`-th time. -/
def account? (l : Loader) (n : Nat) : Way → Option Account
  | .whole => some (.whole (l.whole n))
  | .stream => (l.stream? n).map fun s => .stream s.drain.1 s.drain.2.1 s.drain.2.2.2
  | .handlers h =>
    (l.stream? n).map fun s => .calls (h.follow s.bound s).1 (h.follow s.bound s).2.2

variable {l m : Loader} {n k : Nat}

/-- An account depends on what the loader asks, how, and with what answer. -/
theorem account?_congr (hr : l.request = m.request) (ht : l.target = m.target)
    (hc : l.capacity = m.capacity) (hd : l.delivery = m.delivery) (ha : l.answer n = m.answer k) :
    l.account? n = m.account? k := by
  have hwhole : l.whole n = m.whole k := by simp only [Loader.whole, hr, ht, ha]
  have hcourse : l.course n = m.course k := by simp only [course, hr, ht, hd, ha]
  have hstream : l.stream? n = m.stream? k := by simp only [stream?, hr, hc, hd, hcourse]
  funext way
  cases way with
  | whole => simp only [account?, hwhole]
  | stream => simp only [account?, hstream]
  | handlers h => simp only [account?, hstream]

theorem isSome_account? (way : Way) :
    (l.account? n way).isSome = true ↔ way = .whole ∨ l.capacity ≤ maxChannelCapacity := by
  cases way with
  | whole => simp [account?]
  | stream => simp [account?, isSome_stream?]
  | handlers h => simp [account?, isSome_stream?]

/-- Each request gets its own reply, and the last reply serves all further ones. -/
theorem answer_scripted {progressive : Bool} {replies : List Reply} {reply : Reply}
    (h : (replies.take (n + 1)).getLast? = some reply) :
    (l.scripted progressive replies).answer n = { reply } := by
  have hreply : replies[n]?.or replies.getLast? = some reply := by
    rw [List.getLast?_take, if_neg n.succ_ne_zero] at h
    exact h
  simp only [answer, scripted, Transport.scripted, hreply, Option.getD_some]

end Loader

namespace Session

/-- Makes a retrieval to its end, and keeps what it has sent. -/
def retrieve? (s : Session) : Way → Option (Account × Session)
  | .whole => some (.whole s.whole.1, s.whole.2)
  | .stream =>
    s.stream?.map fun stream =>
      (.stream stream.drain.1 stream.drain.2.1 stream.drain.2.2.2,
        s.noting stream.drain.2.2.1.sent)
  | .handlers h => (s.handle? h).map fun (calls, reports, after) => (.calls calls reports, after)

def retrieveAll? (s : Session) : List Way → Option (List Account × Session)
  | [] => some ([], s)
  | way :: rest =>
    (s.retrieve? way).bind fun (account, next) =>
      (next.retrieveAll? rest).map fun (accounts, last) => (account :: accounts, last)

variable {s : Session} {config : Config}

/-- A retrieval keeps nothing in the session but what it has sent. -/
theorem retrieve?_kept {way : Way} {account : Account} {after : Session}
    (h : s.retrieve? way = some (account, after)) : ∃ requests, after = s.noting requests := by
  cases way with
  | whole =>
    cases h
    exact ⟨_, rfl⟩
  | stream =>
    obtain ⟨_, -, he⟩ := Option.map_eq_some_iff.mp h
    cases he
    exact ⟨_, rfl⟩
  | handlers h =>
    obtain ⟨_, hdone, he⟩ := Option.map_eq_some_iff.mp h
    obtain ⟨_, -, hfollowed⟩ := Option.map_eq_some_iff.mp hdone
    cases hfollowed
    cases he
    exact ⟨_, rfl⟩

def sentOnce (s : Session) : Session := s.noting [(s.loader.request, s.loader.target)]

/-- Whichever way it is made, and whatever it comes to, a retrieval sends one request. -/
theorem retrieve?_eq (hl : s.loader.MadeFrom config) (way : Way) :
    s.retrieve? way = (s.loader.account? s.count way).map fun account => (account, s.sentOnce) := by
  cases way with
  | whole =>
    have hsent : s.whole.1.sent = [(s.loader.request, s.loader.target)] := Fetch.sent_whole _ _ _
    show some (Account.whole s.whole.1, s.noting s.whole.1.sent) = _
    rw [hsent]
    rfl
  | stream =>
    cases hs : s.loader.stream? s.count with
    | none => simp only [retrieve?, stream?, Loader.account?, hs, Option.map_none]
    | some stream =>
      simp only [retrieve?, stream?, Loader.account?, hs, Option.map_some, Fetch.sent_drain hl hs,
        sentOnce]
  | handlers h =>
    cases hs : s.loader.stream? s.count with
    | none => simp only [retrieve?, handle?, stream?, Loader.account?, hs, Option.map_none]
    | some stream =>
      simp only [retrieve?, handle?, stream?, Loader.account?, hs, Option.map_some,
        Fetch.sent_follow hl hs, sentOnce]

theorem count_sentOnce : s.sentOnce.count = s.count + 1 := by
  simp only [count, sentOnce, noting, List.length_append, List.length_singleton]
  omega

theorem retrieve?_eq_some (hl : s.loader.MadeFrom config) {way : Way} {account : Account}
    {after : Session} :
    s.retrieve? way = some (account, after) ↔
      s.loader.account? s.count way = some account ∧ after = s.sentOnce := by
  rw [retrieve?_eq hl]
  simp only [Option.map_eq_some_iff, Prod.mk.injEq]
  constructor
  · rintro ⟨a, ha, rfl, rfl⟩
    exact ⟨ha, rfl⟩
  · rintro ⟨ha, rfl⟩
    exact ⟨account, ha, rfl, rfl⟩

theorem retrieveAll?_cons (hl : s.loader.MadeFrom config) {way : Way} {rest : List Way}
    {accounts : List Account} {last : Session} :
    s.retrieveAll? (way :: rest) = some (accounts, last) ↔
      ∃ account more, s.retrieve? way = some (account, s.sentOnce) ∧
        s.sentOnce.retrieveAll? rest = some (more, last) ∧ accounts = account :: more := by
  simp only [retrieveAll?, Option.bind_eq_some_iff, Option.map_eq_some_iff, Prod.exists,
    Prod.mk.injEq]
  constructor
  · rintro ⟨account, next, hone, more, final, hrest, rfl, rfl⟩
    obtain ⟨-, rfl⟩ := (retrieve?_eq_some hl).mp hone
    exact ⟨account, more, hone, hrest, rfl⟩
  · rintro ⟨account, more, hone, hrest, rfl⟩
    exact ⟨account, s.sentOnce, hone, more, last, hrest, rfl, rfl⟩

/-- A sequence of retrievals goes through unless it has a stream in it and the channel is too large.
-/
theorem isSome_retrieveAll? (hl : s.loader.MadeFrom config) (ways : List Way) :
    (s.retrieveAll? ways).isSome = true ↔
      ∀ way ∈ ways, way = .whole ∨ s.loader.capacity ≤ Loader.maxChannelCapacity := by
  induction ways generalizing s with
  | nil => simp [retrieveAll?]
  | cons way rest ih =>
    have hone := Loader.isSome_account? (l := s.loader) (n := s.count) way
    have hrest : (s.sentOnce.retrieveAll? rest).isSome = true ↔
        ∀ way ∈ rest, way = .whole ∨ s.loader.capacity ≤ Loader.maxChannelCapacity :=
      ih (s := s.sentOnce) hl
    rw [List.forall_mem_cons, ← hone, retrieveAll?, retrieve?_eq hl]
    cases hacc : s.loader.account? s.count way with
    | none => simp
    | some account => simpa using hrest

/-- The account of each retrieval of a sequence is the one that its number asks for. -/
structure Accounted (s : Session) (ways : List Way) (accounts : List Account) (last : Session) :
    Prop where
  loader : last.loader = s.loader
  sent : last.sent = s.sent ++ List.replicate ways.length (s.loader.request, s.loader.target)
  length : accounts.length = ways.length
  account : ∀ i way account, ways[i]? = some way → accounts[i]? = some account →
    ∃ before, s.retrieveAll? (ways.take i) = some (accounts.take i, before) ∧
      before.loader = s.loader ∧ before.count = s.count + i ∧
      before.retrieve? way = some (account, before.sentOnce)

theorem accounted_retrieveAll? (hl : s.loader.MadeFrom config) {ways : List Way}
    {accounts : List Account} {last : Session}
    (h : s.retrieveAll? ways = some (accounts, last)) : s.Accounted ways accounts last := by
  -- A session knows of its past only how often its request was sent.
  induction ways generalizing s accounts with
  | nil =>
    cases h
    refine ⟨rfl, (List.append_nil _).symm, rfl, ?_⟩
    intro i way account hway
    rw [List.getElem?_nil] at hway
    cases hway
  | cons way rest ih =>
    obtain ⟨account, more, hone, hrest, rfl⟩ := (retrieveAll?_cons hl).mp h
    have hlater := ih (s := s.sentOnce) hl hrest
    refine ⟨hlater.loader, ?_, ?_, ?_⟩
    · rw [hlater.sent, List.length_cons, List.replicate_succ]
      exact List.append_assoc s.sent [_] _
    · rw [List.length_cons, List.length_cons, hlater.length]
    · intro i later other hway haccount
      cases i with
      | zero =>
        obtain rfl := Option.some.inj hway
        obtain rfl := Option.some.inj haccount
        exact ⟨s, rfl, rfl, rfl, hone⟩
      | succ i =>
        obtain ⟨before, hbefore, hloader, hcount, hretrieve⟩ :=
          hlater.account i later other hway haccount
        refine ⟨before, ?_, hloader, ?_, hretrieve⟩
        · exact (retrieveAll?_cons hl).mpr ⟨account, _, hone, hbefore, rfl⟩
        · rw [hcount, count_sentOnce]
          omega

/-- No retrieval is repeated, and none has a part in another one. Each sends the request of the
loader once, whatever came of those before it, and shows what the only retrieval of a loader would
show that has its reply and no other. -/
theorem retrievals_independent {config : Config} {l : Loader} (hl : l.MadeFrom config)
    (progressive : Bool) (replies : List Reply) (ways : List Way) :
    let fresh : Session := { loader := l.scripted progressive replies }
    ((fresh.retrieveAll? ways).isSome = true ↔
      ∀ way ∈ ways, way = .whole ∨ l.capacity ≤ Loader.maxChannelCapacity) ∧
    ∀ accounts last, fresh.retrieveAll? ways = some (accounts, last) →
      last.loader = l.scripted progressive replies ∧
      last.sent = List.replicate ways.length (l.request, l.target) ∧
      accounts.length = ways.length ∧
      ∀ i way account, ways[i]? = some way → accounts[i]? = some account →
        ∃ before after, fresh.retrieveAll? (ways.take i) = some (accounts.take i, before) ∧
          before.retrieve? way = some (account, after) ∧
          after.sent = before.sent ++ [(l.request, l.target)] ∧
          ∀ reply, (replies.take (i + 1)).getLast? = some reply →
            let alone : Session := { loader := l.scripted progressive [reply] }
            ∃ only, alone.retrieve? way = some (account, only) ∧
              only.sent = [(l.request, l.target)] := by
  intro fresh
  -- Which transport serves a loader has no part in how its streams are made.
  have hscripted (answers : List Reply) : (l.scripted progressive answers).MadeFrom config := by
    obtain ⟨htarget, hcapacity⟩ := Loader.madeFrom_iff.mp hl
    exact Loader.madeFrom_iff.mpr ⟨htarget, hcapacity⟩
  refine ⟨isSome_retrieveAll? (s := fresh) (hscripted replies) ways, ?_⟩
  intro accounts last h
  have hall := accounted_retrieveAll? (s := fresh) (hscripted replies) h
  refine ⟨hall.loader, hall.sent, hall.length, ?_⟩
  intro i way account hway haccount
  obtain ⟨before, hbefore, hloader, hcount, hretrieve⟩ := hall.account i way account hway haccount
  -- The number of a retrieval says which reply it gets, and nothing else of it depends on the past.
  have hbl : before.loader.MadeFrom config := hloader ▸ hscripted replies
  refine ⟨before, before.sentOnce, hbefore, hretrieve, ?_, ?_⟩
  · have hsame : before.loader.request = l.request ∧ before.loader.target = l.target := by
      rw [hloader]
      exact ⟨rfl, rfl⟩
    rw [sentOnce, hsame.1, hsame.2]
    rfl
  · intro reply hreply alone
    obtain ⟨hacc, -⟩ := (retrieve?_eq_some hbl).mp hretrieve
    have hn : before.count = i := by
      rw [hcount]
      exact Nat.zero_add i
    have hanswer : fresh.loader.answer i = alone.loader.answer 0 := by
      rw [Loader.answer_scripted hreply]
      exact (Loader.answer_scripted rfl).symm
    have hsame : fresh.loader.account? i = alone.loader.account? 0 :=
      Loader.account?_congr rfl rfl rfl rfl hanswer
    rw [hloader, hn, hsame] at hacc
    exact ⟨alone.sentOnce, (retrieve?_eq_some (s := alone) (hscripted [reply])).mpr ⟨hacc, rfl⟩, rfl⟩

/-- A refusal, a transport that breaks down, and a payload that none of them touches. -/
theorem retrievals_independent_four :
    let replies : List Reply :=
      [.refusal (.unsupportedScheme "data.bin" "file"),
        .response { status := 200, body := some [.chunk [1], .crash] },
        .response { status := 200, body := some [.chunk [1], .chunk [2]] }]
    let l := Loader.sample true 1 []
    let ways : List Way := [.stream, .handlers {}, .whole, .stream]
    let fresh : Session := { loader := l.scripted true replies }
    l.MadeFrom { eventBuffer := 1 } ∧
    ∃ accounts last, fresh.retrieveAll? ways = some (accounts, last) ∧
      last.sent = List.replicate 4 (l.request, l.target) ∧
      ∃ account, accounts[2]? = some (.whole account) ∧ account.outcome = .payload [1, 2] := by
  intro replies l ways fresh
  have hl : l.MadeFrom { eventBuffer := 1 } := Loader.madeFrom_sample _ _ _
  obtain ⟨hsome, hall⟩ := retrievals_independent hl true replies ways
  have hfit : ∀ way ∈ ways, way = .whole ∨ l.capacity ≤ Loader.maxChannelCapacity :=
    fun _ _ => Or.inr (by decide)
  obtain ⟨⟨accounts, last⟩, h⟩ := Option.isSome_iff_exists.mp (hsome.mpr hfit)
  obtain ⟨-, hsent, hlength, hone⟩ := hall accounts last h
  have hthird : 2 < accounts.length := by
    rw [hlength]
    decide
  obtain ⟨_, _, -, -, -, halone⟩ := hone 2 .whole accounts[2] rfl (List.getElem?_eq_getElem hthird)
  obtain ⟨only, honly, -⟩ := halone _ rfl
  let account := Fetch.whole l.request l.target { reply := replies[2] }
  have haccount : .whole account = accounts[2] := congrArg Prod.fst (Option.some.inj honly)
  refine ⟨hl, accounts, last, h, hsent, account, ?_, rfl⟩
  rw [List.getElem?_eq_getElem hthird, haccount]

end Session
end Retrieval
