import Mathlib
import Retrieval.Log.State
import Retrieval.Proofs.Storage.Growth

/-! Logging is set up once in the life of a process. What calls before that have left behind is in
the files alone, and what calls after it do is to put another filter in force. -/
namespace Retrieval.Log

open Storage (FileSystem)

inductive Call
  | setUp (app : String) (options : Options)
  | setLevel (level : String)

inductive Outcome
  /-- Logging is set up, with so many writers to close at the end. -/
  | ready (writers : Nat)
  | changed
  | failed (cause : SetupError)

namespace Outcome

def isReady : Outcome → Bool
  | ready _ => true
  | _ => false

def succeeded : Outcome → Bool
  | failed _ => false
  | _ => true

def lacksFiles : Outcome → Bool
  | failed (.fileAppender _ _) => true
  | _ => false

end Outcome

def Call.wanted (env : Environment) : Call → Except Filter.Error Filter
  | setUp _ o => Filter.parse (State.chosenLevel env o)
  | setLevel level => Filter.parse level

def latest (env : Environment) (past : List (Call × Outcome)) : Option Filter :=
  past.reverse.findSome? fun (call, outcome) =>
    if outcome.succeeded then (call.wanted env).toOption else none

namespace State

/-- The logging of a process in which nobody has claimed anything. -/
def begun (environment : Environment) (files : FileSystem) : State := { environment, files }

def perform (s : State) : Call → Outcome × State
  | .setUp app o =>
    match s.setUp app o with
    | (.ok writers, next) => (.ready writers, next)
    | (.error cause, next) => (.failed cause, next)
  | .setLevel level =>
    match s.setLevel level with
    | (.ok _, next) => (.changed, next)
    | (.error cause, next) => (.failed cause, next)

def run (s : State) (calls : List Call) : State := calls.foldl (fun s call => (s.perform call).2) s

def history (s : State) : List Call → List (Call × Outcome)
  | [] => []
  | call :: rest => (call, (s.perform call).1) :: (s.perform call).2.history rest

/-- Opening a file for appending, and making its directory, takes nothing away. -/
theorem grown_openAppender (files : FileSystem) (directory name : String) :
    files.Grown (openAppender files directory name).2 := by
  simp only [openAppender]
  split
  · rename_i hopen
    exact FileSystem.grown_openSink hopen
  · split
    · exact .refl files
    · rename_i above _
      have hmade := FileSystem.grown_makeDirectories above.length files above
      split
      · rename_i hd
        rw [hd] at hmade
        exact hmade
      · rename_i hd
        rw [hd] at hmade
        split
        · rename_i hopen
          exact hmade.trans (FileSystem.grown_openSink hopen)
        · exact hmade

/-- Without a directory no file is looked at. -/
theorem openSinks_nowhere {o : Options} (h : o.directory = "") (env : Environment)
    (files : FileSystem) (app : String) :
    openSinks env files app o =
      (.ok { format := o.format, stdout := if o.toStdout then some [] else none }, files) := by
  simp only [openSinks, if_pos h]

/-- Whether or not all log files can be opened, files only grow by it. -/
theorem openSinks_cases (env : Environment) (files : FileSystem) (app : String) (o : Options) :
    (∃ cause left, openSinks env files app o = (.error (.fileAppender o.directory cause), left) ∧
      files.Grown left) ∨
    ∃ sinks left, openSinks env files app o = (.ok sinks, left) ∧ files.Grown left := by
  by_cases hd : o.directory = ""
  · exact Or.inr ⟨_, files, openSinks_nowhere hd env files app, .refl files⟩
  · have hmain := grown_openAppender files o.directory (fileName env app)
    simp only [openSinks, if_neg hd]
    split
    · rename_i cause left hm
      rw [hm] at hmain
      exact Or.inl ⟨cause, left, rfl, hmain⟩
    · rename_i main between hm
      rw [hm] at hmain
      have herrors := grown_openAppender between o.directory (fileName env (app ++ "-err"))
      split
      · rename_i cause left he
        rw [he] at herrors
        exact Or.inl ⟨cause, left, rfl, hmain.trans herrors⟩
      · rename_i errors left he
        rw [he] at herrors
        exact Or.inr ⟨_, left, rfl, hmain.trans herrors⟩

/-- The first set-up fails at its level, fails at its files, or puts its filter in force. -/
theorem setUp_cases (env : Environment) (files : FileSystem) (app : String) (o : Options) :
    (∃ cause, Filter.parse (chosenLevel env o) = .error cause ∧
      (begun env files).setUp app o =
        (.error (.invalidLevel (chosenLevel env o) cause), begun env files)) ∨
    (∃ filter cause left, Filter.parse (chosenLevel env o) = .ok filter ∧
      openSinks env files app o = (.error (.fileAppender o.directory cause), left) ∧
      files.Grown left ∧
      (begun env files).setUp app o = (.error (.fileAppender o.directory cause), begun env left)) ∨
    ∃ filter sinks left next, Filter.parse (chosenLevel env o) = .ok filter ∧
      openSinks env files app o = (.ok sinks, left) ∧ files.Grown left ∧
      (begun env files).setUp app o = (.ok sinks.count, next) ∧ next.environment = env ∧
      next.files = left ∧ next.initialized = true ∧ next.filter = some filter := by
  have hfresh : ¬(begun env files).initialized = true := nofun
  have henv : (begun env files).environment = env := rfl
  have hfiles : (begun env files).files = files := rfl
  simp only [setUp, if_neg hfresh, henv, hfiles]
  cases hp : Filter.parse (chosenLevel env o) with
  | error cause => exact Or.inl ⟨cause, rfl, rfl⟩
  | ok filter =>
    rcases openSinks_cases env files app o with ⟨cause, left, ho, hg⟩ | ⟨sinks, left, ho, hg⟩
    · rw [ho]
      exact Or.inr (Or.inl ⟨filter, cause, left, rfl, rfl, hg, rfl⟩)
    · rw [ho]
      exact Or.inr (Or.inr ⟨filter, sinks, left, _, rfl, rfl, hg, rfl, rfl, rfl, rfl, rfl⟩)

/-- How the first set-up goes depends on its level and on the log files that it finds. -/
theorem setUp_begun (env : Environment) (files : FileSystem) (app : String) (o : Options) :
    ((begun env files).setUp app o).1 =
      match Filter.parse (chosenLevel env o) with
      | .error cause => .error (.invalidLevel (chosenLevel env o) cause)
      | .ok _ => (openSinks env files app o).1.map Sinks.count := by
  rcases setUp_cases env files app o with
    ⟨cause, hp, hs⟩ | ⟨filter, cause, left, hp, ho, -, hs⟩ |
    ⟨filter, sinks, left, next, hp, ho, -, hs, -⟩
  · rw [hp, hs]
  · rw [hp, hs, ho]
    rfl
  · rw [hp, hs, ho]
    rfl

/-- With a level that is one, a first set-up goes as the opening of its files. -/
theorem isReady_setUp_begun {env : Environment} {o : Options}
    (hp : (Filter.parse (chosenLevel env o)).isOk = true) (files : FileSystem) (app : String) :
    ((begun env files).perform (.setUp app o)).1.isReady = (openSinks env files app o).1.isOk := by
  rcases setUp_cases env files app o with
    ⟨cause, hn, -⟩ | ⟨filter, cause, left, -, ho, -, hs⟩ |
    ⟨filter, sinks, left, next, -, ho, -, hs, -⟩
  · rw [hn] at hp
    cases hp
  · simp only [perform, hs, ho]
    rfl
  · simp only [perform, hs, ho]
    rfl

/-- A first set-up that cannot open its files leaves what it has made of them. -/
theorem state_setUp_begun {env : Environment} {files left : FileSystem} {app : String} {o : Options}
    {cause : SetupError} (hp : (Filter.parse (chosenLevel env o)).isOk = true)
    (ho : openSinks env files app o = (.error cause, left)) :
    ((begun env files).perform (.setUp app o)).2 = .begun env left := by
  rcases setUp_cases env files app o with
    ⟨cause, hn, -⟩ | ⟨filter, cause, other, -, hopen, -, hs⟩ |
    ⟨filter, sinks, other, next, -, hopen, -, -⟩
  · rw [hn] at hp
    cases hp
  · rw [ho] at hopen
    cases hopen
    simp only [perform, hs]
  · rw [ho] at hopen
    cases hopen

theorem setUp_initialized {s : State} (h : s.initialized = true) (app : String) (o : Options) :
    s.setUp app o = (.error .alreadyInitialized, s) := by
  simp only [setUp, if_pos h]

/-- A level is checked before it is asked whether there is anything to change. -/
theorem setLevel_eq (s : State) (level : String) :
    s.setLevel level =
      match Filter.parse level with
      | .error cause => (.error (.invalidLevel level cause), s)
      | .ok filter =>
        if s.filter.isSome then (.ok (), { s with filter := some filter })
        else (.error .notInitialized, s) := by
  unfold setLevel
  cases Filter.parse level with
  | error cause => rfl
  | ok filter => cases s.filter <;> rfl

end State

section

variable {env : Environment} {files : FileSystem} {past : List (Call × Outcome)} {call : Call}
  {outcome : Outcome}

theorem latest_of_failed (h : outcome.succeeded = false) :
    latest env (past ++ [(call, outcome)]) = latest env past := by
  simp only [latest, List.reverse_append, List.reverse_singleton, List.singleton_append,
    List.findSome?_cons, h, Bool.false_eq_true, if_false]

theorem latest_of_succeeded (h : outcome.succeeded = true) {filter : Filter}
    (hw : call.wanted env = .ok filter) :
    latest env (past ++ [(call, outcome)]) = some filter := by
  simp only [latest, List.reverse_append, List.reverse_singleton, List.singleton_append,
    List.findSome?_cons, h, hw, if_true, Except.toOption]

structure Reached (env : Environment) (files : FileSystem) (past : List (Call × Outcome))
    (s : State) : Prop where
  environment : s.environment = env
  grown : files.Grown s.files
  filter : s.filter = latest env past
  once : past.countP (·.2.isReady) = if s.initialized then 1 else 0
  /-- Up to the set-up that succeeds, all that can have changed are the files. -/
  unset : s.initialized = false → s = .begun env s.files
  set : s.initialized = true → s.filter.isSome = true
  untouched : (∀ p ∈ past, p.2.isReady = false ∧ p.2.lacksFiles = false) → s.files = files

namespace Reached

variable {s : State}

theorem begun (env : Environment) (files : FileSystem) :
    Reached env files [] (.begun env files) where
  environment := rfl
  grown := .refl files
  filter := rfl
  once := rfl
  unset := fun _ => rfl
  set := nofun
  untouched := fun _ => rfl

/-- A call that fails and leaves everything as it is. -/
theorem refused (h : Reached env files past s) (call : Call) (cause : SetupError) :
    Reached env files (past ++ [(call, .failed cause)]) s where
  environment := h.environment
  grown := h.grown
  filter := by rw [latest_of_failed rfl, h.filter]
  once := by
    rw [List.countP_append, h.once]
    rfl
  unset := h.unset
  set := h.set
  untouched := fun hall => h.untouched fun p hp => hall p (List.mem_append_left _ hp)

theorem setUp (h : Reached env files past s) (app : String) (o : Options) :
    Reached env files (past ++ [(.setUp app o, (s.perform (.setUp app o)).1)])
      (s.perform (.setUp app o)).2 := by
  cases hi : s.initialized with
  | true =>
    simp only [State.perform, State.setUp_initialized hi]
    exact h.refused _ _
  | false =>
    -- Before its first success a process is a new one, over files that may have grown.
    obtain ⟨fs, rfl⟩ : ∃ fs, s = .begun env fs := ⟨s.files, h.unset hi⟩
    have honce : past.countP (·.2.isReady) = 0 := h.once
    rcases State.setUp_cases env fs app o with
      ⟨cause, -, hs⟩ | ⟨filter, cause, left, -, -, hg, hs⟩ |
      ⟨filter, sinks, left, next, hp, -, hg, hs, he, hf, hset, hfilter⟩
    · -- The level is refused before any file is touched.
      simp only [State.perform, hs]
      exact h.refused _ _
    · simp only [State.perform, hs]
      refine ⟨rfl, h.grown.trans hg, ?_, ?_, fun _ => rfl, nofun, ?_⟩
      · rw [latest_of_failed rfl]
        exact h.filter
      · rw [List.countP_append, honce]
        rfl
      · intro hall
        have hlast := (hall _ (List.mem_append_right _ (List.mem_singleton_self _))).2
        cases hlast
    · have hw : (Call.setUp app o).wanted env = .ok filter := hp
      simp only [State.perform, hs]
      refine ⟨he, ?_, ?_, ?_, ?_, ?_, ?_⟩
      · rw [hf]
        exact h.grown.trans hg
      · rw [hfilter, latest_of_succeeded rfl hw]
      · rw [List.countP_append, honce, hset]
        rfl
      · rw [hset]
        nofun
      · rw [hfilter]
        exact fun _ => rfl
      · intro hall
        have hlast := (hall _ (List.mem_append_right _ (List.mem_singleton_self _))).1
        cases hlast

theorem setLevel (h : Reached env files past s) (level : String) :
    Reached env files (past ++ [(.setLevel level, (s.perform (.setLevel level)).1)])
      (s.perform (.setLevel level)).2 := by
  simp only [State.perform, State.setLevel_eq]
  cases hp : Filter.parse level with
  | error cause => exact h.refused _ _
  | ok filter =>
    have hw : (Call.setLevel level).wanted env = .ok filter := hp
    cases hf : s.filter with
    | none => exact h.refused _ _
    | some old =>
      -- Where a filter is in force, logging has been set up.
      have hset : s.initialized = true := by
        cases hi : s.initialized with
        | true => rfl
        | false =>
          rw [h.unset hi] at hf
          cases hf
      refine ⟨h.environment, h.grown, ?_, ?_, ?_, fun _ => rfl, ?_⟩
      · exact (latest_of_succeeded rfl hw).symm
      · rw [List.countP_append, h.once]
        rfl
      · intro hi
        exact absurd (hset.symm.trans hi) (by decide)
      · exact fun hall => h.untouched fun p hp => hall p (List.mem_append_left _ hp)

theorem perform (h : Reached env files past s) (call : Call) :
    Reached env files (past ++ [(call, (s.perform call).1)]) (s.perform call).2 := by
  cases call with
  | setUp app o => exact h.setUp app o
  | setLevel level => exact h.setLevel level

theorem run (h : Reached env files past s) (calls : List Call) :
    Reached env files (past ++ s.history calls) (s.run calls) := by
  induction calls generalizing past s with
  | nil =>
    rw [State.history, List.append_nil]
    exact h
  | cons call rest ih =>
    have hrest := ih (h.perform call)
    rw [List.append_assoc] at hrest
    exact hrest

/-- Logging has been set up just where one of the calls has done it. -/
theorem initialized (h : Reached env files past s) :
    s.initialized = past.any (·.2.isReady) := by
  have honce := h.once
  cases hi : s.initialized with
  | true =>
    rw [if_pos hi] at honce
    obtain ⟨p, hp, hr⟩ := List.countP_pos_iff.mp (by omega : 0 < past.countP (·.2.isReady))
    exact (List.any_eq_true.mpr ⟨p, hp, hr⟩).symm
  | false =>
    rw [hi] at honce
    have hnone := List.countP_eq_zero.mp honce
    exact (List.any_eq_false.mpr hnone).symm

theorem isSome_filter (h : Reached env files past s) : s.filter.isSome = s.initialized := by
  cases hi : s.initialized with
  | true => exact h.set hi
  | false =>
    rw [h.unset hi]
    rfl

end Reached

end

/-- Under all calls at most one set-up succeeds, and the filter in force is that of the latest call
that succeeded. Up to then a process is like one in which nothing was called, over files that have
grown by what the failed set-ups left; after it no set-up does anything. -/
theorem set_up_once (env : Environment) (files : FileSystem) (calls : List Call) :
    let past := (State.begun env files).history calls
    let now := (State.begun env files).run calls
    let done := past.any (·.2.isReady)
    past.countP (·.2.isReady) ≤ 1 ∧
    now.filter = latest env past ∧
    files.Grown now.files ∧
    (done = false →
      now = .begun env now.files ∧
      ((∀ p ∈ past, p.2.lacksFiles = false) → now = .begun env files) ∧
      ∀ app o,
        ((now.setUp app o).1 =
          match Filter.parse (State.chosenLevel env o) with
          | .error cause => .error (.invalidLevel (State.chosenLevel env o) cause)
          | .ok _ => (State.openSinks env now.files app o).1.map Sinks.count) ∧
        (o.directory = "" ∨
            (State.openSinks env now.files app o).1 = (State.openSinks env files app o).1 →
          (now.setUp app o).1 = ((State.begun env files).setUp app o).1)) ∧
    (done = true → ∀ app o, now.setUp app o = (.error .alreadyInitialized, now)) ∧
    ∀ level, now.setLevel level =
      match Filter.parse level with
      | .error cause => (.error (.invalidLevel level cause), now)
      | .ok filter =>
        if done then (.ok (), { now with filter := some filter })
        else (.error .notInitialized, now) := by
  intro past now done
  have h : Reached env files past now := (Reached.begun env files).run calls
  have hdone : now.initialized = done := h.initialized
  refine ⟨?_, h.filter, h.grown, ?_, ?_, ?_⟩
  · rw [h.once]
    split <;> omega
  · -- Nothing has succeeded: the process is as it began, over the files of now.
    intro hnot
    have hnow : now = .begun env now.files := h.unset (hdone.trans hnot)
    have hresult (app : String) (o : Options) := State.setUp_begun env now.files app o
    rw [← hnow] at hresult
    refine ⟨hnow, ?_, fun app o => ⟨hresult app o, ?_⟩⟩
    · -- If no set-up failed over its files, these are as they were too.
      intro hall
      have hnone := List.any_eq_false.mp hnot
      have hfiles := h.untouched fun p hp =>
        ⟨Bool.eq_false_iff.mpr (hnone p hp), hall p hp⟩
      rw [hnow, hfiles]
    · intro hsame
      have hopen : (State.openSinks env now.files app o).1 = (State.openSinks env files app o).1 := by
        rcases hsame with hd | hsame
        · rw [State.openSinks_nowhere hd, State.openSinks_nowhere hd]
        · exact hsame
      rw [hresult, State.setUp_begun, hopen]
  · intro hyes app o
    exact State.setUp_initialized (hdone.trans hyes) app o
  · intro level
    rw [State.setLevel_eq, h.isSome_filter, hdone]

/-- A level that is none and a change that comes too early leave no trace; after the set-up that
succeeds, a level that is none is not even looked at by another. -/
theorem set_up_once_retried :
    let env : Environment := { hour := "00" }
    let files : FileSystem := { entries := [] }
    let early : List Call := [.setUp "app" { level := some "info,app=loud" }, .setLevel "warn"]
    let all : List Call := early ++ [.setUp "app" {}]
    let past := (State.begun env files).history early
    let now := (State.begun env files).run early
    let last := (State.begun env files).run all
    past.any (·.2.succeeded) = false ∧ now = .begun env files ∧
      (now.setUp "app" {}).1.toOption = some 1 ∧
      ((State.begun env files).history all).any (·.2.isReady) = true ∧
      last.setUp "app" { level := some "info,app=loud" } = (.error .alreadyInitialized, last) := by
  intro env files early all past now last
  obtain ⟨-, -, -, hbefore, -, -⟩ := set_up_once env files early
  obtain ⟨-, -, -, -, hafter, -⟩ := set_up_once env files all
  have hfailed : past.any (·.2.succeeded) = false := by decide +kernel
  have hnot : past.any (·.2.isReady) = false := by decide +kernel
  have hlacks : past.any (·.2.lacksFiles) = false := by decide +kernel
  have hready : ((State.begun env files).history all).any (·.2.isReady) = true := by
    decide +kernel
  obtain ⟨-, hsame, hnext⟩ := hbefore hnot
  have hnow : now = .begun env files :=
    hsame fun p hp => Bool.eq_false_iff.mpr (List.any_eq_false.mp hlacks p hp)
  refine ⟨hfailed, hnow, ?_, hready, hafter hready _ _⟩
  rw [(hnext "app" {}).2 (Or.inl rfl)]
  decide +kernel

def looseLink : FileSystem :=
  { entries := [([utf8 "f"], .file []), ([utf8 "l"], .link (utf8 "t"))] }

/-- A set-up that can leave a directory without which a later one would have failed: the name that
the link stands for is taken on the way to a directory that cannot be made, and from then on there
is a way through the link. -/
theorem failed_setUp_opens_a_way :
    let fresh := State.begun { hour := "00" } looseLink
    let unusable : Call := .setUp "a" { directory := "t/../f" }
    let later : Call := .setUp "a" { directory := "l/../o" }
    (fresh.history [unusable, later]).map (·.2.isReady) = [false, true] ∧
      (fresh.history [later]).map (·.2.isReady) = [false] := by
  have hp (directory : String) :
      (Filter.parse (State.chosenLevel { hour := "00" } { directory })).isOk = true := by
    have hinfo : (Filter.parse "info").isOk = true := by decide +kernel
    exact hinfo
  have hopen : State.openSinks { hour := "00" } looseLink "a" { directory := "t/../f" } =
      (.error (.fileAppender "t/../f" (.directory .alreadyExists)),
        looseLink.put [utf8 "t"] .directory) := by cbv
  have hthrough : (State.openSinks { hour := "00" } (looseLink.put [utf8 "t"] .directory) "a"
      { directory := "l/../o" }).1.isOk = true := by cbv
  have halone : (State.openSinks { hour := "00" } looseLink "a"
      { directory := "l/../o" }).1.isOk = false := by cbv
  refine ⟨?_, ?_⟩
  · have hleft := State.state_setUp_begun (hp "t/../f") hopen
    have hfirst := State.isReady_setUp_begun (hp "t/../f") looseLink "a"
    have hsecond := State.isReady_setUp_begun (hp "l/../o")
      (looseLink.put [utf8 "t"] .directory) "a"
    rw [hopen] at hfirst
    rw [hthrough] at hsecond
    simp only [State.history, List.map_cons, List.map_nil, hleft, hfirst, hsecond]
    rfl
  · have hlater := State.isReady_setUp_begun (hp "l/../o") looseLink "a"
    rw [halone] at hlater
    simp only [State.history, List.map_cons, List.map_nil, hlater]

end Retrieval.Log
