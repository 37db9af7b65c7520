import Retrieval.Proofs.Log.Lines
import Retrieval.Proofs.Log.SetUp
import Retrieval.Proofs.Storage.Appending

/-! Where events go once logging has been set up. The filter in force when an event happens decides
alone whether it is let through, and what is let through goes to every sink alike, except that one
file takes errors only. The work around an event is shown as far as the filter in force when it
began let it be noted. -/
namespace Retrieval.Log

open Storage (FileSystem Place)

inductive Turn
  | event (e : Event)
  /-- A record is handed to the facade. -/
  | record (target : String) (level : Level) (message : String)
  /-- Another level is asked for. -/
  | change (level : String)
  /-- A stretch of work begins, inside of that which goes on. -/
  | enter (span : Span)
  /-- The innermost work is over. -/
  | leave

namespace Turn

def filter? : Turn → Option Filter
  | change level => (Filter.parse level).toOption
  | _ => none

def event? : Turn → Option Event
  | event e => some e
  | record target level message => some (State.forwarded target level message)
  | _ => none

/-- What a turn makes of the work that goes on, with this filter in force. -/
def around (f : Filter) (work : List (Option Span)) : Turn → List (Option Span)
  | enter span => (if f.allowsSpan span then some span else none) :: work
  | leave => work.tail
  | _ => work

end Turn

/-- The filter in force after turns is that of the latest level that is one. -/
def inForce (first : Filter) (turns : List Turn) : Filter :=
  (turns.reverse.findSome? Turn.filter?).getD first

def judged (first : Filter) (turns : List Turn) : List (Turn × Filter) :=
  turns.mapIdx fun i turn => (turn, inForce first (turns.take i))

/-- The work that goes on after turns, the innermost first. -/
def ongoing (work : List (Option Span)) (first : Filter) (turns : List Turn) :
    List (Option Span) :=
  (judged first turns).foldl (fun work (turn, filter) => turn.around filter work) work

/-- An event as it is written in the midst of work, if it is let through. -/
def Filter.pass? (f : Filter) (work : List (Option Span)) (e : Event) : Option Entry :=
  if f.allowsEvent e then some { event := e, spans := work.reverse.filterMap id } else none

/-- The events that the filter in force when they happened has let through. -/
def passed (work : List (Option Span)) (first : Filter) (turns : List Turn) : List Entry :=
  (turns.mapIdx fun i turn =>
    turn.event?.bind
      ((inForce first (turns.take i)).pass? (ongoing work first (turns.take i)))).filterMap id

def errors (entries : List Entry) : List Entry :=
  (entries.filter (·.event.level = .error)).map Entry.grave

def Options.sinks (o : Options) (places : Option (Place × Place)) (entries : List Entry) :
    Sinks where
  format := o.format
  stdout := if o.toStdout then some entries else none
  mainFile := places.map fun (main, _) => (main, entries)
  errorFile := places.map fun (_, place) => (place, errors entries)

def logPath (env : Environment) (o : Options) (start : String) : Bytes :=
  FileSystem.child (utf8 o.directory) (utf8 (State.fileName env start))

section

variable {work : List (Option Span)} {first : Filter} {turns : List Turn} {turn : Turn}
  {o : Options} {places : Option (Place × Place)} {entries : List Entry} {e : Entry}

theorem inForce_append : inForce first (turns ++ [turn]) =
    turn.filter?.getD (inForce first turns) := by
  simp only [inForce, List.reverse_append, List.reverse_singleton, List.singleton_append,
    List.findSome?_cons]
  cases turn.filter? <;> rfl

theorem judged_append :
    judged first (turns ++ [turn]) = judged first turns ++ [(turn, inForce first turns)] := by
  -- What is in force at a turn does not depend on the turns behind it.
  have hbefore : (turns.mapIdx fun i t => (t, inForce first ((turns ++ [turn]).take i))) =
      judged first turns := by
    refine List.mapIdx_eq_mapIdx_iff.mpr fun i hi => ?_
    rw [List.take_append_of_le_length (Nat.le_of_lt hi)]
  rw [judged, List.mapIdx_concat, hbefore, List.take_left]

theorem ongoing_append : ongoing work first (turns ++ [turn]) =
    turn.around (inForce first turns) (ongoing work first turns) := by
  rw [ongoing, judged_append, List.foldl_append]
  rfl

theorem passed_append : passed work first (turns ++ [turn]) =
    passed work first turns ++
      (turn.event?.bind
        ((inForce first turns).pass? (ongoing work first turns))).toList := by
  have hbefore : (turns.mapIdx fun i t => t.event?.bind
        ((inForce first ((turns ++ [turn]).take i)).pass?
          (ongoing work first ((turns ++ [turn]).take i)))) =
      turns.mapIdx fun i t => t.event?.bind
        ((inForce first (turns.take i)).pass? (ongoing work first (turns.take i))) := by
    refine List.mapIdx_eq_mapIdx_iff.mpr fun i hi => ?_
    rw [List.take_append_of_le_length (Nat.le_of_lt hi)]
  rw [passed, List.mapIdx_concat, hbefore, List.take_left, List.filterMap_append, passed]
  cases turn.event?.bind ((inForce first turns).pass? (ongoing work first turns)) <;> rfl

theorem Options.write_sinks :
    (o.sinks places entries).write e = o.sinks places (entries ++ [e]) := by
  cases places <;> by_cases ho : o.toStdout <;> by_cases he : e.event.level = .error <;>
    simp [sinks, Sinks.write, errors, ho, he]

end

namespace State

def turn (s : State) : Turn → State
  | .event e => s.emit e
  | .record target level message => s.log target level message
  | .change level => (s.setLevel level).2
  | .enter span => s.enter span
  | .leave => s.leave

def turns (s : State) (all : List Turn) : State := all.foldl turn s

/-- The state after these turns. Only the filter, the work that goes on and what has gone to the
sinks have changed. -/
def routing (s : State) (o : Options) (places : Option (Place × Place)) (first : Filter)
    (past : List Turn) : State :=
  { s with
    filter := some (inForce first past)
    sinks := o.sinks places (passed s.work first past)
    work := ongoing s.work first past }

variable {s ready : State} {app : String} {o : Options} {places : Option (Place × Place)}
  {filter first : Filter} {past : List Turn} {entries : List Entry}

theorem emit_eq (h : s.listening? = some filter) (e : Event) :
    s.emit e = match filter.pass? s.work e with
      | some written => { s with sinks := s.sinks.write written }
      | none => s := by
  simp only [emit, h, Filter.pass?]
  split <;> rfl

theorem routing_nil (hf : s.filter = some first) (hs : s.sinks = o.sinks places []) :
    s.routing o places first [] = s := by
  have hsame : { s with filter := some first, sinks := o.sinks places [] } = s := by
    rw [← hf, ← hs]
  exact hsame

/-- Every turn does to the filter, the work and the sinks what it is told to do. -/
theorem turn_routing (hf : s.facade = .us) (hs : s.subscriber = .us) (t : Turn) :
    (s.routing o places first past).turn t = s.routing o places first (past ++ [t]) := by
  have hours : (s.routing o places first past).listening? = some (inForce first past) := by
    simp only [listening?, routing, hs]
  -- Records are events as well; neither changes the filter or the work.
  have hemit (e : Event) (he : t.event? = some e) (hn : t.filter? = none)
      (hw : ∀ f work, t.around f work = work) :
      (s.routing o places first past).emit e = s.routing o places first (past ++ [t]) := by
    rw [emit_eq hours]
    simp only [routing, inForce_append, passed_append, ongoing_append, he, hn, hw, Option.getD_none,
      Option.bind_some]
    cases (inForce first past).pass? (ongoing s.work first past) e with
    | none => simp
    | some written => simp [Options.write_sinks]
  cases t with
  | event e => exact hemit e rfl rfl fun _ _ => rfl
  | record target level message =>
    have hfacade : (s.routing o places first past).facade = .us := hf
    simp only [turn, log, if_pos hfacade]
    exact hemit _ rfl rfl fun _ _ => rfl
  | change level =>
    simp only [turn, setLevel_eq, routing, inForce_append, passed_append, ongoing_append,
      Turn.filter?, Turn.event?, Turn.around]
    cases Filter.parse level <;> simp [Except.toOption]
  | enter span =>
    simp only [turn, enter, hours]
    simp [routing, inForce_append, passed_append, ongoing_append, Turn.filter?, Turn.event?,
      Turn.around]
  | leave =>
    simp [turn, leave, routing, inForce_append, passed_append, ongoing_append, Turn.filter?,
      Turn.event?, Turn.around]

theorem turns_routing (hf : s.facade = .us) (hs : s.subscriber = .us) (all : List Turn) :
    (s.routing o places first past).turns all = s.routing o places first (past ++ all) := by
  induction all generalizing past with
  | nil => rw [List.append_nil]; rfl
  | cons t rest ih =>
    have hrest : (s.routing o places first (past ++ [t])).turns rest =
        s.routing o places first ((past ++ [t]) ++ rest) := ih
    rw [← turn_routing hf hs, List.append_assoc] at hrest
    exact hrest

/-- An opened log file is found under its path. -/
theorem leadsToSink_openAppender {files left : FileSystem} {directory name : String} {place : Place}
    (h : openAppender files directory name = (.ok place, left)) :
    left.LeadsToSink (FileSystem.child (utf8 directory) (utf8 name)) place := by
  simp only [openAppender] at h
  split at h
  · rename_i hopen
    cases h
    exact FileSystem.leadsToSink_openSink hopen
  · split at h
    · cases h
    · split at h
      · cases h
      · split at h
        · rename_i hopen
          cases h
          exact FileSystem.leadsToSink_openSink hopen
        · cases h

inductive LogFiles (env : Environment) (app : String) (o : Options) (before : FileSystem) :
    Option (Place × Place) → FileSystem → Prop
  | nowhere (directory : o.directory = "") : LogFiles env app o before none before
  | opened {after : FileSystem} {main errors : Place} (directory : o.directory ≠ "")
      (grown : before.Grown after) (atMain : after.LeadsToSink (logPath env o app) main)
      (atErrors : after.LeadsToSink (logPath env o (app ++ "-err")) errors) :
      LogFiles env app o before (some (main, errors)) after

/-- Where the sinks could be opened, the files are there, behind both names. -/
theorem openSinks_eq_ok {env : Environment} {files left : FileSystem} {sinks : Sinks}
    (h : openSinks env files app o = (.ok sinks, left)) :
    ∃ places, sinks = o.sinks places [] ∧ LogFiles env app o files places left := by
  by_cases hd : o.directory = ""
  · rw [openSinks_nowhere hd] at h
    cases h
    exact ⟨none, rfl, .nowhere hd⟩
  · have hmain := grown_openAppender files o.directory (fileName env app)
    simp only [openSinks, if_neg hd] at h
    split at h
    · cases h
    · rename_i main between hm
      have herrors := grown_openAppender between o.directory (fileName env (app ++ "-err"))
      rw [hm] at hmain
      split at h
      · cases h
      · rename_i errors after he
        rw [he] at herrors
        cases h
        exact ⟨some (main, errors), rfl, .opened hd (hmain.trans herrors)
          (herrors.leadsToSink (leadsToSink_openAppender hm)) (leadsToSink_openAppender he)⟩

/-- Once set-up has succeeded, the filter of its level is in force and nothing has gone anywhere. -/
theorem setUp_eq_ok {writers : Nat} (h : s.setUp app o = (.ok writers, ready)) :
    ∃ first sinks, Filter.parse (chosenLevel s.environment o) = .ok first ∧
      openSinks s.environment s.files app o = (.ok sinks, ready.files) ∧
      ready.facade = .us ∧ ready.subscriber = .us ∧ ready.filter = some first ∧
      ready.sinks = sinks ∧ ready.work = s.work := by
  unfold setUp at h
  split at h
  · cases h
  · dsimp only at h
    split at h
    · cases h
    · rename_i first hp
      split at h
      · cases h
      · rename_i sinks left ho
        unfold claim at h
        split at h
        · cases h
        · dsimp only at h
          split at h
          · cases h
          · cases h
            exact ⟨first, sinks, hp, ho, rfl, rfl, rfl, rfl, rfl⟩

/-- From a set-up that succeeds on, the turns alone tell what goes to the sinks. -/
theorem turns_of_setUp {writers : Nat} (h : s.setUp app o = (.ok writers, ready)) :
    ∃ first places, Filter.parse (chosenLevel s.environment o) = .ok first ∧
      LogFiles s.environment app o s.files places ready.files ∧ ready.work = s.work ∧
      ∀ all, ready.turns all = ready.routing o places first all := by
  obtain ⟨first, sinks, hp, ho, hfacade, hsubscriber, hfilter, hsinks, hwork⟩ := setUp_eq_ok h
  obtain ⟨places, hplaces, hfiles⟩ := openSinks_eq_ok ho
  have hbegun := routing_nil hfilter (hsinks.trans hplaces)
  refine ⟨first, places, hp, hfiles, hwork, fun all => ?_⟩
  have hrun : (ready.routing o places first []).turns all = ready.routing o places first all :=
    turns_routing hfacade hsubscriber all
  rw [hbegun] at hrun
  exact hrun

/-- A level that is refused changes nothing. -/
theorem setLevel_of_error {level : String} {cause : SetupError}
    (h : (s.setLevel level).1 = .error cause) : (s.setLevel level).2 = s := by
  rw [setLevel_eq] at h ⊢
  split at h
  · rfl
  · split at h
    · cases h
    · rw [if_neg (by assumption)]

theorem turns_append (earlier later : List Turn) :
    s.turns (earlier ++ later) = (s.turns earlier).turns later := List.foldl_append

theorem turns_of_error {earlier : List Turn} {level : String} {cause : SetupError}
    (h : ((s.turns earlier).setLevel level).1 = .error cause) (later : List Turn) :
    s.turns (earlier ++ .change level :: later) = s.turns (earlier ++ later) := by
  have hsame : (s.turns earlier).turn (.change level) = s.turns earlier := setLevel_of_error h
  have hnext : (s.turns earlier).turns (.change level :: later) =
      ((s.turns earlier).turn (.change level)).turns later := rfl
  rw [turns_append, hnext, hsame, turns_append]

/-- What closing writes to the standard output. -/
theorem stdout_close (hs : s.sinks = o.sinks places entries) (clock : Outlet → Nat → String) :
    (s.close clock).1 =
      renderLines o.format (clock .stdout) (if o.toStdout then entries else []) := by
  simp only [close, hs, Options.sinks]
  split <;> rfl

theorem files_close_nowhere (hs : s.sinks = o.sinks none entries)
    (clock : Outlet → Nat → String) : (s.close clock).2 = s.files := by
  simp only [close, hs]
  rfl

variable {main grave : Place}

/-- Closing writes the lines of both files at their ends. -/
theorem files_close (hs : s.sinks = o.sinks (some (main, grave)) entries)
    (clock : Outlet → Nat → String) :
    (s.close clock).2 =
      (s.files.lengthened main (utf8 (renderLines o.format (clock .mainFile) entries))).lengthened
        grave (utf8 (renderLines o.format (clock .errorFile) (errors entries))) := by
  simp only [close, hs]
  rfl

theorem gains_close (hs : s.sinks = o.sinks (some (main, grave)) entries) {path : Bytes}
    {place : Place} (h : s.files.LeadsToSink path place) (clock : Outlet → Nat → String) :
    s.files.Gains (s.close clock).2 path place
      ((if place = main then utf8 (renderLines o.format (clock .mainFile) entries) else []) ++
        if place = grave then
          utf8 (renderLines o.format (clock .errorFile) (errors entries)) else []) := by
  rw [files_close hs]
  exact FileSystem.gains_lengthened_lengthened h main grave _ _

theorem node?_close (hs : s.sinks = o.sinks (some (main, grave)) entries)
    (clock : Outlet → Nat → String) {place : Place} (hm : place ≠ main) (he : place ≠ grave) :
    (s.close clock).2.node? place = s.files.node? place := by
  rw [files_close hs, FileSystem.node?_lengthened, FileSystem.node?_lengthened]
  simp only [if_neg hm, if_neg he, Option.map_id']

end State

/-- After a set-up that succeeds, what goes to the standard output and to the main file are the
events that the filter in force let through when they happened, and what goes to the error file are
the errors among them, all in the order in which they happened. In the end each file holds, after
what it held before, one line for each of its events that shows it, both where links make one file
of two, and nothing else is written; without a directory nothing is written at all. A level that is
refused changes none of this. -/
theorem routed {s ready : State} {app : String} {o : Options} {writers : Nat}
    (h : s.setUp app o = (.ok writers, ready)) (turns : List Turn)
    (clock : Outlet → Nat → String) :
    ∃ first, Filter.parse (State.chosenLevel s.environment o) = .ok first ∧
      let entries := passed s.work first turns
      let last := ready.turns turns
      let closed := last.close clock
      last.sinks.stdout = (if o.toStdout then some entries else none) ∧
      Lines o.format (clock .stdout) (if o.toStdout then entries else []) closed.1 ∧
      (o.directory = "" →
        last.sinks.mainFile = none ∧ last.sinks.errorFile = none ∧ closed.2 = s.files) ∧
      (o.directory ≠ "" → ∃ (main grave : Place) (lines graveLines : String),
        last.sinks.mainFile = some (main, entries) ∧
        last.sinks.errorFile = some (grave, errors entries) ∧
        Lines o.format (clock .mainFile) entries lines ∧
        Lines o.format (clock .errorFile) (errors entries) graveLines ∧
        s.files.Grown ready.files ∧
        ready.files.Gains closed.2 (logPath s.environment o app) main
          (utf8 lines ++ if main = grave then utf8 graveLines else []) ∧
        ready.files.Gains closed.2 (logPath s.environment o (app ++ "-err")) grave
          ((if grave = main then utf8 lines else []) ++ utf8 graveLines) ∧
        ∀ place, place ≠ main → place ≠ grave →
          closed.2.node? place = ready.files.node? place) ∧
      ∀ earlier level cause, ((ready.turns earlier).setLevel level).1 = .error cause →
        ∀ later,
          ready.turns (earlier ++ .change level :: later) = ready.turns (earlier ++ later) := by
  -- After the set-up the turns change only what the sinks hold and the work that is open.
  obtain ⟨first, places, hp, hlog, hwork, hroute⟩ := State.turns_of_setUp h
  refine ⟨first, hp, ?_⟩
  intro entries last closed
  have hlast : last = ready.routing o places first turns := hroute turns
  have hsinks : last.sinks = o.sinks places entries := by
    rw [hlast, State.routing, hwork]
  have hfiles : last.files = ready.files := by
    rw [hlast]
    rfl
  refine ⟨congrArg Sinks.stdout hsinks, ?_, fun hd => ?_, fun hd => ?_,
    fun earlier level cause => State.turns_of_error⟩
  · rw [State.stdout_close hsinks clock]
    exact lines_renderLines _ _ _
  · -- Without a directory there is no file to be closed.
    generalize hleft : ready.files = left at hlog
    cases hlog with
    | opened hn _ _ _ => exact absurd hd hn
    | nowhere _ =>
      exact ⟨congrArg Sinks.mainFile hsinks, congrArg Sinks.errorFile hsinks,
        (State.files_close_nowhere hsinks clock).trans (hfiles.trans hleft)⟩
  · -- Each file gains its own lines, and those of the other where a link leads to the same place.
    rw [← hfiles] at hlog ⊢
    generalize hleft : last.files = left at hlog
    cases hlog with
    | nowhere hn => exact absurd hn hd
    | @opened _ main grave _ hgrown hmain hgrave =>
      subst hleft
      have hgained := State.gains_close hsinks hmain clock
      have hgraver := State.gains_close hsinks hgrave clock
      rw [if_pos rfl] at hgained hgraver
      exact ⟨main, grave, _, _, congrArg Sinks.mainFile hsinks, congrArg Sinks.errorFile hsinks,
        lines_renderLines _ _ _, lines_renderLines _ _ _, hgrown, hgained, hgraver,
        fun place => State.node?_close hsinks clock⟩

/-- Another level is asked for in between, and one that is none. The work that begins before the
change is noted, and the one that begins after it is not. -/
theorem routed_changing :
    let s := State.begun { hour := "00" } { entries := [] }
    let o : Options := { directory := "/logs", level := some "info" }
    let happens (level : Level) : Turn := .event { target := "app", level, message := "m" }
    let work (name : String) (level : Level) : Turn :=
      .enter { name, target := "app", level, fields := [] }
    let turns := [happens .debug, happens .info, .change "a=b=c", work "outer" .info,
      happens .warn, .change "error", work "inner" .info, work "last" .error, happens .warn,
      happens .error, .leave, .leave, .leave, happens .error]
    let last := (s.setUp "app" o).2.turns turns
    let seen (entries : List Entry) := entries.map fun e => (e.event.level, e.spans.map (·.name))
    (s.setUp "app" o).1.toOption = some 3 ∧
      last.sinks.stdout.map seen = some [(.info, []), (.warn, ["outer"]),
        (.error, ["outer", "last"]), (.error, [])] ∧
      last.sinks.mainFile.map Prod.snd = last.sinks.stdout ∧
      last.sinks.errorFile.map (seen ·.2) = some [(.error, ["last"]), (.error, [])] := by
  intro s o happens work turns last seen
  have hread : (Filter.parse "info").toOption = some ⟨[⟨none, [], some .info⟩]⟩ := by
    decide +kernel
  have hinfo : Filter.parse "info" = .ok ⟨[⟨none, [], some .info⟩]⟩ := by
    cases hp : Filter.parse "info" with
    | error cause =>
      rw [hp] at hread
      cases hread
    | ok filter =>
      rw [hp] at hread
      exact congrArg Except.ok (Option.some.inj hread)
  have hopen : (State.openSinks { hour := "00" } { entries := [] } "app" o).1.map Sinks.count =
      .ok 3 := by cbv
  have hset : s.setUp "app" o = (.ok 3, (s.setUp "app" o).2) := by
    refine Prod.ext ?_ rfl
    have hlevel : State.chosenLevel { hour := "00" } o = "info" := rfl
    rw [State.setUp_begun, hlevel, hinfo]
    exact hopen
  obtain ⟨first, hp, hstdout, -, -, hfiles, -⟩ := routed hset turns fun _ _ => "t"
  cases hinfo.symm.trans hp
  obtain ⟨main, grave, -, -, hmain, hgrave, -⟩ := hfiles (by decide)
  rw [hstdout, hmain, hgrave]
  refine ⟨?_, ?_, rfl, ?_⟩
  · rw [hset]
    rfl
  · decide +kernel
  · refine congrArg some ?_
    dsimp only
    decide +kernel

end Retrieval.Log
