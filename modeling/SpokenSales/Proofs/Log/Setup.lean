import SpokenSales.Panel
import SpokenSales.Proofs.Storage.Place
import SpokenSales.Storage.Tree

/-!
# Requests for the log

The log is opened by the first request that is in order and whose start succeeds.  From then on
it stays as it is, whatever is asked, and no request reaches the file system any more.
-/

namespace SpokenSales

namespace Log

/-!
## Requests in order
-/

structure Request where
  level : String
  directory : String
deriving DecidableEq, Repr

/-- A name stands for the level whose label it is, and `warning` for `warn`. -/
def Level.Named (level : Level) (name : String) : Prop :=
  canonical name = level.label.toList ∨ level = .warn ∧ canonical name = "warning".toList

def Request.place (asked : Request) : String :=
  String.ofList (Text.trim asked.directory.toList)

/-- A request is for a log if nothing but its start may fail. -/
structure Request.For (asked : Request) (active : Active) : Prop where
  level : active.level.Named asked.level
  place : active.directory = asked.place
  nonempty : asked.place ≠ ""
  absolute : Storage.Absolute asked.place

theorem Level.ofLabel?_label (level : Level) : ofLabel? level.label.toList = some level := by
  cases level <;> decide

theorem Level.ofLabel?_eq_some {name : List Char} {level : Level} :
    ofLabel? name = some level ↔
      name = level.label.toList ∨ level = .warn ∧ name = "warning".toList := by
  constructor
  · intro h
    unfold ofLabel? at h
    split at h
    next hname =>
        exact Or.inr ⟨(Option.some.inj h).symm, hname⟩
    next =>
        have hlabel := List.find?_some h
        exact Or.inl (of_decide_eq_true hlabel).symm
  · rintro (rfl | ⟨rfl, rfl⟩)
    · exact ofLabel?_label level
    · rfl

theorem Level.named_iff {level : Level} {name : String} :
    level.Named name ↔ ofLabel? (canonical name) = some level :=
  ofLabel?_eq_some.symm

theorem askedLevel_of_named {level : Level} {name : String} (h : level.Named name) :
    askedLevel name = .ok level := by
  unfold askedLevel
  rw [Level.named_iff.mp h]

theorem askedLevel_of_not_named {name : String} (h : ∀ level : Level, ¬level.Named name) :
    askedLevel name = .error (.unsupportedLevel (String.ofList (Level.canonical name))) := by
  unfold askedLevel
  cases hlevel : Level.ofLabel? (Level.canonical name) with
  | none =>
      rfl
  | some level =>
      exact absurd (Level.named_iff.mpr hlevel) (h level)

theorem askedDirectory_eq (asked : Request) :
    askedDirectory asked.directory =
      if asked.place.isEmpty then .error .emptyDirectory
      else if Storage.isAbsolute asked.place then .ok asked.place
      else .error (.relativeDirectory asked.place) :=
  rfl

theorem askedDirectory_of_empty {asked : Request} (h : asked.place = "") :
    askedDirectory asked.directory = .error .emptyDirectory := by
  rw [askedDirectory_eq, if_pos (String.isEmpty_iff.mpr h)]

theorem askedDirectory_of_relative {asked : Request} (hne : asked.place ≠ "")
    (h : ¬Storage.Absolute asked.place) :
    askedDirectory asked.directory = .error (.relativeDirectory asked.place) := by
  rw [askedDirectory_eq, if_neg (fun hempty => hne (String.isEmpty_iff.mp hempty)),
    if_neg (fun habsolute => h (Storage.isAbsolute_iff.mp habsolute))]

theorem askedDirectory_of_absolute {asked : Request} (hne : asked.place ≠ "")
    (h : Storage.Absolute asked.place) :
    askedDirectory asked.directory = .ok asked.place := by
  rw [askedDirectory_eq, if_neg (fun hempty => hne (String.isEmpty_iff.mp hempty)),
    if_pos (Storage.isAbsolute_iff.mpr h)]

/-- The reasons to refuse a request whatever log is open.  A level that has no meaning comes
before a directory that will not do. -/
inductive Request.Faulty (asked : Request) : SetupError → Prop
  | level (h : ∀ level : Level, ¬level.Named asked.level) :
      Faulty asked (.unsupportedLevel (String.ofList (Level.canonical asked.level)))
  | empty {level : Level} (hlevel : level.Named asked.level) (h : asked.place = "") :
      Faulty asked .emptyDirectory
  | relative {level : Level} (hlevel : level.Named asked.level) (hne : asked.place ≠ "")
      (h : ¬Storage.Absolute asked.place) :
      Faulty asked (.relativeDirectory asked.place)

theorem Request.faulty_or_for (asked : Request) :
    (∃ error, asked.Faulty error) ∨ ∃ active, asked.For active := by
  cases hlevel : Level.ofLabel? (Level.canonical asked.level) with
  | none =>
      left
      refine ⟨_, .level fun level hnamed => ?_⟩
      rw [Level.named_iff, hlevel] at hnamed
      cases hnamed
  | some level =>
      have hnamed : level.Named asked.level := Level.named_iff.mpr hlevel
      by_cases hempty : asked.place = ""
      · exact Or.inl ⟨_, .empty hnamed hempty⟩
      · by_cases habsolute : Storage.Absolute asked.place
        · exact Or.inr ⟨⟨level, asked.place⟩, hnamed, rfl, hempty, habsolute⟩
        · exact Or.inl ⟨_, .relative hnamed hempty habsolute⟩

theorem request_of_faulty {asked : Request} {error : SetupError} (h : asked.Faulty error)
    (current : Option Active) :
    request current asked.level asked.directory = .refuse error := by
  unfold request
  cases h with
  | level h =>
      rw [askedLevel_of_not_named h]
  | empty hlevel h =>
      rw [askedLevel_of_named hlevel, askedDirectory_of_empty h]
  | relative hlevel hne h =>
      rw [askedLevel_of_named hlevel, askedDirectory_of_relative hne h]

theorem request_of_for {asked : Request} {active : Active} (h : asked.For active)
    (current : Option Active) :
    request current asked.level asked.directory =
      current.elim (.start active) fun first => first.compare active := by
  rcases active with ⟨level, directory⟩
  obtain rfl : directory = asked.place := h.place
  unfold request
  rw [askedLevel_of_named h.level, askedDirectory_of_absolute h.nonempty h.absolute]
  cases current with
  | none =>
      rfl
  | some first =>
      rfl

/-!
## Requests while a log is open
-/

structure Same (active : Active) (asked : Request) : Prop where
  level : active.level.Named asked.level
  place : Storage.SamePlace active.directory asked.place

/-- The reasons to refuse a request while a log is open: the request is faulty, or it is for
another directory, or else for another level. -/
inductive Refused (active : Active) (asked : Request) : SetupError → Prop
  | faulty {error : SetupError} (h : asked.Faulty error) : Refused active asked error
  | directory {other : Active} (h : asked.For other)
      (hplace : ¬Storage.SamePlace active.directory asked.place) :
      Refused active asked (.otherDirectory active.directory asked.place)
  | level {other : Active} (h : asked.For other)
      (hplace : Storage.SamePlace active.directory asked.place)
      (hlevel : active.level ≠ other.level) :
      Refused active asked (.otherLevel active.level other.level)

theorem Same.inOrder {active : Active} {asked : Request} (h : Same active asked) :
    asked.For ⟨active.level, asked.place⟩ := by
  refine ⟨h.level, rfl, ?_, h.place.otherAbsolute⟩
  intro hempty
  rcases h.place.otherAbsolute with ⟨rest, hrest⟩
  rw [hempty] at hrest
  cases hrest

theorem same_or_refused (active : Active) (asked : Request) :
    Same active asked ∨ ∃ error, Refused active asked error := by
  rcases asked.faulty_or_for with ⟨error, herror⟩ | ⟨other, hother⟩
  · exact Or.inr ⟨error, .faulty herror⟩
  · by_cases hplace : Storage.SamePlace active.directory asked.place
    · by_cases hlevel : active.level = other.level
      · exact Or.inl ⟨hlevel ▸ hother.level, hplace⟩
      · exact Or.inr ⟨_, .level hother hplace hlevel⟩
    · exact Or.inr ⟨_, .directory hother hplace⟩

theorem request_of_same {active : Active} {asked : Request} (h : Same active asked) :
    request (some active) asked.level asked.directory = .keep := by
  rw [request_of_for h.inOrder]
  show active.compare ⟨active.level, asked.place⟩ = .keep
  unfold Active.compare
  rw [if_neg (fun hne => hne (Storage.samePlace_iff.mp h.place).2.2),
    if_neg (fun hne => hne rfl)]

theorem request_of_refused {active : Active}
    (habsolute : Storage.Absolute active.directory) {asked : Request}
    {error : SetupError} (h : Refused active asked error) :
    request (some active) asked.level asked.directory = .refuse error := by
  cases h with
  | faulty h =>
      exact request_of_faulty h (some active)
  | @directory other h hplace =>
      rw [request_of_for h]
      show active.compare other = _
      unfold Active.compare
      rw [h.place, if_pos]
      intro hcomponents
      exact hplace (Storage.samePlace_iff.mpr ⟨habsolute, h.absolute, hcomponents⟩)
  | @level other h hplace hlevel =>
      rw [request_of_for h]
      show active.compare other = _
      unfold Active.compare
      rw [h.place, if_neg (fun hne => hne (Storage.samePlace_iff.mp hplace).2.2), if_pos hlevel]

/-!
## What surrounds the log

A start makes the directory and then starts the backend, which writes the lines.  Both may answer
in any way and change what surrounds the log.
-/

structure World (Files Backend : Type) where
  files : Files
  backend : Backend

structure Surroundings (Files Backend : Type) where
  makeDirectory : Files → String → Files × Except Storage.Fault Unit
  startBackend : World Files Backend → Active → World Files Backend × Except String Unit

structure State (Files Backend : Type) where
  world : World Files Backend
  log : Option Active

namespace Surroundings

variable {Files Backend : Type} (surroundings : Surroundings Files Backend)

def withDirectory (world : World Files Backend) (active : Active) : World Files Backend :=
  { world with files := (surroundings.makeDirectory world.files active.directory).1 }

def start (world : World Files Backend) (active : Active) : World Files Backend × Start :=
  let ready := surroundings.withDirectory world active
  match (surroundings.makeDirectory world.files active.directory).2 with
  | .error fault => (ready, .directoryNotMade fault)
  | .ok () =>
      let begun := surroundings.startBackend ready active
      match begun.2 with
      | .error wording => (begun.1, .notStarted wording)
      | .ok () => (begun.1, .started)

def carryOut (world : World Files Backend) : Decision → World Files Backend × Start
  | .start active => surroundings.start world active
  | .refuse _ | .keep => (world, .started)

def setUp (state : State Files Backend) (asked : Request) :
    State Files Backend × Except SetupError Unit :=
  let decision := request state.log asked.level asked.directory
  let carried := surroundings.carryOut state.world decision
  let settled := settle state.log decision carried.2
  (⟨carried.1, settled.1⟩, settled.2)

def run (state : State Files Backend) (calls : List Request) : State Files Backend :=
  calls.foldl (fun state asked => (surroundings.setUp state asked).1) state

/-- Whether a panel does as the surroundings do, if it gets their answers: it shows the log, and it
opens one or refuses to. -/
structure Follows (state : State Files Backend) (panel : Panel.State) : Prop where
  status : ∀ setting answers,
    (Panel.call setting answers panel .logStatus).2.1 = .status state.log
  opens : ∀ setting catalogFile asked,
    let carried := surroundings.carryOut state.world
      (request state.log asked.level asked.directory)
    let called := Panel.call setting ⟨catalogFile, carried.2⟩ panel
      (.openLog asked.level asked.directory)
    let set := surroundings.setUp state asked
    called.1.log = set.1.log ∧
      called.2.1 = .text (match set.2 with | .ok () => "" | .error error => error.message)

theorem follows_of_log_eq {state : State Files Backend} {panel : Panel.State}
    (h : panel.log = state.log) : surroundings.Follows state panel := by
  rcases state with ⟨world, log⟩
  obtain rfl : panel.log = log := h
  exact ⟨fun _ _ => rfl, fun _ _ _ => ⟨rfl, rfl⟩⟩

/-!
## One request
-/

variable {surroundings}

theorem setUp_of_faulty {asked : Request} {error : SetupError} (h : asked.Faulty error)
    (state : State Files Backend) : surroundings.setUp state asked = (state, .error error) := by
  unfold setUp
  rw [request_of_faulty h]
  rfl

theorem setUp_of_for {asked : Request} {active : Active} (h : asked.For active)
    (world : World Files Backend) :
    surroundings.setUp ⟨world, none⟩ asked =
      (⟨(surroundings.start world active).1,
          (settle none (.start active) (surroundings.start world active).2).1⟩,
        (settle none (.start active) (surroundings.start world active).2).2) := by
  unfold setUp
  rw [request_of_for h]
  rfl

/-- Whether a request would open a log in a world. -/
structure Opens (surroundings : Surroundings Files Backend) (world : World Files Backend)
    (asked : Request) (active : Active) : Prop where
  inOrder : asked.For active
  started : (surroundings.start world active).2 = .started

theorem Opens.absolute {world : World Files Backend} {asked : Request} {active : Active}
    (h : surroundings.Opens world asked active) : Storage.Absolute active.directory := by
  rw [h.inOrder.place]
  exact h.inOrder.absolute

theorem Opens.setUp {world : World Files Backend} {asked : Request} {active : Active}
    (h : surroundings.Opens world asked active) :
    (surroundings.setUp ⟨world, none⟩ asked).1.log = some active ∧
      (surroundings.setUp ⟨world, none⟩ asked).2 = .ok () := by
  rw [setUp_of_for h.inOrder, h.started]
  exact ⟨rfl, rfl⟩

theorem setUp_of_not_opens {world : World Files Backend} {asked : Request}
    (h : ∀ active, ¬surroundings.Opens world asked active) :
    (surroundings.setUp ⟨world, none⟩ asked).1.log = none ∧
      ∃ error, (surroundings.setUp ⟨world, none⟩ asked).2 = .error error := by
  rcases asked.faulty_or_for with ⟨error, herror⟩ | ⟨active, hactive⟩
  · rw [setUp_of_faulty herror]
    exact ⟨rfl, error, rfl⟩
  · rw [setUp_of_for hactive]
    cases hstart : (surroundings.start world active).2 with
    | started =>
        exact absurd ⟨hactive, hstart⟩ (h active)
    | directoryNotMade fault =>
        exact ⟨rfl, _, rfl⟩
    | notStarted wording =>
        exact ⟨rfl, _, rfl⟩

theorem log_setUp_eq_some {world : World Files Backend} {asked : Request} {active : Active} :
    (surroundings.setUp ⟨world, none⟩ asked).1.log = some active ↔
      surroundings.Opens world asked active := by
  constructor
  · intro h
    by_cases hopens : ∃ other, surroundings.Opens world asked other
    · rcases hopens with ⟨other, hother⟩
      rw [hother.setUp.1] at h
      cases h
      exact hother
    · rw [(setUp_of_not_opens (not_exists.mp hopens)).1] at h
      cases h
  · intro h
    exact h.setUp.1

/-!
## An open log
-/

theorem setUp_of_same {active : Active} {asked : Request} (h : Same active asked)
    (world : World Files Backend) :
    surroundings.setUp ⟨world, some active⟩ asked = (⟨world, some active⟩, .ok ()) := by
  unfold setUp
  rw [request_of_same h]
  rfl

theorem setUp_of_refused {active : Active}
    (habsolute : Storage.Absolute active.directory) {asked : Request}
    {error : SetupError} (h : Refused active asked error) (world : World Files Backend) :
    surroundings.setUp ⟨world, some active⟩ asked = (⟨world, some active⟩, .error error) := by
  unfold setUp
  rw [request_of_refused habsolute h]
  rfl

theorem setUp_fst_of_open {active : Active}
    (habsolute : Storage.Absolute active.directory) (world : World Files Backend)
    (asked : Request) :
    (surroundings.setUp ⟨world, some active⟩ asked).1 = ⟨world, some active⟩ := by
  rcases same_or_refused active asked with hsame | ⟨error, herror⟩
  · rw [setUp_of_same hsame]
  · rw [setUp_of_refused habsolute herror]

theorem setUp_snd_eq_ok {active : Active}
    (habsolute : Storage.Absolute active.directory) {world : World Files Backend}
    {asked : Request} :
    (surroundings.setUp ⟨world, some active⟩ asked).2 = .ok () ↔ Same active asked := by
  constructor
  · intro h
    rcases same_or_refused active asked with hsame | ⟨error, herror⟩
    · exact hsame
    · rw [setUp_of_refused habsolute herror] at h
      cases h
  · intro h
    rw [setUp_of_same h]

theorem setUp_snd_eq_error {active : Active}
    (habsolute : Storage.Absolute active.directory) {world : World Files Backend}
    {asked : Request} {error : SetupError} :
    (surroundings.setUp ⟨world, some active⟩ asked).2 = .error error ↔
      Refused active asked error := by
  constructor
  · intro h
    rcases same_or_refused active asked with hsame | ⟨other, hother⟩
    · rw [setUp_of_same hsame] at h
      cases h
    · rw [setUp_of_refused habsolute hother] at h
      cases h
      exact hother
  · intro h
    rw [setUp_of_refused habsolute h]

theorem run_of_open {active : Active}
    (habsolute : Storage.Absolute active.directory) (world : World Files Backend)
    (calls : List Request) :
    surroundings.run ⟨world, some active⟩ calls = ⟨world, some active⟩ := by
  induction calls with
  | nil =>
      rfl
  | cons asked calls ih =>
      show surroundings.run (surroundings.setUp ⟨world, some active⟩ asked).1 calls = _
      rw [setUp_fst_of_open habsolute, ih]

/-!
## The first request that opens the log
-/

theorem run_append (state : State Files Backend) (calls more : List Request) :
    surroundings.run state (calls ++ more) =
      surroundings.run (surroundings.run state calls) more :=
  List.foldl_append

/-- The world after some requests to a process without a log. -/
def worldAfter (surroundings : Surroundings Files Backend) (world : World Files Backend)
    (calls : List Request) : World Files Backend :=
  (surroundings.run ⟨world, none⟩ calls).world

/-- A request opens a log in the world that it meets, and none of the requests before it did. -/
structure OpensFirst (surroundings : Surroundings Files Backend) (world : World Files Backend)
    (before : List Request) (asked : Request) (active : Active) : Prop where
  opens : surroundings.Opens (surroundings.worldAfter world before) asked active
  first : ∀ front other rest, before = front ++ other :: rest →
    ∀ active, ¬surroundings.Opens (surroundings.worldAfter world front) other active

theorem worldAfter_cons {world next : World Files Backend} {asked : Request}
    (h : (surroundings.setUp ⟨world, none⟩ asked).1 = ⟨next, none⟩) (calls : List Request) :
    surroundings.worldAfter world (asked :: calls) = surroundings.worldAfter next calls := by
  show (surroundings.run (surroundings.setUp ⟨world, none⟩ asked).1 calls).world = _
  rw [h]
  rfl

theorem OpensFirst.head {world : World Files Backend} {asked : Request} {active : Active}
    (h : surroundings.Opens world asked active) : surroundings.OpensFirst world [] asked active := by
  refine ⟨h, ?_⟩
  intro front other rest hnil
  exact absurd hnil.symm (List.append_ne_nil_of_right_ne_nil front (List.cons_ne_nil _ _))

theorem OpensFirst.cons {world next : World Files Backend} {asked other : Request}
    {before : List Request} {active : Active}
    (hnext : (surroundings.setUp ⟨world, none⟩ asked).1 = ⟨next, none⟩)
    (h : surroundings.OpensFirst next before other active) :
    surroundings.OpensFirst world (asked :: before) other active := by
  constructor
  · rw [worldAfter_cons hnext]
    exact h.opens
  · intro front later rest hbefore found hopens
    cases front with
    | nil =>
        cases hbefore
        have hlog := log_setUp_eq_some.mpr hopens
        change (surroundings.setUp ⟨world, none⟩ asked).1.log = _ at hlog
        rw [hnext] at hlog
        cases hlog
    | cons first front =>
        cases hbefore
        rw [worldAfter_cons hnext] at hopens
        exact h.first front later rest rfl found hopens

theorem exists_opensFirst {world : World Files Backend} {calls : List Request} {active : Active}
    (h : (surroundings.run ⟨world, none⟩ calls).log = some active) :
    ∃ before asked after, calls = before ++ asked :: after ∧
      surroundings.OpensFirst world before asked active := by
  induction calls generalizing world with
  | nil =>
      cases h
  | cons asked calls ih =>
      change (surroundings.run (surroundings.setUp ⟨world, none⟩ asked).1 calls).log = _ at h
      rcases hnext : (surroundings.setUp ⟨world, none⟩ asked).1 with ⟨next, log⟩
      rw [hnext] at h
      cases log with
      | some other =>
          -- The log is open now, and what follows cannot change which one it is.
          have hopens : surroundings.Opens world asked other := by
            rw [← log_setUp_eq_some, hnext]
          rw [run_of_open hopens.absolute] at h
          cases h
          exact ⟨[], asked, calls, rfl, .head hopens⟩
      | none =>
          rcases ih h with ⟨before, other, after, rfl, hfirst⟩
          exact ⟨asked :: before, other, after, rfl, hfirst.cons hnext⟩

theorem run_eq {world : World Files Backend} {calls : List Request} {log : Option Active}
    (h : (surroundings.run ⟨world, none⟩ calls).log = log) :
    surroundings.run ⟨world, none⟩ calls = ⟨surroundings.worldAfter world calls, log⟩ := by
  subst h
  rfl

theorem absolute_of_log_run {world : World Files Backend} {calls : List Request} {active : Active}
    (h : (surroundings.run ⟨world, none⟩ calls).log = some active) :
    Storage.Absolute active.directory := by
  rcases exists_opensFirst h with ⟨before, asked, after, -, hfirst⟩
  exact hfirst.opens.absolute

theorem run_append_of_open {world : World Files Backend} {calls : List Request} {active : Active}
    (h : (surroundings.run ⟨world, none⟩ calls).log = some active) (more : List Request) :
    surroundings.run ⟨world, none⟩ (calls ++ more) = surroundings.run ⟨world, none⟩ calls := by
  rw [run_append, run_eq h]
  exact run_of_open (absolute_of_log_run h) _ more

theorem log_run_of_opens {world : World Files Backend} {before : List Request}
    (hnone : (surroundings.run ⟨world, none⟩ before).log = none) {asked : Request} {active : Active}
    (h : surroundings.Opens (surroundings.worldAfter world before) asked active)
    (after : List Request) :
    (surroundings.run ⟨world, none⟩ (before ++ asked :: after)).log = some active := by
  rw [List.append_cons]
  have hlog : (surroundings.run ⟨world, none⟩ (before ++ [asked])).log = some active := by
    rw [run_append, run_eq hnone]
    exact h.setUp.1
  rw [run_append_of_open hlog, hlog]

theorem log_run_eq_none {world : World Files Backend} {calls : List Request} :
    (surroundings.run ⟨world, none⟩ calls).log = none ↔
      ∀ before asked after, calls = before ++ asked :: after →
        ∀ active, ¬surroundings.Opens (surroundings.worldAfter world before) asked active := by
  constructor
  · rintro hnone before asked after rfl active hopens
    cases hlog : (surroundings.run ⟨world, none⟩ before).log with
    | none =>
        rw [log_run_of_opens hlog hopens] at hnone
        cases hnone
    | some first =>
        rw [run_append_of_open hlog, hlog] at hnone
        cases hnone
  · intro hnot
    cases hlog : (surroundings.run ⟨world, none⟩ calls).log with
    | none =>
        rfl
    | some active =>
        rcases exists_opensFirst hlog with ⟨before, asked, after, hcalls, hfirst⟩
        exact absurd hfirst.opens (hnot before asked after hcalls active)

theorem log_run_eq_some {world : World Files Backend} {calls : List Request} {active : Active} :
    (surroundings.run ⟨world, none⟩ calls).log = some active ↔
      ∃ before asked after, calls = before ++ asked :: after ∧
        surroundings.OpensFirst world before asked active := by
  constructor
  · exact exists_opensFirst
  · rintro ⟨before, asked, after, rfl, hfirst⟩
    exact log_run_of_opens (log_run_eq_none.mpr hfirst.first) hfirst.opens after

/-!
## Starts that fail

A backend that does not start is as it was, so that it may still start later.
-/

def FailsCleanly (surroundings : Surroundings Files Backend) : Prop :=
  ∀ world active wording, (surroundings.startBackend world active).2 = .error wording →
    (surroundings.startBackend world active).1.backend = world.backend

theorem start_eq_started {world : World Files Backend} {active : Active} :
    (surroundings.start world active).2 = .started ↔
      (surroundings.makeDirectory world.files active.directory).2 = .ok () ∧
        (surroundings.startBackend (surroundings.withDirectory world active) active).2 =
          .ok () := by
  unfold start
  cases (surroundings.makeDirectory world.files active.directory).2 with
  | error fault =>
      apply iff_of_false
      · rintro ⟨⟩
      · rintro ⟨⟨⟩, -⟩
  | ok _ =>
      dsimp only
      cases (surroundings.startBackend (surroundings.withDirectory world active) active).2 with
      | error wording =>
          apply iff_of_false
          · rintro ⟨⟩
          · rintro ⟨-, ⟨⟩⟩
      | ok _ =>
          exact iff_of_true rfl ⟨rfl, rfl⟩

theorem backend_start_of_not_started (h : surroundings.FailsCleanly) {world : World Files Backend}
    {active : Active} (hstart : (surroundings.start world active).2 ≠ .started) :
    (surroundings.start world active).1.backend = world.backend := by
  rw [Ne, start_eq_started] at hstart
  unfold start
  cases hmade : (surroundings.makeDirectory world.files active.directory).2 with
  | error fault =>
      rfl
  | ok _ =>
      dsimp only
      cases hbegun :
          (surroundings.startBackend (surroundings.withDirectory world active) active).2 with
      | error wording =>
          exact h (surroundings.withDirectory world active) active wording hbegun
      | ok _ =>
          exact absurd ⟨hmade, hbegun⟩ hstart

theorem backend_setUp_of_none (h : surroundings.FailsCleanly) {world : World Files Backend}
    {asked : Request} (hnone : (surroundings.setUp ⟨world, none⟩ asked).1.log = none) :
    (surroundings.setUp ⟨world, none⟩ asked).1.world.backend = world.backend := by
  rcases asked.faulty_or_for with ⟨error, herror⟩ | ⟨active, hactive⟩
  · rw [setUp_of_faulty herror]
  · have hnot : (surroundings.start world active).2 ≠ .started := by
      intro hstarted
      rw [log_setUp_eq_some.mpr ⟨hactive, hstarted⟩] at hnone
      cases hnone
    rw [setUp_of_for hactive]
    exact backend_start_of_not_started h hnot

theorem backend_worldAfter_of_none (h : surroundings.FailsCleanly) {world : World Files Backend}
    {calls : List Request} (hnone : (surroundings.run ⟨world, none⟩ calls).log = none) :
    (surroundings.worldAfter world calls).backend = world.backend := by
  induction calls generalizing world with
  | nil =>
      rfl
  | cons asked calls ih =>
      rcases hnext : (surroundings.setUp ⟨world, none⟩ asked).1 with ⟨next, log⟩
      change (surroundings.run (surroundings.setUp ⟨world, none⟩ asked).1 calls).log = _ at hnone
      rw [hnext] at hnone
      cases log with
      | some active =>
          have hopens : surroundings.Opens world asked active := by
            rw [← log_setUp_eq_some, hnext]
          rw [run_of_open hopens.absolute] at hnone
          cases hnone
      | none =>
          have hbackend := backend_setUp_of_none h (congrArg State.log hnext)
          rw [hnext] at hbackend
          rw [worldAfter_cons hnext, ih hnone, hbackend]

theorem opens_worldAfter_of_clean (h : surroundings.FailsCleanly) {world : World Files Backend}
    {calls : List Request} (hnone : (surroundings.run ⟨world, none⟩ calls).log = none)
    {asked : Request} {active : Active} (hactive : asked.For active) :
    let files := (surroundings.worldAfter world calls).files
    (surroundings.makeDirectory files active.directory).2 = .ok () →
      (surroundings.startBackend (surroundings.withDirectory ⟨files, world.backend⟩ active)
        active).2 = .ok () →
        surroundings.Opens (surroundings.worldAfter world calls) asked active := by
  intro files hmade hbegun
  refine ⟨hactive, start_eq_started.mpr ⟨hmade, ?_⟩⟩
  rw [← hbegun, ← backend_worldAfter_of_none h hnone]

/-!
## Any sequence of requests
-/

theorem log_setUp_of_error {world : World Files Backend} {asked : Request} {error : SetupError}
    (h : (surroundings.setUp ⟨world, none⟩ asked).2 = .error error) :
    (surroundings.setUp ⟨world, none⟩ asked).1.log = none := by
  cases hlog : (surroundings.setUp ⟨world, none⟩ asked).1.log with
  | none =>
      rfl
  | some active =>
      rw [(log_setUp_eq_some.mp hlog).setUp.2] at h
      cases h

/-- There is no log until the first request that is in order and whose start succeeds, and then it
is that one for ever.  Later requests change nothing, neither the log nor the world; they succeed
if they are for the open log and are refused for the first reason that applies.  A request that
fails while there is no log leaves it so, and stands in the way of none that comes later.  The
panel shows the log and answers the requests in the same way. -/
theorem run_opens_once (world : World Files Backend) (calls : List Request) :
    let state := surroundings.run ⟨world, none⟩ calls
    (state.log = none ↔ ∀ before asked after, calls = before ++ asked :: after →
      ∀ active, ¬surroundings.Opens (surroundings.worldAfter world before) asked active) ∧
    (∀ active, state.log = some active ↔ ∃ before asked after,
      calls = before ++ asked :: after ∧ surroundings.OpensFirst world before asked active) ∧
    (∀ active, state.log = some active →
      (∀ more, surroundings.run ⟨world, none⟩ (calls ++ more) = state) ∧
      ∀ asked, (surroundings.setUp state asked).1 = state ∧
        ((surroundings.setUp state asked).2 = .ok () ↔ Same active asked) ∧
        ∀ error, (surroundings.setUp state asked).2 = .error error ↔
          Refused active asked error) ∧
    (state.log = none → ∀ asked,
      (∀ error, (surroundings.setUp state asked).2 = .error error →
        (surroundings.setUp state asked).1.log = none) ∧
      ∀ active, surroundings.Opens state.world asked active →
        (surroundings.setUp state asked).2 = .ok () ∧
          (surroundings.setUp state asked).1.log = some active) ∧
    (state.log = none → surroundings.FailsCleanly → ∀ asked active, asked.For active →
      (surroundings.makeDirectory state.world.files active.directory).2 = .ok () →
      (surroundings.startBackend
        (surroundings.withDirectory ⟨state.world.files, world.backend⟩ active) active).2 =
          .ok () →
      (surroundings.setUp state asked).2 = .ok () ∧
        (surroundings.setUp state asked).1.log = some active) ∧
    ∀ panel : Panel.State, panel.log = state.log → surroundings.Follows state panel := by
  intro state
  refine ⟨log_run_eq_none, fun active => log_run_eq_some, ?_, ?_, ?_,
    fun panel => surroundings.follows_of_log_eq⟩
  · intro active hlog
    have habsolute : Storage.Absolute active.directory := absolute_of_log_run hlog
    have hstate : state = ⟨surroundings.worldAfter world calls, some active⟩ := run_eq hlog
    constructor
    · exact run_append_of_open hlog
    · intro asked
      rw [hstate]
      refine ⟨setUp_fst_of_open habsolute _ asked, setUp_snd_eq_ok habsolute, ?_⟩
      intro error
      exact setUp_snd_eq_error habsolute
  · intro hlog asked
    have hstate : state = ⟨surroundings.worldAfter world calls, none⟩ := run_eq hlog
    rw [hstate]
    constructor
    · intro error
      exact log_setUp_of_error
    · intro active hopens
      exact ⟨hopens.setUp.2, hopens.setUp.1⟩
  · intro hlog hclean asked active hactive hmade hbegun
    have hstate : state = ⟨surroundings.worldAfter world calls, none⟩ := run_eq hlog
    have hopens : surroundings.Opens (surroundings.worldAfter world calls) asked active :=
      opens_worldAfter_of_clean hclean hlog hactive hmade hbegun
    rw [hstate]
    exact ⟨hopens.setUp.2, hopens.setUp.1⟩

def onTree : Surroundings Storage.Tree Bool where
  makeDirectory := Storage.Tree.makeDirectories
  startBackend world _ :=
    if world.backend then (world, .error "already started")
    else ({ world with backend := true }, .ok ())

theorem failsCleanly_onTree : onTree.FailsCleanly := by
  rintro ⟨files, backend⟩ active wording h
  cases backend with
  | true =>
      rfl
  | false =>
      cases h

theorem eq_ok_of_isOk {ε : Type} {outcome : Except ε Unit} (h : outcome.isOk = true) :
    outcome = .ok () := by
  cases outcome with
  | error fault =>
      cases h
  | ok _ =>
      rfl

/-- Requests fail for the name of a level, for an empty and a relative directory, and for a file in
the way, before one opens the log. -/
theorem run_opens_once_onTree :
    let tree : Storage.Tree :=
      ⟨.directory [("var".toList, .directory []), ("hosts".toList, .file [])], []⟩
    let failing : List Request :=
      [⟨"loud", "/var"⟩, ⟨"info", " "⟩, ⟨"info", "var/log"⟩, ⟨"info", "/hosts/log"⟩]
    let first : Request := ⟨" Warning ", " /var/log"⟩
    let active : Active := ⟨.warn, "/var/log"⟩
    let state := onTree.run ⟨⟨tree, false⟩, none⟩ failing
    state.log = none ∧ (onTree.setUp state first).1.log = some active ∧
      let opened := onTree.run ⟨⟨tree, false⟩, none⟩ (failing ++ [first])
      opened.log = some active ∧
        (onTree.setUp opened ⟨"WARN", "/var//./log/"⟩).2 = .ok () ∧
        (onTree.setUp opened ⟨"info", "/var/log"⟩).2 = .error (.otherLevel .warn .info) ∧
        (onTree.setUp opened ⟨"info", "/var/other"⟩).2 =
          .error (.otherDirectory "/var/log" "/var/other") ∧
        onTree.Follows opened ⟨none, some active⟩ := by
  intro tree failing first active state
  have hnone : state.log = none := by decide +kernel
  have hfirst : first.For active := ⟨Or.inr ⟨rfl, by decide⟩, by decide, by decide, by decide⟩
  rcases onTree.run_opens_once ⟨tree, false⟩ failing with ⟨-, -, -, -, hclean, -⟩
  rcases hclean hnone failsCleanly_onTree first active hfirst
    (eq_ok_of_isOk (by decide +kernel)) (eq_ok_of_isOk (by decide +kernel)) with ⟨-, hset⟩
  have hopened : (onTree.run ⟨⟨tree, false⟩, none⟩ (failing ++ [first])).log = some active := by
    rw [run_append]
    exact hset
  rcases onTree.run_opens_once ⟨tree, false⟩ (failing ++ [first]) with
    ⟨-, -, hlater, -, -, hfollows⟩
  rcases hlater active hopened with ⟨-, hasked⟩
  have hsame : Same active ⟨"WARN", "/var//./log/"⟩ :=
    ⟨Or.inl (by decide), by decide⟩
  have hlevel : Refused active ⟨"info", "/var/log"⟩ (.otherLevel .warn .info) := by
    have hfor : Request.For ⟨"info", "/var/log"⟩ ⟨.info, "/var/log"⟩ :=
      ⟨Or.inl (by decide), by decide, by decide, by decide⟩
    exact .level hfor (by decide) (by decide)
  have hdirectory : Refused active ⟨"info", "/var/other"⟩
      (.otherDirectory "/var/log" "/var/other") := by
    have hfor : Request.For ⟨"info", "/var/other"⟩ ⟨.info, "/var/other"⟩ :=
      ⟨Or.inl (by decide), by decide, by decide, by decide⟩
    exact .directory hfor (by decide)
  exact ⟨hnone, hset, hopened, (hasked _).2.1.mpr hsame, ((hasked _).2.2 _).mpr hlevel,
    ((hasked _).2.2 _).mpr hdirectory, hfollows _ hopened.symm⟩

end Surroundings

end Log
end SpokenSales
