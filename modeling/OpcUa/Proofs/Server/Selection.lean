import OpcUa.Application.Setup
import OpcUa.Application.Workshop
import OpcUa.Proofs.Server.Builds
import OpcUa.Proofs.Text.Cut

/-!
# Selection of servers

An application selects a cell by the scheme that it is asked with. Each of its cells runs as it
would alone, on the calls by its own schemes and on every closing, and is commissioned for what it
starts itself. A request that names no transport is refused and leaves the application as it is.
-/

namespace OpcUa

namespace TransportKind

def schemes : TransportKind → List String
  | .opcTcp => ["opc.tcp"]
  | .https => ["http", "https"]

/-- Whether the URL begins with a scheme of the transport. -/
def Serves (kind : TransportKind) (url : String) : Prop :=
  ∃ scheme ∈ kind.schemes, scheme.toList ++ "://".toList <+: url.toList

instance (kind : TransportKind) (url : String) : Decidable (kind.Serves url) :=
  decidable_of_iff
    (kind.schemes.any (fun scheme => (scheme.toList ++ "://".toList).isPrefixOf url.toList) = true)
    (by simp only [List.any_eq_true, List.isPrefixOf_iff_prefix, Serves])

theorem Serves.marked {kind : TransportKind} {url : String} (serves : kind.Serves url) :
    "://".toList <:+: url.toList := by
  obtain ⟨scheme, -, rest, whole⟩ := serves
  exact ⟨scheme.toList, rest, whole⟩

theorem colon_not_mem {kind : TransportKind} {scheme : String} (own : scheme ∈ kind.schemes) :
    ':' ∉ scheme.toList := by
  cases kind <;> revert scheme <;> decide

end TransportKind

namespace ServerPair

variable {σ : Type} {kind : TransportKind}

/-! ### Which transport is named -/

theorem kindFor_eq_ok_iff {scheme : String} :
    kindFor scheme = .ok kind ↔ scheme ∈ kind.schemes := by
  unfold kindFor TransportKind.ofScheme?
  by_cases tcp : scheme = "opc.tcp"
  · subst tcp
    cases kind <;> simp [TransportKind.schemes]
  · by_cases https : scheme = "http" ∨ scheme = "https"
    · cases kind <;> simp [TransportKind.schemes, tcp, https]
    · cases kind <;> simp [TransportKind.schemes, tcp, not_or.mp https]

theorem kindForUrl_eq_ok_iff {url : String} : kindForUrl url = .ok kind ↔ kind.Serves url := by
  unfold kindForUrl
  constructor
  · intro named
    split at named
    · rename_i scheme rest cut
      refine ⟨_, kindFor_eq_ok_iff.mp named, rest, ?_⟩
      rw [String.toList_ofList]
      exact (Text.cutAt?_eq_some cut).symm
    · cases named
  · rintro ⟨scheme, own, rest, whole⟩
    -- The scheme has no colon, so the first mark of the URL is the one after it.
    have cut : Text.cutAt? "://".toList url.toList = some (scheme.toList, rest) := by
      rw [← whole]
      exact Text.cutAt?_of_not_mem (TransportKind.colon_not_mem own)
    rw [cut]
    exact (congrArg kindFor String.ofList_toList).trans (kindFor_eq_ok_iff.mpr own)

theorem kind_of_kindFor {scheme : String} {fault : Fault} (refused : kindFor scheme = .error fault) :
    fault.kind = .unexpectedConfiguration := by
  unfold kindFor at refused
  split at refused <;> cases refused
  rfl

theorem kind_of_kindForUrl {url : String} {fault : Fault}
    (refused : kindForUrl url = .error fault) : fault.kind = .unexpectedConfiguration := by
  unfold kindForUrl at refused
  split at refused
  · exact kind_of_kindFor refused
  · cases refused
    rfl

/-! ### What a cell sees -/

/-- What the cell of a transport sees of a step: the calls by its own schemes, what comes of them,
and every closing. -/
def Event.at? (kind : TransportKind) : Event σ → Option (Visits.Event σ)
  | .call scheme => if scheme ∈ kind.schemes then some .enter else none
  | .callUrl url => if kind.Serves url then some .enter else none
  | .finish other attempt result => if other = kind then some (.finish attempt result) else none
  | .resume other caller => if other = kind then some (.resume caller) else none
  | .close => some .close

theorem visits_modify (p : ServerPair σ) (other : TransportKind) (change : Visits σ → Visits σ) :
    (p.modify other change).visits kind =
      if other = kind then change (p.visits kind) else p.visits kind := by
  cases other <;> cases kind <;> rfl

variable [DecidableEq σ]

/-- The cell of a transport sees the calls by which it is named. -/
theorem visits_callFor (p : ServerPair σ) {named : Except Fault TransportKind} {own : Prop}
    [Decidable own] (names : named = .ok kind ↔ own) :
    (p.callFor named).visits kind =
      (if own then some .enter else none).elim (p.visits kind) (p.visits kind).step := by
  split
  · rename_i called
    rw [names.mpr called]
    exact (visits_modify p kind _).trans (if_pos rfl)
  · rename_i passed
    cases named with
    | error fault => rfl
    | ok other =>
      have differs : other ≠ kind := fun same => passed (names.mp (congrArg Except.ok same))
      exact (visits_modify p other _).trans (if_neg differs)

/-- A step is to each cell what the cell sees of it, and nothing where it sees nothing. -/
theorem visits_step (p : ServerPair σ) (event : Event σ) :
    (p.step event).visits kind = (event.at? kind).elim (p.visits kind) (p.visits kind).step := by
  cases event with
  | call scheme => exact p.visits_callFor kindFor_eq_ok_iff
  | callUrl url => exact p.visits_callFor kindForUrl_eq_ok_iff
  | finish other | resume other =>
    rw [step, Event.at?, visits_modify]
    split <;> rfl
  | close => cases kind <;> rfl

theorem visits_run (p : ServerPair σ) (events : List (Event σ)) :
    (p.run events).visits kind = (p.visits kind).run (events.filterMap (Event.at? kind)) := by
  induction events generalizing p with
  | nil => rfl
  | cons event rest ih =>
    have later := (ih (p.step event)).trans (by rw [visits_step])
    unfold run at later ⊢
    rw [List.foldl_cons, later, List.filterMap_cons]
    cases event.at? kind <;> rfl

/-- Whether the step can come next, in every cell that sees it. -/
def Possible (p : ServerPair σ) (event : Event σ) : Prop :=
  ∀ kind, ∀ seen ∈ event.at? kind, (p.visits kind).Possible seen

/-- Whether each step can come when its turn is. -/
def Admits (p : ServerPair σ) : List (Event σ) → Prop
  | [] => True
  | event :: rest => p.Possible event ∧ (p.step event).Admits rest

theorem admits_iff (p : ServerPair σ) (events : List (Event σ)) :
    p.Admits events ↔ ∀ kind, (p.visits kind).Admits (events.filterMap (Event.at? kind)) := by
  induction events generalizing p with
  | nil => exact ⟨fun _ _ => trivial, fun _ => trivial⟩
  | cons event rest ih =>
    -- A cell that sees nothing stays where it is, and has one step less to take.
    have turn (kind : TransportKind) :
        (p.visits kind).Admits ((event :: rest).filterMap (Event.at? kind)) ↔
          (∀ seen ∈ event.at? kind, (p.visits kind).Possible seen) ∧
            ((p.step event).visits kind).Admits (rest.filterMap (Event.at? kind)) := by
      rw [visits_step, List.filterMap_cons]
      cases event.at? kind <;> simp [Visits.Admits]
    simp only [Admits, Possible, ih, turn, forall_and]

end ServerPair

namespace Workshop

/-! ### What is commissioned -/

theorem step_eq (w : Workshop) (event : ServerPair.Event Nat) :
    (w.step event).application = w.application ∧
      (w.step event).servers = w.servers.step event := by
  have asked (named : Except Fault TransportKind) :
      (w.request named).1.application = w.application ∧
        (w.request named).1.servers = w.servers.callFor named := by
    cases named <;> exact ⟨rfl, rfl⟩
  cases event with
  | call scheme | callUrl url => exact asked _
  | finish | resume | close => exact ⟨rfl, rfl⟩

theorem run_eq (w : Workshop) (events : List (ServerPair.Event Nat)) :
    (w.run events).application = w.application ∧
      (w.run events).servers = w.servers.run events := by
  unfold run ServerPair.run
  induction events generalizing w with
  | nil => exact ⟨rfl, rfl⟩
  | cons event rest ih =>
    obtain ⟨application, servers⟩ := w.step_eq event
    rw [List.foldl_cons, List.foldl_cons, ← application, ← servers]
    exact ih (w.step event)

def commissionsFor (w : Workshop) (kind : TransportKind) : List Commission :=
  w.commissions.filter (·.kind == kind)

/-- Whether each transport has been commissioned for the attempts that its callers started, and for
no others. -/
def Recorded (w : Workshop) : Prop :=
  ∀ kind, w.commissionsFor kind = (w.servers.visits kind).builds.reverse.map fun attempt =>
    ⟨kind, attempt, w.application.serverContext kind⟩

variable {w : Workshop}

theorem commissions_call (w : Workshop) (kind : TransportKind) :
    (∃ attempt,
      (w.servers.visits kind).enter.builds = attempt :: (w.servers.visits kind).builds ∧
        (w.call kind).1.commissions =
          w.commissions ++ [⟨kind, attempt, w.application.serverContext kind⟩]) ∨
      (w.servers.visits kind).enter.builds = (w.servers.visits kind).builds ∧
        (w.call kind).1.commissions = w.commissions := by
  simp only [call]
  rcases (w.servers.visits kind).builds_enter with ⟨attempt, starts, grown⟩ | ⟨idle, same⟩
  · refine .inl ⟨attempt, grown, ?_⟩
    simp only [starts]
  · refine .inr ⟨same, ?_⟩
    split
    · rename_i starts
      exact (idle _ starts).elim
    · exact List.append_nil _

theorem Recorded.call (recorded : Recorded w) (other : TransportKind) :
    Recorded (w.call other).1 := by
  intro kind
  have kept := recorded kind
  have seen : (w.call other).1.servers.visits kind =
      if other = kind then (w.servers.visits kind).enter else w.servers.visits kind :=
    ServerPair.visits_modify _ _ _
  unfold commissionsFor at kept ⊢
  rw [seen]
  by_cases own : other = kind
  · subst own
    rw [if_pos rfl]
    rcases commissions_call w other with ⟨attempt, grown, given⟩ | ⟨same, given⟩
    · rw [given, grown, List.filter_append, kept, List.reverse_cons, List.map_append]
      simp [Workshop.call]
    · rw [given, same, kept]
      rfl
  · rw [if_neg own]
    rcases commissions_call w other with ⟨attempt, -, given⟩ | ⟨-, given⟩
    · rw [given, List.filter_append, kept]
      simp [Workshop.call, own]
    · rw [given, kept]
      rfl

theorem Recorded.request (recorded : Recorded w) (named : Except Fault TransportKind) :
    Recorded (w.request named).1 := by
  cases named with
  | ok kind => exact recorded.call kind
  | error fault => exact recorded

theorem Recorded.step (recorded : Recorded w) (event : ServerPair.Event Nat) :
    Recorded (w.step event) := by
  -- Where no cell sees a call, each of them keeps its attempts on record.
  have answered (quiet : ∀ kind, event.at? kind ≠ some .enter) :
      Recorded { w with servers := w.servers.step event } := by
    intro kind
    have kept := recorded kind
    have seen := @ServerPair.visits_step Nat kind _ w.servers event
    unfold commissionsFor at kept ⊢
    rw [seen, kept]
    cases sees : event.at? kind with
    | none => rfl
    | some visit =>
      have stays : visit ≠ .enter := fun same => quiet kind (same ▸ sees)
      rw [Option.elim_some, Visits.builds_step stays]
  cases event with
  | call scheme | callUrl url => exact recorded.request _
  | finish other | resume other =>
    refine answered fun kind => ?_
    rw [ServerPair.Event.at?]
    split <;> simp
  | close => exact answered fun kind => (nomatch ·)

theorem recorded_run {events : List (ServerPair.Event Nat)} (recorded : Recorded w) :
    Recorded (w.run events) := by
  unfold run
  induction events generalizing w with
  | nil => exact recorded
  | cons event rest ih => exact ih (recorded.step event)

theorem Recorded.commissionsFor_step (recorded : Recorded w) {event : ServerPair.Event Nat}
    {kind : TransportKind} (unseen : event.at? kind = none) :
    (w.step event).servers.visits kind = w.servers.visits kind ∧
      (w.step event).commissionsFor kind = w.commissionsFor kind := by
  obtain ⟨application, servers⟩ := w.step_eq event
  have same : (w.step event).servers.visits kind = w.servers.visits kind := by
    rw [servers, ServerPair.visits_step, unseen, Option.elim_none]
  refine ⟨same, ?_⟩
  rw [recorded.step event kind, recorded kind, same, application]

/-! ### Requests that are refused -/

/-- Whether the request failed at once and left everything as it was. -/
def Refuses (w : Workshop) (asked : Workshop × Except AppFault (TransportKind × Nat)) : Prop :=
  ∃ fault, asked = (w, .error (.of fault)) ∧ fault.kind = .unexpectedConfiguration

theorem refuses_request {named : Except Fault TransportKind} (unnamed : ∀ kind, named ≠ .ok kind)
    (reason : ∀ fault, named = .error fault → fault.kind = .unexpectedConfiguration) :
    w.Refuses (w.request named) := by
  cases named with
  | ok kind => exact (unnamed kind rfl).elim
  | error fault => exact ⟨fault, rfl, reason fault rfl⟩

theorem refuses_serverFor {scheme : String} (unknown : ∀ kind : TransportKind, scheme ∉ kind.schemes) :
    w.Refuses (w.serverFor scheme) :=
  refuses_request (fun kind named => unknown kind (ServerPair.kindFor_eq_ok_iff.mp named))
    fun _ => ServerPair.kind_of_kindFor

theorem refuses_serverForUrl {url : String} (unknown : ∀ kind : TransportKind, ¬ kind.Serves url) :
    w.Refuses (w.serverForUrl url) :=
  refuses_request (fun kind named => unknown kind (ServerPair.kindForUrl_eq_ok_iff.mp named))
    fun _ => ServerPair.kind_of_kindForUrl

/-! ### Runs of an application -/

/-- What comes of an application by the steps of a run. -/
def after (application : Application) (events : List (ServerPair.Event Nat)) : Workshop :=
  run { application } events

/-- What comes of a cell of its own, by what the cell of the transport sees of a run. -/
def alone (kind : TransportKind) (events : List (ServerPair.Event Nat)) : Visits Nat :=
  .run {} (events.filterMap (·.at? kind))

/-- In every run each cell of an application is as it would be alone, with the same steps possible
and the same answers, and is commissioned for the attempts that it starts there. A step that the
cell does not see changes neither. A request by a scheme of a transport comes to its cell, and one that names no
transport is refused. -/
theorem runs_as_cells (application : Application) (events : List (ServerPair.Event Nat)) :
    (∀ kind,
      (after application events).servers.visits kind = alone kind events ∧
      (∀ caller, (after application events).answer? kind caller =
        (alone kind events).reply? kind caller) ∧
      (after application events).commissionsFor kind =
        (alone kind events).builds.reverse.map fun attempt =>
          ⟨kind, attempt, application.serverContext kind⟩) ∧
    (ServerPair.Admits {} events ↔
      ∀ kind, Visits.Admits {} (events.filterMap (ServerPair.Event.at? kind))) ∧
    (∀ event kind, event.at? kind = none →
      ((after application events).step event).servers.visits kind = alone kind events ∧
      ((after application events).step event).commissionsFor kind =
        (after application events).commissionsFor kind) ∧
    (∀ kind,
      (∀ scheme ∈ kind.schemes, ((after application events).serverFor scheme).2 =
        .ok (kind, (alone kind events).callers)) ∧
      ∀ url, kind.Serves url → ((after application events).serverForUrl url).2 =
        .ok (kind, (alone kind events).callers)) ∧
    (∀ scheme, (∀ kind : TransportKind, scheme ∉ kind.schemes) →
      (after application events).Refuses ((after application events).serverFor scheme)) ∧
    ∀ url, (¬ "://".toList <:+: url.toList ∨ ∀ kind : TransportKind, ¬ kind.Serves url) →
      (after application events).Refuses ((after application events).serverForUrl url) := by
  have cell (kind : TransportKind) :
      (after application events).servers.visits kind = alone kind events := by
    unfold after alone
    rw [(run_eq _ _).2, ServerPair.visits_run]
    cases kind <;> rfl
  have empty : Recorded { application } := fun kind => by cases kind <;> rfl
  have recorded : Recorded (after application events) := recorded_run empty
  have served {kind : TransportKind} {named : Except Fault TransportKind} (own : named = .ok kind) :
      ((after application events).request named).2 = .ok (kind, (alone kind events).callers) := by
    rw [own, ← cell kind]
    rfl
  refine ⟨fun kind => ⟨cell kind, fun caller => ?_, ?_⟩, ?_, fun event kind unseen => ?_, fun kind => ⟨?_, ?_⟩,
    fun scheme unknown => refuses_serverFor unknown, ?_⟩
  · rw [answer?, cell kind]
  · rw [recorded kind, cell kind, after, (run_eq _ _).1]
  · rw [ServerPair.admits_iff]
    exact forall_congr' fun kind => by cases kind <;> rfl
  · rw [← cell kind]
    exact recorded.commissionsFor_step unseen
  · intro scheme own
    exact served (ServerPair.kindFor_eq_ok_iff.mpr own)
  · intro url own
    exact served (ServerPair.kindForUrl_eq_ok_iff.mpr own)
  · rintro url (unmarked | unknown)
    · exact refuses_serverForUrl fun kind serves => unmarked serves.marked
    · exact refuses_serverForUrl unknown

/-- Two callers, one by `http` and one by an `https` URL, share one attempt, and a caller by an
`opc.tcp` URL starts another. Requests by `ftp` and by an address without a scheme are refused. -/
theorem runs_as_cells_of_three_callers :
    let application : Application := .fresh ⟨.epoch, "plant", "urn:plant", .ofList []⟩
    let events : List (ServerPair.Event Nat) :=
      [.call "http", .callUrl "opc.tcp://plant:4840", .callUrl "https://plant:4843",
        .finish .https 0 (.ok 7), .resume .https 1, .close]
    ServerPair.Admits {} events ∧
      (after application events).answer? .https 1 = some (.ok 7) ∧
      (after application events).commissionsFor .opcTcp =
        [⟨.opcTcp, 0, application.serverContext .opcTcp⟩] ∧
      ((after application events).step (.call "http")).servers.visits .opcTcp =
        alone .opcTcp events ∧
      ((after application events).serverForUrl "https://plant").2 = .ok (.https, 2) ∧
      (after application events).Refuses ((after application events).serverFor "ftp") ∧
      (after application events).Refuses ((after application events).serverForUrl "plant:4840") := by
  intro application events
  obtain ⟨cells, admits, frame, served, unknown, unnamed⟩ := runs_as_cells application events
  refine ⟨admits.mpr fun kind => ?_, ?_, ?_, ?_, ?_, ?_, ?_⟩
  · cases kind with
    | opcTcp => exact ⟨trivial, trivial, trivial⟩
    | https =>
      exact ⟨trivial, trivial, ⟨by decide, rfl, fun _ _ _ => (nomatch ·)⟩, ⟨0, _, rfl, rfl⟩, trivial,
        trivial⟩
  · rw [(cells .https).2.1]
    rfl
  · rw [(cells .opcTcp).2.2]
    rfl
  · exact (frame (.call "http") .opcTcp rfl).1
  · exact (served .https).2 "https://plant" (by decide)
  · exact unknown "ftp" fun kind => by cases kind <;> decide
  · exact unnamed "plant:4840" (.inl (Text.cutAt?_eq_none_iff.mp rfl))

end Workshop

end OpcUa
