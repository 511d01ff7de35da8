import Mathlib.Algebra.Order.Group.Defs
import Mathlib.Algebra.Order.Group.Int
import Mathlib.Algebra.Order.Group.Unbundled.Basic
import QuantEngine.Library.Coroutine
import QuantEngine.Library.Deque
import QuantEngine.Library.Dict

set_option autoImplicit false

namespace QuantEngine.Monitoring

inductive ComponentStatus where
  | ok
  | frozen
  | restarting
  | exhausted
deriving DecidableEq

-- Restart callbacks are any, and so are the seconds of `time.monotonic`.
variable {C K : Type}

structure WatchdogSettings (K : Type) where
  defaultHeartbeatTimeoutSeconds : K
  maxRestarts : Int
  errorThreshold : Int
  errorWindowSeconds : K

structure Component (C K : Type) where
  name : String
  heartbeatTimeout : K
  restart : Option C
  maxRestarts : Int
  errorThreshold : Int
  errorWindow : K
  lastHeartbeat : K
  status : ComponentStatus := .ok
  restartCount : Nat := 0
  errorTimes : List K := []

inductive RestartAction where
  | none
  | exhausted
  | restartFailed
  | restarted
deriving DecidableEq

structure ModuleFrozen (K : Type) where
  source : String
  module : String
  secondsSinceHeartbeat : K
  action : RestartAction

-- `restarts`, `incidents` and `abandoned` are ghosts: the callbacks called, what
-- was published, and the components whose restart was cancelled under way.
structure Watchdog (C K : Type) where
  settings : WatchdogSettings K
  components : Dict String (Component C K)
  clock : K
  restarts : List String := []
  incidents : List (ModuleFrozen K) := []
  abandoned : List String := []

def started (settings : WatchdogSettings K) (clock : K) : Watchdog C K where
  settings := settings
  components := .empty
  clock := clock

inductive WatchdogError where
  | registered (name : String)
  | unknown (name : String)
deriving DecidableEq

def WatchdogError.message : WatchdogError → String
  | .registered name => s!"Component '{name}' already registered"
  | .unknown name => s!"Unknown component '{name}'"

structure Registration (C K : Type) where
  name : String
  heartbeatTimeoutSeconds : Option K := none
  restartCallback : Option C := none
  maxRestarts : Option Int := none
  errorThreshold : Option Int := none
  errorWindowSeconds : Option K := none

-- `value or default`, which passes over a zero too.
def orDefault [Zero K] [DecidableEq K] (value : Option K) (default : K) : K :=
  match value with
  | some value => if value = 0 then default else value
  | none => default

def Registration.component [Zero K] [DecidableEq K] (registration : Registration C K) (settings : WatchdogSettings K)
    (clock : K) : Component C K where
  name := registration.name
  heartbeatTimeout := orDefault registration.heartbeatTimeoutSeconds settings.defaultHeartbeatTimeoutSeconds
  restart := registration.restartCallback
  maxRestarts := registration.maxRestarts.getD settings.maxRestarts
  errorThreshold := registration.errorThreshold.getD settings.errorThreshold
  errorWindow := orDefault registration.errorWindowSeconds settings.errorWindowSeconds
  lastHeartbeat := clock

namespace Watchdog

def register [Zero K] [DecidableEq K] (registration : Registration C K) (watchdog : Watchdog C K) :
    Except WatchdogError (Watchdog C K) :=
  if registration.name ∈ watchdog.components.keys then .error (.registered registration.name)
  else .ok { watchdog with
    components := watchdog.components.insert registration.name (registration.component watchdog.settings watchdog.clock) }

def change (name : String) (f : Component C K → Component C K) (watchdog : Watchdog C K) : Watchdog C K :=
  { watchdog with components := watchdog.components.modify name f }

def setStatus (name : String) (status : ComponentStatus) : Watchdog C K → Watchdog C K :=
  change name (fun component => { component with status := status })

def beat (clock : K) (component : Component C K) : Component C K :=
  { component with
    lastHeartbeat := clock
    status := if component.status = .frozen then .ok else component.status }

def heartbeat (name : String) (watchdog : Watchdog C K) : Except WatchdogError (Watchdog C K) :=
  match watchdog.components.lookup name with
  | none => .error (.unknown name)
  | some _ => .ok (watchdog.change name (beat watchdog.clock))

section

variable [AddCommGroup K] [LinearOrder K]

def recentErrors (now : K) (component : Component C K) : Nat :=
  ((Deque.push 100 component.errorTimes now).filter (fun time => decide (now - time ≤ component.errorWindow))).length

-- The threshold is reached: it is logged, and the errors are forgotten.
def alerts (now : K) (component : Component C K) : Bool := decide (component.errorThreshold ≤ recentErrors now component)

def recordError (now : K) (component : Component C K) : Component C K :=
  { component with errorTimes := if alerts now component then [] else Deque.push 100 component.errorTimes now }

def reportError (name : String) (watchdog : Watchdog C K) : Watchdog C K :=
  match watchdog.components.lookup name with
  | none => watchdog
  | some _ => watchdog.change name (recordError watchdog.clock)

end

def componentStatuses (watchdog : Watchdog C K) : Dict String ComponentStatus :=
  watchdog.components.mapValues Component.status

def beginRestart (name : String) (watchdog : Watchdog C K) : Watchdog C K :=
  { watchdog.change name (fun component =>
      { component with status := .restarting, restartCount := component.restartCount + 1 }) with
    restarts := watchdog.restarts ++ [name] }

def restarted (name : String) (watchdog : Watchdog C K) : Watchdog C K :=
  watchdog.change name (fun component => { component with lastHeartbeat := watchdog.clock, status := .ok })

def abandon (name : String) (watchdog : Watchdog C K) : Watchdog C K :=
  { watchdog with abandoned := name :: watchdog.abandoned }

-- `round1` is `round(silence, 1)`.
def announce (round1 : K → K) (name : String) (silence : K) (action : RestartAction) (watchdog : Watchdog C K) : Watchdog C K :=
  { watchdog with incidents := watchdog.incidents ++ [⟨"watchdog", name, round1 silence, action⟩] }

end Watchdog

open Watchdog

-- What a scan waits for, and how that ends. A cancellation is no `Exception`.
inductive Point where
  | restart (name : String)
  | publish
deriving DecidableEq

inductive Outcome where
  | returned
  | raised
  | cancelled
deriving DecidableEq

abbrev Scan (C K α : Type) := Task (Watchdog C K) Point Outcome α

def tryRestart (name : String) : Scan C K RestartAction := do
  let watchdog ← Task.get
  match watchdog.components.lookup name with
  | none => pure .none
  | some component =>
      match component.restart with
      | none => pure .none
      | some _ =>
          if component.maxRestarts ≤ component.restartCount then do
            Task.modify (setStatus name .exhausted)
            pure .exhausted
          else do
            Task.modify (beginRestart name)
            match ← Task.suspend (.restart name) with
            | .cancelled => do
                Task.modify (abandon name)
                Task.raise
            | .raised => do
                Task.modify (setStatus name .frozen)
                pure .restartFailed
            | .returned => do
                Task.modify (Watchdog.restarted name)
                pure .restarted

def publishFrozen (round1 : K → K) (name : String) (silence : K) (action : RestartAction) : Scan C K Unit := do
  Task.modify (announce round1 name silence action)
  match ← Task.suspend .publish with
  | .cancelled => Task.raise
  | _ => pure ()

section

variable [AddCommGroup K] [LinearOrder K]

-- The body of the loop of `_scan`.
def attend (round1 : K → K) (now : K) (name : String) : Scan C K Unit := do
  let watchdog ← Task.get
  match watchdog.components.lookup name with
  | none => pure ()
  | some component =>
      if component.status = .restarting ∨ component.status = .exhausted then pure ()
      else if now - component.lastHeartbeat ≤ component.heartbeatTimeout then pure ()
      else do
        Task.modify (setStatus name .frozen)
        let action ← tryRestart name
        publishFrozen round1 name (now - component.lastHeartbeat) action

-- The iterator over the dictionary raises once this has grown; nothing is ever
-- taken out of it.
def visit (round1 : K → K) (size : Nat) (now : K) : List String → Scan C K Unit
  | [] => do
      let watchdog ← Task.get
      if watchdog.components.size = size then pure () else Task.raise
  | name :: rest => do
      let watchdog ← Task.get
      if watchdog.components.size = size then do
        attend round1 now name
        visit round1 size now rest
      else Task.raise

def scan (round1 : K → K) : Scan C K Unit := do
  let watchdog ← Task.get
  visit round1 watchdog.components.size watchdog.clock watchdog.components.keys

-- What goes on beside the scans. The clock never goes back, and a call that
-- raises leaves the watchdog as it is.
inductive Change (C K : Type) where
  | advance (clock : K)
  | register (registration : Registration C K)
  | heartbeat (name : String)
  | reportError (name : String)

def disturb (watchdog : Watchdog C K) : Change C K → Watchdog C K
  | .advance clock => { watchdog with clock := max watchdog.clock clock }
  | .register registration => (watchdog.register registration).toOption.getD watchdog
  | .heartbeat name => (watchdog.heartbeat name).toOption.getD watchdog
  | .reportError name => watchdog.reportError name

abbrev Step (C K : Type) := Action Unit Outcome (Change C K)

-- Any number of check loops, each a scan at a time.
def step (round1 : K → K) : Pool (Watchdog C K) Point Outcome → Step C K → Pool (Watchdog C K) Point Outcome :=
  Pool.step (fun _ => scan round1) (fun change watchdog => disturb watchdog change)

end

-- The same list of components, one of them another.
structure Revised (name : String) (component : Component C K) (before after : Watchdog C K) : Prop where
  clock : after.clock = before.clock
  keys : after.components.keys = before.components.keys
  here : after.components.lookup name = some component
  elsewhere : ∀ other, other ≠ name → after.components.lookup other = before.components.lookup other

theorem change_revised (name : String) (f : Component C K → Component C K) (component : Component C K)
    (watchdog : Watchdog C K) (found : watchdog.components.lookup name = some component) :
    Revised name (f component) watchdog (watchdog.change name f) where
  clock := rfl
  keys := Dict.keys_modify watchdog.components name f
  here := Dict.lookup_modify_here watchdog.components name f component found
  elsewhere other apart := Dict.lookup_modify_other watchdog.components name other f apart

theorem revised_trans (name : String) (first second : Component C K) (a b c : Watchdog C K) (before : Revised name first a b)
    (after : Revised name second b c) : Revised name second a c where
  clock := after.clock.trans before.clock
  keys := after.keys.trans before.keys
  here := after.here
  elsewhere other apart := (after.elsewhere other apart).trans (before.elsewhere other apart)

-- What becomes of a frozen component. `clock` is the time when its restart is over.
def tried (clock : K) (outcome : Outcome) (component : Component C K) : Component C K × RestartAction :=
  match component.restart with
  | none => (component, .none)
  | some _ =>
      if component.maxRestarts ≤ component.restartCount then ({ component with status := .exhausted }, .exhausted)
      else if outcome = .returned then
        ({ component with status := .ok, restartCount := component.restartCount + 1, lastHeartbeat := clock }, .restarted)
      else ({ component with status := .frozen, restartCount := component.restartCount + 1 }, .restartFailed)

section

variable (round1 : K → K) (answer : Point → Outcome) (runs : ∀ point, answer point ≠ .cancelled)

include runs

theorem try_restart_quiet (name : String) (watchdog : Watchdog C K) (component : Component C K)
    (found : watchdog.components.lookup name = some component) :
    (tryRestart name watchdog).Meets (Co.Undisturbed answer) (fun action later =>
      Revised name (tried watchdog.clock (answer (.restart name)) component).1 watchdog later ∧
        later.incidents = watchdog.incidents ∧ action = (tried watchdog.clock (answer (.restart name)) component).2) := by
  rw [tryRestart, Task.meets_seq, Task.meets_get]
  simp only [found]
  cases callback : component.restart with
  | none =>
      have verdict : tried watchdog.clock (answer (.restart name)) component = (component, .none) := by simp [tried, callback]
      rw [verdict]
      exact ⟨⟨rfl, rfl, found, fun _ _ => rfl⟩, rfl, rfl⟩
  | some _ =>
      dsimp only
      by_cases spent : component.maxRestarts ≤ component.restartCount
      · have verdict : tried watchdog.clock (answer (.restart name)) component =
            ({ component with status := .exhausted }, .exhausted) := by simp [tried, callback, spent]
        rw [if_pos spent, Task.meets_seq, Task.meets_modify, verdict]
        exact ⟨change_revised name (fun component => { component with status := .exhausted }) component watchdog found, rfl, rfl⟩
      · rw [if_neg spent, Task.meets_seq, Task.meets_modify, Task.meets_seq, Task.meets_suspend]
        refine ⟨trivial, ?_⟩
        rintro later input ⟨rfl, rfl⟩
        have first := change_revised name (fun component =>
          { component with status := .restarting, restartCount := component.restartCount + 1 }) component watchdog found
        have begun : Revised name _ watchdog (watchdog.beginRestart name) :=
          ⟨first.clock, first.keys, first.here, first.elsewhere⟩
        have calm := runs (.restart name)
        cases ends : answer (.restart name) with
        | cancelled => exact absurd ends calm
        | raised =>
            have verdict : tried watchdog.clock .raised component =
                ({ component with status := .frozen, restartCount := component.restartCount + 1 }, .restartFailed) := by
              simp [tried, callback, spent]
            rw [verdict]
            exact ⟨revised_trans name _ _ _ _ _ begun
              (change_revised name (fun component => { component with status := .frozen }) _ _ begun.here), rfl, rfl⟩
        | returned =>
            have verdict : tried watchdog.clock .returned component =
                ({ component with status := .ok, restartCount := component.restartCount + 1, lastHeartbeat := watchdog.clock },
                  .restarted) := by
              simp [tried, callback, spent]
            rw [verdict]
            exact ⟨revised_trans name _ _ _ _ _ begun
              (change_revised name (fun component => { component with lastHeartbeat := watchdog.clock, status := .ok }) _ _ begun.here),
              rfl, rfl⟩

theorem publish_quiet (name : String) (silence : K) (action : RestartAction) (watchdog : Watchdog C K) :
    (publishFrozen round1 name silence action watchdog).Meets (Co.Undisturbed answer)
      (fun _ later => later = watchdog.announce round1 name silence action) := by
  rw [publishFrozen, Task.meets_seq, Task.meets_modify, Task.meets_seq, Task.meets_suspend]
  refine ⟨trivial, ?_⟩
  rintro later input ⟨rfl, rfl⟩
  have calm := runs .publish
  cases ends : answer .publish with
  | cancelled => exact absurd ends calm
  | raised => rfl
  | returned => rfl

end

section

variable [AddCommGroup K] [LinearOrder K]

-- What becomes of a component in a scan that nothing comes between, and what is
-- published about it.
def judged (now clock : K) (outcome : Outcome) (component : Component C K) : Component C K × Option RestartAction :=
  if component.status = .restarting ∨ component.status = .exhausted then (component, none)
  else if now - component.lastHeartbeat ≤ component.heartbeatTimeout then (component, none)
  else
    let tried := tried clock outcome { component with status := .frozen }
    (tried.1, some tried.2)

def reported (round1 : K → K) (now clock : K) (answer : Point → Outcome) (entry : String × Component C K) : Option (ModuleFrozen K) :=
  (judged now clock (answer (.restart entry.1)) entry.2).2.map (fun action =>
    ⟨"watchdog", entry.1, round1 (now - entry.2.lastHeartbeat), action⟩)

variable (round1 : K → K) (answer : Point → Outcome) (runs : ∀ point, answer point ≠ .cancelled)

include runs

theorem attend_quiet (now : K) (name : String) (watchdog : Watchdog C K) (component : Component C K)
    (found : watchdog.components.lookup name = some component) :
    (attend round1 now name watchdog).Meets (Co.Undisturbed answer) (fun _ later =>
      Revised name (judged now watchdog.clock (answer (.restart name)) component).1 watchdog later ∧
        later.incidents = watchdog.incidents ++ (reported round1 now watchdog.clock answer (name, component)).toList) := by
  rw [attend, Task.meets_seq, Task.meets_get]
  simp only [found]
  by_cases skipped : component.status = .restarting ∨ component.status = .exhausted
  · rw [if_pos skipped, reported, judged, if_pos skipped]
    exact ⟨⟨rfl, rfl, found, fun _ _ => rfl⟩, (List.append_nil _).symm⟩
  · by_cases alive : now - component.lastHeartbeat ≤ component.heartbeatTimeout
    · rw [if_neg skipped, if_pos alive, reported, judged, if_neg skipped, if_pos alive]
      exact ⟨⟨rfl, rfl, found, fun _ _ => rfl⟩, (List.append_nil _).symm⟩
    · rw [if_neg skipped, if_neg alive, reported, judged, if_neg skipped, if_neg alive, Task.meets_seq, Task.meets_modify,
        Task.meets_seq]
      have frozen := change_revised name (fun component => { component with status := .frozen }) component watchdog found
      apply Co.meets_mono _ _ _ _ _ (try_restart_quiet answer runs name (watchdog.setStatus name .frozen) _ frozen.here)
      rintro action later ⟨revised, told, rfl⟩
      apply Co.meets_mono _ _ _ _ _ (publish_quiet round1 answer runs name _ _ later)
      rintro - after rfl
      have both := revised_trans name _ _ _ _ _ frozen revised
      exact ⟨⟨both.clock, both.keys, both.here, both.elsewhere⟩, congrArg (· ++ _) told⟩

theorem visit_quiet (size : Nat) (now : K) (entries : List (String × Component C K)) (watchdog : Watchdog C K)
    (same : watchdog.components.size = size) (distinct : (entries.map Prod.fst).Nodup)
    (found : ∀ entry ∈ entries, watchdog.components.lookup entry.1 = some entry.2) :
    (visit round1 size now (entries.map Prod.fst) watchdog).Meets (Co.Undisturbed answer) (fun _ after =>
      after.components.keys = watchdog.components.keys ∧
        (∀ entry ∈ entries, after.components.lookup entry.1 =
          some (judged now watchdog.clock (answer (.restart entry.1)) entry.2).1) ∧
        (∀ other, other ∉ entries.map Prod.fst → after.components.lookup other = watchdog.components.lookup other) ∧
        after.incidents = watchdog.incidents ++ entries.filterMap (reported round1 now watchdog.clock answer)) := by
  induction entries generalizing watchdog with
  | nil =>
      rw [List.map_nil, visit, Task.meets_seq, Task.meets_get, if_pos same]
      exact ⟨rfl, List.forall_mem_nil _, fun _ _ => rfl, (List.append_nil _).symm⟩
  | cons entry rest ih =>
      obtain ⟨name, component⟩ := entry
      obtain ⟨apart, distinct⟩ := List.nodup_cons.mp distinct
      have here := found (name, component) List.mem_cons_self
      rw [List.map_cons, visit, Task.meets_seq, Task.meets_get, if_pos same, Task.meets_seq]
      apply Co.meets_mono _ _ _ _ _ (attend_quiet round1 answer runs now name watchdog component here)
      rintro - later ⟨revised, incidents⟩
      have sized : later.components.size = size := by
        rw [← same, Dict.size, Dict.size, ← List.length_map Prod.fst, ← List.length_map Prod.fst]
        exact congrArg List.length revised.keys
      have others : ∀ entry ∈ rest, entry.1 ≠ name := by
        intro entry member equal
        have inside : entry.1 ∈ rest.map Prod.fst := List.mem_map_of_mem member
        rw [equal] at inside
        exact apart inside
      apply Co.meets_mono _ _ _ _ _ (ih later sized distinct (fun entry member =>
        (revised.elsewhere entry.1 (others entry member)).trans (found entry (List.mem_cons_of_mem _ member))))
      rintro - after ⟨keys, judgements, untouched, reports⟩
      refine ⟨keys.trans revised.keys, ?_, ?_, ?_⟩
      · intro entry member
        cases List.mem_cons.mp member with
        | inl equal =>
            cases equal
            exact (untouched name apart).trans revised.here
        | inr later_ =>
            rw [← revised.clock]
            exact judgements entry later_
      · intro other outside
        obtain ⟨different, further⟩ := not_or.mp (fun inside => outside (List.mem_cons.mpr inside))
        exact (untouched other further).trans (revised.elsewhere other different)
      · rw [reports, incidents, revised.clock, List.append_assoc]
        cases said : reported round1 now watchdog.clock answer (name, component) with
        | none => rw [List.filterMap_cons_none said]; rfl
        | some incident => rw [List.filterMap_cons_some said]; rfl

omit runs

-- A scan that nothing comes between judges each component once, on its own.
theorem scan_componentwise (round1 : K → K) (answer : Point → Outcome) (runs : ∀ point, answer point ≠ .cancelled)
    (watchdog : Watchdog C K) :
    let after := (scan round1 watchdog).finish answer
    after.components.keys = watchdog.components.keys ∧
      (∀ name component, watchdog.components.lookup name = some component → after.components.lookup name =
        some (judged watchdog.clock watchdog.clock (answer (.restart name)) component).1) ∧
      after.incidents = watchdog.incidents ++
        watchdog.components.entries.filterMap (reported round1 watchdog.clock watchdog.clock answer) := by
  obtain ⟨keys, judgements, _, reports⟩ := Co.meets_undisturbed answer _ _ (visit_quiet round1 answer runs
    watchdog.components.size watchdog.clock watchdog.components.entries watchdog rfl watchdog.components.unique
    (fun entry member => Dict.lookup_of_mem watchdog.components entry.1 entry.2 member))
  exact ⟨keys, fun name component found => judgements (name, component) (Dict.lookup_mem _ name component found), reports⟩

theorem scan_componentwise_feed :
    let watchdog : Watchdog Unit Int := { (started ⟨60, 3, 5, 60⟩ 100 : Watchdog Unit Int) with
      components := Dict.empty.insert "feed" ⟨"feed", 60, some (), 3, 5, 60, 0, .ok, 0, []⟩ }
    let answer : Point → Outcome := fun _ => .raised
    let after := (scan id watchdog).finish answer
    after.components.keys = watchdog.components.keys ∧
      (∀ name component, watchdog.components.lookup name = some component → after.components.lookup name =
        some (judged watchdog.clock watchdog.clock (answer (.restart name)) component).1) ∧
      after.incidents = watchdog.incidents ++
        watchdog.components.entries.filterMap (reported id watchdog.clock watchdog.clock answer) := by
  intro watchdog answer
  have runs : ∀ point, answer point ≠ .cancelled := by
    intro point
    simp [answer]
  exact scan_componentwise id answer runs watchdog

-- What is logged at each of the errors of a component.
def alertsOf : Component C K → List K → List Bool
  | _, [] => []
  | component, now :: rest => alerts now component :: alertsOf (recordError now component) rest

-- The same with every error since the last alert remembered.
def alarms (threshold : Int) (window : K) : List K → List K → List Bool
  | _, [] => []
  | since, now :: rest =>
      let all := since ++ [now]
      let rings := decide (threshold ≤ ((all.filter (fun time => decide (now - time ≤ window))).length : Int))
      rings :: alarms threshold window (if rings then [] else all) rest

variable [IsOrderedAddMonoid K]

theorem recent_errors_eq (now : K) (component : Component C K) (since : List K) (newest : component.errorTimes = Deque.newest 100 since)
    (ordered : (since ++ [now]).Pairwise (· ≤ ·)) : recentErrors now component =
      min 100 ((since ++ [now]).filter (fun time => decide (now - time ≤ component.errorWindow))).length := by
  rw [recentErrors, Deque.push, newest, Deque.newest_append_newest, Deque.newest_filter_length]
  apply ordered.imp
  intro a b below recent
  exact decide_eq_true ((sub_le_sub_left below now).trans (of_decide_eq_true recent))

theorem alerts_since (times : List K) (component : Component C K) (since : List K)
    (newest : component.errorTimes = Deque.newest 100 since) (ordered : (since ++ times).Pairwise (· ≤ ·)) :
    alertsOf component times = if component.errorThreshold ≤ 100
      then alarms component.errorThreshold component.errorWindow since times else times.map (fun _ => false) := by
  induction times generalizing component since with
  | nil => simp [alertsOf, alarms]
  | cons now rest ih =>
      rw [List.append_cons] at ordered
      have recent := recent_errors_eq now component since newest (List.pairwise_append.mp ordered).1
      have next := ih (recordError now component)
      by_cases small : component.errorThreshold ≤ 100
      · have same : alerts now component = decide (component.errorThreshold ≤
            (((since ++ [now]).filter (fun time => decide (now - time ≤ component.errorWindow))).length : Int)) := by
          rw [alerts, recent]
          apply decide_eq_decide.mpr
          omega
        rw [if_pos small, alertsOf, alarms, ← same]
        cases rung : alerts now component with
        | true =>
            rw [next [] (by simp [recordError, rung, Deque.newest]) ((List.pairwise_append.mp ordered).2.1)]
            simp [recordError, small]
        | false =>
            rw [next (since ++ [now]) (by simp [recordError, rung, Deque.push, newest, Deque.newest_append_newest]) ordered]
            simp [recordError, small]
      · have silent : alerts now component = false := by
          rw [alerts, recent]
          apply decide_eq_false
          omega
        rw [if_neg small, alertsOf, silent,
          next (since ++ [now]) (by simp [recordError, silent, Deque.push, newest, Deque.newest_append_newest]) ordered]
        simp [recordError, small]

-- The errors forgotten for want of room never change an alert; a threshold that
-- does not fit is never reached.
theorem alerts_exact (component : Component C K) (fresh : component.errorTimes = []) (times : List K)
    (ordered : times.Pairwise (· ≤ ·)) : alertsOf component times = if component.errorThreshold ≤ 100
      then alarms component.errorThreshold component.errorWindow [] times else times.map (fun _ => false) :=
  alerts_since times component [] (by simp [fresh, Deque.newest]) ordered

theorem alerts_exact_second : let component : Component Unit Int := ⟨"feed", 60, none, 3, 2, 10, 0, .ok, 0, []⟩
    alertsOf component [0, 5, 100] = if component.errorThreshold ≤ 100
      then alarms component.errorThreshold component.errorWindow [] [0, 5, 100] else [0, 5, 100].map (fun _ => false) :=
  alerts_exact ⟨"feed", 60, none, 3, 2, 10, 0, .ok, 0, []⟩ rfl [0, 5, 100] (by decide)

end

end QuantEngine.Monitoring
