import QuantEngine.Monitoring.Watchdog

set_option autoImplicit false

namespace QuantEngine.Monitoring

open Watchdog

variable {C K : Type}

-- What is known of one component: `underway` counts the scans that wait for its
-- restart.
structure SoundAt (component : Component C K) (restarts underway : Nat) (abandoned : Prop) : Prop where
  counted : component.restartCount = restarts
  budget : component.restartCount = 0 ∨ (component.restartCount : Int) ≤ component.maxRestarts
  spent : component.status = .exhausted → component.maxRestarts ≤ component.restartCount
  single : underway ≤ 1
  restarting : component.status = .restarting ↔ underway = 1 ∨ abandoned
  apart : abandoned → underway = 0

structure Unknown (restarts underway : Nat) (abandoned : Prop) : Prop where
  never : restarts = 0
  idle : underway = 0
  kept : ¬abandoned

def SoundFor (name : String) (watchdog : Watchdog C K) (waiting : List Point) : Prop :=
  match watchdog.components.lookup name with
  | none => Unknown (watchdog.restarts.count name) (waiting.count (.restart name)) (name ∈ watchdog.abandoned)
  | some component =>
      SoundAt component (watchdog.restarts.count name) (waiting.count (.restart name)) (name ∈ watchdog.abandoned)

def Sound (watchdog : Watchdog C K) (waiting : List Point) : Prop := ∀ name, SoundFor name watchdog waiting

-- All that concerns one component.
def incidentsOf (name : String) (watchdog : Watchdog C K) : List (ModuleFrozen K) :=
  watchdog.incidents.filter (fun incident => decide (incident.module = name))

def statusOf (name : String) (watchdog : Watchdog C K) : Option ComponentStatus :=
  (watchdog.components.lookup name).map Component.status

def GivenUp (name : String) (watchdog : Watchdog C K) : Prop :=
  name ∈ watchdog.abandoned ∨ statusOf name watchdog = some .exhausted

-- A component that was given up stays as it is.
structure Left (name : String) (before after : Watchdog C K) : Prop where
  status : statusOf name after = statusOf name before
  restarts : after.restarts.count name = before.restarts.count name
  incidents : incidentsOf name after = incidentsOf name before
  abandoned : name ∈ before.abandoned → name ∈ after.abandoned

def Leaves (before after : Watchdog C K) : Prop := ∀ name, GivenUp name before → Left name before after

theorem leaves_refl (watchdog : Watchdog C K) : Leaves watchdog watchdog := fun _ _ => ⟨rfl, rfl, rfl, id⟩

theorem left_given_up (name : String) (before after : Watchdog C K) (left : Left name before after)
    (given : GivenUp name before) : GivenUp name after := by
  cases given with
  | inl abandoned => exact .inl (left.abandoned abandoned)
  | inr exhausted => exact .inr (left.status.trans exhausted)

theorem leaves_trans (a b c : Watchdog C K) (first : Leaves a b) (second : Leaves b c) : Leaves a c := by
  intro name given
  have left := first name given
  have later := second name (left_given_up name a b left given)
  exact ⟨later.status.trans left.status, later.restarts.trans left.restarts, later.incidents.trans left.incidents,
    fun abandoned => later.abandoned (left.abandoned abandoned)⟩

-- A stretch that concerns one component only.
structure Elsewhere (name : String) (before after : Watchdog C K) : Prop where
  component : ∀ other, other ≠ name → after.components.lookup other = before.components.lookup other
  restarts : ∀ other, other ≠ name → after.restarts.count other = before.restarts.count other
  incidents : ∀ other, other ≠ name → incidentsOf other after = incidentsOf other before
  abandoned : ∀ other, other ≠ name → (other ∈ after.abandoned ↔ other ∈ before.abandoned)

theorem elsewhere_trans (name : String) (a b c : Watchdog C K) (first : Elsewhere name a b) (second : Elsewhere name b c) :
    Elsewhere name a c where
  component other apart := (second.component other apart).trans (first.component other apart)
  restarts other apart := (second.restarts other apart).trans (first.restarts other apart)
  incidents other apart := (second.incidents other apart).trans (first.incidents other apart)
  abandoned other apart := (second.abandoned other apart).trans (first.abandoned other apart)

theorem elsewhere_left (name other : String) (before after : Watchdog C K) (elsewhere : Elsewhere name before after)
    (apart : other ≠ name) : Left other before after where
  status := congrArg (Option.map Component.status) (elsewhere.component other apart)
  restarts := elsewhere.restarts other apart
  incidents := elsewhere.incidents other apart
  abandoned := (elsewhere.abandoned other apart).mpr

theorem leaves_of_elsewhere (name : String) (before after : Watchdog C K) (elsewhere : Elsewhere name before after)
    (here : GivenUp name before → Left name before after) : Leaves before after := by
  intro other given
  by_cases same : other = name
  · subst same
    exact here given
  · exact elsewhere_left name other before after elsewhere same

theorem sound_of_elsewhere (name : String) (before after : Watchdog C K) (waiting later : List Point)
    (elsewhere : Elsewhere name before after)
    (points : ∀ other, other ≠ name → later.count (.restart other) = waiting.count (.restart other))
    (here : SoundFor name after later) (sound : Sound before waiting) : Sound after later := by
  intro other
  by_cases same : other = name
  · subst same
    exact here
  · have kept := sound other
    rw [SoundFor, ← elsewhere.component other same, ← elsewhere.restarts other same, ← points other same] at kept
    simp only [← elsewhere.abandoned other same] at kept
    exact kept

theorem change_elsewhere (name : String) (f : Component C K → Component C K) (watchdog : Watchdog C K) :
    Elsewhere name watchdog (watchdog.change name f) where
  component other apart := Dict.lookup_modify_other watchdog.components name other f apart
  restarts _ _ := rfl
  incidents _ _ := rfl
  abandoned _ _ := Iff.rfl

theorem begin_elsewhere (name : String) (watchdog : Watchdog C K) : Elsewhere name watchdog (watchdog.beginRestart name) where
  component other apart := Dict.lookup_modify_other watchdog.components name other _ apart
  restarts other apart := by simp [beginRestart, change, List.count_append, apart.symm]
  incidents _ _ := rfl
  abandoned _ _ := Iff.rfl

theorem announce_elsewhere (round1 : K → K) (name : String) (silence : K) (action : RestartAction) (watchdog : Watchdog C K) :
    Elsewhere name watchdog (watchdog.announce round1 name silence action) where
  component _ _ := rfl
  restarts _ _ := rfl
  incidents other apart := by simp [incidentsOf, announce, List.filter_append, apart.symm]
  abandoned _ _ := Iff.rfl

theorem abandon_elsewhere (name : String) (watchdog : Watchdog C K) : Elsewhere name watchdog (watchdog.abandon name) where
  component _ _ := rfl
  restarts _ _ := rfl
  incidents _ _ := rfl
  abandoned other apart := by simp [abandon, apart]

theorem sound_for_iff (name : String) (watchdog : Watchdog C K) (waiting : List Point) (component : Component C K)
    (found : watchdog.components.lookup name = some component) : SoundFor name watchdog waiting ↔
      SoundAt component (watchdog.restarts.count name) (waiting.count (.restart name)) (name ∈ watchdog.abandoned) := by
  rw [SoundFor, found]

theorem found_change (name : String) (f : Component C K → Component C K) (watchdog : Watchdog C K) (component : Component C K)
    (found : watchdog.components.lookup name = some component) :
    (watchdog.change name f).components.lookup name = some (f component) :=
  Dict.lookup_modify_here watchdog.components name f component found

theorem sound_publish (watchdog : Watchdog C K) (others : List Point) :
    Sound watchdog (.publish :: others) ↔ Sound watchdog others := by
  simp [Sound, SoundFor]

theorem sound_perm (watchdog : Watchdog C K) (a b : List Point) (perm : a.Perm b) (sound : Sound watchdog a) :
    Sound watchdog b := by
  intro name
  have kept := sound name
  rw [SoundFor, perm.count_eq] at kept
  exact kept

theorem publish_keeps (round1 : K → K) (name : String) (silence : K) (action : RestartAction) (start watchdog : Watchdog C K)
    (others : List Point) (leaves : Leaves start (watchdog.announce round1 name silence action))
    (sound : Sound watchdog others) :
    Co.Keeps Sound Leaves (publishFrozen round1 name silence action watchdog) start others := by
  refine ⟨leaves, (sound_publish _ others).mpr sound, ?_⟩
  intro later outcome rest kept
  have over_ := (sound_publish later rest).mp kept
  cases outcome with
  | cancelled => exact ⟨leaves_refl later, over_⟩
  | raised => exact ⟨leaves_refl later, over_⟩
  | returned => exact ⟨leaves_refl later, over_⟩

-- A scan that waits for a restart finds the component as it left it.
theorem underway_restarting (name : String) (watchdog : Watchdog C K) (rest : List Point)
    (sound : Sound watchdog (.restart name :: rest)) : ∃ component, watchdog.components.lookup name = some component ∧
      SoundAt component (watchdog.restarts.count name) (rest.count (.restart name) + 1) (name ∈ watchdog.abandoned) ∧
      component.status = .restarting ∧ rest.count (.restart name) = 0 ∧ name ∉ watchdog.abandoned := by
  have here := sound name
  cases found : watchdog.components.lookup name with
  | none =>
      rw [SoundFor, found, List.count_cons_self] at here
      exact absurd here.idle (Nat.succ_ne_zero _)
  | some component =>
      have at_ := (sound_for_iff name watchdog _ component found).mp here
      rw [List.count_cons_self] at at_
      have alone : rest.count (.restart name) = 0 := Nat.le_zero.mp (Nat.le_of_succ_le_succ at_.single)
      refine ⟨component, rfl, at_, at_.restarting.mpr (.inl (by rw [alone])), alone, ?_⟩
      intro abandoned
      exact Nat.succ_ne_zero _ (at_.apart abandoned)

theorem restarting_not_given_up (name : String) (watchdog : Watchdog C K) (component : Component C K)
    (found : watchdog.components.lookup name = some component) (status : component.status ≠ .exhausted)
    (kept : name ∉ watchdog.abandoned) : ¬GivenUp name watchdog := by
  intro given
  cases given with
  | inl abandoned => exact kept abandoned
  | inr exhausted =>
      rw [statusOf, found] at exhausted
      exact status (Option.some.inj exhausted)

theorem leaves_here (name : String) (before after : Watchdog C K) (elsewhere : Elsewhere name before after)
    (free : ¬GivenUp name before) : Leaves before after :=
  leaves_of_elsewhere name before after elsewhere (fun given => absurd given free)

-- The restart is over, one way or another.
theorem restart_over (name : String) (f : Component C K → Component C K) (watchdog : Watchdog C K) (rest : List Point)
    (sound : Sound watchdog (.restart name :: rest)) (idle : ∀ component : Component C K, (f component).status ≠ .restarting ∧
      (f component).status ≠ .exhausted)
    (same : ∀ component : Component C K, (f component).restartCount = component.restartCount ∧
      (f component).maxRestarts = component.maxRestarts) :
    Sound (watchdog.change name f) rest ∧ ¬GivenUp name watchdog := by
  obtain ⟨component, found, at_, status, alone, kept⟩ := underway_restarting name watchdog rest sound
  constructor
  · apply sound_of_elsewhere name watchdog _ (.restart name :: rest) rest (change_elsewhere name f watchdog)
    · intro other apart
      exact (List.count_cons_of_ne (fun equal => apart (Point.restart.inj equal).symm)).symm
    · rw [sound_for_iff name _ rest (f component) (found_change name f watchdog component found)]
      obtain ⟨count, most⟩ := same component
      constructor
      · rw [count]
        exact at_.counted
      · rw [count, most]
        exact at_.budget
      · exact fun exhausted => absurd exhausted (idle component).2
      · exact Nat.le_succ_of_le (Nat.le_of_eq alone)
      · constructor
        · exact fun restarting => absurd restarting (idle component).1
        · intro either
          cases either with
          | inl one => exact absurd (alone.symm.trans one) (by decide)
          | inr abandoned => exact absurd abandoned kept
      · exact fun abandoned => absurd abandoned kept
    · exact sound
  · apply restarting_not_given_up name watchdog component found _ kept
    rw [status]
    decide

theorem restart_abandoned (name : String) (watchdog : Watchdog C K) (rest : List Point)
    (sound : Sound watchdog (.restart name :: rest)) :
    Sound (watchdog.abandon name) rest ∧ ¬GivenUp name watchdog := by
  obtain ⟨component, found, at_, status, alone, kept⟩ := underway_restarting name watchdog rest sound
  constructor
  · apply sound_of_elsewhere name watchdog _ (.restart name :: rest) rest (abandon_elsewhere name watchdog)
    · intro other apart
      exact (List.count_cons_of_ne (fun equal => apart (Point.restart.inj equal).symm)).symm
    · rw [sound_for_iff name (watchdog.abandon name) rest component found]
      constructor
      · exact at_.counted
      · exact at_.budget
      · exact at_.spent
      · exact Nat.le_succ_of_le (Nat.le_of_eq alone)
      · exact ⟨fun _ => .inr List.mem_cons_self, fun _ => status⟩
      · exact fun _ => alone
    · exact sound
  · apply restarting_not_given_up name watchdog component found _ kept
    rw [status]
    decide

theorem free_sound (name : String) (f : Component C K → Component C K) (watchdog : Watchdog C K) (others : List Point)
    (component : Component C K) (found : watchdog.components.lookup name = some component) (sound : Sound watchdog others)
    (free : component.status ≠ .restarting) (idle : (f component).status ≠ .restarting)
    (same : (f component).restartCount = component.restartCount ∧ (f component).maxRestarts = component.maxRestarts)
    (spent : (f component).status = .exhausted → component.maxRestarts ≤ component.restartCount) :
    Sound (watchdog.change name f) others := by
  have at_ := (sound_for_iff name watchdog others component found).mp (sound name)
  apply sound_of_elsewhere name watchdog _ others others (change_elsewhere name f watchdog) (fun _ _ => rfl) _ sound
  rw [sound_for_iff name _ others (f component) (found_change name f watchdog component found)]
  obtain ⟨count, most⟩ := same
  constructor
  · rw [count]
    exact at_.counted
  · rw [count, most]
    exact at_.budget
  · rw [count, most]
    exact spent
  · exact at_.single
  · constructor
    · exact fun restarting => absurd restarting idle
    · exact fun either => absurd (at_.restarting.mpr either) free
  · exact at_.apart

theorem begin_sound (name : String) (watchdog : Watchdog C K) (others : List Point) (component : Component C K)
    (found : watchdog.components.lookup name = some component) (sound : Sound watchdog others)
    (free : component.status ≠ .restarting) (room : ¬component.maxRestarts ≤ component.restartCount) :
    Sound (watchdog.beginRestart name) (.restart name :: others) := by
  have at_ := (sound_for_iff name watchdog others component found).mp (sound name)
  have none_ : others.count (.restart name) = 0 := by
    have single := at_.single
    by_contra some_
    exact free (at_.restarting.mpr (.inl (by omega)))
  have kept : name ∉ watchdog.abandoned := fun abandoned => free (at_.restarting.mpr (.inr abandoned))
  apply sound_of_elsewhere name watchdog _ others _ (begin_elsewhere name watchdog) _ _ sound
  · intro other apart
    exact List.count_cons_of_ne (fun equal => apart (Point.restart.inj equal).symm)
  · rw [sound_for_iff name (watchdog.beginRestart name) _ _ (found_change name _ watchdog component found), List.count_cons_self, none_]
    constructor
    · simp [beginRestart, change, at_.counted]
    · refine .inr ?_
      change ((component.restartCount + 1 : Nat) : Int) ≤ component.maxRestarts
      omega
    · simp
    · simp
    · simp
    · exact fun abandoned => absurd abandoned kept

-- A component that is due: it was neither restarting nor exhausted.
theorem frozen_keeps (round1 : K → K) (name : String) (silence : K) (watchdog : Watchdog C K) (others : List Point)
    (component : Component C K) (found : watchdog.components.lookup name = some component) (sound : Sound watchdog others)
    (free : component.status ≠ .restarting) (spare : component.status ≠ .exhausted) :
    Co.Keeps Sound Leaves ((do
      Task.modify (setStatus name .frozen)
      let action ← tryRestart name
      publishFrozen round1 name silence action : Scan C K Unit) watchdog) watchdog others := by
  have at_ := (sound_for_iff name watchdog others component found).mp (sound name)
  have ungiven : ¬GivenUp name watchdog :=
    restarting_not_given_up name watchdog component found spare (fun abandoned => free (at_.restarting.mpr (.inr abandoned)))
  let frozen := watchdog.setStatus name .frozen
  have frozenFound : frozen.components.lookup name = some { component with status := .frozen } :=
    found_change name _ watchdog component found
  have frozenSound : Sound frozen others :=
    free_sound name _ watchdog others component found sound free (by simp) ⟨rfl, rfl⟩ (by simp)
  have near : Elsewhere name watchdog frozen := change_elsewhere name _ watchdog
  change Co.Keeps Sound Leaves ((tryRestart name >>= fun action => publishFrozen round1 name silence action) frozen) watchdog others
  rw [tryRestart]
  change Co.Keeps Sound Leaves (((match frozen.components.lookup name with
    | none => pure .none
    | some component => _ : Scan C K RestartAction) >>= fun action => publishFrozen round1 name silence action) frozen) watchdog others
  rw [frozenFound]
  dsimp only
  cases callback : component.restart with
  | none =>
      apply publish_keeps round1 name silence _ watchdog frozen others _ frozenSound
      apply leaves_here name watchdog _ _ ungiven
      exact elsewhere_trans name _ _ _ near (announce_elsewhere round1 name silence _ frozen)
  | some callback =>
      dsimp only
      split
      · rename_i spent
        apply publish_keeps round1 name silence _ watchdog (frozen.setStatus name .exhausted) others
        · apply leaves_here name watchdog _ _ ungiven
          exact elsewhere_trans name _ _ _ (elsewhere_trans name _ _ _ near (change_elsewhere name _ frozen))
            (announce_elsewhere round1 name silence _ _)
        · apply free_sound name _ frozen others _ frozenFound frozenSound
          · simp
          · simp
          · exact ⟨rfl, rfl⟩
          · exact fun _ => spent
      · rename_i room
        refine ⟨?_, ?_, ?_⟩
        · apply leaves_here name watchdog _ _ ungiven
          exact elsewhere_trans name _ _ _ near (begin_elsewhere name frozen)
        · exact begin_sound name frozen others _ frozenFound frozenSound (by simp) room
        · intro later outcome rest kept
          cases outcome with
          | cancelled =>
              obtain ⟨abandoned, free⟩ := restart_abandoned name later rest kept
              exact ⟨leaves_here name later _ (abandon_elsewhere name later) free, abandoned⟩
          | raised =>
              obtain ⟨over_, free⟩ := restart_over name (fun component => { component with status := .frozen }) later rest kept
                (fun _ => by simp) (fun _ => ⟨rfl, rfl⟩)
              apply publish_keeps round1 name silence _ later (later.setStatus name .frozen) rest _ over_
              apply leaves_here name later _ _ free
              exact elsewhere_trans name _ _ _ (change_elsewhere name _ later) (announce_elsewhere round1 name silence _ _)
          | returned =>
              obtain ⟨over_, free⟩ := restart_over name
                (fun component => { component with lastHeartbeat := later.clock, status := .ok }) later rest kept
                (fun _ => by simp) (fun _ => ⟨rfl, rfl⟩)
              apply publish_keeps round1 name silence _ later (later.restarted name) rest _ over_
              apply leaves_here name later _ _ free
              exact elsewhere_trans name _ _ _ (change_elsewhere name _ later) (announce_elsewhere round1 name silence _ _)

-- A signal changes no status but a frozen one.
theorem signal_keeps (name : String) (f : Component C K → Component C K) (watchdog : Watchdog C K) (others : List Point)
    (component : Component C K) (found : watchdog.components.lookup name = some component) (sound : Sound watchdog others)
    (same : (f component).restartCount = component.restartCount ∧ (f component).maxRestarts = component.maxRestarts)
    (status : (f component).status = component.status ∨ component.status = .frozen ∧ (f component).status = .ok) :
    Leaves watchdog (watchdog.change name f) ∧ Sound (watchdog.change name f) others := by
  have at_ := (sound_for_iff name watchdog others component found).mp (sound name)
  have changed := found_change name f watchdog component found
  obtain ⟨count, most⟩ := same
  have restarting : (f component).status = .restarting ↔ component.status = .restarting := by
    rcases status with kept | ⟨frozen, resumed⟩
    · rw [kept]
    · simp [frozen, resumed]
  have exhausted : (f component).status = .exhausted ↔ component.status = .exhausted := by
    rcases status with kept | ⟨frozen, resumed⟩
    · rw [kept]
    · simp [frozen, resumed]
  constructor
  · apply leaves_of_elsewhere name watchdog _ (change_elsewhere name f watchdog)
    intro given
    refine ⟨?_, rfl, rfl, id⟩
    rw [statusOf, statusOf, changed, found]
    rcases status with kept | ⟨frozen, _⟩
    · exact congrArg some kept
    · exfalso
      apply restarting_not_given_up name watchdog component found _ _ given
      · rw [frozen]
        decide
      · intro abandoned
        exact absurd (frozen.symm.trans (at_.restarting.mpr (.inr abandoned))) (by decide)
  · apply sound_of_elsewhere name watchdog _ others others (change_elsewhere name f watchdog) (fun _ _ => rfl) _ sound
    rw [sound_for_iff name _ others (f component) changed]
    constructor
    · rw [count]
      exact at_.counted
    · rw [count, most]
      exact at_.budget
    · rw [count, most]
      exact fun spent => at_.spent (exhausted.mp spent)
    · exact at_.single
    · exact restarting.trans at_.restarting
    · exact at_.apart

def idle (settings : WatchdogSettings K) (clock : K) : Pool (Watchdog C K) Point Outcome := ⟨Monitoring.started settings clock, []⟩

theorem started_sound (settings : WatchdogSettings K) (clock : K) : Sound (Monitoring.started settings clock : Watchdog C K) [] :=
  fun _ => ⟨rfl, rfl, List.not_mem_nil⟩

section

variable [AddCommGroup K] [LinearOrder K]

theorem attend_keeps (round1 : K → K) (now : K) (name : String) :
    (attend round1 now name : Scan C K Unit).Keeps Sound Leaves := by
  intro watchdog others sound
  change Co.Keeps Sound Leaves ((match watchdog.components.lookup name with
    | none => pure ()
    | some component => _ : Scan C K Unit) watchdog) watchdog others
  cases found : watchdog.components.lookup name with
  | none => exact ⟨leaves_refl watchdog, sound⟩
  | some component =>
      dsimp only
      split
      · exact ⟨leaves_refl watchdog, sound⟩
      · rename_i due
        obtain ⟨free, spare⟩ := not_or.mp due
        split
        · exact ⟨leaves_refl watchdog, sound⟩
        · exact frozen_keeps round1 name _ watchdog others component found sound free spare

theorem visit_keeps (round1 : K → K) (size : Nat) (now : K) (names : List String) :
    (visit round1 size now names : Scan C K Unit).Keeps Sound Leaves := by
  induction names with
  | nil =>
      intro watchdog others sound
      change Co.Keeps Sound Leaves ((if watchdog.components.size = size then pure () else Task.raise : Scan C K Unit) watchdog)
        watchdog others
      split <;> exact ⟨leaves_refl watchdog, sound⟩
  | cons name rest ih =>
      intro watchdog others sound
      change Co.Keeps Sound Leaves ((if watchdog.components.size = size then do
        attend round1 now name
        visit round1 size now rest else Task.raise : Scan C K Unit) watchdog) watchdog others
      split
      · exact Task.keeps_seq Sound Leaves leaves_trans _ _ (attend_keeps round1 now name) (fun _ => ih) watchdog others sound
      · exact ⟨leaves_refl watchdog, sound⟩

theorem scan_keeps (round1 : K → K) : (scan round1 : Scan C K Unit).Keeps Sound Leaves :=
  fun watchdog others sound =>
    visit_keeps round1 watchdog.components.size watchdog.clock watchdog.components.keys watchdog others sound

theorem register_keeps (registration : Registration C K) (watchdog registered : Watchdog C K) (others : List Point)
    (sound : Sound watchdog others) (done : watchdog.register registration = .ok registered) :
    Leaves watchdog registered ∧ Sound registered others := by
  rw [register] at done
  split at done
  · cases done
  · rename_i fresh
    cases done
    have absent := (Dict.lookup_none_iff watchdog.components registration.name).mpr fresh
    have unknown := sound registration.name
    rw [SoundFor, absent] at unknown
    have elsewhere : Elsewhere registration.name watchdog { watchdog with
        components := watchdog.components.insert registration.name (registration.component watchdog.settings watchdog.clock) } := by
      constructor
      · intro other apart
        exact (Dict.lookup_insert _ _ other _).trans (if_neg apart)
      · exact fun _ _ => rfl
      · exact fun _ _ => rfl
      · exact fun _ _ => Iff.rfl
    constructor
    · apply leaves_here registration.name watchdog _ elsewhere
      intro given
      cases given with
      | inl abandoned => exact unknown.kept abandoned
      | inr exhausted =>
          rw [statusOf, absent] at exhausted
          cases exhausted
    · apply sound_of_elsewhere registration.name watchdog _ others others elsewhere (fun _ _ => rfl) _ sound
      rw [SoundFor, Dict.lookup_insert, if_pos rfl]
      constructor
      · exact unknown.never.symm
      · exact .inl rfl
      · exact fun exhausted => nomatch exhausted
      · exact Nat.le_of_eq (unknown.idle.trans rfl) |>.trans (Nat.zero_le 1)
      · simp [Registration.component, unknown.idle, unknown.kept]
      · exact fun abandoned => absurd abandoned unknown.kept

theorem disturb_keeps (change : Change C K) (watchdog : Watchdog C K) (others : List Point) (sound : Sound watchdog others) :
    Leaves watchdog (disturb watchdog change) ∧ Sound (disturb watchdog change) others := by
  cases change with
  | advance clock => exact ⟨fun _ _ => ⟨rfl, rfl, rfl, id⟩, sound⟩
  | register registration =>
      rw [disturb]
      cases done : watchdog.register registration with
      | error _ => exact ⟨leaves_refl watchdog, sound⟩
      | ok registered => exact register_keeps registration watchdog registered others sound done
  | heartbeat name =>
      rw [disturb, Watchdog.heartbeat]
      cases found : watchdog.components.lookup name with
      | none => exact ⟨leaves_refl watchdog, sound⟩
      | some component =>
          apply signal_keeps name _ watchdog others component found sound ⟨rfl, rfl⟩
          by_cases frozen : component.status = .frozen
          · simp [beat, frozen]
          · simp [beat, frozen]
  | reportError name =>
      rw [disturb, Watchdog.reportError]
      cases found : watchdog.components.lookup name with
      | none => exact ⟨leaves_refl watchdog, sound⟩
      | some component => exact signal_keeps name _ watchdog others component found sound ⟨rfl, rfl⟩ (.inl rfl)

theorem run_sound (round1 : K → K) (settings : WatchdogSettings K) (clock : K) (actions : List (Step C K)) :
    Run.Always (step round1) (fun reached => Sound reached.state reached.points) (idle settings clock) actions ∧
      Run.Along (step round1) (fun before after => Leaves before.state after.state) (idle settings clock) actions :=
  Pool.run_crewed _ _ Sound Leaves sound_perm leaves_refl (fun _ => scan_keeps round1) disturb_keeps (idle settings clock)
    actions rfl (started_sound settings clock)

-- However the scans and the signals interleave, a callback is called at most
-- `max_restarts` times, and not again before it is over.
theorem restarts_within_budget (round1 : K → K) (settings : WatchdogSettings K) (clock : K) (actions : List (Step C K)) :
    Run.Always (step round1) (fun reached => ∀ name component, reached.state.components.lookup name = some component →
      component.restartCount = reached.state.restarts.count name ∧
      reached.state.restarts.count name ≤ component.maxRestarts.toNat ∧
      reached.points.count (.restart name) ≤ 1 ∧ (.restart name ∈ reached.points → component.status = .restarting))
      (idle settings clock) actions := by
  have always := (run_sound round1 settings clock actions).1
  apply Run.always_mono _ _ _ _ _ _ always
  intro reached sound name component found
  have at_ := (sound_for_iff name reached.state reached.points component found).mp (sound name)
  refine ⟨at_.counted, ?_, at_.single, ?_⟩
  · have budget := at_.budget
    rw [at_.counted] at budget
    omega
  · intro waiting
    have some_ := List.count_pos_iff.mpr waiting
    have single := at_.single
    exact at_.restarting.mpr (.inl (by omega))

-- A component whose budget is spent, or whose restart was cancelled under way,
-- is never restarted or reported again.
theorem given_up_for_good (round1 : K → K) (settings : WatchdogSettings K) (clock : K) (earlier later : List (Step C K))
    (name : String) (given : let reached := Run.final (step round1) (idle settings clock) earlier
      statusOf name reached.state = some .exhausted ∨
        statusOf name reached.state = some .restarting ∧ Point.restart name ∉ reached.points) :
    let reached := Run.final (step round1) (idle settings clock) earlier
    let last := Run.final (step round1) reached later
    statusOf name last.state = statusOf name reached.state ∧
      last.state.restarts.count name = reached.state.restarts.count name ∧
      incidentsOf name last.state = incidentsOf name reached.state := by
  intro reached last
  have sound := Run.always_final _ _ _ _ (run_sound round1 settings clock earlier).1
  have related := ((Run.each_append _ _ _ earlier later).mp (run_sound round1 settings clock (earlier ++ later)).2).2
  have leaves := Run.final_of_along (step round1) (fun before after => Leaves before.state after.state)
    (fun pool => leaves_refl pool.state) (fun a b c => leaves_trans a.state b.state c.state) reached later related
  have settled : GivenUp name reached.state := by
    rcases given with exhausted | ⟨restarting, over_⟩
    · exact .inr exhausted
    · have here := sound name
      cases found : reached.state.components.lookup name with
      | none =>
          rw [statusOf, found] at restarting
          cases restarting
      | some component =>
          have at_ := (sound_for_iff name reached.state reached.points component found).mp here
          rw [statusOf, found] at restarting
          rcases at_.restarting.mp (Option.some.inj restarting) with one | abandoned
          · exact absurd (List.count_pos_iff.mp (Nat.lt_of_lt_of_eq Nat.one_pos one.symm)) over_
          · exact .inl abandoned
  have left := leaves name settled
  exact ⟨left.status, left.restarts, left.incidents⟩

theorem given_up_for_good_feed : let settings : WatchdogSettings Int := ⟨60, 3, 5, 60⟩
    let reached : Pool (Watchdog Unit Int) Point Outcome := Run.final (step id) (idle settings 0)
      [.environment (.register { name := "feed", restartCallback := some (), maxRestarts := some 0 }),
        .environment (.advance 100), .spawn ()]
    let last := Run.final (step id) reached [.resume 0 .returned, .environment (.advance 300), .environment (.heartbeat "feed"), .spawn ()]
    statusOf "feed" last.state = statusOf "feed" reached.state ∧
      last.state.restarts.count "feed" = reached.state.restarts.count "feed" ∧
      incidentsOf "feed" last.state = incidentsOf "feed" reached.state :=
  given_up_for_good id ⟨60, 3, 5, 60⟩ 0 _ _ "feed" (.inl (by decide))

end

inductive HealthStatus where
  | healthy
  | degraded
  | unhealthy
deriving DecidableEq

structure HealthSettings (K : Type) where
  cpuWarnPct : K
  memoryWarnPct : K
  diskWarnPct : K

structure Vitals (K : Type) where
  cpu : K
  memoryPct : K
  diskPct : K

structure ModuleHealthChanged where
  source : String
  module : String
  previous : HealthStatus
  current : HealthStatus
deriving DecidableEq

-- `announced` is a ghost: the transitions that the bus took.
structure HealthMonitor (K : Type) where
  settings : HealthSettings K
  lastStatus : HealthStatus := .healthy
  announced : List ModuleHealthChanged := []

section

variable [LinearOrder K]

def evaluate (settings : HealthSettings K) (vitals : Vitals K) (components : Dict String ComponentStatus) : HealthStatus :=
  if components.entries.any (fun entry => decide (entry.2 = .frozen)) then .unhealthy
  else if settings.cpuWarnPct ≤ vitals.cpu ∨ settings.memoryWarnPct ≤ vitals.memoryPct ∨ settings.diskWarnPct ≤ vitals.diskPct
    then .degraded
  else .healthy

-- One round of `_monitor_loop`: the sampling raises, or the components are as the
-- watchdog has them and the bus takes what is published or raises.
inductive Round (K : Type) where
  | failed
  | sampled (vitals : Vitals K) (components : Dict String ComponentStatus) (published : Bool)

def HealthMonitor.round (monitor : HealthMonitor K) : Round K → HealthMonitor K
  | .failed => monitor
  | .sampled vitals components published =>
      let status := evaluate monitor.settings vitals components
      if status = monitor.lastStatus then monitor
      else if published then
        { monitor with
          lastStatus := status
          announced := monitor.announced ++ [⟨"health_monitor", "system", monitor.lastStatus, status⟩] }
      else monitor

-- Each transition starts where the one before ended, and goes elsewhere.
def Linked : HealthStatus → List ModuleHealthChanged → HealthStatus → Prop
  | status, [], last => status = last
  | status, changed :: rest, last => changed.previous = status ∧ changed.current ≠ status ∧ Linked changed.current rest last

theorem linked_snoc (first last : HealthStatus) (announced : List ModuleHealthChanged) (changed : ModuleHealthChanged)
    (linked : Linked first announced last) (continues : changed.previous = last) (moves : changed.current ≠ last) :
    Linked first (announced ++ [changed]) changed.current := by
  induction announced generalizing first with
  | nil =>
      cases linked
      exact ⟨continues, moves, rfl⟩
  | cons head rest ih => exact ⟨linked.1, linked.2.1, ih head.current linked.2.2⟩

theorem round_linked (first : HealthStatus) (monitor : HealthMonitor K) (round : Round K)
    (linked : Linked first monitor.announced monitor.lastStatus) :
    Linked first (monitor.round round).announced (monitor.round round).lastStatus := by
  cases round with
  | failed => exact linked
  | sampled vitals components published =>
      rw [HealthMonitor.round]
      split
      · exact linked
      · rename_i moved
        split
        · exact linked_snoc first monitor.lastStatus monitor.announced _ linked rfl moved
        · exact linked

theorem evaluate_unhealthy (settings : HealthSettings K) (vitals : Vitals K) (components : Dict String ComponentStatus) :
    evaluate settings vitals components = .unhealthy ↔ ∃ name, components.lookup name = some .frozen := by
  rw [evaluate]
  by_cases frozen : components.entries.any (fun entry => decide (entry.2 = .frozen)) = true
  · rw [if_pos frozen]
    obtain ⟨entry, member, status⟩ := List.any_eq_true.mp frozen
    refine iff_of_true rfl ⟨entry.1, ?_⟩
    rw [← of_decide_eq_true status]
    exact Dict.lookup_of_mem components entry.1 entry.2 member
  · rw [if_neg frozen]
    constructor
    · intro same
      split at same <;> cases same
    · intro present
      obtain ⟨name, found⟩ := present
      have member := Dict.lookup_mem components name .frozen found
      exact absurd (List.any_eq_true.mpr ⟨_, member, decide_eq_true rfl⟩) frozen

-- The announcements are one unbroken account of the system's health, and after
-- a round that the bus took part in it is `unhealthy` exactly while the watchdog
-- has a component FROZEN: one that it is restarting or has given up is passed over.
theorem health_account (settings : HealthSettings K) (rounds : List (Round K)) (vitals : Vitals K) (watchdog : Watchdog C K) :
    let monitor := Run.final HealthMonitor.round { settings := settings } rounds
    let after := monitor.round (.sampled vitals watchdog.componentStatuses true)
    Linked .healthy monitor.announced monitor.lastStatus ∧ Linked .healthy after.announced after.lastStatus ∧
      (after.lastStatus = .unhealthy ↔ ∃ name, statusOf name watchdog = some .frozen) := by
  intro monitor after
  have linked : Linked .healthy monitor.announced monitor.lastStatus :=
    Run.final_preserved HealthMonitor.round (fun monitor => Linked .healthy monitor.announced monitor.lastStatus)
      (fun monitor round => round_linked .healthy monitor round) _ rounds rfl
  have current : after.lastStatus = evaluate monitor.settings vitals watchdog.componentStatuses := by
    change (monitor.round _).lastStatus = _
    rw [HealthMonitor.round]
    split
    · rename_i same
      exact same.symm
    · rfl
  refine ⟨linked, round_linked .healthy monitor _ linked, ?_⟩
  rw [current, evaluate_unhealthy]
  simp only [Watchdog.componentStatuses, Dict.lookup_map_values, statusOf]

end

end QuantEngine.Monitoring
