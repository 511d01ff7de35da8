import QuantEngine.Production.KillSwitch

set_option autoImplicit false

namespace QuantEngine.ScheduledCutOff

open Calendar (Moment)
open Run

structure CutOff where
  hour : Int
  minute : Int
  hours : 0 ≤ hour ∧ hour < 24
  minutes : 0 ≤ minute ∧ minute < 60

namespace CutOff

-- The cut-off on the day of a moment.
def onDay (cut : CutOff) (moment : Moment) : Moment :=
  Calendar.startOfDay moment + cut.hour * Calendar.hour + cut.minute * Calendar.minute

def Passed (cut : CutOff) (moment : Moment) : Prop := cut.onDay moment ≤ moment

theorem minute_bounds (moment hour minute : Int) (low : 0 ≤ minute) (high : minute < 60) :
    (moment % 86400000000 / 3600000000 = hour ∧ moment % 3600000000 / 60000000 = minute) ↔
      moment / 86400000000 * 86400000000 + hour * 3600000000 + minute * 60000000 ≤ moment ∧
        moment < moment / 86400000000 * 86400000000 + hour * 3600000000 + minute * 60000000 + 60000000 := by
  have hoursOfDays : moment / 3600000000 = 24 * (moment / 86400000000) + moment % 86400000000 / 3600000000 := by omega
  constructor <;> intro given <;> omega

-- What the source compares.
def Minute (cut : CutOff) (moment : Moment) : Prop :=
  Calendar.hourOf moment = cut.hour ∧ Calendar.minuteOf moment = cut.minute

instance (cut : CutOff) (moment : Moment) : Decidable (cut.Passed moment) :=
  inferInstanceAs (Decidable (cut.onDay moment ≤ moment))

instance (cut : CutOff) (moment : Moment) : Decidable (cut.Minute moment) :=
  inferInstanceAs (Decidable (_ ∧ _))

theorem minute_iff (cut : CutOff) (moment : Moment) :
    cut.Minute moment ↔ cut.Passed moment ∧ moment < cut.onDay moment + Calendar.minute :=
  minute_bounds moment cut.hour cut.minute cut.minutes.1 cut.minutes.2

-- What lies between the cut-off and a moment of its minute is in the minute.
theorem minute_earlier (cut : CutOff) (earlier later : Moment) (sameDay : Calendar.days earlier = Calendar.days later)
    (passed : cut.Passed earlier) (order : earlier ≤ later) (now : cut.Minute later) : cut.Minute earlier := by
  have border := ((cut.minute_iff later).mp now).2
  refine (cut.minute_iff earlier).mpr ⟨passed, ?_⟩
  rw [onDay, Calendar.startOfDay, sameDay]
  exact Int.lt_of_le_of_lt order border

end CutOff

-- A check is recorded with whether it found the switch active and what it
-- returned; a release, where it did not raise.
inductive Entry where
  | check (now : Moment) (found engaged : Bool)
  | release

def Entry.checkedAt : Entry → Option Moment
  | .check now _ _ => some now
  | .release => none

def checks (log : List Entry) : List Moment := log.filterMap Entry.checkedAt

theorem checks_mem (log : List Entry) (now : Moment) (found engaged : Bool) (member : .check now found engaged ∈ log) :
    now ∈ checks log := List.mem_filterMap.mpr ⟨.check now found engaged, member, rfl⟩

inductive Operation where
  | check (now : Moment)
  | engage (trigger : KillSwitchTrigger) (reason actor : String) (now : Moment)
  | release (actor reason : String)

-- The log is a ghost, newest first.
structure System where
  controller : KillSwitchController
  risk : RiskManager
  log : List Entry := []

namespace System

def step (system : System) : Operation → System
  | .check now =>
      let result := system.controller.checkScheduled system.risk now
      ⟨result.2.1, result.2.2, .check now system.controller.active result.1 :: system.log⟩
  | .engage trigger reason actor now =>
      let result := system.controller.engage system.risk trigger reason actor now
      ⟨result.1, result.2, system.log⟩
  | .release actor reason =>
      match system.controller.release system.risk actor reason with
      | (.ok _, controller, risk) => ⟨controller, risk, .release :: system.log⟩
      | (.error _, controller, risk) => ⟨controller, risk, system.log⟩

end System

-- The first check of its day at or after the cut-off, `log` being what came before.
def FirstOfDay (cut : CutOff) (log : List Entry) (now : Moment) : Prop :=
  cut.Passed now ∧ ∀ earlier ∈ checks log, Calendar.days earlier = Calendar.days now → ¬ cut.Passed earlier

instance (cut : CutOff) (log : List Entry) (now : Moment) : Decidable (FirstOfDay cut log now) :=
  inferInstanceAs (Decidable (_ ∧ _))

-- Such a check leaves the switch active, and after its engagement and a release
-- no check of the day engages.
def Kept (cut : CutOff) (system : System) : Operation → Prop
  | .check now =>
      (FirstOfDay cut system.log now → (system.step (.check now)).controller.active = true) ∧
        ∀ before first found after, system.log = after ++ .check first found true :: before → FirstOfDay cut before first →
          Calendar.days first = Calendar.days now → .release ∈ after →
          (system.controller.checkScheduled system.risk now).1 = false
  | _ => True

-- A check that finds the switch inactive is in the minute of the cut-off where
-- it is the first, and is not where the first found it inactive as well.
def Timely (cut : CutOff) (system : System) : Operation → Prop
  | .check now => system.controller.active = false →
      (FirstOfDay cut system.log now → cut.Minute now) ∧
        ∀ before first engaged after, system.log = after ++ .check first false engaged :: before →
          FirstOfDay cut before first → Calendar.days first = Calendar.days now → ¬ cut.Minute now
  | _ => True

-- Checks come at increasing times.
def Increasing (system : System) : Operation → Prop
  | .check now => ∀ earlier ∈ checks system.log, earlier < now
  | _ => True

instance (system : System) : (operation : Operation) → Decidable (Increasing system operation)
  | .check now => inferInstanceAs (Decidable (∀ earlier ∈ checks system.log, earlier < now))
  | .engage _ _ _ _ => inferInstanceAs (Decidable True)
  | .release _ _ => inferInstanceAs (Decidable True)

theorem engage_settings (controller : KillSwitchController) (risk : RiskManager) (trigger : KillSwitchTrigger)
    (reason actor : String) (now : Moment) :
    (controller.engage risk trigger reason actor now).1.settings = controller.settings := by
  rw [KillSwitchController.engage]
  split
  · rfl
  · simp only [KillSwitchController.recordAudit, KillSwitchController.persist]
    split <;> rfl

theorem release_settings (controller : KillSwitchController) (risk : RiskManager) (actor reason : String) :
    (controller.release risk actor reason).2.1.settings = controller.settings := by
  rw [KillSwitchController.release]
  split
  · rfl
  · split
    · rfl
    · simp only [KillSwitchController.persist]
      split <;> rfl

-- A release that raises leaves everything as it is.
theorem release_cases (controller : KillSwitchController) (risk : RiskManager) (actor reason : String) :
    (∃ text, controller.release risk actor reason = (.error text, controller, risk)) ∨
      ∃ switch released, controller.release risk actor reason = (.ok switch, released, risk.resetKillSwitch) := by
  rw [KillSwitchController.release]
  split
  · exact .inl ⟨_, rfl⟩
  · split
    · exact .inl ⟨_, rfl⟩
    · exact .inr ⟨_, _, rfl⟩

def Configured (cut : CutOff) (controller : KillSwitchController) : Prop :=
  KillSwitchController.cutOff (Text.strip controller.settings.scheduledUtc) = some (cut.hour, cut.minute)

theorem configured_nonempty (cut : CutOff) (controller : KillSwitchController) (configured : Configured cut controller) :
    Text.strip controller.settings.scheduledUtc ≠ "" := by
  intro empty
  rw [Configured, empty] at configured
  cases configured

-- The check engages in the minute of the cut-off what is not active.
theorem check_cases (cut : CutOff) (controller : KillSwitchController) (risk : RiskManager) (now : Moment)
    (configured : Configured cut controller) :
    (controller.active = false ∧ cut.Minute now ∧ (controller.checkScheduled risk now).1 = true ∧
        (controller.checkScheduled risk now).2.1.active = true ∧
        (controller.checkScheduled risk now).2.1.settings = controller.settings) ∨
      ((controller.active = false → ¬ cut.Minute now) ∧ controller.checkScheduled risk now = (false, controller, risk)) := by
  have nonempty := configured_nonempty cut controller configured
  simp only [KillSwitchController.checkScheduled]
  cases active : controller.active with
  | true =>
      right
      rw [KillSwitchController.active] at active
      simp [active]
  | false =>
      rw [KillSwitchController.active] at active
      by_cases minute : cut.Minute now
      · left
        have equal : KillSwitchController.cutOff (Text.strip controller.settings.scheduledUtc) =
            some (Calendar.hourOf now, Calendar.minuteOf now) := by
          rw [minute.1, minute.2]
          exact configured
        simp only [nonempty, active, equal, decide_false, Bool.or_self, Bool.false_eq_true, if_false, if_true]
        exact ⟨trivial, minute, trivial, controller.engage_engaged risk _ _ _ now, engage_settings controller risk _ _ _ now⟩
      · right
        have apart : KillSwitchController.cutOff (Text.strip controller.settings.scheduledUtc) ≠
            some (Calendar.hourOf now, Calendar.minuteOf now) := by
          intro equal
          have both := Option.some.inj (configured.symm.trans equal)
          exact minute ⟨(congrArg Prod.fst both).symm, (congrArg Prod.snd both).symm⟩
        simp [nonempty, active, apart, minute]

-- What the log says of the switch.
structure Recorded (cut : CutOff) (system : System) : Prop where
  configured : Configured cut system.controller
  engaged : ∀ now found, .check now found true ∈ system.log → found = false ∧ cut.Minute now
  missed : ∀ now, .check now false false ∈ system.log → ¬ cut.Minute now
  held : ∀ before now found after, system.log = after ++ .check now found true :: before → .release ∉ after →
    system.controller.active = true

theorem recorded_step (cut : CutOff) (system : System) (operation : Operation) (recorded : Recorded cut system) :
    Recorded cut (system.step operation) := by
  obtain ⟨configured, engaged, missed, held⟩ := recorded
  cases operation with
  | engage trigger reason actor now =>
      refine ⟨?_, engaged, missed, fun _ _ _ _ _ _ => system.controller.engage_engaged system.risk trigger reason actor now⟩
      simpa only [Configured, System.step, engage_settings] using configured
  | release actor reason =>
      rcases release_cases system.controller system.risk actor reason with ⟨text, raised⟩ | ⟨switch, released, done⟩
      · simp only [System.step, raised]
        exact ⟨configured, engaged, missed, held⟩
      · have settings := release_settings system.controller system.risk actor reason
        simp only [done] at settings
        simp only [System.step, done]
        refine ⟨?_, fun now found member => engaged now found (by simpa using member),
          fun now member => missed now (by simpa using member), ?_⟩
        · simpa only [Configured, settings] using configured
        · intro before now found after split absent
          cases after with
          | nil => cases split
          | cons entry rest =>
              obtain ⟨rfl, -⟩ := List.cons.inj split
              exact absurd List.mem_cons_self absent
  | check now =>
      rcases check_cases cut system.controller system.risk now configured with
        ⟨inactive, minute, returned, active, settings⟩ | ⟨other, still⟩
      · simp only [System.step, returned]
        refine ⟨?_, ?_, ?_, fun _ _ _ _ _ _ => active⟩
        · simpa only [Configured, settings] using configured
        · intro moment found member
          rcases List.mem_cons.mp member with same | member
          · obtain ⟨rfl, rfl, -⟩ := Entry.check.inj same
            exact ⟨inactive, minute⟩
          · exact engaged moment found member
        · intro moment member
          rcases List.mem_cons.mp member with same | member
          · cases (Entry.check.inj same).2.2
          · exact missed moment member
      · simp only [System.step, still]
        refine ⟨configured, ?_, ?_, ?_⟩
        · intro moment found member
          rcases List.mem_cons.mp member with same | member
          · cases (Entry.check.inj same).2.2
          · exact engaged moment found member
        · intro moment member
          rcases List.mem_cons.mp member with same | member
          · obtain ⟨rfl, inactive, -⟩ := Entry.check.inj same
            exact other inactive.symm
          · exact missed moment member
        · intro before moment found after split absent
          cases after with
          | nil => cases (Entry.check.inj (List.cons.inj split).1).2.2
          | cons entry rest =>
              exact held before moment found rest (List.cons.inj split).2 (fun member => absent (List.mem_cons_of_mem entry member))

theorem kept_iff (cut : CutOff) (system : System) (operation : Operation) (recorded : Recorded cut system)
    (increasing : Increasing system operation) : Kept cut system operation ↔ Timely cut system operation := by
  cases operation with
  | engage trigger reason actor now => exact Iff.rfl
  | release actor reason => exact Iff.rfl
  | check now =>
      obtain ⟨configured, engaged, missed, held⟩ := recorded
      rcases check_cases cut system.controller system.risk now configured with
        ⟨inactive, minute, returned, active, -⟩ | ⟨other, still⟩
      · -- The check engages.
        simp only [Kept, Timely, System.step, active, implies_true, true_and, inactive, minute, forall_const, returned,
          Bool.true_eq_false, imp_false, not_true_eq_false]
        constructor
        · intro kept before first result after split leads sameDay
          have order := increasing first (checks_mem _ first false result (split ▸ List.mem_append_right after List.mem_cons_self))
          have within := cut.minute_earlier first now sameDay leads.1 (Int.le_of_lt order) minute
          cases result with
          | false => exact missed first (split ▸ List.mem_append_right after List.mem_cons_self) within
          | true =>
              refine kept before first false after split leads sameDay (Classical.not_not.mp (fun absent => ?_))
              rw [held before first false after split absent] at inactive
              cases inactive
        · intro timely before first found after split leads sameDay _
          obtain ⟨rfl, -⟩ := engaged first found (split ▸ List.mem_append_right after List.mem_cons_self)
          exact timely before first true after split leads sameDay
      · simp only [Kept, Timely, System.step, still, implies_true, and_true]
        constructor
        · intro kept inactive
          exact ⟨fun leads => absurd (kept leads) (by simp [inactive]), fun _ _ _ _ _ _ _ => other inactive⟩
        · intro timely leads
          cases active : system.controller.active with
          | true => rfl
          | false => exact absurd ((timely active).1 leads) (other active)

-- The law holds in exactly the runs whose checks are all timely.
theorem scheduled_iff (cut : CutOff) (system : System) (operations : List Operation)
    (configured : Configured cut system.controller) (start : system.log = [])
    (increasing : Each System.step Increasing system operations) :
    Each System.step (Kept cut) system operations ↔ Each System.step (Timely cut) system operations := by
  have recorded : Recorded cut system := by
    constructor
    · exact configured
    · simp [start]
    · simp [start]
    · simp [start]
  exact each_iff_where System.step Increasing (Kept cut) (Timely cut) (Recorded cut)
    (fun t operation inv order => kept_iff cut t operation inv order)
    (fun t operation inv _ _ => recorded_step cut t operation inv) system operations recorded increasing

def halfPastThree : CutOff := ⟨3, 30, by decide, by decide⟩

def scheduled : System where
  controller := { settings := { scheduledUtc := "03:30" } }
  risk := .init {} 10000

-- On 2024-02-29, in seconds from midnight.
def at_ (seconds : Int) : Moment := 1709164800000000 + seconds * Calendar.second

def onTime : List Operation := [.check (at_ 12590), .check (at_ 12650), .release "ana" "fin", .check (at_ 12710)]

theorem scheduled_iff_on_time :
    Each System.step (Kept halfPastThree) scheduled onTime ↔ Each System.step (Timely halfPastThree) scheduled onTime :=
  scheduled_iff halfPastThree scheduled onTime (by rw [Configured]; decide +kernel) rfl (by decide +kernel)

-- Checks at 03:29:50 and, late by ten seconds, 03:31:00: nothing is engaged.
-- Checks at 03:30:05 and 03:30:58 with a release between them: the second engages again.
theorem cut_off_missed_and_repeated :
    ¬ Each System.step (Kept halfPastThree) scheduled [.check (at_ 12590), .check (at_ 12660)] ∧
      ¬ Each System.step (Kept halfPastThree) scheduled [.check (at_ 12605), .release "ana" "fin", .check (at_ 12658)] := by
  constructor
  · rintro ⟨-, kept, -⟩
    exact absurd (kept.1 (by decide +kernel)) (by decide +kernel)
  · rintro ⟨-, -, kept, -⟩
    have quiet := kept.2 [] (at_ 12605) false [.release] (by rfl) (by decide +kernel) (by decide +kernel) List.mem_cons_self
    exact absurd quiet (by decide +kernel)

end QuantEngine.ScheduledCutOff
