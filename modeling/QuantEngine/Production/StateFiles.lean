import QuantEngine.Library.Extended
import QuantEngine.Library.IsoTime
import QuantEngine.Production.KillSwitch
import QuantEngine.Production.LiveGate

set_option autoImplicit false

namespace QuantEngine.StateFiles

open Timestamps

-- `datetime.fromisoformat`, which reads a text or raises a `ValueError`, and the
-- microseconds of `timedelta(hours=value)`, which raises on what is no span.
class PyDatetime (F : Type) extends PyFloat F where
  fromisoformat : String → Option Timestamp
  hours : F → Except PyError Int

structure LiveApproval (F : Type) where
  actor : String
  reason : String
  reportHash : String
  grantedAt : Timestamp
  ttlHours : F

structure ApprovalStore (F : Type) where
  approval : Option (LiveApproval F)

structure KillSwitchState where
  active : Bool
  trigger : String := ""
  reason : String := ""
  actor : String := ""
  engagedAt : Option Timestamp := none

structure KillSwitchController where
  persistState : Bool
  risk : Option RiskManager
  switch : KillSwitchState
  audit : List (KillSwitchState × Bool)

-- `utc_now()` gives a datetime with a zone.
structure UtcTime where
  time : Timestamp
  aware : time.aware = true

section

variable {F : Type}

theorem item_object (members : List (String × Json F)) (name : String) :
    (∃ field, Json.item (.obj members) name = .ok field) ∨ Json.item (.obj members) name = .error .key := by
  rw [Json.item]
  cases Json.member members name with
  | none => exact .inr rfl
  | some field => exact .inl ⟨field, rfl⟩

variable [PyDatetime F]

-- What the path has: no file, or what reading and parsing it come to.
abbrev StateFile (F : Type) := Option (Except PyError (Json F))

def momentOf (data : Json F) : Except PyError Timestamp :=
  match PyDatetime.fromisoformat F data.toText with
  | some time => .ok time
  | none => .error .value

namespace LiveApproval

def fromDict (data : Json F) : Except PyError (LiveApproval F) := do
  let actor ← data.item "actor"
  let reason ← data.get "reason" (.str "")
  let reportHash ← data.item "report_hash"
  let raw ← data.item "granted_at"
  let grantedAt ← momentOf raw
  let ttl ← data.item "ttl_hours"
  let ttlHours ← ttl.toFloat
  .ok ⟨actor.toText, reason.toText, reportHash.toText, grantedAt, ttlHours⟩

def expiresAt (approval : LiveApproval F) : Except PyError Timestamp := do
  let span ← PyDatetime.hours approval.ttlHours
  approval.grantedAt.plus span

-- The expiry is computed only where the hash matches.
def isValidFor (approval : LiveApproval F) (reportHash : String) (moment : Timestamp) : Except PyError Bool :=
  if reportHash = approval.reportHash then do
    let expires ← approval.expiresAt
    moment.lt expires
  else .ok false

end LiveApproval

namespace ApprovalStore

-- `except (OSError, ValueError, KeyError)`.
def handled : PyError → Bool
  | .os | .value | .key => true
  | _ => false

def init (file : StateFile F) : Except PyError (ApprovalStore F) :=
  match file with
  | none => .ok ⟨none⟩
  | some content => do
      let approval ← Json.attempt handled (content >>= LiveApproval.fromDict)
      .ok ⟨approval⟩

def isValidFor (store : ApprovalStore F) (reportHash : String) (now : UtcTime) : Except PyError Bool :=
  match store.approval with
  | none => .ok false
  | some approval => approval.isValidFor reportHash now.time

end ApprovalStore

def engagedAtOf (raw : Json F) : Except PyError (Option Timestamp) :=
  if raw.toBool then (momentOf raw).map some else .ok none

def KillSwitchState.fromDict (data : Json F) : Except PyError KillSwitchState := do
  let raw ← data.get "engaged_at" .null
  let active ← data.get "active" (.bool false)
  let trigger ← data.get "trigger" (.str "")
  let reason ← data.get "reason" (.str "")
  let actor ← data.get "actor" (.str "")
  let engagedAt ← engagedAtOf raw
  .ok ⟨active.toBool, trigger.toText, reason.toText, actor.toText, engagedAt⟩

namespace KillSwitchController

def init (persistState : Bool) (risk : Option RiskManager) : KillSwitchController :=
  ⟨persistState, risk, { active := false }, []⟩

-- `except (OSError, ValueError, TypeError)`.
def handled : PyError → Bool
  | .os | .value | .type => true
  | _ => false

def load (controller : KillSwitchController) (file : StateFile F) : Except PyError (Option KillSwitchState) :=
  if !controller.persistState then .ok none
  else match file with
    | none => .ok none
    | some content => Json.attempt handled (content >>= KillSwitchState.fromDict)

def restore (controller : KillSwitchController) (restored : KillSwitchState) : KillSwitchController :=
  { controller with
    switch := restored
    risk := controller.risk.map (fun risk => risk.engageKillSwitch (orElseText restored.reason "kill switch persistido"))
    audit := controller.audit ++ [(restored, true)] }

def start (controller : KillSwitchController) (file : StateFile F) : Except PyError KillSwitchController := do
  match ← controller.load file with
  | none => .ok controller
  | some restored => if restored.active then .ok (controller.restore restored) else .ok controller

end KillSwitchController

-- A document as `to_dict` writes an approval: texts and a number, and neither
-- an anonymous actor nor an empty hash.
structure Written (data : Json F) : Prop where
  actor : ∃ text, data.item "actor" = .ok (.str text) ∧ Text.blank text = false
  reason : ∃ text, data.get "reason" (.str "") = .ok (.str text)
  reportHash : ∃ text, data.item "report_hash" = .ok (.str text) ∧ Text.blank text = false
  grantedAt : ∃ text, data.item "granted_at" = .ok (.str text)
  ttlHours : (∃ value, data.item "ttl_hours" = .ok (.float value)) ∨ ∃ value, data.item "ttl_hours" = .ok (.int value)

-- The fields that an approval cannot be without are there, and the moment of
-- the grant can be read.
structure Complete (data hash ttl : Json F) (granted : Timestamp) : Prop where
  actor : ∃ field, data.item "actor" = .ok field
  reportHash : data.item "report_hash" = .ok hash
  grantedAt : ∃ field, data.item "granted_at" = .ok field ∧ PyDatetime.fromisoformat F field.toText = some granted
  ttlHours : data.item "ttl_hours" = .ok ttl

def Expires (granted : Timestamp) (hours : F) (span : Int) : Prop :=
  PyDatetime.hours hours = .ok span ∧ InRange (granted.wall + span) ∧ granted.aware = true

structure Authorizes (data : Json F) (reportHash : String) (now : UtcTime) : Prop where
  written : Written data
  current : ∃ hash ttl granted hours span, Complete data hash ttl granted ∧ hash.toText = reportHash ∧
    ttl.toFloat = .ok hours ∧ Expires granted hours span ∧ now.time.instant < granted.instant + span

-- The store is made, and says yes to nothing but a standing approval.
def ApprovalFailsClosed (file : StateFile F) (reportHash : String) (now : UtcTime) : Prop :=
  ∃ store answer, ApprovalStore.init file = .ok store ∧ store.isValidFor reportHash now = .ok answer ∧
    (answer = true → ∃ data, file = some (.ok data) ∧ Authorizes data reportHash now)

def IsObject (data : Json F) : Prop := ∃ members, data = .obj members

-- With all fields there, the time to live converts or is no number in a text;
-- where the hash matches, the expiry can be computed and compared, and what
-- would then be valid is written as an approval is.
structure Sound (data : Json F) (reportHash : String) (now : UtcTime) : Prop where
  object : IsObject data
  converts : ∀ hash ttl granted, Complete data hash ttl granted → ∀ raised, ttl.toFloat = .error raised →
    ApprovalStore.handled raised = true
  expires : ∀ hash ttl granted, Complete data hash ttl granted → ∀ hours, ttl.toFloat = .ok hours →
    hash.toText = reportHash → ∃ span, Expires granted hours span ∧
      (now.time.instant < granted.instant + span → Written data)

def ApprovalFileSound (file : StateFile F) (reportHash : String) (now : UtcTime) : Prop :=
  match file with
  | none => True
  | some (.error raised) => ApprovalStore.handled raised = true
  | some (.ok data) => Sound data reportHash now

theorem complete_unique (data hash ttl hash' ttl' : Json F) (granted granted' : Timestamp)
    (first : Complete data hash ttl granted) (second : Complete data hash' ttl' granted') :
    hash = hash' ∧ ttl = ttl' ∧ granted = granted' := by
  obtain ⟨field, given, read⟩ := first.grantedAt
  obtain ⟨field', given', read'⟩ := second.grantedAt
  cases Except.ok.inj (given.symm.trans given')
  exact ⟨Except.ok.inj (first.reportHash.symm.trans second.reportHash),
    Except.ok.inj (first.ttlHours.symm.trans second.ttlHours), Option.some.inj (read.symm.trans read')⟩

theorem from_dict_complete (members : List (String × Json F)) (hash ttl : Json F) (granted : Timestamp)
    (complete : Complete (.obj members) hash ttl granted) : ∃ actor reason, LiveApproval.fromDict (.obj members) =
      ttl.toFloat.map (fun hours => ⟨actor, reason, hash.toText, granted, hours⟩) := by
  obtain ⟨actor, actorGiven⟩ := complete.actor
  obtain ⟨field, given, read⟩ := complete.grantedAt
  have moment : momentOf field = .ok granted := by rw [momentOf, read]
  refine ⟨actor.toText, ((Json.member members "reason").getD (.str "")).toText, ?_⟩
  rw [LiveApproval.fromDict, actorGiven, complete.reportHash, given, complete.ttlHours]
  simp only [Json.ok_bind, Json.get, moment]
  cases ttl.toFloat <;> rfl

theorem from_dict_incomplete (members : List (String × Json F))
    (incomplete : ∀ hash ttl granted, ¬ Complete (.obj members) hash ttl granted) :
    ∃ raised, LiveApproval.fromDict (.obj members) = .error raised ∧ ApprovalStore.handled raised = true := by
  rw [LiveApproval.fromDict]
  rcases item_object members "actor" with ⟨actor, actorGiven⟩ | missing
  · rcases item_object members "report_hash" with ⟨hash, hashGiven⟩ | missing
    · rcases item_object members "granted_at" with ⟨field, fieldGiven⟩ | missing
      · cases read : PyDatetime.fromisoformat F field.toText with
        | none => exact ⟨.value, by simp [actorGiven, hashGiven, fieldGiven, momentOf, read, Json.get, bind, Except.bind], rfl⟩
        | some granted =>
            rcases item_object members "ttl_hours" with ⟨ttl, ttlGiven⟩ | missing
            · exact absurd ⟨⟨actor, actorGiven⟩, hashGiven, ⟨field, fieldGiven, read⟩, ttlGiven⟩ (incomplete hash ttl granted)
            · refine ⟨.key, ?_, rfl⟩
              simp [actorGiven, hashGiven, fieldGiven, momentOf, read, missing, Json.get, bind, Except.bind]
      · exact ⟨.key, by simp [actorGiven, hashGiven, missing, Json.get, bind, Except.bind], rfl⟩
    · exact ⟨.key, by simp [actorGiven, missing, Json.get, bind, Except.bind], rfl⟩
  · exact ⟨.key, by simp [missing, bind, Except.bind], rfl⟩

theorem from_dict_other (data : Json F) (other : ¬ IsObject data) : LiveApproval.fromDict data = .error .type := by
  cases data with
  | obj members => exact absurd ⟨members, rfl⟩ other
  | null | bool _ | int _ | float _ | str _ | arr _ => rfl

theorem valid_iff (approval : LiveApproval F) (now : UtcTime) (answer : Bool) :
    approval.isValidFor approval.reportHash now.time = .ok answer ↔
      ∃ span, Expires approval.grantedAt approval.ttlHours span ∧
        answer = decide (now.time.instant < approval.grantedAt.instant + span) := by
  rw [LiveApproval.isValidFor, if_pos rfl, LiveApproval.expiresAt]
  cases lasts : PyDatetime.hours approval.ttlHours with
  | error raised => simp [Expires, lasts, bind, Except.bind]
  | ok span =>
      rw [Json.ok_bind]
      by_cases fits : InRange (approval.grantedAt.wall + span)
      · rw [Timestamp.plus_fits _ _ fits, Json.ok_bind]
        have moved : (⟨approval.grantedAt.wall + span, approval.grantedAt.offset, fits⟩ : Timestamp).instant =
            approval.grantedAt.instant + span := add_sub_right_comm _ _ _
        by_cases aware : approval.grantedAt.aware = true
        · have same : now.time.aware = (⟨approval.grantedAt.wall + span, approval.grantedAt.offset, fits⟩ : Timestamp).aware :=
            now.aware.trans aware.symm
          rw [Timestamp.lt, Timestamp.paired_same _ _ _ same, moved]
          simp [Expires, lasts, fits, aware, eq_comm]
        · have mixed : now.time.aware ≠ (⟨approval.grantedAt.wall + span, approval.grantedAt.offset, fits⟩ : Timestamp).aware :=
            fun same => aware (same.symm.trans now.aware)
          rw [Timestamp.lt, Timestamp.paired_mixed _ _ _ mixed]
          simp [Expires, aware]
      · rw [Timestamp.plus_outside _ _ fits]
        simp [Expires, lasts, fits, bind, Except.bind]

theorem complete_closed_iff (members : List (String × Json F)) (hash ttl : Json F) (granted : Timestamp)
    (complete : Complete (.obj members) hash ttl granted) (actor reason : String)
    (decoded : LiveApproval.fromDict (.obj members) =
      ttl.toFloat.map (fun hours => ⟨actor, reason, hash.toText, granted, hours⟩)) (reportHash : String) (now : UtcTime) :
    ApprovalFailsClosed (some (.ok (.obj members))) reportHash now ↔ Sound (.obj members) reportHash now := by
  have made : ApprovalStore.init (some (.ok (.obj members))) = Json.attempt ApprovalStore.handled
      (ttl.toFloat.map (fun hours => ⟨actor, reason, hash.toText, granted, hours⟩)) >>= fun approval => .ok ⟨approval⟩ := by
    rw [ApprovalStore.init, Json.ok_bind, decoded]
  have only (P : Json F → Json F → Timestamp → Prop) :
      (∀ hash' ttl' granted', Complete (.obj members) hash' ttl' granted' → P hash' ttl' granted') ↔ P hash ttl granted := by
    refine ⟨fun all => all hash ttl granted complete, fun here hash' ttl' granted' other => ?_⟩
    obtain ⟨rfl, rfl, rfl⟩ := complete_unique _ _ _ _ _ _ _ complete other
    exact here
  have sound : Sound (.obj members) reportHash now ↔
      (∀ raised, ttl.toFloat = .error raised → ApprovalStore.handled raised = true) ∧
        ∀ hours, ttl.toFloat = .ok hours → hash.toText = reportHash → ∃ span, Expires granted hours span ∧
          (now.time.instant < granted.instant + span → Written (.obj members : Json F)) :=
    ⟨fun sound => ⟨(only _).mp sound.converts, (only _).mp sound.expires⟩,
      fun both => ⟨⟨members, rfl⟩, (only _).mpr both.1, (only _).mpr both.2⟩⟩
  rw [sound, ApprovalFailsClosed, made]
  cases converted : ttl.toFloat with
  | error raised =>
      cases known : ApprovalStore.handled raised with
      | true => simp [Except.map, Json.attempt_handled _ raised known, Json.ok_bind, known, ApprovalStore.isValidFor]
      | false => simp [Except.map, Json.attempt_raised _ raised known, known, bind, Except.bind]
  | ok hours =>
      simp only [Except.map, Json.attempt_ok, Json.ok_bind]
      by_cases same : hash.toText = reportHash
      · subst same
        have valid := valid_iff ⟨actor, reason, hash.toText, granted, hours⟩ now
        constructor
        · rintro ⟨store, answer, made, judged, closed⟩
          cases made
          obtain ⟨span, expires, rfl⟩ := (valid answer).mp judged
          refine ⟨fun _ failed => (by cases failed), fun other same _ => ?_⟩
          cases same
          refine ⟨span, expires, fun ahead => ?_⟩
          obtain ⟨data, same, authorizes⟩ := closed (decide_eq_true ahead)
          cases same
          exact authorizes.written
        · rintro ⟨-, rest⟩
          obtain ⟨span, expires, written⟩ := rest hours rfl rfl
          refine ⟨_, decide (now.time.instant < granted.instant + span), rfl, (valid _).mpr ⟨span, expires, rfl⟩, ?_⟩
          intro yes
          have ahead := of_decide_eq_true yes
          exact ⟨_, rfl, written ahead, hash, ttl, granted, hours, span, complete, rfl, converted, expires, ahead⟩
      · have other : reportHash ≠ hash.toText := fun equal => same equal.symm
        simp [ApprovalStore.isValidFor, LiveApproval.isValidFor, other, same]

theorem data_closed_iff (data : Json F) (reportHash : String) (now : UtcTime) :
    ApprovalFailsClosed (some (.ok data)) reportHash now ↔ Sound data reportHash now := by
  by_cases object : IsObject data
  · obtain ⟨members, rfl⟩ := object
    by_cases found : ∃ hash ttl granted, Complete (.obj members) hash ttl granted
    · obtain ⟨hash, ttl, granted, complete⟩ := found
      obtain ⟨actor, reason, decoded⟩ := from_dict_complete members hash ttl granted complete
      exact complete_closed_iff members hash ttl granted complete actor reason decoded reportHash now
    · have incomplete (hash ttl : Json F) (granted : Timestamp) : ¬ Complete (.obj members) hash ttl granted :=
        fun complete => found ⟨hash, ttl, granted, complete⟩
      obtain ⟨raised, failed, handled⟩ := from_dict_incomplete members incomplete
      have made : ApprovalStore.init (some (.ok (.obj members))) = .ok (⟨none⟩ : ApprovalStore F) := by
        rw [ApprovalStore.init, Json.ok_bind, failed, Json.attempt_handled _ raised handled, Json.ok_bind]
      constructor
      · intro _
        exact ⟨⟨members, rfl⟩, fun hash ttl granted complete => absurd complete (incomplete hash ttl granted),
          fun hash ttl granted complete => absurd complete (incomplete hash ttl granted)⟩
      · intro _
        exact ⟨⟨none⟩, false, made, rfl, fun yes => (by cases yes)⟩
  · constructor
    · rintro ⟨store, answer, made, -⟩
      rw [ApprovalStore.init, Json.ok_bind, from_dict_other data object] at made
      cases made
    · exact fun sound => absurd sound.object object

theorem approval_closed_iff (file : StateFile F) (reportHash : String) (now : UtcTime) :
    ApprovalFailsClosed file reportHash now ↔ ApprovalFileSound file reportHash now := by
  cases file with
  | none => exact ⟨fun _ => trivial, fun _ => ⟨⟨none⟩, false, rfl, rfl, fun yes => (by cases yes)⟩⟩
  | some content =>
      cases content with
      | ok data => exact data_closed_iff data reportHash now
      | error raised =>
          rw [ApprovalFailsClosed, ApprovalFileSound]
          cases known : ApprovalStore.handled raised with
          | true =>
              have made : ApprovalStore.init (some (.error raised) : StateFile F) = .ok ⟨none⟩ := by
                rw [ApprovalStore.init, show (Except.error raised >>= LiveApproval.fromDict) = .error raised from rfl,
                  Json.attempt_handled _ raised known, Json.ok_bind]
              exact ⟨fun _ => rfl, fun _ => ⟨⟨none⟩, false, made, rfl, fun yes => (by cases yes)⟩⟩
          | false =>
              refine ⟨?_, fun yes => (by cases yes)⟩
              rintro ⟨store, answer, made, -⟩
              rw [ApprovalStore.init, show (Except.error raised >>= LiveApproval.fromDict) = .error raised from rfl,
                Json.attempt_raised _ raised known] at made
              cases made

-- The document says whether the switch is active, and since when it can be read.
def Dated (members : List (String × Json F)) : Prop :=
  ∀ raw, Json.member members "engaged_at" = some raw → raw.toBool = true →
    ∃ time, PyDatetime.fromisoformat F raw.toText = some time

def Understood (content : Except PyError (Json F)) : Prop :=
  ∃ members value, content = .ok (.obj members) ∧ Json.member members "active" = some (.bool value) ∧ Dated members

-- The controller starts, and not released over a file that it cannot make out.
def SwitchFailsClosed (persistState : Bool) (risk : Option RiskManager) (file : StateFile F) : Prop :=
  ∃ after, (KillSwitchController.init persistState risk).start file = .ok after ∧
    (persistState = true → ∀ content, file = some content → ¬ Understood content → after.switch.active = true)

def SwitchFileSound (persistState : Bool) (file : StateFile F) : Prop :=
  persistState = true → ∀ content, file = some content → ∃ members active, content = .ok (.obj members) ∧
    Json.member members "active" = some active ∧ (active.toBool = true ∨ active = .bool false) ∧ Dated members

theorem switch_from_dict (members : List (String × Json F)) :
    (Dated members → ∃ state, KillSwitchState.fromDict (.obj members) = .ok state ∧
      state.active = ((Json.member members "active").getD (.bool false)).toBool) ∧
    (¬ Dated members → KillSwitchState.fromDict (.obj members) = .error .value) := by
  have decoded : KillSwitchState.fromDict (.obj members) =
      engagedAtOf ((Json.member members "engaged_at").getD .null) >>= fun engagedAt =>
      .ok ⟨((Json.member members "active").getD (.bool false)).toBool,
        ((Json.member members "trigger").getD (.str "")).toText, ((Json.member members "reason").getD (.str "")).toText,
        ((Json.member members "actor").getD (.str "")).toText, engagedAt⟩ := by
    simp only [KillSwitchState.fromDict, Json.get, Json.ok_bind]
  rw [decoded]
  cases raw : Json.member members "engaged_at" with
  | none =>
      refine ⟨fun _ => ⟨_, rfl, rfl⟩, fun undated => absurd ?_ undated⟩
      intro other given
      rw [raw] at given
      cases given
  | some field =>
      by_cases said : field.toBool = true
      · rw [Option.getD_some, engagedAtOf, if_pos said, momentOf]
        cases read : PyDatetime.fromisoformat F field.toText with
        | none =>
            refine ⟨fun dated => ?_, fun _ => rfl⟩
            obtain ⟨time, given⟩ := dated field raw said
            rw [read] at given
            cases given
        | some time =>
            refine ⟨fun _ => ⟨_, rfl, rfl⟩, fun undated => absurd ?_ undated⟩
            intro other given _
            cases Option.some.inj (raw.symm.trans given)
            exact ⟨time, read⟩
      · rw [Option.getD_some, engagedAtOf, if_neg said]
        refine ⟨fun _ => ⟨_, rfl, rfl⟩, fun undated => absurd ?_ undated⟩
        intro other given yes
        cases Option.some.inj (raw.symm.trans given)
        exact absurd yes said

-- A file that gives no state leaves the switch of a new controller, released.
theorem start_unread (risk : Option RiskManager) (content : Except PyError (Json F)) (raised : PyError)
    (failed : content >>= KillSwitchState.fromDict = .error raised) (after : KillSwitchController)
    (started : (KillSwitchController.init true risk).start (some content) = .ok after) : after.switch.active = false := by
  have on : (KillSwitchController.init true risk).persistState = true := rfl
  simp only [KillSwitchController.start, KillSwitchController.load, on, failed, Bool.not_true, Bool.false_eq_true,
    if_false] at started
  cases known : KillSwitchController.handled raised with
  | true =>
      rw [Json.attempt_handled _ raised known, Json.ok_bind] at started
      cases started
      rfl
  | false =>
      rw [Json.attempt_raised _ raised known] at started
      cases started

theorem start_read (risk : Option RiskManager) (content : Except PyError (Json F)) (state : KillSwitchState)
    (read : content >>= KillSwitchState.fromDict = .ok state) : ∃ after,
      (KillSwitchController.init true risk).start (some content) = .ok after ∧ after.switch.active = state.active := by
  have on : (KillSwitchController.init true risk).persistState = true := rfl
  simp only [KillSwitchController.start, KillSwitchController.load, on, read, Bool.not_true, Bool.false_eq_true,
    if_false, Json.attempt_ok, Json.ok_bind]
  cases active : state.active with
  | true => exact ⟨_, rfl, active⟩
  | false => exact ⟨_, rfl, rfl⟩

theorem understood_obj (members : List (String × Json F)) : Understood (.ok (.obj members)) ↔
    (∃ value, Json.member members "active" = some (.bool value)) ∧ Dated members := by
  constructor
  · rintro ⟨other, value, equal, given, dated⟩
    cases equal
    exact ⟨⟨value, given⟩, dated⟩
  · rintro ⟨⟨value, given⟩, dated⟩
    exact ⟨members, value, rfl, given, dated⟩

theorem switch_content_iff (risk : Option RiskManager) (content : Except PyError (Json F)) :
    (∃ after, (KillSwitchController.init true risk).start (some content) = .ok after ∧
      (¬ Understood content → after.switch.active = true)) ↔
      ∃ members active, content = .ok (.obj members) ∧ Json.member members "active" = some active ∧
        (active.toBool = true ∨ active = .bool false) ∧ Dated members := by
  have unread (raised : PyError) (failed : content >>= KillSwitchState.fromDict = .error raised)
      (unknown : ¬ Understood content) : ¬ ∃ after, (KillSwitchController.init true risk).start (some content) = .ok after ∧
        (¬ Understood content → after.switch.active = true) := by
    rintro ⟨after, started, engaged⟩
    rw [start_unread risk content raised failed after started] at engaged
    cases engaged unknown
  by_cases object : ∃ members, content = .ok (.obj members)
  · obtain ⟨members, rfl⟩ := object
    obtain ⟨decodes, fails⟩ := switch_from_dict members
    by_cases dated : Dated members
    · obtain ⟨state, decoded, active⟩ := decodes dated
      obtain ⟨after, started, same⟩ := start_read risk (.ok (.obj members)) state decoded
      have known := (understood_obj members).trans (and_iff_left dated)
      rw [started]
      cases field : Json.member members "active" with
      | none =>
          rw [field] at active known
          simp [known, same, active, field, Json.toBool]
      | some value =>
          rw [field] at active known
          simp [known, same, active, field, dated]
          cases value with
          | bool said => cases said <;> simp [Json.toBool]
          | null | int _ | float _ | str _ | arr _ | obj _ => simp
    · have unknown : ¬ Understood (.ok (.obj members)) := fun understood => dated ((understood_obj members).mp understood).2
      refine iff_of_false (unread .value (fails dated) unknown) ?_
      rintro ⟨other, active, equal, -, -, known⟩
      cases equal
      exact dated known
  · have unknown : ¬ Understood content := by
      rintro ⟨members, value, equal, -⟩
      exact object ⟨members, equal⟩
    have failed : ∃ raised, content >>= KillSwitchState.fromDict = .error raised := by
      cases content with
      | error raised => exact ⟨raised, rfl⟩
      | ok data =>
          cases data with
          | obj members => exact absurd ⟨members, rfl⟩ object
          | null | bool _ | int _ | float _ | str _ | arr _ => exact ⟨.attribute, rfl⟩
    obtain ⟨raised, failed⟩ := failed
    refine iff_of_false (unread raised failed unknown) ?_
    rintro ⟨members, active, equal, -⟩
    exact object ⟨members, equal⟩

theorem switch_closed_iff (persistState : Bool) (risk : Option RiskManager) (file : StateFile F) :
    SwitchFailsClosed persistState risk file ↔ SwitchFileSound persistState file := by
  cases persistState with
  | false => exact ⟨fun _ off => (by cases off), fun _ => ⟨_, rfl, fun off => (by cases off)⟩⟩
  | true =>
      cases file with
      | none => exact ⟨fun _ _ content none => (by cases none), fun _ => ⟨_, rfl, fun _ content none => (by cases none)⟩⟩
      | some content => simpa [SwitchFailsClosed, SwitchFileSound] using switch_content_iff risk content

theorem fails_closed_iff (approvalFile : StateFile F) (reportHash : String) (now : UtcTime) (persistState : Bool)
    (risk : Option RiskManager) (switchFile : StateFile F) :
    (ApprovalFailsClosed approvalFile reportHash now ↔ ApprovalFileSound approvalFile reportHash now) ∧
      (SwitchFailsClosed persistState risk switchFile ↔ SwitchFileSound persistState switchFile) :=
  ⟨approval_closed_iff approvalFile reportHash now, switch_closed_iff persistState risk switchFile⟩

end

-- Exact numbers, and of the texts those that `isoformat` writes.
instance exactDatetimes : PyDatetime ℚ where
  toPyFloat := exactFloats
  fromisoformat text := match IsoTime.fromisoformat text with
    | .ok datetime => if fits : InRange datetime.moment then some ⟨datetime.moment, some 0, fits⟩ else none
    | .error _ => none
  hours value :=
    let span := Decimal.roundHalfEven (value * 3600000000)
    if -(999999999 * Calendar.day) ≤ span ∧ span < 1000000000 * Calendar.day then .ok span else .error .overflow

-- The approval file has a list; the state file was cut short while it was written.
theorem list_stops_approvals :
    ApprovalStore.init (some (.ok (.arr ([] : List (Json ℚ))))) = .error .type ∧
      (KillSwitchController.init true none).start (some (.error .value : Except PyError (Json ℚ))) =
        .ok (KillSwitchController.init true none) ∧
      (KillSwitchController.init true none).switch.active = false ∧
      (KillSwitchController.init true none).start (some (.ok (.arr ([] : List (Json ℚ))))) = .error .attribute ∧
      (¬ ∃ now, ApprovalFailsClosed (some (.ok (.arr ([] : List (Json ℚ))))) "" now) ∧
      ¬ SwitchFailsClosed true none (some (.error .value : Except PyError (Json ℚ))) := by
  refine ⟨rfl, rfl, rfl, rfl, ?_, ?_⟩
  · rintro ⟨now, store, answer, made, -⟩
    cases made
  · rintro ⟨after, started, engaged⟩
    cases started
    have unknown : ¬ Understood (.error .value : Except PyError (Json ℚ)) := by
      rintro ⟨members, value, equal, -⟩
      cases equal
    cases engaged rfl _ rfl unknown

end QuantEngine.StateFiles
