import QuantEngine.Library.Extended
import QuantEngine.Production.Failover

set_option autoImplicit false

namespace QuantEngine.LeaseFile

open Failover (AuditAction)

abbrev Bytes := List UInt8

structure Lease (F : Type) where
  nodeId : String
  updatedAt : F

-- `json.loads` of the text that the bytes are, and `json.dumps` as bytes.
structure Codec (F : Type) where
  loads : Bytes → Except PyError (Json F)
  dumps : Json F → Bytes

-- What reading, writing and closing the file come to. A write that fails after
-- the file was opened leaves the start of the text there.
inductive WriteOutcome where
  | written
  | refused
  | cut (kept : Nat)

structure Disk where
  readable : Bool
  write : WriteOutcome

structure FailoverSettings (F : Type) where
  enabled : Bool
  leaseTtlSeconds : F

structure FailoverCoordinator (F : Type) where
  settings : FailoverSettings F
  nodeId : String
  isPrimary : Bool
  audit : List AuditAction

section

variable {F : Type} (codec : Codec F)

def Lease.toDict (lease : Lease F) : Json F := .obj [("node_id", .str lease.nodeId), ("updated_at", .float lease.updatedAt)]

namespace FailoverCoordinator

def setPrimary (node : FailoverCoordinator F) (value : Bool) : FailoverCoordinator F := { node with isPrimary := value }

def writeLease (node : FailoverCoordinator F) (disk : Disk) (file : Option Bytes) (lease : Lease F) :
    FailoverCoordinator F × Option Bytes :=
  match disk.write with
  | .written => (node.setPrimary true, some (codec.dumps lease.toDict))
  | .refused => (node.setPrimary false, file)
  | .cut kept => (node.setPrimary false, some ((codec.dumps lease.toDict).take kept))

def auditTransition (node : FailoverCoordinator F) (wasPrimary : Bool) : FailoverCoordinator F :=
  if node.isPrimary = wasPrimary then node
  else { node with audit := node.audit ++ [if node.isPrimary then .failoverPromoted else .failoverDemoted] }

def heldByMe (node : FailoverCoordinator F) : Option (Lease F) → Bool
  | none => false
  | some lease => lease.nodeId == node.nodeId

@[simp] theorem audit_transition_flag (node : FailoverCoordinator F) (was : Bool) :
    (node.auditTransition was).isPrimary = node.isPrimary := by
  rw [auditTransition]
  split <;> rfl

end FailoverCoordinator

-- The write fails, and what it leaves is what was there.
def Harmless (node : FailoverCoordinator F) (moment : F) (disk : Disk) (bytes : Bytes) : Prop :=
  match disk.write with
  | .written => False
  | .refused => True
  | .cut kept => (codec.dumps (Lease.toDict ⟨node.nodeId, moment⟩)).take kept = bytes

theorem write_harmless (node : FailoverCoordinator F) (moment : F) (disk : Disk) (bytes : Bytes) :
    ((node.writeLease codec disk (some bytes) ⟨node.nodeId, moment⟩).1.isPrimary = false ∧
      (node.writeLease codec disk (some bytes) ⟨node.nodeId, moment⟩).2 = some bytes) ↔
        Harmless codec node moment disk bytes := by
  cases outcome : disk.write <;>
    simp [FailoverCoordinator.writeLease, Harmless, outcome, FailoverCoordinator.setPrimary]

variable [Floats F]

def Lease.fromDict (data : Json F) : Except PyError (Lease F) := do
  let nodeId ← data.item "node_id"
  let updatedAt ← data.item "updated_at"
  let number ← updatedAt.toFloat
  .ok ⟨nodeId.toText, number⟩

def parse (disk : Disk) (bytes : Bytes) : Except PyError (Lease F) :=
  if disk.readable then codec.loads bytes >>= Lease.fromDict else .error .os

-- `except (OSError, ValueError, KeyError, TypeError)`.
def caught : PyError → Bool
  | .os | .value | .key | .type => true
  | _ => false

def readLease (disk : Disk) (file : Option Bytes) : Except PyError (Option (Lease F)) :=
  match file with
  | none => .ok none
  | some bytes => Json.attempt caught (parse codec disk bytes)

namespace FailoverCoordinator

def expired (node : FailoverCoordinator F) (moment : F) : Option (Lease F) → Bool
  | none => true
  | some lease => Floats.lt node.settings.leaseTtlSeconds (Floats.sub moment lease.updatedAt)

def heartbeat (node : FailoverCoordinator F) (moment : F) (disk : Disk) (file : Option Bytes) :
    Except PyError Bool × FailoverCoordinator F × Option Bytes :=
  if !node.settings.enabled then (.ok true, node, file)
  else match readLease codec disk file with
    | .error raised => (.error raised, node, file)
    | .ok lease =>
        let result :=
          if node.heldByMe lease || node.expired moment lease then node.writeLease codec disk file ⟨node.nodeId, moment⟩
          else (node.setPrimary false, file)
        let after := result.1.auditTransition node.isPrimary
        (.ok after.isPrimary, after, result.2)

end FailoverCoordinator

def Unreadable (disk : Disk) (bytes : Bytes) : Prop := ∀ lease, parse codec disk bytes ≠ .ok lease

def Number (data : Json F) : Prop := ∃ value, data.toFloat = .ok value

theorem unreadable_iff (disk : Disk) (bytes : Bytes) : Unreadable codec disk bytes ↔
    disk.readable = false ∨ (∃ raised, codec.loads bytes = .error raised) ∨
      ∃ data, codec.loads bytes = .ok data ∧ ((∃ raised, data.item "node_id" = .error raised) ∨
        (∃ raised, data.item "updated_at" = .error raised) ∨
        ∃ field, data.item "updated_at" = .ok field ∧ ¬ Number field) := by
  rw [Unreadable, parse]
  cases disk.readable with
  | false => simp
  | true =>
      cases loaded : codec.loads bytes with
      | error raised => simp [bind, Except.bind]
      | ok data =>
          simp only [if_true, Json.ok_bind, Lease.fromDict]
          cases nodeId : data.item "node_id" with
          | error raised => simp [bind, Except.bind, nodeId]
          | ok text =>
              cases updatedAt : data.item "updated_at" with
              | error raised => simp [bind, Except.bind, nodeId, updatedAt]
              | ok field =>
                  cases number : field.toFloat with
                  | error raised => simp [bind, Except.bind, nodeId, updatedAt, Number, number]
                  | ok value => simp [bind, Except.bind, nodeId, updatedAt, Number, number]

-- When in doubt, standby.
structure StandsBy (node : FailoverCoordinator F) (moment : F) (disk : Disk) (bytes : Bytes) : Prop where
  standby : (node.heartbeat codec moment disk (some bytes)).2.1.isPrimary = false
  untouched : (node.heartbeat codec moment disk (some bytes)).2.2 = some bytes

theorem doubtful_lease_iff (node : FailoverCoordinator F) (moment : F) (disk : Disk) (bytes : Bytes)
    (enabled : node.settings.enabled = true) (unreadable : Unreadable codec disk bytes) :
    StandsBy codec node moment disk bytes ↔
      ∃ raised, parse codec disk bytes = .error raised ∧
        if caught raised then Harmless codec node moment disk bytes else node.isPrimary = false := by
  cases failed : parse codec disk bytes with
  | ok lease => exact absurd failed (unreadable lease)
  | error raised =>
      have only (P : PyError → Prop) : (∃ other, (Except.error raised : Except PyError (Lease F)) = .error other ∧ P other) ↔
          P raised := by simp
      rw [only]
      cases known : caught raised with
      | false =>
          have stopped : node.heartbeat codec moment disk (some bytes) = (.error raised, node, some bytes) := by
            simp [FailoverCoordinator.heartbeat, enabled, readLease, failed, Json.attempt_raised _ raised known]
          constructor
          · intro stands
            have standby := stands.standby
            rw [stopped] at standby
            simpa using standby
          · intro standby
            constructor
            · rw [stopped]
              simpa using standby
            · rw [stopped]
      | true =>
          have taken : (node.heartbeat codec moment disk (some bytes)).2 =
              ((node.writeLease codec disk (some bytes) ⟨node.nodeId, moment⟩).1.auditTransition node.isPrimary,
                (node.writeLease codec disk (some bytes) ⟨node.nodeId, moment⟩).2) := by
            simp [FailoverCoordinator.heartbeat, enabled, readLease, failed, Json.attempt_handled _ raised known,
              FailoverCoordinator.heldByMe, FailoverCoordinator.expired]
          rw [if_pos rfl, ← write_harmless codec node moment disk bytes]
          constructor
          · rintro ⟨standby, untouched⟩
            rw [taken] at standby untouched
            exact ⟨by simpa using standby, untouched⟩
          · rintro ⟨standby, untouched⟩
            exact ⟨by rw [taken]; simpa using standby, by rw [taken]; exact untouched⟩

end

-- Another node has just opened the lease to write it, so it is empty.
def opened : Codec Extended where
  loads _ := .error .value
  dumps _ := "\x7b\"node_id\": \"b\", \"updated_at\": 100.0\x7d".toUTF8.toList

def standbyNode : FailoverCoordinator Extended := ⟨⟨true, .finite 30⟩, "b", false, []⟩

theorem empty_unreadable (disk : Disk) : Unreadable opened disk [] := by
  rw [unreadable_iff]
  exact .inr (.inl ⟨.value, rfl⟩)

theorem doubtful_lease_iff_refused :
    StandsBy opened standbyNode (.finite 100) ⟨true, .refused⟩ [] ↔
      ∃ raised, parse opened ⟨true, .refused⟩ [] = .error raised ∧
        if caught raised then Harmless opened standbyNode (.finite 100) ⟨true, .refused⟩ []
        else standbyNode.isPrimary = false :=
  doubtful_lease_iff opened standbyNode (.finite 100) ⟨true, .refused⟩ [] rfl (empty_unreadable _)

theorem empty_lease_taken :
    standbyNode.settings.enabled = true ∧ Unreadable opened ⟨true, .written⟩ [] ∧
      (standbyNode.heartbeat opened (.finite 100) ⟨true, .written⟩ (some [])).1 = .ok true ∧
      (standbyNode.heartbeat opened (.finite 100) ⟨true, .written⟩ (some [])).2.2 =
        some (opened.dumps (Lease.toDict ⟨"b", .finite 100⟩)) ∧
      ¬ StandsBy opened standbyNode (.finite 100) ⟨true, .written⟩ [] := by
  refine ⟨rfl, empty_unreadable _, rfl, rfl, fun stands => ?_⟩
  cases stands.standby

-- Where the numbers are exact and the text of a lease is read back, this is the
-- coordinator over the file as what it gives to a reader.
def viewNode (node : FailoverCoordinator Extended) (ttl : ℚ) : Failover.FailoverCoordinator :=
  ⟨⟨node.settings.enabled, ttl⟩, node.nodeId, node.isPrimary, node.audit⟩

def viewFile (codec : Codec Extended) (file : Option Bytes) : Failover.LeaseFile :=
  match file with
  | none => .absent
  | some bytes =>
      match codec.loads bytes >>= Lease.fromDict with
      | .ok ⟨nodeId, .finite updatedAt⟩ => .held ⟨nodeId, updatedAt⟩
      | _ => .unreadable

def viewDisk (disk : Disk) : Failover.Disk where
  readable := disk.readable
  write := match disk.write with
    | .written => .written
    | .refused => .refused
    | .cut _ => .truncated
  unlinks := true

-- No error escapes the reader, and no lease was written at no number.
def Plain (codec : Codec Extended) (bytes : Bytes) : Prop :=
  (∃ nodeId updatedAt, codec.loads bytes >>= Lease.fromDict = .ok ⟨nodeId, .finite updatedAt⟩) ∨
    ∃ raised, codec.loads bytes >>= Lease.fromDict = .error raised ∧ caught raised = true

structure Faithful (codec : Codec Extended) : Prop where
  whole : ∀ lease : Lease Extended, codec.loads (codec.dumps lease.toDict) = .ok lease.toDict
  part : ∀ (lease : Lease Extended) (kept : Nat), kept < (codec.dumps lease.toDict).length → ∃ raised,
    codec.loads ((codec.dumps lease.toDict).take kept) = .error raised

def viewLease (lease : Option (Lease Extended)) : Option Failover.Lease :=
  match lease with
  | some ⟨nodeId, .finite updatedAt⟩ => some ⟨nodeId, updatedAt⟩
  | _ => none

theorem read_view (codec : Codec Extended) (disk : Disk) (file : Option Bytes)
    (plain : ∀ bytes, file = some bytes → Plain codec bytes) :
    ∃ lease, readLease codec disk file = .ok lease ∧
      Failover.FailoverCoordinator.readLease (viewDisk disk) (viewFile codec file) = viewLease lease ∧
        ∀ known, lease = some known → ∃ updatedAt, known.updatedAt = .finite updatedAt := by
  cases file with
  | none => exact ⟨none, rfl, rfl, fun _ given => by cases given⟩
  | some bytes =>
      cases readable : disk.readable with
      | false =>
          refine ⟨none, by simp [readLease, parse, readable, Json.attempt_handled caught .os rfl], ?_, fun _ given => by cases given⟩
          rcases plain bytes rfl with ⟨nodeId, updatedAt, read⟩ | ⟨raised, read, -⟩
          · simp [viewFile, read, Failover.FailoverCoordinator.readLease, viewDisk, readable, viewLease]
          · simp [viewFile, read, Failover.FailoverCoordinator.readLease, viewLease]
      | true =>
          rcases plain bytes rfl with ⟨nodeId, updatedAt, read⟩ | ⟨raised, read, known⟩
          · refine ⟨some ⟨nodeId, .finite updatedAt⟩, by simp [readLease, parse, readable, read], ?_, ?_⟩
            · simp [viewFile, read, Failover.FailoverCoordinator.readLease, viewDisk, readable, viewLease]
            · rintro known ⟨⟩
              exact ⟨updatedAt, rfl⟩
          · refine ⟨none, by simp [readLease, parse, readable, read, Json.attempt_handled caught raised known], ?_, fun _ given => by cases given⟩
            simp [viewFile, read, Failover.FailoverCoordinator.readLease, viewLease]

theorem lease_read (lease : Lease Extended) : Lease.fromDict lease.toDict = .ok lease := rfl

theorem write_view (codec : Codec Extended) (faithful : Faithful codec) (node : FailoverCoordinator Extended) (ttl moment : ℚ)
    (disk : Disk) (file : Option Bytes) (short : ∀ kept, disk.write = .cut kept →
      kept < (codec.dumps (Lease.toDict ⟨node.nodeId, .finite moment⟩)).length) :
    (viewNode node ttl).writeLease (viewDisk disk) (viewFile codec file) ⟨node.nodeId, moment⟩ =
      (viewNode (node.writeLease codec disk file ⟨node.nodeId, .finite moment⟩).1 ttl,
        viewFile codec (node.writeLease codec disk file ⟨node.nodeId, .finite moment⟩).2) := by
  cases outcome : disk.write with
  | written =>
      have back : viewFile codec (some (codec.dumps (Lease.toDict ⟨node.nodeId, .finite moment⟩))) =
          .held ⟨node.nodeId, moment⟩ := by
        rw [viewFile, faithful.whole, Json.ok_bind, lease_read]
      simp only [FailoverCoordinator.writeLease, Failover.FailoverCoordinator.writeLease, viewDisk, outcome, back]
      rfl
  | refused =>
      simp only [FailoverCoordinator.writeLease, Failover.FailoverCoordinator.writeLease, viewDisk, outcome]
      rfl
  | cut kept =>
      obtain ⟨raised, failed⟩ := faithful.part ⟨node.nodeId, .finite moment⟩ kept (short kept outcome)
      have broken : viewFile codec (some ((codec.dumps (Lease.toDict ⟨node.nodeId, .finite moment⟩)).take kept)) =
          .unreadable := by
        rw [viewFile, failed]
        rfl
      simp only [FailoverCoordinator.writeLease, Failover.FailoverCoordinator.writeLease, viewDisk, outcome, broken]
      rfl

theorem audit_view (node : FailoverCoordinator Extended) (ttl : ℚ) (was : Bool) :
    (viewNode node ttl).auditTransition was = viewNode (node.auditTransition was) ttl := by
  rw [FailoverCoordinator.auditTransition, Failover.FailoverCoordinator.auditTransition]
  by_cases same : node.isPrimary = was
  · rw [if_pos same, if_pos (show (viewNode node ttl).isPrimary = was from same)]
  · rw [if_neg same, if_neg (show ¬ (viewNode node ttl).isPrimary = was from same)]
    rfl

theorem held_view (node : FailoverCoordinator Extended) (ttl moment : ℚ) (lease : Option (Lease Extended))
    (finite : node.settings.leaseTtlSeconds = .finite ttl)
    (number : ∀ known, lease = some known → ∃ updatedAt, known.updatedAt = .finite updatedAt) :
    (viewNode node ttl).heldByMe (viewLease lease) = node.heldByMe lease ∧
      (viewNode node ttl).expired moment (viewLease lease) = node.expired (.finite moment) lease := by
  cases lease with
  | none => exact ⟨rfl, rfl⟩
  | some known =>
      obtain ⟨updatedAt, given⟩ := number known rfl
      obtain ⟨nodeId, number⟩ := known
      cases given
      refine ⟨rfl, ?_⟩
      have age : Floats.sub (Extended.finite moment) (.finite updatedAt) = .finite (moment - updatedAt) :=
        Extended.add_neg_finite moment updatedAt
      simp only [viewLease, Failover.FailoverCoordinator.expired, FailoverCoordinator.expired, viewNode, finite, age]
      exact (Extended.lt_finite ttl (moment - updatedAt)).symm

theorem heartbeat_view (codec : Codec Extended) (faithful : Faithful codec) (node : FailoverCoordinator Extended)
    (ttl moment : ℚ) (disk : Disk) (file : Option Bytes) (finite : node.settings.leaseTtlSeconds = .finite ttl)
    (plain : ∀ bytes, file = some bytes → Plain codec bytes) (short : ∀ kept, disk.write = .cut kept →
      kept < (codec.dumps (Lease.toDict ⟨node.nodeId, .finite moment⟩)).length) :
    (viewNode node ttl).heartbeat moment (viewDisk disk) (viewFile codec file) =
      (viewNode (node.heartbeat codec (.finite moment) disk file).2.1 ttl,
        viewFile codec (node.heartbeat codec (.finite moment) disk file).2.2) := by
  rw [Failover.FailoverCoordinator.heartbeat, FailoverCoordinator.heartbeat]
  cases enabled : node.settings.enabled with
  | false => simp [viewNode, enabled]
  | true =>
      obtain ⟨lease, read, same, number⟩ := read_view codec disk file plain
      obtain ⟨held, expired⟩ := held_view node ttl moment lease finite number
      have on : (viewNode node ttl).settings.enabled = true := enabled
      simp only [on, Bool.not_true, Bool.false_eq_true, if_false, read, same, held, expired]
      split
      · rw [show (viewNode node ttl).nodeId = node.nodeId from rfl, write_view codec faithful node ttl moment disk file short]
        exact congrArg (·, _) (audit_view _ ttl _)
      · exact congrArg (·, _) (audit_view (node.setPrimary false) ttl _)

end QuantEngine.LeaseFile
