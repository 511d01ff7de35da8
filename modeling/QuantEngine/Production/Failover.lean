import QuantEngine.Library.Run
import Mathlib.Data.Rat.Floor
import Mathlib.Data.List.Nodup

set_option autoImplicit false

namespace QuantEngine.Failover

open Run

structure FailoverSettings where
  enabled : Bool
  leaseTtlSeconds : ℚ
  deriving DecidableEq

structure Lease where
  nodeId : String
  updatedAt : ℚ
  deriving DecidableEq

-- What the shared file holds. `unreadable` is text that does not parse into a
-- lease; a write that fails halfway leaves such text behind.
inductive LeaseFile where
  | absent
  | unreadable
  | held (lease : Lease)
  deriving DecidableEq

inductive WriteOutcome where
  | written
  | refused
  | truncated
  deriving DecidableEq

structure Disk where
  readable : Bool
  write : WriteOutcome
  unlinks : Bool
  deriving DecidableEq

inductive AuditAction where
  | failoverPromoted
  | failoverDemoted
  deriving DecidableEq

structure FailoverCoordinator where
  settings : FailoverSettings
  nodeId : String
  isPrimary : Bool
  audit : List AuditAction
  deriving DecidableEq

namespace FailoverCoordinator

-- A single node is always primary; with failover enabled a node starts standby.
def init (settings : FailoverSettings) (nodeId : String) : FailoverCoordinator :=
  { settings, nodeId, isPrimary := !settings.enabled, audit := [] }

def shouldRun (node : FailoverCoordinator) : Bool := node.isPrimary

def readLease (disk : Disk) : LeaseFile → Option Lease
  | .absent => none
  | .unreadable => none
  | .held lease => if disk.readable then some lease else none

def setPrimary (node : FailoverCoordinator) (value : Bool) : FailoverCoordinator :=
  { node with isPrimary := value }

def writeLease (node : FailoverCoordinator) (disk : Disk) (file : LeaseFile) (lease : Lease) :
    FailoverCoordinator × LeaseFile :=
  match disk.write with
  | .written => (node.setPrimary true, .held lease)
  | .refused => (node.setPrimary false, file)
  | .truncated => (node.setPrimary false, .unreadable)

def auditTransition (node : FailoverCoordinator) (wasPrimary : Bool) : FailoverCoordinator :=
  if node.isPrimary = wasPrimary then node
  else { node with
    audit := node.audit ++ [if node.isPrimary then .failoverPromoted else .failoverDemoted] }

def heldByMe (node : FailoverCoordinator) : Option Lease → Bool
  | none => false
  | some lease => lease.nodeId == node.nodeId

def expired (node : FailoverCoordinator) (moment : ℚ) : Option Lease → Bool
  | none => true
  | some lease => decide (moment - lease.updatedAt > node.settings.leaseTtlSeconds)

def heartbeat (node : FailoverCoordinator) (moment : ℚ) (disk : Disk) (file : LeaseFile) :
    FailoverCoordinator × LeaseFile :=
  if !node.settings.enabled then (node, file)
  else
    let lease := readLease disk file
    let result :=
      if node.heldByMe lease || node.expired moment lease then
        node.writeLease disk file ⟨node.nodeId, moment⟩
      else (node.setPrimary false, file)
    (result.1.auditTransition node.isPrimary, result.2)

def release (node : FailoverCoordinator) (disk : Disk) (file : LeaseFile) :
    FailoverCoordinator × LeaseFile :=
  if !node.settings.enabled then (node, file)
  else
    let left := if node.heldByMe (readLease disk file) && disk.unlinks then .absent else file
    ((node.setPrimary false).auditTransition node.isPrimary, left)

@[simp] theorem set_primary_id (node : FailoverCoordinator) (value : Bool) :
    (node.setPrimary value).nodeId = node.nodeId := rfl

@[simp] theorem set_primary_settings (node : FailoverCoordinator) (value : Bool) :
    (node.setPrimary value).settings = node.settings := rfl

@[simp] theorem set_primary_flag (node : FailoverCoordinator) (value : Bool) :
    (node.setPrimary value).isPrimary = value := rfl

@[simp] theorem audit_transition_id (node : FailoverCoordinator) (was : Bool) :
    (node.auditTransition was).nodeId = node.nodeId := by
  rw [auditTransition]
  split <;> rfl

@[simp] theorem audit_transition_settings (node : FailoverCoordinator) (was : Bool) :
    (node.auditTransition was).settings = node.settings := by
  rw [auditTransition]
  split <;> rfl

@[simp] theorem audit_transition_flag (node : FailoverCoordinator) (was : Bool) :
    (node.auditTransition was).isPrimary = node.isPrimary := by
  rw [auditTransition]
  split <;> rfl

-- A node takes the lease over: it holds none it could read and finds no fresh
-- one either, and its write goes through.
def takesOver (node : FailoverCoordinator) (moment : ℚ) (disk : Disk) (file : LeaseFile) : Bool :=
  !node.heldByMe (readLease disk file) && node.expired moment (readLease disk file) &&
    decide (disk.write = .written)

def Keeps (f : FailoverCoordinator → FailoverCoordinator × LeaseFile) : Prop :=
  ∀ node, (f node).1.nodeId = node.nodeId ∧ (f node).1.settings = node.settings

theorem write_lease_same (node : FailoverCoordinator) (disk : Disk) (file : LeaseFile) (lease : Lease) :
    (node.writeLease disk file lease).1.nodeId = node.nodeId ∧
      (node.writeLease disk file lease).1.settings = node.settings := by
  rw [writeLease]
  split <;> exact ⟨rfl, rfl⟩

theorem heartbeat_same (moment : ℚ) (disk : Disk) (file : LeaseFile) :
    Keeps (fun node => node.heartbeat moment disk file) := by
  intro node
  simp only [heartbeat]
  split
  · exact ⟨rfl, rfl⟩
  · simp only [audit_transition_id, audit_transition_settings]
    split
    · exact write_lease_same node disk file _
    · exact ⟨rfl, rfl⟩

-- The one way to leadership: the heartbeat wrote the lease in the node's own
-- name, over its own lease or over none that was fresh.
theorem heartbeat_primary (node : FailoverCoordinator) (moment : ℚ) (disk : Disk) (file : LeaseFile)
    (enabled : node.settings.enabled = true) (primary : (node.heartbeat moment disk file).1.isPrimary = true) :
    (node.heartbeat moment disk file).2 = .held ⟨node.nodeId, moment⟩ ∧
      (node.heldByMe (readLease disk file) = true ∨ node.takesOver moment disk file = true) := by
  simp only [heartbeat, enabled, Bool.not_true, Bool.false_eq_true, if_false, audit_transition_flag] at primary ⊢
  split at primary
  · rename_i may
    rw [if_pos may]
    cases outcome : disk.write with
    | refused => simp [writeLease, outcome] at primary
    | truncated => simp [writeLease, outcome] at primary
    | written =>
        refine ⟨by simp [writeLease, outcome], ?_⟩
        by_cases mine : node.heldByMe (readLease disk file) = true
        · exact .inl mine
        · right
          simp only [Bool.not_eq_true] at mine
          simpa [takesOver, mine, outcome] using may
  · simp at primary

theorem heartbeat_takes_over (node : FailoverCoordinator) (moment : ℚ) (disk : Disk) (file : LeaseFile)
    (enabled : node.settings.enabled = true) (taken : node.takesOver moment disk file = true) :
    (node.heartbeat moment disk file).1.isPrimary = true := by
  simp only [takesOver, Bool.and_eq_true, decide_eq_true_eq] at taken
  simp only [heartbeat, enabled, Bool.not_true, Bool.false_eq_true, if_false, audit_transition_flag,
    taken.1.2, Bool.or_true, if_true, writeLease, taken.2, set_primary_flag]

theorem heartbeat_standby (node : FailoverCoordinator) (moment : ℚ) (disk : Disk) (file : LeaseFile)
    (enabled : node.settings.enabled = true) (standby : (node.heartbeat moment disk file).1.isPrimary = false) :
    (node.heartbeat moment disk file).2 = file ∨ (node.heartbeat moment disk file).2 = .unreadable := by
  simp only [heartbeat, enabled, Bool.not_true, Bool.false_eq_true, if_false, audit_transition_flag] at standby ⊢
  split at standby
  · rename_i may
    rw [if_pos may]
    cases outcome : disk.write with
    | written => simp [writeLease, outcome] at standby
    | refused => exact .inl (by simp [writeLease, outcome])
    | truncated => exact .inr (by simp [writeLease, outcome])
  · rename_i may
    rw [if_neg may]
    exact .inl rfl

theorem release_same (disk : Disk) (file : LeaseFile) : Keeps (fun node => node.release disk file) := by
  intro node
  simp only [release]
  split
  · exact ⟨rfl, rfl⟩
  · simp

theorem release_standby (node : FailoverCoordinator) (disk : Disk) (file : LeaseFile)
    (enabled : node.settings.enabled = true) : (node.release disk file).1.isPrimary = false := by
  simp [release, enabled]

theorem release_file (node : FailoverCoordinator) (disk : Disk) (file : LeaseFile) :
    (node.release disk file).2 = file ∨ (node.release disk file).2 = .absent := by
  simp only [release]
  split
  · exact .inl rfl
  · split
    · exact .inr rfl
    · exact .inl rfl

end FailoverCoordinator

-- The nodes that share one lease file: distinct ids, failover enabled.
structure Cluster where
  clock : ℚ
  file : LeaseFile
  nodes : List FailoverCoordinator
  distinct : (nodes.map FailoverCoordinator.nodeId).Nodup
  enabled : ∀ node ∈ nodes, node.settings.enabled = true

inductive Move where
  | heartbeat (nodeId : String) (disk : Disk)
  | release (nodeId : String) (disk : Disk)
  | elapse (seconds : ℚ≥0)

namespace Cluster

open FailoverCoordinator

def act (cluster : Cluster) (nodeId : String) (f : FailoverCoordinator → FailoverCoordinator × LeaseFile)
    (same : Keeps f) : Cluster :=
  { cluster with
    nodes := cluster.nodes.map (fun node => if node.nodeId = nodeId then (f node).1 else node)
    file := match cluster.nodes.find? (fun node => node.nodeId = nodeId) with
      | none => cluster.file
      | some node => (f node).2
    distinct := by
      have ids : FailoverCoordinator.nodeId ∘ (fun node => if node.nodeId = nodeId then (f node).1 else node) =
          FailoverCoordinator.nodeId := by
        funext node
        simp only [Function.comp_apply]
        split
        · exact (same node).1
        · rfl
      rw [List.map_map, ids]
      exact cluster.distinct
    enabled := by
      intro node member
      obtain ⟨before, old, rfl⟩ := List.mem_map.mp member
      split
      · rw [(same before).2]
        exact cluster.enabled before old
      · exact cluster.enabled before old }

def step (cluster : Cluster) : Move → Cluster
  | .heartbeat nodeId disk =>
      cluster.act nodeId (fun node => node.heartbeat cluster.clock disk cluster.file)
        (heartbeat_same cluster.clock disk cluster.file)
  | .release nodeId disk =>
      cluster.act nodeId (fun node => node.release disk cluster.file)
        (release_same disk cluster.file)
  | .elapse seconds => { cluster with clock := cluster.clock + (seconds : ℚ) }

def AtMostOnePrimary (cluster : Cluster) : Prop :=
  ∀ a ∈ cluster.nodes, ∀ b ∈ cluster.nodes, a.shouldRun = true → b.shouldRun = true → a = b

instance (cluster : Cluster) : Decidable cluster.AtMostOnePrimary :=
  inferInstanceAs (Decidable (∀ a ∈ cluster.nodes, ∀ b ∈ cluster.nodes,
    a.shouldRun = true → b.shouldRun = true → a = b))

def Fresh (cluster : Cluster) : Prop :=
  ∀ node ∈ cluster.nodes, node = FailoverCoordinator.init node.settings node.nodeId

instance (cluster : Cluster) : Decidable cluster.Fresh :=
  inferInstanceAs (Decidable (∀ node ∈ cluster.nodes, node = FailoverCoordinator.init node.settings node.nodeId))

-- No node takes the lease over while the flag of another one is still up: the
-- holder of a lease that ran out has had a heartbeat or a release of its own
-- before anyone else's heartbeat finds the lease expired or cannot read it.
def HolderStoodDown (cluster : Cluster) : Move → Prop
  | .heartbeat nodeId disk => ∀ node ∈ cluster.nodes, node.nodeId = nodeId →
      node.takesOver cluster.clock disk cluster.file = true →
        ∀ other ∈ cluster.nodes, other.nodeId ≠ nodeId → other.isPrimary = false
  | _ => True

instance (cluster : Cluster) : ∀ move, Decidable (cluster.HolderStoodDown move)
  | .heartbeat nodeId disk => inferInstanceAs (Decidable (∀ node ∈ cluster.nodes, node.nodeId = nodeId →
      node.takesOver cluster.clock disk cluster.file = true →
        ∀ other ∈ cluster.nodes, other.nodeId ≠ nodeId → other.isPrimary = false))
  | .release _ _ => inferInstanceAs (Decidable True)
  | .elapse _ => inferInstanceAs (Decidable True)

-- A lease that can be read is the one of every node that leads.
def LeaseBacked (cluster : Cluster) : Prop :=
  ∀ node ∈ cluster.nodes, node.isPrimary = true → ∀ lease, cluster.file = .held lease →
    lease.nodeId = node.nodeId

def Inv (cluster : Cluster) : Prop := cluster.AtMostOnePrimary ∧ cluster.LeaseBacked

theorem same_node (cluster : Cluster) (a b : FailoverCoordinator) (left : a ∈ cluster.nodes)
    (right : b ∈ cluster.nodes) (ids : a.nodeId = b.nodeId) : a = b :=
  List.inj_on_of_nodup_map cluster.distinct left right ids

theorem mem_act (cluster : Cluster) (nodeId : String) (f : FailoverCoordinator → FailoverCoordinator × LeaseFile)
    (same : Keeps f)
    (node : FailoverCoordinator) (member : node ∈ (cluster.act nodeId f same).nodes) :
    (∃ before ∈ cluster.nodes, before.nodeId = nodeId ∧ node = (f before).1) ∨
      (node ∈ cluster.nodes ∧ node.nodeId ≠ nodeId) := by
  obtain ⟨before, old, rfl⟩ := List.mem_map.mp member
  by_cases here : before.nodeId = nodeId
  · exact .inl ⟨before, old, here, by rw [if_pos here]⟩
  · rw [if_neg here]
    exact .inr ⟨old, here⟩

theorem act_actor (cluster : Cluster) (nodeId : String) (f : FailoverCoordinator → FailoverCoordinator × LeaseFile)
    (same : Keeps f)
    (node : FailoverCoordinator) (member : node ∈ cluster.nodes) (here : node.nodeId = nodeId) :
    (f node).1 ∈ (cluster.act nodeId f same).nodes ∧ (cluster.act nodeId f same).file = (f node).2 := by
  constructor
  · exact List.mem_map.mpr ⟨node, member, by rw [if_pos here]⟩
  · have found : ∃ other, cluster.nodes.find? (fun node => node.nodeId = nodeId) = some other := by
      cases search : cluster.nodes.find? (fun node => node.nodeId = nodeId) with
      | none => exact absurd here (by simpa using List.find?_eq_none.mp search node member)
      | some other => exact ⟨other, rfl⟩
    obtain ⟨other, search⟩ := found
    have there : other.nodeId = nodeId := by simpa using List.find?_some search
    have eq := same_node cluster other node (List.mem_of_find?_eq_some search) member (there.trans here.symm)
    simp only [act, search, eq]

theorem act_others (cluster : Cluster) (nodeId : String) (f : FailoverCoordinator → FailoverCoordinator × LeaseFile)
    (same : Keeps f)
    (node : FailoverCoordinator) (member : node ∈ cluster.nodes) (elsewhere : node.nodeId ≠ nodeId) :
    node ∈ (cluster.act nodeId f same).nodes :=
  List.mem_map.mpr ⟨node, member, by rw [if_neg elsewhere]⟩

theorem act_standby (cluster : Cluster) (nodeId : String)
    (f : FailoverCoordinator → FailoverCoordinator × LeaseFile)
    (same : Keeps f)
    (inv : cluster.Inv)
    (standby : ∀ node ∈ cluster.nodes, node.nodeId = nodeId → (f node).1.isPrimary = false)
    (files : ∀ node ∈ cluster.nodes, node.nodeId = nodeId → ∀ lease, (f node).2 = .held lease →
      cluster.file = .held lease) : (cluster.act nodeId f same).Inv := by
  have primary (node : FailoverCoordinator) (member : node ∈ (cluster.act nodeId f same).nodes)
      (leads : node.isPrimary = true) : node ∈ cluster.nodes ∧ node.nodeId ≠ nodeId := by
    rcases mem_act cluster nodeId f same node member with ⟨before, old, here, rfl⟩ | kept
    · rw [standby before old here] at leads
      cases leads
    · exact kept
  constructor
  · intro a left b right leadsA leadsB
    exact inv.1 a (primary a left leadsA).1 b (primary b right leadsB).1 leadsA leadsB
  · intro node member leads lease held
    obtain ⟨old, _⟩ := primary node member leads
    apply inv.2 node old leads lease
    cases search : cluster.nodes.find? (fun node => node.nodeId = nodeId) with
    | none => simpa only [act, search] using held
    | some actor =>
        have here : actor.nodeId = nodeId := by simpa using List.find?_some search
        refine files actor (List.mem_of_find?_eq_some search) here lease ?_
        simpa only [act, search] using held

-- Nobody else leads beside a node that its heartbeat makes primary: the lease
-- was its own, or its holder has stood down.
theorem heartbeat_alone (cluster : Cluster) (nodeId : String) (disk : Disk) (inv : cluster.Inv)
    (stood : cluster.HolderStoodDown (.heartbeat nodeId disk)) (actor : FailoverCoordinator)
    (member : actor ∈ cluster.nodes) (here : actor.nodeId = nodeId)
    (primary : (actor.heartbeat cluster.clock disk cluster.file).1.isPrimary = true)
    (other : FailoverCoordinator) (old : other ∈ cluster.nodes) (apart : other.nodeId ≠ nodeId) :
    other.isPrimary = false := by
  obtain ⟨-, how⟩ := heartbeat_primary actor cluster.clock disk cluster.file (cluster.enabled actor member) primary
  cases how with
  | inr taken => exact stood actor member here taken other old apart
  | inl mine =>
      by_contra flag
      simp only [Bool.not_eq_false] at flag
      cases content : cluster.file with
      | absent => simp [content, readLease, heldByMe] at mine
      | unreadable => simp [content, readLease, heldByMe] at mine
      | held lease =>
          have owner := inv.2 other old flag lease content
          by_cases reads : disk.readable = true
          · have own : lease.nodeId = actor.nodeId := by simpa [content, readLease, heldByMe, reads] using mine
            exact apart (owner.symm.trans (own.trans here))
          · simp [content, readLease, heldByMe, reads] at mine

theorem heartbeat_leads (cluster : Cluster) (nodeId : String) (disk : Disk) (inv : cluster.Inv)
    (stood : cluster.HolderStoodDown (.heartbeat nodeId disk)) (actor : FailoverCoordinator)
    (member : actor ∈ cluster.nodes) (here : actor.nodeId = nodeId)
    (primary : (actor.heartbeat cluster.clock disk cluster.file).1.isPrimary = true) :
    (cluster.step (.heartbeat nodeId disk)).Inv := by
  obtain ⟨file, -⟩ := heartbeat_primary actor cluster.clock disk cluster.file (cluster.enabled actor member) primary
  have alone := heartbeat_alone cluster nodeId disk inv stood actor member here primary
  have holder (node : FailoverCoordinator)
      (left : node ∈ (cluster.step (.heartbeat nodeId disk)).nodes) (flag : node.isPrimary = true) :
      node = (actor.heartbeat cluster.clock disk cluster.file).1 := by
    rcases mem_act cluster nodeId _ (heartbeat_same cluster.clock disk cluster.file) node left with
      ⟨before, old, there, rfl⟩ | ⟨old, apart⟩
    · rw [same_node cluster before actor old member (there.trans here.symm)]
    · rw [alone node old apart] at flag
      cases flag
  constructor
  · intro a left b right flagA flagB
    rw [holder a left flagA, holder b right flagB]
  · intro node left flag lease held
    rw [holder node left flag, (heartbeat_same cluster.clock disk cluster.file actor).1]
    have content : (cluster.step (.heartbeat nodeId disk)).file = .held ⟨actor.nodeId, cluster.clock⟩ :=
      (act_actor cluster nodeId _ (heartbeat_same cluster.clock disk cluster.file) actor member here).2.trans file
    rw [content] at held
    cases held
    rfl

theorem heartbeat_keeps (cluster : Cluster) (nodeId : String) (disk : Disk) (inv : cluster.Inv)
    (stood : cluster.HolderStoodDown (.heartbeat nodeId disk)) :
    (cluster.step (.heartbeat nodeId disk)).Inv := by
  by_cases leads : ∃ node ∈ cluster.nodes, node.nodeId = nodeId ∧
      (node.heartbeat cluster.clock disk cluster.file).1.isPrimary = true
  · obtain ⟨actor, member, here, primary⟩ := leads
    exact heartbeat_leads cluster nodeId disk inv stood actor member here primary
  · have standby (node : FailoverCoordinator) (member : node ∈ cluster.nodes) (here : node.nodeId = nodeId) :
        (node.heartbeat cluster.clock disk cluster.file).1.isPrimary = false := by
      by_contra flag
      exact leads ⟨node, member, here, by simpa using flag⟩
    apply act_standby cluster nodeId _ (heartbeat_same cluster.clock disk cluster.file) inv standby
    intro node member here lease held
    cases heartbeat_standby node cluster.clock disk cluster.file (cluster.enabled node member)
      (standby node member here) with
    | inl kept =>
        rw [← kept]
        exact held
    | inr broken =>
        rw [broken] at held
        cases held

theorem step_keeps (cluster : Cluster) (move : Move) (inv : cluster.Inv)
    (stood : cluster.HolderStoodDown move) : (cluster.step move).Inv := by
  cases move with
  | heartbeat nodeId disk => exact heartbeat_keeps cluster nodeId disk inv stood
  | elapse seconds => exact inv
  | release nodeId disk =>
      apply act_standby cluster nodeId _ (release_same disk cluster.file) inv
      · exact fun node member _ => release_standby node disk cluster.file (cluster.enabled node member)
      · intro node member _ lease held
        cases release_file node disk cluster.file with
          | inl kept =>
              rw [← kept]
              exact held
          | inr gone =>
              rw [gone] at held
              cases held

-- Taking the lease over a flag that is still up makes two primaries.
theorem step_one_primary (cluster : Cluster) (move : Move) (one : (cluster.step move).AtMostOnePrimary) :
    cluster.HolderStoodDown move := by
  cases move with
  | release nodeId disk => trivial
  | elapse seconds => trivial
  | heartbeat nodeId disk =>
      intro node member here takeover other old apart
      by_contra flag
      simp only [Bool.not_eq_false] at flag
      have taken := heartbeat_takes_over node cluster.clock disk cluster.file (cluster.enabled node member) takeover
      have keeps := heartbeat_same cluster.clock disk cluster.file
      have both := one _ (act_actor cluster nodeId _ keeps node member here).1
        _ (act_others cluster nodeId _ keeps other old apart) taken flag
      apply apart
      rw [← both, (heartbeat_same cluster.clock disk cluster.file node).1]
      exact here

theorem fresh_inv (cluster : Cluster) (fresh : cluster.Fresh) : cluster.Inv := by
  have standby (node : FailoverCoordinator) (member : node ∈ cluster.nodes) : node.isPrimary = false := by
    rw [fresh node member]
    simp [init, cluster.enabled node member]
  constructor
  · intro a left b right flag
    rw [shouldRun, standby a left] at flag
    cases flag
  · intro node member flag
    rw [standby node member] at flag
    cases flag

-- A run has at most one primary throughout exactly when every takeover in it
-- finds the other nodes' flags down.
theorem one_primary_iff (cluster : Cluster) (moves : List Move) (fresh : cluster.Fresh) :
    Always step AtMostOnePrimary cluster moves ↔ Each step HolderStoodDown cluster moves :=
  always_iff step AtMostOnePrimary HolderStoodDown Inv (fun _ inv => inv.1)
    (fun s move inv => ⟨step_one_primary s move, fun stood => (step_keeps s move inv stood).1⟩)
    step_keeps cluster moves (fresh_inv cluster fresh)

end Cluster

def pair : Cluster where
  clock := 0
  file := .absent
  nodes := [.init ⟨true, 30⟩ "a", .init ⟨true, 30⟩ "b"]
  distinct := by decide
  enabled := by decide

def working : Disk := ⟨true, .written, true⟩

theorem one_primary_iff_handover :
    Always Cluster.step Cluster.AtMostOnePrimary pair
        [.heartbeat "a" working, .elapse 10, .release "a" working, .heartbeat "b" working] ↔
      Each Cluster.step Cluster.HolderStoodDown pair
        [.heartbeat "a" working, .elapse 10, .release "a" working, .heartbeat "b" working] :=
  Cluster.one_primary_iff pair _ (by decide)

-- The primary goes silent past the lease's time to live and keeps its flag.
theorem two_primaries :
    ¬ Always Cluster.step Cluster.AtMostOnePrimary pair
      [.heartbeat "a" working, .elapse 31, .heartbeat "b" working] := by
  intro always
  have last : (Run.final Cluster.step pair
      [.heartbeat "a" working, .elapse 31, .heartbeat "b" working]).AtMostOnePrimary := always.2.2.2.1
  revert last
  decide +kernel

end QuantEngine.Failover
