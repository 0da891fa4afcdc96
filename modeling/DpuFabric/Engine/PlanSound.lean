/-
  Engine.PlanSound — FEASIBLE PLANS ARE SOUND, AND FIT THEIR DEVICES.

  What the placement loop has booked (`Laid`), read as a statement about the
  plan that comes out: the services and replica counts of the intent, eligible
  devices, the anti-affinity policy of the group (`feasible_plan_sound`); and
  the demand on every device, summed without a bound, within what the device
  has free (`feasible_plan_fits`).
-/
import DpuFabric.Engine.PlanSize

namespace DpuFabric

open Lib

variable {r : PlanRequest} {weights : PlacementWeights}

/-! ## §1. What a plan promises to its request. -/

/-- The plan does what the request asks for. -/
structure SoundFor (r : PlanRequest) (plan : DeploymentPlan) : Prop where
  /-- The services of the intent, each once, with the replicas asked for. -/
  services : (plan.services.map fun sp => (sp.service, sp.desiredReplicas)).Perm
    (r.intent.services.map fun entry => (entry.service, entry.desiredReplicas))
  distinct : (plan.services.map ServicePlan.service).Nodup
  /-- All replicas are placed, with the indices from zero. -/
  placed : ∀ sp ∈ plan.services, sp.placedReplicas = sp.desiredReplicas
    ∧ sp.replicas.length = sp.desiredReplicas.toNat
    ∧ sp.replicas.map PlannedReplica.index
        = (List.range sp.replicas.length).map fun n => ⟨UInt64.ofNat n⟩
  /-- Each on a device of the topology that is eligible, and in its domain. -/
  stands : ∀ sp ∈ plan.services, ∀ replica ∈ sp.replicas, Stands r sp.service replica
  once : ∀ sp ∈ plan.services, (sp.replicas.map PlannedReplica.dpu).Nodup
  /-- The caps per device and per domain hold for the whole plan. -/
  perDpu : ∀ d, (placedBy plan.services).countP (fun y => decide (y.2.dpu = d))
    ≤ min r.group.antiAffinity.maxReplicasPerDpu.toNat
        (max 1 r.policy.maxReplicasPerDpuCeiling.toNat)
  perDomain : ∀ cap, r.group.antiAffinity.maxReplicasPerDomain = some cap →
    ∀ m, (placedBy plan.services).countP (fun y => decide (y.2.domain = m)) ≤ cap.toNat
  domains : r.group.antiAffinity.requireDistinctDomains = true →
    ∀ sp ∈ plan.services, (sp.replicas.map PlannedReplica.domain).Nodup

theorem maxPerDpu_toNat (r : PlanRequest) :
    (maxPerDpu r).toNat = min r.group.antiAffinity.maxReplicasPerDpu.toNat
      (max 1 r.policy.maxReplicasPerDpuCeiling.toNat) := by
  have hceiling : (if r.policy.maxReplicasPerDpuCeiling < 1 then (1 : UInt32)
      else r.policy.maxReplicasPerDpuCeiling).toNat
        = max 1 r.policy.maxReplicasPerDpuCeiling.toNat := by
    split
    · next hlt =>
      have hnat := UInt32.lt_iff_toNat_lt.mp hlt
      rw [show (1 : UInt32).toNat = 1 from rfl] at hnat ⊢
      omega
    · next hge =>
      have hnat := UInt32.le_iff_toNat_le.mp (UInt32.not_lt.mp hge)
      rw [show (1 : UInt32).toNat = 1 from rfl] at hnat
      omega
  unfold maxPerDpu
  simp only
  rw [← hceiling]
  generalize (if r.policy.maxReplicasPerDpuCeiling < 1 then (1 : UInt32)
    else r.policy.maxReplicasPerDpuCeiling) = ceiling
  split
  · next hlt =>
    have hnat := UInt32.lt_iff_toNat_lt.mp hlt
    omega
  · next hge =>
    have hnat := UInt32.le_iff_toNat_le.mp (UInt32.not_lt.mp hge)
    omega

theorem mem_placedBy {services : List ServicePlan} {sp : ServicePlan} {replica : PlannedReplica}
    (hsp : sp ∈ services) (hreplica : replica ∈ sp.replicas) :
    (sp.service, replica) ∈ placedBy services :=
  List.mem_flatMap.mpr ⟨sp, hsp, List.mem_map_of_mem hreplica⟩

/-- The services of a feasible placement, with what is desired of each. -/
theorem Feasible.services {set : ServiceSet} {order : List ServiceId} {p : Placement}
    (h : Feasible r set order p) :
    (p.services.map fun sp => (sp.service, sp.desiredReplicas)).Perm
        (r.intent.services.map fun entry => (entry.service, entry.desiredReplicas))
      ∧ (p.services.map ServicePlan.service).Nodup := by
  have hcollected := intentServices_collected r
  have hkeys : (p.services.map ServicePlan.service).Perm (intentServices r).services :=
    h.laid.services ▸ h.perm
  have hdesiredOf : set.desiredOf = (intentServices r).desiredOf := by
    funext id
    rw [ServiceSet.desiredOf, ServiceSet.desiredOf, h.desired]
  have hpairs : p.services.map (fun sp => (sp.service, sp.desiredReplicas))
      = (p.services.map ServicePlan.service).map
          fun id => (id, (intentServices r).desiredOf id) := by
    rw [List.map_map]
    refine List.map_congr_left fun sp hsp => ?_
    show (sp.service, sp.desiredReplicas) = (sp.service, (intentServices r).desiredOf sp.service)
    rw [(h.laid.each sp hsp).desired, hdesiredOf]
  refine ⟨?_, hkeys.nodup_iff.mpr (hcollected.services ▸ hcollected.nodup)⟩
  rw [hpairs]
  have htable := hcollected.complete h.accepted
  rw [← hcollected.desiredOf] at htable
  exact (hkeys.map _).trans (List.Perm.of_eq htable)

/-- **Feasible plans are sound.** -/
theorem feasible_plan_sound (r : PlanRequest) (weights : PlacementWeights)
    (hids : (r.topology.dpus.map DpuRecord.id).Nodup)
    (h : (buildPlan r weights).feasible = true) : SoundFor r (buildPlan r weights).plan := by
  obtain ⟨set, order, p, stages, hfeasible, -, hplan⟩ := buildPlan_laid h
  rw [hplan]
  show SoundFor r ((planBody r p.services stages).seal)
  have hlaid := hfeasible.laid
  refine ⟨hfeasible.services.1, hfeasible.services.2, fun sp hsp => ?_, fun sp hsp replica hr => ?_,
    fun sp hsp => ?_, fun d => ?_, fun cap hcap m => ?_, fun hrequired sp hsp => ?_⟩
  · have hfull := hlaid.complete hfeasible.complete sp hsp
    have hkept := (hlaid.each sp hsp).kept
    exact ⟨hfull, by rw [← hkept.placed, hfull], hkept.indices⟩
  · exact hlaid.booked.stands _ (mem_placedBy hsp hr)
  · exact (hlaid.each sp hsp).once hids
  · have hcount := hlaid.booked.onDpu d
    have hle := UInt32.le_iff_toNat_le.mp (hlaid.booked.dpuCap d)
    rw [hcount, maxPerDpu_toNat] at hle
    exact hle
  · obtain ⟨hcount, hle⟩ := hlaid.booked.inDomain cap hcap m
    have hnat := UInt32.le_iff_toNat_le.mp hle
    rw [hcount] at hnat
    exact hnat
  · exact (hlaid.each sp hsp).kept.domains hrequired

/-! ## §2. A request, to see the hypotheses met. -/

/-- An attached device with fresh evidence, in a domain of its own. -/
def demoDevice (name : String) : DpuRecord :=
  { id := .literal (txt name)
    domain := .literal (txt name)
    capacity := ⟨8, 8, 8, 8, 8⟩
    allocated := ⟨1, 0, 0, 0, 0⟩
    state := .attached
    capabilityGeneration := ⟨1⟩
    deviceEvidence := { id := .literal (txt "e"), validUntil := ⟨1000⟩ } }

def demoService (name : String) (cpu : UInt64) : ServiceDefinition :=
  { id := .literal (txt name)
    version := { major := 1 }
    resources := { cpuMillicores := cpu }
    replicas := { min := 1, max := 2 } }

/-- Two replicas of a service that takes 3 of the 7 free units of a device,
one of a service that takes 4. -/
def demoRequest : PlanRequest :=
  { topology := { generation := ⟨1⟩, dpus := ["d", "e"].map demoDevice }
    policy := { generation := ⟨1⟩, maxReplicasPerDpuCeiling := 2 }
    services := [demoService "a" 3, demoService "b" 4]
    dependencies := {}
    group := {
      id := .literal (txt "g")
      members := [.literal (txt "a"), .literal (txt "b")]
      antiAffinity := { maxReplicasPerDpu := 2, requireDistinctDomains := true } }
    intent := {
      id := .literal (txt "in")
      group := .literal (txt "g")
      generation := ⟨1⟩
      services := [{ service := .literal (txt "a"), desiredReplicas := 2 },
        { service := .literal (txt "b"), desiredReplicas := 1 }] }
    authority := {}
    generation := ⟨1⟩
    now := ⟨5⟩
    epoch := ⟨1⟩
    boot := ⟨1⟩
    bounds := {} }

theorem demoPlan_sound :
    (buildPlan demoRequest {}).feasible = true
      ∧ SoundFor demoRequest (buildPlan demoRequest {}).plan :=
  ⟨by decide +kernel, feasible_plan_sound demoRequest {} (by decide) (by decide +kernel)⟩

/-! ## §3. Capacity. -/

/-- The demand of the plan on a device. -/
def DeploymentPlan.demandOn (r : PlanRequest) (plan : DeploymentPlan) (d : DpuId) (x : Resource) :
    Nat :=
  usedOn r (placedBy plan.services) d x

/-- The subtractions of the planner are exact: neither the free capacity nor
what is left after a replica wraps, nor a difference of covered amounts. -/
def ExactSubtraction : Prop :=
  ∀ a b : ResourceVector,
    (∀ c, a.subtract b = .ok c → ∀ x, b.amount x ≤ a.amount x
      ∧ c.amount x = a.amount x - b.amount x)
    ∧ (∀ c, a.headroom b = .ok c → ∀ x, b.amount x ≤ a.amount x
      ∧ c.amount x = a.amount x - b.amount x)
    ∧ (a.covers b = true → (∃ c, a.subtract b = .ok c) ∧ ∀ x, b.amount x ≤ a.amount x)

theorem exactSubtraction : ExactSubtraction := by
  have hexact : ∀ {a b c : ResourceVector}, (∀ x, c.amount x + b.amount x = a.amount x) →
      ∀ x, b.amount x ≤ a.amount x ∧ c.amount x = a.amount x - b.amount x := by
    intro a b c h x
    have hx := h x
    omega
  intro a b
  exact ⟨fun c hc => hexact (ResourceVector.subtract_ok hc),
    fun c hc => hexact (ResourceVector.headroom_ok hc),
    fun hcovers => ⟨ResourceVector.subtract_covered hcovers,
      ResourceVector.covers_iff.mp hcovers⟩⟩

/-- **Feasible plans never overcommit a device.**  The demand of all replicas
on a device, over all services of the plan and without a bound, is at most
what the device has free; a topology that lists a device twice has the record
that was used first in this place. -/
theorem feasible_plan_fits (r : PlanRequest) (weights : PlacementWeights)
    (h : (buildPlan r weights).feasible = true) : let plan := (buildPlan r weights).plan
    (∀ d, (∃ y ∈ placedBy plan.services, y.2.dpu = d) →
        ∃ dpu ∈ r.topology.dpus, dpu.id = d
          ∧ ∀ x, dpu.allocated.amount x + plan.demandOn r d x ≤ dpu.capacity.amount x)
      ∧ ((r.topology.dpus.map DpuRecord.id).Nodup → ∀ dpu ∈ r.topology.dpus, ∀ x,
          plan.demandOn r dpu.id x ≤ dpu.capacity.amount x - dpu.allocated.amount x)
      ∧ ExactSubtraction := by
  obtain ⟨set, order, p, stages, hfeasible, -, hplan⟩ := buildPlan_laid h
  intro plan
  have hservices : plan.services = p.services := congrArg DeploymentPlan.services hplan
  have hbooked := hfeasible.laid.booked
  have hfits : ∀ d, (∃ y ∈ placedBy plan.services, y.2.dpu = d) →
      ∃ dpu ∈ r.topology.dpus, dpu.id = d
        ∧ ∀ x, dpu.allocated.amount x + plan.demandOn r d x ≤ dpu.capacity.amount x := by
    rintro d ⟨y, hy, hd⟩
    rw [hservices] at hy
    have haccount := hbooked.resources d
    cases hleft : p.remaining d with
    | none =>
      rw [hleft] at haccount
      exact absurd hd (haccount y hy)
    | some left =>
      rw [hleft] at haccount
      obtain ⟨dpu, hdpu, hid, hamount⟩ := haccount
      refine ⟨dpu, hdpu, hid, fun x => ?_⟩
      rw [DeploymentPlan.demandOn, hservices]
      have hx := hamount x
      omega
  refine ⟨hfits, fun hids dpu hdpu x => ?_, exactSubtraction⟩
  by_cases hused : ∃ y ∈ placedBy plan.services, y.2.dpu = dpu.id
  · obtain ⟨dpu', hdpu', hid, hamount⟩ := hfits dpu.id hused
    obtain rfl := List.inj_on_of_nodup_map hids hdpu' hdpu hid
    have hx := hamount x
    omega
  · -- nothing is placed there
    have hnone : ∀ y ∈ placedBy plan.services, y.2.dpu ≠ dpu.id :=
      fun y hy heq => hused ⟨y, hy, heq⟩
    rw [DeploymentPlan.demandOn, usedOn_of_none hnone]
    exact Nat.zero_le _

theorem demoPlan_fits :
    (buildPlan demoRequest {}).plan.demandOn demoRequest (.literal (txt "d")) .cpu ≤ 7 := by
  have hfits := (feasible_plan_fits demoRequest {} (by decide +kernel)).2.1 (by decide)
    (demoDevice "d") (by decide) .cpu
  exact hfits

end DpuFabric
