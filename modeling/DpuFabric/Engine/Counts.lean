/-
  Engine.Counts — THE SEQUENCES OF AN ARCHIVED VALUE.

  The archive writes the length of every sequence in front of it, nested ones
  included, and `decode_binary` refuses a length above its limit.  `countsOf`
  lists these lengths for any archived value.  For a state it lists the sizes
  of all its containers, so their sum is the number of elements that the state
  holds.
-/
import DpuFabric.Engine.RoundTrip

namespace DpuFabric

open Lib Visit

/-! ## §1. The counts of a description. -/

/-- The length that a part announces. -/
def Part.counted : Part → Option Nat
  | .count n => some n
  | _ => none

/-- The lengths of the sequences of an archived value. -/
def countsOf {α : Type} (c : Visit α) [Described c] (v : α) : List Nat :=
  (partsOf c v).filterMap Part.counted

section Combinators

variable {α β : Type}

@[simp]
theorem countsOf_vec (c : Visit α) [Described c] (vs : List α) :
    countsOf (vec c) vs = vs.length :: vs.flatMap (countsOf c) := by
  simp only [countsOf, partsOf, Described.parts, Part.counted, List.filterMap_cons,
    List.filterMap_flatMap]
  rfl

@[simp]
theorem countsOf_field (name : String) (c : Visit α) (rest : Fields β) [Described c]
    [Described rest.codec] (v : α × β) :
    countsOf (Fields.field name c rest).codec v = countsOf c v.1 ++ countsOf rest.codec v.2 :=
  List.filterMap_append

@[simp]
theorem countsOf_last (name : String) (c : Visit α) [Described c] (v : α) :
    countsOf (Fields.last name c).codec v = countsOf c v := rfl

@[simp]
theorem countsOf_opt (c : Visit α) [Described c] (v : Option α) :
    countsOf (opt c) v = (v.map (countsOf c)).getD [] := by
  cases v <;> rfl

@[simp]
theorem map_nothing (v : Option α) : (v.map fun _ => ([] : List Nat)).getD [] = [] := by
  cases v <;> rfl

@[simp]
theorem flatMap_nothing (xs : List α) : xs.flatMap (fun _ => ([] : List Nat)) = [] := by
  simp

theorem countsOf_object {name : String} {h : (txt name).length ≤ maxDecodedBlob}
    {fields : Fields β} {unpack : α → β} {pack : β → α} [Described fields.codec]
    (hpack : Function.LeftInverse unpack pack) (v : α) :
    @countsOf α (object name h fields unpack pack) (describedObject hpack) v
      = countsOf fields.codec (unpack v) := rfl

end Combinators

/-! ## §2. Values without sequences. -/

section Plain

@[simp]
theorem countsOf_id {tag : IdTag} : countsOf (.id : Visit (StrongId tag)) = fun _ => [] := rfl

@[simp]
theorem countsOf_counter {tag : CounterTag} :
    countsOf (.counter : Visit (Counter tag)) = fun _ => [] := rfl

@[simp]
theorem countsOf_u64 : countsOf .u64 = fun _ => [] := rfl

@[simp]
theorem countsOf_u32 : countsOf .u32 = fun _ => [] := rfl

@[simp]
theorem countsOf_bool : countsOf .bool = fun _ => [] := rfl

@[simp]
theorem countsOf_text : countsOf .text = fun _ => [] := rfl

@[simp]
theorem countsOf_digest : countsOf .digest = fun _ => [] := rfl

@[simp]
theorem countsOf_enum {α : Type} [DecidableEq α] (table : List (α × String)) [Named table] :
    countsOf (.enum table) = fun _ => [] := rfl

@[simp]
theorem countsOf_instant : countsOf LogicalInstant.visit = fun _ => [] := rfl

@[simp]
theorem countsOf_wallClock : countsOf WallClockMs.visit = fun _ => [] := rfl

@[simp]
theorem countsOf_version : countsOf ServiceVersion.visit = fun _ => [] := rfl

@[simp]
theorem countsOf_evidence : countsOf EvidenceRef.visit = fun _ => [] := rfl

@[simp]
theorem countsOf_capabilityValue : countsOf CapabilityValue.visit = fun _ => [] := rfl

@[simp]
theorem countsOf_capability : countsOf Capability.visit = fun _ => [] := rfl

@[simp]
theorem countsOf_resources : countsOf ResourceVector.visit = fun _ => [] := rfl

@[simp]
theorem countsOf_firmware : countsOf FirmwareApiLevel.visit = fun _ => [] := rfl

@[simp]
theorem countsOf_replicas : countsOf ReplicaPolicy.visit = fun _ => [] := rfl

@[simp]
theorem countsOf_antiAffinity : countsOf AntiAffinityPolicy.visit = fun _ => [] := by
  funext v
  refine (countsOf_object (fun _ => rfl) v).trans ?_
  simp

@[simp]
theorem countsOf_provenance : countsOf Provenance.visit = fun _ => [] := rfl

@[simp]
theorem countsOf_dependency : countsOf Dependency.visit = fun _ => [] := rfl

@[simp]
theorem countsOf_policy : countsOf PolicyState.visit = fun _ => [] := rfl

@[simp]
theorem countsOf_attempt : countsOf AttemptRecord.visit = fun _ => [] := rfl

@[simp]
theorem countsOf_explanation : countsOf Explanation.visit = fun _ => [] := rfl

@[simp]
theorem countsOf_truncation : countsOf TruncationRecord.visit = fun _ => [] := rfl

@[simp]
theorem countsOf_planned : countsOf PlannedReplica.visit = fun _ => [] := rfl

@[simp]
theorem countsOf_grant : countsOf AuthorityGrant.visit = fun _ => [] := rfl

@[simp]
theorem countsOf_fenceEntry : countsOf FenceEntry.visit = fun _ => [] := rfl

@[simp]
theorem countsOf_isolation : countsOf IsolationRequirement.visit = fun _ => [] := by
  funext v
  refine (countsOf_object (fun _ => rfl) v).trans ?_
  simp

end Plain

/-! ## §3. The records of a state. -/

@[simp]
theorem countsOf_capabilities (c : CapabilitySet) :
    countsOf CapabilitySet.visit c = [c.entries.length] := by
  refine (countsOf_object (fun _ => rfl) c).trans ?_
  simp

@[simp]
theorem countsOf_profile (p : DpuProfile) : countsOf DpuProfile.visit p = [p.isolation.length] := by
  refine (countsOf_object (fun _ => rfl) p).trans ?_
  simp

@[simp]
theorem countsOf_device (d : DpuRecord) : countsOf DpuRecord.visit d
    = [d.profile.isolation.length, d.capabilities.entries.length] := by
  refine (countsOf_object (fun _ => rfl) d).trans ?_
  simp

@[simp]
theorem countsOf_topology (t : TopologySnapshot) : countsOf TopologySnapshot.visit t
    = t.dpus.length :: t.dpus.flatMap (countsOf DpuRecord.visit) := by
  refine (countsOf_object (fun _ => rfl) t).trans ?_
  simp

@[simp]
theorem countsOf_requirement (r : CapabilityRequirement) :
    countsOf CapabilityRequirement.visit r = [r.alternatives.length] := by
  refine (countsOf_object (fun _ => rfl) r).trans ?_
  simp

@[simp]
theorem countsOf_compatibility (c : CompatibilityRequirement) :
    countsOf CompatibilityRequirement.visit c = c.requiredIsolation.length
      :: c.capabilities.length :: c.capabilities.flatMap (countsOf CapabilityRequirement.visit) := by
  refine (countsOf_object (fun _ => rfl) c).trans ?_
  simp

@[simp]
theorem countsOf_service (s : ServiceDefinition) : countsOf ServiceDefinition.visit s
    = countsOf CompatibilityRequirement.visit s.compatibility := by
  refine (countsOf_object (fun _ => rfl) s).trans ?_
  simp

@[simp]
theorem countsOf_group (g : ServiceGroup) : countsOf ServiceGroup.visit g = [g.members.length] := by
  refine (countsOf_object (fun _ => rfl) g).trans ?_
  simp

@[simp]
theorem countsOf_instance (i : InstanceState) :
    countsOf InstanceState.visit i = [i.attempts.length, i.reasons.length] := by
  refine (countsOf_object (fun _ => rfl) i).trans ?_
  simp

@[simp]
theorem countsOf_servicePlan (sp : ServicePlan) :
    countsOf ServicePlan.visit sp = [sp.replicas.length] := by
  refine (countsOf_object (fun _ => rfl) sp).trans ?_
  simp

@[simp]
theorem countsOf_stage (st : PlanStage) : countsOf PlanStage.visit st = [st.instances.length] := by
  refine (countsOf_object (fun _ => rfl) st).trans ?_
  simp

@[simp]
theorem countsOf_plan (p : DeploymentPlan) : countsOf DeploymentPlan.visit p
    = p.services.length :: (p.services.flatMap (countsOf ServicePlan.visit)
      ++ p.stages.length :: (p.stages.flatMap (countsOf PlanStage.visit)
      ++ [p.explanations.length])) := by
  refine (countsOf_object (fun _ => rfl) p).trans ?_
  simp

@[simp]
theorem countsOf_authority (r : AuthorityRegistry) :
    countsOf AuthorityRegistry.visit r = [r.grants.length] := by
  refine (countsOf_object (fun _ => rfl) r).trans ?_
  simp

@[simp]
theorem countsOf_fences (f : FenceIssuer) : countsOf FenceIssuer.visit f = [f.serials.length] := by
  refine (countsOf_object (fun _ => rfl) f).trans ?_
  simp

@[simp]
theorem countsOf_ledger (l : TruncationLedger) :
    countsOf TruncationLedger.visit l = [l.records.length] := by
  refine (countsOf_object (fun _ => rfl) l).trans ?_
  simp

@[simp]
theorem countsOf_decision (d : Decision) : countsOf Decision.visit d
    = [d.explanations.length, d.truncations.length] := by
  refine (countsOf_object (fun _ => rfl) d).trans ?_
  simp

/-- **The containers of a state.** -/
theorem countsOf_state (s : RuntimeState) : countsOf RuntimeState.visit s
    = countsOf TopologySnapshot.visit s.topology
      ++ countsOf (vec ServiceDefinition.visit) s.services
      ++ countsOf (vec ServiceGroup.visit) s.groups
      ++ [s.dependencies.length]
      ++ countsOf (vec InstanceState.visit) s.instances
      ++ countsOf (vec DeploymentPlan.visit) s.plans
      ++ [s.authority.grants.length, s.fences.serials.length, s.truncations.records.length]
      ++ countsOf (vec Decision.visit) s.decisions
      ++ [s.restartFenced.length] := by
  refine (countsOf_object (fun _ => rfl) s).trans ?_
  simp

/-! ## §4. The events that carry sequences into a state. -/

theorem countsOf_event (e : FabricEvent) :
    countsOf FabricEvent.visit e = countsOf FabricEventBody.visit e.body := by
  refine (countsOf_object (fun _ => rfl) e).trans ?_
  simp

theorem countsOf_serviceDeclared (b : ServiceDeclared) :
    countsOf FabricEventBody.visit (.serviceDeclared b)
      = countsOf ServiceDefinition.visit b.service := by
  change countsOf ServiceDeclared.visit b = _
  refine (countsOf_object (fun _ => rfl) b).trans ?_
  simp

theorem countsOf_topologyObserved (b : TopologyObserved) :
    countsOf FabricEventBody.visit (.topologyObserved b)
      = countsOf TopologySnapshot.visit b.snapshot := by
  change countsOf TopologyObserved.visit b = _
  refine (countsOf_object (fun _ => rfl) b).trans ?_
  simp

end DpuFabric
