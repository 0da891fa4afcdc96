/-
  Engine.RoundTrip — ROUND TRIPS OF EVENTS AND STATES THROUGH THE BINARY ARCHIVE.

  Every archived type is described by its `visit`, so what comes back of an
  event or a state is decided by its parts: strings, counts and signed
  numbers.  The reader takes the raw word of a signed number for out of
  range as soon as the sign bit is set, so a value that holds a negative
  number is written and never read back.
-/
import DpuFabric.Engine.Archived

namespace DpuFabric

open Lib Visit

/-! ## §1. Names of the enumerators. -/

instance : Named AttemptOutcome.names := .of_rows

instance : Named CapabilityOp.names := .of_rows

instance : Named CapabilityValueKind.names := .of_rows

instance : Named DatapathClass.names := .of_rows

instance : Named DecisionKind.names := .of_rows

instance : Named DependencyKind.names := .of_rows

instance : Named DpuArchitecture.names := .of_rows

instance : Named DpuState.names := .of_rows

instance : Named EffectKind.names := .of_rows

instance : Named EffectStatus.names := .of_rows

instance : Named EvidenceClass.names := .of_rows

instance : Named EvidenceKind.names := .of_rows

instance : Named HealthState.names := .of_rows

instance : Named IntentKind.names := .of_rows

instance : Named IsolationKind.names := .of_rows

instance : Named LifecycleState.names := .of_rows

instance : Named ReasonCode.names := .of_rows

/-! ## §2. Records. -/

instance : Filed LogicalInstant.visit := filedObject

instance : Filed WallClockMs.visit := filedObject

instance : Filed ServiceVersion.visit := filedObject

instance : Filed FirmwareApiLevel.visit := filedObject

instance : Filed ResourceVector.visit := filedObject

instance : Filed TruncationRecord.visit := filedObject

instance : Filed TruncationLedger.visit := filedObject

instance : Filed CapabilityValue.visit := filedObject

instance : Filed Capability.visit := filedObject

instance : Filed CapabilitySet.visit := filedObject

instance : Filed DpuProfile.visit := filedObject

instance : Filed CapabilityRequirement.visit := filedObject

instance : Filed CompatibilityRequirement.visit := filedObject

instance : Filed IsolationRequirement.visit := filedObject

instance : Filed ReplicaPolicy.visit := filedObject

instance : Filed AntiAffinityPolicy.visit := filedObject

instance : Filed Provenance.visit := filedObject

instance : Filed EvidenceRef.visit := filedObject

instance : Filed DpuRecord.visit := filedObject

instance : Filed TopologySnapshot.visit := filedObject

instance : Filed ServiceDefinition.visit := filedObject

instance : Filed Dependency.visit := filedObject

instance : Filed ServiceGroup.visit := filedObject

instance : Filed ServiceReplicaIntent.visit := filedObject

instance : Filed StagedRolloutPolicy.visit := filedObject

instance : Filed PlacementIntent.visit := filedObject

instance : Filed PolicyState.visit := filedObject

instance : Filed FenceToken.visit := filedObject

instance : Filed AttemptRecord.visit := filedObject

instance : Filed Explanation.visit := filedObject

instance : Filed Decision.visit := filedObject

instance : Filed InstanceState.visit := filedObject

instance : Filed EffectReport.visit := filedObject

instance : Filed PlannedReplica.visit := filedObject

instance : Filed ServicePlan.visit := filedObject

instance : Filed PlanStage.visit := filedObject

instance : Filed TopologyObserved.visit := filedObject

instance : Filed CapabilityObserved.visit := filedObject

instance : Filed HealthObserved.visit := filedObject

instance : Filed PolicyAdvanced.visit := filedObject

instance : Filed DpuAttached.visit := filedObject

instance : Filed DpuLost.visit := filedObject

instance : Filed ServiceDeclared.visit := filedObject

instance : Filed GroupDeclared.visit := filedObject

instance : Filed DependencyDeclared.visit := filedObject

instance : Filed IntentSubmitted.visit := filedObject

instance : Filed ExecutionAcknowledged.visit := filedObject

instance : Filed EffectReported.visit := filedObject

instance : Filed CoordinatorAdvanced.visit := filedObject

instance : Filed LogicalTimeAdvanced.visit := filedObject

instance : Filed QuiesceRequested.visit := filedObject

instance : Filed AuthorityGrant.visit := filedObject

instance : Filed AuthorityRegistry.visit := filedObject

instance : Filed FenceEntry.visit := filedObject

instance : Filed FenceIssuer.visit := filedObject

/-! ## §3. The bodies of an event. -/

namespace FabricEventBody

/-- The parts of the active alternative. -/
def parts : FabricEventBody → List Part
  | .topologyObserved b => partsOf TopologyObserved.visit b
  | .capabilityObserved b => partsOf CapabilityObserved.visit b
  | .healthObserved b => partsOf HealthObserved.visit b
  | .policyAdvanced b => partsOf PolicyAdvanced.visit b
  | .dpuAttached b => partsOf DpuAttached.visit b
  | .dpuLost b => partsOf DpuLost.visit b
  | .serviceDeclared b => partsOf ServiceDeclared.visit b
  | .groupDeclared b => partsOf GroupDeclared.visit b
  | .dependencyDeclared b => partsOf DependencyDeclared.visit b
  | .intentSubmitted b => partsOf IntentSubmitted.visit b
  | .executionAcknowledged b => partsOf ExecutionAcknowledged.visit b
  | .effectReported b => partsOf EffectReported.visit b
  | .coordinatorAdvanced b => partsOf CoordinatorAdvanced.visit b
  | .logicalTimeAdvanced b => partsOf LogicalTimeAdvanced.visit b
  | .quiesceRequested b => partsOf QuiesceRequested.visit b

theorem fits_iff_parts (n : Nat) (v : FabricEventBody) :
    v.fits n = true ↔ ∀ p ∈ v.parts, p.Readable n := by
  cases v <;> exact Described.fits_iff n _

theorem alternative_fits (n : Nat) (v : FabricEventBody) :
    (alternative v.index).fits n v = v.fits n := by
  simp [alternative]

theorem alternative_exactAt {v : FabricEventBody} (hv : v.write.length < 2 ^ 32) :
    (alternative v.index).ExactAt v := by
  intro n rest r h
  rw [alternative_fits]
  cases v <;>
    (obtain ⟨w, hread, -⟩ := readAs_ok h
     exact Described.exact _ hv n rest _ hread)

theorem alternative_faithfulAt (v : FabricEventBody) : (alternative v.index).FaithfulAt v := by
  intro n rest r h
  rw [alternative_fits]
  cases v <;>
    (obtain ⟨w, hread, hw⟩ := readAs_ok h
     cases hw
     exact Described.faithful _ n rest _ hread)

theorem visit_length (v : FabricEventBody) : v.write.length ≤ (visit.write v).length := by
  show _ ≤ List.length (_ ++ (_ ++ (_ ++ v.write)))
  simp only [List.length_append]
  omega

end FabricEventBody

instance : Described FabricEventBody.visit where
  parts := FabricEventBody.parts
  fits_iff n v := by
    rw [← FabricEventBody.fits_iff_parts]
    cases v <;> exact Iff.rfl
  exact v hv := by
    refine tagged_exactAt (Codec.guarded_exactAt (Codec.dependent_exactAt (u32_exactAt _) ?_))
    rw [FabricEventBody.index_norm]
    exact FabricEventBody.alternative_exactAt (lt_of_le_of_lt v.visit_length hv)
  faithful v := by
    refine tagged_faithfulAt (Codec.guarded_faithfulAt
      (Codec.dependent_faithfulAt (u32_exactAt _) ?_))
    rw [FabricEventBody.index_norm]
    exact FabricEventBody.alternative_faithfulAt v
  nonempty _ := tagged_nonempty ..

instance : Archived FabricEventBody.visit :=
  .body inferInstance inferInstance inferInstance inferInstance inferInstance
    inferInstance inferInstance inferInstance inferInstance inferInstance
    inferInstance inferInstance inferInstance inferInstance inferInstance

instance : Lossless FabricEventBody.visit := by
  refine ⟨fun v => ?_⟩
  cases v <;> exact congrArg _ (Lossless.norm _)

/-! ## §4. Events, plans, states. -/

instance : Archived FabricEvent.visit := archivedObject

instance : Described FabricEvent.visit := describedObject fun _ => rfl

theorem FabricEvent.visit_norm (e : FabricEvent) : FabricEvent.visit.norm e = e.visited := by
  simp only [FabricEvent.visit, object_norm, Lossless.norm, FabricEvent.visited]

instance : Archived DeploymentPlan.visit := archivedObject

instance : Described DeploymentPlan.visit := describedObject fun _ => rfl

theorem DeploymentPlan.visit_norm (p : DeploymentPlan) :
    DeploymentPlan.visit.norm p = p.visited := by
  simp only [DeploymentPlan.visit, object_norm, Lossless.norm, DeploymentPlan.visited]

instance : Archived RuntimeState.visit := archivedObject

instance : Described RuntimeState.visit := describedObject fun _ => rfl

theorem RuntimeState.visit_norm (s : RuntimeState) : RuntimeState.visit.norm s = s.visited := by
  have hplans : (vec DeploymentPlan.visit).norm s.plans = s.plans.map DeploymentPlan.visited :=
    List.map_congr_left fun p _ => DeploymentPlan.visit_norm p
  simp only [RuntimeState.visit, object_norm, field_norm, Lossless.norm, hplans,
    RuntimeState.visited]

instance : Archived EventIdentity.visit := archivedObject

instance : Archived PlacementProjection.visit := archivedObject

/-! ## §5. The round trip. -/

/-- **WHAT IS WRITTEN COMES BACK EXACTLY IF NO SIGNED NUMBER IS NEGATIVE.**
Any archived value, any event and any state, with strings of at most `2 ^ 20`
bytes and sequences within the limit of the reader. -/
theorem round_trip_iff (limit : Nat) :
    (∀ {α : Type} (c : Visit α) [Described c] [Lossless c] (v : α),
        (∀ p ∈ partsOf c v, p.Within limit) →
        (decodeBinary c limit (encodeBinary c v) = .ok v ↔ ∀ p ∈ partsOf c v, p.Plain))
      ∧ (∀ e : FabricEvent, (∀ p ∈ partsOf FabricEvent.visit e, p.Within limit) →
        (decodeBinary FabricEvent.visit limit (encodeBinary FabricEvent.visit e) = .ok e.visited
          ↔ ∀ p ∈ partsOf FabricEvent.visit e, p.Plain))
      ∧ (∀ s : RuntimeState, (∀ p ∈ partsOf RuntimeState.visit s, p.Within limit) →
        (decodeBinary RuntimeState.visit limit (encodeBinary RuntimeState.visit s) = .ok s.visited
          ↔ ∀ p ∈ partsOf RuntimeState.visit s, p.Plain)) := by
  refine ⟨fun c _ _ v hwithin => ?_, fun e hwithin => ?_, fun s hwithin => ?_⟩
  · have h := decodeBinary_iff_plain c hwithin
    rwa [Lossless.norm] at h
  · rw [← FabricEvent.visit_norm]
    exact decodeBinary_iff_plain _ hwithin
  · rw [← RuntimeState.visit_norm]
    exact decodeBinary_iff_plain _ hwithin

theorem round_trip_iff_blank :
    (∀ p ∈ partsOf FabricEvent.visit {}, p.Within maxDecodedSequence)
      ∧ (decodeBinary FabricEvent.visit maxDecodedSequence (encodeBinary FabricEvent.visit {})
          = .ok (FabricEvent.visited {}) ↔ ∀ p ∈ partsOf FabricEvent.visit {}, p.Plain) :=
  have hwithin : ∀ p ∈ partsOf FabricEvent.visit {}, p.Within maxDecodedSequence := by decide
  ⟨hwithin, (round_trip_iff maxDecodedSequence).2.1 {} hwithin⟩

/-- An event stamped one millisecond before the epoch. -/
def beforeEpoch : FabricEvent := { wallClock := { ms := -1 } }

/-- The event is within all bounds and is refused when it is read back. -/
theorem beforeEpoch_unreadable :
    (∀ p ∈ partsOf FabricEvent.visit beforeEpoch, p.Within maxDecodedSequence)
      ∧ decodeBinary FabricEvent.visit maxDecodedSequence
          (encodeBinary FabricEvent.visit beforeEpoch) ≠ .ok beforeEpoch.visited := by
  have hwithin : ∀ p ∈ partsOf FabricEvent.visit beforeEpoch, p.Within maxDecodedSequence := by
    decide
  have hnegative : ¬ ∀ p ∈ partsOf FabricEvent.visit beforeEpoch, p.Plain := by decide
  refine ⟨hwithin, fun h => hnegative ?_⟩
  rw [← FabricEvent.visit_norm] at h
  exact (decodeBinary_iff_plain _ hwithin).mp h

/-! ## §6. One encoding per value. -/

/-- **THE BINARY ENCODING IS CANONICAL.**  A byte string that is accepted as a
value of an archived type is the encoding of that value: the digest computed
from the value is the digest of the bytes received, and no other byte string
is accepted as that value, whatever the limit. -/
theorem accepted_bytes_are_encoding {α : Type} (c : Visit α) [archived : Archived c]
    (limit : Nat) (data : List UInt8) (v : α) (h : decodeBinary c limit data = .ok v) :
    encodeBinary c v = data
      ∧ canonicalDigest c v = sha256 data
      ∧ ∀ limit' data', decodeBinary c limit' data' = .ok v → data' = data := by
  have hdata := encodeBinary_decodeBinary archived.canonical h
  refine ⟨hdata, congrArg sha256 hdata, fun limit' data' h' => ?_⟩
  rw [← hdata, encodeBinary_decodeBinary archived.canonical h']

theorem accepted_bytes_are_encoding_of_blank_event :
    decodeBinary FabricEvent.visit maxDecodedSequence (encodeBinary FabricEvent.visit {})
        = .ok (FabricEvent.visit.norm {})
      ∧ encodeBinary FabricEvent.visit (FabricEvent.visit.norm {})
        = encodeBinary FabricEvent.visit {} :=
  have hread : decodeBinary FabricEvent.visit maxDecodedSequence
      (encodeBinary FabricEvent.visit {}) = .ok (FabricEvent.visit.norm {}) :=
    decodeBinary_encodeBinary _ (by decide +kernel)
  ⟨hread, (accepted_bytes_are_encoding _ _ _ _ hread).1⟩

end DpuFabric
