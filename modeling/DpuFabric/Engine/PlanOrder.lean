/-
  Engine.PlanOrder — PLANNING DOES NOT DEPEND ON THE ORDER OF ITS INPUT.

  Phase by phase: looking a service up, the flags of the two checks, the
  topological order, the sorted devices and the graph are functions of the
  SETS they are given.  Only the explanations follow the order, and the
  placement loop writes to their collector without ever reading it
  (`Placement.step_withSink`).
-/
import Mathlib.Data.List.Find
import DpuFabric.Engine.SingleService

namespace DpuFabric

open Lib

/-! ## §1. Permuted inputs. -/

/-- The request with its lists given in other orders. -/
def PlanRequest.reorder (r : PlanRequest) (dpus : List DpuRecord)
    (services : List ServiceDefinition) (graph : DependencyGraph) (members : List ServiceId)
    (entries : List ServiceReplicaIntent) : PlanRequest :=
  { r with
    topology := { r.topology with dpus }
    services
    dependencies := graph
    group := { r.group with members }
    intent := { r.intent with services := entries } }

/-- What a caller sees of a planning, apart from its explanations. -/
def PlanOutcome.verdict (o : PlanOutcome) : Bool × ReasonCode × DeploymentPlan :=
  (o.feasible, o.primary, o.plan)

theorem findService_perm {services services' : List ServiceDefinition}
    (h : services.Perm services') (hids : (services.map ServiceDefinition.id).Nodup)
    (id : ServiceId) : findService services id = findService services' id := by
  refine List.find?_eq_find?_of_perm h ?_
  rintro a ⟨ha, hida⟩ b ⟨hb, hidb⟩
  have hsame : a.id = b.id := (of_decide_eq_true hida).trans (of_decide_eq_true hidb).symm
  exact List.inj_on_of_nodup_map hids ha hb hsame

namespace DependencyGraph

/-- A permuted edge list is accepted as well, with the same graph. -/
theorem build_perm {edges edges' : List Dependency} {maxEdges : Nat} {g : DependencyGraph}
    (hbuild : build edges maxEdges = .ok g) (h : edges.Perm edges') :
    build edges' maxEdges = .ok g := by
  obtain ⟨hlength, hvalid, hdistinct, rfl⟩ := build_eq_ok_iff.mp hbuild
  refine build_eq_ok_iff.mpr ⟨h.length_eq ▸ hlength, fun e he => hvalid e (h.mem_iff.mpr he),
    (h.map _).nodup_iff.mp hdistinct, ?_⟩
  rw [insertionSort_eq_of_perm h fun a _ b _ hab => Dependency.sortKey_injective hab]

theorem topologicalOrder_perm (g : DependencyGraph) {services services' : List ServiceId}
    (h : services.Perm services') : g.topologicalOrder services = g.topologicalOrder services' := by
  have hsort : services.insertionSort (· ≤ ·) = services'.insertionSort (· ≤ ·) :=
    insertionSort_eq_of_perm h fun _ _ _ _ hab => hab
  unfold topologicalOrder
  rw [hsort]

end DependencyGraph

/-! ## §2. The flags of the checks. -/

variable {r : PlanRequest} {weights : PlacementWeights}

theorem refuseEntry_seen {seen : List ServiceId} {entry : ServiceReplicaIntent} :
    refuseEntry r seen entry = none ↔ refuseEntry r [] entry = none ∧ entry.service ∉ seen := by
  unfold refuseEntry
  cases findService r.services entry.service with
  | none => simp
  | some service =>
    simp only
    by_cases hmember : entry.service ∉ r.group.members
    · simp [hmember]
    rw [if_neg hmember, if_neg hmember]
    by_cases hpolicy : (!(service.replicas.validate r.bounds.maxReplicasPerService).ok) = true
    · simp [hpolicy]
    rw [if_neg hpolicy, if_neg hpolicy]
    by_cases hrange : entry.desiredReplicas < service.replicas.min
        ∨ service.replicas.max < entry.desiredReplicas
    · simp [hrange]
    rw [if_neg hrange, if_neg hrange]
    by_cases hceiling : r.policy.maxInstancesPerGroup < entry.desiredReplicas
    · simp [hceiling]
    · simp [hceiling]

/-- The services are accepted exactly if each entry is in order and no service
appears twice. -/
theorem intentServices_accepted : (intentServices r).rejected = false ↔
    (∀ entry ∈ r.intent.services, refuseEntry r [] entry = none)
      ∧ (r.intent.services.map ServiceReplicaIntent.service).Nodup := by
  have hloop : ∀ (entries : List ServiceReplicaIntent) (set : ServiceSet),
      (entries.foldl (ServiceSet.step r) set).rejected = false ↔
        set.rejected = false ∧ (∀ entry ∈ entries, refuseEntry r [] entry = none)
        ∧ (entries.map ServiceReplicaIntent.service).Nodup
        ∧ ∀ entry ∈ entries, entry.service ∉ set.desired.map Prod.fst := by
    intro entries
    induction entries with
    | nil => simp
    | cons entry entries ih =>
      intro set
      rw [List.foldl_cons, ih]
      unfold ServiceSet.step
      cases hrefused : refuseEntry r (set.desired.map Prod.fst) entry with
      | some e =>
        refine ⟨fun h => absurd h.1 (by simp), fun ⟨_, hentries, _, hseen⟩ => ?_⟩
        have hnone := refuseEntry_seen.mpr
          ⟨hentries entry List.mem_cons_self, hseen entry List.mem_cons_self⟩
        exact absurd (hrefused.symm.trans hnone) (by simp)
      | none =>
        obtain ⟨hfirst, hnew⟩ := refuseEntry_seen.mp hrefused
        have hadded : ∀ other : ServiceReplicaIntent,
            other.service ∉ (set.desired ++ [(entry.service, entry.desiredReplicas)]).map Prod.fst
              ↔ other.service ∉ set.desired.map Prod.fst ∧ other.service ≠ entry.service := by
          intro other
          rw [List.map_append, List.mem_append, not_or]
          simp
        simp only [hadded, List.forall_mem_cons, List.map_cons, List.nodup_cons]
        constructor
        · rintro ⟨haccepted, hentries, hnodup, hseen⟩
          refine ⟨haccepted, ⟨hfirst, hentries⟩, ⟨fun hagain => ?_, hnodup⟩, hnew,
            fun other hother => (hseen other hother).1⟩
          obtain ⟨other, hother, heq⟩ := List.mem_map.mp hagain
          exact (hseen other hother).2 heq
        · rintro ⟨haccepted, ⟨-, hentries⟩, ⟨hdistinct, hnodup⟩, -, hseen⟩
          exact ⟨haccepted, hentries, hnodup, fun other hother => ⟨hseen other hother,
            fun heq => hdistinct (heq ▸ List.mem_map_of_mem hother)⟩⟩
  have hstart := hloop r.intent.services { sink := { limit := r.bounds.maxExplanations } }
  simp only [List.map_nil, List.not_mem_nil, not_false_eq_true, implies_true, and_true,
    true_and] at hstart
  exact hstart

/-! ## §3. The placement does not read its explanations. -/

def Placement.withSink (p : Placement) (sink : ExplanationSink) : Placement := { p with sink }

def Placing.withSink (s : Placing) (sink : ExplanationSink) : Placing :=
  { s with placement := s.placement.withSink sink }

theorem Placing.step_withSink (service : ServiceDefinition) (s : Placing) (sink : ExplanationSink)
    (c : Candidate) :
    Placing.step r service (s.withSink sink) c = (Placing.step r service s c).withSink sink := by
  have haccepts : (s.withSink sink).accepts r service c.dpu = s.accepts r service c.dpu := rfl
  unfold Placing.step
  rw [haccepts]
  split
  · rfl
  · rfl

theorem Placing.fold_withSink (service : ServiceDefinition) (candidates : List Candidate)
    (s : Placing) (sink : ExplanationSink) :
    candidates.foldl (Placing.step r service) (s.withSink sink)
      = (candidates.foldl (Placing.step r service) s).withSink sink := by
  induction candidates generalizing s with
  | nil => rfl
  | cons c candidates ih => rw [List.foldl_cons, Placing.step_withSink, ih, List.foldl_cons]

/-- One service: whatever is collected, the placement after it is the same. -/
theorem Placement.step_withSink {set set' : ServiceSet} {devices : List DpuRecord} {id : ServiceId}
    (hdesired : set'.desiredOf id = set.desiredOf id) (p : Placement) (sink : ExplanationSink) :
    ∃ sink', Placement.step r weights devices set' (p.withSink sink) id
      = (Placement.step r weights devices set p id).withSink sink' := by
  unfold Placement.step
  cases findService r.services id with
  | none => exact ⟨sink, rfl⟩
  | some service =>
    simp only [candidates_eq, hdesired]
    -- the candidates come from the placement without its explanations
    have hcandidates : (devices.filter fun d =>
          (refuseCandidate r (p.withSink sink) service d).isNone).map
            (candidateOf r weights (p.withSink sink) service)
        = (devices.filter fun d => (refuseCandidate r p service d).isNone).map
            (candidateOf r weights p service) := rfl
    rw [hcandidates]
    generalize ((devices.filter fun d => (refuseCandidate r p service d).isNone).map
      (candidateOf r weights p service)).insertionSort Candidate.before = candidates
    generalize hlater : (devices.foldl (candidateStep r weights (p.withSink sink) service)
      ((p.withSink sink).sink, [])).1 = later
    generalize hstart : Placing.mk { p with sink := (devices.foldl
      (candidateStep r weights p service) (p.sink, [])).1 }
      { service := service.id, version := service.version, desiredReplicas := set.desiredOf id,
        placedReplicas := 0 } (fun _ => 0) = start
    have hstart' : Placing.mk { p.withSink sink with sink := later }
        { service := service.id, version := service.version, desiredReplicas := set.desiredOf id,
          placedReplicas := 0 } (fun _ => 0) = start.withSink later := by
      rw [← hstart]
      rfl
    rw [hstart', Placing.fold_withSink]
    generalize candidates.foldl (Placing.step r service) start = s
    show ∃ sink', (if s.plan.placedReplicas < s.plan.desiredReplicas then _ else _) = _
    split
    · exact ⟨_, rfl⟩
    · exact ⟨_, rfl⟩

theorem placeServices_withSink {set set' : ServiceSet} {order : List ServiceId}
    (hdesired : ∀ id, set'.desiredOf id = set.desiredOf id) (sink sink' : ExplanationSink) :
    ∃ last, placeServices r weights set' sink' order
      = (placeServices r weights set sink order).withSink last := by
  have hloop : ∀ (order : List ServiceId) (p : Placement) (start : ExplanationSink),
      ∃ last, order.foldl (Placement.step r weights (orderedDevices r) set') (p.withSink start)
        = (order.foldl (Placement.step r weights (orderedDevices r) set) p).withSink last := by
    intro order
    induction order with
    | nil => exact fun p start => ⟨start, rfl⟩
    | cons id order ih =>
      intro p start
      obtain ⟨next, hnext⟩ := Placement.step_withSink (hdesired id) p start
      rw [List.foldl_cons, List.foldl_cons, hnext]
      exact ih _ next
  exact hloop order { sink, scopeOwner := initialOwners r } sink'

/-! ## §4. The reordered request. -/

section Reorder

variable {dpus : List DpuRecord} {services : List ServiceDefinition} {members : List ServiceId}
  {entries : List ServiceReplicaIntent}

theorem validateIntent_reorder (hentries : r.intent.services.Perm entries)
    (graph : DependencyGraph) :
    validateIntent (r.reorder dpus services graph members entries) = validateIntent r := by
  have hnil : (entries = []) = (r.intent.services = []) :=
    propext ⟨fun h => (h ▸ hentries).eq_nil, fun h => (h ▸ hentries).symm.eq_nil⟩
  unfold validateIntent PlanRequest.reorder
  simp only [hnil, hentries.length_eq]

theorem refuseEntry_reorder (hservices : r.services.Perm services)
    (hids : (r.services.map ServiceDefinition.id).Nodup) (hmembers : r.group.members.Perm members)
    (graph : DependencyGraph) (seen : List ServiceId) (entry : ServiceReplicaIntent) :
    refuseEntry (r.reorder dpus services graph members entries) seen entry
      = refuseEntry r seen entry := by
  have hmember : (entry.service ∉ members) = (entry.service ∉ r.group.members) :=
    propext (not_congr hmembers.mem_iff.symm)
  unfold refuseEntry PlanRequest.reorder
  simp only [← findService_perm hservices hids, hmember]

theorem intentServices_reorder (hservices : r.services.Perm services)
    (hids : (r.services.map ServiceDefinition.id).Nodup) (hmembers : r.group.members.Perm members)
    (hentries : r.intent.services.Perm entries) (graph : DependencyGraph) :
    (intentServices (r.reorder dpus services graph members entries)).rejected = false ↔
      (intentServices r).rejected = false := by
  rw [intentServices_accepted, intentServices_accepted]
  simp only [refuseEntry_reorder hservices hids hmembers]
  refine and_congr ?_ (hentries.map _).nodup_iff.symm
  exact forall_congr' fun entry => by rw [hentries.mem_iff]; rfl

theorem Placement.step_reorder (hservices : r.services.Perm services)
    (hids : (r.services.map ServiceDefinition.id).Nodup) (graph : DependencyGraph)
    (devices : List DpuRecord) (set : ServiceSet) (p : Placement) (id : ServiceId) :
    Placement.step (r.reorder dpus services graph members entries) weights devices set p id
      = Placement.step r weights devices set p id := by
  have hfind : findService (r.reorder dpus services graph members entries).services id
      = findService r.services id := (findService_perm hservices hids id).symm
  unfold Placement.step
  rw [hfind]
  rfl

/-- The order of the entries does not show in what is desired of a service. -/
theorem desiredOf_perm {set set' : ServiceSet} (hnodup : (set.desired.map Prod.fst).Nodup)
    (h : set.desired.Perm set'.desired) (id : ServiceId) :
    set'.desiredOf id = set.desiredOf id := by
  unfold ServiceSet.desiredOf
  rw [List.find?_eq_find?_of_perm h ?_]
  rintro a ⟨ha, hida⟩ b ⟨hb, hidb⟩
  exact List.inj_on_of_nodup_map hnodup ha hb
    ((of_decide_eq_true hida).trans (of_decide_eq_true hidb).symm)

theorem intentServices_perm (dpus : List DpuRecord)
    (haccepted : (intentServices r).rejected = false) (hservices : r.services.Perm services)
    (hids : (r.services.map ServiceDefinition.id).Nodup) (hmembers : r.group.members.Perm members)
    (hentries : r.intent.services.Perm entries) (graph : DependencyGraph) :
    (intentServices r).desired.Perm
        (intentServices (r.reorder dpus services graph members entries)).desired
      ∧ (intentServices r).services.Perm
        (intentServices (r.reorder dpus services graph members entries)).services := by
  have haccepted' : (intentServices (r.reorder dpus services graph members entries)).rejected
      = false := (intentServices_reorder hservices hids hmembers hentries graph).mpr haccepted
  have hdesired : (intentServices r).desired.Perm
      (intentServices (r.reorder dpus services graph members entries)).desired := by
    rw [(intentServices_collected r).complete haccepted,
      (intentServices_collected _).complete haccepted']
    exact hentries.map _
  refine ⟨hdesired, ?_⟩
  rw [(intentServices_collected r).services, (intentServices_collected _).services]
  exact hdesired.map _

theorem checkRequirements_reorder (hservices : (intentServices r).services.Perm
      (intentServices (r.reorder dpus services r.dependencies members entries)).services)
    (hrejected : (intentServices (r.reorder dpus services r.dependencies members entries)).rejected
      = (intentServices r).rejected) :
    (checkRequirements (r.reorder dpus services r.dependencies members entries)
        (intentServices (r.reorder dpus services r.dependencies members entries))).rejected
      = (checkRequirements r (intentServices r)).rejected := by
  rw [Bool.eq_iff_iff, ← not_iff_not, Bool.not_eq_true, Bool.not_eq_true,
    checkRequirements_rejected, checkRequirements_rejected, hrejected]
  simp only [← hservices.mem_iff]
  rfl

theorem placementOf_reorder (weights : PlacementWeights)
    (haccepted : (intentServices r).rejected = false)
    (hdevices : r.topology.dpus.Perm dpus) (hdpus : (r.topology.dpus.map DpuRecord.id).Nodup)
    (hservices : r.services.Perm services)
    (hids : (r.services.map ServiceDefinition.id).Nodup) (hmembers : r.group.members.Perm members)
    (hentries : r.intent.services.Perm entries) (order : List ServiceId) :
    ∃ last, placementOf (r.reorder dpus services r.dependencies members entries) weights order
      = (placementOf r weights order).withSink last := by
  generalize hr' : r.reorder dpus services r.dependencies members entries = r'
  have hsorted : orderedDevices r' = orderedDevices r := by
    rw [← hr']
    exact (insertionSort_eq_of_perm hdevices
      fun a ha b hb hab => List.inj_on_of_nodup_map hdpus ha hb hab).symm
  have hstep : Placement.step r' weights (orderedDevices r')
      (checkRequirements r' (intentServices r'))
      = Placement.step r weights (orderedDevices r) (checkRequirements r' (intentServices r')) := by
    funext p id
    rw [hsorted, ← hr']
    exact Placement.step_reorder hservices hids r.dependencies _ _ p id
  have hdesired : ∀ id, (checkRequirements r' (intentServices r')).desiredOf id
      = (checkRequirements r (intentServices r)).desiredOf id := by
    refine desiredOf_perm ?_ ?_
    · rw [(checkRequirements_keeps r _).2]
      exact (intentServices_collected r).nodup
    · rw [(checkRequirements_keeps r _).2, (checkRequirements_keeps r' _).2, ← hr']
      exact (intentServices_perm dpus haccepted hservices hids hmembers hentries r.dependencies).1
  have hplaced : placementOf r' weights order
      = placeServices r weights (checkRequirements r' (intentServices r'))
          (checkRequirements r' (intentServices r')).sink order := by
    unfold placementOf placeServices
    simp only [hstep]
    rw [show initialOwners r' = initialOwners r by rw [← hr']; rfl]
  rw [hplaced]
  exact placeServices_withSink hdesired _ _

end Reorder

/-- Sealing and staging look at the services of a placement only. -/
theorem finishPlan_verdict {r' : PlanRequest} {p : Placement} (last : ExplanationSink)
    (hstaging : r'.intent.staging = r.intent.staging) (hgroup : r'.group.id = r.group.id)
    (hbounds : r'.bounds = r.bounds)
    (hbody : ∀ stages, planBody r' p.services stages = planBody r p.services stages) :
    (finishPlan r' (p.withSink last)).verdict = (finishPlan r p).verdict := by
  have hservices : (p.withSink last).services = p.services := rfl
  unfold finishPlan
  simp only [hservices, hstaging, hgroup, hbounds]
  split
  · rfl
  next stages _ =>
  show (true, ReasonCode.ok, (planBody r' p.services stages).seal) = _
  rw [hbody]
  rfl

/-- **Planning does not depend on the order of its input.** -/
theorem buildPlan_order_independent (r : PlanRequest) (weights : PlacementWeights)
    (edges edges' : List Dependency) (maxEdges : Nat) (dpus : List DpuRecord)
    (services : List ServiceDefinition) (members : List ServiceId)
    (entries : List ServiceReplicaIntent)
    (hbuild : DependencyGraph.build edges maxEdges = .ok r.dependencies)
    (hdpus : (r.topology.dpus.map DpuRecord.id).Nodup)
    (hids : (r.services.map ServiceDefinition.id).Nodup)
    (hedges : edges.Perm edges') (hdevices : r.topology.dpus.Perm dpus)
    (hservices : r.services.Perm services) (hmembers : r.group.members.Perm members)
    (hentries : r.intent.services.Perm entries) :
    ∃ graph, DependencyGraph.build edges' maxEdges = .ok graph
      ∧ (buildPlan (r.reorder dpus services graph members entries) weights).verdict
        = (buildPlan r weights).verdict := by
  refine ⟨r.dependencies, DependencyGraph.build_perm hbuild hedges, ?_⟩
  have hrejected : (intentServices (r.reorder dpus services r.dependencies members entries)).rejected
      = (intentServices r).rejected := by
    rw [Bool.eq_iff_iff, ← not_iff_not, Bool.not_eq_true, Bool.not_eq_true]
    exact intentServices_reorder hservices hids hmembers hentries r.dependencies
  rw [buildPlan_eq, buildPlan_eq, validateIntent_reorder hentries, hrejected]
  cases hvalid : validateIntent r with
  | some refusal => rfl
  | none =>
    simp only
    split
    · rfl
    next haccepted =>
    have haccepted : (intentServices r).rejected = false := Bool.eq_false_iff.mpr haccepted
    have hperm := (intentServices_perm dpus haccepted hservices hids hmembers hentries
      r.dependencies).2
    have hclosed := checkRequirements_reorder hperm hrejected
    have horder : (r.reorder dpus services r.dependencies members entries).dependencies.topologicalOrder
        (intentServices (r.reorder dpus services r.dependencies members entries)).services
        = r.dependencies.topologicalOrder (intentServices r).services :=
      (DependencyGraph.topologicalOrder_perm r.dependencies hperm).symm
    rw [horder, hclosed]
    split
    · rfl
    next order _ _ =>
    split
    · rfl
    have hcount : (r.reorder dpus services r.dependencies members entries).topology.dpus.length
        = r.topology.dpus.length := hdevices.length_eq.symm
    rw [hcount]
    show PlanOutcome.verdict (if r.bounds.maxDpus < r.topology.dpus.length then _ else _) = _
    split
    · rfl
    obtain ⟨last, hplaced⟩ := placementOf_reorder weights haccepted hdevices hdpus
      hservices hids hmembers hentries order
    rw [hplaced]
    have hinfeasible : ((placementOf r weights order).withSink last).infeasible
        = (placementOf r weights order).infeasible := rfl
    rw [hinfeasible]
    cases (placementOf r weights order).infeasible with
    | some code => rfl
    | none => exact finishPlan_verdict last rfl rfl rfl fun _ => rfl

theorem stagedRequest_reordered :
    ∃ graph, DependencyGraph.build [requiresEdge] 1 = .ok graph
      ∧ (buildPlan (stagedRequest.reorder (["e", "d"].map demoDevice)
          [demoService "b" 4, demoService "a" 3] graph
          [.literal (txt "b"), .literal (txt "a")]
          [{ service := .literal (txt "b"), desiredReplicas := 1 },
            { service := .literal (txt "a"), desiredReplicas := 2 }]) {}).verdict
        = (buildPlan stagedRequest {}).verdict :=
  buildPlan_order_independent stagedRequest {} [requiresEdge] [requiresEdge] 1 _ _ _ _
    (by decide +kernel) (by decide) (by decide) (List.Perm.refl _) (List.Perm.swap _ _ _)
    (List.Perm.swap _ _ _) (List.Perm.swap _ _ _) (List.Perm.swap _ _ _)

end DpuFabric
