/-
  Engine.Authority — EXCLUSIVE GRANTS AND FENCE TOKENS (`engine/authority.hpp`,
  `engine/authority.cpp`).

  The registry keeps its grants sorted by device and looks them up by
  halving, so "at most one owner per device" is the statement that the table
  is strictly sorted.  The issuer keeps one serial per instance; a token is
  valid as long as it carries the issuer's epoch and boot and the latest
  serial of its instance.
-/
import DpuFabric.Model.Lifecycle

namespace DpuFabric

open Lib

/-! ## §1. The grant registry. -/

/-- `AuthorityGrant`. -/
structure AuthorityGrant where
  dpu : DpuId := default
  scope : ExclusiveScopeId := default
  group : ServiceGroupId := default
  epoch : CoordinatorEpoch := default
  boot : BootIncarnation := default
  grantedAt : LogicalInstant := {}
  deriving DecidableEq, Repr

def AuthorityGrant.visit : Visit AuthorityGrant :=
  .object "AuthorityGrant" (by decide)
    (.field "dpu" .id <| .field "scope" .id <| .field "group" .id <| .field "epoch" .counter <|
     .field "boot" .counter <| .last "granted_at" LogicalInstant.visit)
    (fun v => (v.dpu, v.scope, v.group, v.epoch, v.boot, v.grantedAt))
    (fun (dpu, scope, group, epoch, boot, grantedAt) =>
      { dpu, scope, group, epoch, boot, grantedAt })

/-- `AuthorityRegistry`. -/
structure AuthorityRegistry where
  grants : List AuthorityGrant := []
  deriving DecidableEq, Repr

def AuthorityRegistry.visit : Visit AuthorityRegistry :=
  .object "AuthorityRegistry" (by decide)
    (.last "grants" (.vec AuthorityGrant.visit))
    (fun v => v.grants) (fun grants => { grants })

namespace AuthorityRegistry

/-- `std::lower_bound` of a device in the grant table. -/
def position (r : AuthorityRegistry) (dpu : DpuId) : Nat :=
  lowerBound (fun g : AuthorityGrant => decide (g.dpu < dpu)) r.grants

/-- `AuthorityRegistry::owner_of`. -/
def ownerOf (r : AuthorityRegistry) (dpu : DpuId) : Option AuthorityGrant :=
  (findKey AuthorityGrant.dpu r.grants dpu).bind (fun i => r.grants[i]?)

/-- `AuthorityRegistry::claim`: the registry afterwards, or the refusal. -/
def claim (r : AuthorityRegistry) (scope : ExclusiveScopeId) (group : ServiceGroupId)
    (dpu : DpuId) (epoch : CoordinatorEpoch) (boot : BootIncarnation) (instant : LogicalInstant)
    (maxGrants : Nat) : Result AuthorityRegistry :=
  if !scope.valid || !dpu.valid || !group.valid then
    .error (refuse .invalidIdentity (txt "authority grant identity"))
  else
    match r.ownerOf dpu with
    | some g =>
      if g.scope = scope then
        -- idempotent re-claim by the same scope: refresh the generation
        .ok ⟨r.grants.set (r.position dpu) { g with epoch, boot, grantedAt := instant }⟩
      else
        .error (refuse .exclusiveScopeConflict (g.dpu.text ++ txt " owned by scope "
          ++ g.scope.text ++ txt " of group " ++ g.group.text))
    | none =>
      if maxGrants ≤ r.grants.length then
        .error (refuse .boundExceeded (txt "authority grant table full"))
      else
        .ok ⟨r.grants.insertIdx (r.position dpu)
          { dpu, scope, group, epoch, boot, grantedAt := instant }⟩

/-- `AuthorityRegistry::release`: whether a grant was released, and the
registry afterwards. -/
def release (r : AuthorityRegistry) (scope : ExclusiveScopeId) (dpu : DpuId) :
    Bool × AuthorityRegistry :=
  match r.ownerOf dpu with
  | some g =>
    if g.scope = scope then (true, { grants := r.grants.eraseIdx (r.position dpu) })
    else (false, r)
  | none => (false, r)

/-- `AuthorityRegistry::fence_all`. -/
def fenceAll (r : AuthorityRegistry) : Nat × AuthorityRegistry := (r.grants.length, { grants := [] })

end AuthorityRegistry

/-! ## §2. The fence issuer. -/

/-- `FenceIssuer::Entry`. -/
structure FenceEntry where
  instanceId : InstanceId := default
  serial : UInt64 := 0
  deriving DecidableEq, Repr

def FenceEntry.visit : Visit FenceEntry :=
  .object "FenceEntry" (by decide)
    (.field "instance" .id <| .last "serial" .u64)
    (fun v => (v.instanceId, v.serial))
    (fun (instanceId, serial) =>
      { instanceId, serial })

/-- `FenceIssuer`. -/
structure FenceIssuer where
  serials : List FenceEntry := []
  epoch : CoordinatorEpoch := default
  boot : BootIncarnation := default
  deriving DecidableEq, Repr

def FenceIssuer.visit : Visit FenceIssuer :=
  .object "FenceIssuer" (by decide)
    (.field "epoch" .counter <| .field "boot" .counter <|
     .last "serials" (.vec FenceEntry.visit))
    (fun v => (v.epoch, v.boot, v.serials))
    (fun (epoch, boot, serials) =>
      { epoch, boot, serials })

namespace FenceIssuer

/-- `FenceIssuer::reset`. -/
def reset (_f : FenceIssuer) (epoch : CoordinatorEpoch) (boot : BootIncarnation) : FenceIssuer :=
  { epoch, boot, serials := [] }

/-- `FenceIssuer::advance_epoch`. -/
def advanceEpoch (f : FenceIssuer) (epoch : CoordinatorEpoch) (boot : BootIncarnation) :
    Result FenceIssuer :=
  if epoch < f.epoch then
    .error (refuse .epochRegressed (txt "coordinator epoch cannot regress"))
  else .ok { epoch, boot, serials := [] }

/-- `FenceIssuer::advance_boot`. -/
def advanceBoot (f : FenceIssuer) (boot : BootIncarnation) : Result FenceIssuer :=
  if boot < f.boot then
    .error (refuse .generationRegressed (txt "boot incarnation cannot regress"))
  else .ok { f with boot, serials := [] }

/-- `FenceIssuer::find`. -/
def find (f : FenceIssuer) (i : InstanceId) : Option FenceEntry :=
  f.serials.find? (fun e => decide (e.instanceId = i))

/-- `FenceIssuer::issue`: a token and the issuer afterwards. -/
def issue (f : FenceIssuer) (i : InstanceId) : Result (FenceToken × FenceIssuer) :=
  if !i.valid then .error (refuse .invalidIdentity (txt "fence target"))
  else if !f.epoch.valid || !f.boot.valid then
    .error (refuse .authorityNotGranted (txt "fence issuer has no epoch or boot"))
  else
    match f.find i with
    | none =>
      .ok ({ epoch := f.epoch, boot := f.boot, serial := 1 },
        { f with serials := f.serials ++ [{ instanceId := i, serial := 1 }] })
    | some entry =>
      match checkedAdd entry.serial 1 with
      | none => .error (refuse .arithmeticOverflow (txt "fence serial exhausted"))
      | some next =>
        .ok ({ epoch := f.epoch, boot := f.boot, serial := next },
          { f with
            serials := f.serials.modify
              (f.serials.findIdx (fun e => decide (e.instanceId = i)))
              (fun e => { e with serial := next }) })

/-- `FenceIssuer::invalidate`: the serial moves on without a token. -/
def invalidate (f : FenceIssuer) (i : InstanceId) : FenceIssuer :=
  { f with
    serials := f.serials.modify (f.serials.findIdx (fun e => decide (e.instanceId = i)))
      (fun e => { e with serial := saturatingAdd e.serial 1 }) }

/-- `FenceIssuer::validate`. -/
def validate (f : FenceIssuer) (i : InstanceId) (token : FenceToken) : Bool :=
  token.valid && decide (token.epoch = f.epoch) && decide (token.boot = f.boot)
    && match f.find i with
      | none => false
      | some entry => decide (entry.serial = token.serial)

end FenceIssuer

end DpuFabric
