/-
  Engine.Archived — EVERY ARCHIVED TYPE HAS ONE ENCODING PER VALUE.

  `Archived c` is how a description is put together from the pieces of
  `core/archive.hpp`: primitives, names, identities, optionals, sequences,
  objects and the one variant of the model.  Two inductions over it say what
  no test of single types can:

      canonical  — an accepted byte string is the encoding of its value
      apart      — no encoding is the beginning of another one

  The derivation of a `visit` is found from its pieces.
-/
import DpuFabric.Core.Canonical
import DpuFabric.Engine.State

namespace DpuFabric

open Lib Visit

/-! ## §1. The alternatives of an event's body. -/

namespace FabricEventBody

/-- A property of every alternative: of its description, and of the constructor
that takes its values. -/
structure EachAlternative (P : {β : Type} → Visit β → (β → FabricEventBody) → Prop) : Prop where
  topologyObserved : P TopologyObserved.visit .topologyObserved
  capabilityObserved : P CapabilityObserved.visit .capabilityObserved
  healthObserved : P HealthObserved.visit .healthObserved
  policyAdvanced : P PolicyAdvanced.visit .policyAdvanced
  dpuAttached : P DpuAttached.visit .dpuAttached
  dpuLost : P DpuLost.visit .dpuLost
  serviceDeclared : P ServiceDeclared.visit .serviceDeclared
  groupDeclared : P GroupDeclared.visit .groupDeclared
  dependencyDeclared : P DependencyDeclared.visit .dependencyDeclared
  intentSubmitted : P IntentSubmitted.visit .intentSubmitted
  executionAcknowledged : P ExecutionAcknowledged.visit .executionAcknowledged
  effectReported : P EffectReported.visit .effectReported
  coordinatorAdvanced : P CoordinatorAdvanced.visit .coordinatorAdvanced
  logicalTimeAdvanced : P LogicalTimeAdvanced.visit .logicalTimeAdvanced
  quiesceRequested : P QuiesceRequested.visit .quiesceRequested

/-- An alternative is read back as its own description reads it. -/
theorem readAs_ok {β : Type} {c : Visit β} {wrap : β → FabricEventBody} {n : Nat}
    {bytes : List UInt8} {r : FabricEventBody × List UInt8} (h : readAs c wrap n bytes = .ok r) :
    ∃ b, c.read n bytes = .ok (b, r.2) ∧ r.1 = wrap b := by
  simp only [readAs, bind_eq_ok, Prod.exists] at h
  obtain ⟨b, bytes', hread, h⟩ := h
  cases h
  exact ⟨b, hread, rfl⟩

theorem index_norm (v : FabricEventBody) :
    (Visit.u32.norm (UInt32.ofNat v.index)).toNat = v.index := by
  cases v <;> rfl

/-- What is read as an alternative is written as one, under its own index. -/
theorem readAs_canonical {β : Type} {c : Visit β} {wrap : β → FabricEventBody} {i n : Nat}
    {bytes rest : List UInt8} {v : FabricEventBody} (hc : c.Canonical)
    (hwrite : ∀ b, (wrap b).write = c.write b) (hindex : ∀ b, (wrap b).index = i)
    (h : readAs c wrap n bytes = .ok (v, rest)) : v.index = i ∧ bytes = v.write ++ rest := by
  obtain ⟨b, hread, hv⟩ := readAs_ok h
  obtain rfl : v = wrap b := hv
  exact ⟨hindex b, by rw [hwrite]; exact hc n _ _ _ hread⟩

theorem readAlternative_canonical (each : EachAlternative fun c _ => c.Canonical) {i n : Nat}
    {bytes rest : List UInt8} {v : FabricEventBody}
    (h : readAlternative i n bytes = .ok (v, rest)) : v.index = i ∧ bytes = v.write ++ rest := by
  unfold readAlternative at h
  split at h
  · exact readAs_canonical each.topologyObserved (fun _ => rfl) (fun _ => rfl) h
  · exact readAs_canonical each.capabilityObserved (fun _ => rfl) (fun _ => rfl) h
  · exact readAs_canonical each.healthObserved (fun _ => rfl) (fun _ => rfl) h
  · exact readAs_canonical each.policyAdvanced (fun _ => rfl) (fun _ => rfl) h
  · exact readAs_canonical each.dpuAttached (fun _ => rfl) (fun _ => rfl) h
  · exact readAs_canonical each.dpuLost (fun _ => rfl) (fun _ => rfl) h
  · exact readAs_canonical each.serviceDeclared (fun _ => rfl) (fun _ => rfl) h
  · exact readAs_canonical each.groupDeclared (fun _ => rfl) (fun _ => rfl) h
  · exact readAs_canonical each.dependencyDeclared (fun _ => rfl) (fun _ => rfl) h
  · exact readAs_canonical each.intentSubmitted (fun _ => rfl) (fun _ => rfl) h
  · exact readAs_canonical each.executionAcknowledged (fun _ => rfl) (fun _ => rfl) h
  · exact readAs_canonical each.effectReported (fun _ => rfl) (fun _ => rfl) h
  · exact readAs_canonical each.coordinatorAdvanced (fun _ => rfl) (fun _ => rfl) h
  · exact readAs_canonical each.logicalTimeAdvanced (fun _ => rfl) (fun _ => rfl) h
  · exact readAs_canonical each.quiesceRequested (fun _ => rfl) (fun _ => rfl) h
  · simp at h

theorem visit_canonical (each : EachAlternative fun c _ => c.Canonical) : visit.Canonical := by
  refine typeName_canonical (Codec.dependent_canonical u32_canonical ?_ fun i n bytes v rest h =>
    (readAlternative_canonical each h).2)
  intro n i bytes rest bytes' v rest' _ _ h
  rw [(readAlternative_canonical each h).1, UInt32.ofNat_toNat]

/-- Two bodies of one alternative are told apart by its description. -/
theorem write_apart {ok : FabricEventBody → Prop}
    (each : EachAlternative fun c wrap => c.Apart (fun b => ok (wrap b))) {v w : FabricEventBody}
    {rest rest' : List UInt8} (hindex : v.index = w.index) (hv : ok v) (hw : ok w)
    (h : v.write ++ rest = w.write ++ rest') : v.norm = w.norm ∧ rest = rest' := by
  cases v <;> cases w <;> cases hindex
  · exact (each.topologyObserved _ _ _ _ hv hw h).imp_left (congrArg FabricEventBody.topologyObserved)
  · exact (each.capabilityObserved _ _ _ _ hv hw h).imp_left (congrArg FabricEventBody.capabilityObserved)
  · exact (each.healthObserved _ _ _ _ hv hw h).imp_left (congrArg FabricEventBody.healthObserved)
  · exact (each.policyAdvanced _ _ _ _ hv hw h).imp_left (congrArg FabricEventBody.policyAdvanced)
  · exact (each.dpuAttached _ _ _ _ hv hw h).imp_left (congrArg FabricEventBody.dpuAttached)
  · exact (each.dpuLost _ _ _ _ hv hw h).imp_left (congrArg FabricEventBody.dpuLost)
  · exact (each.serviceDeclared _ _ _ _ hv hw h).imp_left (congrArg FabricEventBody.serviceDeclared)
  · exact (each.groupDeclared _ _ _ _ hv hw h).imp_left (congrArg FabricEventBody.groupDeclared)
  · exact (each.dependencyDeclared _ _ _ _ hv hw h).imp_left (congrArg FabricEventBody.dependencyDeclared)
  · exact (each.intentSubmitted _ _ _ _ hv hw h).imp_left (congrArg FabricEventBody.intentSubmitted)
  · exact (each.executionAcknowledged _ _ _ _ hv hw h).imp_left (congrArg FabricEventBody.executionAcknowledged)
  · exact (each.effectReported _ _ _ _ hv hw h).imp_left (congrArg FabricEventBody.effectReported)
  · exact (each.coordinatorAdvanced _ _ _ _ hv hw h).imp_left (congrArg FabricEventBody.coordinatorAdvanced)
  · exact (each.logicalTimeAdvanced _ _ _ _ hv hw h).imp_left (congrArg FabricEventBody.logicalTimeAdvanced)
  · exact (each.quiesceRequested _ _ _ _ hv hw h).imp_left (congrArg FabricEventBody.quiesceRequested)

theorem visit_apart {ok : FabricEventBody → Prop}
    (each : EachAlternative fun c wrap => c.Apart (fun b => ok (wrap b))) : visit.Apart ok := by
  refine typeName_apart (Codec.dependent_apart u32_apart (fun _ _ => trivial) fun i => ?_)
  rintro v w rest rest' ⟨hv, hvi⟩ ⟨hw, hwi⟩ h
  have hindex : v.index = w.index := by
    rw [← index_norm v, ← index_norm w, hvi, hwi]
  exact write_apart each hindex hv hw h

end FabricEventBody

/-! ## §2. Descriptions built from the pieces of the archive. -/

/-- How a description is put together. -/
class inductive Archived : {α : Type} → Visit α → Type 1
  | bool : Archived bool
  | unsigned {max : Nat} : Archived (unsigned max)
  | u64 : Archived u64
  | u32 : Archived u32
  | i64 : Archived i64
  | text : Archived text
  | digest : Archived digest
  | enum {α : Type} [DecidableEq α] {table : List (α × String)} (named : Named table) :
      Archived (enum table)
  | id {tag : IdTag} : Archived (id : Visit (StrongId tag))
  | counter {tag : CounterTag} : Archived (counter : Visit (Counter tag))
  | opt {α : Type} {c : Visit α} (value : Archived c) : Archived (opt c)
  | vec {α : Type} {c : Visit α} (element : Archived c) : Archived (vec c)
  | field {α β : Type} {name : String} {c : Visit α} {rest : Fields β} (first : Archived c)
      (others : Archived rest.codec) : Archived (Fields.field name c rest).codec
  | last {α : Type} {name : String} {c : Visit α} (only : Archived c) :
      Archived (Fields.last name c).codec
  | object {α β : Type} {name : String} {h : (txt name).length ≤ maxDecodedBlob}
      {fields : Fields β} {unpack : α → β} {pack : β → α}
      (whole : Function.LeftInverse unpack pack) (members : Archived fields.codec) :
      Archived (object name h fields unpack pack)
  | body (topologyObserved : Archived TopologyObserved.visit)
      (capabilityObserved : Archived CapabilityObserved.visit)
      (healthObserved : Archived HealthObserved.visit)
      (policyAdvanced : Archived PolicyAdvanced.visit)
      (dpuAttached : Archived DpuAttached.visit)
      (dpuLost : Archived DpuLost.visit)
      (serviceDeclared : Archived ServiceDeclared.visit)
      (groupDeclared : Archived GroupDeclared.visit)
      (dependencyDeclared : Archived DependencyDeclared.visit)
      (intentSubmitted : Archived IntentSubmitted.visit)
      (executionAcknowledged : Archived ExecutionAcknowledged.visit)
      (effectReported : Archived EffectReported.visit)
      (coordinatorAdvanced : Archived CoordinatorAdvanced.visit)
      (logicalTimeAdvanced : Archived LogicalTimeAdvanced.visit)
      (quiesceRequested : Archived QuiesceRequested.visit) : Archived FabricEventBody.visit

namespace Archived

/-- Every text and every sequence of the value is shorter than `2 ^ 32`, and
every number has a word. -/
def Short : {α : Type} → {c : Visit α} → Archived c → α → Prop
  | _, _, .bool, _ => True
  | _, _, .unsigned, v => v < 2 ^ 64
  | _, _, .u64, _ => True
  | _, _, .u32, _ => True
  | _, _, .i64, _ => True
  | _, _, .text, t => t.length < 2 ^ 32
  | _, _, .digest, _ => True
  | _, _, @enum _ _ _ _, _ => True
  | _, _, .id, _ => True
  | _, _, .counter, _ => True
  | _, _, .opt value, v => ∀ w ∈ v, value.Short w
  | _, _, .vec element, vs => vs.length < 2 ^ 32 ∧ ∀ v ∈ vs, element.Short v
  | _, _, .field first others, v => first.Short v.1 ∧ others.Short v.2
  | _, _, .last only, v => only.Short v
  | _, _, @object _ _ _ _ _ unpack _ _ members, v => members.Short (unpack v)
  | _, _, .body a b c d e f g h i j k l m n o, v =>
    match v with
    | .topologyObserved x => a.Short x
    | .capabilityObserved x => b.Short x
    | .healthObserved x => c.Short x
    | .policyAdvanced x => d.Short x
    | .dpuAttached x => e.Short x
    | .dpuLost x => f.Short x
    | .serviceDeclared x => g.Short x
    | .groupDeclared x => h.Short x
    | .dependencyDeclared x => i.Short x
    | .intentSubmitted x => j.Short x
    | .executionAcknowledged x => k.Short x
    | .effectReported x => l.Short x
    | .coordinatorAdvanced x => m.Short x
    | .logicalTimeAdvanced x => n.Short x
    | .quiesceRequested x => o.Short x

section Laws

variable {α : Type} {c : Visit α}

/-- **WHAT IS ACCEPTED IS AN ENCODING.** -/
theorem canonical (h : Archived c) : c.Canonical := by
  induction h with
  | bool => exact bool_canonical
  | unsigned => exact unsigned_canonical _
  | u64 => exact u64_canonical
  | u32 => exact u32_canonical
  | i64 => exact i64_canonical
  | text => exact text_canonical
  | digest => exact digest_canonical
  | enum named => exact enum_canonical named.once
  | id => exact id_canonical
  | counter => exact counter_canonical
  | opt _ ih => exact opt_canonical ih
  | vec _ ih => exact vec_canonical ih
  | field _ _ ih ih' => exact Codec.pair_canonical ih ih'
  | last _ ih => exact ih
  | object whole _ ih => exact object_canonical whole ih
  | body _ _ _ _ _ _ _ _ _ _ _ _ _ _ _ h₁ h₂ h₃ h₄ h₅ h₆ h₇ h₈ h₉ h₁₀ h₁₁ h₁₂ h₁₃ h₁₄ h₁₅ =>
    exact FabricEventBody.visit_canonical
      ⟨h₁, h₂, h₃, h₄, h₅, h₆, h₇, h₈, h₉, h₁₀, h₁₁, h₁₂, h₁₃, h₁₄, h₁₅⟩

/-- **ENCODINGS DO NOT RUN INTO EACH OTHER.** -/
theorem apart (h : Archived c) : c.Apart h.Short := by
  induction h with
  | bool => exact bool_apart
  | unsigned => exact unsigned_apart _
  | u64 => exact u64_apart
  | u32 => exact u32_apart
  | i64 => exact i64_apart
  | text => exact text_apart
  | digest => exact digest_apart
  | enum named => exact enum_apart _
  | id => exact id_apart
  | counter => exact counter_apart
  | opt _ ih => exact opt_apart ih
  | vec _ ih => exact vec_apart ih
  | field _ _ ih ih' => exact Codec.pair_apart ih ih'
  | last _ ih => exact ih
  | object _ _ ih => exact object_apart ih
  | body _ _ _ _ _ _ _ _ _ _ _ _ _ _ _ h₁ h₂ h₃ h₄ h₅ h₆ h₇ h₈ h₉ h₁₀ h₁₁ h₁₂ h₁₃ h₁₄ h₁₅ =>
    exact FabricEventBody.visit_apart
      ⟨h₁, h₂, h₃, h₄, h₅, h₆, h₇, h₈, h₉, h₁₀, h₁₁, h₁₂, h₁₃, h₁₄, h₁₅⟩

end Laws

end Archived

/-- The texts and sequences of the value are shorter than `2 ^ 32`. -/
abbrev ShortIn {α : Type} (c : Visit α) [archived : Archived c] (v : α) : Prop := archived.Short v

/-! ## §3. The pieces, as they are looked up. -/

instance : Archived bool := .bool

instance {max : Nat} : Archived (unsigned max) := .unsigned

instance : Archived u64 := .u64

instance : Archived u32 := .u32

instance : Archived i64 := .i64

instance : Archived text := .text

instance : Archived digest := .digest

instance {α : Type} [DecidableEq α] {table : List (α × String)} [named : Named table] :
    Archived (enum table) := .enum named

instance {tag : IdTag} : Archived (id : Visit (StrongId tag)) := .id

instance {tag : CounterTag} : Archived (counter : Visit (Counter tag)) := .counter

section Pieces

variable {α β : Type} {c : Visit α} [value : Archived c]

instance : Archived (opt c) := .opt value

instance : Archived (vec c) := .vec value

instance {name : String} {rest : Fields β} [others : Archived rest.codec] :
    Archived (Fields.field name c rest).codec := .field value others

instance {name : String} : Archived (Fields.last name c).codec := .last value

end Pieces

/-- A record that is put together again from the fields it lists. -/
@[reducible] def archivedObject {α β : Type} {name : String}
    {h : (txt name).length ≤ maxDecodedBlob} {fields : Fields β} {unpack : α → β} {pack : β → α}
    [members : Archived fields.codec]
    (whole : Function.LeftInverse unpack pack := by exact fun _ => rfl) :
    Archived (object name h fields unpack pack) := .object whole members

/-- A record of which nothing is lost, with what is checked of it. -/
class Filed {α : Type} (c : Visit α) where
  [archived : Archived c]
  [described : Described c]
  [lossless : Lossless c]

attribute [instance] Filed.archived Filed.described Filed.lossless

/-- A record whose members are its fields, in order. -/
@[reducible] def filedObject {α β : Type} {name : String} {h : (txt name).length ≤ maxDecodedBlob}
    {fields : Fields β} {unpack : α → β} {pack : β → α} [members : Archived fields.codec]
    [Described fields.codec] [Lossless fields.codec]
    (hpack : Function.LeftInverse unpack pack := by exact fun _ => rfl)
    (hunpack : ∀ v, pack (unpack v) = v := by exact fun _ => rfl) :
    Filed (object name h fields unpack pack) where
  archived := .object hpack members
  described := describedObject hpack
  lossless := lossless_object hunpack

end DpuFabric
