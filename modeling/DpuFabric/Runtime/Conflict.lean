/-
  Runtime.Conflict — A CONFLICTING REDELIVERY IS NOT TAKEN FOR A DUPLICATE.

  `stage` knows an event again by `event_digest`, which hashes the encoding
  of its body and then the encoding of its identity.  Both encodings are
  self-delimiting, so as long as the hash keeps the encodings apart the
  digest tells two events apart in everything that it covers: id, origin,
  origin epoch and sequence, instant and body.
-/
import DpuFabric.Engine.RoundTrip
import DpuFabric.Runtime.Redelivery
import Mathlib.Data.Set.Function

namespace DpuFabric

open Lib Visit

/-! ## §1. What a digest covers. -/

/-- The identity that `event_digest` encodes. -/
def FabricEvent.identity (e : FabricEvent) : EventIdentity :=
  { id := e.id, origin := e.origin, originEpoch := e.originEpoch, originSeq := e.originSeq,
    instant := e.instant, payload := e.computePayloadDigest }

/-- The byte strings that are hashed on the way to the digest of an event. -/
def FabricEvent.hashed (e : FabricEvent) : Set (List UInt8) :=
  {encodeBinary FabricEventBody.visit e.body, encodeBinary EventIdentity.visit e.identity}

/-- The events agree in everything that the digest covers. -/
structure SameDelivery (e f : FabricEvent) : Prop where
  id : e.id = f.id
  origin : e.origin = f.origin
  originEpoch : e.originEpoch = f.originEpoch
  originSeq : e.originSeq = f.originSeq
  instant : e.instant = f.instant
  body : e.body = f.body

/-! ## §2. Encodings that differ. -/

/-- Self-delimiting encodings are equal for one visited part only. -/
theorem norm_eq_of_encodeBinary_eq {α : Type} {c : Visit α} [h : Archived c] {v w : α}
    (hv : ShortIn c v) (hw : ShortIn c w) (heq : encodeBinary c v = encodeBinary c w) :
    c.norm v = c.norm w := by
  have hbytes : c.write v ++ [] = c.write w ++ [] := by
    rw [List.append_nil, List.append_nil]
    exact heq
  exact (h.apart v w [] [] hv hw hbytes).1

/-- An identity has no text and no sequence without a bound of its own. -/
theorem EventIdentity.short (i : EventIdentity) : ShortIn EventIdentity.visit i :=
  ⟨trivial, trivial, trivial, trivial, trivial, trivial⟩

instance : Lossless EventIdentity.visit := lossless_object fun _ => rfl

theorem EventIdentity.encode_injective {i j : EventIdentity}
    (h : encodeBinary EventIdentity.visit i = encodeBinary EventIdentity.visit j) : i = j := by
  have hnorm := norm_eq_of_encodeBinary_eq i.short j.short h
  rwa [Lossless.norm, Lossless.norm] at hnorm

theorem FabricEventBody.encode_injective {b b' : FabricEventBody}
    (hb : ShortIn FabricEventBody.visit b) (hb' : ShortIn FabricEventBody.visit b')
    (h : encodeBinary FabricEventBody.visit b = encodeBinary FabricEventBody.visit b') :
    b = b' := by
  have hnorm := norm_eq_of_encodeBinary_eq hb hb' h
  rwa [Lossless.norm, Lossless.norm] at hnorm

/-! ## §3. Digests that differ. -/

section Digests

variable {M : Set (List UInt8)} (hfree : Set.InjOn sha256 M) {e f : FabricEvent}

theorem SameDelivery.digest (h : SameDelivery e f) : eventDigest e = eventDigest f := by
  simp only [eventDigest, FabricEvent.computePayloadDigest, h.id, h.origin, h.originEpoch,
    h.originSeq, h.instant, h.body]

include hfree

/-- Where the hash keeps the encodings apart, one digest means one content. -/
theorem SameDelivery.of_digest (hM : e.hashed ⊆ M) (hM' : f.hashed ⊆ M)
    (he : ShortIn FabricEventBody.visit e.body) (hf : ShortIn FabricEventBody.visit f.body)
    (h : eventDigest e = eventDigest f) : SameDelivery e f := by
  have hidentity : e.identity = f.identity :=
    EventIdentity.encode_injective (hfree (hM (.inr rfl)) (hM' (.inr rfl)) h)
  have hpayload : sha256 (encodeBinary FabricEventBody.visit e.body)
      = sha256 (encodeBinary FabricEventBody.visit f.body) :=
    congrArg EventIdentity.payload hidentity
  exact
    { id := congrArg EventIdentity.id hidentity
      origin := congrArg EventIdentity.origin hidentity
      originEpoch := congrArg EventIdentity.originEpoch hidentity
      originSeq := congrArg EventIdentity.originSeq hidentity
      instant := congrArg EventIdentity.instant hidentity
      body := FabricEventBody.encode_injective he hf
        (hfree (hM (.inl rfl)) (hM' (.inl rfl)) hpayload) }

end Digests

/-! ## §4. Staging a conflicting redelivery. -/

/-- The event is compared with the one record of its origin sequence. -/
theorem Window.suppressed_digest {events : List FabricEvent} {rt : FabricRuntime}
    (hwindow : Window events rt) {e d : FabricEvent}
    (hrecord : deliveryOf e ∈ rt.deliveries.entries)
    (hkey : (deliveryOf e).key = (deliveryOf d).key)
    (h : (rt.stage d).1.code = .duplicateSuppressed) : eventDigest e = eventDigest d := by
  obtain ⟨-, -, -, seen, hseen, hsame⟩ := stage_duplicate_iff.mp h
  rw [hwindow.find hrecord hkey] at hseen
  rw [← hsame, ← Option.some.inj hseen]
  rfl

/-- **ENCODINGS ARE PREFIX-FREE, AND DIGESTS OF EVENTS TELL THEM APART.**  For
every archived type, values that differ in a visited field have encodings of
which none begins the other.  If SHA-256 has no collision among the byte
strings that are hashed, two events have one digest exactly if they agree in
id, origin, origin epoch, origin sequence, instant and body; and in every run,
an event with a remembered origin sequence and another content is not
suppressed as a duplicate. -/
theorem encodings_prefix_free (M : Set (List UInt8)) (hfree : Set.InjOn sha256 M) :
    (∀ {α : Type} (c : Visit α) [Archived c] (v w : α), ShortIn c v → ShortIn c w →
        c.norm v ≠ c.norm w → ¬ encodeBinary c v <+: encodeBinary c w)
      ∧ (∀ e f : FabricEvent, e.hashed ⊆ M → f.hashed ⊆ M →
        ShortIn FabricEventBody.visit e.body → ShortIn FabricEventBody.visit f.body →
        (eventDigest e = eventDigest f
          ↔ e.id = f.id ∧ e.origin = f.origin ∧ e.originEpoch = f.originEpoch
            ∧ e.originSeq = f.originSeq ∧ e.instant = f.instant ∧ e.body = f.body))
      ∧ ∀ (moves : List Move) (p : Process), (System.after {} moves).process = some p →
        ∀ e d : FabricEvent, e.hashed ⊆ M → d.hashed ⊆ M →
        ShortIn FabricEventBody.visit e.body → ShortIn FabricEventBody.visit d.body →
        deliveryOf e ∈ p.runtime.deliveries.entries →
        d.origin = e.origin → d.originEpoch = e.originEpoch → d.originSeq = e.originSeq →
        ¬ (d.id = e.id ∧ d.instant = e.instant ∧ d.body = e.body) →
        (p.runtime.stage d).1.code ≠ .duplicateSuppressed := by
  refine ⟨fun c archived v w hv hw hne => ?_, fun e f hM hM' he hf => ?_, ?_⟩
  · exact archived.apart.not_prefix hv hw hne
  · constructor
    · intro h
      have hsame := SameDelivery.of_digest hfree hM hM' he hf h
      exact ⟨hsame.id, hsame.origin, hsame.originEpoch, hsame.originSeq, hsame.instant, hsame.body⟩
    · rintro ⟨hid, horigin, hepoch, hseq, hinstant, hbody⟩
      exact SameDelivery.digest ⟨hid, horigin, hepoch, hseq, hinstant, hbody⟩
  · intro moves p hp e d hM hM' he hd hrecord horigin hepoch hseq hconflict hsuppressed
    have hkey : (deliveryOf e).key = (deliveryOf d).key := by
      simp only [DeliveryRecord.key, deliveryOf, horigin, hepoch, hseq]
    have hdigest := (run_handling moves hp).window.suppressed_digest hrecord hkey hsuppressed
    have hsame := SameDelivery.of_digest hfree hM hM' he hd hdigest
    exact hconflict ⟨hsame.id.symm, hsame.instant.symm, hsame.body.symm⟩

/-- The time report once more, at another instant. -/
def conflictingReport : FabricEvent := { timeReport with instant := ⟨2⟩ }

/-- What is hashed for the report and for the conflicting one. -/
def reportMessages : List (List UInt8) :=
  [encodeBinary FabricEventBody.visit timeReport.body,
    encodeBinary EventIdentity.visit timeReport.identity,
    encodeBinary EventIdentity.visit conflictingReport.identity]

theorem reportMessages_distinct : (reportMessages.map sha256).Nodup := by decide +kernel

/-- The conflicting report is not suppressed by the process that remembers the
first one. -/
theorem conflicting_report_noticed :
    Set.InjOn sha256 {m | m ∈ reportMessages}
      ∧ deliveryOf timeReport ∈ reportedProcess.runtime.deliveries.entries
      ∧ (reportedProcess.runtime.stage conflictingReport).1.code ≠ .duplicateSuppressed := by
  have hfree : Set.InjOn sha256 {m | m ∈ reportMessages} :=
    fun _ ha _ hb h => List.inj_on_of_nodup_map reportMessages_distinct ha hb h
  have hrecord : deliveryOf timeReport ∈ reportedProcess.runtime.deliveries.entries := by
    decide +kernel
  have hfirst : timeReport.hashed ⊆ {m | m ∈ reportMessages} := by
    rintro m (rfl | rfl)
    · exact List.mem_cons_self
    · exact List.mem_cons_of_mem _ List.mem_cons_self
  have hsecond : conflictingReport.hashed ⊆ {m | m ∈ reportMessages} := by
    rintro m (rfl | rfl)
    · exact List.mem_cons_self
    · exact List.mem_cons_of_mem _ (List.mem_cons_of_mem _ List.mem_cons_self)
  refine ⟨hfree, hrecord, ?_⟩
  exact (encodings_prefix_free _ hfree).2.2 reportedMoves reportedProcess
    (Option.some_get reportedMoves_runs).symm timeReport conflictingReport hfirst hsecond trivial
    trivial hrecord rfl rfl rfl (fun h => absurd h.2.1 (by decide))

end DpuFabric
