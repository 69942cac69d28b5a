import DeviceBroker.Proofs.Broker.History
import DeviceBroker.Proofs.Broker.Vetting

/-!
# Failures of the driver

A request that passes the broker's own checks goes on to the driver. If the
driver fails its first call, the failure is passed on as it is, and nothing
else has happened: the registry is the same, no claim is left on what was to
be destroyed, and a request that is made again finds the broker as if the
failure had never been armed, but for the count of calls.
-/

namespace DeviceBroker

variable {cards : Nat} {α : Type}

/-- What a request is to destroy. -/
def Request.target? : Request → Option (ResourceClass × RemoteId)
  | .destroyToken tokenId => some (.token, tokenId)
  | .closeHandle handleId => some (.handle, handleId)
  | .unmapMmio _ mappingId _ => some (.mapping, mappingId)
  | .releaseBuffer _ bufferId => some (.buffer, bufferId)
  | .destroyObject objectId => some (.object, objectId)
  | _ => none

namespace Broker

variable {b : Broker cards} {cls : ResourceClass} {id : RemoteId}

theorem resolve_bind_ok {next : cls.Entry → Except Fault α} {value : α}
    (h : b.resolve cls id >>= next = .ok value) :
    ∃ entry, (b.registry.map cls).find? id = some entry ∧ next entry = .ok value := by
  cases hf : (b.registry.map cls).find? id with
  | none =>
    rw [resolve_bind_of_none hf] at h
    cases h
  | some entry =>
    rw [resolve_bind_of_some hf] at h
    exact ⟨entry, rfl, h⟩

/-- What passes as not claimed is live, and no claim is held on it. -/
theorem resolveUnclaimed_bind_ok {next : cls.Entry → Except Fault α} {value : α}
    (h : b.resolveUnclaimed cls id >>= next = .ok value) :
    (∃ entry, (b.registry.map cls).find? id = some entry) ∧
      (b.registry.map cls).claimed id = false := by
  have hlive := h
  rw [resolveUnclaimed, bind_assoc] at hlive
  obtain ⟨entry, hf, -⟩ := resolve_bind_ok hlive
  refine ⟨⟨entry, hf⟩, Bool.eq_false_iff.mpr fun hc => ?_⟩
  rw [resolveUnclaimed_bind_of_some hf, if_pos hc] at h
  cases h

theorem target_of_vet {request : Request} (h : b.vet request = .ok ())
    (ht : request.target? = some (cls, id)) :
    (∃ entry, (b.registry.map cls).find? id = some entry) ∧
      (b.registry.map cls).claimed id = false := by
  cases request with
  | destroyToken | closeHandle | destroyObject =>
    cases ht
    exact resolveUnclaimed_bind_ok h
  | unmapMmio | releaseBuffer =>
    cases ht
    obtain ⟨handle, -, h⟩ := resolve_bind_ok h
    exact resolveUnclaimed_bind_ok h
  | _ => cases ht

end Broker

/-- A program that has consumed the failure armed for a kind, and is counted
for one call, has made one call of that kind. -/
theorem Program.calls_of_disarm {p : Program α} {b : Broker cards} {kind : CallKind} {fault : Fault}
    (armed : b.device.armed kind = some fault)
    (h : (p.run b).2 = (b.disarm kind).recount (b.device.calls + 1)) :
    ∃ call, p.calls b = [call] ∧ call.kind = kind := by
  have hcount := p.calls_run b
  rw [h] at hcount
  obtain ⟨call, hcall⟩ := List.length_eq_one_iff.mp (Nat.add_left_cancel hcount.symm)
  refine ⟨call, hcall, ?_⟩
  by_contra hne
  have hsame : (p.run b).2.device.armed kind = b.device.armed kind :=
    p.armed_run (by simpa [hcall] using hne)
  rw [h, armed] at hsame
  have hnone : override b.device.armed kind none kind = none := override_self _ _ _
  exact absurd (hsame.symm.trans hnone) (by simp)

namespace Broker

/-- If a failure is armed for the first call of a request that passes the
broker's checks, the request makes that call and answers with the failure. The
broker is as before, but that the failure is consumed and the call counted. So
the same request again is answered, and served, as if the failure had not been
armed; and what was to be destroyed is live, and not claimed. -/
theorem handle_of_armed {b : Broker cards} {request : Request} {fault : Fault}
    (passes : b.vet request = .ok ())
    (armed : b.device.armed request.operation.firstCall = some fault) :
    (∃ call, (request.program b.payloadLimit).calls b = [call] ∧
      call.kind = request.operation.firstCall) ∧
    b.handle request =
      (.answer request.operation (.error fault),
        (b.disarm request.operation.firstCall).recount (b.device.calls + 1)) ∧
    (b.handle request).2.handle request =
      (((b.disarm request.operation.firstCall).handle request).1,
        ((b.disarm request.operation.firstCall).handle request).2.recount
          (((b.disarm request.operation.firstCall).handle request).2.device.calls + 1)) ∧
    ∀ cls id, request.target? = some (cls, id) →
      (∃ entry, ((b.handle request).2.registry.map cls).find? id = some entry) ∧
        ((b.handle request).2.registry.map cls).claimed id = false := by
  have hexec := (request.vetted_serve b).passed passes fault armed
  have hhandle : b.handle request = (.answer request.operation (.error fault),
      (b.disarm request.operation.firstCall).recount (b.device.calls + 1)) := by
    rw [handle_eq, hexec]
    rfl
  refine ⟨Program.calls_of_disarm armed (congrArg Prod.snd hhandle), hhandle, ?_, ?_⟩
  · have hcalls : ((b.disarm request.operation.firstCall).handle request).2.device.calls =
        b.device.calls + ((request.program b.payloadLimit).calls
          (b.disarm request.operation.firstCall)).length :=
      (request.program b.payloadLimit).calls_run (b.disarm request.operation.firstCall)
    rw [hhandle, handle_recount, hcalls, Nat.add_right_comm]
    rfl
  · intro cls id ht
    have htarget := target_of_vet passes ht
    rw [hhandle]
    exact htarget

/-- A handle with a buffer, which is about to be closed while the driver is out of reach. -/
def unreachable : Broker 1 :=
  (start (.seeded 7) (.start 1 fun _ => none) 4096).after
    [.serve (.enumerate [] 2), .serve (.openHandle ⟨7, 2⟩ 0),
      .serve (.prepareBuffer ⟨7, 3⟩ 4096 none 0), .disturb (.arm .closeHandle .noDaemon)]

theorem handle_of_armed_closeHandle :
    unreachable.vet (.closeHandle ⟨7, 3⟩) = .ok () ∧
    unreachable.device.armed .closeHandle = some .noDaemon ∧
    unreachable.handle (.closeHandle ⟨7, 3⟩) =
      (.answer .closeHandle (.error .noDaemon),
        (unreachable.disarm .closeHandle).recount (unreachable.device.calls + 1)) ∧
    ((unreachable.handle (.closeHandle ⟨7, 3⟩)).2.registry.map .handle).claimed ⟨7, 3⟩ = false :=
  have passes : unreachable.vet (.closeHandle ⟨7, 3⟩) = .ok () := rfl
  have armed : unreachable.device.armed .closeHandle = some .noDaemon := rfl
  have failed := handle_of_armed passes armed
  ⟨passes, armed, failed.2.1, (failed.2.2.2 .handle ⟨7, 3⟩ rfl).2⟩

end Broker

end DeviceBroker
