import DeviceBroker.Proofs.Simulator.Armed
import DeviceBroker.Proofs.Simulator.Cards

/-!
# Calls confined to a card

A call names a token, a handle or an object, and that is on one card. If the
call hands nothing out, then what it answers can be told from that card alone,
and what it does is a revision of that card. Loading a function is no
exception: it reaches from a management device into the accelerator, but that
is on the same card.
-/

namespace DeviceBroker

variable {cards : Nat} {α : Type} {c : Fin cards}

namespace Simulator

/-! ## Operations -/

/-- What an operation answers and what it does are told from one card, and what
it does is a revision of that card. -/
def Confined (c : Fin cards) (s : Simulator cards)
    (operation : Simulator cards → Except Fault α × Simulator cards) : Prop :=
  ∃ result R, Revision.On c R ∧ ∀ t, Agrees c s t → operation t = (result, t.revise R)

section

variable {s : Simulator cards} {token : NativeToken} {handle : NativeHandle}
  {object : NativeObject}

theorem confined_read {read : Simulator cards → Except Fault α}
    (h : ∀ t, Agrees c s t → read t = read s) : Confined c s fun t => (read t, t) :=
  ⟨read s, .nothing, Revision.on_nothing, fun t a => by simp only [h t a, revise_nothing]⟩

theorem confined_error {operation : Simulator cards → Except Fault (α × Simulator cards)}
    (fault : Fault) (h : ∀ t, Agrees c s t → operation t = .error fault) :
    Confined c s fun t => t.commit (operation t) :=
  ⟨.error fault, .nothing, Revision.on_nothing, fun t a => by
    simp only [h t a, commit_error, revise_nothing]⟩

theorem confined_ok {operation : Simulator cards → Except Fault (α × Simulator cards)} {value : α}
    {R : Revision cards} (hR : R.On c)
    (h : ∀ t, Agrees c s t → operation t = .ok (value, t.revise R)) :
    Confined c s fun t => t.commit (operation t) :=
  ⟨.ok value, R, hR, fun t a => by simp only [h t a, commit_ok]⟩

theorem confined_updateResource {operation : Simulator cards → Except Fault (α × Simulator cards)}
    {value : α} {site : Site cards} {change : Resource → Resource} (hc : site.card = c)
    (h : ∀ t, Agrees c s t → operation t = .ok (value, t.updateResource site change)) :
    Confined c s fun t => t.commit (operation t) :=
  confined_ok (Revision.on_ofResource hc change) fun t a => by rw [h t a, updateResource_eq]

theorem confined_modifyHandle {operation : Simulator cards → Except Fault (α × Simulator cards)}
    {value : α} (h : HandleOn c s handle) (change : OpenHandle cards → OpenHandle cards)
    (hc : ∀ state, (change state).site = state.site)
    (ht : ∀ t, Agrees c s t →
      operation t = .ok (value, { t with handles := t.handles.modify handle change })) :
    Confined c s fun t => t.commit (operation t) := by
  have hR : Revision.On c (.ofHandle c handle fun state => some (change state)) := by
    refine Revision.on_ofHandle handle fun state changed heq => ?_
    obtain rfl : change state = changed := Option.some.inj heq
    exact congrArg Site.card (hc state)
  exact confined_ok hR fun t a => by rw [ht t a, modifyHandle_eq (a.handles.inside h)]

theorem confined_setMapped {operation : Simulator cards → Except Fault (α × Simulator cards)}
    {value : α} {region : UInt32} {mapped : Bool} (h : HandleOn c s handle)
    (ht : ∀ t, Agrees c s t → operation t = .ok (value, t.setMapped handle region mapped)) :
    Confined c s fun t => t.commit (operation t) :=
  confined_modifyHandle h
    (fun state => { state with mapped := override state.mapped region mapped }) (fun _ => rfl) ht

theorem confined_changeBuffers {operation : Simulator cards → Except Fault (α × Simulator cards)}
    {value : α} {change : Table Nat Buffer → Table Nat Buffer} (h : HandleOn c s handle)
    (ht : ∀ t, Agrees c s t → operation t = .ok (value, t.changeBuffers handle change)) :
    Confined c s fun t => t.commit (operation t) :=
  confined_modifyHandle h (fun state => { state with buffers := change state.buffers })
    (fun _ => rfl) ht

theorem confined_destroyToken (h : TokenOn c s token) :
    Confined c s fun t => t.commit (t.destroyToken token) := by
  cases hs : s.siteOf token with
  | error fault => exact confined_error _ fun t a => by rw [destroyToken, a.siteOf_eq h, hs]
  | ok site =>
    exact confined_ok (Revision.on_ofToken token) fun t a => by
      rw [destroyToken, a.siteOf_eq h, hs, ← eraseToken_eq (a.tokens.inside h)]

theorem confined_clearError (h : TokenOn c s token) (number : UInt32) :
    Confined c s fun t => t.commit (t.clearError token number) := by
  cases hs : s.errorRegister token number with
  | error fault => exact confined_error _ fun t a => by rw [clearError, a.errorRegister_eq h, hs]
  | ok found =>
    obtain ⟨site, register⟩ := found
    cases hc : register.info.canClear with
    | false =>
      refine confined_error .notSupported fun t a => ?_
      rw [clearError, a.errorRegister_eq h, hs]
      simp only [hc, Bool.false_eq_true, if_false]
    | true =>
      have hcleared : ∀ t, Agrees c s t →
          t.clearError token number = .ok ((), t.changeError site number fun _ => 0) := by
        intro t a
        rw [clearError, a.errorRegister_eq h, hs]
        simp only [hc, if_true]
      exact confined_updateResource (h.card_of_errorRegister hs) hcleared

theorem confined_clearAllErrors (h : TokenOn c s token) :
    Confined c s fun t => t.commit (t.clearAllErrors token) := by
  cases hs : s.siteOf token with
  | error fault => exact confined_error _ fun t a => by rw [clearAllErrors, a.siteOf_eq h, hs]
  | ok site =>
    exact confined_updateResource (h.card_eq hs) fun t a => by
      rw [clearAllErrors, a.siteOf_eq h, hs]

theorem confined_closeHandle (h : HandleOn c s handle) :
    Confined c s fun t => t.commit (t.closeHandle handle) := by
  cases hs : s.handleOf handle with
  | error fault => exact confined_error _ fun t a => by rw [closeHandle, a.handleOf_eq h, hs]
  | ok closed =>
    have hdropped : Revision.On c (.ofHandle c handle fun _ => none) :=
      Revision.on_ofHandle handle fun _ _ hkept => by cases hkept
    exact confined_ok (hdropped.andThen (Revision.on_ofResource (h.card_eq hs) _)) fun t a => by
      rw [closeHandle, a.handleOf_eq h, hs, ← revise_revise,
        ← eraseHandle_eq (a.handles.inside h), ← updateResource_eq]

theorem confined_resetHandle (h : HandleOn c s handle) :
    Confined c s fun t => t.commit (t.resetHandle handle) := by
  cases hs : s.handleOf handle with
  | error fault => exact confined_error _ fun t a => by rw [resetHandle, a.handleOf_eq h, hs]
  | ok state =>
    exact confined_updateResource (h.card_eq hs) fun t a => by
      rw [resetHandle, a.handleOf_eq h, hs]

theorem confined_unmapMmio (h : HandleOn c s handle) (region : UInt32) :
    Confined c s fun t => t.commit (t.unmapMmio handle region) := by
  cases hs : s.handleOf handle with
  | error fault => exact confined_error _ fun t a => by rw [unmapMmio, a.handleOf_eq h, hs]
  | ok state =>
    cases hm : state.mapped region with
    | false =>
      refine confined_error .invalidParam fun t a => ?_
      rw [unmapMmio, a.handleOf_eq h, hs]
      simp only [hm, Bool.false_eq_true, if_false]
    | true =>
      have hunmapped : ∀ t, Agrees c s t →
          t.unmapMmio handle region = .ok ((), t.setMapped handle region false) := by
        intro t a
        rw [unmapMmio, a.handleOf_eq h, hs]
        simp only [hm, if_true]
      exact confined_setMapped h hunmapped

theorem confined_writeRegister (h : HandleOn c s handle) (region : UInt32) (offset : UInt64)
    (data : Memory) :
    Confined c s fun t => t.commit (t.writeRegister handle region offset data) := by
  cases hs : s.regionFor handle region offset data.size with
  | error fault => exact confined_error _ fun t a => by rw [writeRegister, a.regionFor_eq h, hs]
  | ok found =>
    exact confined_updateResource (h.card_of_regionFor hs) fun t a => by
      rw [writeRegister, a.regionFor_eq h, hs]

theorem confined_releaseBuffer (h : HandleOn c s handle) (workspace : Nat) :
    Confined c s fun t => t.commit (t.releaseBuffer handle workspace) := by
  cases hs : s.bufferOf handle workspace with
  | error fault => exact confined_error _ fun t a => by rw [releaseBuffer, a.bufferOf_eq h, hs]
  | ok buffer =>
    exact confined_changeBuffers h fun t a => by rw [releaseBuffer, a.bufferOf_eq h, hs]

theorem confined_writeBuffer (h : HandleOn c s handle) (workspace : Nat) (offset : UInt64)
    (data : Memory) :
    Confined c s fun t => t.commit (t.writeBuffer handle workspace offset data) := by
  cases hs : s.bufferOf handle workspace with
  | error fault => exact confined_error _ fun t a => by rw [writeBuffer, a.bufferOf_eq h, hs]
  | ok buffer =>
    cases hr : buffer.data.hasRange offset.toNat data.size with
    | false =>
      refine confined_error .invalidParam fun t a => ?_
      rw [writeBuffer, a.bufferOf_eq h, hs]
      simp only [hr, Bool.false_eq_true, if_false]
    | true =>
      have hwritten : ∀ t, Agrees c s t → t.writeBuffer handle workspace offset data =
          .ok ((), t.changeBuffers handle fun buffers => buffers.modify workspace fun buffer =>
            { buffer with data := buffer.data.write offset.toNat data }) := by
        intro t a
        rw [writeBuffer, a.bufferOf_eq h, hs]
        simp only [hr, if_true]
      exact confined_changeBuffers h hwritten

theorem confined_destroyObject (h : ObjectOn c s object) :
    Confined c s fun t => t.commit (t.destroyObject object) := by
  cases hs : s.objectOf object with
  | error fault => exact confined_error _ fun t a => by rw [destroyObject, a.objectOf_eq h, hs]
  | ok state =>
    exact confined_ok (Revision.on_ofObject object) fun t a => by
      rw [destroyObject, a.objectOf_eq h, hs, ← eraseObject_eq (a.objects.inside h)]

theorem confined_writeObject64 (h : ObjectOn c s object) (value : UInt64) :
    Confined c s fun t => t.commit (t.writeObject64 object value) := by
  cases hs : s.shown object with
  | error fault => exact confined_error _ fun t a => by rw [writeObject64, a.shown_eq h, hs]
  | ok found =>
    obtain ⟨state, text | children⟩ := found
    · exact confined_updateResource (h.card_of_shown hs) fun t a => by
        rw [writeObject64, a.shown_eq h, hs]
    · exact confined_error _ fun t a => by rw [writeObject64, a.shown_eq h, hs]

theorem confined_setUserClock (h : HandleOn c s handle) (highHz lowHz : UInt64) :
    Confined c s fun t => t.commit (t.setUserClock handle highHz lowHz) := by
  by_cases hz : highHz = 0
  · exact confined_error _ fun t a => by rw [setUserClock, if_pos hz]
  cases hs : s.handleOf handle with
  | error fault =>
    exact confined_error _ fun t a => by rw [setUserClock, if_neg hz, a.handleOf_eq h, hs]
  | ok state =>
    have hsite := h.card_eq hs
    cases hc : (s.resources state.site).clock with
    | none =>
      refine confined_error .notSupported fun t a => ?_
      rw [setUserClock, if_neg hz, a.handleOf_eq h, hs]
      simp only [a.resources _ hsite, hc]
    | some clock =>
      have hset : ∀ t, Agrees c s t → t.setUserClock handle highHz lowHz =
          .ok ((), t.updateResource state.site fun r =>
            { r with clock := some ⟨highHz, if lowHz = 0 then highHz / 2 else lowHz⟩ }) := by
        intro t a
        rw [setUserClock, if_neg hz, a.handleOf_eq h, hs]
        simp only [a.resources _ hsite, hc]
      exact confined_updateResource hsite hset

/-- Loading a function changes the other resource of the card, never another card. -/
theorem confined_reconfigureSlot (h : HandleOn c s handle) (slot : UInt32) (path : String) :
    Confined c s fun t => t.commit (t.reconfigureSlot handle slot path) := by
  cases hi : s.images path with
  | none =>
    exact confined_error .notFound fun t a => by simp only [reconfigureSlot, a.images, hi]
  | some image =>
  cases hs : s.handleOf handle with
  | error fault =>
    exact confined_error fault fun t a => by
      simp only [reconfigureSlot, a.images, hi, a.handleOf_eq h, hs]
  | ok state =>
  obtain ⟨⟨card, kind⟩, exclusive, mapped, buffers⟩ := state
  have haccelerator : (Site.accelerator ⟨card, kind⟩).card = c := h.card_eq hs
  cases kind with
  | accelerator =>
    exact confined_error .invalidParam fun t a => by
      simp only [reconfigureSlot, a.images, hi, a.handleOf_eq h, hs]
  | device =>
    by_cases hslot : Site.numSlots ≤ slot
    · exact confined_error .invalidParam fun t a => by
        simp only [reconfigureSlot, a.images, hi, a.handleOf_eq h, hs, if_pos hslot]
    by_cases hguid : (image.take 16).length = 16
    · by_cases hopen : (s.resources (Site.accelerator ⟨card, .device⟩)).openCount > 0
      · exact confined_error .busy fun t a => by
          simp only [reconfigureSlot, a.images, hi, a.handleOf_eq h, hs, if_neg hslot,
            dif_pos hguid, a.resources _ haccelerator, if_pos hopen]
      · have hloaded : ∀ t, Agrees c s t → t.reconfigureSlot handle slot path =
            .ok ((), t.updateResource (Site.accelerator ⟨card, .device⟩)
              (Resource.load ⟨(image.take 16).toArray, by simpa using hguid⟩)) := by
          intro t a
          simp only [reconfigureSlot, a.images, hi, a.handleOf_eq h, hs, if_neg hslot,
            dif_pos hguid, a.resources _ haccelerator, if_neg hopen]
        exact confined_updateResource haccelerator hloaded
    · exact confined_error .reconfiguration fun t a => by
        simp only [reconfigureSlot, a.images, hi, a.handleOf_eq h, hs, if_neg hslot,
          dif_neg hguid]

theorem confined_sampleMetrics (h : HandleOn c s handle) (numbers : List (Option UInt64)) :
    Confined c s fun t => t.sampleMetrics handle numbers := by
  cases hs : s.handleOf handle with
  | error fault =>
    refine ⟨.error fault, .nothing, Revision.on_nothing, fun t a => ?_⟩
    simp only [sampleMetrics, a.handleOf_eq h, hs, revise_nothing]
  | ok state =>
    have hsite := h.card_eq hs
    let sampled := Telemetry.sampleAll state.site.card numbers (s.resources state.site)
    refine ⟨sampled.1, .ofResource state.site fun _ => sampled.2, Revision.on_ofResource hsite _,
      fun t a => ?_⟩
    simp only [sampleMetrics, a.handleOf_eq h, hs, a.resources _ hsite, updateResource_eq]
    rfl

end

/-! ## Calls -/

end Simulator

/-- The call hands nothing out, and what it names is on a card. -/
def DeviceCall.On (c : Fin cards) (s : Simulator cards) : DeviceCall → Prop
  | .destroyToken token | .readError token _ | .getErrorInfo token _ | .clearError token _
  | .clearAllErrors token => s.TokenOn c token
  | .closeHandle handle | .resetHandle handle | .unmapMmio handle _ | .readMmio32 handle _ _
  | .writeMmio32 handle _ _ _ | .readMmio64 handle _ _ | .writeMmio64 handle _ _ _
  | .readMmio512 handle _ _ | .writeMmio512 handle _ _ _ | .releaseBuffer handle _
  | .getIoAddress handle _ | .bufferRead handle _ _ _ | .bufferWrite handle _ _ _
  | .setUserClock handle _ _ _ | .getUserClock handle _ | .getNumMetrics handle
  | .getMetricsInfo handle _ | .getMetricsByIndex handle _ | .getMetricsByName handle _
  | .getMetricThresholds handle _ | .reconfigureSlot handle _ _ _ => s.HandleOn c handle
  | .destroyObject object | .objectGetType object | .objectGetName object
  | .objectGetSize object _ | .objectRead object _ _ _ | .objectRead64 object _
  | .objectWrite64 object _ _ => s.ObjectOn c object
  | .enumerate _ _ | .cloneToken _ | .getProperties _ | .updateProperties _ | .openHandle _ _
  | .getHandleProperties _ | .mapMmio _ _ | .prepareBuffer _ _ _ _ | .tokenGetObject _ _ _
  | .handleGetObject _ _ _ | .objectGetObject _ _ _ | .objectGetObjectAt _ _ => False

namespace Simulator

theorem confined_serve {s : Simulator cards} {call : DeviceCall} (h : call.On c s) :
    Confined c s fun t => t.serve call := by
  cases call with
  | destroyToken token => exact confined_destroyToken h
  | clearError token number => exact confined_clearError h number
  | clearAllErrors token => exact confined_clearAllErrors h
  | readError token number =>
    exact confined_read fun t a => by rw [readError, readError, a.errorRegister_eq h]
  | getErrorInfo token number =>
    exact confined_read fun t a => by rw [errorInfo, errorInfo, a.errorRegister_eq h]
  | closeHandle handle => exact confined_closeHandle h
  | resetHandle handle => exact confined_resetHandle h
  | unmapMmio handle region => exact confined_unmapMmio h region
  | readMmio32 handle region offset =>
    exact confined_read fun t a => by
      rw [readMmio32, readMmio32, readRegister, readRegister, a.regionFor_eq h]
  | readMmio64 handle region offset =>
    exact confined_read fun t a => by
      rw [readMmio64, readMmio64, readRegister, readRegister, a.regionFor_eq h]
  | readMmio512 handle region offset =>
    exact confined_read fun t a => by
      rw [readMmio512, readMmio512, readRegister, readRegister, a.regionFor_eq h]
  | writeMmio32 handle region offset value => exact confined_writeRegister h region offset _
  | writeMmio64 handle region offset value => exact confined_writeRegister h region offset _
  | writeMmio512 handle region offset value => exact confined_writeRegister h region offset _
  | releaseBuffer handle workspace => exact confined_releaseBuffer h workspace
  | getIoAddress handle workspace =>
    exact confined_read fun t a => by rw [ioAddress, ioAddress, a.bufferOf_eq h]
  | bufferRead handle workspace offset count =>
    exact confined_read fun t a => by rw [readBuffer, readBuffer, a.bufferOf_eq h]
  | bufferWrite handle workspace offset data => exact confined_writeBuffer h workspace offset data
  | setUserClock handle highHz lowHz flags => exact confined_setUserClock h highHz lowHz
  | getUserClock handle flags =>
    refine confined_read fun t a => ?_
    rw [userClock, userClock, a.handleOf_eq h]
    cases hs : s.handleOf handle with
    | error fault => rfl
    | ok state =>
      dsimp only
      rw [a.resources _ (h.card_eq hs)]
  | getNumMetrics handle => exact confined_read fun t a => by rw [a.handleOf_eq h]
  | getMetricsInfo handle count => exact confined_read fun t a => by rw [a.handleOf_eq h]
  | getMetricThresholds handle count => exact confined_read fun t a => by rw [a.handleOf_eq h]
  | getMetricsByIndex handle numbers => exact confined_sampleMetrics h _
  | getMetricsByName handle names => exact confined_sampleMetrics h _
  | reconfigureSlot handle slot path flags => exact confined_reconfigureSlot h slot path
  | destroyObject object => exact confined_destroyObject h
  | objectGetType object =>
    exact confined_read fun t a => by rw [objectType, objectType, a.shown_eq h]
  | objectGetName object =>
    exact confined_read fun t a => by rw [objectName, objectName, a.objectOf_eq h]
  | objectGetSize object flags =>
    exact confined_read fun t a => by rw [objectSize, objectSize, a.shown_eq h]
  | objectRead object offset length flags =>
    exact confined_read fun t a => by
      rw [readObject, readObject, attributeOf, attributeOf, a.shown_eq h]
  | objectRead64 object flags =>
    exact confined_read fun t a => by
      rw [readObject64, readObject64, attributeOf, attributeOf, a.shown_eq h]
  | objectWrite64 object value flags => exact confined_writeObject64 h value
  | _ => exact h.elim

/-- A call that hands nothing out is confined to the card of what it names. -/
theorem confined_call {s : Simulator cards} (unarmed : ∀ kind, s.armed kind = none)
    {call : DeviceCall} (h : call.On c s) : Confined c s fun t => t.call call := by
  obtain ⟨result, R, hR, heq⟩ := confined_serve h
  refine ⟨result, { R with calls := 1 }, ⟨hR.resources, hR.tokens, hR.handles, hR.objects⟩,
    fun t a => ?_⟩
  have hserved : t.serve call = (result, t.revise R) := heq t a
  have harmed : t.armed call.kind = none := (congrFun a.armed _).trans (unarmed _)
  dsimp only
  rw [call_of_unarmed harmed, hserved]
  rfl

end Simulator

end DeviceBroker
