import DeviceBroker.Proofs.Identity.Registry
import DeviceBroker.Proofs.Renaming

/-!
# Renaming the handles of the driver

The registry remembers the handles of the driver in the entries of one class
and does nothing with them: they are no keys, so nothing compares them. Every
operation of the registry commutes with a renaming of these handles, and none
of them issues another identifier because of it.
-/

namespace DeviceBroker

/-- The entry with the handle of the driver in it renamed. -/
def ResourceClass.rename (names : NativeHandle ≃ NativeHandle) :
    (cls : ResourceClass) → cls.Entry → cls.Entry
  | .token, entry => entry
  | .handle, entry => { entry with handle := names entry.handle }
  | .mapping, entry => entry
  | .buffer, entry => entry
  | .object, entry => entry

section

variable (names : NativeHandle ≃ NativeHandle) (cls : ResourceClass)

@[simp] theorem ResourceClass.nativeKey?_rename (entry : cls.Entry) :
    cls.nativeKey? (cls.rename names entry) = cls.nativeKey? entry := by
  cases cls <;> rfl

theorem ResourceClass.owner?_rename (entry : cls.Entry) :
    cls.owner? (cls.rename names entry) = cls.owner? entry := by
  cases cls <;> rfl

theorem ResourceClass.rename_of_ne {cls : ResourceClass} (h : cls ≠ .handle) (entry : cls.Entry) :
    cls.rename names entry = entry := by
  cases cls with
  | handle => exact absurd rfl h
  | _ => rfl

theorem ResourceClass.rename_refl (entry : cls.Entry) :
    cls.rename (Equiv.refl NativeHandle) entry = entry := by
  cases cls <;> rfl

end

/-- The slot with the handle of the driver in it renamed. -/
def Slot.rename {cls : ResourceClass} (names : NativeHandle ≃ NativeHandle) (slot : Slot cls) :
    Slot cls :=
  { slot with entry := cls.rename names slot.entry }

namespace IdentityMap

variable {cls : ResourceClass}

/-- The map with the handles of the driver in its entries renamed. -/
def rename (m : IdentityMap cls) (names : NativeHandle ≃ NativeHandle) : IdentityMap cls :=
  { m with slots := m.slots.relabel (Equiv.refl RemoteId) (Slot.rename names) }

theorem rename_of_eq (m : IdentityMap cls) {names : NativeHandle ≃ NativeHandle}
    (h : ∀ entry, cls.rename names entry = entry) : m.rename names = m := by
  have hslot : Slot.rename names = fun slot : Slot cls => slot := by
    funext slot
    rw [Slot.rename, h]
  rw [rename, hslot, Table.relabel_refl]

theorem rename_congr {m : IdentityMap cls} {names names' : NativeHandle ≃ NativeHandle}
    (h : ∀ id slot, m.slots.find? id = some slot →
      cls.rename names slot.entry = cls.rename names' slot.entry) :
    m.rename names = m.rename names' := by
  rw [rename, rename]
  congr 1
  refine Table.relabel_congr fun id slot hs => ⟨rfl, ?_⟩
  rw [Slot.rename, Slot.rename, h id slot hs]

variable (m : IdentityMap cls) (names : NativeHandle ≃ NativeHandle)

@[simp] theorem slots_find?_rename (id : RemoteId) :
    (m.rename names).slots.find? id = (m.slots.find? id).map (Slot.rename names) :=
  m.slots.find?_relabel (Equiv.refl RemoteId) _ id

@[simp] theorem slots_contains_rename (id : RemoteId) :
    (m.rename names).slots.contains id = m.slots.contains id :=
  m.slots.contains_relabel (Equiv.refl RemoteId) _ id

@[simp] theorem find?_rename (id : RemoteId) :
    (m.rename names).find? id = (m.find? id).map (cls.rename names) := by
  unfold find?
  rw [slots_find?_rename]
  split
  · rw [Option.map_map, Option.map_map]
    rfl
  · rfl

@[simp] theorem ids_rename : (m.rename names).ids = m.ids := by
  have hkeys : (m.rename names).slots.keys = m.slots.keys :=
    (m.slots.keys_relabel _ _).trans (List.map_id _)
  rw [ids, ids, hkeys]

theorem rename_mark (id : RemoteId) (claimed : Bool) :
    (m.mark id claimed).rename names = (m.rename names).mark id claimed := by
  unfold rename mark
  dsimp only
  congr 1
  exact m.slots.relabel_modify (Equiv.refl RemoteId) _ id fun slot => rfl

theorem rename_drop (id : RemoteId) : (m.drop id).rename names = (m.rename names).drop id := by
  unfold drop
  rw [slots_find?_rename]
  cases m.slots.find? id with
  | none => rfl
  | some slot =>
    simp only [Option.map_some, Slot.rename, ResourceClass.nativeKey?_rename]
    unfold rename
    dsimp only
    congr 1
    exact m.slots.relabel_erase (Equiv.refl RemoteId) _ id

theorem rename_put (id : RemoteId) (entry : cls.Entry) :
    (m.put id entry).rename names = (m.rename names).put id (cls.rename names entry) := by
  unfold put rename
  rw [ResourceClass.nativeKey?_rename]
  dsimp only
  congr 1
  exact m.slots.relabel_insert (Equiv.refl RemoteId) _ id ⟨entry, false⟩

theorem claim_rename (id : RemoteId) :
    (m.rename names).claim id =
      ((m.claim id).1.map (cls.rename names), (m.claim id).2.rename names) := by
  unfold claim
  rw [slots_find?_rename]
  split
  · cases m.slots.find? id with
    | none => rfl
    | some slot =>
      simp only [Option.map_some, Slot.rename]
      split
      · rfl
      · exact Prod.ext rfl (m.rename_mark names id true).symm
  · rfl

theorem settle_rename (id : RemoteId) (how : Settlement) :
    (m.rename names).settle id how =
      ((m.settle id how).1, (m.settle id how).2.rename names) := by
  unfold settle
  rw [slots_find?_rename]
  cases m.slots.find? id with
  | none => rfl
  | some slot =>
    simp only [Option.map_some, Slot.rename]
    split
    · cases how with
      | commit =>
        refine Prod.ext rfl ?_
        rw [← rename_drop]
        rfl
      | release => exact Prod.ext rfl (m.rename_mark names id false).symm
    · rfl

theorem admits_rename (id : RemoteId) (entry : cls.Entry) :
    (m.rename names).admits id (cls.rename names entry) = m.admits id entry := by
  unfold admits
  rw [slots_contains_rename, ResourceClass.nativeKey?_rename]
  rfl

theorem add_rename (id : RemoteId) (entry : cls.Entry) :
    (m.rename names).add id (cls.rename names entry) =
      ((m.add id entry).1, (m.add id entry).2.rename names) := by
  unfold add
  rw [admits_rename]
  split
  · refine Prod.ext rfl ?_
    rw [← rename_put]
    rfl
  · rfl

end IdentityMap

namespace Registry

variable (r : Registry) (names : NativeHandle ≃ NativeHandle)

/-- The registry with the handles of the driver renamed. -/
def rename : Registry := { r with handles := r.handles.rename names }

theorem map_rename (cls : ResourceClass) :
    (r.rename names).map cls = (r.map cls).rename names := by
  cases cls with
  | handle => rfl
  | _ => exact (IdentityMap.rename_of_eq _ fun _ => rfl).symm

theorem rename_withMap (cls : ResourceClass) (m : IdentityMap cls) :
    (r.withMap cls m).rename names = (r.rename names).withMap cls (m.rename names) := by
  cases cls with
  | handle => rfl
  | _ => rw [m.rename_of_eq fun _ => rfl]; rfl

theorem register_rename (cls : ResourceClass) (entry : cls.Entry) :
    (r.rename names).register cls (cls.rename names entry) =
      ((r.register cls entry).1, (r.register cls entry).2.rename names) := by
  rw [register_eq, register_eq, map_rename]
  have hadd := (r.map cls).add_rename names r.source.next.1 entry
  have hsource : (r.rename names).source = r.source := rfl
  rw [hsource, hadd]
  refine Prod.ext rfl ?_
  dsimp only
  rw [← rename_withMap]
  rfl

theorem rename_refl : r.rename (Equiv.refl NativeHandle) = r := by
  rw [rename, r.handles.rename_of_eq fun entry => ResourceClass.rename_refl .handle entry]

end Registry

end DeviceBroker
