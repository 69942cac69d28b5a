import DeviceBroker.Proofs.Simulator.Gallery
import DeviceBroker.Proofs.Simulator.Numerals
import DeviceBroker.Proofs.Simulator.Texts

/-!
# Reading objects

Everything that is asked of a live object is answered from what it shows, so
objects with one place in one tree give the same answers, whatever other
objects there are. What an object shows is never too large to be counted.
-/

namespace DeviceBroker

variable {cards : Nat}

namespace Face

/-- The number that is read from what is shown. -/
def read64 : Face → Except Fault UInt64
  | .attribute text =>
    match attributeNumber? text with
    | some number => .ok number
    | none => .error .exception
  | .container _ => .error .invalidParam

/-- The bytes that are read from what is shown. -/
def read (face : Face) (offset length : UInt64) : Except Fault (List UInt8) :=
  match face with
  | .attribute text =>
    let bytes := text.toByteArray.data.toList
    if bytes.length < offset.toNat then .error .invalidParam
    else .ok ((bytes.drop offset.toNat).take length.toNat)
  | .container _ => .error .invalidParam

theorem read64_attributeText (value : UInt64) :
    (Face.attribute (attributeText value)).read64 = .ok value := by
  rw [read64, attributeNumber?_attributeText]

/-- No more bytes are read than were asked for. -/
theorem take_read {face : Face} {offset length : UInt64} {bytes : List UInt8}
    (h : face.read offset length = .ok bytes) : bytes.take length.toNat = bytes := by
  unfold read at h
  split at h
  · dsimp only at h
    split at h
    · cases h
    · cases h
      rw [List.take_take, Nat.min_self]
  · cases h

end Face

namespace Simulator

section

variable {s : Simulator cards} {object : NativeObject} {state : OpenObject cards} {face : Face}
  (hf : s.objects.find? object = some state) (hface : s.faceAt state = some face)

include hf hface

theorem objectType_eq : s.objectType object = .ok face.kind := by
  obtain ⟨node, hshown, rfl⟩ := shown_of_find? hf hface
  rw [objectType, hshown]
  cases node <;> rfl

theorem objectSize_eq (small : face.size < UInt32.size) :
    s.objectSize object = .ok (.ofNat face.size) := by
  obtain ⟨node, hshown, rfl⟩ := shown_of_find? hf hface
  rw [objectSize, hshown]
  obtain text | children := node
  · exact if_pos small
  · have hsize : (TreeNode.container children).face.size = children.length := List.length_map _
    rw [hsize] at small ⊢
    exact if_pos small

theorem attributeOf_eq :
    s.attributeOf object =
      match face with
      | .attribute text => .ok text
      | .container _ => .error .invalidParam := by
  obtain ⟨node, hshown, rfl⟩ := shown_of_find? hf hface
  rw [attributeOf, hshown]
  cases node <;> rfl

theorem readObject64_eq : s.readObject64 object = face.read64 := by
  rw [readObject64, attributeOf_eq hf hface]
  cases face <;> rfl

theorem readObject_eq (offset length : UInt64) :
    s.readObject object offset length = face.read offset length := by
  rw [readObject, attributeOf_eq hf hface]
  cases face <;> rfl

omit hface

theorem objectName_eq : s.objectName object = .ok (state.path.getLastD "") := by
  rw [objectName, objectOf, hf]
  rfl

/-- A text is written over, and what is no text is not. -/
theorem writeObject64_isOk {old : String} (hface : s.faceAt state = some (.attribute old))
    (value : UInt64) : ∃ t, s.writeObject64 object value = .ok ((), t) := by
  obtain ⟨node, hshown, hold⟩ := shown_of_find? hf hface
  rw [writeObject64, hshown]
  obtain text | children := node
  · exact ⟨_, rfl⟩
  · cases hold

theorem writeObject64_of_container {names : List String}
    (hface : s.faceAt state = some (.container names)) (value : UInt64) :
    s.writeObject64 object value = .error .invalidParam := by
  obtain ⟨node, hshown, hold⟩ := shown_of_find? hf hface
  rw [writeObject64, hshown]
  obtain text | children := node
  · cases hold
  · rfl

end

end Simulator

/-! ## Sizes -/

namespace TreeNode

/-- No container has more children than a word of 32 bits can count. -/
inductive Narrow : TreeNode → Prop
  | leaf {text : String} : Narrow (.attribute text)
  | nodes {children : List (String × TreeNode)} (few : children.length < UInt32.size)
      (hnodes : ∀ child ∈ children, Narrow child.2) : Narrow (.container children)

theorem narrow_container_iff {children : List (String × TreeNode)} :
    (container children).Narrow ↔
      children.length < UInt32.size ∧ ∀ child ∈ children, child.2.Narrow :=
  ⟨fun | .nodes few hnodes => ⟨few, hnodes⟩, fun h => .nodes h.1 h.2⟩

theorem Narrow.find? {path : List String} {tree node : TreeNode} (h : tree.Narrow)
    (hfind : tree.find? path = some node) : node.Narrow := by
  induction path generalizing tree with
  | nil =>
    obtain rfl := Option.some.inj hfind
    exact h
  | cons name path ih =>
    cases h with
    | leaf => cases hfind
    | nodes few hnodes =>
      obtain ⟨next, hchild, hfind⟩ := Option.bind_eq_some_iff.mp hfind
      exact ih (hnodes _ (mem_of_child? hchild)) hfind

theorem Narrow.length_lt {path names : List String} {tree : TreeNode} (h : tree.Narrow)
    (hnames : tree.outline? path = some (some names)) : names.length < UInt32.size := by
  obtain ⟨face, hface, houtline⟩ := Option.map_eq_some_iff.mp hnames
  obtain ⟨node, hnode, rfl⟩ := Option.map_eq_some_iff.mp hface
  have hnarrow := h.find? hnode
  cases hnarrow with
  | leaf => cases houtline
  | nodes few hnodes =>
    cases houtline
    rwa [List.length_map]

end TreeNode

namespace Resource

theorem narrow_managementTree : managementTree.Narrow := by
  simp only [managementTree, TreeNode.narrow_container_iff, List.forall_mem_cons,
    List.not_mem_nil, false_implies, implies_true, TreeNode.Narrow.leaf]
  decide

theorem narrow_acceleratorTree : acceleratorTree.Narrow := by
  simp only [acceleratorTree, TreeNode.narrow_container_iff, List.forall_mem_cons,
    List.not_mem_nil, false_implies, implies_true, TreeNode.Narrow.leaf]
  decide

theorem length_lt_of_outline {kind : ResourceKind} {path names : List String}
    (h : (initial kind).tree.outline? path = some (some names)) :
    names.length < UInt32.size := by
  cases kind with
  | device => exact narrow_managementTree.length_lt h
  | accelerator =>
    rw [initial, accelerator, outline?_showGuid] at h
    exact narrow_acceleratorTree.length_lt h

end Resource

/-- The size of what is shown fits a word of 32 bits. -/
theorem Simulator.Formed.size_lt {s : Simulator cards} (h : s.Formed) (hb : s.Brief)
    {object : OpenObject cards} {face : Face} (hface : s.faceAt object = some face) :
    face.size < UInt32.size := by
  obtain text | names := face
  · have hfind := TreeNode.find?_of_face?.mp hface
    have hbrief := ((hb.resources object.site).tree.find? hfind).1
    exact Nat.lt_of_le_of_lt (TreeNode.brief_attribute_iff.mp hbrief) (by decide)
  · have houtline : s.outlines object.site object.path = some (some names) := by
      rw [s.outlines_eq_map, hface]
      rfl
    rw [h.outlines] at houtline
    exact Resource.length_lt_of_outline houtline

end DeviceBroker
