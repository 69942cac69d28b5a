import DeviceBroker.Proofs.Simulator.Gallery

/-!
# Paths

Texts are split at their slashes, and empty parts do not count, so a slash
between two texts joins the paths that they name. A path that continues another
one is found from the node of the other, and from nowhere if the other stops on
the way. Opening an object therefore comes to the same in one step and in two.
-/

namespace DeviceBroker

variable {cards : Nat}

theorem slashParts_eq_splitOnP (text : List Char) :
    slashParts text = text.splitOnP (· == '/') := by
  induction text with
  | nil => simp [slashParts]
  | cons c rest ih =>
    obtain ⟨part, parts, hparts⟩ :=
      List.exists_cons_of_ne_nil (List.splitOnP_ne_nil (· == '/') rest)
    rw [slashParts, List.splitOnP_cons_eq_if_modifyHead, ih, hparts]
    by_cases hc : c = '/' <;> simp [hc]

/-- The parts of two texts with a slash in between are the parts of both. -/
theorem slashParts_append_slash (front back : List Char) :
    slashParts (front ++ '/' :: back) = slashParts front ++ slashParts back := by
  simp only [slashParts_eq_splitOnP]
  exact List.splitOnP_append_cons front back rfl

/-- A slash joins paths. -/
theorem splitPath_append_slash (front back : String) :
    splitPath (front ++ "/" ++ back) = splitPath front ++ splitPath back := by
  have htext : (front ++ "/" ++ back).toList = front.toList ++ '/' :: back.toList := by simp
  simp only [splitPath, htext, slashParts_append_slash, List.filter_append, List.map_append]

/-- The place that a text names as seen from a place. -/
def OpenObject.child (place : OpenObject cards) (name : String) : OpenObject cards :=
  ⟨place.site, place.path ++ splitPath name⟩

theorem OpenObject.child_append_slash (place : OpenObject cards) (front back : String) :
    place.child (front ++ "/" ++ back) = (place.child front).child back := by
  simp only [child, splitPath_append_slash, List.append_assoc]

namespace Simulator

variable {s : Simulator cards} {place : OpenObject cards}

/-- Where a path leads somewhere, so does every beginning of it. -/
theorem isSome_faceAt_of_child {name : String} (h : (s.faceAt (place.child name)).isSome = true) :
    (s.faceAt place).isSome = true := by
  obtain ⟨face, hface⟩ := Option.isSome_iff_exists.mp h
  obtain ⟨node, hnode, -⟩ := Option.map_eq_some_iff.mp hface
  have hfound := (TreeNode.find?_append place.path (splitPath name) _).symm.trans hnode
  obtain ⟨first, hfirst, -⟩ := Option.bind_eq_some_iff.mp hfound
  have hshown : s.faceAt place = some first.face := congrArg (Option.map TreeNode.face) hfirst
  rw [hshown]
  rfl

/-- The state after the next object was opened at a place. -/
def hang (s : Simulator cards) (place : OpenObject cards) : Simulator cards :=
  { s with
    nextObject := s.nextObject + 1
    objects := s.objects.insert ⟨firstObject + s.nextObject⟩ place }

theorem openObject_of_face {face : Face} (h : s.faceAt place = some face) :
    s.openObject place.site place.path = .ok (⟨firstObject + s.nextObject⟩, s.hang place) := by
  obtain ⟨node, hnode, -⟩ := Option.map_eq_some_iff.mp h
  simp only [openObject, nodeOf, hnode]
  rfl

theorem openObject_of_none (h : s.faceAt place = none) :
    s.openObject place.site place.path = .error .notFound := by
  simp only [openObject, nodeOf_of_faceAt_eq_none h]

theorem find?_objects_hang (s : Simulator cards) (place : OpenObject cards) :
    (s.hang place).objects.find? ⟨firstObject + s.nextObject⟩ = some place := by
  rw [hang, Table.find?_insert, if_pos rfl]

end Simulator

end DeviceBroker
