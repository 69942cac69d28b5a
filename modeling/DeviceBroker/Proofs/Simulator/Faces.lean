import DeviceBroker.Override
import DeviceBroker.Simulator.Resource

/-!
# Faces of an attribute tree

Of a node one sees its text, or the names of its children: that is the face of
the node, and `face?` is what a tree shows at every path. It is all that can be
learnt of a tree. Writing a text over a text overrides `face?` at one path, and
whatever is written in this way, the outline of the tree stays as it is: which
paths there are, which of them are containers, and the names that these have.
-/

namespace DeviceBroker

/-- What can be seen of a node. -/
inductive Face where
  | attribute (text : String)
  | container (names : List String)
  deriving DecidableEq, Repr

namespace Face

def kind : Face → NodeKind
  | .attribute _ => .attribute
  | .container _ => .container

/-- The bytes of a text, or the number of children. -/
def size : Face → Nat
  | .attribute text => text.utf8ByteSize
  | .container names => names.length

/-- What is left of a face when texts do not count. -/
def outline : Face → Option (List String)
  | .attribute _ => none
  | .container names => some names

end Face

namespace TreeNode

def face : TreeNode → Face
  | .attribute text => .attribute text
  | .container children => .container (children.map Prod.fst)

/-- What a tree shows at a path. -/
def face? (tree : TreeNode) (path : List String) : Option Face := (tree.find? path).map face

/-- What a tree shows at a path when texts do not count. -/
def outline? (tree : TreeNode) (path : List String) : Option (Option (List String)) :=
  (tree.face? path).map Face.outline

variable {tree node : TreeNode} {name : String} {path : List String}
  {children : List (String × TreeNode)}

theorem face?_container (name : String) (path : List String)
    (children : List (String × TreeNode)) :
    (TreeNode.container children).face? (name :: path) =
      (child? name children).bind fun node => node.face? path := by
  rw [face?, find?_container, Option.map_bind]
  rfl

/-- The node at a longer path is found from the node at its beginning. -/
theorem find?_append (path rest : List String) (tree : TreeNode) :
    tree.find? (path ++ rest) = (tree.find? path).bind (find? rest) := by
  induction path generalizing tree with
  | nil => rfl
  | cons name path ih =>
    obtain text | children := tree
    · rfl
    · rw [List.cons_append, find?_container, find?_container, Option.bind_assoc]
      exact congrArg _ (funext fun node => ih node)

/-- A changed child has the name that it had, and the other children are left alone. -/
theorem changeChild?_of_child? {change : TreeNode → Option TreeNode} {changed : TreeNode}
    (h : child? name children = some node) (hchange : change node = some changed) :
    ∃ others, changeChild? name change children = some others ∧
      others.map Prod.fst = children.map Prod.fst ∧
      ∀ other,
        child? other others = if other = name then some changed else child? other children := by
  induction children with
  | nil => cases h
  | cons first rest ih =>
    obtain ⟨n, first⟩ := first
    rw [child?] at h
    rw [changeChild?]
    by_cases hn : n = name
    · rw [if_pos hn] at h
      cases h
      subst hn
      refine ⟨(n, changed) :: rest, by rw [if_pos rfl, hchange]; rfl, rfl, fun other => ?_⟩
      rw [child?, child?]
      by_cases ho : n = other
      · simp [ho]
      · simp [ho, Ne.symm ho]
    · rw [if_neg hn] at h
      obtain ⟨others, hothers, hnames, hchild⟩ := ih h
      refine ⟨(n, first) :: others, by rw [if_neg hn, hothers]; rfl, by simp [hnames],
        fun other => ?_⟩
      rw [child?, child?, hchild]
      by_cases ho : n = other
      · subst ho
        simp [hn]
      · simp [ho]

/-- A text that is written over a text is shown at its path, and at no other. -/
theorem face?_of_replace? {old : String} (h : tree.face? path = some (.attribute old))
    (new : String) :
    ∃ written, replace? (.attribute new) path tree = some written ∧
      written.face? = override tree.face? path (some (.attribute new)) := by
  induction path generalizing tree with
  | nil =>
    refine ⟨.attribute new, rfl, funext fun other => ?_⟩
    obtain text | children := tree
    · cases other <;> rfl
    · cases h
  | cons name path ih =>
    obtain text | children := tree
    · cases h
    · rw [face?_container] at h
      obtain ⟨node, hnode, hold⟩ := Option.bind_eq_some_iff.mp h
      obtain ⟨written, hwritten, hface⟩ := ih hold
      obtain ⟨others, hothers, hnames, hchild⟩ := changeChild?_of_child? hnode hwritten
      refine ⟨.container others, by rw [replace?_container, hothers]; rfl, funext fun other => ?_⟩
      cases other with
      | nil =>
        rw [override_of_ne _ _ (List.cons_ne_nil _ _).symm]
        exact congrArg (fun names => some (Face.container names)) hnames
      | cons first rest =>
        rw [face?_container, hchild]
        by_cases hf : first = name
        · subst hf
          rw [if_pos rfl, Option.bind_some, hface]
          by_cases hr : rest = path
          · rw [hr, override_self, override_self]
          · rw [override_of_ne _ _ hr, override_of_ne _ _ fun heq => hr (List.cons.inj heq).2,
              face?_container, hnode]
            rfl
        · rw [if_neg hf, override_of_ne _ _ fun heq => hf (List.cons.inj heq).1, face?_container]

theorem outline?_override {old new : String} (h : tree.face? path = some (.attribute old))
    {written : TreeNode} (hw : written.face? = override tree.face? path (some (.attribute new))) :
    written.outline? = tree.outline? := by
  funext other
  unfold outline?
  rw [hw]
  by_cases ho : other = path
  · rw [ho, override_self, h]
    rfl
  · rw [override_of_ne _ _ ho]

end TreeNode

end DeviceBroker
