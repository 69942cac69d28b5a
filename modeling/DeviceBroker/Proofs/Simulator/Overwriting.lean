import DeviceBroker.Proofs.Simulator.Faces

/-!
# Overwriting a node

Reading a node and overwriting it are two recursions down the same path. At
every container both take the first child of the name, so a later child of that
name, which nothing can reach, is left alone as well. This makes a path a lens
on the trees: it can be written where it can be read, what is written is read
back, what is read and written back changes nothing, of two writes the second
counts, and a path that leads elsewhere leads to the same node as before. Above
the node the containers keep the names of their children, in order.
-/

namespace DeviceBroker.TreeNode

variable {tree node new changed : TreeNode} {name : String} {path front rest : List String}
  {children others : List (String × TreeNode)}

/-- Go down a path and change the node there, unless the change refuses it. -/
def update? (change : TreeNode → Option TreeNode) : List String → TreeNode → Option TreeNode
  | [], node => change node
  | name :: path, .container children =>
    (changeChild? name (update? change path) children).map .container
  | _ :: _, .attribute _ => none

theorem update?_container (change : TreeNode → Option TreeNode) (name : String)
    (path : List String) (children : List (String × TreeNode)) :
    update? change (name :: path) (.container children) =
      (changeChild? name (update? change path) children).map .container := rfl

/-! ## Children -/

/-- A child is changed by putting another node in the place of the child that is found. -/
theorem changeChild?_eq_bind (name : String) (change : TreeNode → Option TreeNode)
    (children : List (String × TreeNode)) :
    changeChild? name change children =
      (child? name children).bind fun node =>
        (change node).bind fun new => changeChild? name (fun _ => some new) children := by
  induction children with
  | nil => rfl
  | cons first rest ih =>
    obtain ⟨n, first⟩ := first
    by_cases hn : n = name
    · simp only [changeChild?, child?, if_pos hn, Option.bind_some, Option.map_some]
      cases change first <;> rfl
    · simp only [changeChild?, child?, if_neg hn, ih, Option.map_bind, Function.comp_def]

theorem changeChild?_of_found (h : child? name children = some node)
    (change : TreeNode → Option TreeNode) :
    changeChild? name change children =
      (change node).bind fun new => changeChild? name (fun _ => some new) children := by
  rw [changeChild?_eq_bind, h, Option.bind_some]

theorem isSome_changeChild? (name : String) (change : TreeNode → Option TreeNode)
    (children : List (String × TreeNode)) :
    (changeChild? name change children).isSome = ((child? name children).bind change).isSome := by
  induction children with
  | nil => rfl
  | cons first rest ih =>
    obtain ⟨n, first⟩ := first
    by_cases hn : n = name
    · simp [changeChild?, child?, hn]
    · simp [changeChild?, child?, hn, ih]

theorem changeChild?_self (h : child? name children = some node) :
    changeChild? name (fun _ => some node) children = some children := by
  induction children with
  | nil => cases h
  | cons first rest ih =>
    obtain ⟨n, first⟩ := first
    rw [child?] at h
    by_cases hn : n = name
    · rw [if_pos hn] at h
      cases h
      rw [changeChild?, if_pos hn]
      rfl
    · rw [if_neg hn] at h
      rw [changeChild?, if_neg hn, ih h]
      rfl

/-- Of two nodes that are put in the place of a child the second stays. -/
theorem changeChild?_changeChild? {change : TreeNode → Option TreeNode}
    (h : changeChild? name change children = some others) (new : TreeNode) :
    changeChild? name (fun _ => some new) others =
      changeChild? name (fun _ => some new) children := by
  induction children generalizing others with
  | nil => cases h
  | cons first rest ih =>
    obtain ⟨n, first⟩ := first
    rw [changeChild?] at h
    by_cases hn : n = name
    · rw [if_pos hn] at h
      obtain ⟨between, -, rfl⟩ := Option.map_eq_some_iff.mp h
      simp only [changeChild?, if_pos hn]
    · rw [if_neg hn] at h
      obtain ⟨others, hothers, rfl⟩ := Option.map_eq_some_iff.mp h
      simp only [changeChild?, if_neg hn, ih hothers]

/-! ## Paths -/

/-- What is overwritten below a container is overwritten below its child of the name. -/
theorem replace?_cons_ok (h : replace? new (name :: path) tree = some changed) :
    ∃ children node below others, tree = .container children ∧
      child? name children = some node ∧ replace? new path node = some below ∧
        changed = .container others ∧
          changeChild? name (fun _ => some below) children = some others ∧
            others.map Prod.fst = children.map Prod.fst ∧
              ∀ other, child? other others =
                if other = name then some below else child? other children := by
  obtain text | children := tree
  · cases h
  rw [replace?_container, changeChild?_eq_bind] at h
  obtain ⟨others, hothers, rfl⟩ := Option.map_eq_some_iff.mp h
  obtain ⟨node, hnode, hothers⟩ := Option.bind_eq_some_iff.mp hothers
  obtain ⟨below, hbelow, hothers⟩ := Option.bind_eq_some_iff.mp hothers
  obtain ⟨others', hothers', hnames, hchild⟩ :=
    @changeChild?_of_child? node name children (fun _ => some below) below hnode rfl
  obtain rfl := Option.some.inj (hothers.symm.trans hothers')
  exact ⟨children, node, below, others, rfl, hnode, hbelow, rfl, hothers, hnames, hchild⟩

theorem isSome_replace? (new : TreeNode) (path : List String) (tree : TreeNode) :
    (replace? new path tree).isSome = (tree.find? path).isSome := by
  induction path generalizing tree with
  | nil => rfl
  | cons name path ih =>
    obtain text | children := tree
    · rfl
    rw [replace?_container, find?_container, Option.isSome_map, isSome_changeChild?]
    cases child? name children with
    | none => rfl
    | some node => exact ih node

/-- On the way to the overwritten node, every node is the one from before with the rest of
the way overwritten. -/
theorem find?_of_replace?_append (h : replace? new (front ++ rest) tree = some changed) :
    ∃ node below, tree.find? front = some node ∧ replace? new rest node = some below ∧
      changed.find? front = some below := by
  induction front generalizing tree changed with
  | nil => exact ⟨tree, changed, rfl, h, rfl⟩
  | cons name front ih =>
    obtain ⟨children, node, below, others, rfl, hnode, hbelow, rfl, -, -, hchild⟩ :=
      replace?_cons_ok h
    rw [find?_container, find?_container, hchild, if_pos rfl, hnode]
    exact ih hbelow

/-- A path that ends beside the overwritten node leads to the same node as before. -/
theorem find?_of_replace?_apart (h : replace? new path tree = some changed)
    {other : List String} (hpath : ¬ path <+: other) (hother : ¬ other <+: path) :
    changed.find? other = tree.find? other := by
  induction path generalizing tree changed other with
  | nil => exact absurd List.nil_prefix hpath
  | cons name path ih =>
    cases other with
    | nil => exact absurd List.nil_prefix hother
    | cons first other =>
      obtain ⟨children, node, below, others, rfl, hnode, hbelow, rfl, -, -, hchild⟩ :=
        replace?_cons_ok h
      rw [find?_container, find?_container, hchild]
      by_cases hf : first = name
      · -- The paths part further down, within the child that both go through.
        subst hf
        rw [if_pos rfl, hnode]
        exact ih hbelow (fun hp => hpath (List.cons_prefix_cons.mpr ⟨rfl, hp⟩))
          fun ho => hother (List.cons_prefix_cons.mpr ⟨rfl, ho⟩)
      · rw [if_neg hf]

theorem replace?_self (h : tree.find? path = some node) : replace? node path tree = some tree := by
  induction path generalizing tree with
  | nil => exact h.symm
  | cons name path ih =>
    obtain text | children := tree
    · cases h
    rw [find?_container] at h
    obtain ⟨child, hchild, hnode⟩ := Option.bind_eq_some_iff.mp h
    rw [replace?_container, changeChild?_of_found hchild, ih hnode, Option.bind_some,
      changeChild?_self hchild, Option.map_some]

theorem replace?_replace? (h : replace? new path tree = some changed) (newer : TreeNode) :
    replace? newer path changed = replace? newer path tree := by
  induction path generalizing tree changed with
  | nil => rfl
  | cons name path ih =>
    obtain ⟨children, node, below, others, rfl, hnode, hbelow, rfl, hothers, -, hchild⟩ :=
      replace?_cons_ok h
    have hfound : child? name others = some below := by rw [hchild, if_pos rfl]
    rw [replace?_container, replace?_container, changeChild?_of_found hfound,
      changeChild?_of_found hnode, ih hbelow]
    simp only [changeChild?_changeChild? hothers]

/-- Changing the node at the end of the way is reading it and overwriting it. -/
theorem update?_eq_bind (change : TreeNode → Option TreeNode) (path : List String)
    (tree : TreeNode) :
    update? change path tree =
      (tree.find? path).bind fun node =>
        (change node).bind fun new => replace? new path tree := by
  induction path generalizing tree with
  | nil => simp [update?]
  | cons name path ih =>
    obtain text | children := tree
    · rfl
    simp only [update?_container, find?_container, replace?_container]
    cases hchild : child? name children with
    | none => rw [changeChild?_eq_bind, hchild, Option.bind_none, Option.map_none, Option.bind_none,
        Option.bind_none]
    | some child =>
      rw [changeChild?_of_found hchild (update? change path), ih child]
      simp only [changeChild?_of_found hchild (replace? _ path), Option.bind_some,
        Option.bind_assoc, Option.map_bind, Function.comp_def]

/-! ## The lens -/

/-- Reading and overwriting the node at a path agree. -/
structure Lens (tree : TreeNode) (path : List String) : Prop where
  /-- A path can be written exactly if it can be read, -/
  writable : ∀ new, (replace? new path tree).isSome = (tree.find? path).isSome
  /-- and both reach the same node: whatever is made of the node that is reached for writing is
  made of the node that is read. -/
  reached : ∀ change, update? change path tree =
    (tree.find? path).bind fun node => (change node).bind fun new => replace? new path tree
  /-- The node that was written is read back, with all that is below it. -/
  written : ∀ new changed, replace? new path tree = some changed →
    ∀ rest, changed.find? (path ++ rest) = new.find? rest
  /-- A path that parts from this one leads to the same node as before. -/
  apart : ∀ new changed, replace? new path tree = some changed →
    ∀ other, ¬ path <+: other → ¬ other <+: path → changed.find? other = tree.find? other
  /-- The nodes above are containers, and keep the names of their children. -/
  above : ∀ new changed, replace? new path tree = some changed →
    ∀ front, front <+: path → front ≠ path → ∃ before after,
      tree.find? front = some (.container before) ∧ changed.find? front = some (.container after) ∧
        after.map Prod.fst = before.map Prod.fst
  /-- Writing the node that is there changes nothing. -/
  unchanged : ∀ node, tree.find? path = some node → replace? node path tree = some tree
  /-- Of two writes the second counts. -/
  rewritten : ∀ new changed, replace? new path tree = some changed →
    ∀ newer, replace? newer path changed = replace? newer path tree

/-- Every path is a lens on every tree, however often names occur in it. -/
theorem lens (tree : TreeNode) (path : List String) : tree.Lens path where
  writable new := isSome_replace? new path tree
  reached change := update?_eq_bind change path tree
  written new changed h rest := by
    rw [← List.append_nil path] at h
    obtain ⟨_, below, -, hbelow, hfound⟩ := find?_of_replace?_append h
    obtain rfl : new = below := Option.some.inj hbelow
    rw [find?_append, hfound, Option.bind_some]
  apart new changed h other hpath hother := find?_of_replace?_apart h hpath hother
  above new changed h front hfront hne := by
    obtain ⟨rest, rfl⟩ := hfront
    obtain ⟨node, below, hnode, hbelow, hfound⟩ := find?_of_replace?_append h
    cases rest with
    | nil => exact absurd (List.append_nil front).symm hne
    | cons name rest =>
      obtain ⟨before, _, _, after, rfl, -, -, rfl, -, hnames, -⟩ := replace?_cons_ok hbelow
      exact ⟨before, after, hnode, hfound, hnames⟩
  unchanged node h := replace?_self h
  rewritten new changed h newer := replace?_replace? h newer

/-- Of two children of one name the first is overwritten. -/
example :
    replace? (.attribute "2") ["a"]
      (.container [("b", .attribute "0"), ("a", .attribute "1"), ("a", .container [])]) =
        some (.container [("b", .attribute "0"), ("a", .attribute "2"), ("a", .container [])]) :=
  rfl

end DeviceBroker.TreeNode
