import DeviceBroker.Proofs.Simulator.Operations
import DeviceBroker.Proofs.Table
import DeviceBroker.Proofs.Wire.Widths

/-!
# Texts of the driver

The simulated cards say little: the names of error registers and of the nodes of
an attribute tree are fixed, and the text of an attribute is a short fixed one, a
guid or a number. Nothing that a client or the host can do makes a longer one, so
every text that the driver returns is brief, and there are no more tokens in a
listing than there are resources.
-/

namespace DeviceBroker

open Wire (TextBrief InterfaceBrief)

/-! ### Trees -/

/-- Every name in the tree and every text is brief. -/
inductive TreeNode.Brief : TreeNode → Prop
  | leaf {value : String} (hvalue : TextBrief value) : Brief (.attribute value)
  | nodes {children : List (String × TreeNode)} (hnames : ∀ child ∈ children, TextBrief child.1)
      (hnodes : ∀ child ∈ children, Brief child.2) : Brief (.container children)

namespace TreeNode

theorem mem_of_child? {name : String} {children : List (String × TreeNode)} {node : TreeNode}
    (h : child? name children = some node) : (name, node) ∈ children := by
  induction children with
  | nil => cases h
  | cons first rest ih =>
    rw [child?] at h
    split at h
    · rename_i hname
      obtain rfl := Option.some.inj h
      exact hname ▸ List.mem_cons_self
    · exact List.mem_cons_of_mem _ (ih h)

/-- A changed list of children has the same names, and one node at most is another. -/
theorem mem_of_changeChild? {name : String} {change : TreeNode → Option TreeNode}
    {children changed : List (String × TreeNode)}
    (h : changeChild? name change children = some changed) {child : String × TreeNode}
    (hm : child ∈ changed) :
    child ∈ children ∨ ∃ node, (child.1, node) ∈ children ∧ change node = some child.2 := by
  induction children generalizing changed with
  | nil => cases h
  | cons first rest ih =>
    rw [changeChild?] at h
    split at h
    · obtain ⟨node, hnode, rfl⟩ := Option.map_eq_some_iff.mp h
      rcases List.mem_cons.mp hm with rfl | hm
      · exact .inr ⟨first.2, List.mem_cons_self, hnode⟩
      · exact .inl (List.mem_cons_of_mem _ hm)
    · obtain ⟨others, hothers, rfl⟩ := Option.map_eq_some_iff.mp h
      rcases List.mem_cons.mp hm with rfl | hm
      · exact .inl List.mem_cons_self
      · rcases ih hothers hm with hold | ⟨node, hold, hnode⟩
        · exact .inl (List.mem_cons_of_mem _ hold)
        · exact .inr ⟨node, List.mem_cons_of_mem _ hold, hnode⟩

theorem brief_attribute_iff {value : String} :
    (TreeNode.attribute value).Brief ↔ TextBrief value :=
  ⟨fun | .leaf hvalue => hvalue, .leaf⟩

theorem brief_container_iff {children : List (String × TreeNode)} :
    (container children).Brief ↔ ∀ child ∈ children, TextBrief child.1 ∧ child.2.Brief :=
  ⟨fun | .nodes hnames hnodes => fun child hm => ⟨hnames child hm, hnodes child hm⟩,
    fun h => .nodes (fun child hm => (h child hm).1) fun child hm => (h child hm).2⟩

namespace Brief

/-- What is found in a brief tree is brief, and so are the names on the way. -/
theorem find? {path : List String} {tree node : TreeNode} (h : tree.Brief)
    (hfind : tree.find? path = some node) : node.Brief ∧ ∀ name ∈ path, TextBrief name := by
  induction path generalizing tree with
  | nil =>
    obtain rfl := Option.some.inj hfind
    exact ⟨h, List.forall_mem_nil _⟩
  | cons name path ih =>
    cases h with
    | leaf hvalue => cases hfind
    | nodes hnames hnodes =>
      obtain ⟨next, hchild, hfind⟩ := Option.bind_eq_some_iff.mp hfind
      have hm := mem_of_child? hchild
      obtain ⟨hnode, hpath⟩ := ih (hnodes _ hm) hfind
      exact ⟨hnode, List.forall_mem_cons.mpr ⟨hnames _ hm, hpath⟩⟩

theorem replace? {path : List String} {tree changed new : TreeNode} (h : tree.Brief)
    (hnew : new.Brief) (hreplace : TreeNode.replace? new path tree = some changed) :
    changed.Brief := by
  induction path generalizing tree changed with
  | nil =>
    obtain rfl := Option.some.inj hreplace
    exact hnew
  | cons name path ih =>
    cases h with
    | leaf hvalue => cases hreplace
    | nodes hnames hnodes =>
      obtain ⟨children, hchange, rfl⟩ := Option.map_eq_some_iff.mp hreplace
      constructor
      · intro child hm
        rcases mem_of_changeChild? hchange hm with hold | ⟨node, hold, -⟩
        · exact hnames child hold
        · exact hnames (child.1, node) hold
      · intro child hm
        rcases mem_of_changeChild? hchange hm with hold | ⟨node, hold, hnode⟩
        · exact hnodes _ hold
        · exact ih (hnodes _ hold) hnode

theorem getD_replace? {tree new : TreeNode} (h : tree.Brief) (hnew : new.Brief)
    (path : List String) : ((TreeNode.replace? new path tree).getD tree).Brief := by
  cases hreplace : TreeNode.replace? new path tree with
  | none => exact h
  | some changed => exact h.replace? hnew hreplace

end Brief

end TreeNode

/-! ### Resources -/

theorem textBrief_ofList {chars : List Char} (h : chars.length ≤ 32) :
    TextBrief (String.ofList chars) :=
  Nat.le_trans (utf8ByteSize_ofList_le chars) (Nat.mul_le_mul_left 4 h)

theorem textBrief_attributeText (value : UInt64) : TextBrief (attributeText value) := by
  refine textBrief_ofList ?_
  have hdigits : (Hex.minimal value.toNat).length ≤ 16 :=
    (Nat.length_toDigits_le_iff (by decide) (by decide)).mpr value.toNat_lt
  simp only [List.length_cons]
  omega

namespace Resource

theorem textBrief_guidText (guid : Guid) : TextBrief (guidText guid) := by
  refine textBrief_ofList ?_
  have hdigits : (Hex.ofBytes guid.toList).length = 2 * guid.toList.length := by
    simp [Hex.ofBytes, List.length_flatMap]
  rw [hdigits, Vector.length_toList]

/-- The texts of a resource are brief. -/
structure Brief (r : Resource) : Prop where
  names : ∀ register ∈ r.errors, TextBrief register.info.name
  tree : r.tree.Brief

theorem Brief.of_eq {r r' : Resource} (h : r.Brief) (herrors : r'.errors = r.errors)
    (htree : r'.tree = r.tree) : r'.Brief :=
  ⟨herrors ▸ h.names, htree ▸ h.tree⟩

theorem Brief.showGuid {r : Resource} (h : r.Brief) : r.showGuid.Brief where
  names := h.names
  tree := by
    unfold Resource.showGuid
    dsimp only
    split
    · exact h.tree.getD_replace? (.leaf (textBrief_guidText r.guid)) _
    · exact h.tree

theorem Brief.reset {r : Resource} (h : r.Brief) (kind : ResourceKind) : (r.reset kind).Brief := by
  have hzero : r.zeroRegisters.Brief := ⟨h.names, h.tree⟩
  cases kind with
  | device => exact hzero
  | accelerator => exact hzero.showGuid

theorem Brief.load {r : Resource} (h : r.Brief) (guid : Guid) : (r.load guid).Brief :=
  Brief.reset (r := { r with guid := guid }) (h.of_eq rfl rfl) .accelerator

/-- Sampling counts, and nothing more. -/
theorem Brief.sample {r r' : Resource} {card : Nat} {number : UInt64} {metric : Metric}
    (h : r.Brief) (hsample : Telemetry.sample card number r = .ok (metric, r')) : r'.Brief := by
  unfold Telemetry.sample at hsample
  split at hsample
  · cases hsample
    exact h
  split at hsample
  · cases hsample
    exact h
  split at hsample
  · cases hsample
    exact h.of_eq rfl rfl
  · cases hsample

theorem Brief.sampleAll {r : Resource} (h : r.Brief) (card : Nat) (numbers : List (Option UInt64)) :
    (Telemetry.sampleAll card numbers r).2.Brief := by
  induction numbers generalizing r with
  | nil => exact h
  | cons number? rest ih =>
    cases number? with
    | none => exact h
    | some number =>
      rw [Telemetry.sampleAll]
      split
      · exact h
      · rename_i hsample
        have hrest := ih (h.sample hsample)
        split
        · rename_i heq
          rwa [heq] at hrest
        · rename_i heq
          rwa [heq] at hrest

theorem brief_managementTree : managementTree.Brief := by
  simp only [managementTree, TreeNode.brief_container_iff, TreeNode.brief_attribute_iff,
    List.forall_mem_cons, List.not_mem_nil, false_implies, implies_true, TextBrief]
  decide

theorem brief_acceleratorTree : acceleratorTree.Brief := by
  simp only [acceleratorTree, TreeNode.brief_container_iff, TreeNode.brief_attribute_iff,
    List.forall_mem_cons, List.not_mem_nil, false_implies, implies_true, textBrief_guidText]
  unfold TextBrief
  decide

theorem brief_initial (kind : ResourceKind) : (initial kind).Brief := by
  cases kind with
  | device =>
    refine ⟨?_, brief_managementTree⟩
    simp only [initial, management, register, List.forall_mem_cons, List.not_mem_nil, false_implies,
      implies_true, TextBrief]
    decide
  | accelerator =>
    refine Brief.showGuid ⟨?_, brief_acceleratorTree⟩
    simp only [register, List.forall_mem_cons, List.not_mem_nil, false_implies,
      implies_true, TextBrief]
    decide

end Resource

namespace Site

variable {cards : Nat}

theorem length_all (cards : Nat) : (Site.all cards).length = 2 * cards := by
  simp [Site.all, List.length_flatMap, Nat.mul_comm]

theorem interfaceBrief_header (site : Site cards) (r : Resource) :
    InterfaceBrief (site.header r).interface := Nat.le_of_ble_eq_true rfl

theorem interfaceBrief_properties (site : Site cards) (r : Resource) :
    ∀ text ∈ (site.properties r).interface, InterfaceBrief text := by
  have hinterface : (site.properties r).interface = some "dfl" := by
    unfold Site.properties
    split
    · rfl
    · rfl
  intro text ht
  obtain rfl := Option.some.inj (hinterface.symm.trans ht)
  exact Nat.le_of_ble_eq_true rfl

end Site

/-! ### Values -/

/-- The texts in the value of a call are brief, a listing has no more tokens than there are
resources, and descriptions of metrics are those of the driver's table. -/
def DeviceCall.Brief (cards : Nat) : (call : DeviceCall) → call.Value → Prop
  | .enumerate _ _, listing =>
    listing.tokens.length ≤ 2 * cards ∧
      ∀ token ∈ listing.tokens, InterfaceBrief token.header.interface
  | .cloneToken _, clone => InterfaceBrief clone.header.interface
  | .getProperties _, properties => ∀ text ∈ properties.interface, InterfaceBrief text
  | .updateProperties _, properties => ∀ text ∈ properties.interface, InterfaceBrief text
  | .getHandleProperties _, properties => ∀ text ∈ properties.interface, InterfaceBrief text
  | .getErrorInfo _ _, info => TextBrief info.name
  | .objectGetName _, name => TextBrief name
  | .objectRead _ _ _ _, bytes => bytes.length ≤ 128
  | .getMetricsInfo _ _, infos => infos <+: Telemetry.metrics
  | .getMetricThresholds _ _, thresholds => thresholds <+: Telemetry.thresholds
  | _, _ => True

namespace Simulator

variable {cards : Nat} {s t : Simulator cards}

/-- Every text that the cards can be asked for is brief. -/
structure Brief (s : Simulator cards) : Prop where
  resources (site : Site cards) : (s.resources site).Brief
  paths (object : NativeObject) (state : OpenObject cards) :
    s.objects.find? object = some state → ∀ name ∈ state.path, TextBrief name

theorem brief_start (cards : Nat) (images : String → Option (List UInt8)) :
    (start cards images).Brief where
  resources site := Resource.brief_initial site.kind
  paths _ _ h := nomatch h

/-! ### Changes of the state -/

namespace Brief

theorem of_eq (hs : s.Brief) (hresources : t.resources = s.resources)
    (hobjects : t.objects = s.objects) : t.Brief where
  resources site := hresources ▸ hs.resources site
  paths := hobjects ▸ hs.paths

theorem updateResource (hs : s.Brief) {site : Site cards} {change : Resource → Resource}
    (hchange : (s.resources site).Brief → (change (s.resources site)).Brief) :
    (s.updateResource site change).Brief where
  resources other := by
    show (override s.resources site (change (s.resources site)) other).Brief
    by_cases ho : other = site
    · rw [ho, override_self]
      exact hchange (hs.resources site)
    · rw [override_of_ne _ _ ho]
      exact hs.resources other
  paths := hs.paths

theorem changeError (hs : s.Brief) (site : Site cards) (number : UInt32)
    (change : UInt64 → UInt64) : (s.changeError site number change).Brief :=
  hs.updateResource fun hr => by
    refine ⟨fun register hm => ?_, hr.tree⟩
    obtain ⟨i, hi, rfl⟩ := List.mem_iff_getElem.mp hm
    rw [List.length_modify] at hi
    rw [List.getElem_modify]
    split
    · exact hr.names (s.resources site).errors[i] (List.getElem_mem hi)
    · exact hr.names (s.resources site).errors[i] (List.getElem_mem hi)

/-! ### Operations -/

theorem destroyToken {token : NativeToken} {value : Unit} (hs : s.Brief)
    (h : s.destroyToken token = .ok (value, t)) : t.Brief := by
  obtain rfl := destroyToken_ok h
  exact hs.of_eq rfl rfl

theorem cloneToken {token : NativeToken} {clone : NativeHeader} (hs : s.Brief)
    (h : s.cloneToken token = .ok (clone, t)) :
    InterfaceBrief clone.header.interface ∧ t.Brief := by
  obtain ⟨site, rfl, rfl⟩ := cloneToken_ok h
  exact ⟨site.interfaceBrief_header _, hs.of_eq rfl rfl⟩

theorem foldl_publish (hs : s.Brief) (sites : List (Site cards)) :
    (sites.foldl (fun s site => s.publish site.canonical site) s).Brief := by
  induction sites generalizing s with
  | nil => exact hs
  | cons site rest ih => exact ih (hs.of_eq rfl rfl)

theorem enumerate (hs : s.Brief) (filters : List (Properties NativeToken)) (maxTokens : UInt32) :
    DeviceCall.Brief cards (.enumerate filters maxTokens) (s.enumerate filters maxTokens).1 ∧
      (s.enumerate filters maxTokens).2.Brief := by
  refine ⟨⟨?_, ?_⟩, hs.foldl_publish _⟩
  · have hfound := ((Site.all cards).filter_sublist (p := s.selects filters)).length_le
    simp only [Simulator.enumerate, List.length_map, List.length_take]
    rw [Site.length_all] at hfound
    omega
  · simp only [Simulator.enumerate, List.forall_mem_map]
    exact fun site _ => site.interfaceBrief_header _

theorem propertiesAt (hs : s.Brief) (site : Site cards) :
    (∀ text ∈ (s.propertiesAt site).1.interface, InterfaceBrief text) ∧
      (s.propertiesAt site).2.Brief := by
  refine ⟨site.interfaceBrief_properties _, ?_⟩
  unfold Simulator.propertiesAt
  split
  · exact hs
  · exact hs.of_eq rfl rfl

theorem tokenProperties {token : NativeToken} {properties : Properties NativeToken} (hs : s.Brief)
    (h : s.tokenProperties token = .ok (properties, t)) :
    (∀ text ∈ properties.interface, InterfaceBrief text) ∧ t.Brief := by
  obtain ⟨site, hsite⟩ := tokenProperties_ok h
  have hat := hs.propertiesAt site
  rwa [hsite] at hat

theorem handleProperties {handle : NativeHandle} {properties : Properties NativeToken}
    (hs : s.Brief) (h : s.handleProperties handle = .ok (properties, t)) :
    (∀ text ∈ properties.interface, InterfaceBrief text) ∧ t.Brief := by
  obtain ⟨site, hsite⟩ := handleProperties_ok h
  have hat := hs.propertiesAt site
  rwa [hsite] at hat

theorem openHandle {token : NativeToken} {flags : UInt32} {handle : NativeHandle} (hs : s.Brief)
    (h : s.openHandle token flags = .ok (handle, t)) : t.Brief := by
  obtain ⟨site, -, -, rfl⟩ := openHandle_ok h
  refine Brief.of_eq (s := s.updateResource site fun r => { r with
    openCount := r.openCount + 1, exclusive := !Flags.has flags Flags.openShared }) ?_ rfl rfl
  exact hs.updateResource fun hr => hr.of_eq rfl rfl

theorem closeHandle {handle : NativeHandle} {value : Unit} (hs : s.Brief)
    (h : s.closeHandle handle = .ok (value, t)) : t.Brief := by
  obtain ⟨closed, -, rfl⟩ := closeHandle_ok h
  refine Brief.updateResource (s := { s with handles := s.handles.erase handle }) ?_ fun hr => ?_
  · exact hs.of_eq rfl rfl
  · exact hr.of_eq rfl rfl

theorem resetHandle {handle : NativeHandle} {value : Unit} (hs : s.Brief)
    (h : s.resetHandle handle = .ok (value, t)) : t.Brief := by
  unfold Simulator.resetHandle at h
  split at h
  · cases h
  · cases h
    exact hs.updateResource fun hr => hr.reset _

theorem mapMmio {handle : NativeHandle} {region : UInt32} {base : UInt64} (hs : s.Brief)
    (h : s.mapMmio handle region = .ok (base, t)) : t.Brief := by
  obtain ⟨-, rfl⟩ := mapMmio_ok h
  exact hs.of_eq rfl rfl

theorem unmapMmio {handle : NativeHandle} {region : UInt32} {value : Unit} (hs : s.Brief)
    (h : s.unmapMmio handle region = .ok (value, t)) : t.Brief := by
  obtain ⟨-, rfl⟩ := unmapMmio_ok h
  exact hs.of_eq rfl rfl

theorem writeRegister {handle : NativeHandle} {region : UInt32} {offset : UInt64} {data : Memory}
    {value : Unit} (hs : s.Brief) (h : s.writeRegister handle region offset data = .ok (value, t)) :
    t.Brief := by
  unfold Simulator.writeRegister at h
  split at h
  · cases h
  · cases h
    exact hs.updateResource fun hr => hr.of_eq rfl rfl

theorem prepareBuffer {handle : NativeHandle} {length : UInt64} {address : Option UInt64}
    {flags : UInt32} {prepared : PreparedBuffer} (hs : s.Brief)
    (h : s.prepareBuffer handle length address flags = .ok (prepared, t)) : t.Brief := by
  obtain ⟨_, _, -, -, -, rfl⟩ := prepareBuffer_ok h
  exact hs.of_eq rfl rfl

theorem releaseBuffer {handle : NativeHandle} {workspace : Nat} {value : Unit} (hs : s.Brief)
    (h : s.releaseBuffer handle workspace = .ok (value, t)) : t.Brief := by
  obtain ⟨-, rfl⟩ := releaseBuffer_ok h
  exact hs.of_eq rfl rfl

theorem writeBuffer {handle : NativeHandle} {workspace : Nat} {offset : UInt64} {data : Memory}
    {value : Unit} (hs : s.Brief)
    (h : s.writeBuffer handle workspace offset data = .ok (value, t)) : t.Brief := by
  obtain ⟨_, _, -, -, rfl⟩ := writeBuffer_ok h
  exact hs.of_eq rfl rfl

/-! ### Error registers -/

theorem errorRegister {token : NativeToken} {number : UInt32} {site : Site cards}
    {register : ErrorRegister} (hs : s.Brief)
    (h : s.errorRegister token number = .ok (site, register)) : TextBrief register.info.name := by
  unfold Simulator.errorRegister at h
  split at h
  · cases h
  · split at h
    · rename_i hregister
      cases h
      exact (hs.resources _).names _ (List.mem_of_getElem? hregister)
    · cases h

theorem errorInfo {token : NativeToken} {number : UInt32} {info : ErrorInfo} (hs : s.Brief)
    (h : s.errorInfo token number = .ok info) : TextBrief info.name := by
  unfold Simulator.errorInfo at h
  cases hregister : s.errorRegister token number with
  | error fault =>
    rw [hregister] at h
    cases h
  | ok found =>
    rw [hregister] at h
    cases h
    exact hs.errorRegister hregister

theorem clearError {token : NativeToken} {number : UInt32} {value : Unit} (hs : s.Brief)
    (h : s.clearError token number = .ok (value, t)) : t.Brief := by
  unfold Simulator.clearError at h
  split at h
  · cases h
  · split at h
    · cases h
      exact hs.changeError _ _ _
    · cases h

theorem clearAllErrors {token : NativeToken} {value : Unit} (hs : s.Brief)
    (h : s.clearAllErrors token = .ok (value, t)) : t.Brief := by
  unfold Simulator.clearAllErrors at h
  split at h
  · cases h
  · cases h
    refine hs.updateResource fun hr => ⟨List.forall_mem_map.mpr fun register hm => ?_, hr.tree⟩
    split
    · exact hr.names register hm
    · exact hr.names register hm

theorem raiseError (hs : s.Brief) (token : NativeToken) (number : UInt32) (bits : UInt64) :
    (s.raiseError token number bits).2.Brief := by
  unfold Simulator.raiseError
  split
  · exact hs
  · exact hs.changeError _ number fun value => value ||| bits

/-! ### Objects -/

theorem nodeOf {object : OpenObject cards} {node : TreeNode} (hs : s.Brief)
    (h : s.nodeOf object = .ok node) : node.Brief ∧ ∀ name ∈ object.path, TextBrief name := by
  unfold Simulator.nodeOf at h
  split at h
  · rename_i hfind
    cases h
    exact (hs.resources object.site).tree.find? hfind
  · cases h

/-- An object is opened where there is a node, so the names on its path are brief. -/
theorem openObject {site : Site cards} {path : List String} {object : NativeObject} (hs : s.Brief)
    (h : s.openObject site path = .ok (object, t)) : t.Brief := by
  have hpath : ∀ name ∈ path, TextBrief name := by
    unfold Simulator.openObject at h
    split at h
    · cases h
    · rename_i hnode
      exact (hs.nodeOf hnode).2
  obtain ⟨-, rfl⟩ := openObject_ok h
  refine ⟨hs.resources, fun other state hfind => ?_⟩
  rw [Table.find?_insert] at hfind
  split at hfind
  · cases hfind
    exact hpath
  · exact hs.paths other state hfind

theorem openObject_of_exists {object : NativeObject} (hs : s.Brief)
    (h : ∃ site path, s.openObject site path = .ok (object, t)) : t.Brief := by
  obtain ⟨site, path, h⟩ := h
  exact hs.openObject h

theorem destroyObject {object : NativeObject} {value : Unit} (hs : s.Brief)
    (h : s.destroyObject object = .ok (value, t)) : t.Brief := by
  obtain rfl := destroyObject_ok h
  refine ⟨hs.resources, fun other state hfind => ?_⟩
  rw [Table.find?_erase] at hfind
  split at hfind
  · cases hfind
  · exact hs.paths other state hfind

theorem objectName {object : NativeObject} {name : String} (hs : s.Brief)
    (h : s.objectName object = .ok name) : TextBrief name := by
  unfold Simulator.objectName Simulator.objectOf at h
  cases hfind : s.objects.find? object with
  | none =>
    rw [hfind] at h
    cases h
  | some state =>
    rw [hfind] at h
    cases h
    show TextBrief (state.path.getLastD "")
    rw [List.getLastD_eq_getLast?]
    cases hlast : state.path.getLast? with
    | none => exact Nat.zero_le _
    | some name => exact hs.paths object state hfind name (List.mem_of_getLast? hlast)

theorem attributeOf {object : NativeObject} {value : String} (hs : s.Brief)
    (h : s.attributeOf object = .ok value) : TextBrief value := by
  unfold Simulator.attributeOf Simulator.shown at h
  cases hobject : s.objectOf object with
  | error fault =>
    rw [hobject] at h
    cases h
  | ok state =>
    rw [hobject] at h
    dsimp only at h
    cases hnode : s.nodeOf state with
    | error fault =>
      rw [hnode] at h
      cases h
    | ok node =>
      rw [hnode] at h
      cases (hs.nodeOf hnode).1 with
      | leaf hvalue =>
        cases h
        exact hvalue
      | nodes hnames hnodes => cases h

theorem readObject {object : NativeObject} {offset length : UInt64} {bytes : List UInt8}
    (hs : s.Brief) (h : s.readObject object offset length = .ok bytes) : bytes.length ≤ 128 := by
  unfold Simulator.readObject at h
  split at h
  · cases h
  · rename_i value hvalue
    have hsize : value.toByteArray.data.toList.length ≤ 128 := hs.attributeOf hvalue
    dsimp only at h
    split at h
    · cases h
    · cases h
      rw [List.length_take, List.length_drop]
      omega

theorem writeObject64 {object : NativeObject} {number : UInt64} {value : Unit} (hs : s.Brief)
    (h : s.writeObject64 object number = .ok (value, t)) : t.Brief := by
  unfold Simulator.writeObject64 at h
  split at h
  · cases h
  · cases h
  · cases h
    exact hs.updateResource fun hr =>
      ⟨hr.names, hr.tree.getD_replace? (.leaf (textBrief_attributeText number)) _⟩

/-! ### Clocks, samples and functions -/

theorem setUserClock {handle : NativeHandle} {highHz lowHz : UInt64} {value : Unit} (hs : s.Brief)
    (h : s.setUserClock handle highHz lowHz = .ok (value, t)) : t.Brief := by
  unfold Simulator.setUserClock at h
  split at h
  · cases h
  · split at h
    · cases h
    · split at h
      · cases h
      · cases h
        exact hs.updateResource fun hr => hr.of_eq rfl rfl

theorem sampleMetrics (hs : s.Brief) (handle : NativeHandle) (numbers : List (Option UInt64)) :
    (s.sampleMetrics handle numbers).2.Brief := by
  unfold Simulator.sampleMetrics
  split
  · exact hs
  · rename_i state _
    show (s.updateResource state.site fun _ =>
      (Telemetry.sampleAll state.site.card numbers (s.resources state.site)).2).Brief
    exact hs.updateResource fun hr => hr.sampleAll _ _

theorem reconfigureSlot {handle : NativeHandle} {slot : UInt32} {path : String} {value : Unit}
    (hs : s.Brief) (h : s.reconfigureSlot handle slot path = .ok (value, t)) : t.Brief := by
  unfold Simulator.reconfigureSlot at h
  split at h
  · cases h
  split at h
  · cases h
  split at h
  · cases h
  split at h
  · cases h
  split at h
  · dsimp only at h
    split at h
    · cases h
    · cases h
      exact hs.updateResource fun hr => hr.load _
  · cases h

end Brief

/-! ### Calls -/

/-- The state after a call is brief, and so is what the call returns. -/
def Says (call : DeviceCall) (outcome : Except Fault call.Value × Simulator cards) : Prop :=
  outcome.2.Brief ∧ ∀ value, outcome.1 = .ok value → call.Brief cards value

theorem says_commit {call : DeviceCall} {result : Except Fault (call.Value × Simulator cards)}
    (hs : s.Brief)
    (h : ∀ value t, result = .ok (value, t) → call.Brief cards value ∧ t.Brief) :
    Says call (s.commit result) := by
  cases result with
  | error fault => exact ⟨hs, nofun⟩
  | ok outcome =>
    obtain ⟨hvalue, ht⟩ := h outcome.1 outcome.2 rfl
    refine ⟨ht, fun value hv => ?_⟩
    obtain rfl := Except.ok.inj hv
    exact hvalue

/-- A call that returns no text and leaves the state brief. -/
theorem says_of_wordless {call : DeviceCall} {outcome : Except Fault call.Value × Simulator cards}
    (hs : outcome.2.Brief) (h : ∀ value, call.Brief cards value) : Says call outcome :=
  ⟨hs, fun value _ => h value⟩

/-- What is cut from a table is a front of it. -/
theorem prefix_of_map_take {α β : Type} {found : Except Fault α} {table values : List β}
    {count : Nat} (h : found.map (fun _ => table.take count) = .ok values) : values <+: table := by
  cases found with
  | error fault => cases h
  | ok state =>
    cases h
    exact List.take_prefix count table

theorem says_serve (hs : s.Brief) (call : DeviceCall) : Says call (s.serve call) := by
  cases call with
  | enumerate filters maxTokens =>
    refine ⟨(hs.enumerate filters maxTokens).2, fun value hv => ?_⟩
    obtain rfl := Except.ok.inj hv
    exact (hs.enumerate filters maxTokens).1
  | destroyToken token => exact says_commit hs fun _ _ h => ⟨trivial, hs.destroyToken h⟩
  | cloneToken token => exact says_commit hs fun _ _ h => hs.cloneToken h
  | getProperties token => exact says_commit hs fun _ _ h => hs.tokenProperties h
  | updateProperties token => exact says_commit hs fun _ _ h => hs.tokenProperties h
  | openHandle token flags => exact says_commit hs fun _ _ h => ⟨trivial, hs.openHandle h⟩
  | closeHandle handle => exact says_commit hs fun _ _ h => ⟨trivial, hs.closeHandle h⟩
  | resetHandle handle => exact says_commit hs fun _ _ h => ⟨trivial, hs.resetHandle h⟩
  | getHandleProperties handle => exact says_commit hs fun _ _ h => hs.handleProperties h
  | mapMmio handle region => exact says_commit hs fun _ _ h => ⟨trivial, hs.mapMmio h⟩
  | unmapMmio handle region => exact says_commit hs fun _ _ h => ⟨trivial, hs.unmapMmio h⟩
  | writeMmio32 handle region offset value =>
    exact says_commit hs fun _ _ h => ⟨trivial, hs.writeRegister h⟩
  | writeMmio64 handle region offset value =>
    exact says_commit hs fun _ _ h => ⟨trivial, hs.writeRegister h⟩
  | writeMmio512 handle region offset value =>
    exact says_commit hs fun _ _ h => ⟨trivial, hs.writeRegister h⟩
  | prepareBuffer handle length address flags =>
    exact says_commit hs fun _ _ h => ⟨trivial, hs.prepareBuffer h⟩
  | releaseBuffer handle workspace =>
    exact says_commit hs fun _ _ h => ⟨trivial, hs.releaseBuffer h⟩
  | bufferWrite handle workspace offset data =>
    exact says_commit hs fun _ _ h => ⟨trivial, hs.writeBuffer h⟩
  | getErrorInfo token number => exact ⟨hs, fun _ h => hs.errorInfo h⟩
  | clearError token number => exact says_commit hs fun _ _ h => ⟨trivial, hs.clearError h⟩
  | clearAllErrors token => exact says_commit hs fun _ _ h => ⟨trivial, hs.clearAllErrors h⟩
  | tokenGetObject token name flags =>
    exact says_commit hs fun _ _ h => ⟨trivial, hs.openObject_of_exists (tokenObject_ok h)⟩
  | handleGetObject handle name flags =>
    exact says_commit hs fun _ _ h => ⟨trivial, hs.openObject_of_exists (handleObject_ok h)⟩
  | objectGetObject object name flags =>
    exact says_commit hs fun _ _ h => ⟨trivial, hs.openObject_of_exists (childObject_ok h)⟩
  | objectGetObjectAt object index =>
    exact says_commit hs fun _ _ h => ⟨trivial, hs.openObject_of_exists (childObjectAt_ok h)⟩
  | destroyObject object => exact says_commit hs fun _ _ h => ⟨trivial, hs.destroyObject h⟩
  | objectGetName object => exact ⟨hs, fun _ h => hs.objectName h⟩
  | objectRead object offset length flags => exact ⟨hs, fun _ h => hs.readObject h⟩
  | objectWrite64 object value flags =>
    exact says_commit hs fun _ _ h => ⟨trivial, hs.writeObject64 h⟩
  | setUserClock handle highHz lowHz flags =>
    exact says_commit hs fun _ _ h => ⟨trivial, hs.setUserClock h⟩
  | getMetricsInfo handle count =>
    exact ⟨hs, fun _ h => prefix_of_map_take h⟩
  | getMetricThresholds handle count =>
    exact ⟨hs, fun _ h => prefix_of_map_take h⟩
  | getMetricsByIndex handle numbers =>
    exact says_of_wordless (hs.sampleMetrics _ _) fun _ => trivial
  | getMetricsByName handle names =>
    exact says_of_wordless (hs.sampleMetrics _ _) fun _ => trivial
  | reconfigureSlot handle slot path flags =>
    exact says_commit hs fun _ _ h => ⟨trivial, hs.reconfigureSlot h⟩
  | _ => exact says_of_wordless hs fun _ => trivial

/-- Whatever is called, what is said is brief. -/
theorem says_call (hs : s.Brief) (call : DeviceCall) : Says call (s.call call) := by
  have hcounted := says_serve (s := { s with calls := s.calls + 1 }) (hs.of_eq rfl rfl) call
  unfold Simulator.call
  dsimp only
  cases s.armed call.kind with
  | some fault => exact ⟨hs.of_eq rfl rfl, nofun⟩
  | none => exact hcounted

end Simulator

end DeviceBroker
