import DeviceBroker.Simulator.State

/-!
# Objects of the simulated cards

An object is a node of the attribute tree that somebody has opened. It keeps
the path of the node, so it shows what stands there when it is read.
-/

namespace DeviceBroker.Simulator

variable {cards : Nat}

def firstObject : Nat := 0x30000000

def openObject (s : Simulator cards) (site : Site cards) (path : List String) :
    Except Fault (NativeObject × Simulator cards) :=
  match s.nodeOf ⟨site, path⟩ with
  | .error fault => .error fault
  | .ok _ =>
    let object : NativeObject := ⟨firstObject + s.nextObject⟩
    .ok (object,
      { s with
        nextObject := s.nextObject + 1
        objects := s.objects.insert object ⟨site, path⟩ })

def tokenObject (s : Simulator cards) (token : NativeToken) (name : String) :
    Except Fault (NativeObject × Simulator cards) :=
  match s.siteOf token with
  | .error fault => .error fault
  | .ok site => s.openObject site (splitPath name)

def handleObject (s : Simulator cards) (handle : NativeHandle) (name : String) :
    Except Fault (NativeObject × Simulator cards) :=
  match s.handleOf handle with
  | .error fault => .error fault
  | .ok state => s.openObject state.site (splitPath name)

def childObject (s : Simulator cards) (parent : NativeObject) (name : String) :
    Except Fault (NativeObject × Simulator cards) :=
  match s.objectOf parent with
  | .error fault => .error fault
  | .ok state => s.openObject state.site (state.path ++ splitPath name)

/-- The node that an object shows, with the object's state. -/
def shown (s : Simulator cards) (object : NativeObject) :
    Except Fault (OpenObject cards × TreeNode) :=
  match s.objectOf object with
  | .error fault => .error fault
  | .ok state => (s.nodeOf state).map fun node => (state, node)

def childObjectAt (s : Simulator cards) (parent : NativeObject) (index : UInt64) :
    Except Fault (NativeObject × Simulator cards) :=
  match s.shown parent with
  | .error fault => .error fault
  | .ok (_, .attribute _) => .error .invalidParam
  | .ok (state, .container children) =>
    match (TreeNode.container children).childName? index.toNat with
    | none => .error .notFound
    | some name => s.openObject state.site (state.path ++ [name])

def destroyObject (s : Simulator cards) (object : NativeObject) :
    Except Fault (Unit × Simulator cards) :=
  match s.objectOf object with
  | .error fault => .error fault
  | .ok _ => .ok ((), { s with objects := s.objects.erase object })

def objectType (s : Simulator cards) (object : NativeObject) : Except Fault NodeKind :=
  match s.shown object with
  | .error fault => .error fault
  | .ok (_, .attribute _) => .ok .attribute
  | .ok (_, .container _) => .ok .container

/-- The last name on the path of an object; the root has the empty name. -/
def objectName (s : Simulator cards) (object : NativeObject) : Except Fault String :=
  (s.objectOf object).map fun state => state.path.getLastD ""

/-- The bytes of an attribute, or the children of a container. -/
def objectSize (s : Simulator cards) (object : NativeObject) : Except Fault UInt32 :=
  match s.shown object with
  | .error fault => .error fault
  | .ok (_, node) =>
    let size := match node with
      | .attribute value => value.utf8ByteSize
      | .container children => children.length
    if size < UInt32.size then .ok (UInt32.ofNat size) else .error .exception

def attributeOf (s : Simulator cards) (object : NativeObject) : Except Fault String :=
  match s.shown object with
  | .error fault => .error fault
  | .ok (_, .attribute value) => .ok value
  | .ok (_, .container _) => .error .invalidParam

/-- At most `length` bytes of an attribute from an offset on. -/
def readObject (s : Simulator cards) (object : NativeObject) (offset length : UInt64) :
    Except Fault (List UInt8) :=
  match s.attributeOf object with
  | .error fault => .error fault
  | .ok value =>
    let bytes := value.toByteArray.data.toList
    if bytes.length < offset.toNat then .error .invalidParam
    else .ok ((bytes.drop offset.toNat).take length.toNat)

def readObject64 (s : Simulator cards) (object : NativeObject) : Except Fault UInt64 :=
  match s.attributeOf object with
  | .error fault => .error fault
  | .ok value =>
    match attributeNumber? value with
    | some number => .ok number
    | none => .error .exception

def writeObject64 (s : Simulator cards) (object : NativeObject) (value : UInt64) :
    Except Fault (Unit × Simulator cards) :=
  match s.shown object with
  | .error fault => .error fault
  | .ok (_, .container _) => .error .invalidParam
  | .ok (state, .attribute _) =>
    .ok ((), s.updateResource state.site fun r =>
      { r with
        tree := (TreeNode.replace? (.attribute (attributeText value)) state.path r.tree).getD
          r.tree })

end DeviceBroker.Simulator
