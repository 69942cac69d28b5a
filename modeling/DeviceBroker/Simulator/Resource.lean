import DeviceBroker.Device
import DeviceBroker.Memory
import DeviceBroker.Simulator.Tree
import DeviceBroker.Text.Blank
import DeviceBroker.Text.Number

/-!
# Resources of a simulated card

Every card has two resources, its management device and one accelerator, and a
`Resource` is the state of either: the loaded function, the error registers,
the attribute tree, the register regions, who has it open, the clocks and the
sample counter. What never changes is not in it but follows from the site of
the resource.
-/

namespace DeviceBroker

/-- One error register. -/
@[ext] structure ErrorRegister where
  info : ErrorInfo
  value : UInt64
  deriving DecidableEq, Repr

/-- The state of a resource. -/
@[ext] structure Resource where
  guid : Guid
  errors : List ErrorRegister
  tree : TreeNode
  regions : List Memory
  openCount : Nat
  /-- Whether the one open handle shut others out. -/
  exclusive : Bool
  clock : Option UserClock
  /-- How often the performance metric was sampled. -/
  samples : UInt64

namespace Resource

def regionSize : Nat := 65536

/-- The offset of the register that shows the last eight bytes of the guid. -/
def guidLowOffset : Nat := 8

/-- The offset of the register that shows the first eight bytes of the guid. -/
def guidHighOffset : Nat := 16

def managementGuid : Guid :=
  #v[0xbf, 0xaf, 0x2a, 0xe9, 0x4a, 0x52, 0x46, 0xe3, 0x82, 0xfe, 0x38, 0xf0, 0xf9, 0xe1, 0x77,
     0x64]

/-- The guid of the function that an accelerator starts with. -/
def initialGuid : Guid :=
  #v[0xd8, 0x42, 0x4d, 0xc4, 0xa4, 0xa3, 0xc4, 0x13, 0xf8, 0x9e, 0x43, 0x36, 0x83, 0xf9, 0x04,
     0x0b]

def guidText (guid : Guid) : String := String.ofList (Hex.ofBytes guid.toList)

def guidPath : List String := ["afu_id"]

/-- An error register that reads zero. -/
def register (name : String) (canClear : Bool) : ErrorRegister := ⟨⟨name, canClear⟩, 0⟩

def managementTree : TreeNode :=
  .container
    [("bitstream_id", .attribute "0x630000023000000"),
     ("bitstream_metadata", .attribute "0x1200203"),
     ("ports_num", .attribute "1"),
     ("errors", .container
       [("errors", .attribute "0x0"),
        ("first_error", .attribute "0x0"),
        ("next_error", .attribute "0x0"),
        ("pcie0_errors", .attribute "0x0")])]

/-- The attribute tree of an accelerator that has just started. -/
def acceleratorTree : TreeNode :=
  .container
    [("afu_id", .attribute (guidText initialGuid)),
     ("power_state", .attribute "0"),
     ("errors", .container
       [("errors", .attribute "0x0"),
        ("first_error", .attribute "0x0")]),
     ("userclk", .container
       [("frequency", .attribute "312500000"),
        ("low_frequency", .attribute "156250000")])]

/-- Show the guid in the registers of the first region and in its attribute. -/
def showGuid (r : Resource) : Resource :=
  { r with
    regions := r.regions.modifyHead fun region =>
      (region.write guidHighOffset (.ofList (r.guid.toList.take 8))).write guidLowOffset
        (.ofList (r.guid.toList.drop 8))
    tree := match r.tree.find? guidPath with
      | some (.attribute _) =>
        (TreeNode.replace? (.attribute (guidText r.guid)) guidPath r.tree).getD r.tree
      | _ => r.tree }

def zeroRegisters (r : Resource) : Resource :=
  { r with regions := r.regions.map fun region => .zeros region.size }

def management : Resource where
  guid := managementGuid
  errors := [register "errors" true, register "first_error" false, register "next_error" false,
    register "pcie0_errors" true]
  tree := managementTree
  regions := [.zeros regionSize]
  openCount := 0
  exclusive := false
  clock := none
  samples := 0

/-- An accelerator that has just started. -/
def accelerator : Resource :=
  showGuid
    { guid := initialGuid
      errors := [register "errors" true, register "first_error" false]
      tree := acceleratorTree
      regions := [.zeros regionSize, .zeros regionSize]
      openCount := 0
      exclusive := false
      clock := some ⟨312500000, 156250000⟩
      samples := 0 }

def initial : ResourceKind → Resource
  | .device => management
  | .accelerator => accelerator

/-- Zero every register and show the guid of an accelerator again. -/
def reset (kind : ResourceKind) (r : Resource) : Resource :=
  match kind with
  | .device => r.zeroRegisters
  | .accelerator => r.zeroRegisters.showGuid

/-- Load another function and reset. -/
def load (guid : Guid) (r : Resource) : Resource :=
  { r with guid := guid }.reset .accelerator

end Resource

/-- The text of an attribute after a number is written. -/
def attributeText (value : UInt64) : String :=
  String.ofList ('0' :: 'x' :: Hex.minimal value.toNat)

/-- The number that an attribute holds: hexadecimal after `0x`, else decimal,
with blanks around it ignored. -/
def attributeNumber? (text : String) : Option UInt64 :=
  match Blank.trim text.toList with
  | '0' :: 'x' :: digits => Number.word? 16 digits
  | digits => Number.word? 10 digits

end DeviceBroker
