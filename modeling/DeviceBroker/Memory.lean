import DeviceBroker.Bytes

/-!
# Byte memories

A `Memory` is an array of bytes that is known by its size and by the byte at
every position; positions past the end hold zero. Reading a range and writing
a range are operations on positions, so a memory of many megabytes costs
nothing until its bytes are looked at. Two memories of one size are equal when
they agree at every position below it.
-/

namespace DeviceBroker

/-- An array of bytes. -/
structure Memory where
  size : Nat
  byte : Nat → UInt8
  /-- There is nothing past the end. -/
  byte_of_size_le : ∀ i, size ≤ i → byte i = 0

namespace Memory

@[ext] theorem ext {a b : Memory} (hs : a.size = b.size)
    (hb : ∀ i, i < a.size → a.byte i = b.byte i) : a = b := by
  obtain ⟨s, f, hf⟩ := a
  obtain ⟨t, g, hg⟩ := b
  simp only at hs hb
  subst hs
  have : f = g := by
    funext i
    by_cases hi : i < s
    · exact hb i hi
    · rw [hf i (by omega), hg i (by omega)]
  subst this
  rfl

def ofFn (size : Nat) (byte : Nat → UInt8) : Memory where
  size := size
  byte i := if i < size then byte i else 0
  byte_of_size_le i h := by simp [Nat.not_lt.mpr h]

@[simp] theorem size_ofFn (size : Nat) (byte : Nat → UInt8) : (ofFn size byte).size = size := rfl

theorem byte_ofFn (size : Nat) (byte : Nat → UInt8) (i : Nat) :
    (ofFn size byte).byte i = if i < size then byte i else 0 := rfl

def fill (size : Nat) (b : UInt8) : Memory := ofFn size fun _ => b

def zeros (size : Nat) : Memory := fill size 0

def ofArray (bytes : Array UInt8) : Memory := ofFn bytes.size fun i => bytes[i]?.getD 0

def ofList (bytes : List UInt8) : Memory := ofArray bytes.toArray

def toList (m : Memory) : List UInt8 := (List.range m.size).map m.byte

@[simp] theorem length_toList (m : Memory) : m.toList.length = m.size := by
  simp [toList]

theorem toList_ofList (bytes : List UInt8) : (ofList bytes).toList = bytes := by
  apply List.ext_getElem
  · simp [ofList, ofArray]
  · intro i h _
    have hi : i < bytes.length := by simpa [ofList, ofArray] using h
    simp [toList, ofList, ofArray, byte_ofFn, hi]

def hasRange (m : Memory) (offset count : Nat) : Bool := offset + count ≤ m.size

def slice (m : Memory) (offset count : Nat) : Memory := ofFn count fun i => m.byte (offset + i)

/-- The memory after data is written at an offset; nothing is written past the end. -/
def write (m : Memory) (offset : Nat) (data : Memory) : Memory :=
  ofFn m.size fun i =>
    if offset ≤ i ∧ i < offset + data.size then data.byte (i - offset) else m.byte i

@[simp] theorem size_fill (size : Nat) (b : UInt8) : (fill size b).size = size := rfl

@[simp] theorem size_zeros (size : Nat) : (zeros size).size = size := rfl

@[simp] theorem size_ofList (bytes : List UInt8) : (ofList bytes).size = bytes.length := by
  simp [ofList, ofArray]

@[simp] theorem size_slice (m : Memory) (offset count : Nat) :
    (m.slice offset count).size = count := rfl

@[simp] theorem size_write (m : Memory) (offset : Nat) (data : Memory) :
    (m.write offset data).size = m.size := rfl

theorem byte_slice (m : Memory) (offset count i : Nat) :
    (m.slice offset count).byte i = if i < count then m.byte (offset + i) else 0 := rfl

theorem byte_write (m : Memory) (offset : Nat) (data : Memory) {i : Nat} (h : i < m.size) :
    (m.write offset data).byte i =
      if offset ≤ i ∧ i < offset + data.size then data.byte (i - offset) else m.byte i := by
  simp [write, byte_ofFn, h]

/-- Writing data over a range and reading the range gives the data. -/
theorem slice_write_self {m : Memory} {offset : Nat} {data : Memory}
    (h : offset + data.size ≤ m.size) : (m.write offset data).slice offset data.size = data := by
  have hs : ((m.write offset data).slice offset data.size).size = data.size := rfl
  apply Memory.ext hs
  intro i hi
  rw [hs] at hi
  rw [byte_slice, byte_write _ _ _ (by omega)]
  simp [hi]

def word (m : Memory) (offset width : Nat) : Nat :=
  Bytes.ofLittleEndian (m.slice offset width).toList

def ofWord (width value : Nat) : Memory := ofList (Bytes.littleEndian width value)

/-- Compare the bytes from position `i` on, as long as the fuel lasts. -/
def compareFrom (a b : Memory) : Nat → Nat → Ordering
  | 0, _ => .eq
  | fuel + 1, i =>
    if i < a.size then
      if i < b.size then
        match compare (a.byte i) (b.byte i) with
        | .eq => compareFrom a b fuel (i + 1)
        | unequal => unequal
      else .gt
    else if i < b.size then .lt else .eq

/-- The lexicographic order of two memories: the first byte that differs
decides, and a proper beginning comes first. -/
def compareLex (a b : Memory) : Ordering := compareFrom a b (max a.size b.size) 0

end Memory

end DeviceBroker
