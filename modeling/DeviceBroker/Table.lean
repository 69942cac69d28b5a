/-!
# Finite tables

A `Table κ ν` is a finite map from keys to values, kept as a list of pairs in
which no key occurs twice. Every operation has one lemma that says what it
does to `find?`, which is the view that the rest of the library reasons with.
Since the pairs are a list, erasing a key that was just inserted gives back
the very same table, not only an equivalent one.
-/

namespace DeviceBroker

/-- A finite map from `κ` to `ν`. -/
@[ext] structure Table (κ ν : Type) where
  pairs : List (κ × ν)
  nodup : (pairs.map Prod.fst).Nodup

namespace Table

variable {κ ν : Type}

def empty : Table κ ν := ⟨[], List.nodup_nil⟩

instance : Inhabited (Table κ ν) := ⟨empty⟩

def keys (t : Table κ ν) : List κ := t.pairs.map Prod.fst

def size (t : Table κ ν) : Nat := t.pairs.length

def filter (t : Table κ ν) (keep : κ → ν → Bool) : Table κ ν where
  pairs := t.pairs.filter fun p => keep p.1 p.2
  nodup := t.nodup.sublist (List.filter_sublist.map _)

@[simp] theorem size_empty : (empty : Table κ ν).size = 0 := rfl

variable [DecidableEq κ]

/-- The first value that a list of pairs gives a key. -/
def lookup? (key : κ) : List (κ × ν) → Option ν
  | [] => none
  | (k, v) :: rest => if key = k then some v else lookup? key rest

@[simp] theorem lookup?_nil (key : κ) : lookup? key ([] : List (κ × ν)) = none := rfl

theorem lookup?_cons (key k : κ) (v : ν) (rest : List (κ × ν)) :
    lookup? key ((k, v) :: rest) = if key = k then some v else lookup? key rest := rfl

def find? (t : Table κ ν) (key : κ) : Option ν := lookup? key t.pairs

def contains (t : Table κ ν) (key : κ) : Bool := (t.find? key).isSome

def erase (t : Table κ ν) (key : κ) : Table κ ν := t.filter fun k _ => k != key

/-- The table with the value at a key changed, if there is one. -/
def modify (t : Table κ ν) (key : κ) (change : ν → ν) : Table κ ν where
  pairs := t.pairs.map fun p => if p.1 = key then (p.1, change p.2) else p
  nodup := by
    have h : (t.pairs.map fun p => if p.1 = key then (p.1, change p.2) else p).map Prod.fst =
        t.pairs.map Prod.fst := by
      rw [List.map_map]
      apply List.map_congr_left
      intro p _
      by_cases hp : p.1 = key <;> simp [hp]
    rw [h]
    exact t.nodup

@[simp] theorem find?_empty (key : κ) : (empty : Table κ ν).find? key = none := rfl

theorem contains_eq (t : Table κ ν) (key : κ) : t.contains key = (t.find? key).isSome := rfl

theorem lookup?_filter (pairs : List (κ × ν)) (keep : κ → Bool) (key : κ) :
    lookup? key (pairs.filter fun p => keep p.1) =
      if keep key then lookup? key pairs else none := by
  induction pairs with
  | nil => simp
  | cons p rest ih =>
    obtain ⟨k, v⟩ := p
    by_cases hk : key = k
    · subst hk
      by_cases h : keep key = true <;> simp [h, lookup?_cons, ih]
    · by_cases h : keep k = true <;> simp [h, lookup?_cons, ih, hk]

theorem find?_erase (t : Table κ ν) (key other : κ) :
    (t.erase key).find? other = if other = key then none else t.find? other := by
  have h := lookup?_filter t.pairs (fun k => k != key) other
  by_cases ho : other = key <;> simpa [erase, filter, find?, ho] using h

@[simp] theorem find?_erase_self (t : Table κ ν) (key : κ) : (t.erase key).find? key = none := by
  simp [find?_erase]

theorem find?_modify (t : Table κ ν) (key other : κ) (change : ν → ν) :
    (t.modify key change).find? other =
      if other = key then (t.find? other).map change else t.find? other := by
  have h : ∀ pairs : List (κ × ν),
      lookup? other (pairs.map fun p => if p.1 = key then (p.1, change p.2) else p) =
        if other = key then (lookup? other pairs).map change else lookup? other pairs := by
    intro pairs
    induction pairs with
    | nil => simp
    | cons p rest ih =>
      obtain ⟨k, v⟩ := p
      rw [List.map_cons]
      by_cases hk : k = key
      · subst hk
        by_cases ho : other = k <;> simp [ho, lookup?_cons, ih]
      · by_cases ho : other = k
        · subst ho
          simp [hk, lookup?_cons]
        · simp [hk, ho, lookup?_cons, ih]
  exact h t.pairs

theorem mem_pairs_iff (t : Table κ ν) (key : κ) (value : ν) :
    (key, value) ∈ t.pairs ↔ t.find? key = some value := by
  obtain ⟨pairs, nodup⟩ := t
  simp only [find?]
  induction pairs with
  | nil => simp
  | cons p rest ih =>
    obtain ⟨k, v⟩ := p
    rw [List.map_cons, List.nodup_cons] at nodup
    by_cases hk : key = k
    · subst hk
      have : ∀ w, (key, w) ∉ rest := fun w hw => nodup.1 (List.mem_map.mpr ⟨_, hw, rfl⟩)
      simp [lookup?_cons, this, eq_comm]
    · simp [lookup?_cons, hk, ih nodup.2]

theorem not_mem_keys_of_find?_eq_none {t : Table κ ν} {key : κ} (h : t.find? key = none) :
    key ∉ t.keys := by
  intro hk
  obtain ⟨p, hp, rfl⟩ := List.mem_map.mp hk
  have := (mem_pairs_iff t p.1 p.2).mp hp
  simp [h] at this

/-- The table with a value at a key. A key that is there already keeps its
place, so that writing a value over itself changes nothing. -/
def insert (t : Table κ ν) (key : κ) (value : ν) : Table κ ν :=
  if h : t.find? key = none then
    { pairs := (key, value) :: t.pairs
      nodup := List.nodup_cons.mpr ⟨not_mem_keys_of_find?_eq_none h, t.nodup⟩ }
  else t.modify key fun _ => value

theorem find?_insert (t : Table κ ν) (key other : κ) (value : ν) :
    (t.insert key value).find? other = if other = key then some value else t.find? other := by
  by_cases h : t.find? key = none
  · have hp : (t.insert key value).pairs = (key, value) :: t.pairs := by simp [insert, h]
    rw [find?, hp, lookup?_cons]
    rfl
  · have hi : t.insert key value = t.modify key fun _ => value := by simp [insert, h]
    rw [hi, find?_modify]
    by_cases ho : other = key
    · subst ho
      obtain ⟨v, hv⟩ := Option.ne_none_iff_exists'.mp h
      simp [hv]
    · simp [ho]

@[simp] theorem find?_insert_self (t : Table κ ν) (key : κ) (value : ν) :
    (t.insert key value).find? key = some value := by
  simp [find?_insert]

/-- Writing the value that is there already changes nothing. -/
theorem insert_eq_self {t : Table κ ν} {key : κ} {value : ν} (h : t.find? key = some value) :
    t.insert key value = t := by
  have hi : t.insert key value = t.modify key fun _ => value := by simp [insert, h]
  rw [hi]
  apply Table.ext
  show t.pairs.map _ = t.pairs
  conv => rhs; rw [← List.map_id t.pairs]
  apply List.map_congr_left
  intro p hp
  by_cases hk : p.1 = key
  · have := (mem_pairs_iff t p.1 p.2).mp hp
    rw [hk, h] at this
    simp only [hk, if_true, id]
    exact Prod.ext hk.symm (Option.some.inj this)
  · simp [hk]

/-- Erasing a key that is not in the table changes nothing. -/
theorem erase_eq_self {t : Table κ ν} {key : κ} (h : t.find? key = none) : t.erase key = t := by
  apply Table.ext
  apply List.filter_eq_self.mpr
  intro p hp
  have found := (mem_pairs_iff t p.1 p.2).mp hp
  have : p.1 ≠ key := by
    intro hk
    simp [hk, h] at found
  simpa using this

/-- Inserting under a new key and erasing it again changes nothing. -/
theorem erase_insert {t : Table κ ν} {key : κ} (h : t.find? key = none) (value : ν) :
    (t.insert key value).erase key = t := by
  apply Table.ext
  have he : t.pairs.filter (fun p => p.1 != key) = t.pairs := congrArg pairs (erase_eq_self h)
  simp [insert, h, erase, filter, he]

end Table

end DeviceBroker
