import UnitOfWork.Key

/-!
# Bindings of resources to keys

The resources bound in one context, at most one for each key.  A key that is
taken is never bound a second time: the resource that is there stays.  The
bindings are kept in the order of their keys, so that two contexts that bind the
same resources to the same keys are equal.
-/

namespace UnitOfWork

/-- The refusal to bind a second resource to a key. -/
structure OccupiedKey where
  key : Key
  deriving DecidableEq

/-- What is said of a key that is taken. -/
def OccupiedKey.message (occupied : OccupiedKey) : String :=
  "a resource is already bound for key [" ++ occupied.key.name ++ "]"

/-- Resources bound to keys, in the order of the keys. -/
structure Bindings (α : Type u) where
  entries : List (Key × α)
  sorted : entries.Pairwise fun e f => e.1 < f.1

namespace Bindings

variable {α : Type u}

/-- The bindings of a context in which nothing is bound. -/
def empty : Bindings α :=
  ⟨[], .nil⟩

instance : Inhabited (Bindings α) := ⟨empty⟩

/-- The value of the first entry with a key. -/
def find (key : Key) : List (Key × α) → Option α
  | [] => none
  | e :: rest => if e.1 = key then some e.2 else find key rest

/-- The resource bound to a key. -/
def get? (b : Bindings α) (key : Key) : Option α :=
  find key b.entries

/-- Whether a resource is bound to a key. -/
def contains (b : Bindings α) (key : Key) : Bool :=
  (b.get? key).isSome

/-- The keys that have a resource, in order. -/
def keys (b : Bindings α) : List Key :=
  b.entries.map (·.1)

/-- The number of bound resources. -/
def size (b : Bindings α) : Nat :=
  b.entries.length

/-- A list in the order of its keys with one entry put in its place, instead of
the entry with the same key if there is one. -/
def place (key : Key) (value : α) : List (Key × α) → List (Key × α)
  | [] => [(key, value)]
  | e :: rest =>
      if key < e.1 then (key, value) :: e :: rest
      else if key = e.1 then (key, value) :: rest
      else e :: place key value rest

theorem mem_place {key : Key} {value : α} {e : Key × α} {l : List (Key × α)}
    (h : e ∈ place key value l) : e = (key, value) ∨ e ∈ l := by
  induction l with
  | nil => simpa [place] using h
  | cons f rest ih =>
      unfold place at h
      split at h
      · simpa using h
      · split at h
        · rcases List.mem_cons.mp h with h | h
          · exact Or.inl h
          · exact Or.inr (List.mem_cons_of_mem _ h)
        · rcases List.mem_cons.mp h with h | h
          · exact Or.inr (by simp [h])
          · rcases ih h with h | h
            · exact Or.inl h
            · exact Or.inr (List.mem_cons_of_mem _ h)

theorem sorted_place (key : Key) (value : α) {l : List (Key × α)}
    (hl : l.Pairwise fun e f => e.1 < f.1) :
    (place key value l).Pairwise fun e f => e.1 < f.1 := by
  induction l with
  | nil => simp [place]
  | cons e rest ih =>
      have hrest := List.pairwise_cons.mp hl
      unfold place
      split
      next hlt =>
        refine List.pairwise_cons.mpr ⟨fun f hf => ?_, hl⟩
        rcases List.mem_cons.mp hf with rfl | hf
        · exact hlt
        · exact Key.lt_trans hlt (hrest.1 f hf)
      next hlt =>
        split
        next heq =>
          exact List.pairwise_cons.mpr ⟨fun f hf => heq ▸ hrest.1 f hf, hrest.2⟩
        next hne =>
          refine List.pairwise_cons.mpr ⟨fun f hf => ?_, ih hrest.2⟩
          rcases mem_place hf with rfl | hf
          · exact Key.lt_of_not_lt_of_ne hlt hne
          · exact hrest.1 f hf

/-- The bindings with a resource at a key, whatever was bound there. -/
def insert (b : Bindings α) (key : Key) (value : α) : Bindings α :=
  ⟨place key value b.entries, sorted_place key value b.sorted⟩

/-- The bindings without the one of a key. -/
def erase (b : Bindings α) (key : Key) : Bindings α :=
  ⟨b.entries.filter fun e => e.1 ≠ key, b.sorted.filter _⟩

/-- Binds a resource to a key that has none, and refuses any other key. -/
def bind (b : Bindings α) (key : Key) (value : α) :
    Except OccupiedKey (Bindings α) :=
  if b.contains key then .error ⟨key⟩ else .ok (b.insert key value)

/-- Removes the resource of a key and gives it back. -/
def unbind (b : Bindings α) (key : Key) : Option α × Bindings α :=
  (b.get? key, b.erase key)

theorem find_place (key other : Key) (value : α) (l : List (Key × α)) :
    find other (place key value l) =
      if other = key then some value else find other l := by
  induction l with
  | nil => by_cases h : key = other <;> simp [place, find, h, eq_comm]
  | cons e rest ih =>
      unfold place
      by_cases h : other = key
      · subst h
        split
        · simp [find]
        · split
          · simp [find]
          next hne => simp [find, ih, Ne.symm hne]
      · split
        · simp [find, Ne.symm h]
        · split
          next heq => simp [find, Ne.symm h, ← heq]
          · simp [find, ih, h]

@[simp]
theorem get?_empty (key : Key) : (empty : Bindings α).get? key = none := rfl

/-- A key that was written has its new resource, and any other key has the one
it had. -/
@[simp]
theorem get?_insert (b : Bindings α) (key other : Key) (value : α) :
    (b.insert key value).get? other =
      if other = key then some value else b.get? other :=
  find_place key other value b.entries

theorem find_filter_ne (key other : Key) (l : List (Key × α)) :
    find other (l.filter fun e => e.1 ≠ key) =
      if other = key then none else find other l := by
  induction l with
  | nil => simp [find]
  | cons e rest ih =>
      by_cases hk : e.1 = key
      · rw [List.filter_cons_of_neg (by simp [hk]), ih]
        by_cases h : other = key
        · simp [h]
        · simp [h, find, hk, Ne.symm h]
      · rw [List.filter_cons_of_pos (by simp [hk])]
        by_cases h : e.1 = other
        · simp [find, h, h ▸ hk]
        · rw [find, if_neg h, ih, find, if_neg h]

/-- A key that was erased has no resource, and any other key has the one it
had. -/
@[simp]
theorem get?_erase (b : Bindings α) (key other : Key) :
    (b.erase key).get? other = if other = key then none else b.get? other :=
  find_filter_ne key other b.entries

end Bindings

end UnitOfWork
