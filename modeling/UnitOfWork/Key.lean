/-!
# Keys

A key names the source of connections that a bound resource belongs to.  Keys
are ordered by the code points of their names.
-/

namespace UnitOfWork

/-- The name of a source of connections. -/
structure Key where
  name : String
  deriving DecidableEq

namespace Key

instance : LT Key where
  lt k l := k.name < l.name

instance (k l : Key) : Decidable (k < l) :=
  inferInstanceAs (Decidable (k.name < l.name))

theorem lt_irrefl (k : Key) : ¬ k < k :=
  String.lt_irrefl k.name

theorem lt_trans {k l m : Key} (hkl : k < l) (hlm : l < m) : k < m :=
  String.lt_trans hkl hlm

theorem lt_asymm {k l : Key} (h : k < l) : ¬ l < k :=
  String.lt_asymm h

theorem ne_of_lt {k l : Key} (h : k < l) : k ≠ l := by
  rintro rfl
  exact lt_irrefl k h

/-- Of two different keys one comes first. -/
theorem lt_of_not_lt_of_ne {k l : Key} (hlt : ¬ k < l) (hne : k ≠ l) :
    l < k := by
  apply String.not_le.mp
  intro hle
  rcases k with ⟨k⟩
  rcases l with ⟨l⟩
  exact hne (congrArg Key.mk (String.le_antisymm hle (String.not_lt.mp hlt)))

/-- The place of one key relative to another. -/
def compare (k l : Key) : Ordering :=
  if k < l then .lt else if k = l then .eq else .gt

end Key

end UnitOfWork
