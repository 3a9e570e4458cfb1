import UnitOfWork.Work.Execution

/-!
# What the operations on the state change

For the holders and for the bindings of the context there is one equation about
each operation on the state.  Calls on drivers change neither, and of the bound
holders a binding and an unbinding change only the one of their key.
-/

namespace UnitOfWork.State

variable (s : State)

/-! ## Entries of the journal and calls on drivers -/

@[simp]
theorem nextHolder_note (n : Note) : (s.note n).nextHolder = s.nextHolder := rfl

@[simp]
theorem boundHolder_note (n : Note) (key : Key) :
    (s.note n).boundHolder key = s.boundHolder key := rfl

@[simp]
theorem journal_note (n : Note) : (s.note n).journal = s.journal ++ [n] := rfl

@[simp]
theorem holders_say (line : Line) : (s.say line).holders = s.holders := rfl

@[simp]
theorem nextHolder_say (line : Line) : (s.say line).nextHolder = s.nextHolder :=
  rfl

@[simp]
theorem boundHolder_say (line : Line) (key : Key) :
    (s.say line).boundHolder key = s.boundHolder key := rfl

@[simp]
theorem drivers_say (line : Line) : (s.say line).drivers = s.drivers := rfl

@[simp]
theorem journal_say (line : Line) :
    (s.say line).journal = s.journal ++ [.line line] := rfl

@[simp]
theorem nextHolder_setDriver (source : SourceId) (driver : Driver) :
    (s.setDriver source driver).nextHolder = s.nextHolder := rfl

@[simp]
theorem boundHolder_setDriver (source : SourceId) (driver : Driver)
    (key : Key) :
    (s.setDriver source driver).boundHolder key = s.boundHolder key := rfl

@[simp]
theorem journal_setDriver (source : SourceId) (driver : Driver) :
    (s.setDriver source driver).journal = s.journal := rfl

/-- Two states that differ in their drivers, their journals and their clocks
only: they have the same holders, and the same ones are bound. -/
structure SameHolders (s s' : State) : Prop where
  holders : s'.holders = s.holders
  nextHolder : s'.nextHolder = s.nextHolder
  bound : ∀ key, s'.boundHolder key = s.boundHolder key

namespace SameHolders

variable {s s' s'' : State}

theorem refl (s : State) : SameHolders s s := ⟨rfl, rfl, fun _ => rfl⟩

theorem trans (h : SameHolders s s') (h' : SameHolders s' s'') :
    SameHolders s s'' where
  holders := h'.holders.trans h.holders
  nextHolder := h'.nextHolder.trans h.nextHolder
  bound key := (h'.bound key).trans (h.bound key)

end SameHolders

theorem sameHolders_create (source : SourceId) :
    SameHolders s (s.create source).2 := by
  rw [create]
  cases (s.drivers source).create <;> exact ⟨rfl, rfl, fun _ => rfl⟩

theorem sameHolders_release (source : SourceId) (c : Connection) :
    SameHolders s (s.release source c).2 := by
  rw [release]
  cases (s.drivers source).release c.id <;> exact ⟨rfl, rfl, fun _ => rfl⟩

theorem sameHolders_callDirectly (c : Connection) (call : Call) :
    SameHolders s (s.callDirectly c call).2 := by
  rw [callDirectly]
  cases (s.drivers c.source).call c.id call <;> exact ⟨rfl, rfl, fun _ => rfl⟩

theorem sameHolders_call (c : Connection) (call : Call) :
    SameHolders s (s.call c call).2 := by
  have h := sameHolders_callDirectly s c call
  rw [State.call]
  split <;> simp_all <;> exact ⟨h.holders, h.nextHolder, h.bound⟩

theorem now_call (c : Connection) (call : Call) :
    (s.call c call).2.now = s.now := by
  rw [State.call, callDirectly]
  cases (s.drivers c.source).call c.id call <;> rfl

/-! ## Holders -/

@[simp]
theorem nextHolder_setHolder (id : HolderId) (holder : Holder Connection) :
    (s.setHolder id holder).nextHolder = s.nextHolder := rfl

@[simp]
theorem boundHolder_setHolder (id : HolderId) (holder : Holder Connection)
    (key : Key) :
    (s.setHolder id holder).boundHolder key = s.boundHolder key := rfl

@[simp]
theorem journal_setHolder (id : HolderId) (holder : Holder Connection) :
    (s.setHolder id holder).journal = s.journal := rfl

@[simp]
theorem holders_addHolder (holder : Holder Connection) (id : HolderId) :
    (s.addHolder holder).2.holders id =
      if id = s.nextHolder then holder else s.holders id := rfl

@[simp]
theorem nextHolder_addHolder (holder : Holder Connection) :
    (s.addHolder holder).2.nextHolder = s.nextHolder + 1 := rfl

@[simp]
theorem boundHolder_addHolder (holder : Holder Connection) (key : Key) :
    (s.addHolder holder).2.boundHolder key = s.boundHolder key := rfl

@[simp]
theorem drivers_addHolder (holder : Holder Connection) :
    (s.addHolder holder).2.drivers = s.drivers := rfl

@[simp]
theorem journal_addHolder (holder : Holder Connection) :
    (s.addHolder holder).2.journal = s.journal := rfl

/-! ## Bindings -/

/-- A free key is bound, with a line about it. -/
theorem bind_of_free {key : Key} (h : s.boundHolder key = none)
    (id : HolderId) :
    s.bind key id =
      .ok ({ s with context := s.context.insert key id }.say (.bound key)) := by
  have hfree : s.context.contains key = false := by
    simpa [Bindings.contains, boundHolder] using h
  simp [bind, Bindings.bind, hfree]

/-- A key that is taken is not bound. -/
theorem bind_of_taken {key : Key} {other : HolderId}
    (h : s.boundHolder key = some other) (id : HolderId) :
    s.bind key id = .error ⟨key⟩ := by
  have htaken : s.context.contains key = true := by
    simp [Bindings.contains, show s.context.get? key = some other from h]
  simp [bind, Bindings.bind, htaken]

@[simp]
theorem unbind_fst (key : Key) : (s.unbind key).1 = s.boundHolder key := by
  rw [unbind, Bindings.unbind, boundHolder]
  cases s.context.get? key <;> rfl

@[simp]
theorem holders_unbind (key : Key) : (s.unbind key).2.holders = s.holders := by
  rw [unbind]
  split <;> rfl

@[simp]
theorem nextHolder_unbind (key : Key) :
    (s.unbind key).2.nextHolder = s.nextHolder := by
  rw [unbind]
  split <;> rfl

@[simp]
theorem drivers_unbind (key : Key) : (s.unbind key).2.drivers = s.drivers := by
  rw [unbind]
  split <;> rfl

@[simp]
theorem boundHolder_unbind (key other : Key) :
    (s.unbind key).2.boundHolder other =
      if other = key then none else s.boundHolder other := by
  rw [unbind, Bindings.unbind]
  cases h : s.context.get? key with
  | some id => exact Bindings.get?_erase s.context key other
  | none =>
      by_cases hother : other = key
      · subst hother
        simp [boundHolder, h]
      · simp [hother]

end UnitOfWork.State
