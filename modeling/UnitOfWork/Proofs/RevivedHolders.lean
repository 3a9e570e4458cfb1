import UnitOfWork.Proofs.BeginObstacles
import UnitOfWork.Proofs.HolderTurns

/-!
# Holders that come back

A coordinator binds the holders that it makes, and unbinds them again when it
cleans up.  Nobody else binds them, as long as handles and suspended holders are
used with the contexts that they came from.  It might seem then that whatever is
bound runs a transaction.

There is one way around that.  A holder that is suspended is not in its context,
and a handle may be cleaned up that owns it.  The clean-up finds nothing to
unbind, and finishes the holder; and to resume a suspended holder is to bind it,
in whatever stage it has got to meanwhile.  No transaction runs on it then, and
the key is taken for every transaction to come.
`Coordinator.bound_running_iff_nothing_revived` says that this is the only way.
-/

namespace UnitOfWork

def Operation.atHome (desk : Desk) (homes : Homes) : Operation → Bool
  | .begin _ context slot | .suspend context slot _ | .commit context slot
  | .rollback context slot | .markRollbackOnly context slot
  | .cleanup context slot =>
      (desk.handles slot).isNone || homes.handles slot == context
  | .resume context place =>
      (desk.suspended place).isNone || homes.suspended place == context
  | _ => true

/-- Whether only a coordinator makes and binds holders, and everything is used
where it came from. -/
def Coordinator.atHome (c : Coordinator) (desk : Desk) (homes : Homes) :
    List Operation → Bool
  | [] => true
  | operation :: rest =>
      !operation.byHand && operation.atHome desk homes &&
        c.atHome (c.perform desk operation) (homes.after c desk operation) rest

namespace Desk

variable {c : Coordinator} {desk desk' : Desk} {homes : Homes}
variable {context place slot : Nat}
variable {operation : Operation} {h : Handle} {id : HolderId}

/-- On every bound holder a transaction runs. -/
def BindsRunning (desk : Desk) : Prop :=
  ∀ context key id, (desk.state context).boundHolder key = some id →
    (desk.world.holders id).stage = .active ∧
    (desk.world.holders id).connection.isSome

def SuspendsRunning (desk : Desk) : Prop :=
  ∀ place id, desk.suspended place = some id →
    (desk.world.holders id).stage = .active ∧
    (desk.world.holders id).connection.isSome

/-- What is suspended is completed, and would be bound if it were resumed. -/
def Revives (c : Coordinator) (desk : Desk) (context place : Nat) : Prop :=
  ∃ id, desk.suspended place = some id ∧
    (desk.world.holders id).stage = .completed ∧
    (desk.state context).boundHolder c.key = none

/-- What the handle of a slot owns is suspended. -/
def Strands (desk : Desk) (slot : Nat) : Prop :=
  ∃ h id place, desk.handles slot = some h ∧ h.Owns id ∧
    desk.suspended place = some id

/-! ## Where holders are at home -/

/-- From a context a holder is reached that is bound there, or suspended from
there. -/
def Reaches (c : Coordinator) (desk : Desk) (homes : Homes) (context : Nat)
    (id : HolderId) :
    Prop :=
  (desk.state context).boundHolder c.key = some id ∨
    ∃ place, desk.suspended place = some id ∧ homes.suspended place = context

/-- What is bound was made for a transaction, and is reached from no other
context than the one that its owner came from. -/
structure Housed (c : Coordinator) (desk : Desk) (homes : Homes) : Prop where
  sound : desk.Sound c
  equipped : desk.Equipped
  made : desk.SelfMade
  key : ∀ context key id, (desk.state context).boundHolder key =
    some id → key = c.key
  owner : ∀ slot h context id, desk.handles slot = some h → h.Owns id →
    desk.Reaches c homes context id → homes.handles slot = context

theorem housed_fresh (c : Coordinator) (initial : SourceId → Settings)
    (homes : Homes) :
    (fresh initial).Housed c homes where
  sound := sound_fresh c initial
  equipped := equipped_fresh initial
  made := ⟨fun _ hid => absurd hid (Nat.not_lt_zero _),
    fun _ _ _ h => by cases h⟩
  key _ _ _ h := by cases h
  owner _ _ _ _ h := by cases h

namespace Turn

/-- A holder is reached from where it was reached before, or a transaction has
begun on it there. -/
theorem reaches {i : Nat} (hturn : Turn c desk homes desk' operation)
    (hhome : operation.atHome desk homes = true)
    (hreaches : desk'.Reaches c (homes.after c desk operation) i id) :
    desk.Reaches c homes i id ∨
      id = desk.world.nextHolder ∧ ∃ d slot, operation = .begin d i slot := by
  cases hturn with
  | kept hhomes _ _ hbound hsuspended =>
      rw [Reaches, hbound, hhomes] at hreaches
      exact Or.inl (hreaches.imp_right fun ⟨place, hplace, hi⟩ =>
        ⟨place, hsuspended place id hplace, hi⟩)
  | @begun d context slot _ _ _ hbound hsuspended =>
      rw [Reaches, hbound, hsuspended] at hreaches
      rcases hreaches with hwas | hwas
      · split at hwas
        · next hi =>
            obtain ⟨rfl, -⟩ := hi
            exact Or.inr ⟨(Option.some.inj hwas).symm, d, slot, rfl⟩
        · exact Or.inl (Or.inl hwas)
      · exact Or.inl (Or.inr hwas)
  | abandoned _ _ _ hbound hsuspended =>
      rw [Reaches, hbound, hsuspended] at hreaches
      exact Or.inl hreaches
  | @suspended context slot place other hhomes hwas _ _ hbound hsuspended =>
      left
      rw [Reaches, hbound, hhomes] at hreaches
      rcases hreaches with hkept | ⟨p, hp, hi⟩
      · split at hkept
        · cases hkept
        · exact Or.inl hkept
      · rw [hsuspended] at hp
        simp only at hi
        split at hp
        · next heq =>
            rw [if_pos heq] at hi
            obtain rfl := Option.some.inj hp
            rw [← hi]
            exact Or.inl hwas
        · next hne =>
            rw [if_neg hne] at hi
            exact Or.inr ⟨p, hp, hi⟩
  | @resumed context place other hwas _ _ _ hbound hsuspended =>
      left
      rw [Reaches, hbound] at hreaches
      rcases hreaches with hkept | ⟨p, hp, hi⟩
      · split at hkept
        · next hi =>
            obtain rfl := Option.some.inj hkept
            rw [Operation.atHome, hwas] at hhome
            exact Or.inr ⟨place, hwas, by simpa [hi.1] using hhome⟩
        · exact Or.inl hkept
      · rw [hsuspended] at hp
        split at hp
        · cases hp
        · exact Or.inr ⟨p, hp, hi⟩
  | finished _ _ _ _ _ hbound hsuspended =>
      rw [Reaches, hbound, hsuspended] at hreaches
      refine Or.inl (hreaches.imp_left fun hwas => ?_)
      split at hwas
      · cases hwas
      · exact hwas

end Turn

/-- A handle that was not found just now came from where it did before. -/
theorem handles_after (c : Coordinator) (desk : Desk) (homes : Homes)
    (operation : Operation) (slot : Nat) :
    (homes.after c desk operation).handles slot = homes.handles slot ∨
      ∃ context, operation = .discover context slot := by
  cases operation with
  | discover context i =>
      by_cases hi : slot = i
      · exact Or.inr ⟨context, by rw [hi]⟩
      · exact Or.inl (if_neg hi)
  | suspend context i place =>
      rw [Homes.after]
      split <;> exact Or.inl rfl
  | _ => exact Or.inl rfl

/-- A handle that begins is used with the context that it came from. -/
theorem home_of_begin {d : Definition} {other : Handle}
    (hhome : (Operation.begin d context slot).atHome desk homes = true)
    (hother : (c.perform desk (.begin d context slot)).handles slot =
      some other) :
    homes.handles slot = context := by
  rw [Operation.atHome] at hhome
  cases hslot : desk.handles slot with
  | some h => simpa [hslot] using hhome
  | none =>
      rw [Coordinator.perform, withHandle, hslot] at hother
      rw [hslot] at hother
      cases hother

namespace Housed

/-- What is reached is there. -/
theorem exists_of_reaches (hhoused : desk.Housed c homes)
    (hreaches : desk.Reaches c homes context id) :
    id < desk.world.nextHolder := by
  rcases hreaches with hbound | ⟨place, hplace, -⟩
  · exact hhoused.sound.contexts context c.key id hbound
  · exact hhoused.sound.suspended place id hplace

theorem owner_perform (hhoused : desk.Housed c homes)
    (hhome : operation.atHome desk homes = true)
    (hturn : Turn c desk homes (c.perform desk operation) operation)
    (hslot : (c.perform desk operation).handles slot = some h)
    (howns : h.Owns id)
    (hreaches : (c.perform desk operation).Reaches c
      (homes.after c desk operation) context id) :
    (homes.after c desk operation).handles slot = context := by
  rcases handles_after c desk homes operation slot with hsame | ⟨i, rfl⟩
  · rw [hsame]
    obtain ⟨h₁, h₂, s', hattended⟩ := hhoused.sound.proceeds operation
    rcases hattended.handles slot h hslot with ⟨hold, -⟩ | ⟨hused, rfl⟩
    · -- The handle was left alone, and owns nothing new.
      rcases hturn.reaches hhome hreaches with hwas | ⟨rfl, -⟩
      · exact hhoused.owner slot h context id hold howns hwas
      · exact absurd ((hhoused.sound.handles slot h hold).exist _ howns.1)
          (Nat.lt_irrefl _)
    · rcases hturn.reaches hhome hreaches with hwas | ⟨-, d, i, rfl⟩
      · rcases hattended.attends.owns id howns with howned | hnew
        · obtain ⟨i, hi, hold⟩ := hattended.given.resolve_right fun hfree =>
            Handle.not_owns_of_free (by rw [hfree]) id howned
          obtain rfl : i = slot := Option.some.inj (hi.symm.trans hused)
          exact hhoused.owner i h₁ context id hold howned hwas
        · exact absurd (hhoused.exists_of_reaches hwas) (Nat.not_lt.mpr hnew)
      · obtain rfl : i = slot := Option.some.inj hused
        exact home_of_begin hhome hslot
  · -- A handle that was only found owns nothing.
    rw [Coordinator.perform, keep] at hslot
    simp only [if_true, Option.some.injEq] at hslot
    rw [← hslot] at howns
    exact absurd howns.2 Bool.false_ne_true

theorem key_perform (hhoused : desk.Housed c homes)
    (hturn : Turn c desk homes desk' operation) {key : Key}
    (hid : (desk'.state context).boundHolder key = some id) : key = c.key := by
  cases hturn with
  | kept _ _ _ hbound =>
      rw [hbound] at hid
      exact hhoused.key context key id hid
  | begun _ _ _ hbound =>
      rw [hbound] at hid
      split at hid
      · next hi => exact hi.2
      · exact hhoused.key context key id hid
  | abandoned _ _ _ hbound =>
      rw [hbound] at hid
      exact hhoused.key context key id hid
  | suspended _ _ _ _ hbound =>
      rw [hbound] at hid
      split at hid
      · next hi => exact hi.2
      · exact hhoused.key context key id hid
  | resumed _ _ _ _ hbound =>
      rw [hbound] at hid
      split at hid
      · next hi => exact hi.2
      · exact hhoused.key context key id hid
  | finished _ _ _ _ _ hbound =>
      rw [hbound] at hid
      split at hid
      · next hi => exact hi.2.1
      · exact hhoused.key context key id hid

theorem perform (hhoused : desk.Housed c homes)
    (hcoordinator : operation.byHand = false)
    (hhome : operation.atHome desk homes = true) :
    (c.perform desk operation).Housed c (homes.after c desk operation) := by
  have hturn := hhoused.made.turn hhoused.sound homes hcoordinator
  constructor
  case sound => exact (hhoused.sound.perform operation).sound
  case equipped => exact hhoused.equipped.perform hhoused.sound operation
  case made =>
    refine ⟨fun id hid => hturn.stages hhoused.made hid,
      fun slot h id hslot hborrows => ?_⟩
    obtain ⟨h₁, h₂, s', hattended⟩ := hhoused.sound.proceeds operation
    rcases hattended.handles slot h hslot with ⟨hold, -⟩ | ⟨-, rfl⟩
    · exact hhoused.made.unlent slot h id hold hborrows
    · rcases hattended.attends.borrows id hborrows with hwas | ⟨hid, hunbound⟩
      · obtain ⟨i, -, hold⟩ := hattended.given.resolve_right fun hfree =>
          Handle.not_borrows_of_free (by rw [hfree]) id hwas
        exact hhoused.made.unlent i h₁ id hold hwas
      · exact hhoused.made.not_unbound hid hunbound
  case key => exact fun context key id hid => hhoused.key_perform hturn hid
  case owner =>
    exact fun slot h context id hslot howns hreaches =>
      hhoused.owner_perform hhome hturn hslot howns hreaches

/-- Every holder is active or completed, and in the one case it has a
connection. -/
theorem connection_of_active (hhoused : desk.Housed c homes)
    (hid : id < desk.world.nextHolder)
    (hactive : (desk.world.holders id).stage = .active) :
    (desk.world.holders id).connection.isSome :=
  hhoused.equipped.furnished id hid fun hcompleted => by
    rw [hactive] at hcompleted
    cases hcompleted

/-- What is bound after an operation runs a transaction, unless it was completed
and is resumed. -/
theorem bound_active (hhoused : desk.Housed c homes)
    (hhome : operation.atHome desk homes = true)
    (hturn : Turn c desk homes desk' operation) (hruns : desk.BindsRunning)
    (hrevives : ∀ context place, operation = .resume context place →
      ¬desk.Revives c context place)
    {key : Key} (hid : (desk'.state context).boundHolder key = some id) :
    (desk'.world.holders id).stage = .active := by
  have hexists : ∀ {i key id}, (desk.state i).boundHolder key = some id →
      id < desk.world.nextHolder :=
        fun {i key id} h => hhoused.sound.contexts i key id h
  have hactive : ∀ {i key id}, (desk.state i).boundHolder key = some id →
      (desk.world.holders id).stage = .active :=
        fun {i key id} h => (hruns i key id h).1
  cases hturn with
  | kept _ _ hstages hbound =>
      rw [hbound] at hid
      rw [hstages, hactive hid]
  | begun _ hnew hothers hbound =>
      rw [hbound] at hid
      split at hid
      · exact Option.some.inj hid ▸ hnew
      · rw [hothers id (Nat.ne_of_lt (hexists hid)), hactive hid]
  | abandoned _ _ hothers hbound =>
      rw [hbound] at hid
      rw [hothers id (Nat.ne_of_lt (hexists hid)), hactive hid]
  | suspended _ _ _ hholders hbound =>
      rw [hbound] at hid
      split at hid
      · cases hid
      · rw [hholders, hactive hid]
  | @resumed i place other hwas hfree _ hholders hbound =>
      rw [hbound] at hid
      rw [hholders]
      split at hid
      · obtain rfl := Option.some.inj hid
        refine (hhoused.made.stages other
          (hhoused.sound.suspended place other hwas)).resolve_right
          fun hcompleted =>
            hrevives i place rfl ⟨other, hwas, hcompleted, hfree⟩
      · exact hactive hid
  | @finished i slot h other hslot howns _ _ hothers hbound =>
      rw [hbound] at hid
      split at hid
      · cases hid
      · next hkept =>
          by_cases hother : id = other
          · -- It is bound where its owner came from, and would have been
            -- unbound.
            rw [hother] at hid
            have hkey := hhoused.key context key other hid
            rw [hkey] at hid hkept
            have hcontext :=
              hhoused.owner slot h context other hslot howns (Or.inl hid)
            rw [Operation.atHome, hslot] at hhome
            obtain rfl : context = i :=
              hcontext.symm.trans (by simpa using hhome)
            exact absurd ⟨rfl, rfl, hid⟩ hkept
          · rw [hothers id hother, hactive hid]

theorem bindsRunning_perform (hhoused : desk.Housed c homes)
    (hcoordinator : operation.byHand = false)
    (hhome : operation.atHome desk homes = true) (hruns : desk.BindsRunning)
    (hrevives : ∀ context place, operation = .resume context place →
      ¬desk.Revives c context place) :
    (c.perform desk operation).BindsRunning := by
  intro context key id hid
  have hturn := hhoused.made.turn hhoused.sound homes hcoordinator
  have hhoused' := hhoused.perform hcoordinator hhome
  have hactive := hhoused.bound_active hhome hturn hruns hrevives hid
  have hexists := hhoused'.sound.contexts context key id hid
  exact ⟨hactive, hhoused'.connection_of_active hexists hactive⟩

/-- What is suspended runs a transaction, unless its owner is cleaned up. -/
theorem suspendsRunning_perform (hhoused : desk.Housed c homes)
    (hcoordinator : operation.byHand = false)
    (hhome : operation.atHome desk homes = true) (hbinds : desk.BindsRunning)
    (hruns : desk.SuspendsRunning)
    (hstrands : ∀ context slot, operation = .cleanup context slot →
      ¬desk.Strands slot) :
    (c.perform desk operation).SuspendsRunning := by
  intro place id hid
  have hturn := hhoused.made.turn hhoused.sound homes hcoordinator
  have hhoused' := hhoused.perform hcoordinator hhome
  have hactive : ((c.perform desk operation).world.holders id).stage =
      .active := by
    rcases hturn.suspends hid with hwas | ⟨context, slot, rfl, hwas⟩
    · have hexists := hhoused.sound.suspended place id hwas
      refine (hturn.active hexists (hruns place id hwas).1).resolve_right ?_
      rintro ⟨context, slot, h, rfl, hslot, howns⟩
      exact hstrands context slot rfl ⟨h, id, place, hslot, howns, hwas⟩
    · have hexists := hhoused.sound.contexts context c.key id hwas
      refine (hturn.active hexists
        (hbinds context c.key id hwas).1).resolve_right ?_
      rintro ⟨_, _, _, hcleanup, -⟩
      cases hcleanup
  exact ⟨hactive, hhoused'.connection_of_active
    (hhoused'.sound.suspended place id hid) hactive⟩

/-- A run leads from a desk where everything is at home to another one. -/
theorem performAll {done rest : List Operation} (hhoused : desk.Housed c homes)
    (hhome : c.atHome desk homes (done ++ rest) = true) :
    ∃ homes', (c.performAll desk done).Housed c homes' ∧
      c.atHome (c.performAll desk done) homes' rest = true := by
  induction done generalizing desk homes with
  | nil => exact ⟨homes, hhoused, hhome⟩
  | cons operation done ih =>
      rw [List.cons_append, Coordinator.atHome, Bool.and_eq_true,
        Bool.and_eq_true, Bool.not_eq_true'] at hhome
      obtain ⟨⟨hcoordinator, hused⟩, hrest⟩ := hhome
      exact ih (hhoused.perform hcoordinator hused) hrest

theorem bindsRunning_performAll {operations : List Operation}
    (hhoused : desk.Housed c homes)
    (hhome : c.atHome desk homes operations = true) (hruns : desk.BindsRunning)
    (hrevives : ∀ done context place,
      done ++ [.resume context place] <+: operations →
      ¬(c.performAll desk done).Revives c context place) :
    (c.performAll desk operations).BindsRunning := by
  induction operations generalizing desk homes with
  | nil => exact hruns
  | cons operation rest ih =>
      rw [Coordinator.atHome, Bool.and_eq_true, Bool.and_eq_true,
        Bool.not_eq_true'] at hhome
      obtain ⟨⟨hcoordinator, hused⟩, hrest⟩ := hhome
      apply ih (hhoused.perform hcoordinator hused) hrest
      · apply hhoused.bindsRunning_perform hcoordinator hused hruns
        rintro context place rfl
        exact hrevives [] context place ⟨rest, rfl⟩
      · intro done context place hdone
        exact hrevives (operation :: done) context place
          (List.cons_prefix_cons.mpr ⟨rfl, hdone⟩)

theorem running_performAll {operations : List Operation}
    (hhoused : desk.Housed c homes)
    (hhome : c.atHome desk homes operations = true) (hbinds : desk.BindsRunning)
    (hruns : desk.SuspendsRunning)
    (hstrands : ∀ done context slot,
      done ++ [.cleanup context slot] <+: operations →
      ¬(c.performAll desk done).Strands slot) :
    (c.performAll desk operations).BindsRunning ∧
      (c.performAll desk operations).SuspendsRunning := by
  induction operations generalizing desk homes with
  | nil => exact ⟨hbinds, hruns⟩
  | cons operation rest ih =>
      rw [Coordinator.atHome, Bool.and_eq_true, Bool.and_eq_true,
        Bool.not_eq_true'] at hhome
      obtain ⟨⟨hcoordinator, hused⟩, hrest⟩ := hhome
      apply ih (hhoused.perform hcoordinator hused) hrest
      · apply hhoused.bindsRunning_perform hcoordinator hused hbinds
        rintro context place - ⟨id, hplace, hcompleted, -⟩
        have hactive := (hruns place id hplace).1
        rw [hcompleted] at hactive
        cases hactive
      · apply hhoused.suspendsRunning_perform hcoordinator hused hbinds hruns
        rintro context slot rfl
        exact hstrands [] context slot ⟨rest, rfl⟩
      · intro done context slot hdone
        exact hstrands (operation :: done) context slot
          (List.cons_prefix_cons.mpr ⟨rfl, hdone⟩)

/-- No handle begins on a holder that is there. -/
theorem not_reusable (hhoused : desk.Housed c homes)
    (hslot : desk.handles slot = some h) (context : Nat) :
    Coordinator.reusableHolder h (desk.state context) = none := by
  cases hreuse : Coordinator.reusableHolder h (desk.state context) with
  | none => rfl
  | some id =>
      obtain ⟨hholder, hsome, hstage⟩ :=
        Coordinator.reusableHolder_eq_some hreuse
      have hid := (hhoused.sound.handles slot h hslot).exist id hholder
      have hcompleted := hstage.resolve_left (hhoused.made.not_unbound hid)
      have hnone : ((desk.state context).holders id).connection = none :=
        hhoused.sound.world.completed id hcompleted
      rw [hnone] at hsome
      cases hsome

end Housed

/-- A completed holder that is resumed is bound. -/
theorem Revives.binds (hrevives : desk.Revives c context place) :
    ¬(c.perform desk (.resume context place)).BindsRunning := by
  obtain ⟨id, hplace, hcompleted, hfree⟩ := hrevives
  have hperform : c.perform desk (.resume context place) =
      (desk.put context (({ desk.state context with
        context := (desk.state context).context.insert c.key id } : State).say
          (.bound c.key))).stash place none := by
    rw [Coordinator.perform, hplace]
    simp only [Coordinator.resume, State.bind_of_free _ hfree]
  rw [hperform]
  intro hruns
  obtain ⟨hactive, -⟩ := hruns context c.key id (by
    show ((desk.put context _).state context).boundHolder c.key = some id
    rw [boundHolder_put, if_pos rfl, State.boundHolder_say]
    exact (Bindings.get?_insert _ _ _ _).trans (if_pos rfl))
  exact Stage.noConfusion (hactive.symm.trans hcompleted)

/-- A suspended holder whose owner is cleaned up is completed. -/
theorem Strands.suspends (hstrands : desk.Strands slot) (c : Coordinator)
    (context : Nat) :
    ¬(c.perform desk (.cleanup context slot)).SuspendsRunning := by
  obtain ⟨h, id, place, hslot, howns, hplace⟩ := hstrands
  have hperform : c.perform desk (.cleanup context slot) =
      (desk.put context (c.cleanup h (desk.state context))).keep slot none := by
    rw [Coordinator.perform, withHandle, hslot]
  rw [hperform]
  intro hruns
  obtain ⟨hactive, -⟩ := hruns place id hplace
  have hfinished : (c.cleanup h (desk.state context)).holders id =
      .finished := by
    rw [Coordinator.cleanup_holders howns.1, if_pos rfl,
      Coordinator.settle, howns.2]
    rfl
  have hcompleted := congrArg Holder.stage hfinished
  exact Stage.noConfusion (hactive.symm.trans hcompleted)

end Desk

/-! ## Whole runs -/

namespace Coordinator

variable {c : Coordinator} {d : Definition} {h : Handle} {s : State}

theorem performAll_concat (c : Coordinator) (desk : Desk)
    (done : List Operation) (operation : Operation) :
    c.performAll desk (done ++ [operation]) =
      c.perform (c.performAll desk done) operation :=
  List.foldl_append

theorem atHome_of_append {done rest : List Operation} {desk : Desk}
    {homes : Homes} (hhome : c.atHome desk homes (done ++ rest) = true) :
    c.atHome desk homes done = true := by
  induction done generalizing desk homes with
  | nil => rfl
  | cons operation done ih =>
      rw [List.cons_append, atHome, Bool.and_eq_true] at hhome
      rw [atHome, hhome.1, ih hhome.2]
      rfl

/-- A beginning on a new connection fails by an occupied key if something is
bound, and nothing else stands in its way. -/
theorem begin_occupied_iff (c : Coordinator) (d : Definition)
    (hreuse : reusableHolder h s = none) :
    (c.begin d h s).1 = .error (.cannotCreate (.illegal (.occupied ⟨c.key⟩))) ↔
      (s.drivers c.source.id).faults .create = false ∧
        s.refusals c.source.id
          (d.openingCalls (s.drivers c.source.id).initial ++
            c.readOnlyCalls d) = [] ∧
        (s.boundHolder c.key).isSome := by
  have hnone : reusedConnection h s = none := by
    rw [reusedConnection, hreuse, Option.bind_none]
  rw [c.outcome_of_obstacles d (Or.inr hreuse), cannotCreate_firstOf_eq_iff,
    obstacles, acquisitionObstacles, hreuse, groundSource, groundSettings,
    hnone]
  simp only [Option.isNone_none, if_true]
  cases hfault : (s.drivers c.source.id).faults .create with
  | true => simp
  | false =>
      simp only [Bool.false_eq_true, if_false, List.nil_append, true_and]
      cases hrefusals : s.refusals c.source.id
          (d.openingCalls (s.drivers c.source.id).initial ++
            c.readOnlyCalls d) with
      | nil => cases hbound : s.boundHolder c.key <;> simp [occupancy, hbound]
      | cons cause rest =>
          -- What is first in the way is the fault of a call.
          obtain ⟨request, -, rfl⟩ := List.mem_map.mp
            (hrefusals ▸ List.mem_cons_self : cause ∈ s.refusals c.source.id _)
          simp

/-- Handles and suspended holders are used with the contexts that they came
from, and only the coordinator makes and binds holders.  Then every bound holder
runs a transaction at every moment, unless a holder is resumed that was
completed while it was suspended; and that can only happen if a handle is
cleaned up while the holder is suspended that it owns.  If something is bound,
whether a transaction runs on it or not, every beginning fails that could
succeed otherwise. -/
theorem bound_running_iff_nothing_revived (c : Coordinator)
    (initial : SourceId → Settings) (operations : List Operation)
    (hhome : c.atHome (.fresh initial) {} operations = true) :
    let after := c.performAll (.fresh initial)
    ((∀ done, done <+: operations → (after done).BindsRunning) ↔
      ∀ done context place, done ++ [.resume context place] <+: operations →
        ¬(after done).Revives c context place) ∧
    ((∀ done, done <+: operations → (after done).BindsRunning ∧
      (after done).SuspendsRunning) ↔
      ∀ done context slot, done ++ [.cleanup context slot] <+: operations →
        ¬(after done).Strands slot) ∧
    ∀ done, done <+: operations → ∀ slot h, (after done).handles slot = some h →
      ∀ context d,
        let s := (after done).state context
        (c.begin d h s).1 =
          .error (.cannotCreate (.illegal (.occupied ⟨c.key⟩))) ↔
          (s.drivers c.source.id).faults .create = false ∧
            s.refusals c.source.id
              (d.openingCalls (s.drivers c.source.id).initial ++
                c.readOnlyCalls d) = [] ∧
            (s.boundHolder c.key).isSome := by
  intro after
  have hfresh := Desk.housed_fresh c initial {}
  have hearly : ∀ {done}, done <+: operations →
      c.atHome (.fresh initial) {} done = true ∧
      ∃ homes, (after done).Housed c homes := by
    rintro done ⟨rest, rfl⟩
    obtain ⟨homes, hhoused, -⟩ := hfresh.performAll hhome
    exact ⟨atHome_of_append hhome, homes, hhoused⟩
  have hnothing : (Desk.fresh initial).BindsRunning := fun _ _ _ h => by cases h
  refine ⟨⟨fun hruns done context place hdone hrevives => ?_,
    fun hrevives done hdone => ?_⟩,
    ⟨fun hruns done context slot hdone hstrands => ?_,
      fun hstrands done hdone => ?_⟩,
    fun done hdone slot h hslot context d => ?_⟩
  · apply hrevives.binds
    rw [← c.performAll_concat]
    exact hruns _ hdone
  · apply hfresh.bindsRunning_performAll (hearly hdone).1 hnothing
    intro earlier context place hearlier
    exact hrevives earlier context place (hearlier.trans hdone)
  · apply hstrands.suspends c context
    rw [← c.performAll_concat]
    exact (hruns _ hdone).2
  · apply hfresh.running_performAll (hearly hdone).1 hnothing fun _ _ h => by
      cases h
    intro earlier context slot hearlier
    exact hstrands earlier context slot (hearlier.trans hdone)
  · obtain ⟨-, homes, hhoused⟩ := hearly hdone
    exact c.begin_occupied_iff d (hhoused.not_reusable hslot context)

/-- A handle finds the holder of a running transaction, and suspends it; the
transaction is cleaned up, and the holder resumed. -/
theorem running_lost_by_resume :
    let c : Coordinator := { source := ⟨0, ⟨"mock"⟩⟩ }
    let operations : List Operation :=
      [.discover 0 0, .begin {} 0 0, .discover 0 1, .suspend 0 1 0,
        .cleanup 0 0, .resume 0 0]
    c.atHome (.fresh fun _ => {}) {} operations = true ∧
      ¬∀ done, done <+: operations →
      (c.performAll (.fresh fun _ => {}) done).BindsRunning := by
  intro c operations
  have hhome : c.atHome (.fresh fun _ => {}) {} operations = true := by
    decide +kernel
  refine ⟨hhome, fun hruns => ?_⟩
  have hnever :=
    (bound_running_iff_nothing_revived c _ operations hhome).1.mp hruns
  apply hnever (operations.take 5) 0 0 (List.prefix_refl operations)
  exact ⟨0, by decide +kernel, by decide +kernel, by decide +kernel⟩

/-- The context binds a completed holder without a connection then, and the next
transaction cannot begin there. -/
theorem resume_binds_finished :
    let c : Coordinator := { source := ⟨0, ⟨"mock"⟩⟩ }
    let desk := c.performAll (.fresh fun _ => {})
      [.discover 0 0, .begin {} 0 0, .discover 0 1, .suspend 0 1 0,
        .cleanup 0 0, .resume 0 0,
        .discover 0 2]
    (desk.state 0).boundHolder c.key = some 0 ∧
    (desk.world.holders 0).stage = .completed ∧
      (desk.world.holders 0).connection = none ∧
      desk.handles 2 = some { holder := some 0 } ∧
      (c.begin {} { holder := some 0 } (desk.state 0)).1 =
        .error (.cannotCreate (.illegal (.occupied ⟨c.key⟩))) := by
  intro c desk
  refine ⟨by decide +kernel, by decide +kernel, by decide +kernel,
    by decide +kernel, ?_⟩
  exact (begin_occupied_iff c {} (by decide +kernel)).mpr
    ⟨by decide +kernel, by decide +kernel, by decide +kernel⟩

end Coordinator

end UnitOfWork
