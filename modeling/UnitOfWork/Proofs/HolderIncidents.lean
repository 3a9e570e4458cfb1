import UnitOfWork.Proofs.BeginObstacles
import UnitOfWork.Proofs.HandleService
import UnitOfWork.Proofs.RollbackMarks
import UnitOfWork.Proofs.UserWork

/-!
# What happens to a holder

A holder that is bound by hand serves one transaction after the other.  It is
marked for rollback, it is wiped when a transaction on it is cleaned up, and
transactions begin on it and find on it what is there.  Every operation tells
which of these incidents there are with a given holder, and `State.Passes` says
that the holder is afterwards as they demand.
-/

namespace UnitOfWork

inductive Incident where
  /-- It is marked for rollback. -/
  | marked
  /-- It is given back or finished, and nothing of a transaction is left on
  it. -/
  | wiped
  /-- A transaction begins by a definition and at a time, and this is what it
  finds. -/
  | begun (d : Definition) (now : Instant) (found : Holder Connection)
  deriving DecidableEq

namespace Incident

def isMark : Incident → Bool
  | marked => true
  | _ => false

def isBegin : Incident → Bool
  | begun .. => true
  | _ => false

def isWipe : Incident → Bool
  | wiped => true
  | _ => false

/-- Whether something holds of a holder after an incident, if it held before or
did not: it is brought about by incidents of a kind, and it lasts until the
holder is wiped. -/
def bring (kind : Incident → Bool) (was : Bool) (incident : Incident) : Bool :=
  kind incident || (was && !incident.isWipe)

/-- Whether something holds of a holder after some incidents. -/
def after (kind : Incident → Bool) (was : Bool) (incidents : List Incident) :
    Bool :=
  incidents.foldl (bring kind) was

/-- There was an incident of a kind, and the holder was not wiped since. -/
def Lately (kind : Incident → Bool) (incidents : List Incident) : Prop :=
  ∃ earlier incident since, incidents = earlier ++ incident :: since ∧
    kind incident = true ∧
    .wiped ∉ since

/-- The holder was marked while no transaction ran on it, and it was not wiped
since. -/
def LeftMarked (incidents : List Incident) : Prop :=
  ∃ earlier since, incidents = earlier ++ .marked :: since ∧
    ¬Lately isBegin earlier ∧
    .wiped ∉ since

variable {kind : Incident → Bool} {was : Bool} {incidents rest : List Incident}

@[simp]
theorem after_nil (was : Bool) : after kind was [] = was := rfl

@[simp]
theorem after_cons (was : Bool) (incident : Incident) (rest : List Incident) :
    after kind was (incident :: rest) =
      after kind (bring kind was incident) rest := rfl

theorem after_append (was : Bool) (incidents rest : List Incident) :
    after kind was (incidents ++ rest) =
      after kind (after kind was incidents) rest :=
  List.foldl_append

theorem isWipe_eq_false {incident : Incident} (h : incident ≠ .wiped) :
    incident.isWipe = false := by
  cases incident with
  | wiped => exact absurd rfl h
  | marked => rfl
  | begun d now found => rfl

/-- What holds of a holder lasts until it is wiped. -/
theorem after_true (hkept : .wiped ∉ incidents) :
    after kind true incidents = true := by
  induction incidents with
  | nil => rfl
  | cons incident rest ih =>
      rw [List.mem_cons, not_or] at hkept
      rw [after_cons, bring, isWipe_eq_false (Ne.symm hkept.1), Bool.not_false,
        Bool.and_self, Bool.or_true]
      exact ih hkept.2

/-- What holds of a holder was brought about lately, or it was so before and has
lasted. -/
theorem lately_of_after (hafter : after kind was incidents = true) :
    Lately kind incidents ∨ was = true ∧ .wiped ∉ incidents := by
  induction incidents generalizing was with
  | nil => exact Or.inr ⟨hafter, List.not_mem_nil⟩
  | cons incident rest ih =>
      rcases ih hafter with
          ⟨earlier, last, since, rfl, hkind, hkept⟩ | ⟨hbrought, hkept⟩
      · exact Or.inl ⟨incident :: earlier, last, since, rfl, hkind, hkept⟩
      · rcases Bool.or_eq_true_iff.mp hbrought with hkind | hlasts
        · exact Or.inl ⟨[], incident, rest, rfl, hkind, hkept⟩
        · rw [Bool.and_eq_true] at hlasts
          refine Or.inr ⟨hlasts.1, fun hwiped => ?_⟩
          rcases List.mem_cons.mp hwiped with rfl | hrest
          · cases hlasts.2
          · exact hkept hrest

theorem after_of_lately (hlately : Lately kind incidents) :
    after kind was incidents = true := by
  obtain ⟨earlier, incident, since, rfl, hkind, hkept⟩ := hlately
  rw [after_append, after_cons, bring, hkind, Bool.true_or]
  exact after_true hkept

theorem lately_iff :
    Lately kind incidents ↔ after kind false incidents = true :=
  ⟨after_of_lately, fun h => (lately_of_after h).resolve_right
    fun h => Bool.false_ne_true h.1⟩

/-- Incidents that neither bring it about nor wipe leave it as it was. -/
theorem after_quiet (hnone : ∀ incident ∈ incidents, kind incident = false)
    (hkept : .wiped ∉ incidents) : after kind was incidents = was := by
  cases was with
  | true => exact after_true hkept
  | false =>
      cases hafter : after kind false incidents with
      | false => rfl
      | true =>
          obtain ⟨earlier, incident, since, rfl, hkind, -⟩ :=
            lately_iff.mpr hafter
          rw [hnone incident (List.mem_append_right _ List.mem_cons_self)]
            at hkind
          cases hkind

theorem isMark_iff {incident : Incident} :
    incident.isMark = true ↔ incident = .marked := by
  cases incident <;> simp [isMark]

/-- Where no transaction runs, every mark was left by someone who marked the
holder while none did. -/
theorem leftMarked_iff (hidle : after isBegin false incidents = false) :
    LeftMarked incidents ↔ after isMark false incidents = true := by
  rw [← lately_iff]
  constructor
  · rintro ⟨earlier, since, rfl, -, hkept⟩
    exact ⟨earlier, .marked, since, rfl, rfl, hkept⟩
  · rintro ⟨earlier, incident, since, rfl, hkind, hkept⟩
    obtain rfl := isMark_iff.mp hkind
    refine ⟨earlier, since, rfl, fun hbegun => ?_, hkept⟩
    rw [after_append, after_of_lately hbegun] at hidle
    have hruns : after isBegin true (.marked :: since) = true :=
      after_true (by simpa using hkept)
    rw [hruns] at hidle
    cases hidle

/-- Every transaction begins where none runs, and finds a deadline of its own
and the mark that is there. -/
def Found (c : Coordinator) : Bool → Bool → List Incident → Prop
  | _, _, [] => True
  | mark, running, incident :: rest =>
      (∀ d now found, incident = .begun d now found →
        found.deadline = c.deadline d now ∧ found.rollbackOnly = mark ∧
        running = false) ∧
      Found c (bring isMark mark incident) (bring isBegin running incident) rest

variable {c : Coordinator} {mark running : Bool}

theorem found_append :
    Found c mark running (incidents ++ rest) ↔ Found c mark running incidents ∧
      Found c (after isMark mark incidents)
        (after isBegin running incidents) rest := by
  induction incidents generalizing mark running with
  | nil => simp [Found]
  | cons incident incidents ih => simp [Found, ih, and_assoc]

/-- What a transaction finds that begins between other incidents. -/
theorem Found.between {d : Definition} {now : Instant}
    {found : Holder Connection}
    (h : Found c mark running (incidents ++ .begun d now found :: rest)) :
    found.deadline = c.deadline d now ∧
    found.rollbackOnly = after isMark mark incidents ∧
      after isBegin running incidents = false :=
  (found_append.mp h).2.1 d now found rfl

end Incident

/-! ## Incidents of operations -/

def Handle.cleanupIncidents (h : Handle) (id : HolderId) : List Incident :=
  if h.holder = some id ∧ (h.ownsHolder || h.began) = true then [.wiped] else []

def Handle.markIncidents (h : Handle) (id : HolderId) : List Incident :=
  if h.holder = some id then [.marked] else []

def Coordinator.beginIncidents (c : Coordinator) (d : Definition) (h : Handle)
    (s : State) (id : HolderId) : List Incident :=
  match c.begin d h s with
  | (.ok (), h', s') =>
      if h'.holder = some id then [.begun d s.now (s'.holders id)] else []
  | (.error _, _, _) =>
      if reusableHolder h s = some id ∧ (s.holders id).stage = .unbound then
        [.wiped] else []

/-- What becomes of a holder by an act. -/
def Act.incidents (c : Coordinator) (id : HolderId) (s : State) (p : Pocket) :
    Act → List Incident
  | begin d slot => (p.handles slot).elim [] fun h => c.beginIncidents d h s id
  | markRollbackOnly slot =>
      (p.handles slot).elim [] fun h => h.markIncidents id
  | cleanup slot => (p.handles slot).elim [] fun h => h.cleanupIncidents id
  | _ => []

def Scope.markIncidents (scope : Scope) (id : HolderId) : List Incident :=
  if scope.handle.bind Handle.holder = some id then [.marked] else []

def Errand.Step.incidents (c : Coordinator) (id : HolderId) (scope : Scope)
    (s : State) (p : Pocket) : Step → List Incident
  | .act a => a.incidents c id s p
  | .markRollbackOnly => scope.markIncidents id
  | .look => []

/-! ## What the incidents tell -/

/-- Between two states a holder goes through some incidents. -/
structure State.Passes (c : Coordinator) (id : HolderId)
    (incidents : List Incident) (s s' : State) : Prop where
  nextHolder : s.nextHolder ≤ s'.nextHolder
  marked : (s'.holders id).rollbackOnly =
    Incident.after Incident.isMark (s.holders id).rollbackOnly incidents
  running : (s'.holders id).isActive =
    Incident.after Incident.isBegin (s.holders id).isActive incidents
  connection : .wiped ∉ incidents →
    (s'.holders id).connection = (s.holders id).connection
  found : Incident.Found c (s.holders id).rollbackOnly
    (s.holders id).isActive incidents

namespace State.Passes

variable {c : Coordinator} {d : Definition} {id : HolderId}
variable {incidents rest : List Incident} {h : Handle} {s s' s'' : State}

theorem of_holder (hnext : s.nextHolder ≤ s'.nextHolder)
    (hholder : s'.holders id = s.holders id) : Passes c id [] s s' where
  nextHolder := hnext
  marked := by rw [hholder]; rfl
  running := by rw [hholder]; rfl
  connection _ := by rw [hholder]
  found := trivial

theorem of_sameHolders (hsame : SameHolders s s') : Passes c id [] s s' :=
  of_holder (Nat.le_of_eq hsame.nextHolder.symm) (by rw [hsame.holders])

theorem refl (s : State) : Passes c id [] s s :=
  of_sameHolders (.refl s)

theorem trans (h : Passes c id incidents s s') (h' : Passes c id rest s' s'') :
    Passes c id (incidents ++ rest) s s'' where
  nextHolder := Nat.le_trans h.nextHolder h'.nextHolder
  marked := by rw [h'.marked, h.marked, Incident.after_append]
  running := by rw [h'.running, h.running, Incident.after_append]
  connection hkept := by
    rw [List.mem_append, not_or] at hkept
    exact (h'.connection hkept.2).trans (h.connection hkept.1)
  found := by
    have hfound := h'.found
    rw [h.marked, h.running] at hfound
    exact Incident.found_append.mpr ⟨h.found, hfound⟩

/-- The holder is given back or finished. -/
theorem wiped (hnext : s.nextHolder ≤ s'.nextHolder)
    (hunmarked : (s'.holders id).rollbackOnly = false)
    (hidle : (s'.holders id).isActive = false) : Passes c id [.wiped] s s' where
  nextHolder := hnext
  marked := by
    simp [hunmarked, Incident.bring, Incident.isMark, Incident.isWipe]
  running := by simp [hidle, Incident.bring, Incident.isBegin, Incident.isWipe]
  connection hkept := absurd (List.mem_singleton_self _) hkept
  found := ⟨fun _ _ _ h => (by cases h), trivial⟩

theorem say (s : State) (line : Line) : Passes c id [] s (s.say line) :=
  of_sameHolders ⟨rfl, rfl, fun _ => rfl⟩

theorem unbind (s : State) (key : Key) : Passes c id [] s (s.unbind key).2 :=
  of_holder (Nat.le_of_eq
    (s.nextHolder_unbind key).symm) (by rw [s.holders_unbind])

theorem markedHolder (s : State) (other : HolderId) :
    Passes c id (if some other = some id then [.marked] else []) s
      (s.markedHolder other) := by
  by_cases hother : some other = some id
  · rw [if_pos hother, Option.some.inj hother]
    constructor
    case nextHolder => exact Nat.le_refl _
    case marked =>
      simp [State.markedHolder, Holder.markRollbackOnly, Incident.bring,
        Incident.isMark]
    case running =>
      simp [State.markedHolder, Holder.markRollbackOnly, Holder.isActive,
        Incident.bring, Incident.isBegin, Incident.isWipe]
    case connection =>
      exact fun _ => by simp [State.markedHolder, Holder.markRollbackOnly]
    case found => exact ⟨fun _ _ _ h => (by cases h), trivial⟩
  · rw [if_neg hother]
    have hnext : s.nextHolder ≤ (s.markedHolder other).nextHolder :=
      Nat.le_refl _
    exact of_holder hnext (if_neg fun heq => hother (congrArg some heq.symm))

theorem markRollbackOnly (h : Handle) (s : State) :
    Passes c id (h.markIncidents id) s
      (Coordinator.markRollbackOnly h s).2.2 := by
  rw [Handle.markIncidents, Coordinator.markRollbackOnly]
  cases h.holder with
  | none => exact refl s
  | some other => exact markedHolder s other

theorem cleanup (c : Coordinator) (h : Handle) (s : State) :
    Passes c id (h.cleanupIncidents id) s (c.cleanup h s) := by
  rw [Handle.cleanupIncidents]
  cases hholder : h.holder with
  | none =>
      have hnothing : c.cleanup h s = s := by rw [Coordinator.cleanup, hholder]
      rw [hnothing]
      exact refl s
  | some other =>
      have hnext : s.nextHolder ≤ (c.cleanup h s).nextHolder :=
        Nat.le_of_eq (Coordinator.cleanup_nextHolder hholder).symm
      have hholders := Coordinator.cleanup_holders (c := c) (s := s) hholder id
      by_cases hother : id = other
      · rw [if_pos hother, ← hother] at hholders
        rcases Coordinator.settle_cases h (s.holders id) with
          ⟨howns, hleft⟩ | ⟨-, hbegan, hleft⟩ | ⟨howns, hbegan, hleft⟩
        · rw [if_pos ⟨congrArg some hother.symm, by rw [howns]; rfl⟩]
          exact wiped hnext (by rw [hholders, hleft]; rfl) (by
            rw [hholders, hleft]; rfl)
        · rw [if_pos ⟨congrArg some hother.symm, by rw [hbegan, Bool.or_true]⟩]
          exact wiped hnext (by rw [hholders, hleft]; rfl) (by
            rw [hholders, hleft]; rfl)
        · rw [if_neg fun hwiped => by
            rw [howns, hbegan] at hwiped; cases hwiped.2]
          exact of_holder hnext (hholders.trans hleft)
      · rw [if_neg fun hwiped => hother (Option.some.inj hwiped.1).symm]
        exact of_holder hnext (hholders.trans (if_neg hother))

end State.Passes

/-! ## Beginnings -/

namespace Coordinator

variable {c : Coordinator} {d : Definition} {e : TransactionError}
variable {h h' : Handle} {id : HolderId} {s s' : State}

/-- A transaction that begins on a holder that was there changes its stage and
its deadline, and nothing else of it. -/
theorem found_of_begun (hid : id < s.nextHolder)
    (hbegin : c.begin d h s = (.ok (), h', s'))
    (hholder : h'.holder = some id) :
    s'.holders id = c.activeHolder d s id ∧
    (s.holders id).isActive = false := by
  have hbeginning := c.beginning d h s
  rw [hbegin] at hbeginning
  cases hbeginning with
  | @begun conn other h₁ h₂ s₁ s₂ _ hobtained hsame htalk hactive =>
      obtain rfl : other = id := Option.some.inj <|
        (hsame.holder.trans hobtained.claimed.1).symm.trans hholder
      have hholders : s'.holders =
          (s₂.setHolder other (c.activeHolder d s₂ other)).holders := by
        split at hactive
        · rw [bind_eq_ok hactive]
          rfl
        · rw [hactive]
      cases hobtained with
      | created hcreate => exact absurd hid (Nat.lt_irrefl _)
      | reused hheld hstage hconn =>
          rw [hholders, State.holders_setHolder, if_pos rfl, activeHolder,
            activeHolder, htalk.sameHolders.holders, htalk.now,
            State.holders_setHolder, if_pos rfl, Holder.isActive, hstage]
          exact ⟨rfl, rfl⟩

/-- A beginning that has claimed a holder and fails gives it back or finishes
it. -/
theorem wiped_of_failed (hreuse : reusableHolder h s = some id)
    (hstage : (s.holders id).stage = .unbound)
    (hfailed : c.begin d h s = (.error e, h', s')) :
    s.nextHolder ≤ s'.nextHolder ∧ (s'.holders id).rollbackOnly = false ∧
      (s'.holders id).isActive = false := by
  obtain ⟨hholder, hsome, -⟩ := reusableHolder_eq_some hreuse
  obtain ⟨conn, hconn⟩ := Option.isSome_iff_exists.mp hsome
  have hobtain : c.obtainConnection h s =
      (.ok conn, h,
        s.setHolder id { s.holders id with stage := .claimed }) := by
    simp [obtainConnection, hreuse, claimConnection, Holder.claim, hstage,
      Holder.held, hconn]
  have hobtained := Obtained.reused (c := c) hholder hstage hconn
  have hcontinuation := continuation d hobtained
  rw [← begin_of_obtained hobtain, hfailed] at hcontinuation
  have habandoned : ∀ {driverBegan calls h₂ s₂ s₃},
      h.SameAttempt h₂ →
      Talk conn calls
        (s.setHolder id { s.holders id with stage := .claimed }) s₂ →
      (s₃ = s₂ ∨ h₂.ownsHolder = true ∧
        s₃ = s₂.setHolder id (c.activeHolder d s₂ id)) →
      s' = (c.abandon driverBegan conn h₂ s₃).2 →
      s.nextHolder ≤ s'.nextHolder ∧ (s'.holders id).rollbackOnly = false ∧
        (s'.holders id).isActive = false := by
    rintro driverBegan calls h₂ s₂ s₃ hsame htalk hactive rfl
    refine ⟨nextHolder_of_origin
      (abandoned_origin driverBegan hobtained hsame htalk hactive), ?_⟩
    obtain ⟨-, -, hleft⟩ :=
      abandoned_cases driverBegan hobtained hsame htalk hactive
    rcases hleft with ⟨-, hleft⟩ | ⟨-, hleft⟩ <;> rw [hleft] <;>
      exact ⟨rfl, rfl⟩
  generalize hresult : (Except.error e, h', s') = result at hcontinuation
  cases hcontinuation with
  | early hsame hcalls htalk =>
      exact habandoned hsame htalk (Or.inl rfl)
        (Prod.mk.inj (Prod.mk.inj hresult).2).2
  | late hsame htalk hactive =>
      exact habandoned hsame htalk hactive
        (Prod.mk.inj (Prod.mk.inj hresult).2).2
  | begun => simp at hresult

/-- A beginning that fails and has not claimed a holder leaves it as it was. -/
theorem kept_of_failed (hid : id < s.nextHolder)
    (hunused : ¬(reusableHolder h s =
      some id ∧ (s.holders id).stage = .unbound))
    (hfailed : c.begin d h s = (.error e, h', s')) :
    s.nextHolder ≤ s'.nextHolder ∧ s'.holders id = s.holders id := by
  rcases (notBegun_of_error hfailed).holders with
    ⟨hholders, hnext⟩ | ⟨conn, other, owns, horigin, hothers, -⟩
  · exact ⟨Nat.le_of_eq hnext.symm, by rw [hholders]⟩
  · refine ⟨nextHolder_of_origin horigin, hothers id ?_⟩
    rintro rfl
    cases horigin with
    | reused hholder howns hstage hconn hnext =>
        exact hunused ⟨reusableHolder_of_unbound hholder hstage hconn, hstage⟩
    | created hnew howns hnext => exact Nat.ne_of_lt hid hnew

end Coordinator

theorem State.Passes.begin {id : HolderId} {s : State} (hid : id < s.nextHolder)
    (c : Coordinator) (d : Definition) (h : Handle) :
    Passes c id (c.beginIncidents d h s id) s (c.begin d h s).2.2 := by
  rw [Coordinator.beginIncidents]
  rcases hbegin : c.begin d h s with ⟨outcome, h', s'⟩
  cases outcome with
  | error e =>
      dsimp only
      split
      · next hclaimed =>
          obtain ⟨hnext, hunmarked, hidle⟩ :=
            Coordinator.wiped_of_failed hclaimed.1 hclaimed.2 hbegin
          exact .wiped hnext hunmarked hidle
      · next hunused =>
          obtain ⟨hnext, hkept⟩ := Coordinator.kept_of_failed hid hunused hbegin
          exact .of_holder hnext hkept
  | ok _ =>
      obtain ⟨conn, other, hbegun⟩ := Coordinator.begun_of_ok hbegin
      dsimp only
      split
      · next hholder =>
          obtain ⟨hfound, hidle⟩ :=
            Coordinator.found_of_begun hid hbegin hholder
          rw [hfound]
          constructor
          case nextHolder => exact hbegun.nextHolder_le
          case marked =>
            simp [hfound, Coordinator.activeHolder, Incident.bring,
              Incident.isMark, Incident.isWipe]
          case running =>
            simp [hfound, Coordinator.activeHolder, Holder.isActive,
              Incident.bring, Incident.isBegin]
          case connection =>
            exact fun _ => by rw [hfound, Coordinator.activeHolder]
          case found =>
            refine ⟨?_, trivial⟩
            rintro d' now found ⟨⟩
            exact ⟨rfl, rfl, hidle⟩
      · next hother =>
          have hne : id ≠ other :=
            fun heq => hother (by rw [hbegun.holder, heq])
          exact .of_holder hbegun.nextHolder_le (hbegun.others id hne)

/-! ## Acts and steps -/

theorem State.Passes.resumed {c : Coordinator} {id : HolderId}
    (suspended : Option HolderId) (s : State) :
    Passes c id [] s (c.resumed suspended s) := by
  rcases c.resumed_cases suspended s with h | ⟨other, -, -, h⟩ <;> rw [h]
  · exact .refl s
  · exact .of_holder (Nat.le_refl _) rfl

namespace Act

variable {c : Coordinator} {id : HolderId} {p : Pocket} {s : State}

theorem onHandle_passes (slot : Nat) {use : Handle → Done}
    {made : Handle → List Incident}
    (huse : ∀ h, State.Passes c id (made h) s (use h).state) :
    State.Passes c id ((p.handles slot).elim [] made) s
      (onHandle slot s p use).state := by
  rw [onHandle]
  cases p.handles slot with
  | none => exact .refl s
  | some h => exact huse h

/-- An act on a handle that does nothing to the holder. -/
theorem onHandle_quiet (slot : Nat) {use : Handle → Done}
    (huse : ∀ h, State.Passes c id [] s (use h).state) :
    State.Passes c id [] s (onHandle slot s p use).state := by
  rw [onHandle]
  cases p.handles slot with
  | none => exact .refl s
  | some h => exact huse h

/-- An act on a connection does nothing to the holder. -/
theorem onConnection_quiet (place : Nat) {use : Connection → Done}
    (huse : ∀ conn, State.Passes c id [] s (use conn).state) :
    State.Passes c id [] s (onConnection place s p use).state := by
  rw [onConnection]
  cases p.connections place with
  | none => exact .refl s
  | some conn => exact huse conn

/-- An act does to a holder what its incidents tell. -/
theorem perform_passes (hid : id < s.nextHolder) (act : Act) :
    State.Passes c id (act.incidents c id s p) s (act.perform c s p).state := by
  cases act with
  | discover slot => exact .refl s
  | isExisting slot | inspect slot => exact onHandle_quiet slot fun h => .refl s
  | begin d slot => exact onHandle_passes slot fun h => .begin hid c d h
  | commit slot =>
      exact onHandle_quiet slot fun h =>
        .of_sameHolders
          (Coordinator.sameHolders_finish "commit" .commit .committing h s)
  | rollback slot =>
      exact onHandle_quiet slot fun h =>
        .of_sameHolders
          (Coordinator.sameHolders_finish "rollback" .rollback .rollingBack h s)
  | markRollbackOnly slot =>
      exact onHandle_passes slot fun h => .markRollbackOnly h s
  | cleanup slot => exact onHandle_passes slot fun h => .cleanup c h s
  | suspend slot place => exact onHandle_quiet slot fun h => .unbind s c.key
  | resume place =>
      show State.Passes c id [] s _
      rw [perform]
      cases p.suspended place with
      | none => exact .refl s
      | some other => exact .resumed (some other) s
  | connectionOf slot place =>
      refine onHandle_quiet slot fun h => ?_
      cases h.connection s <;> exact .refl s
  | getConnection place =>
      have hsame := c.source.sameHolders_getConnection s
      rw [perform]
      rcases hget : c.source.getConnection s with ⟨answer, s'⟩
      rw [hget] at hsame
      cases answer <;> exact .of_sameHolders hsame
  | releaseConnection place =>
      exact onConnection_quiet place fun conn =>
        .of_sameHolders (c.source.sameHolders_releaseConnection conn s)
  | isTransactional place | settings place =>
      exact onConnection_quiet place fun conn => .refl s
  | call place request =>
      refine onConnection_quiet place fun conn => ?_
      have hsame := State.sameHolders_callDirectly s conn request
      rcases hcall : s.callDirectly conn request with ⟨answer, s'⟩
      rw [hcall] at hsame
      cases answer <;> exact .of_sameHolders hsame
  | rest seconds => exact .of_sameHolders ⟨rfl, rfl, fun _ => rfl⟩

end Act

/-- In the course of some incidents a scope was marked for rollback, or it was
not.  If its own holder was not marked, it was not. -/
def Scope.MarkedIn (scope : Scope) (id : HolderId) (incidents : List Incident)
    (scope' : Scope) : Prop :=
  ∃ mark, scope' = scope.marked mark ∧
    (mark = true → scope.handle.bind Handle.holder = some id →
      .marked ∈ incidents)

namespace Scope.MarkedIn

variable {id : HolderId} {incidents rest : List Incident}
variable {scope scope' scope'' : Scope}

theorem refl (scope : Scope) : scope.MarkedIn id incidents scope :=
  ⟨false, scope.marked_false.symm, fun h => by cases h⟩

theorem trans (h : scope.MarkedIn id incidents scope')
    (h' : scope'.MarkedIn id rest scope'') :
    scope.MarkedIn id (incidents ++ rest) scope'' := by
  obtain ⟨mark, rfl, hmade⟩ := h
  obtain ⟨mark', rfl, hmade'⟩ := h'
  refine ⟨mark || mark', scope.marked_marked mark mark',
    fun hmark hholder => ?_⟩
  rcases Bool.or_eq_true_iff.mp hmark with hmark | hmark
  · exact List.mem_append_left _ (hmade hmark hholder)
  · exact List.mem_append_right _ (hmade' hmark (by rwa [scope.holder_marked]))

end Scope.MarkedIn

/-- A step does to a holder what its incidents tell. -/
theorem Errand.Step.take_passes {c : Coordinator} {id : HolderId} {s : State}
    (hid : id < s.nextHolder) (first : Step) (scope : Scope) (p : Pocket) :
    scope.MarkedIn id (first.incidents c id scope s p)
      (first.take c scope s p).1 ∧
      State.Passes c id (first.incidents c id scope s p) s
        (first.take c scope s p).2.state := by
  cases first with
  | act a => exact ⟨.refl scope, a.perform_passes hid⟩
  | look => exact ⟨.refl scope, .refl s⟩
  | markRollbackOnly =>
      rw [take, incidents, Scope.markIncidents]
      rcases scope.markRollbackOnly_cases s with
          ⟨e, hnone, hmark⟩ | ⟨other, hsome, hmark⟩
      · rw [hmark, hnone]
        exact ⟨.refl scope, .refl s⟩
      · rw [hmark, hsome]
        refine ⟨⟨true, rfl, fun _ hholder => ?_⟩, .markedHolder s other⟩
        rw [hsome] at hholder
        rw [if_pos hholder]
        exact List.mem_singleton_self _

end UnitOfWork
