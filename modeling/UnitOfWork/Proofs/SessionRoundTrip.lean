import UnitOfWork.Proofs.FailedBegin

/-!
# The session of a borrowed connection

A connection that was there before a transaction is given back after it, and the
next transaction may use it.  A beginning changes the settings of the session
only where they are not what its definition asks for, and whoever ends the
attempt puts back what was changed: the failed beginning itself, or the
clean-up.  So the session is the same after each of any number of transactions,
to the letter, unless a call to put it back fails.
-/

namespace UnitOfWork

def Call.isSetting : Call → Bool
  | .setAutoCommit _ | .setIsolation _ => true
  | _ => false

/-! ## Putting settings back -/

namespace Settings

variable {settings : Settings} {session : Option Settings} {calls : List Call}
variable {made : List (Call × Option Fault)} {all : Bool}

/-- The calls by which settings are put back to what they were. -/
def Restores (settings : Settings) (request : Call) : Prop :=
  request = .setAutoCommit true ∨ request = .setIsolation settings.isolation

theorem after_none (calls : List Call) : after none calls = none := by
  induction calls with
  | nil => rfl
  | cons request rest ih => exact ih

/-- The other calls leave the settings alone. -/
theorem after_quiet (session : Option Settings)
    (h : ∀ request ∈ calls, request.isSetting = false) :
    after session calls = session := by
  induction calls with
  | nil => rfl
  | cons request rest ih =>
      have hsame : session.map request.effect = session := by
        have hfirst := h request List.mem_cons_self
        cases session with
        | none => rfl
        | some settings =>
            cases request with
            | setAutoCommit | setIsolation => cases hfirst
            | begin | commit | rollback | execute => rfl
      have hrest :=
        ih fun other hother => h other (List.mem_cons_of_mem _ hother)
      exact (congrArg (fun start => after start rest) hsame).trans hrest

/-- Where nothing switches auto-commit on, it is off afterwards if it was off
before or was switched off; and the isolation level is as before if none was
set. -/
theorem after_some (settings : Settings) (hoff : .setAutoCommit true ∉ calls) :
    ∃ changed, after (some settings) calls = some changed ∧
      changed.autoCommit =
        (settings.autoCommit && !decide (.setAutoCommit false ∈ calls)) ∧
      (calls.any Call.isIsolation = false →
        changed.isolation = settings.isolation) := by
  induction calls generalizing settings with
  | nil => exact ⟨settings, rfl, by simp, fun _ => rfl⟩
  | cons request rest ih =>
      obtain ⟨changed, hafter, hauto, hlevel⟩ := ih (request.effect settings)
        fun hmem => hoff (List.mem_cons_of_mem _ hmem)
      refine ⟨changed, hafter, ?_, fun hnone => ?_⟩
      · rw [hauto]
        cases request with
        | setAutoCommit on =>
            cases on with
            | true => exact absurd List.mem_cons_self hoff
            | false => simp [Call.effect]
        | _ => simp [Call.effect]
      · rw [List.any_cons, Bool.or_eq_false_iff] at hnone
        rw [hlevel hnone.2]
        cases request with
        | setIsolation level => cases hnone.1
        | _ => rfl

/-- What a beginning has changed is put back. -/
theorem after_restoringCalls {d : Definition} (session : Option Settings)
    (htried : Tried (d.openingCalls (.reported session)) made all) :
    after (after session (succeeded made))
      ((reported session).restoringCalls made) =
      session := by
  cases session with
  | none => rw [after_none, after_none]
  | some settings =>
      have hmem : ∀ on, .setAutoCommit on ∈ succeeded made →
          on = false ∧ settings.autoCommit = true := by
        intro on hon
        have hopening := htried.mem_of_succeeded _ hon
        simp only [Definition.openingCalls, List.mem_append,
          List.mem_map] at hopening
        rcases hopening with ⟨level, -, hlevel⟩ | hauto | hbegin
        · cases hlevel
        · split at hauto
          · next hwas => exact ⟨by simpa using hauto, hwas⟩
          · cases hauto
        · simp at hbegin
      have hoff : .setAutoCommit true ∉ succeeded made :=
        fun hon => by cases (hmem true hon).1
      obtain ⟨changed, hafter, hauto, hlevel⟩ := after_some settings hoff
      rw [hafter, restoringCalls, after_append]
      have hauto' : after (some changed)
          (if .setAutoCommit false ∈ succeeded made then
            [.setAutoCommit true] else []) =
            some { changed with autoCommit := settings.autoCommit } := by
        by_cases hoff : .setAutoCommit false ∈ succeeded made
        · rw [if_pos hoff, (hmem false hoff).2]
          rfl
        · simp only [hoff, decide_false, Bool.not_false, Bool.and_true] at hauto
          rw [if_neg hoff, ← hauto]
          rfl
      rw [hauto']
      cases hany : (succeeded made).any Call.isIsolation with
      | true => rfl
      | false =>
          rw [hlevel hany]
          rfl

/-- If every call to put something back succeeds, all of them are made and
succeed. -/
theorem succeeded_of_restoring {closed : List (Call × Option Fault)}
    (hclosed : closed.map Prod.fst = settings.restoringCalls made)
    (hrestored : ∀ request fault, (request, some fault) ∈ closed →
      ¬settings.Restores request) :
    succeeded closed = settings.restoringCalls made := by
  have hall : ∀ r ∈ closed, r.2 = none := by
    rintro ⟨request, fault⟩ hr
    cases fault with
    | none => rfl
    | some fault =>
        have hmem : request ∈ settings.restoringCalls made := by
          rw [← hclosed]
          exact List.mem_map_of_mem hr
        refine absurd ?_ (hrestored request fault hr)
        rw [restoringCalls] at hmem
        rcases List.mem_append.mp hmem with hauto | hlevel
        · split at hauto
          · exact Or.inl (List.mem_singleton.mp hauto)
          · cases hauto
        · split at hlevel
          · exact Or.inr (List.mem_singleton.mp hlevel)
          · cases hlevel
  rw [← hclosed, succeeded]
  clear hclosed hrestored
  induction closed with
  | nil => rfl
  | cons r rest ih =>
      rw [List.filterMap_cons, hall r List.mem_cons_self, List.map_cons]
      exact congrArg (r.1 :: ·) (ih fun other hother =>
        hall other (List.mem_cons_of_mem _ hother))

end Settings

/-- What a transaction says about the settings of its session.  Its beginning
changes them as far as the definition asks for it and until a call fails, and
after everything else it makes every call that puts back what was changed,
once. -/
def Definition.Frames (d : Definition) (settings : Settings)
    (made : List (Call × Option Fault)) :
    Prop :=
  ∃ opened rest closed all, made = opened ++ rest ++ closed ∧
    Tried (d.openingCalls settings) opened all ∧
    (∀ r ∈ rest, r.1.isSetting = false) ∧
    closed.map Prod.fst = settings.restoringCalls opened

/-- A transaction leaves the session as it was, if no call fails that puts a
setting back. -/
theorem Definition.Frames.after {d : Definition} {session : Option Settings}
    {made : List (Call × Option Fault)} (h : d.Frames (.reported session) made)
    (hrestored : ∀ request fault, (request, some fault) ∈ made →
      ¬(Settings.reported session).Restores request) :
    Settings.after session (succeeded made) = session := by
  obtain ⟨opened, rest, closed, all, rfl, htried, hquiet, hclosed⟩ := h
  have hrest : ∀ request ∈ succeeded rest, request.isSetting = false := by
    intro request hrequest
    obtain ⟨r, hr, rfl⟩ := List.mem_map.mp (mem_map_of_succeeded hrequest)
    exact hquiet r hr
  have hall := Settings.succeeded_of_restoring hclosed fun request fault hr =>
    hrestored request fault (List.mem_append_right _ hr)
  rw [succeeded_append, succeeded_append, Settings.after_append,
    Settings.after_append, Settings.after_quiet _ hrest, hall,
    Settings.after_restoringCalls session htried]

/-! ## Transactions one after the other -/

/-- The calls that were noted on a connection between two states. -/
def State.Noted (conn : Connection) (made : List (Call × Option Fault))
    (s s' : State) : Prop :=
  ∃ more, s'.journal = s.journal ++ more ∧
    more.filter (Note.concerns conn) = callsOn conn made

/-- What is said on a connection is what is noted on it. -/
theorem State.Said.eq_of_noted {conn : Connection}
    {made made' : List (Call × Option Fault)} {calls : List Call} {s s' : State}
    (hsaid : Said conn made calls s s') (hnoted : s.Noted conn made' s') :
    made' = made := by
  obtain ⟨more, hmore, hnotes⟩ := hsaid.journal
  obtain ⟨more', hmore', hnotes'⟩ := hnoted
  rw [hmore] at hmore'
  rw [List.append_cancel_left hmore', hnotes'] at hnotes
  apply (List.map_inj_right fun r r' heq => ?_).mp hnotes
  injection heq with hcall hfault
  injection hcall with _ hrequest
  exact Prod.ext hrequest hfault

/-- Between two states nobody has changed the session of a connection, or done
anything with a certain holder of it but to mark it. -/
structure State.Undisturbed (id : HolderId) (conn : Connection) (s s' : State) :
    Prop where
  session : s'.session conn = s.session conn
  stage : (s'.holders id).stage = (s.holders id).stage
  connection : (s'.holders id).connection = (s.holders id).connection

structure State.Available (id : HolderId) (conn : Connection) (s : State) :
    Prop where
  stage : (s.holders id).stage = .unbound
  connection : (s.holders id).connection = some conn

namespace Coordinator

/-- The ways to end a transaction, if it is ended at all.  A commit or a
rollback may fail. -/
inductive Ended (h : Handle) (s : State) : State → Prop
  | undecided : Ended h s s
  | committed : Ended h s (commit h s).2
  | rolledBack : Ended h s (rollback h s).2

/-- One transaction on a holder with a connection, and the calls on it that were
noted.  The handle is one through which no transaction has begun before. -/
inductive Transaction (c : Coordinator) (d : Definition) (id : HolderId)
    (conn : Connection) :
    List (Call × Option Fault) → State → State → Prop
  /-- It could not be begun. -/
  | failed {h h' : Handle} {s s' : State} {e : TransactionError}
      {made : List (Call × Option Fault)} (hunbegun : h.Unbegun)
      (hholder : h.holder = some id)
      (herror : c.begin d h s = (.error e, h', s'))
      (hmade : s.Noted conn made s') : Transaction c d id conn made s s'
  /-- It was begun, ended after some work, and cleaned up after some time. -/
  | completed {h h' : Handle} {s s₁ s₂ s₃ s₄ : State}
      {opening ending closing : List (Call × Option Fault)}
      (hunbegun : h.Unbegun)
      (hholder : h.holder = some id) (hok : c.begin d h s = (.ok (), h', s₁))
      (hopening : s.Noted conn opening s₁) (hwork : s₁.Undisturbed id conn s₂)
      (mark : Bool)
      (hended : Ended (markedHandle h' mark) s₂ s₃)
      (hending : s₂.Noted conn ending s₃) (hpause : s₃.Undisturbed id conn s₄)
      (hclosing : s₄.Noted conn closing (c.cleanup (markedHandle h' mark) s₄)) :
      Transaction c d id conn (opening ++ ending ++ closing) s
        (c.cleanup (markedHandle h' mark) s₄)

variable {c : Coordinator} {d : Definition} {id : HolderId}
variable {conn conn' : Connection} {h h₁ h₂ h' : Handle} {s s₁ s₂ s₃ s' : State}
variable {made opened marked : List (Call × Option Fault)}

/-- A beginning on an available holder gets its connection. -/
theorem obtainConnection_of_available (c : Coordinator)
    (hholder : h.holder = some id) (havailable : s.Available id conn) :
    c.obtainConnection h s =
      (.ok conn, h,
        s.setHolder id { s.holders id with stage := .claimed }) := by
  have hreuse :=
    reusableHolder_of_unbound hholder havailable.stage havailable.connection
  simp [obtainConnection, hreuse, claimConnection, Holder.claim,
    havailable.stage, Holder.held, havailable.connection]

/-- The read-only statement changes no setting. -/
theorem quiet_of_marked {ready : Bool}
    (hmarked : Tried (c.readOnlyCalls d) marked ready) :
    ∀ r ∈ marked, r.1.isSetting = false := by
  intro r hr
  have hmem := hmarked.mem_of_made r hr
  rw [readOnlyCalls] at hmem
  split at hmem
  · rw [List.mem_singleton.mp hmem]
    rfl
  · cases hmem

/-- A beginning that is abandoned, from where it has got its connection. -/
theorem frames_of_abandoned {began : Bool} {rest : List (Call × Option Fault)}
    {all : Bool} (hholder : h₂.holder = some id) (howns : h₂.ownsHolder = false)
    (hopened : Tried (d.openingCalls (.reported (s.session conn))) opened all)
    (hquiet : ∀ r ∈ rest, r.1.isSetting = false)
    (hsaid : State.Said conn (opened ++ rest) (succeeded (opened ++ rest)) s s₃)
    (howed : h₂.owed =
      (Settings.reported (s.session conn)).restoringCalls opened) :
    ∃ made, d.Frames (.reported (s.session conn)) made ∧
      State.Said conn made (succeeded made) s
        (c.abandon began conn h₂ s₃).2 := by
  obtain ⟨rolled, closed, s', hrolled, -, hclosed, hsaid', fault, -, hparted⟩ :=
    abandon_said (c := c) (s := s₃) hholder
      (fun htrue => by rw [howns] at htrue; cases htrue) began
  rw [howns] at hparted
  simp only [Bool.false_eq_true, if_false, false_and] at hparted
  have hall := (hsaid.trans hsaid').andThen hparted
  rw [← succeeded_append, ← succeeded_append, ← List.append_assoc] at hall
  refine ⟨_, ⟨opened, rest ++ rolled, closed, all,
    by simp, hopened, fun r hr => ?_,
    hclosed.trans howed⟩, hall⟩
  rcases List.mem_append.mp hr with hr | hr
  · exact hquiet r hr
  · have hmem : r.1 ∈ rolled.map Prod.fst := List.mem_map_of_mem hr
    rw [hrolled] at hmem
    split at hmem
    · rw [List.mem_singleton.mp hmem]
      rfl
    · cases hmem

/-- An abandoned beginning gives an available holder back. -/
theorem available_of_abandoned {began : Bool}
    {calls : List (Call × Option Fault)} (havailable : s.Available id conn)
    (hobtained : c.Obtained h s conn id h₁ s₁) (hsame : h₁.SameAttempt h₂)
    (htalk : Talk conn calls s₁ s₂) (hactive : s₃ = s₂ ∨
      h₂.ownsHolder = true ∧ s₃ = s₂.setHolder id (c.activeHolder d s₂ id))
    (howns : h₂.ownsHolder = false) :
    (c.abandon began conn h₂ s₃).2.Available id conn := by
  obtain ⟨-, -, ⟨htrue, -⟩ | ⟨-, hreleased⟩⟩ :=
    abandoned_cases began hobtained hsame htalk hactive
  · rw [howns] at htrue
    cases htrue
  · constructor <;> rw [hreleased]
    · rfl
    · exact havailable.connection

/-- A beginning on an available holder that fails. -/
theorem frames_of_error {e : TransactionError} (hunbegun : h.Unbegun)
    (hholder : h.holder = some id) (havailable : s.Available id conn)
    (herror : c.begin d h s = (.error e, h', s')) :
    (∃ made, d.Frames (.reported (s.session conn)) made ∧
      State.Said conn made (succeeded made) s s') ∧ s'.Available id conn := by
  have hidle := hunbegun.idle
  have hobtains := c.obtainConnection_of_available hholder havailable
  have hadvance := c.advance d s hidle.owed
  rw [herror] at hadvance
  generalize hresult : (Except.error e, h', s') = result at hadvance
  cases hadvance with
  | refused hobtain =>
      rw [hobtains] at hobtain
      cases hobtain
  | @early conn' id' h₁ h₂ s₁ s₂ calls opened e' hobtain hobtained hsame htalk
      hopened hsaid howed =>
      obtain rfl : s' = (c.abandon false conn' h₂ s₂).2 :=
        (Prod.mk.inj (Prod.mk.inj hresult).2).2
      rw [hobtains] at hobtain
      cases hobtain
      obtain rfl : id = id' :=
        Option.some.inj (hholder.symm.trans hobtained.claimed.1)
      have howns := hsame.ownsHolder.trans hidle.ownsHolder
      have hsilent : State.Said conn [] [] s
          (s.setHolder id { s.holders id with stage := .claimed }) :=
            .silent (.of_drivers rfl rfl)
      exact ⟨frames_of_abandoned (hsame.holder.trans hholder) howns hopened
        (fun _ hr => (List.not_mem_nil hr).elim) (by
          simpa using hsilent.trans hsaid) howed,
        available_of_abandoned (d := d) havailable hobtained hsame htalk
          (Or.inl rfl) howns⟩
  | @late conn' id' h₁ h₂ s₁ s₂ s₃ calls opened marked ready e' hobtain
      hobtained hsame htalk hactive hopened hmarked hsaid howed =>
      obtain rfl : s' = (c.abandon true conn' h₂ s₃).2 :=
        (Prod.mk.inj (Prod.mk.inj hresult).2).2
      rw [hobtains] at hobtain
      cases hobtain
      obtain rfl : id = id' :=
        Option.some.inj (hholder.symm.trans hobtained.claimed.1)
      have howns := hsame.ownsHolder.trans hidle.ownsHolder
      have hactivated : State.Said conn [] [] s₂ s₃ := by
        rcases hactive with rfl | ⟨-, rfl⟩
        · exact .silent (.refl conn s₃)
        · exact .silent (.of_drivers rfl rfl)
      have hsilent : State.Said conn [] [] s
          (s.setHolder id { s.holders id with stage := .claimed }) :=
            .silent (.of_drivers rfl rfl)
      exact ⟨frames_of_abandoned (hsame.holder.trans hholder) howns hopened
        (quiet_of_marked hmarked) (by
          simpa using (hsilent.trans hsaid).trans hactivated) howed,
        available_of_abandoned havailable hobtained hsame htalk hactive howns⟩
  | opened => cases hresult

/-- A beginning on an available holder that succeeds: the handle owes then what
puts the settings back. -/
theorem opened_of_ok (hunbegun : h.Unbegun) (hholder : h.holder = some id)
    (havailable : s.Available id conn)
    (hok : c.begin d h s = (.ok (), h', s')) :
    ∃ opened marked,
      Tried (d.openingCalls (.reported (s.session conn))) opened true ∧
      (∀ r ∈ marked, r.1.isSetting = false) ∧
      State.Said conn (opened ++ marked) (succeeded (opened ++ marked)) s s' ∧
      h'.owed = (Settings.reported (s.session conn)).restoringCalls opened ∧
      h'.ownsHolder = false ∧ c.Begun h s conn id h' s' := by
  have hidle := hunbegun.idle
  have hobtains := c.obtainConnection_of_available hholder havailable
  have hadvance := c.advance d s hidle.owed
  rw [hok] at hadvance
  generalize hresult : (Except.ok (), h', s') = result at hadvance
  cases hadvance with
  | refused hobtain =>
      rw [hobtains] at hobtain
      cases hobtain
  | early => cases hresult
  | late => cases hresult
  | @opened conn' id' h₁ h'' s₁ s'' opened marked hobtain hobtained howns hbegun
      hopened hmarked hsaid howed hconfined =>
      obtain ⟨rfl, rfl⟩ := by simpa using hresult
      rw [hobtains] at hobtain
      cases hobtain
      obtain rfl : id = id' :=
        Option.some.inj (hholder.symm.trans hobtained.claimed.1)
      have hsilent : State.Said conn [] [] s
          (s.setHolder id { s.holders id with stage := .claimed }) :=
            .silent (.of_drivers rfl rfl)
      exact ⟨opened, marked, hopened, quiet_of_marked hmarked,
        by simpa using hsilent.trans hsaid, howed,
        howns.trans hidle.ownsHolder, hbegun⟩

/-- However a transaction is ended, no setting is changed by it, and its holder
is as it was. -/
theorem Ended.said (hended : Ended h s s') (hconn : h.connection s = .ok conn) :
    State.SameHolders s s' ∧ ∃ ending, (∀ r ∈ ending, r.1.isSetting = false) ∧
      State.Said conn ending (succeeded ending) s s' := by
  have hfinish : ∀ task (last : Call) announcement, last.isSetting = false →
      State.SameHolders s (finish task last announcement h s).2 ∧
      ∃ ending, (∀ r ∈ ending, r.1.isSetting = false) ∧
        State.Said conn ending (succeeded ending) s
          (finish task last announcement h s).2 := by
    intro task last announcement hquiet
    obtain ⟨fault, -, hsaid⟩ := finish_said hconn task last announcement
    refine ⟨sameHolders_finish task last announcement h s, [(last, fault)],
      fun r hr => ?_, hsaid⟩
    rw [List.mem_singleton.mp hr, hquiet]
  cases hended with
  | undecided =>
      exact ⟨.refl s, [], fun r hr => (List.not_mem_nil hr).elim,
        .silent (.refl conn s)⟩
  | committed => exact hfinish _ _ _ rfl
  | rolledBack => exact hfinish _ _ _ rfl

/-- A transaction on an available holder makes its calls in the order that the
protocol has for them, the session is what they make of it, and the holder is
available again. -/
theorem Transaction.kept (htransaction : Transaction c d id conn made s s')
    (havailable : s.Available id conn) :
    d.Frames (.reported (s.session conn)) made ∧
      s'.session conn = Settings.after (s.session conn) (succeeded made) ∧
      s'.Available id conn := by
  cases htransaction with
  | failed hunbegun hholder herror hmade =>
      obtain ⟨⟨made', hframes, hsaid⟩, havailable'⟩ :=
        frames_of_error hunbegun hholder havailable herror
      obtain rfl := hsaid.eq_of_noted hmade
      exact ⟨hframes, hsaid.session, havailable'⟩
  | @completed h h' _ s₁ s₂ s₃ s₄ opening ending closing hunbegun hholder hok
      hopening hwork mark hended hending hpause hclosing =>
      obtain ⟨opened, marked, hopened, hmarked, hsaid₁, howed, howns, hbegun⟩ :=
        opened_of_ok hunbegun hholder havailable hok
      obtain rfl := hsaid₁.eq_of_noted hopening
      have hconn₂ : (s₂.holders id).connection = some conn := by
        rw [hwork.connection, hbegun.connection]
      have hheld : (markedHandle h' mark).connection s₂ = .ok conn := by
        simp [Handle.connection, markedHandle, hbegun.holder,
          Holder.held, hconn₂]
      obtain ⟨hsame, ending', hquiet, hsaid₂⟩ := hended.said hheld
      obtain rfl := hsaid₂.eq_of_noted hending
      have hconn₄ : (s₄.holders id).connection = some conn := by
        rw [hpause.connection, hsame.holders, hconn₂]
      obtain ⟨closed, s₅, hclosed, hsaid₃, fault, -, hparted⟩ := said_cleanup
        (c := c) (s := s₄) (h := markedHandle h' mark) hbegun.holder hconn₄
        (fun htrue => absurd (howns.symm.trans htrue) Bool.false_ne_true)
      have hkept : (markedHandle h' mark).ownsHolder = false := howns
      simp only [hkept, Bool.false_eq_true, if_false, false_and] at hparted
      have hsaid₄ := hsaid₃.andThen hparted
      obtain rfl := hsaid₄.eq_of_noted hclosing
      refine ⟨⟨opened, marked ++ ending, closing, true,
        by simp, hopened, fun r hr => ?_,
        hclosed.trans howed⟩, ?_, ?_⟩
      · exact (List.mem_append.mp hr).elim (hmarked r) (hquiet r)
      · rw [hsaid₄.session, hpause.session, hsaid₂.session, hwork.session,
          hsaid₁.session, ← Settings.after_append, ← Settings.after_append]
        simp only [succeeded_append, List.append_assoc]
      · have hholder' :=
          cleanup_holders (c := c) (s := s₄) (h := markedHandle h' mark)
            hbegun.holder id
        rw [if_pos rfl] at hholder'
        have hsettled : settle (markedHandle h' mark) (s₄.holders id) =
            (s₄.holders id).release := by
          simp [settle, markedHandle, howns, hbegun.began]
        constructor <;> rw [hholder', hsettled]
        · rfl
        · exact hconn₄

/-- Transactions on one holder, one after the other, with pauses between them.
In each of them every call succeeds by which a setting is put back. -/
inductive Transactions (id : HolderId) (conn : Connection) (s : State) :
    State → Prop
  | none : Transactions id conn s s
  | next {c : Coordinator} {d : Definition} {s₁ s₂ s₃ : State}
      {made : List (Call × Option Fault)} (h : Transactions id conn s s₁)
      (hpause : s₁.Undisturbed id conn s₂)
      (htransaction : Transaction c d id conn made s₂ s₃)
      (hrestored : ∀ request fault, (request, some fault) ∈ made →
        ¬(Settings.reported (s₂.session conn)).Restores request) :
          Transactions id conn s s₃

theorem Transactions.kept (h : Transactions id conn s s')
    (havailable : s.Available id conn) :
    s'.session conn = s.session conn ∧ s'.Available id conn := by
  induction h with
  | none => exact ⟨rfl, havailable⟩
  | @next c d s₁ s₂ s₃ made _ hpause htransaction hrestored ih =>
      obtain ⟨hsession, havailable₁⟩ := ih
      obtain ⟨hframes, hafter, havailable₃⟩ := htransaction.kept
        ⟨hpause.stage.trans havailable₁.stage,
          hpause.connection.trans havailable₁.connection⟩
      rw [hafter, hframes.after hrestored, hpause.session, hsession]
      exact ⟨rfl, havailable₃⟩

/-- A session is the same after each of any number of transactions on its
connection, if no call fails that puts a setting back; and whichever calls fail,
a transaction changes a setting only where it is not what is asked for, and
tries once to put back each that it has changed. -/
theorem transactions_restore_session (havailable : s.Available id conn) :
    (∀ s', Transactions id conn s s' → s'.session conn = s.session conn) ∧
    ∀ c d made s', Transaction c d id conn made s s' →
      d.Frames (.reported (s.session conn)) made :=
  ⟨fun _ h => (h.kept havailable).1, fun _ _ _ _ h => (h.kept havailable).1⟩

/-- A transaction that is serializable for once leaves the level of a certain
vendor. -/
theorem transactions_restore_vendor_level :
    let c : Coordinator := { source := ⟨0, ⟨"db"⟩⟩ }
    let conn : Connection := ⟨0, 1⟩
    let s : State :=
      { drivers := fun _ =>
          { nextId := 2, sessions := fun _ =>
            some { isolation := .vendor "Snapshot" } }
        holders := fun _ => { connection := some conn }
        nextHolder := 1, context := Bindings.empty.insert ⟨"db"⟩ 0 }
    let begun :=
      (c.begin { isolation := .exactly .serializable } (c.discover s) s).2
    let s' := c.cleanup begun.1 (commit begun.1 begun.2).2
    s.Available 0 conn ∧ Transactions 0 conn s s' ∧
      begun.2.session conn = some ⟨false, .standard .serializable⟩ ∧
      s'.session conn = some ⟨true, .vendor "Snapshot"⟩ := by
  intro c conn s begun s'
  have havailable : s.Available 0 conn := ⟨rfl, rfl⟩
  have hnone : c.obstacles { isolation := .exactly .serializable }
      (c.discover s) s = [] := by
    decide +kernel
  have hok : c.begin { isolation := .exactly .serializable } (c.discover s) s =
      (.ok (), begun.1, begun.2) := by
    refine Prod.ext ?_ rfl
    rw [begin_outcome c _ rfl, hnone]
    rfl
  have hopening : s.Noted conn [(.setIsolation (.standard .serializable), none),
      (.setAutoCommit false, none), (.begin, none)] begun.2 :=
    ⟨begun.2.journal, rfl, by decide +kernel⟩
  have hending :
      begun.2.Noted conn [(.commit, none)] (commit begun.1 begun.2).2 :=
    ⟨(commit begun.1 begun.2).2.journal.drop begun.2.journal.length,
      by decide +kernel,
      by decide +kernel⟩
  have hclosing : (commit begun.1 begun.2).2.Noted conn
      [(.setAutoCommit true, none),
        (.setIsolation (.vendor "Snapshot"), none)] s' :=
    ⟨s'.journal.drop (commit begun.1 begun.2).2.journal.length,
      by decide +kernel,
      by decide +kernel⟩
  have hholder : (c.discover s).holder = some 0 := by decide +kernel
  have htransaction := Transaction.completed (.discovered c s) hholder hok
    hopening ⟨rfl, rfl, rfl⟩ false .committed hending ⟨rfl, rfl, rfl⟩ hclosing
  have htransactions : Transactions 0 conn s s' :=
    .next .none ⟨rfl, rfl, rfl⟩ htransaction (by simp)
  exact ⟨havailable, htransactions, by decide +kernel,
    (transactions_restore_session havailable).1 s' htransactions⟩

end Coordinator

end UnitOfWork
