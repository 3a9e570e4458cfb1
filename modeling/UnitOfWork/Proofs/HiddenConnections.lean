import UnitOfWork.Proofs.ConnectionEvents
import UnitOfWork.Proofs.Discipline
import UnitOfWork.Proofs.FetchedConnections

/-!
# Connections out of reach

A connection is out of reach of some work if no holder that the work can come
upon has it and no scope has given it.  Nothing happens then to the connection
and to its holder, whatever else the work does.  A suspended transaction is in
this situation until it is resumed.
-/

namespace UnitOfWork

/-- No holder that is bound to one of these keys has the connection. -/
def State.Hidden (keys : Key → Prop) (conn : Connection) (s : State) : Prop :=
  ∀ key id, keys key → s.boundHolder key = some id →
    (s.holders id).connection ≠ some conn

structure State.Untouched (conn : Connection) (s s' : State) : Prop where
  heard : Heard conn [] [] s s'
  nextHolder : s.nextHolder ≤ s'.nextHolder
  holders : ∀ id < s.nextHolder, (s.holders id).connection = some conn →
    s'.holders id = s.holders id

/-- What an execution suspends for the time of its work. -/
def Course.suspended : Course → Option HolderId
  | .runsAlone suspended | .begins suspended => suspended
  | .refuses _ | .joins _ => none

namespace State

variable {keys : Key → Prop} {conn : Connection} {s s₁ s' s'' : State}

namespace Untouched

theorem of_sameHolders (hheard : Heard conn [] [] s s') (h : SameHolders s s') :
    Untouched conn s s' :=
  ⟨hheard, Nat.le_of_eq h.nextHolder.symm, fun id _ _ => by rw [h.holders]⟩

theorem refl (conn : Connection) (s : State) : Untouched conn s s :=
  of_sameHolders (.refl conn s) (.refl s)

theorem trans (h : Untouched conn s s') (h' : Untouched conn s' s'') :
    Untouched conn s s'' where
  heard := h.heard.trans h'.heard
  nextHolder := Nat.le_trans h.nextHolder h'.nextHolder
  holders id hid hconn := by
    have hfirst := h.holders id hid hconn
    have hsecond :=
      h'.holders id (Nat.lt_of_lt_of_le hid h.nextHolder) (by rwa [hfirst])
    exact hsecond.trans hfirst

theorem say (s : State) (line : Line) : Untouched conn s (s.say line) :=
  of_sameHolders (.say s line) ⟨rfl, rfl, fun _ => rfl⟩

theorem markedHolder {id : HolderId}
    (hne : (s.holders id).connection ≠ some conn) :
    Untouched conn s (s.markedHolder id) where
  heard := (confined_markedHolder (fun _ => False) s id).heard not_false
  nextHolder := Nat.le_refl _
  holders other _ hconn := by
    have hother : other ≠ id := by
      rintro rfl
      exact hne hconn
    simp [State.markedHolder, hother]

end Untouched

/-- Work during which no deadline passes binds no other holder, and gives none
another connection. -/
theorem Hidden.later (h : s.Hidden keys conn)
    (hkeeps : Keeps (fun _ => False) s s') (hs : s.BoundExist) :
    s'.Hidden keys conn := by
  intro key id hkey hbound
  have hbefore := hkeeps.bound key id hbound
  rw [hkeeps.connection id (hs key id hbefore)]
  exact h key id hkey hbefore

theorem not_created_of_known (hknown : conn.id < s.nextId conn.source)
    (s' : State) :
    ¬ Created conn s s' :=
  fun hcreated => Nat.not_lt.mpr hcreated.1 hknown

end State

namespace Coordinator

variable {σ ε α : Type} {keys : Key → Prop} {c : Coordinator} {d : Definition}
variable {s s' s₁ : State} {conn other : Connection} {id : HolderId}
variable {h : Handle} {suspended : Option HolderId}

/-- What is suspended is hidden from what comes after it. -/
theorem hidden_setAside (hhidden : s.Hidden keys conn)
    (suspended : Option HolderId) :
    (c.setAside suspended s).Hidden keys conn := by
  intro key id hkey hbound
  rw [boundHolder_setAside] at hbound
  rw [holders_setAside]
  split at hbound
  · cases hbound
  · exact hhidden key id hkey hbound

/-- Another connection than the hidden one is begun on, in a holder that does
not have the hidden one. -/
theorem Origin.ne_of_hidden {owns : Bool}
    (horigin : Origin (c.blank suspended s)
      (c.entrance d suspended s) other id owns s')
    (hcreated : owns = true → State.Created other (c.entrance d suspended s) s')
    (hkey : keys c.key) (hhidden : (c.setAside suspended s).Hidden keys conn)
    (hnew : ¬ State.Created conn s s') :
    other ≠ conn ∧
      ∀ id' < s.nextHolder, (s.holders id').connection = some conn →
        id' ≠ id := by
  cases horigin with
  | reused hholder howns hstage hconn hnext =>
      have hne := hhidden c.key id hkey hholder
      refine ⟨fun heq => hne (hconn.trans (by rw [heq])), ?_⟩
      rintro id' - hconn' rfl
      exact hne (by rwa [holders_setAside])
  | created hid howns hnext =>
      have hentrance := (c.deals_entrance d suspended s).nextId
      refine ⟨?_, fun id' hid' _ => ?_⟩
      · rintro rfl
        exact hnew ((hcreated howns).mono hentrance fun _ => Nat.le_refl _)
      · rw [hid]
        exact Nat.ne_of_lt (by simpa [entrance] using hid')

theorem untouched_setAside (c : Coordinator) (suspended : Option HolderId)
    (s : State) :
    State.Untouched conn s (c.setAside suspended s) :=
  ⟨(confined_setAside (fun _ => False) c suspended s).heard not_false, by simp,
    fun _ _ _ => by simp⟩

theorem untouched_resumed (c : Coordinator) (suspended : Option HolderId)
    (s : State) :
    State.Untouched conn s (c.resumed suspended s) := by
  refine ⟨(confined_resumed (fun _ => False) c suspended s).heard not_false, ?_,
    fun _ _ _ => by simp⟩
  rcases c.resumed_cases suspended s with hsame | ⟨id, -, -, hbound⟩
  · exact Nat.le_of_eq (by rw [hsame])
  · exact Nat.le_of_eq (by rw [hbound]; rfl)

/-- A transaction that is begun elsewhere. -/
theorem untouched_begun (hkey : keys c.key)
    (hhidden : (c.setAside suspended s).Hidden keys conn)
    (hnew : ¬ State.Created conn s s₁)
    (hbegin : c.begin d (c.blank suspended s) (c.entrance d suspended s) =
      (.ok (), h, s₁)) :
    ∃ other id, c.Begun (c.blank suspended s)
      (c.entrance d suspended s) other id h s₁ ∧
      other ≠ conn ∧ (h.ownsHolder = true → other.source = c.source.id) ∧
      State.Untouched conn (c.setAside suspended s) s₁ := by
  obtain ⟨other, id, hbegun, hconfined, hcreated⟩ := confined_of_ok rfl hbegin
  obtain ⟨hne, hholders⟩ := hbegun.origin.ne_of_hidden
    (fun howns => (hcreated howns).2) hkey hhidden hnew
  refine ⟨other, id, hbegun, hne, fun howns => (hcreated howns).1, ?_⟩
  refine (State.Untouched.say (c.setAside suspended s) (.creating d.name)).trans
    ⟨hconfined.heard (Ne.symm hne), hbegun.nextHolder_le,
      fun id' hid' hconn' => ?_⟩
  exact hbegun.others id'
    (hholders id' (by simpa using hid') (by simpa using hconn'))

theorem untouched_failing (hkey : keys c.key)
    (hhidden : (c.setAside suspended s).Hidden keys conn)
    (hnew : ¬ State.Created conn s s₁)
    (hfailing : c.Failing (c.blank suspended s) (c.entrance d suspended s) s₁) :
    State.Untouched conn (c.setAside suspended s) s₁ := by
  refine (State.Untouched.say (c.setAside suspended s)
    (.creating d.name)).trans ?_
  cases hfailing with
  | refused hsame hconfined =>
      exact .of_sameHolders (hconfined.heard not_false) hsame
  | @abandoned other id owns horigin hothers hconfined hcreated =>
      obtain ⟨hne, hholders⟩ :=
        horigin.ne_of_hidden (fun howns => (hcreated howns).2) hkey hhidden hnew
      refine ⟨hconfined.heard (Ne.symm hne), ?_, fun id' hid' hconn' => ?_⟩
      · cases horigin with
        | reused _ _ _ _ hnext => exact Nat.le_of_eq hnext.symm
        | created _ _ hnext => exact hnext ▸ Nat.le_succ _
      · exact hothers id'
          (hholders id' (by simpa using hid') (by simpa using hconn'))

/-- A transaction that runs elsewhere is ended and cleaned up. -/
theorem untouched_cleanup {h' : Handle} {s₀ : State} (mark : Bool)
    (result : Except (Failure ε) α) (hbegun : c.Begun h s₀ other id h' s₁)
    (hid : id < s₁.nextHolder) (hne : other ≠ conn)
    (hsource : h'.ownsHolder = true → other.source = c.source.id)
    (hsteady : State.Steady s₁ s') :
    State.Untouched conn s'
      (c.cleanup (markedHandle h' mark)
        (complete (markedHandle h' mark) result s').2) := by
  obtain ⟨hconn, hheld⟩ := connection_of_steady hbegun hid hsteady mark
  obtain ⟨fault, htalk, -⟩ := complete_ended hheld result
  have hholder : (markedHandle h' mark).holder = some id := hbegun.holder
  have hcleaned := confined_cleanup (c := c) hholder
    (by rw [htalk.sameHolders.holders]; exact hconn) hsource
  refine ⟨(htalk.confined.trans hcleaned).heard (Ne.symm hne), ?_,
    fun id' _ hconn' => ?_⟩
  · exact Nat.le_of_eq (by
      rw [cleanup_nextHolder hholder, htalk.sameHolders.nextHolder])
  · have hother : id' ≠ id := by
      rintro rfl
      exact hne (Option.some.inj (hconn.symm.trans hconn'))
    rw [cleanup_holders hholder, if_neg hother, htalk.sameHolders.holders]

/-- Where work is entered, a hidden connection is still hidden. -/
theorem Entered.hidden {scope : Scope} (hentered : c.Entered d s scope s')
    (hkey : keys c.key)
    (hhidden : (c.setAside (c.course d s).suspended s).Hidden keys conn)
    (hnew : ¬ State.Created conn s s') : s'.Hidden keys conn := by
  cases hentered with
  | joining hcourse =>
      rw [hcourse] at hhidden
      exact hhidden
  | alone hcourse =>
      rw [hcourse] at hhidden
      exact hhidden
  | @begun suspended h s₁ hcourse hbegin =>
      rw [hcourse] at hhidden
      obtain ⟨other, id', hbegun, hne, -, huntouched⟩ :=
        untouched_begun hkey hhidden hnew hbegin
      intro key id hkey' hbound
      by_cases heq : id = id'
      · rw [heq, hbegun.connection]
        exact fun hother => hne (Option.some.inj hother)
      · rw [hbegun.others id heq]
        rw [hbegun.bound] at hbound
        split at hbound
        · exact absurd (Option.some.inj hbound).symm heq
        · exact hhidden key id hkey' hbound

section

variable {body : Plan σ ε α} {m : Diary σ} {run : Run (Diary σ) ε α}
variable {s₂ : State}

/-- A connection that is not created over an execution is created neither before
the work nor during it, so that the work leaves it alone. -/
theorem Entered.leaves {scope : Scope} (hentered : c.Entered d s scope s₁)
    (hs : s.BoundExist) (hkey : keys c.key)
    (hhidden : (c.setAside (c.course d s).suspended s).Hidden keys conn)
    (hnew : ¬ State.Created conn s s₂)
    (hwork : (body.run scope s₁ m).2.state = s')
    (hafter : ∀ source, s'.nextId source ≤ s₂.nextId source)
    (hbody : s₁.Hidden keys conn →
      ¬ State.Created conn s₁ (body.run scope s₁ m).2.state →
      State.Untouched conn s₁ (body.run scope s₁ m).2.state) :
    ¬ State.Created conn s s₁ ∧ State.Untouched conn s₁ s' := by
  have hduring := body.run_nextId scope m (hentered.steady.boundExist hs)
  rw [hwork] at hduring hbody
  have hnew₁ : ¬ State.Created conn s s₁ := fun hcreated =>
    hnew (hcreated.mono (fun _ => Nat.le_refl _) fun source =>
      Nat.le_trans (hduring source) (hafter source))
  exact ⟨hnew₁, hbody (hentered.hidden hkey hhidden hnew₁) fun hcreated =>
    hnew (hcreated.mono hentered.nextId hafter)⟩

/-- The transaction that was joined runs on another connection. -/
theorem untouched_joined (hprompt : body.Prompt) (hs : s.BoundExist)
    (hcourse : c.course d s = .joins id) (hkey : keys c.key)
    (hhidden : s.Hidden keys conn)
    (hwork : (body.run (.joining c { holder := some id })
      (s.say (.participating d.name)) m).2.state = s')
    (huntouched : State.Untouched conn (s.say (.participating d.name)) s')
    (failed : Bool) :
    State.Untouched conn s (if failed then
      s'.participantFailed id else s') := by
  have hjoined := (State.Untouched.say s _).trans huntouched
  split
  · have hbound :=
      (running_eq_some_iff.mp (running_of_course (Or.inl hcourse))).1
    have hkeeps := hprompt.run_keeps (.joining c { holder := some id }) m
      (s := s.say (.participating d.name)) hs
    rw [hwork] at hkeeps
    have hconn : (s'.holders id).connection = (s.holders id).connection :=
      hkeeps.connection id (hs c.key id hbound)
    refine (hjoined.trans (.say _ _)).trans (.markedHolder ?_)
    rw [State.holders_say, hconn]
    exact hhidden c.key id hkey hbound
  · exact hjoined

/-- The end of a transaction makes no connection. -/
theorem nextId_close {mark : Bool} {result : Except (Failure ε) α}
    {m' : Diary σ} (hs : s.BoundExist)
    (hbegun : c.Begun (c.blank suspended s)
      (c.entrance d suspended s) other id h s₁)
    (hsteady : State.Steady s₁ s') (source : SourceId) :
    s'.nextId source ≤ (c.close suspended (markedHandle h mark)
      (complete (markedHandle h mark) result s') m').state.nextId source := by
  obtain ⟨fault, htalk, -⟩ := complete_ended (connection_of_steady hbegun
    (hbegun.holder_lt hs) hsteady mark).2 result
  obtain ⟨fault', -, -, hdeals⟩ := deals_close mark hs hbegun hsteady htalk
  rw [close_state]
  exact hdeals.nextId source

end

/-- An execution leaves a hidden connection alone if its work does, and so does
the part of it between a suspension and its end. -/
theorem Execution.untouched {body : Plan σ ε α} {m : Diary σ}
      {run : Run (Diary σ) ε α}
    (hrun : c.Execution d body s m run) (hprompt : body.Prompt) (hs :
        s.BoundExist)
    (hkey : keys c.key)
    (hhidden : (c.setAside (c.course d s).suspended s).Hidden keys conn)
    (hnew : ¬ State.Created conn s run.state)
    (hbody : ∀ scope s', c.Entered d s scope s' → s'.Hidden keys conn →
      ¬ State.Created conn s' (body.run scope s' m).2.state →
      State.Untouched conn s' (body.run scope s' m).2.state) :
    ∃ s', State.Untouched conn (c.setAside (c.course d s).suspended s) s' ∧
      c.Resumable (c.course d s).suspended s' ∧
      run.state = c.resumed (c.course d s).suspended s' := by
  cases hrun with
  | refused hcourse =>
      rw [hcourse]
      exact ⟨s, .refl conn s, Or.inl rfl, rfl⟩
  | joinedCut _ hwork | aloneCut _ hwork | timedOut _ _ hwork
  | begunCut _ _ hwork =>
      exact (hprompt.run_ne_overdue hwork).elim
  | @joined id mark result s' m' hcourse hwork =>
      have hentered : c.Entered d s (.joining c { holder := some id }) _ :=
        .joining hcourse
      have hstate : (body.run (.joining c { holder := some id })
          (s.say (.participating d.name)) m).2.state = s' := by rw [hwork]
      have hduring := (hentered.leaves hs hkey hhidden hnew hstate
        (fun source => by split <;> exact Nat.le_refl _) (hbody _ _ hentered)).2
      rw [hcourse] at hhidden ⊢
      exact ⟨_, untouched_joined hprompt hs hcourse hkey hhidden
        hstate hduring _,
        Or.inl rfl, rfl⟩
  | @alone suspended scope result s' m' hcourse hwork =>
      have hentered : c.Entered d s (.without c) _ := .alone hcourse
      have hstate :
          (body.run (.without c) (c.setAside suspended s) m).2.state = s' := by
        rw [hwork]
      have hkeeps :=
        hprompt.run_keeps (.without c) m (hentered.steady.boundExist hs)
      rw [hstate] at hkeeps
      rw [conclude_state] at hnew ⊢
      have hduring := (hentered.leaves hs hkey hhidden hnew hstate
        (c.deals_resumed suspended s').nextId (hbody _ _ hentered)).2
      rw [hcourse]
      exact ⟨s', hduring, resumable_of_keeps hkeeps, rfl⟩
  | @notBegun suspended e h' s' hcourse hbegin =>
      have hlater := (c.deals_resumed suspended s').nextId
      rw [hcourse] at hhidden ⊢
      refine ⟨s', untouched_failing hkey hhidden (fun hcreated => hnew ?_)
        (failing_of_error rfl hbegin), resumable_of_error hbegin, rfl⟩
      exact hcreated.mono (fun _ => Nat.le_refl _) hlater
  | @begun suspended h s₁ mark result s' m' hcourse hbegin hwork =>
      have hentered : c.Entered d s (.beginning c h) s₁ := .begun hcourse hbegin
      have hstate : (body.run (.beginning c h) s₁ m).2.state = s' := by
        rw [hwork]
      have hexist := hentered.steady.boundExist hs
      have hsteady := body.run_steady (.beginning c h) m hexist
      have hkeeps := hprompt.run_keeps (.beginning c h) m hexist
      rw [hstate] at hsteady hkeeps
      obtain ⟨conn', id', hbegun'⟩ := begun_of_ok hbegin
      obtain ⟨hnew₁, hduring⟩ := hentered.leaves hs hkey hhidden hnew hstate
        (nextId_close hs hbegun' hsteady) (hbody _ _ hentered)
      rw [hcourse] at hhidden ⊢
      obtain ⟨other, id, hbegun, hne, hsource, hbefore⟩ :=
        untouched_begun hkey hhidden hnew₁ hbegin
      have hcleaned := untouched_cleanup mark result hbegun
        (hbegun.holder_lt hs) hne hsource hsteady
      rw [close_state]
      exact ⟨_, (hbefore.trans hduring).trans hcleaned,
        resumable_of_keeps (keeps_close hs hbegun hkeeps
          (sameHolders_complete _ result s') mark),
        rfl⟩

theorem Execution.untouched_whole {body : Plan σ ε α} {m : Diary σ}
    {run : Run (Diary σ) ε α} (hrun : c.Execution d body s m run)
    (hprompt : body.Prompt) (hs : s.BoundExist) (hkey : keys c.key)
    (hhidden : (c.setAside (c.course d s).suspended s).Hidden keys conn)
    (hnew : ¬ State.Created conn s run.state)
    (hbody : ∀ scope s', c.Entered d s scope s' → s'.Hidden keys conn →
      ¬ State.Created conn s' (body.run scope s' m).2.state →
      State.Untouched conn s' (body.run scope s' m).2.state) :
    State.Untouched conn s run.state := by
  obtain ⟨s', huntouched, -, hstate⟩ :=
    hrun.untouched hprompt hs hkey hhidden hnew hbody
  rw [hstate]
  exact ((c.untouched_setAside _ s).trans huntouched).trans
    (c.untouched_resumed _ s')

/-- Before its work, an execution leaves a hidden connection alone. -/
theorem Entered.untouched {scope : Scope} (hentered : c.Entered d s scope s')
    (hkey : keys c.key)
    (hhidden : (c.setAside (c.course d s).suspended s).Hidden keys conn)
    (hnew : ¬ State.Created conn s s') :
    State.Untouched conn (c.setAside (c.course d s).suspended s) s' := by
  cases hentered with
  | joining hcourse =>
      rw [hcourse]
      exact .say s _
  | alone hcourse =>
      rw [hcourse]
      exact .refl conn _
  | begun hcourse hbegin =>
      rw [hcourse] at hhidden ⊢
      obtain ⟨-, -, -, -, -, huntouched⟩ :=
        untouched_begun hkey hhidden hnew hbegin
      exact huntouched

theorem Entered.coordinator {scope : Scope}
    (hentered : c.Entered d s scope s') :
    scope.coordinator = c := by
  cases hentered <;> rfl

end Coordinator

/-- A scope that is asked for a connection makes no call but to create one. -/
theorem Scope.confined_connection (scope : Scope) (s : State) :
    State.Confined (fun made => State.Created made s (scope.connection s).2) s
      (scope.connection s).2 := by
  rw [Scope.connection, Source.getConnection]
  cases scope.coordinator.source.boundConnection s with
  | some conn => exact .refl s
  | none =>
      cases hcreate : s.create scope.coordinator.source.id with
      | mk outcome s' =>
          cases outcome with
          | error fault =>
              exact (State.Confined.refl s).create hcreate fun _ hok => by
                cases hok
          | ok conn =>
              refine ((State.Confined.refl s).create hcreate
                fun made hok => ?_).say _
              obtain rfl := Except.ok.inj hok
              exact (State.Deals.create hcreate (.fetched conn)
                rfl).1.new_of_fetched (List.mem_singleton_self _)

/-- A connection that was given by a scope is handed back to no other source
than its own. -/
theorem Scope.confined_release {scope : Scope} {given : List Connection}
    {s : State} {conn : Connection}
    (hgave : scope.coordinator.source.Gave given s) (hgiven : conn ∈ given) :
    State.Confined (· = conn) s (scope.release conn s).2 := by
  rw [Scope.release, Source.releaseConnection]
  cases htransactional : s.isTransactional
      scope.coordinator.source.key conn with
  | true => exact .refl s
  | false =>
      have hbound : scope.coordinator.source.boundConnection s = none := by
        cases hb : scope.coordinator.source.boundConnection s with
        | none => rfl
        | some b =>
            obtain rfl := hgave.bound conn hgiven b hb
            rw [Source.isTransactional_iff.mpr hb] at htransactional
            cases htransactional
      have hsource := (hgave.fresh conn hgiven hbound).1
      have hreleased : State.Confined (· = conn) s
          (s.release scope.coordinator.source.id conn).2 := by
        rw [← hsource]
        exact (State.Confined.refl s).release rfl
      simp only [Bool.false_eq_true, if_false]
      cases hresult : s.release scope.coordinator.source.id conn with
      | mk outcome s' =>
          rw [hresult] at hreleased
          cases outcome <;> exact hreleased

namespace Plan

variable {σ ε α : Type} {keys : Key → Prop} {conn : Connection}
variable {around given : List Connection} {scope : Scope} {s : State}
variable {m : Diary σ}

/-- What a scope has given after a step is what it may have given. -/
theorem Step.gave (step : Step σ) (m : Diary σ) (hs : s.BoundExist)
    (hgave : scope.coordinator.source.Gave given s) :
    scope.coordinator.source.Gave (step.lent given (step.take scope s m).answer)
      (step.take scope s m).state := by
  have hkeeps : State.Keeps (fun _ => False) s (step.take scope s m).state :=
    step.take_keeps scope s m
  have hsame := hkeeps.boundConnection hs scope.coordinator.source
  obtain ⟨deals, hdeals⟩ := step.take_dealt scope s m
  cases step with
  | connection => exact (Scope.balanced_connection hgave hsame).1
  | _ => exact hgave.later hsame hdeals

/-- A scope does not give a connection that is hidden and not new. -/
theorem not_handedOut (hkey : keys scope.coordinator.key)
    (hhidden : s.Hidden keys conn) (hnot : conn ∉ around ++ given)
    (hnew : ¬ State.Created conn s (scope.connection s).2) :
    conn ∉ around ++ handedOut given (scope.connection s).1 := by
  obtain ⟨haround, hgiven⟩ : conn ∉ around ∧ conn ∉ given := by simpa using hnot
  have hout : ∀ other, conn ≠ other → conn ∉ around ++ other :: given :=
    fun other hne => by simp [haround, hgiven, hne]
  rcases scope.connection_cases s with
      ⟨other, hbound, h⟩ | ⟨-, other, s', h, -, hdeals⟩ |
    ⟨e, s', h, -⟩ <;> rw [h] at hnew ⊢
  · refine hout other ?_
    rintro rfl
    obtain ⟨id, hid, hconn⟩ := Option.bind_eq_some_iff.mp hbound
    exact hhidden _ id hkey hid hconn
  · refine hout other ?_
    rintro rfl
    exact hnew (hdeals.new_of_fetched (List.mem_singleton_self _))
  · exact hnot

theorem Step.not_lent (step : Step σ) (m : Diary σ)
    (hkey : keys scope.coordinator.key) (hhidden : s.Hidden keys conn)
    (hnot : conn ∉ around ++ given)
    (hnew : ¬ State.Created conn s (step.take scope s m).state) :
    conn ∉ around ++ step.lent given (step.take scope s m).answer := by
  cases step with
  | connection => exact not_handedOut hkey hhidden hnot hnew
  | handBack | markRollbackOnly | call | setFault | rest | remember | look =>
      exact hnot

/-- A step that uses what scopes have given leaves a hidden connection alone. -/
theorem Step.untouched {step : Step σ} (m : Diary σ)
    (hallowed : (Discipline.handling keys).step around given scope s step)
    (hkey : keys scope.coordinator.key) (hforce : scope.InForce s)
    (hgave : scope.coordinator.source.Gave given s)
    (hhidden : s.Hidden keys conn) (hnot : conn ∉ around ++ given)
    (hnew : ¬ State.Created conn s (step.take scope s m).state) :
    State.Untouched conn s (step.take scope s m).state := by
  have hmarked : step = .markRollbackOnly →
      State.Untouched conn s (step.take scope s m).state := by
    rintro rfl
    simp only [Step.take]
    rcases scope.markRollbackOnly_cases s with
        ⟨e, -, h⟩ | ⟨id, hid, h⟩ <;> rw [h]
    · exact .refl conn s
    · exact .markedHolder (hhidden _ id hkey (hforce id hid).1)
  rcases step.take_cases scope s m with hmark | ⟨-, hsame, -⟩
  · exact hmarked hmark
  · refine .of_sameHolders ?_ hsame
    cases step with
    | markRollbackOnly => exact (hmarked rfl).heard
    | connection => exact (scope.confined_connection s).heard hnew
    | handBack other =>
        have hgiven : other ∈ given := hallowed
        refine (Scope.confined_release hgave hgiven).heard fun heq => hnot ?_
        rw [heq]
        exact List.mem_append_right around hgiven
    | call other request =>
        have havailable : other ∈ around ++ given := hallowed
        refine .callDirectly_other (fun heq => hnot ?_) s request
        rwa [← heq]
    | setFault source fault on => exact .setFault s source fault on
    | rest | remember | look => exact .of_drivers rfl rfl

/-- Work that uses what scopes have given makes no call on another
connection. -/
theorem Step.spares {step : Step σ}
    (hallowed : (Discipline.handling keys).step around given scope s step)
    (hnot : conn ∉ around ++ given) : step.Spares conn := by
  cases step with
  | call other request =>
      rintro rfl
      exact hnot hallowed
  | _ => trivial

/-- Work that leaves a hidden connection alone once it has been entered does so
also if the execution is taken into account that enters it. -/
theorem heeds_of_entered {plan : Plan σ ε α} {c : Coordinator} {d : Definition}
    {s' : State} (hentered : c.Entered d s scope s') (hkey : keys c.key)
    (haside : (c.setAside (c.course d s).suspended s).Hidden keys conn)
    (hknown : conn.id < s.nextId conn.source)
    (hplan : s'.Hidden keys conn → conn.id < s'.nextId conn.source →
      plan.Heeds (.sparing conn (State.Untouched conn s')) around given scope s'
        m) :
    plan.Heeds (.sparing conn (State.Untouched conn
      (c.setAside (c.course d s).suspended s))) around given scope s' m := by
  have hnew := State.not_created_of_known hknown s'
  have hbefore := hentered.untouched hkey haside hnew
  exact (hplan (hentered.hidden hkey haside hnew)
    (Nat.lt_of_lt_of_le hknown (hentered.nextId conn.source))).sparing_mono
    fun _ => hbefore.trans

/-- A run that uses what scopes give, and during which no deadline passes,
leaves a hidden connection alone that was not given by a scope around it.  One
that was there before the run is left alone all the time. -/
theorem Prompt.run_untouched {plan : Plan σ ε α} (hprompt : plan.Prompt)
    (hheeds : plan.Heeds (.handling keys) around given scope s m)
    (hs : s.BoundExist) (hkey : keys scope.coordinator.key)
    (hforce : scope.InForce s) (hgave : scope.coordinator.source.Gave given s)
    (hhidden : s.Hidden keys conn) (hnot : conn ∉ around ++ given)
    (hnew : ¬ State.Created conn s (plan.run scope s m).2.state) :
    State.Untouched conn s (plan.run scope s m).2.state ∧
      (conn.id < s.nextId conn.source →
        plan.Heeds (.sparing conn (State.Untouched conn s))
          around given scope s m) := by
  induction plan generalizing around given scope s m with
  | finish result => exact ⟨.refl conn s, fun _ => trivial⟩
  | pend outer => exact hprompt.elim
  | step first next ih =>
      have hkeeps :
          State.Keeps (fun _ => False) s (first.take scope s m).state :=
        first.take_keeps scope s m
      have hcoordinator := first.take_coordinator scope s m
      have hexist := hkeeps.boundExist hs
      have hafter := (next (first.take scope s m).answer).run_nextId
        (first.take scope s m).scope (first.take scope s m).diary hexist
      have hbefore := first.take_nextId scope s m
      have hnew₁ : ¬ State.Created conn s (first.take scope s m).state :=
        fun hcreated => hnew (hcreated.mono (fun _ => Nat.le_refl _) hafter)
      have hgave' := first.gave m hs hgave
      rw [← hcoordinator] at hgave'
      have hlater := first.inForce m hs hforce
      have hfirst :=
        Step.untouched m hheeds.1 hkey hforce hgave hhidden hnot hnew₁
      obtain ⟨hrest, hspared⟩ := ih _ (hprompt _) hheeds.2 hexist
        (by rwa [hcoordinator]) hlater
        hgave' (hhidden.later hkeeps hs)
          (first.not_lent m hkey hhidden hnot hnew₁)
        fun hcreated => hnew (hcreated.mono hbefore fun _ => Nat.le_refl _)
      exact ⟨hfirst.trans hrest, fun hknown =>
        ⟨⟨.refl conn s, Step.spares hheeds.1 hnot⟩,
        (hspared (Nat.lt_of_lt_of_le hknown (hbefore _))).sparing_mono
          fun _ => hfirst.trans⟩⟩
  | execute c d body next ihbody ihnext =>
      obtain ⟨hkeeps, result, hresult⟩ := c.execute_returns d m hprompt.1 hs
      have hexist := hkeeps.boundExist hs
      have hlater := hforce.kept hkeeps hs
      rw [run_execute_of_finished hresult] at hnew ⊢
      have hafter := (next result).run_nextId scope
        ((c.execute d body.run s m).memory.enter
          (.returned (c.course d s) (failed result)))
        hexist
      obtain ⟨deals, hdeals⟩ := c.execute_dealt d body m hs
      have hbody := fun scope' s' (hentered : c.Entered d s scope' s') =>
        ihbody (m := m) hprompt.1 (hheeds.2.1 scope' s' hentered)
          (hentered.steady.boundExist hs) (by
            rw [hentered.coordinator]; exact hheeds.1)
          hentered.inForce (.nil _ s')
      have haside :=
        Coordinator.hidden_setAside (c := c) hhidden (c.course d s).suspended
      have hinner := (c.execution d body s m).untouched_whole hprompt.1 hs
        hheeds.1 haside
        (fun hcreated => hnew (hcreated.mono (fun _ => Nat.le_refl _) hafter))
        fun scope' s' hentered hhidden' hnew' =>
          (hbody scope' s' hentered hhidden' (by simpa using hnot) hnew').1
      obtain ⟨hrest, hspared⟩ := ihnext result (hprompt.2 result)
        (hheeds.2.2 result hresult) hexist hkey hlater
        (hgave.later (hkeeps.boundConnection hs _) hdeals)
        (hhidden.later hkeeps hs) hnot
        fun hcreated =>
          hnew (hcreated.mono hdeals.nextId fun _ => Nat.le_refl _)
      refine ⟨hinner.trans hrest,
        fun hknown => ⟨.refl conn s, fun scope' s' hentered => ?_,
        fun result' hresult' => ?_⟩⟩
      · have hspared' := heeds_of_entered hentered hheeds.1 haside hknown
          fun hhidden' hknown' => (hbody scope' s' hentered hhidden'
            (by simpa using hnot) (State.not_created_of_known hknown' _)).2
            hknown'
        exact hspared'.sparing_mono fun _ => (c.untouched_setAside _ s).trans
      · obtain rfl : result = result' :=
          Ending.finished.inj (hresult.symm.trans hresult')
        exact (hspared
          (Nat.lt_of_lt_of_le hknown (hdeals.nextId _))).sparing_mono
          fun _ => hinner.trans

end Plan

end UnitOfWork
