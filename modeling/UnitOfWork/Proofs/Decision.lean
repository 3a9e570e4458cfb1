import UnitOfWork.Proofs.ExclusiveConnection
import UnitOfWork.Proofs.RollbackMarks

/-!
# Commit or rollback

An execution that has begun a transaction for its work ends it by one call, and
the diary of the work decides which.  The transaction is committed if the work
succeeded, nobody marked the transaction for rollback, and nothing that joined
it failed.  Otherwise it is rolled back.  The result tells the caller about it
where the work itself does not.

Holders that were bound by hand may share a connection, and one of them may be
bound under several keys.  Executions in the work may then end transactions of
their own on the connection, or join the transaction while it is suspended.
-/

namespace UnitOfWork

namespace Coordinator

variable {σ ε α : Type} {c : Coordinator} {d : Definition} {plan : Plan σ ε α}
variable {s s₁ : State} {suspended : Option HolderId} {h : Handle}
variable {id : HolderId}

/-- Whether the transaction of a holder is committed after work with this result
and these deeds. -/
def commitsAfter (id : HolderId) (result : Except (Failure ε) α)
    (deeds : List Deed) :
    Bool :=
  !Plan.failed result && !deeds.any (Deed.dooms id)

/-- The result of an execution after work with this result and these deeds,
where the last call may have failed. -/
def resultAfter (id : HolderId) (deeds : List Deed) (fault : Option Fault) :
    Except (Failure ε) α → Except (Failure ε) α
  | .error failure => .error failure
  | .ok value =>
      match fault with
      | some f =>
          .error (.transaction (.system
            (lastTask (commitsAfter id (.ok value : Except (Failure ε) α)
              deeds)) (.fault f)))
      | none =>
          if .marked id true ∈ deeds then .ok value
          else if deeds.any (Deed.dooms id) then
            .error (.transaction .unexpectedRollback)
          else .ok value

/-- A transaction is committed if the work succeeded, its own scope was not
marked, no scope that joined it was marked, and no execution that joined it
failed. -/
theorem commitsAfter_iff {result : Except (Failure ε) α} {deeds : List Deed} :
    commitsAfter id result deeds = true ↔
      (∃ value, result = .ok value) ∧ .marked id true ∉ deeds ∧
      .marked id false ∉ deeds ∧
        .returned (.joins id) true ∉ deeds := by
  have hdooms : deeds.any (Deed.dooms id) = true ↔ .marked id true ∈ deeds ∨
      .marked id false ∈ deeds ∨ .returned (.joins id) true ∈ deeds := by
    rw [List.any_eq_true]
    constructor
    · rintro ⟨deed, hdeed, hdoom⟩
      cases deed with
      | marked holder isNew =>
          obtain rfl : holder = id := by simpa [Deed.dooms] using hdoom
          cases isNew <;> simp [hdeed]
      | returned course failed =>
          cases course with
          | joins holder =>
              obtain ⟨rfl, rfl⟩ : holder = id ∧ failed = true := by
                simpa [Deed.dooms] using hdoom
              simp [hdeed]
          | _ => simp [Deed.dooms] at hdoom
      | fetched | abandoned => simp [Deed.dooms] at hdoom
    · rintro (hdeed | hdeed | hdeed) <;> exact ⟨_, hdeed, by simp [Deed.dooms]⟩
  rw [commitsAfter]
  cases result with
  | error failure => simp [Plan.failed]
  | ok value =>
      have hspared := not_congr hdooms
      rw [Bool.not_eq_true] at hspared
      rw [Bool.and_eq_true, Bool.not_eq_true', Bool.not_eq_true', hspared]
      simp [Plan.failed]

/-- The flags that decide are those that the diary tells of. -/
theorem commits_eq {s' : State} {h : Handle} {deeds : List Deed}
    (hholder : h.holder = some id)
    (hown : h.rollbackOnly = true ↔ .marked id true ∈ deeds)
    (hflag : (s'.holders id).rollbackOnly = deeds.any (Deed.dooms id))
    (result : Except (Failure ε) α) :
    commits h result s' = commitsAfter id result deeds := by
  rw [commits, commitsAfter, Handle.isHolderRollbackOnly]
  rw [hholder]
  simp only [hflag]
  cases hmarked : h.rollbackOnly with
  | false => simp
  | true =>
      have hany : deeds.any (Deed.dooms id) = true :=
        List.any_eq_true.mpr ⟨_, hown.mp hmarked, by simp [Deed.dooms]⟩
      simp [hany]

theorem lastResult_eq {s' : State} {h : Handle} {result : Except (Failure ε) α}
    {deeds : List Deed} (hholder : h.holder = some id)
    (hown : h.rollbackOnly = true ↔ .marked id true ∈ deeds)
    (hflag : (s'.holders id).rollbackOnly = deeds.any (Deed.dooms id))
    (fault : Option Fault) :
    lastResult h result s' fault = resultAfter id deeds fault result := by
  have hcommits := commits_eq hholder hown hflag result
  unfold resultAfter lastResult
  cases result with
  | error failure => cases fault <;> simp [Plan.failed]
  | ok value =>
      cases fault with
      | some f => simp [Plan.failed, hcommits]
      | none =>
          simp only [Plan.failed, Handle.isHolderRollbackOnly, hholder, hflag]
          cases hmarked : h.rollbackOnly with
          | true => simp [hown.mp hmarked]
          | false =>
              have hnot : .marked id true ∉ deeds := fun hdeed => by
                rw [← hown, hmarked] at hdeed
                cases hdeed
              simp [hnot]

/-! ## What is done elsewhere -/

/-- A run in which nothing was done to the transaction of a holder. -/
structure Apart (id : HolderId) (s : State) (m : Diary σ)
    (run : Run (Diary σ) ε α) :
    Prop where
  deeds : ∃ new, run.memory.deeds = m.deeds ++ new ∧
    ∀ deed ∈ new, deed.dooms id = false
  flag : (run.state.holders id).rollbackOnly = (s.holders id).rollbackOnly

/-- Work that is entered while a transaction is suspended does not run in it,
and does not find its holder if that is bound nowhere else. -/
theorem Entered.apart {scope : Scope} {s' : State}
    (hentered : c.Entered d s scope s') (hruns : s.Runs id)
    (hcourse : c.course d s = .runsAlone (some id) ∨
      c.course d s = .begins (some id))
    (honly : ∀ key, s.boundHolder key = some id → key = c.key) :
    scope.handle.bind Handle.holder ≠ some id ∧
    ∀ key, s'.boundHolder key ≠ some id := by
  have hnowhere : ∀ key, (c.setAside (some id) s).boundHolder key ≠
      some id := by
    intro key hkey
    rw [boundHolder_setAside] at hkey
    split at hkey
    · simp at hkey
    · next hne => exact hne ⟨rfl, honly key hkey⟩
  cases hentered with
  | joining h => rcases hcourse with hc | hc <;> simp [hc] at h
  | @alone suspended h =>
      obtain rfl : suspended = some id := by
        rcases hcourse with hc | hc <;> simp_all
      exact ⟨by simp [Scope.without], hnowhere⟩
  | @begun suspended h' s₁ h hbegin =>
      obtain rfl : suspended = some id := by
        rcases hcourse with hc | hc <;> simp_all
      obtain ⟨conn, other, hbegun⟩ := begun_of_ok hbegin
      have hne := (hbegun.spares hruns.exist hruns.active).1
      refine ⟨by simpa [Scope.beginning, hbegun.holder] using Ne.symm hne,
        fun key hkey => ?_⟩
      rw [hbegun.bound] at hkey
      split at hkey
      · exact hne (Option.some.inj hkey).symm
      · exact hnowhere key hkey

/-- While a transaction is suspended and its holder is bound nowhere else,
nothing is done to it. -/
theorem execute_apart (hprompt : plan.Prompt) (hs : s.BoundExist) (m : Diary σ)
    (hruns : s.Runs id)
    (hcourse : c.course d s = .runsAlone (some id) ∨
      c.course d s = .begins (some id))
    (honly : ∀ key, s.boundHolder key = some id → key = c.key) :
    Apart id s m (c.execute d plan.run s m) := by
  obtain ⟨result, hresult⟩ :=
    (execute_completes (c := c) (d := d) (s := s) (m := m) hprompt).1
  obtain ⟨new, hnew, hmarks⟩ := (c.execution d plan s m).marks hs hruns.exist
    hruns.active
    fun scope s' => hprompt.run_marks scope m
  have hspared : ∀ deed ∈ new, deed.dooms id = false := by
    rcases (c.execution d plan s m).memory with
        hsame | ⟨scope, s', hentered, hmemory⟩
    · rw [hsame] at hnew
      obtain rfl : new = [] := by simpa using hnew
      simp
    · obtain ⟨hscope, hunbound⟩ := hentered.apart hruns hcourse honly
      have hruns' := hruns.later hentered.steady
      obtain ⟨-, deeds, -, hdeeds, hwork⟩ := hprompt.run_marks scope m
        (hentered.steady.boundExist hs) hruns'.exist hruns'.active
      rw [hmemory, hdeeds] at hnew
      rw [← List.append_cancel_left hnew]
      exact hwork.apart hscope hunbound
  have hdooms :
      (Deed.returned (c.course d s) (Plan.failed result)).dooms id = false := by
    rcases hcourse with hc | hc <;> rw [hc] <;> rfl
  have hnone : new.any (Deed.dooms id) = false :=
    List.any_eq_false.mpr fun deed hdeed => by simp [hspared deed hdeed]
  refine ⟨⟨new, hnew, hspared⟩, ?_⟩
  rw [(hmarks result hresult).flag]
  simp [hnone, hdooms]

/-! ## The decision -/

section

variable {conn : Connection} {mark : Bool} {result : Except (Failure ε) α}
variable {s₂ : State} {m₂ : Diary σ} {new : List Deed}

/-- The transaction begins unmarked, unless a holder was reused that was marked
before. -/
theorem Begun.unmarked
    (hbegun : c.Begun (c.blank suspended s)
      (c.entrance d suspended s) conn id h s₁)
    (hunmarked : ∀ id, (c.blank suspended s).holder = some id →
      (s.holders id).rollbackOnly = false) :
    (s₁.holders id).rollbackOnly = false := by
  cases hflag : (s₁.holders id).rollbackOnly with
  | false => rfl
  | true =>
      obtain ⟨hfound, hbefore⟩ := hbegun.flag hflag
      simp [entrance, hunmarked id hfound] at hbefore

/-- After work that came to its end, the transaction is ended by the call on
which the deeds decide, and then cleaned up. -/
theorem execute_of_work (hprompt : plan.Prompt) (hs : s.BoundExist)
    (hcourse : c.course d s = .begins suspended)
    (hbegin : c.begin d (c.blank suspended s) (c.entrance d suspended s) =
      (.ok (), h, s₁))
    (hbegun : c.Begun (c.blank suspended s)
      (c.entrance d suspended s) conn id h s₁)
    (hwork : plan.run (.beginning c h) s₁ m =
      ((Scope.beginning c h).marked mark, ⟨.finished result, s₂, m₂⟩))
    (hown : (markedHandle h mark).rollbackOnly = true ↔ .marked id true ∈ new)
    (hflag : (s₂.holders id).rollbackOnly = new.any (Deed.dooms id)) :
    ∃ fault s₃, Talk conn
      [(lastCall (commitsAfter id result new), fault)] s₂ s₃ ∧
      c.execute d plan.run s m = ⟨.finished (resultAfter id new fault result),
        c.resumed suspended (c.cleanup (markedHandle h mark) s₃), m₂⟩ := by
  have hexist := hbegun.boundExist hs
  have hsteady := plan.run_steady (.beginning c h) m hexist
  have hkeeps := hprompt.run_keeps (.beginning c h) m hexist
  rw [hwork] at hsteady hkeeps
  have hholder : (markedHandle h mark).holder = some id := hbegun.holder
  obtain ⟨fault, htalk, hresult⟩ := complete_ended
    (connection_of_steady hbegun (hbegun.holder_lt hs) hsteady mark).2 result
  rw [commits_eq hholder hown hflag] at htalk
  rw [lastResult_eq hholder hown hflag] at hresult
  refine ⟨fault, _, htalk, ?_⟩
  rw [execute_of_ok hcourse hbegin, runBegun_of_finished hwork, close, hresult]
  exact conclude_of_resumable
    (resumable_of_keeps (keeps_close hs hbegun hkeeps htalk.sameHolders mark))
    _ _

/-- No other call ends a transaction on the connection, if no other bound holder
has it. -/
theorem Begun.ends_once {request : Call} {fault : Option Fault} {s₃ : State}
    (hprompt : plan.Prompt) (hs : s.BoundExist) (hheld : s.HeldKnown)
    (hbegun : c.Begun (c.blank suspended s)
      (c.entrance d suspended s) conn id h s₁)
    (hdeals : State.Deals (acquisition h.ownsHolder conn ++
      [.driver (.call conn .begin) none]) s s₁)
    (halone : h.ownsHolder = true ∨ s₁.Sole id conn)
    (hwork : (plan.run (.beginning c h) s₁ m).2.state = s₂)
    (hrequest : request = .commit ∨ request = .rollback)
    (htalk : Talk conn [(request, fault)] s₂ s₃) (mark : Bool) :
    ∃ notes,
      (c.resumed suspended (c.cleanup (markedHandle h mark) s₃)).journal =
        s.journal ++ notes ∧
      notes.filter (Note.ends conn) = [.driver (.call conn request) fault] := by
  have hexist := hbegun.boundExist hs
  have hruns : s₁.Runs id := ⟨hbegun.holder_lt hs, hbegun.stage⟩
  have hnew : h.ownsHolder = true →
      s.nextId conn.source ≤ conn.id ∧ conn.id < s₁.nextId conn.source :=
    fun howns => hdeals.new_of_acquired (by simp [acquisition, howns])
  have hsole : s₁.Sole id conn := halone.elim
    (fun howns => hbegun.sole_of_new hheld (hnew howns).1) fun hsole => hsole
  have hknown : conn.id < s₁.nextId conn.source := by
    cases hbegun.origin with
    | reused _ _ _ hconn =>
        rw [entrance, State.holders_say, holders_setAside] at hconn
        exact Nat.lt_of_lt_of_le (hheld id conn hconn)
          (hdeals.nextId conn.source)
    | created _ howns _ => exact (hnew howns).2
  have hends : State.EndsNone conn s s₂ := .before (opening_ends _ conn conn)
    hdeals
    (hwork ▸ hprompt.run_endsNone (.beginning c h) m hexist hknown hruns hsole)
  have hsteady := plan.run_steady (.beginning c h) m hexist
  rw [hwork] at hsteady
  have hconn := (connection_of_steady hbegun hruns.exist hsteady mark).1
  rw [← htalk.sameHolders.holders] at hconn
  obtain ⟨fault', -, hcleaned⟩ :=
    deals_cleanup (c := c) (h := markedHandle h mark) hbegun.holder hconn
  exact ends_of_closing hends hrequest
    ((htalk.deals.trans hcleaned).andThen (c.deals_resumed suspended _))

end

/-- The end of a transaction, with what its work came to and what was done in
it. -/
structure Verdict (ε α : Type) where
  holder : HolderId
  connection : Connection
  result : Except (Failure ε) α
  deeds : List Deed
  request : Call
  fault : Option Fault

/-- An execution ends the transaction that it has begun for its work. -/
structure Decides (c : Coordinator) (d : Definition) (plan : Plan σ ε α)
    (s : State) (m : Diary σ) (suspended : Option HolderId) (h : Handle)
    (s₁ : State) (v : Verdict ε α) : Prop where
  holder : h.holder = some v.holder
  connection : (s₁.holders v.holder).connection = some v.connection
  finished : (plan.run (.beginning c h) s₁ m).2.ending = .finished v.result
  deeds : (plan.run (.beginning c h) s₁ m).2.memory.deeds = m.deeds ++ v.deeds
  request : v.request = .commit ∨ v.request = .rollback
  commits : v.request = .commit ↔
    (∃ value, v.result = .ok value) ∧ .marked v.holder true ∉ v.deeds ∧
      .marked v.holder false ∉ v.deeds ∧
      .returned (.joins v.holder) true ∉ v.deeds
  /-- The call is made after the work, and then the transaction is cleaned
  up. -/
  ended : ∃ mark s₂,
    Talk v.connection [(v.request, v.fault)]
      (plan.run (.beginning c h) s₁ m).2.state s₂ ∧
      (c.execute d plan.run s m).state =
        c.resumed suspended (c.cleanup (markedHandle h mark) s₂)
  result : (c.execute d plan.run s m).ending =
    .finished (resultAfter v.holder v.deeds v.fault v.result)
  /-- No other call of the whole execution ends a transaction on the connection,
  if the beginning has made the holder or no other bound holder has the
  connection. -/
  once : h.ownsHolder = true ∨ s₁.Sole v.holder v.connection →
    ∃ notes, (c.execute d plan.run s m).state.journal = s.journal ++ notes ∧
      notes.filter (Note.ends v.connection) =
        [.driver (.call v.connection v.request) v.fault]
  /-- What is done while the transaction is suspended does not count, if its
  holder is bound under no other key. -/
  apart : ∀ (c' : Coordinator) (d' : Definition) (inner : Plan σ ε α)
    (s' : State) (m' : Diary σ),
    inner.Prompt → s'.BoundExist → s'.Runs v.holder →
    c'.course d' s' = .runsAlone (some v.holder) ∨
      c'.course d' s' = .begins (some v.holder) →
    (∀ key, s'.boundHolder key = some v.holder → key = c'.key) →
    Apart v.holder s' m' (c'.execute d' inner.run s' m')

/-- An execution that has begun a transaction for its work ends it by a commit
if and only if the work succeeded, the scope of the work was not marked for
rollback, no scope that joined was marked, and no execution that joined failed;
otherwise it ends it by a rollback. -/
theorem execute_commits_iff (c : Coordinator) (d : Definition)
    (plan : Plan σ ε α) (s : State) (m : Diary σ) (hprompt : plan.Prompt)
    (hs : s.BoundExist) (hheld : s.HeldKnown)
    (hcourse : c.course d s = .begins suspended)
    (hbegin : c.begin d (c.blank suspended s) (c.entrance d suspended s) =
      (.ok (), h, s₁))
    (hunmarked : ∀ id, (c.blank suspended s).holder = some id →
      (s.holders id).rollbackOnly = false) :
    ∃ v, Decides c d plan s m suspended h s₁ v := by
  obtain ⟨conn, id, hbegun, hdeals, -⟩ := deals_of_ok rfl hbegin
  have hbefore := (c.deals_entrance d suspended s).trans hdeals
  have hruns : s₁.Runs id := ⟨hbegun.holder_lt hs, hbegun.stage⟩
  have hexist := hbegun.boundExist hs
  obtain ⟨result, new, hending, hdeeds, hmarks⟩ :=
    hprompt.run_marks (.beginning c h) m hexist hruns.exist hruns.active
  obtain ⟨mark, hscope, hown⟩ := hmarks.own
  have hwork : plan.run (.beginning c h) s₁ m =
      ((Scope.beginning c h).marked mark,
      ⟨.finished result, (plan.run (.beginning c h) s₁ m).2.state,
        (plan.run (.beginning c h) s₁ m).2.memory⟩) := by
    rw [← hscope, ← hending]
  have hflag :
      ((plan.run (.beginning c h) s₁ m).2.state.holders id).rollbackOnly =
      new.any (Deed.dooms id) := by
    rw [hmarks.flag, hbegun.unmarked hunmarked, Bool.false_or]
  have hlocal : (markedHandle h mark).rollbackOnly = true ↔
      .marked id true ∈ new := by
    have hfresh : h.rollbackOnly = false := hbegun.rollbackOnly
    simp [hown, markedHandle, hfresh, Scope.beginning, hbegun.holder]
  obtain ⟨fault, s₃, htalk, hexecute⟩ :=
    execute_of_work hprompt hs hcourse hbegin hbegun hwork hlocal hflag
  refine ⟨⟨id, conn, result, new, lastCall (commitsAfter id result new),
    fault⟩, {
    holder := hbegun.holder
    connection := hbegun.connection
    finished := hending
    deeds := hdeeds
    request := lastCall_cases _
    commits := ?_
    ended := ⟨mark, s₃, htalk, by rw [hexecute]⟩
    result := by rw [hexecute]
    once := fun halone => ?_
    apart := fun c' d' inner s' m' hinner hs' hruns' hsuspends honly =>
      execute_apart hinner hs' m' hruns' hsuspends honly }⟩
  · rw [← commitsAfter_iff]
    cases commitsAfter id result new <;> simp [lastCall]
  · rw [hexecute]
    exact hbegun.ends_once hprompt hs hheld hbefore halone rfl
      (lastCall_cases _) htalk mark

/-- Work that succeeds although an execution that joined it has failed: its
transaction is rolled back. -/
theorem execute_rolls_back_failed_participant :
    let c : Coordinator := { source := ⟨0, ⟨"db"⟩⟩ }
    let plan : Plan Unit Unit Unit :=
      .execute c {} (.finish (.error (.own ()))) fun _ => .finish (.ok ())
    ∃ h s₁ fault, c.begin {} (c.blank none {}) (c.entrance {} none {}) =
      (.ok (), h, s₁) ∧
      (c.execute {} plan.run {} ⟨(), []⟩).state.journal.filter
        (Note.ends ⟨0, 1⟩) = [.driver (.call ⟨0, 1⟩ .rollback) fault] := by
  intro c plan
  have hbegin : c.begin {} (c.blank none {}) (c.entrance {} none {}) =
      (.ok (), (c.begin {} (c.blank none {}) (c.entrance {} none {})).2) := rfl
  obtain ⟨v, hv⟩ := execute_commits_iff c {} plan {} ⟨(), []⟩
    ⟨trivial, fun _ => trivial⟩ (fun key id h => by cases h)
    (fun id conn h => by cases h) rfl hbegin (fun id h => by cases h)
  have hholder : 0 = v.holder := Option.some.inj hv.holder
  have hconn : ⟨0, 1⟩ = v.connection := by
    have hheld := hv.connection
    rw [← hholder] at hheld
    exact Option.some.inj hheld
  have hdeeds : v.deeds = [.returned (.joins 0) true] :=
    (List.nil_append _).symm.trans (hv.deeds.symm.trans (by decide +kernel))
  have hrequest : v.request = .rollback := by
    refine hv.request.resolve_left fun hcommit =>
      (hv.commits.mp hcommit).2.2.2 ?_
    rw [← hholder, hdeeds]
    exact List.mem_singleton_self _
  obtain ⟨notes, hnotes, hends⟩ := hv.once (Or.inl rfl)
  refine ⟨_, _, v.fault, hbegin, ?_⟩
  rw [hnotes, hconn, ← hrequest]
  exact hends

/-- Two holders that were bound by hand.  If they share a connection, an
execution in the work commits a transaction of its own on it, although the work
fails and the transaction around it is rolled back.  If one of them is bound
under both keys, an execution inside of a suspension joins the suspended
transaction, and its failure dooms that although it was passed over. -/
theorem shared_holders_disturb_decision :
    let c : Coordinator := { source := ⟨0, ⟨"db"⟩⟩ }
    let second : Coordinator := { source := ⟨1, ⟨"store"⟩⟩ }
    let conn : Connection := ⟨0, 1⟩
    let bound (id : HolderId) : State :=
      { drivers := fun _ => { nextId := 2 }
        holders := fun id => if id < 2 then .of conn else .finished,
        nextHolder := 2
        context := (Bindings.empty.insert ⟨"db"⟩ 0).insert ⟨"store"⟩ id }
    let failing : Plan Unit Unit Unit :=
      .execute second {} (.finish (.ok ())) fun _ => .finish (.error (.own ()))
    let passing (result : Except (Failure Unit) Unit) : Plan Unit Unit Unit :=
      .execute c { propagation := .requiresNew }
        (.execute second {} (.finish result) fun _ => .finish (.ok ())) fun _ =>
          .finish (.ok ())
    let ends (id : HolderId) (plan : Plan Unit Unit Unit) : List Note :=
      (c.execute {} plan.run (bound id) ⟨(), []⟩).state.journal.filter
        (Note.ends conn)
    (failing.Prompt ∧ ∀ result, (passing result).Prompt) ∧
      (∀ id < 2, (bound id).BoundExist ∧ (bound id).HeldKnown ∧
        ((bound id).holders 0).rollbackOnly = false ∧
        c.course {} (bound id) = .begins none ∧
        (c.begin {} (c.blank none (bound id))
          (c.entrance {} none (bound id))).1 = .ok ()) ∧
      ends 1 failing =
        [.driver (.call conn .commit) none,
          .driver (.call conn .rollback) none] ∧
      ends 0 (passing (.error (.own ()))) =
        [.driver (.call conn .rollback) none] ∧
      ends 0 (passing (.ok ())) = [.driver (.call conn .commit) none] := by
  intro c second conn bound failing passing ends
  refine ⟨⟨⟨trivial, fun _ => trivial⟩, fun _ => ⟨⟨trivial, fun _ => trivial⟩,
    fun _ => trivial⟩⟩, fun id hid =>
      ⟨fun key other hkey => ?_, fun other held hheld => ?_,
    rfl, rfl, rfl⟩, ?_, ?_, ?_⟩
  · rw [State.boundHolder, Bindings.get?_insert, Bindings.get?_insert] at hkey
    split at hkey
    · obtain rfl := Option.some.inj hkey
      exact hid
    · split at hkey
      · obtain rfl := Option.some.inj hkey
        exact Nat.two_pos
      · simp at hkey
  · simp only [bound] at hheld
    split at hheld
    · obtain rfl := Option.some.inj hheld
      exact Nat.one_lt_two
    · cases hheld
  · decide +kernel
  · decide +kernel
  · decide +kernel

end Coordinator

end UnitOfWork
