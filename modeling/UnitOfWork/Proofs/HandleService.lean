import UnitOfWork.Proofs.ConnectionKeepers

/-!
# What the operations do to their handles

Every operation of a coordinator serves the handle that it is given, as
`Coordinator.Serves` says: it moves connections in order, leaves the
transactions of other handles alone, and leaves its own handle sound.  A
beginning that fails and a clean-up are the only ones that hand a connection
back.
-/

namespace UnitOfWork.Coordinator

variable {c : Coordinator} {d : Definition} {h h' : Handle} {s s' : State}

/-! ## Looking for a transaction, and ending one -/

/-- A handle that was only found neither owns its holder nor has begun on it. -/
theorem serves_discover (h : Handle) (hs : s.BoundExist) :
    c.Serves h (c.discover s) s s := by
  have howns : ∀ id, ¬(c.discover s).Owns id :=
    fun id howns => Bool.false_ne_true howns.2
  have hborrows : ∀ id, ¬(c.discover s).Borrows id := fun id hborrows =>
    Bool.false_ne_true hborrows.2.2
  apply Serves.of_still (State.SameHolders.refl s).still
    (.of_nothing (.refl s)) fun h => h
  · exact ⟨fun id hid => hs c.key id hid, fun id h => absurd h (howns id),
      fun id h => absurd h (hborrows id)⟩
  · exact fun id h => absurd h (howns id)
  · exact fun id h => absurd h (hborrows id)

theorem still_unbind (s : State) (key : Key) :
    State.Still s (s.unbind key).2 where
  nextHolder := s.nextHolder_unbind key
  stage id := by rw [s.holders_unbind key]
  connection id := by rw [s.holders_unbind key]

theorem boundExist_unbind (key : Key) (hs : s.BoundExist) :
    (s.unbind key).2.BoundExist := by
  intro other id hid
  rw [s.boundHolder_unbind] at hid
  split at hid
  · cases hid
  · rw [s.nextHolder_unbind]
    exact hs other id hid

/-- A handle whose holder was taken from it has nothing left to do. -/
theorem serves_unbind (h : Handle) (hholder : h'.holder = none) (key : Key) :
    c.Serves h h' s (s.unbind key).2 := by
  apply Serves.of_still (still_unbind s key) (.of_nothing (.unbind s key))
    (boundExist_unbind key) (h'.sound_of_free hholder _)
  · exact fun id howns => absurd howns (Handle.not_owns_of_free hholder id)
  · exact fun id hborrows =>
      absurd hborrows (Handle.not_borrows_of_free hholder id)

/-- An operation that is given no handle and leaves none. -/
theorem serves_nothing (hstill : State.Still s s')
    (hdeals : State.Deals [] s s') (hexist : s.BoundExist → s'.BoundExist) :
    c.Serves {} {} s s' :=
  .of_still hstill (.of_nothing hdeals) hexist (Handle.sound_of_free rfl _)
    (fun _ h => h)
    fun _ h => h

theorem bind_eq_ok {key : Key} {id : HolderId}
    (hbind : s.bind key id = .ok s') :
    s' = { s with context := s.context.insert key id }.say (.bound key) := by
  cases hfree : s.boundHolder key with
  | some other =>
      rw [s.bind_of_taken hfree] at hbind
      cases hbind
  | none =>
      rw [s.bind_of_free hfree] at hbind
      exact (Except.ok.inj hbind).symm

theorem serves_bind {key : Key} {id : HolderId} (hid : id < s.nextHolder)
    (hbind : s.bind key id = .ok s') : c.Serves {} {} s s' := by
  have hdeals := State.Deals.bind hbind
  have hstate := bind_eq_ok hbind
  have hstill : State.Still s s' := by
    rw [hstate]
    exact ⟨rfl, fun _ => rfl, fun _ => rfl⟩
  apply serves_nothing hstill hdeals
  intro hs other k hk
  rw [hstate, State.boundHolder_say, State.boundHolder,
    Bindings.get?_insert] at hk
  rw [hstill.nextHolder]
  split at hk
  · obtain rfl := Option.some.inj hk
    exact hid
  · exact hs other k hk

/-- The end of a transaction is a matter between the handle and the driver. -/
theorem serves_finish (hsound : h.Sound c s.toWorld) (task : String)
    (request : Call) (hcontrol : request.isControl = true)
    (announcement : Connection → Line)
    (hline : ∀ conn, (announcement conn).made? = none) :
    c.Serves h h s (finish task request announcement h s).2 := by
  have hsame := sameHolders_finish task request announcement h s
  cases hconn : h.connection s with
  | error reason =>
      rw [finish, hconn]
      exact .of_sameHolders (.refl s) (.refl s) hsound
  | ok conn =>
      obtain ⟨fault, htalk, -⟩ :=
        finish_ended hconn task request hcontrol announcement (hline conn)
      apply Serves.of_still hsame.still (State.Returned.of_none htalk.deals ?_)
      · intro hs key id hid
        rw [hsame.bound] at hid
        rw [hsame.nextHolder]
        exact hs key id hid
      · exact hsound
      · exact fun _ h => h
      · exact fun _ h => h
      · intro n hn other
        obtain ⟨call, -, rfl⟩ := List.mem_map.mp hn
        rfl

theorem still_markedHolder (s : State) (id : HolderId) :
    State.Still s (s.markedHolder id) where
  nextHolder := rfl
  stage other := by
    rw [State.markedHolder]
    by_cases h : other = id <;> simp [h, Holder.markRollbackOnly]
  connection other := by
    rw [State.markedHolder]
    by_cases h : other = id <;> simp [h, Holder.markRollbackOnly]

theorem serves_markRollbackOnly (hsound : h.Sound c s.toWorld) :
    c.Serves h (markRollbackOnly h s).2.1 s (markRollbackOnly h s).2.2 := by
  cases hholder : h.holder with
  | none =>
      simp only [markRollbackOnly, hholder]
      exact .of_sameHolders (.refl s) (.refl s) hsound
  | some id =>
      have hmarked : (markRollbackOnly h s).2 =
          ({ h with rollbackOnly := true }, s.markedHolder id) := by
        simp only [markRollbackOnly, hholder]
        rfl
      rw [hmarked]
      exact .of_still (still_markedHolder s id)
        (.of_nothing (s.deals_markedHolder id))
        (fun hs => hs) ⟨hsound.exist, hsound.owned, hsound.borrowed⟩
        (fun _ h => h) fun _ h => h

/-! ## Beginnings -/

variable {conn : Connection} {id other : HolderId} {owns : Bool}

theorem returned_of_restitution (front : List Note) {fault : Option Fault}
    (hfault : ReleaseOutcome fault)
    (hsource : owns = true → conn.source = c.source.id)
    (hfront : ∀ n ∈ front, ∀ k, n.returns k = false)
    (hdeals : State.Deals (front ++ c.restitution owns conn fault) s s') :
    State.Returned (if owns then some conn else none) s s' := by
  have hnone : ∀ k, front.countP (Note.returns k) = 0 := fun k =>
    List.countP_eq_zero.mpr fun n hn => by
      rw [hfront n hn k]
      exact Bool.false_ne_true
  cases howns : owns with
  | false =>
      rw [howns, restitution, if_neg Bool.false_ne_true,
        List.append_nil] at hdeals
      exact .of_none hdeals hfront
  | true =>
      rw [howns, restitution, if_pos rfl] at hdeals
      rw [if_pos rfl]
      apply State.Returned.of_deals hdeals
      · intro n hn
        rcases List.mem_append.mp hn with hn | hn
        · exact Note.proper_of_not_returns (hfront n hn)
        · intro source k f heq
          rw [List.mem_singleton.mp hn] at heq
          obtain ⟨⟨rfl, rfl⟩, rfl⟩ : (c.source.id = source ∧ conn = k) ∧
              fault = f := by
            simpa using heq
          exact ⟨(hsource howns).symm, hfault⟩
      · intro k
        rw [List.countP_append, hnone, Nat.zero_add, List.countP_singleton]
        simp [Note.returns]

/-- What is left of the holder of a beginning: it is active if the beginning has
succeeded; otherwise it is finished if it was made for the beginning, and
released if not. -/
inductive Left (s' : State) (conn : Connection) (id : HolderId) :
    Bool → Option Connection → Prop
  | kept {owns : Bool} (hconn : (s'.holders id).connection = some conn)
      (hstage : (s'.holders id).stage ≠ .completed) : Left s' conn id owns none
  | finished (hholder : s'.holders id = .finished) :
      Left s' conn id true (some conn)

theorem nextHolder_of_origin (horigin : Origin h s conn id owns s') :
    s.nextHolder ≤ s'.nextHolder := by
  cases horigin with
  | reused hholder howns hstage hconn hnext => exact Nat.le_of_eq hnext.symm
  | created hid howns hnext =>
      rw [hnext]
      exact Nat.le_succ _

theorem lt_of_origin (hsound : h.Sound c s.toWorld)
    (horigin : Origin h s conn id owns s') :
    id < s'.nextHolder := by
  cases horigin with
  | reused hholder howns hstage hconn hnext =>
      rw [hnext]
      exact hsound.exist id hholder
  | created hid howns hnext =>
      rw [hid, hnext]
      exact Nat.lt_succ_self _

/-- The holder of a beginning had its connection before, or both are new. -/
theorem held_of_origin (horigin : Origin h s conn id owns s')
    (hcreated : owns = true → State.Created conn s s') :
    (s.holders id).connection = some conn ∨ id = s.nextHolder ∧
    State.Created conn s s' := by
  cases horigin with
  | reused hholder howns hstage hconn hnext => exact Or.inl hconn
  | created hid howns hnext => exact Or.inr ⟨hid, hcreated howns⟩

/-- A holder that was there is begun on only if it was unclaimed. -/
theorem unbound_of_origin (horigin : Origin h s conn id owns s')
    (hid : id < s.nextHolder) : (s.holders id).stage = .unbound := by
  cases horigin with
  | reused hholder howns hstage hconn hnext => exact hstage
  | created heq howns hnext =>
      exact absurd hid (by rw [heq]; exact Nat.lt_irrefl _)

/-- A beginning moves the connection of its holder, and no other. -/
theorem moves_of_origin {returned : Option Connection} (hs : s.Orderly)
    (horigin : Origin h s conn id owns s')
    (hothers : ∀ other, other ≠ id → s'.holders other = s.holders other)
    (hcreated : owns = true → State.Created conn s s')
    (hreturned : State.Returned returned s s')
    (hleft : Left s' conn id owns returned) :
    State.Moves s s' where
  nextHolder := nextHolder_of_origin horigin
  held other k hconn := by
    by_cases heq : other = id
    · cases hleft with
      | kept hkept hstage =>
          rw [heq, hkept] at hconn
          obtain rfl := Option.some.inj hconn
          rw [heq]
          exact held_of_origin horigin hcreated
      | finished hholder =>
          rw [heq, hholder] at hconn
          cases hconn
    · rw [hothers other heq] at hconn
      exact Or.inl hconn
  given := by
    refine ⟨returned, hreturned, fun k hk => ?_⟩
    cases hleft with
    | kept hkept hstage => cases hk
    | finished hholder =>
        obtain rfl := Option.some.inj hk
        refine ⟨fun other hconn => ?_, Or.inr (hcreated rfl)⟩
        by_cases heq : other = id
        · rw [heq, hholder] at hconn
          cases hconn
        · rw [hothers other heq] at hconn
          exact Nat.not_lt.mpr (hcreated rfl).1 (hs.known other _ hconn)
  stays other hother hstage := by
    by_cases heq : other = id
    · rw [heq] at hother hstage
      rw [unbound_of_origin horigin hother] at hstage
      cases hstage
    · rwa [hothers other heq]
  completed other hstage := by
    by_cases heq : other = id
    · cases hleft with
      | kept hkept hnot =>
          rw [heq] at hstage
          exact absurd hstage hnot
      | finished hholder =>
          rw [heq, hholder]
          exact Or.inl rfl
    · rw [hothers other heq] at hstage ⊢
      exact Or.inr ⟨hstage, rfl⟩

/-- What a beginning does to its handle: the handle owns the holder that was
made, or has begun on the one that it had. -/
theorem serves_of_origin {returned : Option Connection} (hs : s.Orderly)
    (hsound : h.Sound c s.toWorld) (horigin : Origin h s conn id owns s')
    (hothers : ∀ other, other ≠ id → s'.holders other = s.holders other)
    (hexist : s.BoundExist → s'.BoundExist)
    (hcreated : owns = true → State.Created conn s s')
    (hreturned : State.Returned returned s s')
    (hleft : Left s' conn id owns returned) (hsound' : h'.Sound c s'.toWorld)
    (hholder : ∀ other, h'.holder = some other →
      other = id ∧ h'.ownsHolder = owns) :
    c.Serves h h' s s' where
  moves := moves_of_origin hs horigin hothers hcreated hreturned hleft
  exist := hexist
  active other hother _ _ hactive := by
    have hne : other ≠ id := by
      rintro rfl
      rw [unbound_of_origin horigin hother] at hactive
      cases hactive
    rw [hothers other hne]
    exact ⟨hactive, rfl⟩
  unfinished other hother hnot hstage := by
    by_cases heq : other = id
    · cases hleft with
      | kept hkept hunfinished => rwa [heq]
      | finished hfinished =>
          rw [heq] at hother hnot
          cases horigin with
          | reused hreused howned hunbound hconn hnext =>
              exact absurd ⟨hreused, howned.symm⟩ hnot
          | created hid howned hnext =>
              exact absurd hother (by rw [hid]; exact Nat.lt_irrefl _)
    · rwa [hothers other heq]
  sound := hsound'
  owns other howned := by
    obtain ⟨rfl, howns⟩ := hholder other howned.1
    cases horigin with
    | reused hreused hsame hunbound hconn hnext =>
        exact Or.inl ⟨hreused, by rw [← hsame, ← howns, howned.2]⟩
    | created hid hsame hnext => exact Or.inr (Nat.le_of_eq hid.symm)
  borrows other hborrows := by
    obtain ⟨rfl, howns⟩ := hholder other hborrows.1
    cases horigin with
    | reused hreused hsame hunbound hconn hnext =>
        exact Or.inr ⟨hsound.exist other hreused, hunbound⟩
    | created hid hsame hnext =>
        rw [← howns, hborrows.2.1] at hsame
        cases hsame

/-- A holder that a beginning has made has a new connection. -/
theorem created_of_acquisition {rest : List Note}
    (hdeals : State.Deals (acquisition owns conn ++ rest) s s')
    (howns : owns = true) :
    State.Created conn s s' := by
  rw [acquisition, howns, if_pos rfl] at hdeals
  exact hdeals.new_of_acquired
    (List.mem_append_left _ (List.mem_singleton_self _))

theorem not_returns_of_acquisition (calls : List (Call × Option Fault))
    {n : Note} (hn : n ∈ acquisition owns conn ++ callsOn conn calls)
    (k : Connection) :
    n.returns k = false := by
  rcases List.mem_append.mp hn with hn | hn
  · unfold acquisition at hn
    split at hn
    · rw [List.mem_singleton.mp hn]
      rfl
    · cases hn
  · obtain ⟨call, -, rfl⟩ := List.mem_map.mp hn
    rfl

/-- A beginning that is abandoned, from the point where it had got a
connection. -/
theorem serves_abandon {h₁ h₂ : Handle} {s₁ s₂ s₃ : State} {driverBegan : Bool}
    {calls : List (Call × Option Fault)} (hs : s.Orderly)
    (hsound : h.Sound c s.toWorld) (hobtained : c.Obtained h s conn id h₁ s₁)
    (hsame : h₁.SameAttempt h₂) (htalk : Talk conn calls s₁ s₂)
    (hactive : s₃ = s₂ ∨
      h₂.ownsHolder = true ∧ s₃ = s₂.setHolder id (c.activeHolder d s₂ id)) :
    c.Serves h (c.abandon driverBegan conn h₂ s₃).1 s
      (c.abandon driverBegan conn h₂ s₃).2 := by
  have horigin := abandoned_origin driverBegan hobtained hsame htalk hactive
  obtain ⟨hbound, hothers, hleft⟩ :=
    abandoned_cases driverBegan hobtained hsame htalk hactive
  obtain ⟨hsource, calls', fault, hfault, -, hdeals⟩ :=
    deals_abandoned driverBegan hsound.not_owns_of_unbound hobtained hsame
      htalk hactive
  obtain ⟨hgone, hkept⟩ := c.abandon_fst driverBegan conn h₂ s₃
  have hexist : s.BoundExist →
      (c.abandon driverBegan conn h₂ s₃).2.BoundExist := by
    intro hs key other hother
    rw [hbound] at hother
    exact Nat.lt_of_lt_of_le (hs key other hother)
      (nextHolder_of_origin horigin)
  have hcreated : h₂.ownsHolder = true →
      State.Created conn s (c.abandon driverBegan conn h₂ s₃).2 := by
    rw [List.append_assoc] at hdeals
    exact created_of_acquisition hdeals
  have hreturned := returned_of_restitution _ hfault hsource
    (fun n hn k => not_returns_of_acquisition _ hn k) hdeals
  apply serves_of_origin hs hsound horigin hothers hexist hcreated hreturned
  · rcases hleft with ⟨howns, hfinished⟩ | ⟨howns, hreleased⟩
    · rw [howns]
      exact .finished hfinished
    · rw [howns] at horigin ⊢
      cases horigin with
      | reused hholder hsame' hunbound hconn hnext =>
          have hunclaimed :
              ((c.abandon driverBegan conn h₂ s₃).2.holders id).stage =
                .unbound := by
            rw [hreleased]
            rfl
          exact .kept (by rw [hreleased]; exact hconn) (by simp [hunclaimed])
      | created hid htrue hnext => cases htrue
  · rcases hleft with ⟨howns, -⟩ | ⟨howns, hreleased⟩
    · exact Handle.sound_of_free (hgone howns) _
    · have hattempt := hsame.trans (hkept howns)
      have hid : (c.abandon driverBegan conn h₂ s₃).1.holder = some id :=
        hattempt.holder.trans hobtained.claimed.1
      have hno : (c.abandon driverBegan conn h₂ s₃).1.ownsHolder = false :=
        (hkept howns).ownsHolder.trans howns
      refine ⟨fun other hother => ?_, fun other howned => ?_,
        fun other hborrows => ?_⟩
      · obtain rfl := Option.some.inj (hid.symm.trans hother)
        exact lt_of_origin hsound horigin
      · rw [howned.2] at hno
        cases hno
      · obtain rfl := Option.some.inj (hid.symm.trans hborrows.1)
        simp [hreleased, Holder.release]
  · intro other hother
    rcases hleft with ⟨howns, -⟩ | ⟨howns, -⟩
    · rw [hgone howns] at hother
      cases hother
    · have hattempt := hsame.trans (hkept howns)
      rw [hattempt.holder, hobtained.claimed.1] at hother
      exact ⟨(Option.some.inj hother).symm, (hkept howns).ownsHolder⟩

/-- A beginning that succeeds. -/
theorem serves_begun {h₁ h₂ : Handle} {s₁ s₂ : State} (hs : s.Orderly)
    (hsound : h.Sound c s.toWorld) (hobtained : c.Obtained h s conn id h₁ s₁)
    (hsame : h₁.SameAttempt h₂) (htalk : Talk conn [(.begin, none)] s₁ s₂)
    (hactive : if h₂.ownsHolder then
        (s₂.setHolder id (c.activeHolder d s₂ id)).bind c.key id = .ok s'
      else s' = s₂.setHolder id (c.activeHolder d s₂ id)) :
    c.Serves h { h₂ with began := true } s s' := by
  have hbegun := begun_holders hobtained hsame htalk hactive
  have hid := lt_of_origin hsound hbegun.origin
  obtain ⟨hdeals, hsource⟩ :=
    deals_begun hsound.not_owns_of_unbound hobtained hsame htalk hactive
  apply serves_of_origin hs hsound hbegun.origin hbegun.others
  · intro hs key other hother
    rw [hbegun.bound] at hother
    split at hother
    · obtain rfl := Option.some.inj hother
      exact hid
    · exact Nat.lt_of_lt_of_le (hs key other hother) hbegun.nextHolder_le
  · exact created_of_acquisition hdeals
  · exact .of_none hdeals fun n hn k =>
      not_returns_of_acquisition [(.begin, none)] hn k
  · exact .kept hbegun.connection (by simp [hbegun.stage])
  · refine ⟨fun other hother => ?_, fun other howned => ?_,
      fun other hborrows => ?_⟩
    · obtain rfl := Option.some.inj (hbegun.holder.symm.trans hother)
      exact hid
    · obtain rfl := Option.some.inj (hbegun.holder.symm.trans howned.1)
      exact ⟨hbegun.stage, conn, hbegun.connection, hsource howned.2⟩
    · obtain rfl := Option.some.inj (hbegun.holder.symm.trans hborrows.1)
      simp [hbegun.stage]
  · intro other hother
    exact ⟨(Option.some.inj (hbegun.holder.symm.trans hother)).symm, rfl⟩

theorem serves_begin (hs : s.Orderly) (hsound : h.Sound c s.toWorld) :
    c.Serves h (c.begin d h s).2.1 s (c.begin d h s).2.2 := by
  have hbeginning := c.beginning d h s
  generalize c.begin d h s = result at hbeginning ⊢
  cases hbeginning with
  | @refused cause s' hstate =>
      rcases hstate with rfl | ⟨fault, hcreate⟩
      · exact .of_sameHolders (.refl s') (.refl s') hsound
      · have hsame := s.sameHolders_create c.source.id
        rw [hcreate] at hsame
        exact .of_sameHolders hsame (.createFailed hcreate) hsound
  | early hobtained hsame hcalls htalk =>
      exact serves_abandon (d := d) hs hsound hobtained hsame htalk (Or.inl rfl)
  | late hobtained hsame htalk hactive =>
      exact serves_abandon hs hsound hobtained hsame htalk hactive
  | begun hobtained hsame htalk hactive =>
      exact serves_begun hs hsound hobtained hsame htalk hactive

/-! ## Clean-ups -/

/-- A clean-up hands back the connection of a holder that the handle owns, and
no other. -/
theorem returned_cleanup (hsound : h.Sound c s.toWorld)
    (hholder : h.holder = some id) :
    ∃ returned, State.Returned returned s (c.cleanup h s) ∧
      ∀ conn, returned = some conn →
        h.ownsHolder = true ∧ (s.holders id).connection = some conn := by
  cases hconn : (s.holders id).connection with
  | none =>
      have hreleased := c.deals_released h id s
      rw [cleanup_eq hholder]
      simp only [restored, holders_released, hconn]
      exact ⟨none, .of_nothing (hreleased.andThen (.setHolder _ id _)),
        fun _ hnone => by cases hnone⟩
  | some conn =>
      have hsource : h.ownsHolder = true → conn.source = c.source.id := by
        intro howns
        obtain ⟨-, k, hk, hsource⟩ := hsound.owned id ⟨hholder, howns⟩
        obtain rfl := Option.some.inj (hconn.symm.trans hk)
        exact hsource
      obtain ⟨fault, hfault, hdeals⟩ := deals_cleanup (c := c) hholder hconn
      refine ⟨_, returned_of_restitution [] hfault hsource
        (fun _ hn => by cases hn) hdeals, ?_⟩
      intro k hk
      split at hk
      · next howns => exact ⟨howns, hk⟩
      · cases hk

/-- What a clean-up makes of its holder. -/
theorem settle_cases (h : Handle) (holder : Holder Connection) :
    (h.ownsHolder = true ∧ settle h holder = .finished) ∨
      (h.ownsHolder = false ∧
        h.began = true ∧ settle h holder = holder.release) ∨
      (h.ownsHolder = false ∧ h.began = false ∧ settle h holder = holder) := by
  cases howns : h.ownsHolder with
  | true => exact Or.inl ⟨rfl, by rw [settle, howns]; rfl⟩
  | false =>
      cases hbegan : h.began with
      | true => exact Or.inr (Or.inl ⟨rfl, rfl,
          by simp [settle, howns, hbegan]⟩)
      | false => exact Or.inr (Or.inr ⟨rfl, rfl,
          by simp [settle, howns, hbegan]⟩)

theorem moves_cleanup (hs : s.Orderly) (hsound : h.Sound c s.toWorld)
    (hholder : h.holder = some id) : State.Moves s (c.cleanup h s) where
  nextHolder := Nat.le_of_eq (cleanup_nextHolder hholder).symm
  held other conn hconn := by
    rw [cleanup_holders hholder] at hconn
    split at hconn
    · next heq =>
        rw [heq]
        rcases settle_cases h (s.holders id) with
            ⟨-, hleft⟩ | ⟨-, -, hleft⟩ | ⟨-, -, hleft⟩ <;>
          rw [hleft] at hconn
        · cases hconn
        · exact Or.inl hconn
        · exact Or.inl hconn
    · exact Or.inl hconn
  given := by
    obtain ⟨returned, hreturned, howned⟩ := returned_cleanup hsound hholder
    refine ⟨returned, hreturned, fun conn hback => ?_⟩
    obtain ⟨howns, hconn⟩ := howned conn hback
    refine ⟨fun other hother => ?_, Or.inl ⟨id, hconn⟩⟩
    rw [cleanup_holders hholder] at hother
    split at hother
    · rw [settle, howns] at hother
      cases hother
    · next hne => exact hne (hs.alone other id conn hother hconn)
  stays other hother hstage := by
    rw [cleanup_holders hholder]
    split
    · next heq =>
        rw [heq] at hstage
        rcases settle_cases h (s.holders id) with
          ⟨-, hleft⟩ | ⟨hno, hbegan, -⟩ | ⟨-, -, hleft⟩
        · rw [hleft]
          rfl
        · exact absurd hstage (hsound.borrowed id ⟨hholder, hno, hbegan⟩)
        · rwa [hleft]
    · exact hstage
  completed other hstage := by
    rw [cleanup_holders hholder] at hstage ⊢
    split at hstage
    · next heq =>
        rw [if_pos heq, heq]
        rcases settle_cases h (s.holders id) with
            ⟨-, hleft⟩ | ⟨-, -, hleft⟩ | ⟨-, -, hleft⟩ <;>
          rw [hleft] at hstage ⊢
        · exact Or.inl rfl
        · cases hstage
        · exact Or.inr ⟨hstage, rfl⟩
    · next hne =>
        rw [if_neg hne]
        exact Or.inr ⟨hstage, rfl⟩

/-- A clean-up leaves a holder alone that its handle neither owns nor has
borrowed. -/
theorem cleanup_holders_of_not (hholder : h.holder = some id)
    (hnot : ¬h.Owns other) (hnot' : ¬h.Borrows other) :
    (c.cleanup h s).holders other = s.holders other := by
  rw [cleanup_holders hholder]
  split
  · next heq =>
      rw [heq] at hnot hnot' ⊢
      rcases settle_cases h (s.holders id) with
          ⟨howns, -⟩ | ⟨hno, hbegan, -⟩ | ⟨-, -, hleft⟩
      · exact absurd ⟨hholder, howns⟩ hnot
      · exact absurd ⟨hholder, hno, hbegan⟩ hnot'
      · exact hleft
  · rfl

/-- A clean-up completes a holder only if its handle owns it. -/
theorem cleanup_unfinished (hholder : h.holder = some id) (hnot : ¬h.Owns other)
    (hstage : (s.holders other).stage ≠ .completed) :
    ((c.cleanup h s).holders other).stage ≠ .completed := by
  rw [cleanup_holders hholder]
  split
  · next heq =>
      rw [heq] at hnot hstage
      rcases settle_cases h (s.holders id) with
          ⟨howns, -⟩ | ⟨-, -, hleft⟩ | ⟨-, -, hleft⟩
      · exact absurd ⟨hholder, howns⟩ hnot
      · simp [hleft, Holder.release]
      · rwa [hleft]
  · exact hstage

/-- A clean-up takes the holder from its handle, and finishes it if the handle
owns it. -/
theorem serves_cleanup (hs : s.Orderly) (hsound : h.Sound c s.toWorld) :
    c.Serves h {} s (c.cleanup h s) := by
  have hfree : ({} : Handle).holder = none := rfl
  cases hholder : h.holder with
  | none =>
      have hnothing : c.cleanup h s = s := by rw [cleanup, hholder]
      rw [hnothing]
      apply Serves.of_still (State.SameHolders.refl s).still
        (.of_nothing (.refl s)) fun hs => hs
      · exact Handle.sound_of_free hfree _
      · exact fun id howns => absurd howns (Handle.not_owns_of_free hfree id)
      · exact fun id hborrows => absurd
          hborrows (Handle.not_borrows_of_free hfree id)
  | some id =>
      constructor
      case moves => exact moves_cleanup hs hsound hholder
      case exist =>
        intro hs key other hother
        rw [cleanup_boundHolder hholder] at hother
        rw [cleanup_nextHolder hholder]
        split at hother
        · cases hother
        · exact hs key other hother
      case active =>
        intro other _ hnot hnot' hactive
        rw [cleanup_holders_of_not hholder hnot hnot']
        exact ⟨hactive, rfl⟩
      case unfinished => exact fun other _ hnot hstage =>
        cleanup_unfinished hholder hnot hstage
      case sound => exact Handle.sound_of_free hfree _
      case owns =>
        exact fun id howns => absurd howns (Handle.not_owns_of_free hfree id)
      case borrows =>
        exact fun id hborrows =>
          absurd hborrows (Handle.not_borrows_of_free hfree id)

end UnitOfWork.Coordinator
