import UnitOfWork.Proofs.ConnectionCalls

/-!
# Deals with the drivers

Some entries of the journal tell where the connections and the transactions of
the drivers come from and where they go: the lines about new connections, the
attempts to hand one back, and the calls that begin or end a transaction.  The
other entries are about settings, or for the reader.

`State.Deals` relates two states by the deals that were made between them.  It
says what the deals mean for the drivers: every number that a source has given
is reported once, and which connections are open can be worked out from those
that were open before.
-/

namespace UnitOfWork

def Note.made? : Note → Option Connection
  | .line l => l.made?
  | .driver _ _ => none

/-- Whether an entry is one of those that are kept here. -/
def Note.isDeal : Note → Bool
  | .line l => l.made?.isSome
  | .driver (.create _) _ => false
  | .driver (.release _ _) _ => true
  | .driver (.call _ request) _ => request.isControl

/-- Entries that are deals anyway are found among the deals. -/
theorem filter_filter_isDeal {p : Note → Bool}
    (hp : ∀ n, p n = true → n.isDeal = true) (notes : List Note) :
    (notes.filter Note.isDeal).filter p = notes.filter p := by
  rw [List.filter_filter]
  refine List.filter_congr fun n _ => ?_
  cases h : p n with
  | false => rfl
  | true => simp [hp n h]

def Note.makes (c : Connection) (n : Note) : Bool :=
  n.made? = some c

@[simp]
theorem Note.makes_acquired (c : Connection) :
    (Note.line (.acquired c)).makes c = true := by
  simp [makes, made?, Line.made?]

theorem Note.makes_fetched_iff {c other : Connection} :
    (Note.line (.fetched c)).makes other = true ↔ c = other := by
  simp [makes, made?, Line.made?]

@[simp]
theorem Note.makes_fetched (c : Connection) :
    (Note.line (.fetched c)).makes c = true :=
  makes_fetched_iff.mpr rfl

/-- Whether by an entry a certain connection was closed. -/
def Note.closes (c : Connection) : Note → Bool
  | .driver (.release source other) none => source = c.source && other.id = c.id
  | _ => false

/-- The position of a switch after some notes, each of which may switch it on or
off. -/
def switched (on off : Note → Bool) (isOn : Bool) (notes : List Note) : Bool :=
  notes.foldl (fun b n => on n || (b && !off n)) isOn

section Switched

variable {on off : Note → Bool}

@[simp]
theorem switched_nil (isOn : Bool) : switched on off isOn [] = isOn := rfl

@[simp]
theorem switched_cons (isOn : Bool) (n : Note) (notes : List Note) :
    switched on off isOn (n :: notes) =
      switched on off (on n || (isOn && !off n)) notes := rfl

@[simp]
theorem switched_append (isOn : Bool) (notes notes' : List Note) :
    switched on off isOn (notes ++ notes') =
      switched on off (switched on off isOn notes) notes' :=
  List.foldl_append

/-- What nothing switches on stays off. -/
theorem switched_false {notes : List Note} (hon : ∀ n ∈ notes, on n = false) :
    switched on off false notes = false := by
  induction notes with
  | nil => rfl
  | cons n rest ih =>
      rw [switched_cons, hon n List.mem_cons_self, Bool.false_and,
        Bool.or_false]
      exact ih fun k hk => hon k (List.mem_cons_of_mem n hk)

/-- A switch that nothing touches stays where it is. -/
theorem switched_same {notes : List Note} (hon : ∀ n ∈ notes, on n = false)
    (hoff : ∀ n ∈ notes, off n = false) (isOn : Bool) :
    switched on off isOn notes = isOn := by
  induction notes with
  | nil => rfl
  | cons n rest ih =>
      rw [switched_cons, hon n List.mem_cons_self, hoff n List.mem_cons_self,
        Bool.not_false, Bool.and_true, Bool.false_or]
      exact ih (fun k hk => hon k (List.mem_cons_of_mem n hk))
        fun k hk => hoff k (List.mem_cons_of_mem n hk)

/-- Notes that do not touch the switch may be left out. -/
theorem switched_filter {p : Note → Bool} (hon : ∀ n, on n = true → p n = true)
    (hoff : ∀ n, off n = true → p n = true) (isOn : Bool) (notes : List Note) :
    switched on off isOn (notes.filter p) = switched on off isOn notes := by
  induction notes generalizing isOn with
  | nil => rfl
  | cons n rest ih =>
      by_cases hn : p n = true
      · rw [List.filter_cons_of_pos hn, switched_cons, switched_cons, ih]
      · have hunon : on n = false := Bool.eq_false_iff.mpr fun h => hn (hon n h)
        have hunoff : off n = false :=
          Bool.eq_false_iff.mpr fun h => hn (hoff n h)
        rw [List.filter_cons_of_neg hn, switched_cons, hunon, hunoff, ih,
          Bool.not_false, Bool.and_true, Bool.false_or]

/-- Where nothing switches on after something has switched off, it counts only
whether there is anything of either kind. -/
theorem switched_of_ordered {notes : List Note}
    (hordered : notes.Pairwise fun n n' => off n = true → on n' = false)
    (hnot : ∀ n, on n = true → off n = false) (isOn : Bool) :
    switched on off isOn notes =
      ((isOn || notes.any on) && !notes.any off) := by
  induction notes generalizing isOn with
  | nil => simp
  | cons n rest ih =>
      obtain ⟨hfirst, hrest⟩ := List.pairwise_cons.mp hordered
      rw [switched_cons, ih hrest, List.any_cons, List.any_cons]
      cases hoff : off n with
      | false => cases on n <;> cases isOn <;> simp
      | true =>
          have hon : on n = false := Bool.eq_false_iff.mpr fun h => by
            rw [hnot n h] at hoff
            cases hoff
          have hnone : rest.any on = false :=
            List.any_eq_false.mpr fun n' hn' => by
            simp [hfirst n' hn' hoff]
          simp [hon, hnone]

end Switched

abbrev openAfter (c : Connection) : Bool → List Note → Bool :=
  switched (Note.makes c) (Note.closes c)

theorem Note.not_closes_of_makes {c : Connection} {n : Note}
    (h : n.makes c = true) :
    n.closes c = false := by
  cases n with
  | line l => rfl
  | driver call fault => simp [makes, made?] at h

/-- A connection that is known to its source and was not handed back. -/
def World.isOpen (w : World) (c : Connection) : Bool :=
  ((w.drivers c.source).sessions c.id).isSome

/-- How often a source has recorded that a connection was closed. -/
def World.closings (w : World) (c : Connection) : Nat :=
  (w.drivers c.source).events.count (.released c.id)

def World.nextId (w : World) (source : SourceId) : ConnectionId :=
  (w.drivers source).nextId

/-- The deals that were made between two states. -/
structure State.Deals (deals : List Note) (s s' : State) : Prop where
  journal : ∃ notes, s'.journal = s.journal ++ notes ∧
    notes.filter Note.isDeal = deals
  nextId : ∀ source, s.nextId source ≤ s'.nextId source
  made : ∀ c, deals.countP (Note.makes c) =
    if s.nextId c.source ≤ c.id ∧ c.id < s'.nextId c.source then 1 else 0
  isOpen : ∀ c, s'.isOpen c = openAfter c (s.isOpen c) deals
  closings : ∀ c, s'.closings c = s.closings c + deals.countP (Note.closes c)

namespace State.Deals

variable {deals deals' : List Note} {s s' s'' : State}

theorem trans (h : Deals deals s s') (h' : Deals deals' s' s'') :
    Deals (deals ++ deals') s s'' where
  journal := by
    obtain ⟨notes, hnotes, hdeals⟩ := h.journal
    obtain ⟨notes', hnotes', hdeals'⟩ := h'.journal
    exact ⟨notes ++ notes', by rw [hnotes', hnotes, List.append_assoc],
      by rw [List.filter_append, hdeals, hdeals']⟩
  nextId source := Nat.le_trans (h.nextId source) (h'.nextId source)
  made c := by
    have hfirst := h.nextId c.source
    have hsecond := h'.nextId c.source
    rw [List.countP_append, h.made, h'.made]
    grind
  isOpen c := by
    rw [h'.isOpen, h.isOpen]
    exact (switched_append _ _ _).symm
  closings c := by
    rw [h'.closings, h.closings, List.countP_append, Nat.add_assoc]

/-- A connection that is reported as new got its number between the two
states. -/
theorem new_of_makes (h : Deals deals s s') {c : Connection} {n : Note}
    (hn : n ∈ deals) (hmakes : n.makes c = true) :
    s.nextId c.source ≤ c.id ∧ c.id < s'.nextId c.source := by
  have hcount : 0 < deals.countP (Note.makes c) :=
    List.countP_pos_iff.mpr ⟨n, hn, hmakes⟩
  rw [h.made] at hcount
  apply Decidable.byContradiction
  intro hold
  simp [hold] at hcount

theorem new_of_acquired (h : Deals deals s s') {c : Connection}
    (hn : .line (.acquired c) ∈ deals) :
    s.nextId c.source ≤ c.id ∧ c.id < s'.nextId c.source :=
  h.new_of_makes hn (Note.makes_acquired c)

theorem new_of_fetched (h : Deals deals s s') {c : Connection}
    (hn : .line (.fetched c) ∈ deals) :
    s.nextId c.source ≤ c.id ∧ c.id < s'.nextId c.source :=
  h.new_of_makes hn (Note.makes_fetched c)

/-- A connection that was closed stays closed. -/
theorem closed (h : Deals deals s s') {c : Connection}
    (hknown : c.id < s.nextId c.source) (hclosed : s.isOpen c = false) :
    s'.isOpen c = false := by
  rw [h.isOpen, hclosed]
  apply switched_false
  intro n hn
  apply Bool.eq_false_iff.mpr
  intro hmakes
  exact Nat.not_lt.mpr (h.new_of_makes hn hmakes).1 hknown

/-- The deals between two states are those in the journal. -/
theorem unique (h : Deals deals s s') (h' : Deals deals' s s') :
    deals = deals' := by
  obtain ⟨notes, hnotes, hdeals⟩ := h.journal
  obtain ⟨notes', hnotes', hdeals'⟩ := h'.journal
  rw [hnotes] at hnotes'
  rw [← hdeals, ← hdeals', List.append_cancel_left hnotes']

/-- Nothing was dealt in the second part. -/
theorem andThen (h : Deals deals s s') (h' : Deals [] s' s'') :
    Deals deals s s'' := by
  have hboth := h.trans h'
  rwa [List.append_nil] at hboth

/-- An entry that tells of no new connection and of none that was closed. -/
theorem note (s : State) {n : Note} (hmade : n.made? = none)
    (hcloses : ∀ c, n.closes c = false) :
    Deals ([n].filter Note.isDeal) s (s.note n) where
  journal := ⟨[n], rfl, rfl⟩
  nextId _ := Nat.le_refl _
  made c := by
    refine Eq.trans ?_ (if_neg fun h => Nat.not_le.mpr h.2 h.1).symm
    cases h : n.isDeal <;> simp [h, Note.makes, hmade]
  isOpen c := by
    show s.isOpen c = _
    cases h : n.isDeal <;> simp [h, Note.makes, hmade, hcloses]
  closings c := by
    show s.closings c = _
    cases h : n.isDeal <;> simp [h, hcloses]

/-- Between two states with the same journal, whose drivers have the same open
connections, nothing was dealt. -/
theorem of_same (hjournal : s'.journal = s.journal)
    (hnext : ∀ source, s'.nextId source = s.nextId source)
    (hopen : ∀ c, s'.isOpen c = s.isOpen c)
    (hclosings : ∀ c, s'.closings c = s.closings c) : Deals [] s s' where
  journal := ⟨[], by rw [hjournal, List.append_nil], rfl⟩
  nextId source := Nat.le_of_eq (hnext source).symm
  made c := by
    rw [hnext]
    exact (if_neg fun h => Nat.not_le.mpr h.2 h.1).symm
  isOpen := hopen
  closings := hclosings

theorem refl (s : State) : Deals [] s s :=
  of_same rfl (fun _ => rfl) (fun _ => rfl) fun _ => rfl

theorem say (s : State) {line : Line} (hline : line.made? = none) :
    Deals [] s (s.say line) := by
  have hsaid := note s (n := .line line) hline fun _ => rfl
  rwa [List.filter_cons_of_neg (by simp [Note.isDeal, hline])] at hsaid

/-- Holders, the context and the clock have nothing to do with the drivers. -/
theorem of_drivers (hjournal : s'.journal = s.journal)
    (hdrivers : s'.drivers = s.drivers) :
    Deals [] s s' :=
  of_same hjournal (fun source => by simp [World.nextId, hdrivers])
    (fun c => by simp [World.isOpen, hdrivers])
    (fun c => by simp [World.closings, hdrivers])

/-- A call on a connection without a trace in the journal. -/
theorem callDirectly (s : State) (c : Connection) (request : Call) :
    Deals [] s (s.callDirectly c request).2 := by
  rw [State.callDirectly]
  cases hcall : (s.drivers c.source).call c.id request with
  | error fault => exact refl s
  | ok driver =>
      have hdriver := Driver.call_eq_ok hcall
      refine of_same rfl (fun source => ?_) (fun other => ?_) fun other => ?_
      · by_cases h : source = c.source <;>
          simp [World.nextId, h, hdriver, Driver.record, Driver.setSession]
      · by_cases h : other.source = c.source
        · by_cases hid : other.id = c.id <;>
            simp [World.isOpen, h, hid, hdriver, Driver.record,
              Driver.setSession]
        · simp [World.isOpen, h]
      · by_cases h : other.source = c.source
        · simp [World.closings, h, hdriver, Driver.record, Driver.setSession]
        · simp [World.closings, h]

theorem setFault (s : State) (source : SourceId) (fault : Fault) (on : Bool) :
    Deals [] s (s.setDriver source ((s.drivers source).setFault fault on)) := by
  refine of_same rfl (fun other => ?_) (fun other => ?_) fun other => ?_
  · by_cases h : other = source <;> simp [World.nextId, Driver.setFault, h]
  · by_cases h : other.source = source <;>
      simp [World.isOpen, Driver.setFault, h]
  · by_cases h : other.source = source <;>
      simp [World.closings, Driver.setFault, h]

def ofCall (c : Connection) (request : Call) (fault : Option Fault) :
    List Note :=
  if request.isControl then [.driver (.call c request) fault] else []

theorem call (s : State) (c : Connection) (request : Call) :
    Deals (ofCall c request (faultOf (s.call c request).1)) s
      (s.call c request).2 := by
  have hdirect := callDirectly s c request
  have hnoted := fun fault => hdirect.trans
    (note (s.callDirectly c request).2
      (n := .driver (.call c request) fault) rfl
      fun other => by cases fault <;> rfl)
  have hdeals : ∀ fault,
      [].append ([Note.driver (.call c request) fault].filter Note.isDeal) =
      ofCall c request fault := by
    intro fault
    cases h : request.isControl <;> simp [ofCall, Note.isDeal, h]
  rw [State.call]
  cases hresult : s.callDirectly c request with
  | mk outcome s' =>
      rw [hresult] at hnoted
      cases outcome with
      | ok _ =>
          rw [← hdeals]
          exact hnoted none
      | error fault =>
          rw [← hdeals]
          exact hnoted (some fault)

/-- A connection was created, and its creation is reported in a line. -/
theorem create {s s₁ : State} {source : SourceId} {c : Connection}
    (hcreate : s.create source = (.ok c, s₁)) (line : Line)
    (hline : line.made? = some c) :
    Deals [.line line] s (s₁.say line) ∧ c.source = source := by
  rw [State.create, Driver.create] at hcreate
  cases hcheck : (s.drivers source).check .create with
  | error fault => simp [hcheck] at hcreate
  | ok _ =>
      simp only [hcheck, Prod.mk.injEq, Except.ok.injEq] at hcreate
      obtain ⟨rfl, rfl⟩ := hcreate
      refine ⟨⟨?_, fun other => ?_, fun other => ?_, fun other => ?_,
        fun other => ?_⟩, rfl⟩
      · refine ⟨[.driver (.create ⟨source, (s.drivers source).nextId⟩) none,
          .line line], ?_, ?_⟩
        · simp
        · simp [Note.isDeal, hline]
      · by_cases h : other = source <;>
          simp [World.nextId, h, Driver.record, Driver.setSession]
      · have hmade : (Note.line line).makes other = decide
            (other = ⟨source, (s.drivers source).nextId⟩) := by
          simp [Note.makes, Note.made?, hline, eq_comm]
        obtain ⟨otherSource, id⟩ := other
        simp only [List.countP_singleton, hmade, Connection.mk.injEq,
          World.nextId, State.drivers_say, State.drivers_note,
          State.drivers_setDriver]
        by_cases h : otherSource = source
        · simp only [h, Driver.record, Driver.setSession]
          grind
        · simp only [h]
          grind
      · have hmade : (Note.line line).makes other = decide
            (other = ⟨source, (s.drivers source).nextId⟩) := by
          simp [Note.makes, Note.made?, hline, eq_comm]
        obtain ⟨otherSource, id⟩ := other
        simp only [switched_cons, switched_nil, hmade, Connection.mk.injEq,
          World.isOpen, State.drivers_say, State.drivers_note,
          State.drivers_setDriver, Note.closes]
        by_cases h : otherSource = source
        · by_cases hid : id = (s.drivers source).nextId <;>
            simp [h, hid, Driver.record, Driver.setSession]
        · simp [h]
      · by_cases h : other.source = source <;>
          simp [World.closings, h, Driver.record, Driver.setSession,
            Note.closes, List.count_append]

theorem createFailed {source : SourceId} {fault : Fault}
    (hcreate : s.create source = (.error fault, s')) : Deals [] s s' := by
  rw [State.create] at hcreate
  cases hresult : (s.drivers source).create with
  | ok created => simp [hresult] at hcreate
  | error reason =>
      simp only [hresult, Prod.mk.injEq] at hcreate
      rw [← hcreate.2]
      exact note s (n := .driver (.create _) (some reason)) rfl fun _ => rfl

/-- A connection was handed back to a source, or the source refused to take
it. -/
theorem release (s : State) (source : SourceId) (c : Connection) :
    Deals [.driver (.release source c) (faultOf (s.release source c).1)] s
      (s.release source c).2 := by
  rw [State.release, Driver.release]
  cases hcheck : (s.drivers source).check .release with
  | error fault =>
      exact note s (n := .driver (.release source c) (some fault)) rfl
        fun _ => rfl
  | ok _ =>
      have hnext : ∀ other, (((s.setDriver source
          (((s.drivers source).setSession c.id none).record
            (.released c.id))).note
            (.driver (.release source c) none)).nextId other) =
              s.nextId other := by
        intro other
        by_cases h : other = source <;>
          simp [World.nextId, h, Driver.record, Driver.setSession]
      refine ⟨⟨[.driver (.release source c) none], rfl, rfl⟩,
        fun other => Nat.le_of_eq (hnext other).symm, fun other => ?_,
        fun other => ?_,
        fun other => ?_⟩
      · rw [hnext]
        exact (if_neg fun h => Nat.not_le.mpr h.2 h.1).symm
      · by_cases h : other.source = source
        · rcases Decidable.em (other.id = c.id) with hid | hid
          · simp [World.isOpen, h, hid, Driver.record, Driver.setSession,
              Note.makes, Note.made?, Note.closes, faultOf]
          · simp [World.isOpen, h, hid, Ne.symm hid, Driver.record,
              Driver.setSession, Note.makes, Note.made?, Note.closes, faultOf]
        · simp [World.isOpen, h, Ne.symm h, Note.makes, Note.made?,
            Note.closes, faultOf]
      · by_cases h : other.source = source
        · by_cases hid : c.id = other.id <;>
            simp [World.closings, h, hid, Driver.record, Driver.setSession,
              Note.closes, faultOf, List.count_append]
        · simp [World.closings, h, Ne.symm h, Note.closes, faultOf]

/-- What a restoring step deals does not depend on how it ends. -/
theorem restoring {result : Except Fault Unit × State} (step : RestoringStep)
    (h : Deals deals s result.2) :
    Deals deals s (State.restoring step result) := by
  obtain ⟨outcome, s'⟩ := result
  cases outcome with
  | ok _ => exact h
  | error fault => exact h.andThen (say s' rfl)

theorem setHolder (s : State) (id : HolderId) (holder : Holder Connection) :
    Deals [] s (s.setHolder id holder) :=
  of_drivers rfl rfl

theorem unbind (s : State) (key : Key) : Deals [] s (s.unbind key).2 := by
  rw [State.unbind]
  cases s.context.unbind key with
  | mk found context =>
      cases found with
      | none => exact refl s
      | some id =>
          have hset : Deals [] s { s with context } := of_drivers rfl rfl
          exact hset.andThen (say _ rfl)

theorem bind {key : Key} {id : HolderId} (h : s.bind key id = .ok s') :
    Deals [] s s' := by
  rw [State.bind] at h
  cases hcontext : s.context.bind key id with
  | error occupied => simp [hcontext] at h
  | ok context =>
      simp only [hcontext, Except.ok.injEq] at h
      rw [← h]
      have hset : Deals [] s { s with context } := of_drivers rfl rfl
      exact hset.andThen (say _ rfl)

end State.Deals

/-- The deals of a talk are the calls that are listed. -/
theorem Talk.deals {c : Connection} {calls : List (Call × Option Fault)}
    {s s' : State} (h : Talk c calls s s') :
    State.Deals (calls.map fun r => .driver (.call c r.1) r.2) s s' := by
  induction h with
  | refl s => exact .refl s
  | say _ hline ih => exact ih.andThen (.say _ hline)
  | @adjust _ _ s' _ request hcall ih =>
      have hcalled := State.Deals.call s' c request
      rw [State.Deals.ofCall, hcall] at hcalled
      exact ih.andThen hcalled
  | @control _ _ s' _ request hcall ih =>
      have hcalled := State.Deals.call s' c request
      rw [State.Deals.ofCall, hcall] at hcalled
      rw [List.map_append]
      exact ih.trans hcalled

end UnitOfWork
