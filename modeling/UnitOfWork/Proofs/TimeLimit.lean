import UnitOfWork.Proofs.Clock

/-!
# The time limit of a transaction

A definition asks for a number of seconds or for the default of its coordinator,
and both may be any number of 64 bits.  Only a positive number is a limit, and
only if the clock gets as far.  Nothing else depends on it: whether a
transaction can begin is decided without a look at its limit.
-/

namespace UnitOfWork

/-- A number of seconds as it is asked of a definition, where `-1` stands for
the default. -/
def Config.effectiveSeconds (config : Config) (count : Int64) : Option Int64 :=
  if count = -1 then config.defaultTimeout else some count

namespace Config

variable {config : Config} {d : Definition}

theorem requestedSeconds_withTimeoutSeconds (config : Config) (d : Definition)
    (count : Int64) :
    config.requestedSeconds (d.withTimeoutSeconds count).timeout =
      config.effectiveSeconds count := by
  rw [Definition.withTimeoutSeconds, Timeout.ofSeconds, effectiveSeconds]
  split <;> rfl

theorem timeLimit_eq_some_iff {seconds : Nat} :
    config.timeLimit d = some seconds ↔
      ∃ count, config.requestedSeconds d.timeout = some count ∧
        0 < count.toInt ∧ (seconds : Int) = count.toInt := by
  rw [timeLimit]
  cases config.requestedSeconds d.timeout with
  | none => simp
  | some count =>
      by_cases hpositive : 0 < count.toInt
      · simp only [hpositive, if_true, Option.some.injEq,
          exists_eq_left', true_and]
        omega
      · simp [hpositive]

/-- A limit has no more than 63 bits, so that it is the same number with or
without a sign. -/
theorem timeLimit_le {seconds : Nat} (h : config.timeLimit d = some seconds) :
    (seconds : Int) ≤ Int64.maxValue.toInt := by
  obtain ⟨count, -, -, hcount⟩ := timeLimit_eq_some_iff.mp h
  rw [hcount]
  exact Int64.toInt_le count

end Config

theorem Instant.after_eq_some_iff {now t : Instant} {seconds : Nat} :
    now.after seconds = some t ↔ t = now + seconds ∧ t ≤ Instant.latest := by
  rw [after]
  split
  · next hle =>
      rw [Option.some.injEq]
      exact ⟨fun h => ⟨h.symm, h ▸ hle⟩, fun h => h.1.symm⟩
  · next hle =>
      refine iff_of_false (fun h => by cases h) fun h => hle ?_
      rw [← h.1]
      exact h.2

namespace Coordinator

variable {c : Coordinator} {d : Definition} {h h' : Handle} {s s' : State}

def withDefaultTimeout (c : Coordinator) (seconds : Option Int64) :
    Coordinator :=
  { c with config := { c.config with defaultTimeout := seconds } }

theorem deadline_eq_some_iff {now t : Instant} :
    c.deadline d now = some t ↔
      ∃ count, c.config.requestedSeconds d.timeout = some count ∧
        0 < count.toInt ∧
        (t : Int) = now + count.toInt ∧ t ≤ Instant.latest := by
  simp only [deadline, Option.bind_eq_some_iff, Config.timeLimit_eq_some_iff,
    Instant.after_eq_some_iff]
  constructor
  · rintro ⟨seconds, ⟨count, hcount, hpositive, hseconds⟩, rfl, hlatest⟩
    exact ⟨count, hcount, hpositive,
      by rw [← hseconds, Int.natCast_add], hlatest⟩
  · rintro ⟨count, hcount, hpositive, ht, hlatest⟩
    have hseconds : (count.toInt.toNat : Int) = count.toInt :=
      Int.toNat_of_nonneg (by omega)
    refine ⟨count.toInt.toNat, ⟨count, hcount, hpositive, hseconds⟩,
      ?_, hlatest⟩
    apply Int.natCast_inj.mp
    rw [Int.natCast_add, hseconds]
    exact ht

/-- The deadline of a transaction that has begun is its own, whatever its holder
had before. -/
theorem deadline_of_begun (hbegin : c.begin d h s = (.ok (), h', s')) :
    ∃ id, h'.holder = some id ∧ (s'.holders id).stage = .active ∧
      (s'.holders id).deadline = c.deadline d s.now := by
  have hbeginning := c.beginning d h s
  rw [hbegin] at hbeginning
  cases hbeginning with
  | @begun conn id h₁ h₂ s₁ s₂ _ hobtained hsame htalk hactive =>
      have hnow : s₂.now = s.now := htalk.now.trans (now_obtained hobtained)
      have hholders :
          s'.holders = (s₂.setHolder id (c.activeHolder d s₂ id)).holders := by
        split at hactive
        · exact State.holders_bind hactive
        · rw [hactive]
      refine ⟨id, hsame.holder.trans hobtained.claimed.1, ?_⟩
      rw [hholders, State.holders_setHolder, if_pos rfl, activeHolder, hnow]
      exact ⟨rfl, rfl⟩

/-! ## What does not depend on the limit -/

theorem activate_outcome_of_timeout (c : Coordinator) (d : Definition)
    (default : Option Int64) (timeout : Timeout) (h : Handle) (s : State) :
    ((c.withDefaultTimeout default).activate { d with timeout } h s).outcome =
      (c.activate d h s).outcome := by
  rw [activate, activate]
  cases h.holder with
  | none => rfl
  | some id =>
      simp only [Holder.activate]
      cases (s.holders id).stage with
      | unbound | active | completed => rfl
      | claimed =>
          simp only [State.bind]
          cases h.ownsHolder with
          | false => rfl
          | true =>
              have hkey : (c.withDefaultTimeout default).key = c.key := rfl
              simp only [State.context_setHolder, hkey, if_true]
              cases s.context.bind c.key id <;> rfl

/-- Whether a transaction can begin, and why not, is decided without its time
limit. -/
theorem begin_outcome_of_timeout (c : Coordinator) (d : Definition)
    (default : Option Int64) (timeout : Timeout) (h : Handle) (s : State) :
    ((c.withDefaultTimeout default).begin { d with timeout } h s).1 =
      (c.begin d h s).1 := by
  rcases hobtain : c.obtainConnection h s with ⟨outcome, h₁, s₁⟩
  have hobtain' : (c.withDefaultTimeout default).obtainConnection h s =
      (outcome, h₁, s₁) :=
    hobtain
  cases outcome with
  | error cause => rw [begin, begin, hobtain, hobtain']
  | ok conn =>
      have hstarted : started { d with timeout } conn h₁ s₁ =
          started d conn h₁ s₁ := rfl
      rw [begin_of_obtained hobtain, begin_of_obtained hobtain', hstarted,
        afterStart, afterStart]
      cases (started d conn h₁ s₁).outcome with
      | error cause => rfl
      | ok _ =>
          have henforced : (c.withDefaultTimeout default).enforceReadOnly
              { d with timeout } conn
              (started d conn h₁ s₁).handle (started d conn h₁ s₁).state =
              c.enforceReadOnly d conn (started d conn h₁ s₁).handle
                (started d conn h₁ s₁).state := rfl
          simp only [henforced]
          generalize c.enforceReadOnly d conn (started d conn h₁ s₁).handle
            (started d conn h₁ s₁).state = p
          have hactivate :=
            c.activate_outcome_of_timeout d default timeout p.handle p.state
          rw [Progress.andThen, Progress.andThen]
          cases hp : p.outcome with
          | error cause => simp only [hp]; rfl
          | ok _ =>
              simp only [hactivate]
              cases (c.activate d p.handle p.state).outcome <;> rfl

end Coordinator

end UnitOfWork
