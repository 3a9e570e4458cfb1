import UnitOfWork.Recording.Connection

/-!
# Waiting under deadlines

Time passes for a unit of work only while it waits.  The transactions around it
may have deadlines, and one that passes cuts the waiting short.
-/

namespace UnitOfWork.Script

/-- An execution in progress: the source of its coordinator, and the time at
which it cuts off its work, if it began a transaction with a deadline. -/
structure Frame where
  source : SourceId
  limit : Option Nat := none

/-- The times at which work is cut off, innermost first. -/
def limits (frames : List Frame) : List Nat :=
  frames.filterMap Frame.limit

/-- How a wait ends. -/
inductive Wake where
  | rested (time : Nat)
  /-- The limit with this number passed, counted from the inside. -/
  | overdue (outer : Nat) (time : Nat)
  deriving DecidableEq

/-- The end of a wait that starts at a given time.  A limit that has passed
already fires at once, the innermost one first, and otherwise the earliest limit
fires if it comes before the end. -/
def wait (limits : List Nat) (time seconds : Nat) : Wake :=
  match limits.findIdx? (· ≤ time) with
  | some outer => .overdue outer time
  | none =>
      match limits.min? with
      | some limit =>
          if limit < time + seconds then .overdue (limits.idxOf limit) limit
          else .rested (time + seconds)
      | none => .rested (time + seconds)

end UnitOfWork.Script
