/-!
# Propagation

How a unit of work relates to a transaction that may already be running in its
context.
-/

namespace UnitOfWork

/-- The relation of a unit of work to the transaction around it. -/
inductive Propagation where
  /-- Join the current transaction, or start one if there is none. -/
  | required
  /-- Join the current transaction, or run without one. -/
  | supports
  /-- Join the current transaction, and fail if there is none. -/
  | mandatory
  /-- Suspend the current transaction, if any, and start a new one. -/
  | requiresNew
  /-- Suspend the current transaction, if any, and run without one. -/
  | notSupported
  /-- Run without a transaction, and fail if one is running. -/
  | never
  deriving DecidableEq

namespace Propagation

def name : Propagation → String
  | required => "REQUIRED"
  | supports => "SUPPORTS"
  | mandatory => "MANDATORY"
  | requiresNew => "REQUIRES_NEW"
  | notSupported => "NOT_SUPPORTED"
  | never => "NEVER"

def all : List Propagation :=
  [required, supports, mandatory, requiresNew, notSupported, never]

end Propagation

end UnitOfWork
