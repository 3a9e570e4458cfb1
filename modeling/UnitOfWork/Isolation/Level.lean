import UnitOfWork.Text.AsciiCase
import UnitOfWork.Text.Blank

/-!
# Isolation levels of a connection

The four levels of the SQL standard, and the levels that a database has beside
them, which are kept under the name that the database gives them.  Every text
names a level: `Level.parse` reads the spellings of a standard level, and keeps
any other text as the name of a vendor's level.
-/

namespace UnitOfWork

/-- The isolation levels of the SQL standard, weakest first. -/
inductive StandardLevel where
  | readUncommitted
  | readCommitted
  | repeatableRead
  | serializable
  deriving DecidableEq

namespace StandardLevel

def sql : StandardLevel → String
  | readUncommitted => "READ UNCOMMITTED"
  | readCommitted => "READ COMMITTED"
  | repeatableRead => "REPEATABLE READ"
  | serializable => "SERIALIZABLE"

def all : List StandardLevel :=
  [readUncommitted, readCommitted, repeatableRead, serializable]

theorem mem_all (l : StandardLevel) : l ∈ all := by
  cases l <;> decide

end StandardLevel

/-- An isolation level as a connection reports it and as it is set on one. -/
inductive Level where
  | standard (level : StandardLevel)
  | vendor (name : String)
  deriving DecidableEq

namespace Level

def sql : Level → String
  | standard level => level.sql
  | vendor name => name

/-- Whether two levels have the same SQL spelling up to the case of letters, so
that a database that reports `read committed` is at the standard level. -/
def equivalent (l m : Level) : Bool :=
  Text.sameLetters l.sql m.sql

/-- A separator of words, written as an underscore or a hyphen, becomes a
space. -/
def separatorToSpace (c : Char) : Char :=
  if c = '_' ∨ c = '-' then ' ' else c

/-- The text that is compared with the SQL spellings: the characters of the
trimmed text with every separator of words written as a space. -/
def spaced (s : String) : String :=
  String.ofList ((Text.trimChars s.toList).map separatorToSpace)

/-- The level that a text names: a standard level when the text spells it in any
case and with any separator between its words, otherwise the vendor's level of
that name, trimmed and not otherwise changed. -/
def parse (s : String) : Level :=
  match StandardLevel.all.find? fun l => Text.sameLetters l.sql (spaced s) with
  | some l => standard l
  | none => vendor (Text.trim s)

example : parse " read_Committed\n" = standard .readCommitted :=
  by decide +kernel

example : parse " Snap-shot " = vendor "Snap-shot" := by decide +kernel

end Level

end UnitOfWork
