import UnitOfWork.Json.Value

/-!
# Literals of numbers and strings

How the text of a number and the text between two quotes are read.  A number has
no needless zero in front.  In a string every escape stands for one code unit of
sixteen bits, so that a character outside of the basic plane takes two escapes;
half of such a pair is no text.
-/

namespace UnitOfWork.Json

/-! ## Numbers -/

def isNumberChar (c : Char) : Bool :=
  c.isDigit || c = '-' || c = '+' || c = '.' || c = 'e' || c = 'E'

def ofDigits (cs : List Char) : Nat :=
  cs.foldl (fun n c => 10 * n + (c.toNat - '0'.toNat)) 0

/-- Whether the whole part of a number is well written. -/
def isWholePart (cs : List Char) : Bool :=
  match cs with
  | [] => false
  | ['0'] => true
  | c :: rest => c ≠ '0' && (c :: rest).all Char.isDigit

def isDigits (cs : List Char) : Bool :=
  !cs.isEmpty && cs.all Char.isDigit

/-- Whether what follows the fraction of a number is well written. -/
def isExponent (cs : List Char) : Bool :=
  match cs with
  | [] => true
  | e :: '+' :: rest | e :: '-' :: rest => (e = 'e' || e = 'E') && isDigits rest
  | e :: rest => (e = 'e' || e = 'E') && isDigits rest

/-- Whether what follows the whole part of a number is well written. -/
def isTail (cs : List Char) : Bool :=
  match cs with
  | '.' :: rest =>
      isDigits (rest.takeWhile Char.isDigit) &&
        isExponent (rest.dropWhile Char.isDigit)
  | rest => isExponent rest

def ofMagnitude (negative : Bool) (cs : List Char) : Option Json :=
  let whole := cs.takeWhile Char.isDigit
  let tail := cs.dropWhile Char.isDigit
  let literal := String.ofList (if negative then '-' :: cs else cs)
  if !isWholePart whole then none
  else if tail.isEmpty then
    match negative, ofDigits whole with
    | true, 0 => some (.real literal)
    | true, n => some (.integer (-n))
    | false, n => some (.integer n)
  else if isTail tail then some (.real literal)
  else none

def ofNumber (cs : List Char) : Option Json :=
  match cs with
  | '-' :: rest => ofMagnitude true rest
  | rest => ofMagnitude false rest

/-! ## Strings -/

/-- A part of a string: a character that stands for itself, or a code unit. -/
inductive Part where
  | char (c : Char)
  | unit (code : Nat)
  deriving DecidableEq

def hexDigit? (c : Char) : Option Nat :=
  if c.isDigit then some (c.toNat - '0'.toNat)
  else if 'a' ≤ c ∧ c ≤ 'f' then some (c.toNat - 'a'.toNat + 10)
  else if 'A' ≤ c ∧ c ≤ 'F' then some (c.toNat - 'A'.toNat + 10)
  else none

def codeUnit? (a b c d : Char) : Option Nat :=
  match hexDigit? a, hexDigit? b, hexDigit? c, hexDigit? d with
  | some a, some b, some c, some d => some (((a * 16 + b) * 16 + c) * 16 + d)
  | _, _, _, _ => none

/-- The character that a letter after a backslash stands for. -/
def escaped? : Char → Option Char
  | '"' => some '"'
  | '\\' => some '\\'
  | '/' => some '/'
  | 'b' => some '\x08'
  | 'f' => some '\x0c'
  | 'n' => some '\n'
  | 'r' => some '\r'
  | 't' => some '\t'
  | _ => none

def withPart (part : Option Part) (rest : Option (List Part × List Char)) :
    Option (List Part × List Char) :=
  match part, rest with
  | some part, some (parts, left) => some (part :: parts, left)
  | _, _ => none

/-- The parts of a string up to the closing quote, and what follows that.
Control characters have to be escaped. -/
def readParts : List Char → Option (List Part × List Char)
  | [] => none
  | '"' :: rest => some ([], rest)
  | '\\' :: 'u' :: a :: b :: c :: d :: rest =>
      withPart ((codeUnit? a b c d).map .unit) (readParts rest)
  | '\\' :: c :: rest => withPart ((escaped? c).map .char) (readParts rest)
  | c :: rest =>
      if c.toNat < 0x20 then none
      else withPart (some (.char c)) (readParts rest)

/-- The first half of a pair of code units. -/
def isHighSurrogate (code : Nat) : Bool :=
  0xd800 ≤ code && code < 0xdc00

/-- The second half of a pair of code units. -/
def isLowSurrogate (code : Nat) : Bool :=
  0xdc00 ≤ code && code < 0xe000

def ofPair (high low : Nat) : Char :=
  Char.ofNat (0x10000 + (high - 0xd800) * 0x400 + (low - 0xdc00))

/-- The text that the parts of a string make up, if they do. -/
def assemble : List Part → Option (List Char)
  | [] => some []
  | .char c :: rest => (assemble rest).map (c :: ·)
  | .unit high :: .unit low :: rest =>
      if isHighSurrogate high && isLowSurrogate low then
        (assemble rest).map (ofPair high low :: ·)
      else if isHighSurrogate high || isLowSurrogate high then none
      else (assemble (.unit low :: rest)).map (Char.ofNat high :: ·)
  | .unit code :: rest =>
      if isHighSurrogate code || isLowSurrogate code then none
      else (assemble rest).map (Char.ofNat code :: ·)

def readString (cs : List Char) : Option (Option String × List Char) :=
  match readParts cs with
  | some (parts, rest) => some ((assemble parts).map String.ofList, rest)
  | none => none

end UnitOfWork.Json
