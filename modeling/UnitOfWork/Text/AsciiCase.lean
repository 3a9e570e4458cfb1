/-!
# Letters without their case

Two texts have the same letters when they differ at most in the case of letters
between `A` and `Z`.  No other character is folded, so that a dotted capital I
or a long s is a letter of its own.
-/

namespace UnitOfWork.Text

/-- The characters of a text with the letters from `A` to `Z` in lower case. -/
def foldCase (s : String) : List Char :=
  s.toList.map Char.toLower

/-- Whether two texts agree up to the case of the letters of ASCII. -/
def sameLetters (s t : String) : Bool :=
  decide (foldCase s = foldCase t)

theorem sameLetters_iff {s t : String} :
    sameLetters s t = true ↔ foldCase s = foldCase t := by
  simp [sameLetters]

@[simp]
theorem sameLetters_self (s : String) : sameLetters s s = true := by
  simp [sameLetters]

end UnitOfWork.Text
