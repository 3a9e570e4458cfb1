import UnitOfWork.Json.Printing
import UnitOfWork.Json.Reading

/-!
# Printed values are read back

The text that a value is printed as is the text of that value and of no other.
Strings come first, character by character, then the digits of numbers, and then
the values: the reader is given the printed value with anything behind it that
cannot be a part of a number, and leaves that untouched.
-/

namespace UnitOfWork.Json

/-! ## Strings -/

/-- What a printed character is read as: a control character without a letter of
its own is written as a code unit. -/
def partOf (c : Char) : Part :=
  if letter? c = none ∧ c.toNat < 0x20 then .unit c.toNat else .char c

theorem escaped?_letter? {c letter : Char} (h : letter? c = some letter) :
    escaped? letter = some c ∧ letter ≠ 'u' := by
  simp only [letter?] at h
  split at h <;> first | (cases h; done) | (cases h; decide)

theorem codeUnit?_control {n : Nat} (h : n < 0x20) :
    codeUnit? '0' '0' (Nat.digitChar (n / 16))
      (Nat.digitChar (n % 16)) = some n := by
  decide +revert

theorem readParts_printChar (c : Char) (rest : List Char) :
    readParts (printChar c ++ rest) = withPart (some (partOf c))
      (readParts rest) := by
  cases hletter : letter? c with
  | some letter =>
      obtain ⟨hescaped, hu⟩ := escaped?_letter? hletter
      have hparts : readParts ('\\' :: letter :: rest) =
          withPart ((escaped? letter).map .char) (readParts rest) :=
        readParts.eq_4 letter rest fun _ _ _ _ _ h _ => hu h
      simp [printChar, partOf, hletter, hparts, hescaped]
  | none =>
      by_cases hcontrol : c.toNat < 0x20
      · simp [printChar, partOf, hletter, hcontrol, readParts,
          codeUnit?_control hcontrol]
      · have hquote : c ≠ '"' := fun h => by simp [h, letter?] at hletter
        have hslash : c ≠ '\\' := fun h => by simp [h, letter?] at hletter
        have hparts := readParts.eq_5 c rest hquote
          (fun _ _ _ _ _ h _ => hslash h)
          fun _ _ h _ => hslash h
        simp [printChar, partOf, hletter, hcontrol, hparts]

theorem readParts_flatMap_printChar (cs rest : List Char) :
    readParts (cs.flatMap printChar ++ '"' :: rest) =
      some (cs.map partOf, rest) := by
  induction cs with
  | nil => simp [readParts]
  | cons c cs ih =>
      rw [List.flatMap_cons, List.append_assoc, readParts_printChar, ih]
      rfl

theorem assemble_cons_partOf (c : Char) (parts : List Part) :
    assemble (partOf c :: parts) = (assemble parts).map (c :: ·) := by
  by_cases hunit : letter? c = none ∧ c.toNat < 0x20
  · have hhigh : isHighSurrogate c.toNat = false := by
      simp [isHighSurrogate]; omega
    have hlow : isLowSurrogate c.toNat = false := by
      simp [isLowSurrogate]; omega
    rw [partOf, if_pos hunit, assemble.eq_def]
    cases parts with
    | nil => simp [hhigh, hlow]
    | cons part parts =>
        cases part <;> simp [hhigh, hlow]
  · simp [partOf, hunit, assemble]

theorem assemble_map_partOf (cs : List Char) :
    assemble (cs.map partOf) = some cs := by
  induction cs with
  | nil => rfl
  | cons c cs ih =>
      rw [List.map_cons, assemble_cons_partOf, ih, Option.map_some]

theorem readString_printString (value : Option String) (rest : List Char) :
    ∃ cs, printString value ++ rest = '"' :: cs ∧
      readString cs = some (value, rest) := by
  cases value with
  | some s =>
      refine ⟨s.toList.flatMap printChar ++ '"' :: rest,
        by simp [printString, printText], ?_⟩
      simp [readString, readParts_flatMap_printChar, assemble_map_partOf]
  | none =>
      refine ⟨_, rfl, ?_⟩
      rfl

/-! ## Numbers -/

/-- Whether a number cannot go on with the characters that are left. -/
def EndsNumber (rest : List Char) : Prop :=
  ∀ c ∈ rest.head?, isNumberChar c = false

theorem readNumber_append {cs rest : List Char} {j : Json}
    (hnumber : ofNumber cs = some j) (hchars : ∀ c ∈ cs, isNumberChar c = true)
    (hrest : EndsNumber rest) :
    readNumber (cs ++ rest) = some (j, rest) := by
  have htake : rest.takeWhile isNumberChar = [] := by
    cases rest with
    | nil => rfl
    | cons c rest => simp [hrest c rfl]
  have hdrop : rest.dropWhile isNumberChar = rest := by
    cases rest with
    | nil => rfl
    | cons c rest => simp [hrest c rfl]
  rw [readNumber, List.takeWhile_append_of_pos hchars,
    List.dropWhile_append_of_pos hchars, htake, hdrop, List.append_nil, hnumber]

theorem isNumberChar_of_isDigit {c : Char} (h : c.isDigit = true) :
    isNumberChar c = true := by
  simp [isNumberChar, h]

theorem isDigit_of_mem_toDigits {n : Nat} {c : Char}
    (h : c ∈ Nat.toDigits 10 n) :
    c.isDigit = true :=
  Nat.isDigit_of_mem_toDigits (by decide) (by decide) h

theorem ofDigits_toDigits (n : Nat) : ofDigits (Nat.toDigits 10 n) = n := by
  have h := Nat.ofDigitChars_ten_toDigits (n := n)
  rw [Nat.ofDigitChars_eq_foldl] at h
  exact h

theorem head?_toDigits_ne_zero {n : Nat} (hn : 0 < n) :
    (Nat.toDigits 10 n).head? ≠ some '0' := by
  induction n using Nat.strongRecOn with
  | ind n ih =>
      by_cases hlt : n < 10
      · have hne : n ≠ 0 := Nat.ne_of_gt hn
        simpa [Nat.toDigits_of_lt_base hlt] using hne
      · have hhead := ih (n / 10) (by omega) (by omega)
        rw [Nat.toDigits_of_base_le (by decide) (by omega), List.head?_append]
        cases hcs : Nat.toDigits 10 (n / 10) with
        | nil => exact absurd hcs Nat.toDigits_ne_nil
        | cons c cs => simpa [hcs] using hhead

theorem isWholePart_cons {c : Char} {cs : List Char} (hc : c ≠ '0')
    (hdigits : ∀ d ∈ c :: cs, d.isDigit = true) :
    isWholePart (c :: cs) = true := by
  rw [isWholePart.eq_3 c cs fun h _ => hc h, decide_eq_true hc, Bool.true_and]
  exact List.all_eq_true.mpr hdigits

theorem isWholePart_toDigits (n : Nat) :
    isWholePart (Nat.toDigits 10 n) = true := by
  rcases Nat.eq_zero_or_pos n with rfl | hn
  · rfl
  · have hdigits : ∀ c ∈ Nat.toDigits 10 n, c.isDigit = true :=
      fun _ => isDigit_of_mem_toDigits
    have hhead := head?_toDigits_ne_zero hn
    cases hcs : Nat.toDigits 10 n with
    | nil => exact absurd hcs Nat.toDigits_ne_nil
    | cons c cs =>
        rw [hcs] at hhead hdigits
        exact isWholePart_cons (fun h => hhead (congrArg some h)) hdigits

/-- The number of digits alone, where a sign stands for a number that is not
zero. -/
theorem ofMagnitude_toDigits (negative : Bool) (n : Nat)
    (h : negative = true → n ≠ 0) :
    ofMagnitude negative (Nat.toDigits 10 n) =
      some (.integer (if negative then -(n : Int) else n)) := by
  have hdigits : ∀ c ∈ Nat.toDigits 10 n, c.isDigit = true :=
    fun _ => isDigit_of_mem_toDigits
  have htake : (Nat.toDigits 10 n ++ []).takeWhile Char.isDigit =
      Nat.toDigits 10 n ++ [] :=
    List.takeWhile_append_of_pos hdigits
  have hdrop : (Nat.toDigits 10 n ++ []).dropWhile Char.isDigit = [] :=
    List.dropWhile_append_of_pos hdigits
  rw [List.append_nil] at htake hdrop
  simp only [ofMagnitude, htake, hdrop, isWholePart_toDigits, ofDigits_toDigits]
  cases negative with
  | false => rfl
  | true =>
      cases n with
      | zero => exact absurd rfl (h rfl)
      | succ n => rfl

theorem toList_toString (value : Int) :
    (toString value).toList =
      if 0 ≤ value then Nat.toDigits 10 value.toNat
      else '-' :: Nat.toDigits 10 (-value).toNat := by
  rw [Int.toString_eq_repr, Int.repr_eq_if]
  split
  · exact Nat.toList_repr
  · rw [String.toList_append, Nat.toList_repr]
    rfl

theorem ofNumber_toString (value : Int) :
    ofNumber (toString value).toList = some (.integer value) := by
  rw [toList_toString]
  split
  · rename_i hvalue
    have hmagnitude := ofMagnitude_toDigits false value.toNat (by simp)
    rw [if_neg (by decide), Int.toNat_of_nonneg hvalue] at hmagnitude
    rw [ofNumber.eq_2 _ ?_, hmagnitude]
    intro rest hcs
    have hdigit :=
      isDigit_of_mem_toDigits (n := value.toNat) (c := '-') (by simp [hcs])
    exact absurd hdigit (by decide)
  · rename_i hvalue
    have hmagnitude := ofMagnitude_toDigits true (-value).toNat (by omega)
    rw [if_pos rfl, Int.toNat_of_nonneg (by omega), Int.neg_neg] at hmagnitude
    exact hmagnitude

theorem isNumberChar_of_mem_toString {value : Int} {c : Char}
    (h : c ∈ (toString value).toList) : isNumberChar c = true := by
  rw [toList_toString] at h
  split at h
  · exact isNumberChar_of_isDigit (isDigit_of_mem_toDigits h)
  · rcases List.mem_cons.mp h with rfl | h
    · rfl
    · exact isNumberChar_of_isDigit (isDigit_of_mem_toDigits h)

/-! ## Values -/

mutual

/-- Whether every number of a value that is kept as it is written is written as
a number. -/
def WellWritten : Json → Prop
  | real literal =>
      ofNumber literal.toList = some (real literal) ∧
        ∀ c ∈ literal.toList, isNumberChar c = true
  | array elements => WellWrittenElements elements
  | object members => WellWrittenMembers members
  | _ => True

def WellWrittenElements : List Json → Prop
  | [] => True
  | element :: rest => WellWritten element ∧ WellWrittenElements rest

def WellWrittenMembers : List (Option String × Json) → Prop
  | [] => True
  | (_, value) :: rest => WellWritten value ∧ WellWrittenMembers rest

end

theorem skipSpaces_cons {c : Char} {cs : List Char} (h : isSpace c = false) :
    skipSpaces (c :: cs) = c :: cs := by
  simp [skipSpaces, h]

theorem isSpace_of_isNumberChar {c : Char} (h : isNumberChar c = true) :
    isSpace c = false := by
  apply Bool.eq_false_iff.mpr
  intro hspace
  simp only [isSpace, Bool.or_eq_true, decide_eq_true_eq] at hspace
  rcases hspace with ((rfl | rfl) | rfl) | rfl <;> exact absurd h (by decide)

theorem readValue_number {fuel : Nat} {c : Char} {cs : List Char}
    (h : isNumberChar c = true) :
    readValue (fuel + 1) (c :: cs) = readNumber (c :: cs) := by
  rw [readValue, skipSpaces_cons (isSpace_of_isNumberChar h)]
  split <;> first | rfl | (rename_i heq; cases heq; exact absurd h (by decide))

/-- A number is read up to the end of its characters. -/
theorem readValue_literal {fuel : Nat} {cs rest : List Char} {j : Json}
    (hnumber : ofNumber cs = some j) (hchars : ∀ c ∈ cs, isNumberChar c = true)
    (hfuel : cs.length ≤ fuel) (hrest : EndsNumber rest) :
    readValue fuel (cs ++ rest) = some (j, rest) := by
  cases cs with
  | nil => simp [ofNumber, ofMagnitude, isWholePart] at hnumber
  | cons c cs =>
      cases fuel with
      | zero => simp at hfuel
      | succ fuel =>
          rw [List.cons_append, readValue_number (hchars c List.mem_cons_self),
            ← List.cons_append]
          exact readNumber_append hnumber hchars hrest

/-- A printed value starts neither with a blank nor with the end of an array. -/
theorem print_eq_cons {j : Json} (hj : WellWritten j) :
    ∃ c cs, print j = c :: cs ∧ isSpace c = false ∧ c ≠ ']' := by
  have hliteral : ∀ cs, ofNumber cs ≠ none → (∀ c ∈ cs, isNumberChar c = true) →
      ∃ c cs', cs = c :: cs' ∧ isSpace c = false ∧ c ≠ ']' := by
    intro cs hnumber hchars
    cases cs with
    | nil => exact absurd rfl hnumber
    | cons c cs =>
        have hc := hchars c List.mem_cons_self
        refine ⟨c, cs, rfl, isSpace_of_isNumberChar hc, ?_⟩
        rintro rfl
        exact absurd hc (by decide)
  cases j with
  | null => exact ⟨'n', ['u', 'l', 'l'], by simp [print], by decide, by decide⟩
  | bool value =>
      cases value with
      | true => exact ⟨'t', ['r', 'u', 'e'],
          by simp [print], by decide, by decide⟩
      | false => exact ⟨'f', ['a', 'l', 's', 'e'],
          by simp [print], by decide, by decide⟩
  | integer value =>
      rw [print]
      exact hliteral _ (by rw [ofNumber_toString]; exact Option.some_ne_none _)
        fun _ => isNumberChar_of_mem_toString
  | real literal =>
      rw [WellWritten] at hj
      rw [print]
      exact hliteral _ (by simp [hj.1]) hj.2
  | string value =>
      obtain ⟨cs, hcs, -⟩ := readString_printString value []
      rw [List.append_nil] at hcs
      exact ⟨'"', cs, by rw [print, hcs], by decide, by decide⟩
  | array elements =>
      cases elements <;> rw [print] <;>
        exact ⟨'[', _, rfl, by decide, by decide⟩
  | object members =>
      rcases members with _ | ⟨⟨name, value⟩, rest⟩ <;> rw [print] <;>
        exact ⟨'\x7b', _, rfl, by decide, by decide⟩

theorem readValue_array {fuel : Nat} {c : Char} {cs : List Char}
    (hspace : isSpace c = false) (hend : c ≠ ']') :
    readValue (fuel + 1) ('[' :: c :: cs) =
      (readElements fuel (c :: cs)).map fun r => (.array r.1, r.2) := by
  rw [readValue, skipSpaces_cons (by decide)]
  simp only [skipSpaces_cons hspace]
  split
  · rename_i heq
    cases heq
    exact absurd rfl hend
  · rfl

theorem readValue_object {fuel : Nat} {c : Char} {cs : List Char}
    (hspace : isSpace c = false) (hend : c ≠ '\x7d') :
    readValue (fuel + 1) ('\x7b' :: c :: cs) =
      (readMembers fuel (c :: cs)).map fun r => (.object r.1, r.2) := by
  rw [readValue, skipSpaces_cons (by decide)]
  simp only [skipSpaces_cons hspace]
  split
  · rename_i heq
    cases heq
    exact absurd rfl hend
  · rfl

theorem readName_printString (name : Option String) (rest : List Char) :
    readName (skipSpaces (printString name ++ ':' :: rest)) =
      some (name, rest) := by
  obtain ⟨cs, hcs, hread⟩ := readString_printString name (':' :: rest)
  rw [hcs, skipSpaces_cons (by decide), readName, hread]
  rfl

theorem endsNumber_cons {c : Char} {rest : List Char}
    (h : isNumberChar c = false) :
    EndsNumber (c :: rest) := by
  rintro d hd
  cases hd
  exact h

theorem endsNumber_printElements (elements : List Json) (rest : List Char) :
    EndsNumber (printElements elements ++ ']' :: rest) := by
  cases elements <;> rw [printElements] <;> exact endsNumber_cons (by decide)

theorem endsNumber_printMembers (members : List (Option String × Json))
    (rest : List Char) :
    EndsNumber (printMembers members ++ '\x7d' :: rest) := by
  rcases members with _ | ⟨⟨name, value⟩, members⟩ <;> rw [printMembers] <;>
    exact endsNumber_cons (by decide)

mutual

theorem readValue_print (j : Json) (hj : WellWritten j) {fuel : Nat}
    {rest : List Char} (hfuel : (print j).length ≤ fuel)
    (hrest : EndsNumber rest) :
    readValue fuel (print j ++ rest) = some (j, rest) := by
  match fuel, j with
  | 0, j =>
      obtain ⟨c, cs, hcs, -⟩ := print_eq_cons hj
      simp [hcs] at hfuel
  | _ + 1, null => simp [print, readValue, skipSpaces, isSpace, readWord]
  | _ + 1, bool true => simp [print, readValue, skipSpaces, isSpace, readWord]
  | _ + 1, bool false => simp [print, readValue, skipSpaces, isSpace, readWord]
  | fuel + 1, integer value =>
      rw [print] at hfuel ⊢
      exact readValue_literal (ofNumber_toString value)
        (fun _ => isNumberChar_of_mem_toString) hfuel hrest
  | fuel + 1, real literal =>
      rw [WellWritten] at hj
      rw [print] at hfuel ⊢
      exact readValue_literal hj.1 hj.2 hfuel hrest
  | fuel + 1, string value =>
      obtain ⟨cs, hcs, hread⟩ := readString_printString value rest
      rw [print, hcs, readValue, skipSpaces_cons (by decide)]
      simp [hread]
  | fuel + 1, array [] => simp [print, readValue, skipSpaces, isSpace]
  | fuel + 1, array (element :: elements) =>
      rw [WellWritten, WellWrittenElements] at hj
      simp only [print, List.length_cons, List.length_append,
        List.length_nil] at hfuel
      have hread : readElements fuel
          (print element ++ (printElements elements ++ ']' :: rest)) =
          some (element :: elements, rest) :=
        readElements_print element elements hj.1 hj.2 (by omega)
      obtain ⟨c, cs, hcs, hspace, hend⟩ := print_eq_cons hj.1
      rw [hcs] at hread
      simp only [print, hcs, List.cons_append, List.append_assoc,
        List.nil_append] at hread ⊢
      rw [readValue_array hspace hend, hread, Option.map_some]
  | fuel + 1, object [] => simp [print, readValue, skipSpaces, isSpace]
  | fuel + 1, object ((name, value) :: members) =>
      rw [WellWritten, WellWrittenMembers] at hj
      simp only [print, List.length_cons, List.length_append,
        List.length_nil] at hfuel
      have hread : readMembers fuel (printString name ++ ':' ::
            (print value ++ (printMembers members ++ '\x7d' :: rest))) =
          some ((name, value) :: members, rest) :=
        readMembers_print name value members hj.1 hj.2 (by omega)
      obtain ⟨cs, hcs, -⟩ := readString_printString name
        (':' :: (print value ++ (printMembers members ++ '\x7d' :: rest)))
      rw [hcs] at hread
      simp only [print, List.cons_append, List.append_assoc, List.nil_append]
      rw [hcs, readValue_object (by decide) (by decide), hread, Option.map_some]

theorem readElements_print (element : Json) (elements : List Json)
    (helement : WellWritten element) (helements : WellWrittenElements elements)
    {fuel : Nat} {rest : List Char}
    (hfuel : (print element).length + (printElements elements).length < fuel) :
    readElements fuel
      (print element ++ (printElements elements ++ ']' :: rest)) =
      some (element :: elements, rest) := by
  match fuel, elements with
  | 0, _ => exact absurd hfuel (Nat.not_lt_zero _)
  | fuel + 1, [] =>
      have hread :
          readValue fuel (print element ++ (printElements [] ++ ']' :: rest)) =
          some (element, printElements [] ++ ']' :: rest) :=
        readValue_print element helement (by omega)
          (endsNumber_printElements [] rest)
      rw [readElements, hread]
      rfl
  | fuel + 1, next :: elements =>
      have hread :
          readValue fuel (print element ++
            (printElements (next :: elements) ++ ']' :: rest)) =
            some (element, printElements (next :: elements) ++ ']' :: rest) :=
        readValue_print element helement (by omega)
          (endsNumber_printElements _ rest)
      rw [WellWrittenElements] at helements
      simp only [printElements, List.length_cons, List.length_append] at hfuel
      have hnext : readElements fuel
          (print next ++ (printElements elements ++ ']' :: rest)) =
          some (next :: elements, rest) :=
        readElements_print next elements helements.1 helements.2 (by omega)
      rw [readElements, hread]
      simp [printElements, skipSpaces_cons, isSpace, hnext]

theorem readMembers_print (name : Option String) (value : Json)
    (members : List (Option String × Json)) (hvalue : WellWritten value)
    (hmembers : WellWrittenMembers members) {fuel : Nat} {rest : List Char}
    (hfuel : (print value).length + (printMembers members).length < fuel) :
    readMembers fuel (printString name ++ ':' ::
        (print value ++ (printMembers members ++ '\x7d' :: rest))) =
      some ((name, value) :: members, rest) := by
  match fuel, members with
  | 0, _ => exact absurd hfuel (Nat.not_lt_zero _)
  | fuel + 1, [] =>
      have hread :
          readValue fuel (print value ++ (printMembers [] ++ '\x7d' :: rest)) =
          some (value, printMembers [] ++ '\x7d' :: rest) :=
        readValue_print value hvalue (by omega)
          (endsNumber_printMembers [] rest)
      rw [readMembers, readName_printString]
      simp only [hread]
      rfl
  | fuel + 1, (nextName, next) :: members =>
      have hread : readValue fuel
            (print value ++
              (printMembers ((nextName, next) :: members) ++ '\x7d' :: rest)) =
          some (value, printMembers ((nextName, next) :: members) ++
            '\x7d' :: rest) :=
        readValue_print value hvalue (by omega) (endsNumber_printMembers _ rest)
      rw [WellWrittenMembers] at hmembers
      simp only [printMembers, List.length_cons, List.length_append] at hfuel
      have hnext : readMembers fuel (printString nextName ++ ':' ::
            (print next ++ (printMembers members ++ '\x7d' :: rest))) =
          some ((nextName, next) :: members, rest) :=
        readMembers_print nextName next members hmembers.1 hmembers.2 (by omega)
      rw [readMembers, readName_printString]
      simp only [hread]
      simp [printMembers, skipSpaces_cons, isSpace, hnext]

end

theorem parse?_render {j : Json} (hj : WellWritten j) :
    parse? (render j) = some j := by
  have hread : readValue (2 * (print j).length + 1) (print j) =
      some (j, []) := by
    have hread : readValue (2 * (print j).length + 1) (print j ++ []) =
        some (j, []) :=
      readValue_print j hj (by omega) (by simp [EndsNumber])
    rwa [List.append_nil] at hread
  simp [parse?, render, ofChars?, hread, skipSpaces]

end UnitOfWork.Json
