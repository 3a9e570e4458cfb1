import Mathlib
import UnitOfWork.Isolation.Request

/-!
# How isolation levels are spelled

Two parsers read isolation levels.  That of a connection's levels takes every
text: it trims it, reads any separator as a space and compares the result with
the SQL spellings, and what spells no standard level is kept as it was written.
That of requests takes the five names only, with underscores between the words.

Both compare letters without their case, and all that they have in common is
that separators are no letters: a text spells a standard level for the one
exactly if, trimmed and with underscores for its separators, it names that level
for the other.
-/

namespace UnitOfWork

namespace Text

/-- Trimming a text a second time takes nothing away. -/
@[simp]
theorem trimChars_trimChars (cs : List Char) :
    trimChars (trimChars cs) = trimChars cs := by
  have htrim : ∀ l, trimChars l = (l.dropWhile isBlank).rdropWhile isBlank :=
    fun _ => rfl
  have hfirst := List.rdropWhile_prefix isBlank (cs.dropWhile isBlank)
  -- The first character that is left is the one that stopped the trimming in
  -- front.
  have hfront : (trimChars cs).dropWhile isBlank = trimChars cs := by
    rw [htrim, List.dropWhile_eq_self_iff]
    intro hl
    rw [hfirst.getElem hl]
    exact List.dropWhile_get_zero_not isBlank cs
      (Nat.lt_of_lt_of_le hl hfirst.length_le)
  rw [htrim (trimChars cs), hfront, htrim, List.rdropWhile_idempotent]

/-- There is nothing to trim where no character is blank. -/
theorem trimChars_of_forall {cs : List Char} (h : ∀ c ∈ cs, isBlank c = false) :
    trimChars cs = cs := by
  have hkept : ∀ l : List Char, (∀ c ∈ l, isBlank c = false) →
      l.dropWhile isBlank = l := by
    intro l hl
    rw [List.dropWhile_eq_self_iff]
    intro hpos
    rw [hl _ (List.getElem_mem hpos)]
    exact Bool.false_ne_true
  rw [trimChars, hkept cs h, trimEnd,
    hkept _ fun c hc => h c (List.mem_reverse.mp hc), List.reverse_reverse]

/-- What is no small letter is the lower case of nothing but itself. -/
theorem eq_of_toLower_eq {c x : Char} (hx : x.isLower = false)
    (h : c.toLower = x) :
    c = x := by
  have halpha : c.isAlpha = false := by
    rw [← Char.isLower_toLower_eq_isAlpha, h, hx]
  have hupper : ¬c.isUpper = true := by
    intro hupper
    simp [Char.isAlpha, hupper] at halpha
  rw [← h, Char.toLower_eq_of_not_isUpper hupper]

/-- Blank characters have no case. -/
theorem isBlank_of_toLower {c : Char} (h : isBlank c.toLower = false) :
    isBlank c = false := by
  have hblanks : blanks.all (fun x => x.toLower = x) = true := by
    decide
  cases hc : isBlank c with
  | false => rfl
  | true =>
      have hsame := List.all_eq_true.mp hblanks c (List.contains_iff_mem.mp hc)
      rw [of_decide_eq_true hsame, hc] at h
      cases h

theorem sameLetters_equivalence :
    Equivalence fun s t => sameLetters s t = true where
  refl := sameLetters_self
  symm h := sameLetters_iff.mpr (sameLetters_iff.mp h).symm
  trans h h' :=
    sameLetters_iff.mpr ((sameLetters_iff.mp h).trans (sameLetters_iff.mp h'))

end Text

/-! ## The parser of levels -/

namespace StandardLevel

/-- Two standard levels whose spellings have the same letters are the same. -/
theorem eq_of_foldCase {l m : StandardLevel}
    (h : Text.foldCase l.sql = Text.foldCase m.sql) :
    l = m := by
  revert h
  cases l <;> cases m <;> decide

/-- No separator but the space is in the spelling of a standard level. -/
theorem separatorToSpace_of_mem {l : StandardLevel} {c : Char}
    (hc : c.toLower ∈ Text.foldCase l.sql) : Level.separatorToSpace c = c := by
  have hsql : (Text.foldCase l.sql).all
      (fun x => x ≠ '_' ∧ x ≠ '-') = true := by
    cases l <;> decide
  obtain ⟨hunderscore, hhyphen⟩ :=
    of_decide_eq_true (List.all_eq_true.mp hsql _ hc)
  rw [Level.separatorToSpace, if_neg]
  rintro (rfl | rfl)
  · exact hunderscore rfl
  · exact hhyphen rfl

end StandardLevel

namespace Level

theorem foldCase_spaced (s : String) : Text.foldCase (spaced s) =
    (Text.trimChars s.toList).map (Char.toLower ∘ separatorToSpace) := by
  simp [Text.foldCase, spaced]

@[simp]
theorem spaced_trim (s : String) : spaced (Text.trim s) = spaced s := by
  simp [spaced]

/-- A text names a standard level if it spells it. -/
theorem parse_eq_standard_iff {s : String} {l : StandardLevel} :
    parse s = standard l ↔ Text.foldCase l.sql = Text.foldCase (spaced s) := by
  rw [parse]
  cases hfind : StandardLevel.all.find? fun l =>
      Text.sameLetters l.sql (spaced s) with
  | none =>
      have hnone := List.find?_eq_none.mp hfind l l.mem_all
      rw [Text.sameLetters_iff] at hnone
      simp [hnone]
  | some m =>
      have hm := List.find?_some hfind
      rw [Text.sameLetters_iff] at hm
      simp only [standard.injEq]
      constructor
      · rintro rfl
        exact hm
      · intro h
        exact StandardLevel.eq_of_foldCase (hm.trans h.symm)

/-- A text that spells no standard level names the vendor's level of the trimmed
text. -/
theorem parse_eq_vendor_iff {s name : String} : parse s = vendor name ↔
    name = Text.trim s ∧ ∀ l : StandardLevel,
    Text.foldCase l.sql ≠ Text.foldCase (spaced s) := by
  constructor
  · intro h
    refine ⟨?_, fun l hl => ?_⟩
    · rw [parse] at h
      split at h
      · cases h
      · exact (vendor.inj h).symm
    · rw [parse_eq_standard_iff.mpr hl] at h
      cases h
  · rintro ⟨rfl, hnone⟩
    cases hparse : parse s with
    | standard l => exact absurd (parse_eq_standard_iff.mp hparse) (hnone l)
    | vendor other =>
        rw [parse] at hparse
        split at hparse
        · cases hparse
        · rw [← vendor.inj hparse]

theorem parse_sql (l : StandardLevel) : parse l.sql = standard l := by
  rw [parse_eq_standard_iff]
  cases l <;> decide +kernel

/-- A text that has the letters of a standard spelling as it is, names that
level. -/
theorem parse_of_trim {s : String} {l : StandardLevel}
    (h : Text.foldCase l.sql = Text.foldCase (Text.trim s)) :
    parse s = standard l := by
  rw [parse_eq_standard_iff, h, foldCase_spaced, Text.foldCase,
    Text.toList_trim]
  apply List.map_congr_left
  intro c hc
  have hmem : c.toLower ∈ Text.foldCase l.sql := by
    rw [h, Text.foldCase, Text.toList_trim]
    exact List.mem_map_of_mem hc
  rw [Function.comp_apply, StandardLevel.separatorToSpace_of_mem hmem]

theorem equivalent_iff {l m : Level} :
    l.equivalent m = true ↔ Text.foldCase l.sql = Text.foldCase m.sql :=
  Text.sameLetters_iff

/-- The vendor's level that a text names is not equivalent to a standard one. -/
theorem not_equivalent_of_vendor {s name : String} (h : parse s = vendor name)
    (l : StandardLevel) : ¬(parse s).equivalent (standard l) = true := by
  rw [h, equivalent_iff]
  intro hfold
  obtain ⟨rfl, -⟩ := parse_eq_vendor_iff.mp h
  rw [parse_of_trim hfold.symm] at h
  cases h

/-- A level that was read from a text is equivalent to a standard one only if it
is that one. -/
theorem parse_equivalent_standard {s : String} {l : StandardLevel} :
    (parse s).equivalent (standard l) = true ↔ parse s = standard l := by
  cases hs : parse s with
  | standard m =>
      rw [equivalent_iff]
      constructor
      · intro h
        rw [StandardLevel.eq_of_foldCase h]
      · intro h
        rw [h]
  | vendor name =>
      have hnot := not_equivalent_of_vendor hs l
      rw [hs] at hnot
      simp [hnot]

theorem equivalent_equivalence :
    Equivalence fun l m : Level => l.equivalent m = true :=
  Text.sameLetters_equivalence.comap sql

/-- Reading a level brings it into a canonical form.  The spelling of the level
that a text names is read as that level again; a vendor's level is named by the
trimmed text and is equivalent to no standard level; and of two levels that were
read, of which one is a standard one, each is equivalent to the other only if
they are the same.  Equivalence is an equivalence relation on all levels, those
that were not read included. -/
theorem parse_canonical (s : String) :
    parse (parse s).sql = parse s ∧
      (∀ name, parse s = vendor name → name = Text.trim s ∧
        ∀ l, (parse s).equivalent (standard l) = false) ∧
      (∀ (t : String) (l : StandardLevel), parse s = standard l ∨
        parse t = standard l →
        ((parse s).equivalent (parse t) = true ↔ parse s = parse t)) ∧
      Equivalence fun l m : Level => l.equivalent m = true := by
  refine ⟨?_, fun name hname => ?_, fun t l hstandard => ?_,
    equivalent_equivalence⟩
  · cases hs : parse s with
    | standard l => exact parse_sql l
    | vendor name =>
        obtain ⟨rfl, hnone⟩ := parse_eq_vendor_iff.mp hs
        rw [sql, parse_eq_vendor_iff, spaced_trim]
        exact ⟨by simp [Text.trim], hnone⟩
  · refine ⟨(parse_eq_vendor_iff.mp hname).1, fun l => ?_⟩
    exact Bool.eq_false_iff.mpr (not_equivalent_of_vendor hname l)
  · rcases hstandard with hs | ht
    · have hsymm : (parse s).equivalent (parse t) = true ↔
          (parse t).equivalent (parse s) = true :=
        ⟨equivalent_equivalence.symm, equivalent_equivalence.symm⟩
      rw [hsymm, hs, parse_equivalent_standard]
      exact eq_comm
    · rw [ht]
      exact parse_equivalent_standard

end Level

/-! ## The parser of requests -/

namespace IsolationRequest

def separatorToUnderscore (c : Char) : Char :=
  if c = '-' ∨ c = ' ' then '_' else c

def underscored (s : String) : String :=
  String.ofList ((Text.trimChars s.toList).map separatorToUnderscore)

theorem mem_all (r : IsolationRequest) : r ∈ all := by
  cases r with
  | default => exact List.mem_cons_self
  | exactly l => exact List.mem_cons_of_mem _ (List.mem_map_of_mem l.mem_all)

/-- Two requests whose names have the same letters are the same. -/
theorem eq_of_foldCase {r r' : IsolationRequest}
    (h : Text.foldCase r.name = Text.foldCase r'.name) : r = r' := by
  have hall : ∀ r ∈ all, ∀ r' ∈ all,
      Text.foldCase r.name = Text.foldCase r'.name → r = r' := by
    decide
  exact hall r r.mem_all r' r'.mem_all h

/-- A text names a request if it has the letters of its name. -/
theorem parse?_eq_some_iff {s : String} {r : IsolationRequest} :
    parse? s = some r ↔ Text.foldCase r.name = Text.foldCase s := by
  rw [parse?]
  constructor
  · intro h
    have hr := List.find?_some h
    exact Text.sameLetters_iff.mp hr
  · intro h
    cases hfind : all.find? fun r => Text.sameLetters r.name s with
    | none =>
        have hnone := List.find?_eq_none.mp hfind r r.mem_all
        exact absurd (Text.sameLetters_iff.mpr h) hnone
    | some r' =>
        have hr' := List.find?_some hfind
        rw [eq_of_foldCase ((Text.sameLetters_iff.mp hr').trans h.symm)]

theorem resolve_eq_some_iff {r : IsolationRequest} {l : StandardLevel} :
    r.resolve = some (.standard l) ↔ r = exactly l := by
  cases r <;> simp [resolve]

theorem foldCase_underscored (s : String) : Text.foldCase (underscored s) =
    (Text.trimChars s.toList).map (Char.toLower ∘ separatorToUnderscore) := by
  simp [Text.foldCase, underscored]

/-- Separators are written in one way or the other, and letters are the same in
both. -/
theorem toLower_separator (c : Char) :
    separatorToUnderscore (Level.separatorToSpace c).toLower =
        (separatorToUnderscore c).toLower ∧
      Level.separatorToSpace (separatorToUnderscore c).toLower =
        (Level.separatorToSpace c).toLower := by
  by_cases hseparator : c = '_' ∨ c = '-' ∨ c = ' '
  · rcases hseparator with rfl | rfl | rfl <;> decide
  · obtain ⟨hunderscore, hhyphen, hspace⟩ := by
      simpa only [not_or] using hseparator
    have hkept : ∀ x, x.isLower = false → c ≠ x → c.toLower ≠ x :=
      fun x hx hne hlower => hne (Text.eq_of_toLower_eq hx hlower)
    have hunderscore' := hkept '_' (by decide) hunderscore
    have hhyphen' := hkept '-' (by decide) hhyphen
    have hspace' := hkept ' ' (by decide) hspace
    simp [separatorToUnderscore, Level.separatorToSpace, *]

/-- The two ways to write the separators of a text can be told from each
other. -/
theorem foldCase_separators (s : String) :
    Text.foldCase (underscored s) =
        (Text.foldCase (Level.spaced s)).map separatorToUnderscore ∧
      Text.foldCase (Level.spaced s) =
        (Text.foldCase (underscored s)).map Level.separatorToSpace := by
  rw [foldCase_underscored, Level.foldCase_spaced, List.map_map, List.map_map]
  constructor
  · exact List.map_congr_left fun c _ => (toLower_separator c).1.symm
  · exact List.map_congr_left fun c _ => (toLower_separator c).2.symm

/-- The name of a request is the spelling of its level with underscores. -/
theorem foldCase_name (l : StandardLevel) :
    Text.foldCase (exactly l).name =
      (Text.foldCase l.sql).map separatorToUnderscore ∧
      Text.foldCase l.sql =
        (Text.foldCase (exactly l).name).map Level.separatorToSpace := by
  cases l <;> decide

/-- No letter of a name is blank, and no separator is in a name but the
underscore. -/
theorem plain_of_mem {r : IsolationRequest} {x : Char}
    (hx : x ∈ Text.foldCase r.name) :
    Text.isBlank x = false ∧ separatorToUnderscore x = x := by
  have hall : all.all (fun r => (Text.foldCase r.name).all fun x =>
      Text.isBlank x = false ∧ separatorToUnderscore x = x) = true := by
    decide
  have hname := List.all_eq_true.mp hall r r.mem_all
  exact of_decide_eq_true (List.all_eq_true.mp hname x hx)

/-- A text that names a request has no separators but underscores, and nothing
to trim. -/
theorem underscored_of_parse? {s : String} {r : IsolationRequest}
    (h : parse? s = some r) :
    underscored s = s := by
  have hchars : ∀ c ∈ s.toList, Text.isBlank c = false ∧
      separatorToUnderscore c = c := by
    intro c hc
    have hmem : c.toLower ∈ Text.foldCase r.name := by
      rw [parse?_eq_some_iff.mp h]
      exact List.mem_map_of_mem hc
    obtain ⟨hlower, hkept⟩ := plain_of_mem hmem
    refine ⟨Text.isBlank_of_toLower hlower, ?_⟩
    rw [separatorToUnderscore, if_neg]
    rintro (rfl | rfl) <;> exact absurd hkept (by decide)
  rw [underscored, Text.trimChars_of_forall fun c hc => (hchars c hc).1,
    List.map_congr_left fun c hc => (hchars c hc).2]
  simp

/-- A text names a standard level if it names the request for it once it is
trimmed and its separators are written as underscores. -/
theorem parse_eq_standard_iff_underscored {s : String} {l : StandardLevel} :
    Level.parse s = .standard l ↔
      parse? (underscored s) = some (exactly l) := by
  rw [Level.parse_eq_standard_iff, parse?_eq_some_iff]
  constructor
  · intro h
    rw [(foldCase_name l).1, h, (foldCase_separators s).1]
  · intro h
    rw [(foldCase_name l).2, h, (foldCase_separators s).2]

/-- The two parsers agree.  A text names a standard level for the one exactly
if, trimmed and with underscores for hyphens and spaces, it names a request that
resolves to the level for the other.  So a text that names a request names the
level that the request resolves to, and one that names the default request names
a vendor's level. -/
theorem parsers_agree (s : String) :
    (∀ l, Level.parse s = .standard l ↔
      ∃ r, parse? (underscored s) = some r ∧ r.resolve = some (.standard l)) ∧
    (∀ r, parse? s = some r → r ≠ default → r.resolve = some (Level.parse s)) ∧
    (parse? s = some default → ∃ name, Level.parse s = .vendor name) := by
  refine ⟨fun l => ?_, fun r hr hne => ?_, fun hdefault => ?_⟩
  · rw [parse_eq_standard_iff_underscored]
    constructor
    · intro h
      exact ⟨exactly l, h, rfl⟩
    · rintro ⟨r, hr, hresolve⟩
      rw [hr, resolve_eq_some_iff.mp hresolve]
  · cases r with
    | default => exact absurd rfl hne
    | exactly l =>
        rw [resolve, parse_eq_standard_iff_underscored.mpr]
        rw [underscored_of_parse? hr, hr]
  · cases hs : Level.parse s with
    | vendor name => exact ⟨name, rfl⟩
    | standard l =>
        rw [parse_eq_standard_iff_underscored, underscored_of_parse? hdefault,
          hdefault] at hs
        cases hs

end IsolationRequest

end UnitOfWork
