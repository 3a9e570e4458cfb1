import UnitOfWork.Policy.Format
import UnitOfWork.Proofs.PrintedValues

/-!
# The written forms of policies are read back

A definition is written as an object with one member for each of its fields, and
so are the settings of a coordinator.  The reader takes less: the fields may
come in any order and between members that it does not know, and those that are
missing have their defaults.  What a record takes from an object is said once,
for any layout of fields, from what is said of each field alone.
-/

namespace UnitOfWork

namespace Json

/-! ## Choices -/

/-- The ways in which a choice without a content is written. -/
def IsPlain (name : String) (j : Json) : Prop :=
  j = text name ∨ j = record [(name, null)]

theorem plainChoice?_eq_some_iff {name : String} {j : Json} :
    plainChoice? j = some name ↔ IsPlain name j := by
  constructor
  · intro h
    simp only [plainChoice?, choice?] at h
    split at h
    · rename_i heq
      cases h
      split at heq <;> cases heq
      exact .inl rfl
    · rename_i heq
      cases h
      split at heq <;> cases heq
      exact .inr rfl
    · cases h
  · rintro (rfl | rfl) <;> rfl

theorem oneOf?_eq_some_iff {name : α → String} {values : List α} {j : Json}
    {v : α} (hname : ∀ v ∈ values, ∀ w ∈ values, name v = name w → v = w) :
    oneOf? name values j = some v ↔ v ∈ values ∧ IsPlain (name v) j := by
  simp only [oneOf?, Option.bind_eq_some_iff, plainChoice?_eq_some_iff]
  constructor
  · rintro ⟨n, hplain, hfind⟩
    have hn : name v = n := by simpa using List.find?_some hfind
    exact ⟨List.mem_of_find?_eq_some hfind, hn ▸ hplain⟩
  · rintro ⟨hv, hplain⟩
    refine ⟨name v, hplain, ?_⟩
    cases hfind : values.find? fun w => name w = name v with
    | none => simpa using List.find?_eq_none.mp hfind v hv
    | some w =>
        have hw : name w = name v := by simpa using List.find?_some hfind
        rw [hname w (List.mem_of_find?_eq_some hfind) v hv hw]

theorem int64?_eq_some_iff {j : Json} {n : Int64} :
    int64? j = some n ↔ j = ofInt64 n := by
  constructor
  · intro h
    cases j with
    | integer value =>
        simp only [int64?] at h
        split at h
        · rename_i hrange
          cases h
          rw [ofInt64,
            Int64.toInt_ofInt_of_le hrange.1 (Int.lt_add_one_of_le hrange.2)]
        · cases h
    | _ => cases h
  · rintro rfl
    simp only [int64?, ofInt64]
    rw [if_pos ⟨Int64.minValue_le_toInt n, Int64.toInt_le n⟩, Int64.ofInt_toInt]

theorem bool?_eq_some_iff {j : Json} {b : Bool} :
    j.bool? = some b ↔ j = bool b := by
  cases j <;> simp [bool?]

theorem text?_eq_some_iff {j : Json} {s : String} :
    j.text? = some s ↔ j = text s := by
  cases j <;> simp [text?, text]

/-- What may be missing is written like the value itself, unless that is written
like nothing. -/
theorem optional?_eq_some_iff {read : Json → Option α} {write : α → Json}
    (hread : ∀ {j : Json} {a : α}, read j = some a ↔ j = write a)
    (hnull : read null = none) {j : Json} {o : Option α} :
    optional? read j = some o ↔ j = ofOptional write o := by
  cases j with
  | null =>
      cases o with
      | none => simp [optional?, ofOptional]
      | some a =>
          have hne : null ≠ write a := fun h => by simp [hread.mpr h] at hnull
          simpa [optional?, ofOptional] using hne
  | _ => cases o <;> simp [optional?, ofOptional, hread]

/-! ## Records -/

theorem lookup_of_mem {members : List (String × Json)} {name : String}
    {value : Json} (hnodup : (members.map (·.1)).Nodup)
    (hmem : (name, value) ∈ members) :
    members.lookup name = some value := by
  induction members with
  | nil => cases hmem
  | cons m members ih =>
      obtain ⟨other, otherValue⟩ := m
      rw [List.map_cons, List.nodup_cons] at hnodup
      rcases List.mem_cons.mp hmem with heq | hmem
      · cases heq
        exact List.lookup_cons_self
      · have hin : name ∈ members.map (·.1) := List.mem_map.mpr ⟨_, hmem, rfl⟩
        have hne : (name == other) = false := by
          rw [beq_eq_false_iff_ne]
          intro heq
          exact hnodup.1 (heq ▸ hin)
        rw [List.lookup_cons, hne]
        exact ih hnodup.2 hmem

/-- How the fields of a record are written: under which names, in which forms,
and what one of them does to the record. -/
structure Layout (F α : Type) where
  names : List String
  key : F → String
  key_mem : ∀ f, key f ∈ names
  form : F → Json → Prop
  set : F → α → α

/-- A member of an object: a field in one of its forms, or a member of another
name. -/
inductive Entry (layout : Layout F α) where
  | known (field : F) (value : Json) (h : layout.form field value)
  | unknown (name : String) (value : Json) (h : name ∉ layout.names)

namespace Entry

variable {layout : Layout F α}

def member : Entry layout → String × Json
  | known field value _ => (layout.key field, value)
  | unknown name value _ => (name, value)

def field? : Entry layout → Option F
  | known field _ _ => some field
  | unknown .. => none

end Entry

namespace Layout

variable (layout : Layout F α)

/-- The members that are fields. -/
def known (members : List (String × Json)) : List (String × Json) :=
  members.filter fun m => m.1 ∈ layout.names

def fields (entries : List (Entry layout)) : List F :=
  entries.filterMap Entry.field?

def replace (a : α) (fields : List F) : α :=
  fields.foldl (fun a f => layout.set f a) a

end Layout

/-- The reader of an object takes its members if no field is repeated. -/
theorem known?_record (names : List String) (members : List (String × Json)) :
    known? names (members.map fun m => (some m.1, m.2)) =
      if ((members.filter fun m => m.1 ∈ names).map (·.1)).Nodup then
        some (members.filter fun m => m.1 ∈ names)
      else none := by
  induction members with
  | nil => rfl
  | cons m members ih =>
      obtain ⟨name, value⟩ := m
      rw [List.map_cons, known?, ih]
      by_cases hname : name ∈ names
      · rw [List.filter_cons_of_pos (by simpa using hname), List.map_cons]
        by_cases hnodup :
          ((members.filter fun m => m.1 ∈ names).map (·.1)).Nodup
        · by_cases hagain : name ∈ (members.filter
            fun m => m.1 ∈ names).map (·.1)
          · rw [if_pos hnodup, if_neg fun h => (List.nodup_cons.mp h).1 hagain]
            simp only [hname, not_true_eq_false, if_false, hagain, if_true]
          · rw [if_pos hnodup, if_pos (List.nodup_cons.mpr ⟨hagain, hnodup⟩)]
            simp only [hname, not_true_eq_false, if_false, hagain]
        · rw [if_neg hnodup, if_neg fun h => hnodup (List.nodup_cons.mp h).2]
      · rw [List.filter_cons_of_neg (by simpa using hname)]
        split
        · rename_i heq
          exact heq.symm
        · rename_i heq
          rw [if_pos hname]
          exact heq.symm

namespace Layout

variable {layout : Layout F α}

@[simp]
theorem known_map_known (f : F) (value : Json) (h : layout.form f value)
    (entries : List (Entry layout)) :
    layout.known ((Entry.known f value h :: entries).map Entry.member) =
      (layout.key f, value) :: layout.known (entries.map Entry.member) :=
  List.filter_cons_of_pos (decide_eq_true (layout.key_mem f))

@[simp]
theorem known_map_unknown (name : String) (value : Json)
    (h : name ∉ layout.names) (entries : List (Entry layout)) :
    layout.known ((Entry.unknown name value h :: entries).map Entry.member) =
      layout.known (entries.map Entry.member) :=
  List.filter_cons_of_neg fun hname => h (of_decide_eq_true hname)

@[simp]
theorem fields_known (f : F) (value : Json) (h : layout.form f value)
    (entries : List (Entry layout)) :
    layout.fields (Entry.known f value h :: entries) =
      f :: layout.fields entries := rfl

@[simp]
theorem fields_unknown (name : String) (value : Json) (h : name ∉ layout.names)
    (entries : List (Entry layout)) :
    layout.fields (Entry.unknown name value h :: entries) =
      layout.fields entries := rfl

/-- The names of the fields among the members are the names of the fields of the
entries. -/
theorem map_known_member (entries : List (Entry layout)) :
    (layout.known (entries.map Entry.member)).map (·.1) =
      (layout.fields entries).map layout.key := by
  induction entries with
  | nil => rfl
  | cons entry entries ih =>
      cases entry with
      | known f value h =>
          rw [known_map_known, fields_known, List.map_cons, List.map_cons, ih]
      | unknown name value h => rw [known_map_unknown, fields_unknown, ih]

/-- How the field of one name is read: from its forms and from nothing else, and
in its place in the record, which no field of another name changes. -/
structure Slot (layout : Layout F α) (field : β → F) (name : String)
    (get : α → β) (read : Json → Option β) : Prop where
  key_field (b : β) : layout.key (field b) = name
  eq_field {f : F} : layout.key f = name → ∃ b, f = field b
  form_field {b : β} {value : Json} : layout.form (field b) value ↔
    read value = some b
  get_set_field (b : β) (a : α) : get (layout.set (field b) a) = b
  get_set {f : F} (a : α) : layout.key f ≠ name → get (layout.set f a) = get a

namespace Slot

variable {field : β → F} {name : String} {get : α → β} {read : Json → Option β}

theorem get_replace (slot : Slot layout field name get read) (a : α)
    (fs : List F) (h : name ∉ fs.map layout.key) :
    get (layout.replace a fs) = get a := by
  induction fs generalizing a with
  | nil => rfl
  | cons f fs ih =>
      simp only [List.map_cons, List.mem_cons, not_or] at h
      exact (ih (layout.set f a) h.2).trans (slot.get_set a (Ne.symm h.1))

theorem field?_known (slot : Slot layout field name get read) (a : α)
    (entries : List (Entry layout))
    (hnodup : ((layout.fields entries).map layout.key).Nodup) :
    field? read (get a) name (layout.known (entries.map Entry.member)) =
      some (get (layout.replace a (layout.fields entries))) := by
  induction entries generalizing a with
  | nil => rfl
  | cons entry entries ih =>
      cases entry with
      | unknown other value h =>
          rw [known_map_unknown, fields_unknown]
          exact ih a hnodup
      | known f value h =>
          rw [fields_known, List.map_cons, List.nodup_cons] at hnodup
          rw [known_map_known, fields_known, field?, List.lookup_cons]
          by_cases hkey : layout.key f = name
          · obtain ⟨b, rfl⟩ := slot.eq_field hkey
            rw [hkey] at hnodup
            have hrest := slot.get_replace (layout.set (field b) a) _ hnodup.1
            rw [slot.get_set_field] at hrest
            simp only [hkey, beq_self_eq_true, slot.form_field.mp h]
            exact congrArg some hrest.symm
          · have hne : (name == layout.key f) = false := by
              simpa using Ne.symm hkey
            have hrest := ih (layout.set f a) hnodup.2
            rw [slot.get_set a hkey] at hrest
            rw [hne]
            exact hrest

/-- A value in no form of the field is not read, wherever it stands. -/
theorem field?_eq_none (slot : Slot layout field name get read) (default : β)
    {members : List (String × Json)} {value : Json}
    (hnodup : (members.map (·.1)).Nodup) (hmem : (name, value) ∈ members)
    (hform : ∀ f, layout.key f = name → ¬ layout.form f value) :
    field? read default name members = none := by
  rw [field?, lookup_of_mem hnodup hmem]
  cases hread : read value with
  | none => exact hread
  | some b =>
      exact absurd (slot.form_field.mpr hread)
        (hform (field b) (slot.key_field b))

end Slot

/-- How the text of an object is read as a record.  The fields that it has
replace those of the default record, in any order and whatever other members
stand between them.  An object that repeats a field, or has a field in none of
its forms, is refused. -/
structure Reads (layout : Layout F α) (ofText? : String → Option α)
    (default : α) : Prop where
  replaced (s : String) (entries : List (Entry layout)) :
    parse? s = some (record (entries.map Entry.member)) →
    ((layout.fields entries).map layout.key).Nodup →
    ofText? s = some (layout.replace default (layout.fields entries))
  repeated (s : String) (members : List (String × Json)) :
    parse? s = some (record members) →
    ¬ ((layout.known members).map (·.1)).Nodup →
    ofText? s = none
  formless (s : String) (members : List (String × Json)) (name : String)
    (value : Json) : parse? s = some (record members) →
    name ∈ layout.names →
    (name, value) ∈ members →
    (∀ f, layout.key f = name → ¬ layout.form f value) →
    ofText? s = none

/-- A reader of records is given by what it makes of the fields that are
there. -/
theorem reads_of_fields {ofText? : String → Option α}
    {ofFields? : List (String × Json) → Option α} {default : α}
    (hread : ∀ s, ofText? s = (parse? s).bind fun j =>
      (j.fields? layout.names).bind ofFields?)
    (hknown : ∀ entries : List (Entry layout),
      ((layout.fields entries).map layout.key).Nodup →
      ofFields? (layout.known (entries.map Entry.member)) =
        some (layout.replace default (layout.fields entries)))
    (hformless : ∀ (members : List (String × Json)) (name : String)
      (value : Json),
      (members.map (·.1)).Nodup → name ∈ layout.names →
      (name, value) ∈ members →
      (∀ f, layout.key f = name → ¬ layout.form f value) →
      ofFields? members = none) :
    layout.Reads ofText? default where
  replaced s entries hparse hnodup := by
    have hfields : (record (entries.map Entry.member)).fields? layout.names =
        some (layout.known (entries.map Entry.member)) := by
      rw [← map_known_member] at hnodup
      exact (known?_record layout.names _).trans (if_pos hnodup)
    rw [hread, hparse, Option.bind_some, hfields, Option.bind_some,
      hknown entries hnodup]
  repeated s members hparse hnodup := by
    have hfields : (record members).fields? layout.names = none :=
      (known?_record layout.names members).trans (if_neg hnodup)
    rw [hread, hparse, Option.bind_some, hfields, Option.bind_none]
  formless s members name value hparse hname hmem hform := by
    rw [hread, hparse, Option.bind_some]
    by_cases hnodup : ((layout.known members).map (·.1)).Nodup
    · have hfields : (record members).fields? layout.names =
          some (layout.known members) :=
        (known?_record layout.names members).trans (if_pos hnodup)
      have hin : (name, value) ∈ layout.known members :=
        List.mem_filter.mpr ⟨hmem, decide_eq_true hname⟩
      rw [hfields, Option.bind_some,
        hformless _ name value hnodup hname hin hform]
    · have hfields : (record members).fields? layout.names = none :=
        (known?_record layout.names members).trans (if_neg hnodup)
      rw [hfields, Option.bind_none]

end Layout

end Json

/-! ## The forms of the fields -/

theorem Propagation.ofJson?_eq_some_iff {j : Json} {p : Propagation} :
    Propagation.ofJson? j = some p ↔ Json.IsPlain p.name j := by
  have hname : ∀ v ∈ Propagation.all, ∀ w ∈ Propagation.all,
      v.name = w.name → v = w := by decide
  have hmem : p ∈ Propagation.all := by cases p <;> decide
  rw [ofJson?, Json.oneOf?_eq_some_iff hname, and_iff_right hmem]

theorem IsolationRequest.ofJson?_eq_some_iff {j : Json} {r : IsolationRequest} :
    IsolationRequest.ofJson? j = some r ↔ Json.IsPlain r.name j := by
  have hname : ∀ v ∈ IsolationRequest.all, ∀ w ∈ IsolationRequest.all,
      v.name = w.name → v = w := by decide
  have hmem : r ∈ IsolationRequest.all := by
    rcases r with _ | (_ | _ | _ | _) <;> decide
  rw [ofJson?, Json.oneOf?_eq_some_iff hname, and_iff_right hmem]

def Timeout.IsForm : Timeout → Json → Prop
  | .default, j => Json.IsPlain "default" j
  | .seconds count, j => j = .record [("seconds", .ofInt64 count)]

theorem Timeout.isForm_toJson (t : Timeout) : t.IsForm t.toJson := by
  cases t with
  | default => exact .inl rfl
  | seconds count => rfl

theorem Timeout.ofJson?_eq_some_iff {j : Json} {t : Timeout} :
    Timeout.ofJson? j = some t ↔ t.IsForm j := by
  rw [ofJson?]
  split
  · rename_i content hchoice
    have hj : j = .record [("seconds", content)] := by
      simp only [Json.choice?] at hchoice
      split at hchoice <;> cases hchoice
      rfl
    subst hj
    cases t with
    | default => simp [IsForm, Json.IsPlain, Json.record, Json.text]
    | seconds count =>
        simp [IsForm, Json.record, Json.int64?_eq_some_iff]
  · rename_i hchoice
    have hother : ∀ count, ¬ IsForm (seconds count) j := by
      rintro count rfl
      exact hchoice (.ofInt64 count) rfl
    split
    · rename_i hplain
      have hj := Json.plainChoice?_eq_some_iff.mp hplain
      cases t with
      | default => exact iff_of_true rfl hj
      | seconds count => exact iff_of_false (fun h => by cases h) (hother count)
    · rename_i hplain
      refine iff_of_false (fun h => by cases h) fun hform => ?_
      cases t with
      | default => exact hplain (Json.plainChoice?_eq_some_iff.mpr hform)
      | seconds count => exact hother count hform

namespace Definition

inductive Field where
  | propagation (propagation : Propagation)
  | isolation (isolation : IsolationRequest)
  | readOnly (readOnly : Bool)
  | timeout (timeout : Timeout)
  | name (name : Option String)

namespace Field

def key : Field → String
  | propagation _ => "propagation"
  | isolation _ => "isolation"
  | readOnly _ => "read_only"
  | timeout _ => "timeout"
  | name _ => "name"

def IsForm : Field → Json → Prop
  | propagation p, j => Json.IsPlain p.name j
  | isolation r, j => Json.IsPlain r.name j
  | readOnly b, j => j = .bool b
  | timeout t, j => t.IsForm j
  | name n, j => j = .ofOptional .text n

def set : Field → Definition → Definition
  | propagation p, d => d.withPropagation p
  | isolation r, d => d.withIsolation r
  | readOnly b, d => d.withReadOnly b
  | timeout t, d => { d with timeout := t }
  | name n, d => { d with name := n }

end Field

/-- How definitions are written. -/
def layout : Json.Layout Field Definition where
  names := fieldNames
  key := Field.key
  key_mem f := by cases f <;> simp [fieldNames, Field.key]
  form := Field.IsForm
  set := Field.set

def ofText? (s : String) : Option Definition :=
  (Json.parse? s).bind ofJson?

theorem slot_propagation :
    layout.Slot .propagation "propagation" Definition.propagation
      Propagation.ofJson? where
  key_field _ := rfl
  eq_field {f} h := by cases f <;> simp_all [layout, Field.key]
  form_field := Propagation.ofJson?_eq_some_iff.symm
  get_set_field _ _ := rfl
  get_set {f} _ h := by cases f <;> first | rfl | exact absurd rfl h

theorem slot_isolation :
    layout.Slot .isolation "isolation" Definition.isolation
      IsolationRequest.ofJson? where
  key_field _ := rfl
  eq_field {f} h := by cases f <;> simp_all [layout, Field.key]
  form_field := IsolationRequest.ofJson?_eq_some_iff.symm
  get_set_field _ _ := rfl
  get_set {f} _ h := by cases f <;> first | rfl | exact absurd rfl h

theorem slot_readOnly :
    layout.Slot .readOnly "read_only" Definition.readOnly Json.bool? where
  key_field _ := rfl
  eq_field {f} h := by cases f <;> simp_all [layout, Field.key]
  form_field := Json.bool?_eq_some_iff.symm
  get_set_field _ _ := rfl
  get_set {f} _ h := by cases f <;> first | rfl | exact absurd rfl h

theorem slot_timeout :
    layout.Slot .timeout "timeout" Definition.timeout Timeout.ofJson? where
  key_field _ := rfl
  eq_field {f} h := by cases f <;> simp_all [layout, Field.key]
  form_field := Timeout.ofJson?_eq_some_iff.symm
  get_set_field _ _ := rfl
  get_set {f} _ h := by cases f <;> first | rfl | exact absurd rfl h

theorem slot_name :
    layout.Slot .name "name" Definition.name (Json.optional? Json.text?) where
  key_field _ := rfl
  eq_field {f} h := by cases f <;> simp_all [layout, Field.key]
  form_field := (Json.optional?_eq_some_iff Json.text?_eq_some_iff rfl).symm
  get_set_field _ _ := rfl
  get_set {f} _ h := by cases f <;> first | rfl | exact absurd rfl h

theorem ofFields?_known (entries : List (Json.Entry layout))
    (hnodup : ((layout.fields entries).map layout.key).Nodup) :
    ofFields? (layout.known (entries.map Json.Entry.member)) =
      some (layout.replace plain (layout.fields entries)) := by
  simp only [ofFields?, slot_propagation.field?_known plain entries hnodup,
    slot_isolation.field?_known plain entries hnodup,
    slot_readOnly.field?_known plain entries hnodup,
    slot_timeout.field?_known plain entries hnodup,
    slot_name.field?_known plain entries hnodup]
  rfl

theorem ofFields?_eq_none {members : List (String × Json)} {name : String}
    {value : Json} (hnodup : (members.map (·.1)).Nodup)
    (hname : name ∈ layout.names) (hmem : (name, value) ∈ members)
    (hform : ∀ f, layout.key f = name → ¬ layout.form f value) :
    ofFields? members = none := by
  cases hfields : ofFields? members with
  | none => rfl
  | some d =>
      simp only [ofFields?, Option.bind_eq_bind,
        Option.bind_eq_some_iff] at hfields
      obtain ⟨p, hp, r, hr, b, hb, t, ht, n, hn, -⟩ := hfields
      simp only [layout, fieldNames, List.mem_cons, List.not_mem_nil,
        or_false] at hname
      rcases hname with rfl | rfl | rfl | rfl | rfl
      · rw [slot_propagation.field?_eq_none _ hnodup hmem hform] at hp
        cases hp
      · rw [slot_isolation.field?_eq_none _ hnodup hmem hform] at hr
        cases hr
      · rw [slot_readOnly.field?_eq_none _ hnodup hmem hform] at hb
        cases hb
      · rw [slot_timeout.field?_eq_none _ hnodup hmem hform] at ht
        cases ht
      · rw [slot_name.field?_eq_none _ hnodup hmem hform] at hn
        cases hn

def entries (d : Definition) : List (Json.Entry layout) :=
  [.known (.propagation d.propagation) d.propagation.toJson (.inl rfl),
    .known (.isolation d.isolation) d.isolation.toJson (.inl rfl),
    .known (.readOnly d.readOnly) (.bool d.readOnly) rfl,
    .known (.timeout d.timeout) d.timeout.toJson d.timeout.isForm_toJson,
    .known (.name d.name) (.ofOptional .text d.name) rfl]

theorem wellWritten_toJson (d : Definition) : d.toJson.WellWritten := by
  rcases d with ⟨_, _, _, _ | _, _ | _⟩ <;>
    simp [toJson, Json.record, Json.WellWritten, Json.WellWrittenMembers,
      Json.text, Propagation.toJson, IsolationRequest.toJson, Timeout.toJson,
      Json.ofOptional, Json.ofInt64]

theorem reads : layout.Reads ofText? plain :=
  Json.Layout.reads_of_fields (fun _ => rfl) ofFields?_known
    fun _ _ _ => ofFields?_eq_none

theorem ofText?_render (d : Definition) : ofText? d.toJson.render = some d :=
  reads.replaced _ d.entries (Json.parse?_render d.wellWritten_toJson)
    (show fieldNames.Nodup by decide)

end Definition

namespace Config

inductive Field where
  | enforceReadOnly (enforce : Bool)
  | readOnlyStatement (statement : String)
  | defaultTimeout (seconds : Option Int64)

namespace Field

def key : Field → String
  | enforceReadOnly _ => "enforce_read_only"
  | readOnlyStatement _ => "read_only_statement"
  | defaultTimeout _ => "default_timeout_secs"

def IsForm : Field → Json → Prop
  | enforceReadOnly b, j => j = .bool b
  | readOnlyStatement s, j => j = .text s
  | defaultTimeout n, j => j = .ofOptional .ofInt64 n

def set : Field → Config → Config
  | enforceReadOnly b, c => { c with enforceReadOnly := b }
  | readOnlyStatement s, c => { c with readOnlyStatement := s }
  | defaultTimeout n, c => { c with defaultTimeout := n }

end Field

/-- How settings are written. -/
def layout : Json.Layout Field Config where
  names := fieldNames
  key := Field.key
  key_mem f := by cases f <;> simp [fieldNames, Field.key]
  form := Field.IsForm
  set := Field.set

def ofText? (s : String) : Option Config :=
  (Json.parse? s).bind ofJson?

theorem slot_enforceReadOnly :
    layout.Slot .enforceReadOnly "enforce_read_only" Config.enforceReadOnly
      Json.bool? where
  key_field _ := rfl
  eq_field {f} h := by cases f <;> simp_all [layout, Field.key]
  form_field := Json.bool?_eq_some_iff.symm
  get_set_field _ _ := rfl
  get_set {f} _ h := by cases f <;> first | rfl | exact absurd rfl h

theorem slot_readOnlyStatement :
    layout.Slot .readOnlyStatement "read_only_statement"
      Config.readOnlyStatement Json.text? where
  key_field _ := rfl
  eq_field {f} h := by cases f <;> simp_all [layout, Field.key]
  form_field := Json.text?_eq_some_iff.symm
  get_set_field _ _ := rfl
  get_set {f} _ h := by cases f <;> first | rfl | exact absurd rfl h

theorem slot_defaultTimeout :
    layout.Slot .defaultTimeout "default_timeout_secs" Config.defaultTimeout
      (Json.optional? Json.int64?) where
  key_field _ := rfl
  eq_field {f} h := by cases f <;> simp_all [layout, Field.key]
  form_field := (Json.optional?_eq_some_iff Json.int64?_eq_some_iff rfl).symm
  get_set_field _ _ := rfl
  get_set {f} _ h := by cases f <;> first | rfl | exact absurd rfl h

theorem ofFields?_known (entries : List (Json.Entry layout))
    (hnodup : ((layout.fields entries).map layout.key).Nodup) :
    ofFields? (layout.known (entries.map Json.Entry.member)) =
      some (layout.replace {} (layout.fields entries)) := by
  have henforce := slot_enforceReadOnly.field?_known {} entries hnodup
  have hstatement := slot_readOnlyStatement.field?_known {} entries hnodup
  have htimeout := slot_defaultTimeout.field?_known {} entries hnodup
  simp only [ofFields?, henforce, hstatement, htimeout]
  rfl

theorem ofFields?_eq_none {members : List (String × Json)} {name : String}
    {value : Json} (hnodup : (members.map (·.1)).Nodup)
    (hname : name ∈ layout.names) (hmem : (name, value) ∈ members)
    (hform : ∀ f, layout.key f = name → ¬ layout.form f value) :
    ofFields? members = none := by
  cases hfields : ofFields? members with
  | none => rfl
  | some c =>
      simp only [ofFields?, Option.bind_eq_bind,
        Option.bind_eq_some_iff] at hfields
      obtain ⟨b, hb, s, hs, n, hn, -⟩ := hfields
      simp only [layout, fieldNames, List.mem_cons, List.not_mem_nil,
        or_false] at hname
      rcases hname with rfl | rfl | rfl
      · rw [slot_enforceReadOnly.field?_eq_none _ hnodup hmem hform] at hb
        cases hb
      · rw [slot_readOnlyStatement.field?_eq_none _ hnodup hmem hform] at hs
        cases hs
      · rw [slot_defaultTimeout.field?_eq_none _ hnodup hmem hform] at hn
        cases hn

theorem reads : layout.Reads ofText? {} :=
  Json.Layout.reads_of_fields (fun _ => rfl) ofFields?_known
    fun _ _ _ => ofFields?_eq_none

def entries (c : Config) : List (Json.Entry layout) :=
  [.known (.enforceReadOnly c.enforceReadOnly) (.bool c.enforceReadOnly) rfl,
    .known (.readOnlyStatement c.readOnlyStatement)
      (.text c.readOnlyStatement) rfl,
    .known (.defaultTimeout c.defaultTimeout)
      (.ofOptional .ofInt64 c.defaultTimeout) rfl]

theorem wellWritten_toJson (c : Config) : c.toJson.WellWritten := by
  rcases c with ⟨_, _, _ | _⟩ <;>
    simp [toJson, Json.record, Json.WellWritten, Json.WellWrittenMembers,
      Json.text, Json.ofOptional, Json.ofInt64]

theorem ofText?_render (c : Config) : ofText? c.toJson.render = some c :=
  reads.replaced _ c.entries (Json.parse?_render c.wellWritten_toJson)
    (show fieldNames.Nodup by decide)

end Config

namespace Level

def ofText? (s : String) : Option Level :=
  (Json.parse? s).bind ofJson?

theorem ofJson?_toJson (l : Level) : ofJson? l.toJson = some l := by
  rcases l with (_ | _ | _ | _) | name <;> rfl

theorem wellWritten_toJson (l : Level) : l.toJson.WellWritten := by
  cases l <;>
    simp [toJson, Json.record, Json.text, Json.WellWritten,
      Json.WellWrittenMembers]

theorem ofText?_render (l : Level) : ofText? l.toJson.render = some l := by
  rw [ofText?, Json.parse?_render l.wellWritten_toJson, Option.bind_some,
    ofJson?_toJson]

end Level

/-- Definitions, settings and levels survive being written: the text that each
of them is written as is read as the same value.  The text of any other object
is read as the default definition or the default settings with the fields
replaced that the object has, in any order and among members of any other names.
An object is refused that repeats a field, or has one that is not well-formed,
as are numbers of seconds that do not fit 64 bits. -/
theorem policies_survive_writing :
    (∀ d : Definition, Definition.ofText? d.toJson.render = some d) ∧
    (∀ c : Config, Config.ofText? c.toJson.render = some c) ∧
    (∀ l : Level, Level.ofText? l.toJson.render = some l) ∧
    Definition.layout.Reads Definition.ofText? .plain ∧
    Config.layout.Reads Config.ofText? {} ∧
    (∀ (s : String) (members : List (String × Json)) (content : Json),
      Json.parse? s = some (.record members) →
      ("timeout", .record [("seconds", content)]) ∈ members →
      (∀ n : Int64, content ≠ .integer n.toInt) →
      Definition.ofText? s = none) ∧
    (∀ (s : String) (members : List (String × Json)) (content : Json),
      Json.parse? s = some (.record members) →
      ("default_timeout_secs", content) ∈ members →
      content ≠ .null → (∀ n : Int64, content ≠ .integer n.toInt) →
      Config.ofText? s = none) := by
  refine ⟨Definition.ofText?_render, Config.ofText?_render,
    Level.ofText?_render,
    Definition.reads, Config.reads, ?_, ?_⟩
  · intro s members content hparse hmem hcontent
    have hname : "timeout" ∈ Definition.fieldNames := by decide
    refine Definition.reads.formless s members _ _ hparse hname hmem
      fun f hkey hform => ?_
    obtain ⟨t, rfl⟩ := Definition.slot_timeout.eq_field hkey
    cases t with
    | default => rcases hform with h | h <;> simp [Json.record, Json.text] at h
    | seconds n =>
        have h : Json.record [("seconds", content)] =
            .record [("seconds", .ofInt64 n)] := hform
        exact hcontent n (by simpa [Json.record, Json.ofInt64] using h)
  · intro s members content hparse hmem hnull hcontent
    have hname : "default_timeout_secs" ∈ Config.fieldNames := by decide
    refine Config.reads.formless s members _ _ hparse hname hmem
      fun f hkey hform => ?_
    obtain ⟨n, rfl⟩ := Config.slot_defaultTimeout.eq_field hkey
    cases n with
    | none => exact hnull hform
    | some n => exact hcontent n hform

/-- Two fields among members of another name, which occurs twice; a field that
is repeated; and a number of seconds that is one too large. -/
theorem policies_survive_writing_of_objects :
    Definition.ofText? (Json.render (.record
      [("zone", .array [.integer 1]),
        ("timeout", .record [("seconds", .integer 5)]),
        ("zone", .null), ("propagation", .text "REQUIRES_NEW")])) =
      some { propagation := .requiresNew, timeout := .seconds 5 } ∧
    Definition.ofText?
      (Json.render (.record [("name", .null), ("name", .text "report")])) =
      none ∧
    Config.ofText? (Json.render (.record
      [("default_timeout_secs", .integer 9223372036854775808)])) = none := by
  obtain ⟨-, -, -, hdefinition, -, -, hseconds⟩ := policies_survive_writing
  refine ⟨?_, ?_, ?_⟩
  · have hparse := Json.parse?_render (j := .record
      [("zone", .array [.integer 1]),
        ("timeout", .record [("seconds", .integer 5)]),
        ("zone", .null), ("propagation", .text "REQUIRES_NEW")])
      (by simp [Json.record, Json.text, Json.WellWritten,
        Json.WellWrittenMembers, Json.WellWrittenElements])
    exact hdefinition.replaced _
      [.unknown "zone" (.array [.integer 1]) (by decide),
        .known (.timeout (.seconds 5)) (.record [("seconds", .integer 5)]) rfl,
        .unknown "zone" .null (by decide),
        .known (.propagation .requiresNew) (.text "REQUIRES_NEW") (.inl rfl)]
      hparse (by decide)
  · have hparse :=
      Json.parse?_render
        (j := .record [("name", .null), ("name", .text "report")])
      (by simp [Json.record, Json.text, Json.WellWritten,
        Json.WellWrittenMembers])
    exact hdefinition.repeated _ _ hparse (by decide)
  · have hparse := Json.parse?_render
      (j := .record [("default_timeout_secs", .integer 9223372036854775808)])
      (by simp [Json.record, Json.WellWritten, Json.WellWrittenMembers])
    refine hseconds _ _ _ hparse List.mem_cons_self (by simp) fun n h => ?_
    have hle := Int64.toInt_le n
    rw [Json.integer.injEq] at h
    rw [← h] at hle
    exact absurd hle (by decide)

end UnitOfWork
