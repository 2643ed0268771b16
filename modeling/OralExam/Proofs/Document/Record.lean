import Mathlib.Data.List.Basic
import Mathlib.Data.List.Nodup
import OralExam.Document.Decoder

/-! What a record read from an object is: each field is what the members of its name hold.

The members are taken in the order of the text, and a field that is given leaves less to be given by the
members after it. Looked at field by field the order does not matter: a field is at its default if no
member has its name, it is the value of the member if there is just one, and otherwise the record is
refused.
-/

set_option autoImplicit false

namespace OralExam

variable {α β : Type}

/-- The values of the members of that name. -/
def Document.under (members : List (String × Document)) (name : String) : List Document :=
  (members.filter (·.1 = name)).map Prod.snd

namespace Document

variable {members members' : List (String × Document)} {name : String}

@[simp] theorem under_nil (name : String) : under [] name = [] := rfl

@[simp] theorem under_cons (m : String × Document) (members : List (String × Document))
    (name : String) :
    under (m :: members) name = if m.1 = name then m.2 :: under members name
      else under members name := by
  by_cases same : m.1 = name <;> simp [under, same]

theorem under_eq_nil_iff : under members name = [] ↔ name ∉ members.map Prod.fst := by
  simp only [under, List.map_eq_nil_iff, List.filter_eq_nil_iff, decide_eq_true_eq, List.mem_map]
  exact ⟨fun none ⟨m, member, same⟩ => none m member same,
    fun none m member same => none ⟨m, member, same⟩⟩

theorem under_perm (order : members.Perm members') (name : String) :
    (under members name).Perm (under members' name) :=
  (order.filter _).map _

/-! ## Sound documents -/

mutual

theorem intact_of_soundWithin :
    (levels : Nat) → (d : Document) → d.soundWithin levels → d.intact
  | _, .null, _ | _, .bool _, _ | _, .integer _, _ | _, .float _, _ | _, .string _, _ => rfl
  | levels, .array items, sound => by
    simp only [soundWithin, Bool.and_eq_true] at sound
    exact intactItems_of_sound (levels - 1) items sound.2
  | levels, .object members, sound => by
    simp only [soundWithin, Bool.and_eq_true] at sound
    exact intactMembers_of_sound (levels - 1) members sound.2
  | _, .fault _, sound => by cases sound

theorem intactItems_of_sound :
    (levels : Nat) → (items : List Document) → soundItems levels items → intactItems items
  | _, [], _ => rfl
  | levels, d :: items, sound => by
    simp only [soundItems, Bool.and_eq_true] at sound
    simp only [intactItems, Bool.and_eq_true]
    exact ⟨intact_of_soundWithin levels d sound.1, intactItems_of_sound levels items sound.2⟩

theorem intactMembers_of_sound :
    (levels : Nat) → (members : List (String × Document)) → soundMembers levels members →
      intactMembers members
  | _, [], _ => rfl
  | levels, (_, d) :: members, sound => by
    simp only [soundMembers, Bool.and_eq_true] at sound
    simp only [intactMembers, Bool.and_eq_true]
    exact ⟨intact_of_soundWithin levels d sound.1, intactMembers_of_sound levels members sound.2⟩

end

theorem isUnkeyed_of_soundWithin {levels : Nat} {d : Document} (sound : d.soundWithin levels) :
    d.isUnkeyed = false := by
  cases d with
  | fault f => simp [soundWithin] at sound
  | _ => rfl

theorem soundMembers_iff {levels : Nat} :
    soundMembers levels members ↔ ∀ m ∈ members, m.2.soundWithin levels := by
  induction members with
  | nil => simp [soundMembers]
  | cons m members ih => simp [soundMembers, ih]

end Document

open Document (under)

/-- What the values under its name make of a field. -/
def RecordField.value? (field : RecordField β) (format : Notation) : List Document → Option β
  | [] => field.absent
  | [d] => (field.decode format d).toOption
  | _ => none

theorem RecordField.value?_perm (field : RecordField β) (format : Notation)
    {values values' : List Document} (order : values.Perm values') :
    field.value? format values = field.value? format values' := by
  match values, values', order.length_eq with
  | [], [], _ => rfl
  | [_], [_], _ => rw [List.singleton_perm_singleton.mp order]
  | _ :: _ :: _, _ :: _ :: _, _ => rfl

namespace Fields

/-- The names of the fields, the last one first. -/
def names : {α : Type} → Fields α → List String
  | _, .done _ => []
  | _, .vacant field rest => field.name :: rest.names
  | _, .given name _ rest => name :: rest.names

/-- The record made of what each field is by itself. Nothing more is given to a given field. -/
def value? (format : Notation) (members : List (String × Document)) :
    {α : Type} → Fields α → Option α
  | _, .done a => some a
  | _, .vacant field rest => do
    let f ← rest.value? format members
    let value ← field.value? format (under members field.name)
    some (f value)
  | _, .given name value rest => do
    let f ← rest.value? format members
    if (under members name).isEmpty then some (f value) else none

/-- Reading goes through all members: each has a key, and an unknown one does not break off. -/
def Passes (names : List String) (members : List (String × Document)) : Prop :=
  ∀ m ∈ members, m.2.isUnkeyed = false ∧ (m.1 ∉ names → m.2.intact)

variable {format : Notation} {fields fields' : Fields α} {name : String} {d : Document}
  {members members' : List (String × Document)}

theorem Passes.perm {names : List String} (order : members.Perm members') :
    Passes names members ↔ Passes names members' := by
  simp only [Passes, order.mem_iff]

theorem Passes.of_sound {names : List String} {levels : Nat}
    (sound : ∀ m ∈ members, m.2.soundWithin levels) : Passes names members :=
  fun m member => ⟨Document.isUnkeyed_of_soundWithin (sound m member),
    fun _ => Document.intact_of_soundWithin levels m.2 (sound m member)⟩

theorem value?_perm (order : members.Perm members') (fields : Fields α) :
    fields.value? format members = fields.value? format members' := by
  induction fields with
  | done a => rfl
  | vacant field rest ih =>
    simp only [value?, ih, field.value?_perm format (Document.under_perm order field.name)]
  | given name value rest ih =>
    simp only [value?, ih, (Document.under_perm order name).isEmpty_eq]

/-- A member that no field has the name of does not count. -/
theorem value?_cons_of_notMem (unknown : name ∉ fields.names) :
    fields.value? format ((name, d) :: members) = fields.value? format members := by
  induction fields with
  | done a => rfl
  | vacant field rest ih =>
    obtain ⟨other, unknown⟩ := List.ne_and_not_mem_of_not_mem_cons unknown
    simp only [value?, ih unknown, Document.under_cons, if_neg other]
  | given taken value rest ih =>
    obtain ⟨other, unknown⟩ := List.ne_and_not_mem_of_not_mem_cons unknown
    simp only [value?, ih unknown, Document.under_cons, if_neg other]

/-! ## Giving one member -/

/-- A member is given to the field of its name. It makes the same record of what is left as the fields
before it make of all, and there is no record where it is refused. -/
theorem give_spec (format : Notation) (distinct : fields.names.Nodup) (name : String)
    (d : Document) :
    match fields.give format name d with
    | none => name ∉ fields.names
    | some (.ok fields') =>
      fields'.names = fields.names ∧
        ∀ members, fields'.value? format members = fields.value? format ((name, d) :: members)
    | some (.error _) => ∀ members, fields.value? format ((name, d) :: members) = none := by
  induction fields with
  | done a => simp [give, names]
  | vacant field rest ih =>
    obtain ⟨single, distinct⟩ := List.nodup_cons.mp distinct
    by_cases same : field.name = name
    · subst same
      cases read : field.decode format d with
      | ok value =>
        simp only [give, read, if_pos, names, value?, true_and]
        intro members
        rw [value?_cons_of_notMem single, Document.under_cons, if_pos rfl]
        -- A second member of the name is too much for the given field and for the vacant one.
        cases under members field.name <;> simp [RecordField.value?, read, Except.toOption]
      | error e =>
        simp only [give, read, if_pos, value?]
        intro members
        rw [Document.under_cons, if_pos rfl]
        cases under members field.name <;> simp [RecordField.value?, read, Except.toOption]
    · -- The member goes past this field to those before it, and this field does not see it.
      specialize ih distinct
      simp only [give, if_neg same]
      cases given : rest.give format name d with
      | none => simpa [given, names, Ne.symm same] using ih
      | some result =>
        rw [given] at ih
        cases result with
        | ok rest' => simp [names, value?, ih.1, ih.2, Ne.symm same]
        | error e => simp [value?, show ∀ members, _ = none from ih]
  | given taken value rest ih =>
    obtain ⟨single, distinct⟩ := List.nodup_cons.mp distinct
    by_cases same : taken = name
    · simp [give, value?, same]
    · specialize ih distinct
      simp only [give, if_neg same]
      cases given : rest.give format name d with
      | none => simpa [given, names, Ne.symm same] using ih
      | some result =>
        rw [given] at ih
        cases result with
        | ok rest' => simp [names, value?, ih.1, ih.2, Ne.symm same]
        | error e => simp [value?, show ∀ members, _ = none from ih]

/-! ## All members -/

theorem toOption_close (fields : Fields α) :
    fields.close.toOption = fields.value? format [] := by
  induction fields with
  | done b => rfl
  | vacant field rest ih =>
    rw [close, value?, ← ih]
    cases rest.close <;> cases absent : field.absent <;>
      simp [absent, RecordField.value?, Except.toOption]
  | given name value rest ih =>
    rw [close, value?, ← ih]
    cases rest.close <;> simp [Except.toOption]

/-- The members make what each field is by itself. -/
theorem toOption_ofMembers (distinct : fields.names.Nodup) (passes : Passes fields.names members) :
    (ofMembers format members fields).toOption = fields.value? format members := by
  induction members generalizing fields with
  | nil => exact toOption_close fields
  | cons m members ih =>
    obtain ⟨name, d⟩ := m
    obtain ⟨⟨unkeyed, intact⟩, passes⟩ := List.forall_mem_cons.mp passes
    -- What is given so far stays in the fields, so the record is the same after each member.
    have spec := give_spec format distinct name d
    rw [ofMembers, if_neg (by simpa using unkeyed)]
    cases given : fields.give format name d with
    | none =>
      rw [given] at spec
      simp only [intact spec, if_pos, ih distinct passes, value?_cons_of_notMem spec]
    | some result =>
      rw [given] at spec
      cases result with
      | ok fields' =>
        obtain ⟨same_names, same_value⟩ := spec
        rw [← same_value, ← ih (same_names ▸ distinct) (same_names ▸ passes)]
      | error e => exact (spec members).symm

/-- A record is read from an object field by field, in whatever order the members come. -/
theorem toOption_decode_object (distinct : fields.names.Nodup)
    (passes : Passes fields.names members) :
    (fields.decode format (.object members)).toOption = fields.value? format members :=
  toOption_ofMembers distinct passes

theorem toOption_decode_perm (distinct : fields.names.Nodup)
    (passes : Passes fields.names members) (order : members.Perm members') :
    (fields.decode format (.object members)).toOption =
      (fields.decode format (.object members')).toOption := by
  rw [toOption_decode_object distinct passes,
    toOption_decode_object distinct ((Passes.perm order).mp passes), value?_perm order]

theorem decode_object_eq_ok_iff (distinct : fields.names.Nodup)
    (passes : Passes fields.names members) {a : α} :
    fields.decode format (.object members) = .ok a ↔ fields.value? format members = some a := by
  rw [← toOption_decode_object distinct passes]
  cases fields.decode format (.object members) <;> simp [Except.toOption]

end Fields

end OralExam
