import Mathlib.Data.List.Perm.Basic
import OralExam.Proofs.Document.Record
import OralExam.Proofs.Keyed
import OralExam.Rubric.Document

/-! Documents as JSON values, and decoders that read back what was written.

JSON has no numbers but finite ones and no order among the members of an object. Whoever writes a
document and hands it on as a JSON value leaves null where a number is not finite, and members in an
order that he does not choose. A decoder reads a value back if it gets it from every such JSON value.
-/

set_option autoImplicit false

namespace OralExam

variable {α β : Type}

namespace Document

mutual

/-- The second document is a JSON value that the first one is written as. -/
inductive JsonValue : Document → Document → Prop where
  | null : JsonValue .null .null
  | bool (b : Bool) : JsonValue (.bool b) (.bool b)
  | integer (n : Int) : JsonValue (.integer n) (.integer n)
  | float {x : Float} (finite : x.isFinite) : JsonValue (.float x) (.float x)
  | noNumber {x : Float} (infinite : ¬x.isFinite) : JsonValue (.float x) .null
  | string (s : String) : JsonValue (.string s) (.string s)
  | array {items items' : List Document} (values : JsonItems items items') :
    JsonValue (.array items) (.array items')
  | object {members members' members'' : List (String × Document)}
    (values : JsonMembers members members') (order : members'.Perm members'') :
    JsonValue (.object members) (.object members'')
  | fault (f : Fault) : JsonValue (.fault f) .null

inductive JsonItems : List Document → List Document → Prop where
  | nil : JsonItems [] []
  | cons {d e : Document} {items items' : List Document} (value : JsonValue d e)
    (rest : JsonItems items items') : JsonItems (d :: items) (e :: items')

inductive JsonMembers : List (String × Document) → List (String × Document) → Prop where
  | nil : JsonMembers [] []
  | cons {name : String} {d e : Document} {members members' : List (String × Document)}
    (value : JsonValue d e) (rest : JsonMembers members members') :
    JsonMembers ((name, d) :: members) ((name, e) :: members')

end

mutual

/-- Every document is written as some JSON value. -/
theorem exists_jsonValue : (d : Document) → ∃ e, d.JsonValue e
  | .null => ⟨_, .null⟩
  | .bool b => ⟨_, .bool b⟩
  | .integer n => ⟨_, .integer n⟩
  | .float x =>
    if finite : x.isFinite then ⟨_, .float finite⟩ else ⟨_, .noNumber finite⟩
  | .string s => ⟨_, .string s⟩
  | .array items =>
    let ⟨_, values⟩ := exists_jsonItems items
    ⟨_, .array values⟩
  | .object members =>
    let ⟨_, values⟩ := exists_jsonMembers members
    ⟨_, .object values (.refl _)⟩
  | .fault f => ⟨_, .fault f⟩

theorem exists_jsonItems : (items : List Document) → ∃ items', JsonItems items items'
  | [] => ⟨_, .nil⟩
  | d :: items =>
    let ⟨_, value⟩ := d.exists_jsonValue
    let ⟨_, values⟩ := exists_jsonItems items
    ⟨_, .cons value values⟩

theorem exists_jsonMembers :
    (members : List (String × Document)) → ∃ members', JsonMembers members members'
  | [] => ⟨_, .nil⟩
  | (_, d) :: members =>
    let ⟨_, value⟩ := d.exists_jsonValue
    let ⟨_, values⟩ := exists_jsonMembers members
    ⟨_, .cons value values⟩

end

theorem JsonValue.isUnkeyed {d e : Document} (value : d.JsonValue e) : e.isUnkeyed = false := by
  cases value <;> rfl

variable {members members' : List (String × Document)}

theorem JsonMembers.names (values : JsonMembers members members') :
    members'.map Prod.fst = members.map Prod.fst := by
  induction members generalizing members' with
  | nil =>
    cases values
    rfl
  | cons m members ih =>
    cases values with
    | cons value rest => rw [List.map_cons, ih rest, List.map_cons]

theorem JsonMembers.isUnkeyed (values : JsonMembers members members') :
    ∀ m ∈ members', m.2.isUnkeyed = false := by
  induction members generalizing members' with
  | nil =>
    cases values
    simp
  | cons m members ih =>
    cases values with
    | cons value rest => exact List.forall_mem_cons.mpr ⟨value.isUnkeyed, ih rest⟩

theorem JsonMembers.append {more more' : List (String × Document)}
    (values : JsonMembers members members') (others : JsonMembers more more') :
    JsonMembers (members ++ more) (members' ++ more') := by
  induction members generalizing members' with
  | nil =>
    cases values
    exact others
  | cons m members ih =>
    cases values with
    | cons value rest => exact .cons value (ih rest)

theorem JsonMembers.reverse (values : JsonMembers members members') :
    JsonMembers members.reverse members'.reverse := by
  induction members generalizing members' with
  | nil =>
    cases values
    exact .nil
  | cons m members ih =>
    cases values with
    | cons value rest =>
      rw [List.reverse_cons, List.reverse_cons]
      exact (ih rest).append (.cons value .nil)

end Document

/-- From every JSON value of the document the decoder reads `a`. -/
def Decoder.Reads (decode : Decoder α) (d : Document) (a : α) : Prop :=
  ∀ e, d.JsonValue e → decode .json e = .ok a

namespace Decoder

theorem reads_string (s : String) : string.Reads (.string s) s := by
  rintro _ ⟨⟩
  rfl

theorem reads_bool (b : Bool) : bool.Reads (.bool b) b := by
  rintro _ ⟨⟩
  rfl

theorem reads_word32 {n : Nat} (small : n < Word.size32) : word32.Reads (.ofNat n) n := by
  rintro _ ⟨⟩
  have bounds : 0 ≤ (n : Int) ∧ (n : Int) < (Word.size32 : Nat) := by omega
  simp only [word32, natural, if_pos bounds, Int.toNat_natCast]

theorem reads_float {x : Float} (finite : x.isFinite) : float.Reads (.float x) x := by
  intro e value
  cases value with
  | float _ => rfl
  | noNumber infinite => exact absurd finite infinite

theorem reads_optional {decode : Decoder α} {encode : α → Document} {o : Option α}
    (refuses : ∀ a, decode .json .null ≠ .ok a) (reads : ∀ a ∈ o, decode.Reads (encode a) a) :
    (optional decode).Reads (.ofOption encode o) o := by
  intro e value
  cases o with
  | none =>
    cases value
    rfl
  | some a =>
    have read : decode .json e = .ok a := reads a rfl e value
    have present : e ≠ .null := by
      rintro rfl
      exact refuses a read
    cases e <;> simp_all [optional, Except.map]

theorem reads_list {decode : Decoder α} {encode : α → Document} {xs : List α}
    (reads : ∀ a ∈ xs, decode.Reads (encode a) a) :
    (list decode).Reads (.array (xs.map encode)) xs := by
  intro e value
  cases value with
  | array values =>
    rename_i items
    change items.mapM (decode .json) = .ok xs
    induction xs generalizing items with
    | nil =>
      cases values
      rfl
    | cons a xs ih =>
      cases values with
      | cons value values =>
        obtain ⟨read, reads⟩ := List.forall_mem_cons.mp reads
        rw [List.mapM_cons, read _ value, ih reads values]
        rfl

theorem reads_strings (xs : List String) : (list string).Reads (.strings xs) xs :=
  reads_list fun s _ => reads_string s

/-- A name of each value is written, and the value of the name is read. -/
theorem reads_choice [DecidableEq α] {names : List (String × α)} {a : α}
    (distinct : (names.map Prod.fst).Nodup) (named : a ∈ names.map Prod.snd) :
    (choice names).Reads (.string (nameOf names a)) a := by
  have present : (names.find? (·.2 = a)).isSome := by
    obtain ⟨entry, member, same⟩ := List.mem_map.mp named
    exact List.find?_isSome.mpr ⟨entry, member, by simpa using same⟩
  obtain ⟨⟨name, b⟩, found⟩ := Option.isSome_iff_exists.mp present
  obtain rfl : b = a := by simpa using List.find?_some found
  have known : names.lookup name = some b :=
    Keyed.find?_of_mem (m := ⟨names⟩) distinct (List.mem_of_find?_eq_some found)
  rintro _ ⟨⟩
  simp [choice, nameOf, found, known]

end Decoder

namespace Fields

/-- Members in the order of the fields, the last one first, from which each field is read. -/
inductive Reads : {α : Type} → Fields α → List (String × Document) → α → Prop where
  | done {α : Type} (a : α) : Reads (.done a) [] a
  | vacant {α β : Type} {field : RecordField β} {rest : Fields (β → α)} {f : β → α} {b : β}
    {members : List (String × Document)} {d : Document} (before : Reads rest members f)
    (here : field.decode.Reads d b) : Reads (.vacant field rest) ((field.name, d) :: members) (f b)

variable {fields : Fields α} {members members' : List (String × Document)} {a : α}

theorem Reads.names (reads : fields.Reads members a) : members.map Prod.fst = fields.names := by
  induction reads with
  | done a => rfl
  | vacant before here ih => rw [List.map_cons, ih, Fields.names]

theorem Reads.value? (reads : fields.Reads members a) (distinct : fields.names.Nodup)
    (values : Document.JsonMembers members members') :
    fields.value? .json members' = some a := by
  induction reads generalizing members' with
  | done a => rfl
  | @vacant α β field rest f b members d before here ih =>
    obtain ⟨single, distinct⟩ := List.nodup_cons.mp distinct
    cases values with
    | @cons _ _ e _ members' value values =>
      have alone : Document.under members' field.name = [] := by
        rwa [Document.under_eq_nil_iff, values.names, before.names]
      rw [Fields.value?, value?_cons_of_notMem single, ih distinct values, Document.under_cons,
        if_pos rfl, alone, RecordField.value?, here e value]
      rfl

/-- A record whose fields are read back is read back. -/
theorem reads_object (distinct : fields.names.Nodup) (reads : fields.Reads members.reverse a) :
    (Fields.decode fields).Reads (.object members) a := by
  intro e value
  cases value with
  | @object _ members' members'' values order =>
    have passes : Passes fields.names members'' := by
      rw [← Passes.perm order]
      refine fun m member => ⟨values.isUnkeyed m member, fun unknown => absurd ?_ unknown⟩
      rw [← reads.names, List.map_reverse, List.mem_reverse, ← values.names]
      exact List.mem_map_of_mem member
    -- Only the name of a member matters, so the members may come in the order of the fields.
    rw [decode_object_eq_ok_iff distinct passes, ← value?_perm order,
      value?_perm members'.reverse_perm.symm, reads.value? distinct values.reverse]

end Fields

end OralExam
