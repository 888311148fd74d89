/-
# `ZeroTrust.Lib.GoJson` — a JSON object into a Go struct

What `encoding/json` makes of a JSON value where the target is a struct of strings and
unsigned integers.  A key is for the field of its name, or else for the first field whose
name it is but for case; a key for no field is dropped.  Of several keys for one field the
last one counts, a `null` does not, and a field without one keeps its zero value.  A value
that does not fit its field is an error.

    `field_of_member`   a field with one key, and a value that is not `null`

Nothing here names a particular program.
-/
import Mathlib.Data.UInt
import ZeroTrust.Lib.Json

namespace ZeroTrust.Lib.GoJson

/-- `foldRune`, as far as it makes an ASCII character. -/
def foldRune (c : Char) : Char :=
  if c = '\u017f' then 's' else if c = '\u212a' then 'k' else c.toLower

def foldName (name : String) : List Char := name.toList.map foldRune

/-- The field that a key is for. -/
def target (fields : List String) (key : String) : Option String :=
  if key ∈ fields then some key else fields.find? fun field => foldName field = foldName key

/-- The members of the object that are for a field. -/
def membersOf (fields : List String) (name : String) (kvs : List (String × Json)) :
    List (String × Json) :=
  kvs.filter fun kv => target fields kv.1 = some name

/-- The value of a field, from its zero value on. -/
def field {α : Type} (decode : Json → Option α) (zero : α) (fields : List String) (name : String)
    (kvs : List (String × Json)) : Option α :=
  (membersOf fields name kvs).foldlM
    (fun value kv =>
      match kv.2 with
      | .null => some value
      | j => decode j) zero

def decodeString : Json → Option String
  | .str s => some s
  | _ => none

def decodeUint16 : Json → Option UInt16
  | .num n => if 0 ≤ n ∧ n < 2 ^ 16 then some (UInt16.ofNat n.toNat) else none
  | _ => none

/-- The members that a struct is read from; `null` is a struct without. -/
def members : Json → Option (List (String × Json))
  | .obj kvs => some kvs
  | .null => some []
  | _ => none

theorem target_of_mem {fields : List String} {key : String} (h : key ∈ fields) :
    target fields key = some key := if_pos h

theorem target_eq_none {fields : List String} {key : String} (hmem : key ∉ fields)
    (hfold : ∀ field ∈ fields, foldName field ≠ foldName key) : target fields key = none := by
  rw [target, if_neg hmem, List.find?_eq_none]
  intro field hfield
  simpa using hfold field hfield

/-- Where every key is a field's own name or for none, a field has the members of its name. -/
theorem membersOf_eq {fields : List String} {name : String} (hname : name ∈ fields)
    {kvs : List (String × Json)}
    (hkeys : ∀ kv ∈ kvs, kv.1 ∈ fields ∨ target fields kv.1 = none) :
    membersOf fields name kvs = kvs.filter fun kv => kv.1 = name := by
  refine List.filter_congr fun kv hkv => ?_
  rcases hkeys kv hkv with hmem | hnone
  · simp [target_of_mem hmem]
  · have hne : kv.1 ≠ name := by
      intro heq
      rw [heq, target_of_mem hname] at hnone
      cases hnone
    simp [hnone, hne]

theorem field_of_member {α : Type} {decode : Json → Option α} {zero : α} {fields : List String}
    {name : String} {v : Json} {kvs : List (String × Json)}
    (h : membersOf fields name kvs = [(name, v)]) (hv : v ≠ .null) :
    field decode zero fields name kvs = decode v := by
  unfold field
  rw [h, List.foldlM_cons]
  cases v with
  | null => exact absurd rfl hv
  | _ => exact bind_pure _

theorem field_of_none {α : Type} {decode : Json → Option α} {zero : α} {fields : List String}
    {name : String} {kvs : List (String × Json)} (h : membersOf fields name kvs = []) :
    field decode zero fields name kvs = some zero := by
  unfold field
  rw [h]
  rfl

@[simp] theorem decodeUint16_toNat (p : UInt16) : decodeUint16 (.num p.toNat) = some p := by
  have hlt : p.toNat < 2 ^ 16 := p.toNat_lt
  simp only [decodeUint16]
  rw [if_pos ⟨by omega, by omega⟩, Int.toNat_natCast, UInt16.ofNat_toNat]

end ZeroTrust.Lib.GoJson
