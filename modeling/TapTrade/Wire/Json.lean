import Mathlib.Data.List.Basic
import Mathlib.Data.UInt

/-! # JSON values

Values of JSON with the members of an object in the order of the text, and the readers that
`serde` derives for records: of an object the members that the record names, of an array its
elements in the order of the fields. A `Message` is written by one program and read by
another, and what was written is read.
-/

namespace Wire

inductive Json where
  | null
  | bool (value : Bool)
  | integer (value : Int)
  /-- A number with a fraction or an exponent, as its text. -/
  | float (text : String)
  | string (value : String)
  | array (values : List Json)
  | object (members : List (String × Json))

namespace Json

/-- Whether a record of so many fields can be read from the value at all. -/
def fits (fields : Nat) : Json → Bool
  | array values => values.length = fields
  | object _ => true
  | _ => false

/-- The field of a record. A member that occurs twice is refused. -/
def field? (index : Nat) (name : String) : Json → Option Json
  | array values => values[index]?
  | object members => match members.filter fun member => member.1 = name with
    | [member] => some member.2
    | _ => none
  | _ => none

/-- The field of a record that can be missing. -/
def optionalField? (index : Nat) (name : String) : Json → Option (Option Json)
  | array values => values[index]?.map some
  | object members => match members.filter fun member => member.1 = name with
    | [] => some none
    | [member] => some (some member.2)
    | _ => none
  | _ => none

def text? : Json → Option String
  | string value => some value
  | _ => none

def flag? : Json → Option Bool
  | bool value => some value
  | _ => none

def u64? : Json → Option UInt64
  | integer value =>
      if 0 ≤ value ∧ value.toNat < UInt64.size then some (UInt64.ofNat value.toNat) else none
  | _ => none

def u8? : Json → Option UInt8
  | integer value =>
      if 0 ≤ value ∧ value.toNat < UInt8.size then some (UInt8.ofNat value.toNat) else none
  | _ => none

/-- The elements of an array, each of which must be readable. -/
def list? {α : Type} (read : Json → Option α) : Json → Option (List α)
  | array values => values.mapM read
  | _ => none

def ofU64 (value : UInt64) : Json := integer value.toNat

def ofU8 (value : UInt8) : Json := integer value.toNat

@[simp] theorem text?_string (value : String) : (string value).text? = some value := rfl

@[simp] theorem flag?_bool (value : Bool) : (bool value).flag? = some value := rfl

@[simp] theorem u64?_ofU64 (value : UInt64) : (ofU64 value).u64? = some value := by
  have fits : (0 : Int) ≤ (value.toNat : Int) ∧ (value.toNat : Int).toNat < UInt64.size :=
    ⟨Int.natCast_nonneg _, value.toNat_lt⟩
  rw [ofU64, u64?, if_pos fits, Int.toNat_natCast, UInt64.ofNat_toNat]

@[simp] theorem u8?_ofU8 (value : UInt8) : (ofU8 value).u8? = some value := by
  have fits : (0 : Int) ≤ (value.toNat : Int) ∧ (value.toNat : Int).toNat < UInt8.size :=
    ⟨Int.natCast_nonneg _, value.toNat_lt⟩
  rw [ofU8, u8?, if_pos fits, Int.toNat_natCast, UInt8.ofNat_toNat]

@[simp] theorem list?_map {α : Type} {read : Json → Option α} {write : α → Json}
    (readable : ∀ a, read (write a) = some a) (values : List α) :
    (array (values.map write)).list? read = some values := by
  induction values with
  | nil => rfl
  | cons value values ih =>
      simp only [list?, List.map_cons, List.mapM_cons, readable, Option.bind_eq_bind,
        Option.bind_some] at ih ⊢
      rw [ih]
      rfl

end Json

/-- What one program writes and another one reads. -/
class Message (α : Type) where
  write : α → Json
  read : Json → Option α
  read_write (value : α) : read (write value) = some value

attribute [simp] Message.read_write

end Wire
