import Mathlib.Data.List.Basic

/-! # Hexadecimal text

`hex::decode` and `hex::encode`. Decoding accepts digits of either case, encoding
writes lower case, so a byte string has one encoding but many spellings.
-/

namespace TapTrade

abbrev Bytes := List UInt8

namespace Hex

/-- The value of a hexadecimal digit. -/
def digit? (c : Char) : Option UInt8 :=
  if '0' ≤ c ∧ c ≤ '9' then some (c.toNat - 48).toUInt8
  else if 'a' ≤ c ∧ c ≤ 'f' then some (c.toNat - 87).toUInt8
  else if 'A' ≤ c ∧ c ≤ 'F' then some (c.toNat - 55).toUInt8
  else none

def decodeChars : List Char → Option Bytes
  | [] => some []
  | [_] => none
  | high :: low :: rest => do
      let high ← digit? high
      let low ← digit? low
      let rest ← decodeChars rest
      return (high * 16 + low) :: rest

/-- `hex::decode`; `none` for a text of odd length or with another character. -/
def decode (text : String) : Option Bytes := decodeChars text.toList

/-- The lower-case digit of a value below 16. -/
def digitChar (d : UInt8) : Char :=
  if d < 10 then Char.ofNat (d.toNat + 48) else Char.ofNat (d.toNat + 87)

def encodeChars : Bytes → List Char
  | [] => []
  | b :: rest => digitChar (b / 16) :: digitChar (b % 16) :: encodeChars rest

/-- `hex::encode`. -/
def encode (bytes : Bytes) : String := String.ofList (encodeChars bytes)

theorem digit?_digitChar (d : UInt8) (small : d < 16) : digit? (digitChar d) = some d := by
  have all : ∀ n < 16, digit? (digitChar (UInt8.ofNat n)) = some (UInt8.ofNat n) := by decide
  simpa only [UInt8.ofNat_toNat] using all d.toNat (UInt8.lt_iff_toNat_lt.mp small)

theorem decodeChars_encodeChars (bytes : Bytes) : decodeChars (encodeChars bytes) = some bytes := by
  induction bytes with
  | nil => rfl
  | cons b rest ih =>
      have high : b / 16 < 16 := by grind
      have low : b % 16 < 16 := by grind
      have whole : b / 16 * 16 + b % 16 = b := by grind
      simp only [encodeChars, decodeChars, digit?_digitChar _ high, digit?_digitChar _ low, ih,
        Option.bind_eq_bind, Option.bind_some, whole, Option.pure_def]

/-- What was encoded decodes to itself. -/
@[simp] theorem decode_encode (bytes : Bytes) : decode (encode bytes) = some bytes := by
  rw [decode, encode, String.toList_ofList, decodeChars_encodeChars]

example : decode "aBfF" = decode "ABff" := by decide

end Hex

end TapTrade
