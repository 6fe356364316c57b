import Mathlib.Algebra.Group.Nat.Defs

/-! # Texts

Trimming and parsing of a line that is typed, as `str::trim` and `str::parse` do them, and the
quoted form of a text that `{:?}` puts into a message.
-/

namespace TapTrade

/-- `char::is_whitespace`. -/
def isWhitespace (c : Char) : Bool :=
  (9 ≤ c.toNat && c.toNat ≤ 13) || c.toNat = 0x20 || c.toNat = 0x85 || c.toNat = 0xA0 ||
    c.toNat = 0x1680 || (0x2000 ≤ c.toNat && c.toNat ≤ 0x200A) || c.toNat = 0x2028 ||
    c.toNat = 0x2029 || c.toNat = 0x202F || c.toNat = 0x205F || c.toNat = 0x3000

def trimChars (chars : List Char) : List Char :=
  ((chars.dropWhile isWhitespace).reverse.dropWhile isWhitespace).reverse

/-- `str::trim`. -/
def trim (line : String) : String := String.ofList (trimChars line.toList)

/-- One more decimal digit. -/
def readDigit (value : Nat) (c : Char) : Option Nat :=
  if '0' ≤ c ∧ c ≤ '9' then some (value * 10 + (c.toNat - 48)) else none

def parseDigits : List Char → Option Nat
  | [] => none
  | digits => digits.foldlM readDigit 0

/-- `str::parse` of an unsigned integer: digits, with a plus sign before them or without. -/
def parseUnsigned (bound : Nat) (text : String) : Option Nat :=
  let value := match text.toList with
    | '+' :: digits => parseDigits digits
    | digits => parseDigits digits
  value.filter (· < bound)

/-- `parse::<u64>()`. -/
def parseU64 (text : String) : Option UInt64 := (parseUnsigned (2 ^ 64) text).map UInt64.ofNat

/-- `parse::<u8>()`. -/
def parseU8 (text : String) : Option UInt8 := (parseUnsigned (2 ^ 8) text).map UInt8.ofNat

/-- `parse::<usize>()`, on a platform of 64 bits. -/
def parseUsize (text : String) : Option Nat := parseUnsigned (2 ^ 64) text

/-- `char::escape_debug`, for text in which every printable character stands for itself. -/
def escapeDebug (c : Char) : String :=
  match c.toNat with
  | 0x00 => "\\0"
  | 0x09 => "\\t"
  | 0x0A => "\\n"
  | 0x0D => "\\r"
  | 0x22 => "\\\""
  | 0x5C => "\\\\"
  | code =>
      if code < 0x20 ∨ code = 0x7F then
        "\\u\x7b" ++ String.ofList (Nat.toDigits 16 code) ++ "\x7d"
      else c.toString

/-- `{:?}` of a text. -/
def debugText (text : String) : String :=
  "\"" ++ String.join (text.toList.map escapeDebug) ++ "\""

example : trim " \t y\r\n" = "y" := by decide

example : parseU8 "+50" = some 50 := by decide

example : debugText "min relay\tfee" = "\"min relay\\tfee\"" := by decide

end TapTrade
