import Fabula.Text.Blank

set_option autoImplicit false

namespace Fabula.Text

def zeroDigits : List Nat := [
  0x30, 0x660, 0x6F0, 0x7C0, 0x966, 0x9E6, 0xA66, 0xAE6, 0xB66, 0xBE6, 0xC66, 0xCE6, 0xD66,
  0xDE6, 0xE50, 0xED0, 0xF20, 0x1040, 0x1090, 0x17E0, 0x1810, 0x1946, 0x19D0, 0x1A80, 0x1A90,
  0x1B50, 0x1BB0, 0x1C40, 0x1C50, 0xA620, 0xA8D0, 0xA900, 0xA9D0, 0xA9F0, 0xAA50, 0xABF0, 0xFF10,
  0x104A0, 0x10D30, 0x11066, 0x110F0, 0x11136, 0x111D0, 0x112F0, 0x11450, 0x114D0, 0x11650,
  0x116C0, 0x11730, 0x118E0, 0x11950, 0x11C50, 0x11D50, 0x11DA0, 0x16A60, 0x16AC0, 0x16B50,
  0x1D7CE, 0x1D7D8, 0x1D7E2, 0x1D7EC, 0x1D7F6, 0x1E140, 0x1E2F0, 0x1E950, 0x1FBF0]

def decimalDigit? (c : Char) : Option Nat :=
  (zeroDigits.find? fun z => decide (z ≤ c.toNat) && decide (c.toNat < z + 10)).map (c.toNat - ·)

/-- White space that may stand around a numeral: all but the four ASCII separators. -/
def isPadding (c : Char) : Bool := isBlank c && !(28 ≤ c.toNat && c.toNat ≤ 31)

def trimPadding (cs : List Char) : List Char :=
  ((cs.dropWhile isPadding).reverse.dropWhile isPadding).reverse

def digit? (base : Nat) (c : Char) : Option Nat :=
  let value? :=
    if 'a' ≤ c ∧ c ≤ 'z' then some (c.toNat - 'a'.toNat + 10)
    else if 'A' ≤ c ∧ c ≤ 'Z' then some (c.toNat - 'A'.toNat + 10)
    else decimalDigit? c
  value?.filter (· < base)

def isAsciiDigit (base : Nat) (c : Char) : Bool :=
  c.toNat < 0x80 && (digit? base c).isSome

/-- The digits of a numeral without a sign; one underscore may stand between two of them. -/
def digits? (base : Nat) : List Char → Option (List Nat)
  | [] => none
  | [c] => (digit? base c).map ([·])
  | c :: '_' :: cs => do pure ((← digit? base c) :: (← digits? base cs))
  | c :: d :: cs => do pure ((← digit? base c) :: (← digits? base (d :: cs)))

def ofDigits (base : Nat) (ds : List Nat) : Nat := ds.foldl (fun n d => n * base + d) 0

/-- The longest decimal numeral that is read, leading zeros counted, or written. -/
def maxDecimalDigits : Nat := 4300

def tooLong : Nat := Nat.pow 10 maxDecimalDigits

def baseLetter? : Nat → Option Char
  | 2 => some 'b'
  | 8 => some 'o'
  | 16 => some 'x'
  | _ => none

def dropBaseMark (base : Nat) (cs : List Char) : List Char :=
  match cs, baseLetter? base with
  | zero :: c :: rest, some letter =>
    if decimalDigit? zero = some 0 ∧ c.toLower = letter then
      match rest with
      | '_' :: rest => rest
      | _ => rest
    else cs
  | _, _ => cs

def naturalIn? (base : Nat) (cs : List Char) : Option Nat := do
  let ds ← digits? base (dropBaseMark base cs)
  if base = 10 ∧ maxDecimalDigits < ds.length then none else pure (ofDigits base ds)

def integerIn? (base : Nat) (cs : List Char) : Option Int :=
  match trimPadding cs with
  | '-' :: cs => (naturalIn? base cs).map fun n => -(n : Int)
  | '+' :: cs => (naturalIn? base cs).map Int.ofNat
  | cs => (naturalIn? base cs).map Int.ofNat

def integer? (s : String) : Option Int := integerIn? 10 s.toList

def decimal (n : Int) : String :=
  match n with
  | .ofNat n => Nat.repr n
  | .negSucc n => "-" ++ Nat.repr (n + 1)

def numeralIn (base n : Nat) : List Char := Nat.toDigits base n

def paddedNumeral (base width n : Nat) : List Char :=
  let ds := numeralIn base n
  List.replicate (width - ds.length) '0' ++ ds

end Fabula.Text
