import Fabula.Text.Numeral
import Fabula.Text.Printable

set_option autoImplicit false

namespace Fabula.Text

def quoteFor (cs : List Char) : Char :=
  if '\'' ∈ cs ∧ '"' ∉ cs then '"' else '\''

def hexEscape (n : Nat) : List Char :=
  if n < 0x100 then '\\' :: 'x' :: paddedNumeral 16 2 n
  else if n < 0x10000 then '\\' :: 'u' :: paddedNumeral 16 4 n
  else '\\' :: 'U' :: paddedNumeral 16 8 n

def quotedChar (shown : Char → Bool) (quote c : Char) : List Char :=
  if c = quote ∨ c = '\\' then ['\\', c]
  else if c = '\t' then ['\\', 't']
  else if c = '\n' then ['\\', 'n']
  else if c = '\r' then ['\\', 'r']
  else if shown c then [c]
  else hexEscape c.toNat

def quotedWith (shown : Char → Bool) (cs : List Char) : List Char :=
  let quote := quoteFor cs
  quote :: cs.flatMap (quotedChar shown quote) ++ [quote]

def quoted (s : String) : String := String.ofList (quotedWith isPrintable s.toList)

def quotedAscii (s : String) : String :=
  String.ofList (quotedWith (fun c => 0x20 ≤ c.toNat && c.toNat < 0x7F) s.toList)

def quotedOctets (octets : List UInt8) : String :=
  String.ofList ('b' :: quotedWith (fun c => 0x20 ≤ c.toNat && c.toNat < 0x7F)
    (octets.map fun o => Char.ofNat o.toNat))

def bracketed (opening closing : String) (items : List String) : String :=
  opening ++ ", ".intercalate items ++ closing

def quotedList (items : List String) : String := bracketed "[" "]" (items.map quoted)

end Fabula.Text
