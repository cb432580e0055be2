import Fabula.Text.Blank

/-!
Files that are read a block of octets at a time. A reader asks for some characters, and blocks are
read until it has them; so octets that are no text are not met before their block is needed.
-/

set_option autoImplicit false

namespace Fabula.Text

/-- Between octets of UTF-8: how many of a character are still missing, and the range of the
next. -/
structure Missing where
  count : Nat
  least : Nat
  greatest : Nat
  deriving Repr, DecidableEq

namespace Missing

def octets (count : Nat) : Missing := ⟨count, 0x80, 0xBF⟩

def ofFirst? (octet : Nat) : Option Missing :=
  if octet < 0x80 then some (octets 0)
  else if octet < 0xC2 then none
  else if octet < 0xE0 then some (octets 1)
  else if octet = 0xE0 then some ⟨2, 0xA0, 0xBF⟩
  else if octet = 0xED then some ⟨2, 0x80, 0x9F⟩
  else if octet < 0xF0 then some (octets 2)
  else if octet = 0xF0 then some ⟨3, 0x90, 0xBF⟩
  else if octet < 0xF4 then some (octets 3)
  else if octet = 0xF4 then some ⟨3, 0x80, 0x8F⟩
  else none

def never : Missing := ⟨1, 1, 0⟩

/-- What is missing behind a further octet. Halves of surrogate pairs are no characters, but only
their third octet is refused. -/
def next? (m : Missing) (octet : Nat) : Option Missing :=
  if m.count = 0 then ofFirst? octet
  else if m.least ≤ octet ∧ octet ≤ m.greatest then some (octets (m.count - 1))
  else if m.greatest = 0x9F ∧ 0xA0 ≤ octet ∧ octet ≤ 0xBF then some never
  else none

end Missing

def soundOctets (m : Missing) : List UInt8 → Nat
  | [] => 0
  | octet :: rest =>
    match m.next? octet.toNat with
    | some m => soundOctets m rest + 1
    | none => 0

/-- The characters that are whole in the first `n` octets. The end of a line may still be
missing behind a return. -/
def wholeChars (octets : ByteArray) (n : Nat) : List Char :=
  let text := [0, 1, 2, 3].findSome? fun k => String.fromUTF8? (octets.extract 0 (n - k))
  let cs := (text.getD "").toList
  unifyLineEnds (if cs.getLast? = some '\r' then cs.dropLast else cs)

def blockSize : Nat := 8192

def portionSize : Nat := 4096

/-- The number of characters of all portions before the one that can not be had, if `sound` octets
are in order and `n` have been read. As many octets are expected to be needed for a character as in
the last block, of `size` octets, behind whose beginning there were `before` characters. -/
def charsHad (octets : ByteArray) (sound n size before : Nat) : Nat :=
  let had := (wholeChars octets n).length
  let whole := had / portionSize * portionSize
  let block := max blockSize ((whole + portionSize - had) * size / (had - before))
  let behind := min (n + block) octets.size
  if _ : n < octets.size then
    if sound < behind then whole else charsHad octets sound behind block had
  else whole
termination_by octets.size - n
decreasing_by
  have positive : 0 < blockSize := by decide
  exact Nat.sub_lt_sub_left ‹n < octets.size› (Nat.lt_min.2
    ⟨Nat.lt_add_of_pos_right (Nat.lt_of_lt_of_le positive (Nat.le_max_left ..)), ‹_›⟩)

/-- The text that a reader gets of octets in which something is no text. It asks for two portions
before it begins. -/
def readable? (octets : ByteArray) : Option (List Char) :=
  let sound := soundOctets (.octets 0) octets.toList
  let had := charsHad octets sound 0 0 0
  if had < 2 * portionSize then none else some ((wholeChars octets sound).take had)

end Fabula.Text
