set_option autoImplicit false

namespace Fabula.Text

structure SipHash where
  v0 : UInt64
  v1 : UInt64
  v2 : UInt64
  v3 : UInt64
  deriving Repr, DecidableEq

namespace SipHash

def start : SipHash :=
  ⟨0x736f6d6570736575, 0x646f72616e646f6d, 0x6c7967656e657261, 0x7465646279746573⟩

def rotated (w : UInt64) (n : UInt64) : UInt64 := w <<< n ||| w >>> (64 - n)

def round (h : SipHash) : SipHash :=
  let v0 := h.v0 + h.v1
  let v2 := h.v2 + h.v3
  let v1 := rotated h.v1 13 ^^^ v0
  let v3 := rotated h.v3 16 ^^^ v2
  let v2 := v2 + v1
  let v0 := rotated v0 32 + v3
  ⟨v0, rotated v1 17 ^^^ v2, rotated v2 32, rotated v3 21 ^^^ v0⟩

def absorb (h : SipHash) (w : UInt64) : SipHash :=
  let h := round { h with v3 := h.v3 ^^^ w }
  { h with v0 := h.v0 ^^^ w }

def word (os : List UInt8) : UInt64 := os.foldr (fun o w => w <<< 8 ||| o.toUInt64) 0

def absorbAll (length : UInt64) (h : SipHash) : List UInt8 → SipHash
  | a :: b :: c :: d :: e :: f :: g :: i :: os =>
    absorbAll length (h.absorb (word [a, b, c, d, e, f, g, i])) os
  | os => h.absorb (length <<< 56 ||| word os)

def finish (h : SipHash) : UInt64 :=
  let h := { h with v2 := h.v2 ^^^ 0xff }.round.round.round
  h.v0 ^^^ h.v1 ^^^ h.v2 ^^^ h.v3

def ofOctets (os : List UInt8) : UInt64 := (start.absorbAll os.length.toUInt64 os).finish

end SipHash

end Fabula.Text
