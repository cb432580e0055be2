import Fabula.Table

/-!
What lies in one place: how many pieces of each item, in the order in which the items came to lie
there. An item that is used up leaves the listing, and comes back at its end. Boxes are such places
by their names.
-/

set_option autoImplicit false

namespace Fabula

abbrev Holdings := Table String Int

namespace Holdings

def amount (h : Holdings) (item : String) : Int := (Table.get? h item).getD 0

/-- Adds `n` pieces; nothing is added for `n ≤ 0`. -/
def add (h : Holdings) (item : String) (n : Int) : Holdings :=
  if n ≤ 0 then h else Table.put item (h.amount item + n) h

def removable (h : Holdings) (item : String) (n : Int) : Int :=
  if h.amount item ≤ 0 ∨ n ≤ 0 then 0 else min n (h.amount item)

def remove (h : Holdings) (item : String) (n : Int) : Holdings :=
  if h.amount item ≤ 0 ∨ n ≤ 0 then h
  else if n < h.amount item then Table.put item (h.amount item - n) h
  else Table.erase item h

end Holdings

abbrev Boxes := Table String Holdings

namespace Boxes

def box (b : Boxes) (name : String) : Holdings := (Table.get? b name).getD []

def change (b : Boxes) (name : String) (f : Holdings → Holdings) : Boxes :=
  Table.put name (f (b.box name)) b

def add (b : Boxes) (name item : String) (n : Int) : Boxes := b.change name (·.add item n)

def remove (b : Boxes) (name item : String) (n : Int) : Boxes := b.change name (·.remove item n)

/-- Moves what can be removed from one box to another, or to the end of the same one. -/
def move (b : Boxes) (source target item : String) (n : Int) : Boxes :=
  (b.remove source item n).add target item ((b.box source).removable item n)

end Boxes

end Fabula
