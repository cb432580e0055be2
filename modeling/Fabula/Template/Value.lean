import Fabula.Template.Feature.Table
import Fabula.Text.Numeral
import Fabula.Text.Quoted

set_option autoImplicit false

namespace Fabula.Template

open Fabula.Text

inductive Fault where
  | malformed
  /-- A field, or a key of a mapping, that is not there. -/
  | unknownKey (name : String)
  /-- A field without a name, or with a number for one. -/
  | noPosition
  | outOfRange
  | unknownPart
  | noParts
  /-- A layout for a value that has none. -/
  | noLayout
  /-- A number beyond those that can be written in a way. -/
  | tooLarge
  | tooLong
  | tooWide
  deriving Repr, DecidableEq

inductive Value where
  | text (s : String)
  | number (n : Int)
  /-- The number of a place in a list, which is never too long to be written. -/
  | place (n : Nat)
  | truth (b : Bool)
  | kind (k : Kind)
  | row (items : List Value)
  | nothing
  /-- A mapping without entries. -/
  | emptyMapping
  /-- The features of a kind by name. -/
  | view (k : Kind)
  /-- An ability of its owner, by the kind that it comes from. -/
  | bound (home : Kind) (f : Feature) (owner : Value)
  /-- A feature of the values of a kind. -/
  | feature (home : Kind) (f : Feature)
  /-- A kind with an argument. -/
  | applied (k : Kind) (argument : Value)
  deriving Repr

namespace Value

def kindOfFeature (f : Feature) : Kind :=
  match f.manner with
  | .operation => .anyOperation
  | .ability => .anyAbility
  | .own => .ownAbility
  | .free => .freeAbility
  | .maker => .ability
  | .part => .anyPart
  | .slot => .anySlot
  | .fixed => if f.note.isSome then .text else .nothing

def kindOf : Value → Kind
  | text _ => .text
  | number _ | place _ => .number
  | truth _ => .truth
  | kind _ => .kind
  | row _ => .row
  | nothing => .nothing
  | emptyMapping => .mapping
  | view _ => .view
  | bound _ f _ => if f.manner = .operation then .operation else .ability
  | feature _ f => kindOfFeature f
  | applied .. => .applied

def namedOf (what : String) (home : Kind) (f : Feature) : String :=
  "<" ++ what ++ " '" ++ f.name ++ "' of '" ++ home.fullName ++ "' objects>"

def shownBound (f : Feature) (owner : Kind) : String :=
  if f.manner = .operation then
    "<method-wrapper '" ++ f.name ++ "' of " ++ owner.fullName ++ " object>"
  else "<built-in method " ++ f.name ++ " of " ++ owner.fullName ++ " object>"

def shownFeature (quote : String → String) (home : Kind) (f : Feature) : String :=
  match f.manner with
  | .operation => namedOf "slot wrapper" home f
  | .ability | .own => namedOf "method" home f
  | .part => namedOf "attribute" home f
  | .slot => namedOf "member" home f
  | .free => "<staticmethod(" ++ shownBound f .kind ++ ")>"
  | .maker => shownBound f .kind
  | .fixed => (f.note.map quote).getD "None"

def shownFeatures (quote : String → String) (k : Kind) : String :=
  bracketed "\x7b" "\x7d"
    (k.features.map fun f => quoted f.name ++ ": " ++ shownFeature quote k f)

mutual

def shownWith (quote : String → String) : Value → String
  | text s => quote s
  | number n => decimal n
  | place n => Nat.repr n
  | truth b => if b then "True" else "False"
  | kind k => "<class '" ++ k.fullName ++ "'>"
  | row [v] => "(" ++ shownWith quote v ++ ",)"
  | row vs => bracketed "(" ")" (shownAll quote vs)
  | nothing => "None"
  | emptyMapping => "\x7b\x7d"
  | view k => Kind.view.name ++ "(" ++ shownFeatures quote k ++ ")"
  | bound _ f owner => shownBound f owner.kindOf
  | feature home f => shownFeature quote home f
  | applied k v => k.name ++ "[" ++ shownWith quote v ++ "]"

def shownAll (quote : String → String) : List Value → List String
  | [] => []
  | v :: vs => shownWith quote v :: shownAll quote vs

end

def shown (quote : String → String) (v : Value) : Except Fault String :=
  match v with
  | number n => if n.natAbs < tooLong then .ok (decimal n) else .error .tooLong
  | v => .ok (shownWith quote v)

def plain : Value → Except Fault String
  | text s => .ok s
  | view k => .ok (shownFeatures quoted k)
  | v => v.shown quoted

def ofOption (s : Option String) : Value := (s.map text).getD nothing

def numberPart (n : Int) (name : String) : Value :=
  number (if name = "imag" then 0 else if name = "denominator" then 1 else n)

def noteOfKinds : String :=
  "type(object) -> the object's type\ntype(name, bases, dict, **kwds) -> a new type"

def kindPart? (k : Kind) (name : String) : Option Value :=
  match name with
  | "__name__" | "__qualname__" => some (text k.name)
  | "__module__" => some (text k.origin)
  | "__mro__" => some (row (k.line.map kind))
  | "__bases__" => some (row ((k.line.drop 1).take 1 |>.map kind))
  | "__base__" => some (((k.line.drop 1).head?.map kind).getD nothing)
  | "__basicsize__" => some (number k.sizes.1)
  | "__itemsize__" => some (number k.sizes.2)
  | "__flags__" => some (number k.flags)
  | "__weakrefoffset__" => some (number k.offsets.1)
  | "__dictoffset__" => some (number k.offsets.2)
  | "__text_signature__" => some (ofOption k.call?)
  | "__dict__" => some (view k)
  | "__doc__" =>
    if k = .kind then some (text noteOfKinds)
    else (k.feature? name).map fun f => if f.isPart then feature k f else ofOption f.note
  | _ => none

def featurePart? (home : Kind) (f : Feature) (owner : Option Value) (name : String) :
    Option Value :=
  match name with
  | "__name__" => some (text f.name)
  | "__doc__" => some (ofOption f.note)
  | "__text_signature__" => some (ofOption f.call)
  | "__objclass__" => some (kind home)
  | "__module__" => some nothing
  | "__self__" => if f.manner = .free then some nothing else owner
  | "__qualname__" =>
    let whose : Kind :=
      match owner with
      | none => home
      | some v =>
        if f.manner = Manner.operation then home
        else match v with
          | kind k => k
          | v => v.kindOf
    some (text (whose.name ++ "." ++ f.name))
  | "__func__" | "__wrapped__" => some (bound home f (kind home))
  | "__isabstractmethod__" => some (truth false)
  | "__dict__" => some emptyMapping
  | _ => none

def appliedPart? (k : Kind) (argument : Value) (name : String) : Option Value :=
  match name with
  | "__origin__" => some (kind k)
  | "__args__" => some (row [argument])
  | "__parameters__" => some (row [])
  | "__unpacked__" => some (truth false)
  | "__typing_unpacked_tuple_args__" => some nothing
  | _ => none

def ownPart? (v : Value) (name : String) : Option Value :=
  if name = "__class__" then some (kind v.kindOf)
  else match v with
  | number n => some (numberPart n name)
  | place n => some (numberPart n name)
  | truth b => some (numberPart (if b then 1 else 0) name)
  | kind k => kindPart? k name
  | bound home f owner => featurePart? home f (some owner) name
  | feature home f => featurePart? home f none name
  | applied k argument => appliedPart? k argument name
  | _ => none

/-- What becomes of a feature when it is asked of a value, or of a kind; `ofValues` is what becomes
of those that only values have. -/
def asked (home : Kind) (f : Feature) (k : Kind) (ofValues : Value) : Value :=
  match f.manner with
  | .own => bound home f (kind k)
  | .free | .maker => bound home f (kind home)
  | .fixed => ofOption f.note
  | .operation | .ability | .part | .slot => ofValues

def having? (v : Value) (name : String) : Option Value := do
  let (home, f) ← v.kindOf.found? name
  if f.isPart then v.ownPart? name else pure (asked home f v.kindOf (bound home f v))

def kindHaving? (k : Kind) (name : String) : Option Value :=
  if (Kind.kind.found? name).any (·.2.isPart) then (kind k).ownPart? name
  else match k.found? name with
  | some (home, f) => some (asked home f k (feature home f))
  | none => (kind k).having? name

def ownNames : List String :=
  Feature.words <| "__class__ __origin__ __args__ __unpacked__ __parameters__ " ++
    "__typing_unpacked_tuple_args__ __mro_entries__ __reduce_ex__ __reduce__ __copy__ __deepcopy__"

def part (v : Value) (cs : List Char) : Except Fault Value :=
  let name := String.ofList cs
  let here? :=
    match v with
    | kind k => kindHaving? k name
    | applied k _ => if ownNames.contains name then v.having? name else kindHaving? k name
    | v => v.having? name
  match here? with
  | some w => .ok w
  | none => .error .unknownPart

def maxCount : Nat := Nat.pow 2 63 - 1

/-- The number that a name is, if it consists of digits only. Digits at its beginning must not be
too many, whatever follows them. -/
def position? (cs : List Char) : Except Fault (Option Nat) :=
  let isDigit (c : Char) : Bool := (decimalDigit? c).isSome
  let n := ofDigits 10 ((cs.takeWhile isDigit).filterMap decimalDigit?)
  if maxCount < n then .error .malformed
  else if cs ≠ [] ∧ cs.all isDigit then .ok (some n)
  else .ok none

def viewed (k : Kind) (f : Feature) : Value :=
  match f.manner with
  | .maker => bound k f (kind k)
  | .fixed => ofOption f.note
  | _ => feature k f

def item (v : Value) (position? : Option Nat) (key : String) : Except Fault Value :=
  match v, position? with
  | text s, some i =>
    match s.toList[i]? with
    | some c => .ok (text (String.singleton c))
    | none => .error .outOfRange
  | row vs, some i =>
    match vs[i]? with
    | some v => .ok v
    | none => .error .outOfRange
  | kind k, _ =>
    if k.takesArgument then .ok (applied k ((position?.map fun i => number i).getD (text key)))
    else .error .noParts
  | view k, none =>
    match k.feature? key with
    | some f => .ok (viewed k f)
    | none => .error (.unknownKey key)
  | view _, some i | emptyMapping, some i => .error (.unknownKey (Nat.repr i))
  | emptyMapping, none => .error (.unknownKey key)
  | _, _ => .error .noParts

def parts : Nat → Value → List Char → Except Fault Value
  | _, v, [] => .ok v
  | 0, _, _ => .error .malformed
  | fuel + 1, v, '.' :: cs =>
    let name := cs.takeWhile fun c => c != '.' && c != '['
    if name = [] then .error .malformed
    else do (← v.part name).parts fuel (cs.drop name.length)
  | fuel + 1, v, '[' :: cs =>
    let index := cs.takeWhile (· != ']')
    if index.length = cs.length then .error .malformed
    else do
      let position ← position? index
      if index = [] then .error .malformed
      else (← v.item position (String.ofList index)).parts fuel (cs.drop (index.length + 1))
  | _ + 1, _, _ => .error .malformed

def converted (v : Value) : Option Char → Except Fault Value
  | none => .ok v
  | some 's' => v.plain.map text
  | some 'r' => (v.shown quoted).map text
  | some 'a' => (v.shown quotedAscii).map text
  | some _ => .error .malformed

end Value

end Fabula.Template
