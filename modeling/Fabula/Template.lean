import Fabula.Table
import Fabula.Template.Number

/-!
Message templates. Braces hold fields, `{name}`, which may select a part of a value (`{name[0]}`),
quote it (`{name!r}`) and lay it out (`{name:>6}`); doubled braces stand for themselves. A layout
may itself hold fields, but not deeper. A template is read from left to right, and the first fault
met ends it.
-/

set_option autoImplicit false

namespace Fabula

open Fabula.Text

namespace Template

abbrev Fields := List (String × Value)

structure Field where
  name : List Char
  conversion : Option Char
  layout : List Char
  /-- Whether the layout holds braces. -/
  nested : Bool

/-- What precedes the end of a name: a closing brace, a colon or an exclamation mark. Square
brackets hide these; an opening brace is refused. -/
def fieldName : Bool → List Char → Except Fault (List Char × Char × List Char)
  | _, [] => .error .malformed
  | true, c :: cs => do
    let (name, stop, rest) ← fieldName (c != ']') cs
    pure (c :: name, stop, rest)
  | false, c :: cs =>
    if c = '{' then .error .malformed
    else if c = '}' ∨ c = ':' ∨ c = '!' then pure ([], c, cs)
    else do
      let (name, stop, rest) ← fieldName (c = '[') cs
      pure (c :: name, stop, rest)

/-- A layout ends at the brace that closes the field; `depth` braces are open within it. -/
def fieldLayout : Nat → List Char → Except Fault (List Char × List Char)
  | _, [] => .error .malformed
  | 0, '}' :: cs => pure ([], cs)
  | depth, c :: cs => do
    let depth' := if c = '{' then depth + 1 else if c = '}' then depth - 1 else depth
    let (layout, rest) ← fieldLayout depth' cs
    pure (c :: layout, rest)

def field (cs : List Char) : Except Fault (Field × List Char) := do
  let (name, stop, cs) ← fieldName false cs
  let withLayout (conversion : Option Char) (cs : List Char) :
      Except Fault (Field × List Char) := do
    let (layout, rest) ← fieldLayout 0 cs
    pure (⟨name, conversion, layout, '{' ∈ layout⟩, rest)
  if stop = '}' then pure (⟨name, none, [], false⟩, cs)
  else if stop = ':' then withLayout none cs
  else match cs with
    | c :: '}' :: rest => pure (⟨name, some c, [], false⟩, rest)
    | c :: ':' :: rest => withLayout (some c) rest
    | _ => .error .malformed

def Field.value (fields : Fields) (name : List Char) : Except Fault Value := do
  let key := name.takeWhile fun c => c != '.' && c != '['
  let rest := name.drop key.length
  if key = [] ∨ (← Value.position? key).isSome then .error .noPosition
  else match fields.lookup (String.ofList key) with
  | some v => v.parts rest.length rest
  | none => .error (.unknownKey (String.ofList key))

/-- A value under a layout; an empty layout shows it plainly. Only texts, numbers and truth
values have others. -/
def Value.laidOut (v : Value) (layout : List Char) : Except Fault (List Char) :=
  let numeric (n : Int) : Except Fault (List Char) :=
    match Layout.parse? .right 'd' layout with
    | some l => l.integer n
    | none => .error .malformed
  if layout = [] then v.plain.map String.toList
  else match v with
  | .text s =>
    match Layout.parse? .left 's' layout with
    | some l => l.text s.toList
    | none => .error .malformed
  | .number n => numeric n
  | .place n => numeric n
  | .truth b => numeric (if b then 1 else 0)
  | _ => .error .noLayout

def Field.write (expand : List Char → Except Fault (List Char)) (fields : Fields) (f : Field) :
    Except Fault (List Char) := do
  let v ← (← Field.value fields f.name).converted f.conversion
  v.laidOut (← if f.nested then expand f.layout else pure f.layout)

def fill (expand : List Char → Except Fault (List Char)) (fields : Fields) :
    Nat → List Char → Except Fault (List Char)
  | _, [] => pure []
  | 0, _ => .error .malformed
  | fuel + 1, '{' :: '{' :: cs => do pure ('{' :: (← fill expand fields fuel cs))
  | fuel + 1, '}' :: '}' :: cs => do pure ('}' :: (← fill expand fields fuel cs))
  | _ + 1, ['{'] => .error .malformed
  | fuel + 1, '{' :: cs => do
    let (f, rest) ← field cs
    let here ← f.write expand fields
    pure (here ++ (← fill expand fields fuel rest))
  | _ + 1, '}' :: _ => .error .malformed
  | fuel + 1, c :: cs => do pure (c :: (← fill expand fields fuel cs))

def fillLayout (fields : Fields) (cs : List Char) : Except Fault (List Char) :=
  fill (fun _ => .error .malformed) fields cs.length cs

def render (template : String) (fields : Fields) : Except Fault String := do
  let cs := template.toList
  pure (String.ofList (← fill (fillLayout fields) fields cs.length cs))

end Template

abbrev Catalogue := Table String String

namespace Catalogue

def prompt (c : Catalogue) : String := (Table.get? c "prompt").getD "> "

def optionTemplate (c : Catalogue) : String :=
  (Table.get? c "select_option").getD "{index} - {text}"

end Catalogue

end Fabula
