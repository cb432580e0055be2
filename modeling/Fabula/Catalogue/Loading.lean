import Fabula.Template
import Fabula.Document

set_option autoImplicit false

namespace Fabula.Catalogue

open Yaml (Breakdown)

/-- Why there is no catalogue for a language. The first three are reported to the player. -/
inductive Problem where
  | missing (file : String)
  | notYaml (file reason : String)
  | notMapping (file : String)
  | mishap (m : Mishap)
  deriving Repr, DecidableEq

def Problem.report? : Problem → Option String
  | missing file => some ("ERROR: Missing file '" ++ file ++ "'")
  | notYaml file reason => some ("ERROR: Invalid YAML in '" ++ file ++ "': " ++ reason)
  | notMapping file =>
    some ("ERROR: Message catalogue '" ++ file ++ "' must map keys to text")
  | mishap _ => none

def pathFor (language : String) : String := "messages." ++ language ++ ".yaml"

/-- The messages of a document. Keys and messages that are no texts are shown as values. -/
def ofDocument? (deepestShown : Nat) (d : Yaml.Document) :
    Except Breakdown (Option Catalogue) :=
  match d.value.compound? d.compounds with
  | some (.mapping es) => do
    let rows ← es.mapM fun e => do
      let key ← e.1.plain d.compounds deepestShown
      pure (key, ← e.2.plain d.compounds deepestShown)
    pure (some (Text.Wide.strings (Table.ofRows rows)))
  | _ => .ok (((d.value.parts? d.compounds).filter (·.isEmpty)).map fun _ => [])

def load (f : Folder) (language : String) (r : Readers := .usual) : Except Problem Catalogue :=
  let path := pathFor language
  let file := Path.lastName path
  let broken (b : Breakdown) : Problem := .mishap (.refused (.breakdown b))
  match f.read path with
  | .error .absent => .error (.missing file)
  | .error d => .error (.mishap (.denied d))
  | .ok octets =>
    match r.yamlFile octets with
    | .error (.breakdown b) => .error (broken b)
    | .error fault => .error (.notYaml file fault.message)
    | .ok d =>
      match ofDocument? r.deepestShown d with
      | .ok (some c) => .ok c
      | .ok none => .error (.notMapping file)
      | .error b => .error (broken b)

def quotedChars : List Char → List Char
  | [] => []
  | c :: cs => if c = '"' ∨ c = '\\' then '\\' :: c :: quotedChars cs else c :: quotedChars cs

def toYaml (c : Catalogue) : String :=
  String.join (c.map fun (key, text) =>
    key ++ ": \"" ++ String.ofList (quotedChars text.toList) ++ "\"\n")

end Fabula.Catalogue
