import Fabula.Yaml.Graph

/-!
Merging of mappings. A key that marks a merge is replaced by the entries of the mapping under it, or
of each of the mappings listed under it, of which the first counts most. The entries that are merged
come before those of the mapping itself. What is merged is merged into first; it may be a mapping
that is being merged into, which then has the entries that it has so far.
-/

set_option autoImplicit false

namespace Fabula.Yaml.Graph

def takeMerge? (g : Graph) : List (Nat × Nat) → Option (Nat × List (Nat × Nat))
  | [] => none
  | e :: es =>
    if g.tag e.1 = .merge then some (e.2, es)
    else (g.takeMerge? es).map fun (value, es) => (value, e :: es)

/-- A key whose value stands for its mapping is a text like others once its mapping is used as
one. -/
def setKeyTags (g : Graph) (es : List (Nat × Nat)) : Graph :=
  es.foldl (fun g e => if g.tag e.1 = .byDefault then g.setTag e.1 .text else g) g

def prepend (g : Graph) (n : Nat) (found : List (Nat × Nat)) : Graph :=
  let es := found ++ g.entries n
  (g.setContent n (.mapping es)).setKeyTags es

/-- Merges into a mapping what its keys ask for, after what has been `found` so far. Every step
takes away one of the keys that mark merges, and no entry that is merged is marked. -/
def mergeFrom : Nat → Nat → List (Nat × Nat) → Graph → Except Fault Graph
  | 0, n, found, g => .ok (g.prepend n found)
  | fuel + 1, n, found, g =>
    match g.takeMerge? (g.entries n) with
    | none => .ok (g.prepend n found)
    | some (value, es) =>
      let g := g.setContent n (.mapping es)
      let single (g : Graph) (m : Nat) : Except Fault (List (Nat × Nat) × Graph) :=
        if g.isMapping m then do
          let g ← mergeFrom fuel m [] g
          pure (g.entries m, g)
        else .error (.malformed "only mappings can be merged")
      do
        let (more, g) ← match g.content value with
          | .sequence items => do
            let (lists, g) ← items.foldlM (fun (lists, g) m => do
              let (es, g) ← single g m
              pure (es :: lists, g)) ([], g)
            pure (lists.flatten, g)
          | _ => single g value
        mergeFrom fuel n (found ++ more) g

def merge (g : Graph) (n : Nat) : Except Fault Graph := mergeFrom (g.entryCount + 1) n [] g

end Fabula.Yaml.Graph
