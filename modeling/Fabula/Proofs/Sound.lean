import Fabula.World
import Fabula.Proofs.Cue
import Fabula.Proofs.Holdings

set_option autoImplicit false

namespace Fabula

structure Holdings.Stocked (items : List String) (h : Holdings) : Prop extends h.Listed where
  known : ∀ id ∈ Table.keys h, id ∈ items

namespace Holdings.Stocked

theorem empty (items : List String) : Holdings.Stocked items [] := ⟨.empty, by simp⟩

theorem add {items : List String} {h : Holdings} (hs : h.Stocked items) {item : String}
    (hi : item ∈ items) (n : Int) : (h.add item n).Stocked items := by
  refine ⟨Holdings.listed_add hs.toListed item n, fun id hid => ?_⟩
  rcases Holdings.mem_keys_add hid with rfl | hold
  · exact hi
  · exact hs.known id hold

theorem remove {items : List String} {h : Holdings} (hs : h.Stocked items) (item : String)
    (n : Int) : (h.remove item n).Stocked items :=
  ⟨Holdings.listed_remove hs.toListed item n,
    fun id hid => hs.known id (Holdings.mem_keys_remove hid)⟩

end Holdings.Stocked

structure Exit.Sound (areas items : List String) (e : Exit) : Prop where
  target : e.target ∈ areas
  key : ∀ key, e.key = some key → key ∈ items

structure Area.Sound (areas items : List String) (a : Area) : Prop where
  exits : ∀ e ∈ a.exits, e.Sound areas items
  loose : a.items.Stocked items
  fixtures : ∀ f ∈ a.fixtures, f.items.Stocked items

def Cue.Within (areas : List String) (cue : Cue) : Prop := ∀ id ∈ cue.targets, id ∈ areas

/-- A world in which everything that is referred to is loaded, each thing under its own id. -/
structure World.Sound (w : World) : Prop where
  itemIds : ∀ row ∈ w.items, row.2.id = row.1
  areaIds : ∀ row ∈ w.areas, row.2.id = row.1
  areas : ∀ row ∈ w.areas, row.2.Sound w.areas.keys w.items.keys
  scenes : ∀ row ∈ w.scenes, ∀ cue ∈ row.2.cues, cue.Within w.areas.keys

namespace World.Sound

theorem area {w : World} (hw : w.Sound) {id : String} {a : Area} (ha : w.area? id = some a) :
    a.id = id ∧ a.Sound w.areas.keys w.items.keys :=
  ⟨hw.areaIds _ (Table.mem_of_get? ha), hw.areas _ (Table.mem_of_get? ha)⟩

theorem changeArea {w : World} (hw : w.Sound) {id : String} {f : Area → Area}
    (hid : ∀ a, (f a).id = a.id)
    (hf : ∀ a, a.Sound w.areas.keys w.items.keys → (f a).Sound w.areas.keys w.items.keys) :
    (w.changeArea id f).Sound := by
  have hkeys : (w.changeArea id f).areas.keys = w.areas.keys := Table.keys_modify id f w.areas
  constructor
  · exact hw.itemIds
  · intro row hrow
    rcases Table.mem_modify hrow with hold | ⟨a, ha, rfl⟩
    · exact hw.areaIds row hold
    · exact (hid a).trans (hw.areaIds _ ha)
  · intro row hrow
    rw [hkeys]
    rcases Table.mem_modify hrow with hold | ⟨a, ha, rfl⟩
    · exact hw.areas row hold
    · exact hf a (hw.areas _ ha)
  · rw [hkeys]
    exact hw.scenes

end World.Sound

end Fabula
