import Mathlib.Data.List.Forall2
import Fabula.Document
import Fabula.Proofs.Cue
import Fabula.Proofs.Table
import Fabula.Proofs.Words

/-!
The two notations for documents. A tree can be written as a value, each node in one of three forms,
or as an element with white space around its texts; both are read back as the same tree, unless it
is too deep to be followed.
-/

set_option autoImplicit false

namespace Fabula

namespace Text

theorem Wide.chars_ofChars (cs : List Char) : (Wide.ofChars cs).chars = cs := by
  simp [ofChars, chars, Function.comp_def]

theorem Wide.string_ofString (s : String) : (Wide.ofString s).string = s := by
  rw [string, ofString, chars_ofChars, String.ofList_toList]

theorem Wide.ofString_inj {s t : String} : Wide.ofString s = Wide.ofString t ↔ s = t := by
  refine ⟨fun h => ?_, fun h => by rw [h]⟩
  rw [← string_ofString s, h, string_ofString]

end Text

namespace Yaml.Value

def word (s : String) : Value := .text (.ofString s)

section

variable (cs : Compounds) (deepest : Nat) (w : Text.Wide)

@[simp] theorem text_plain : (text w).plain cs deepest = .ok w := rfl

@[simp] theorem text_scalarText : (text w).scalarText cs deepest = .ok w := rfl

@[simp] theorem text_compound? : (text w).compound? cs = none := rfl

theorem compound?_compound (n : Nat) : (compound n).compound? cs = cs[n]? := rfl

@[simp] theorem text_isText (name : String) :
    (text w).isText name = decide (w = .ofString name) := by
  rw [isText, Bool.eq_iff_iff, beq_iff_eq, decide_eq_true_iff]

@[simp] theorem word_isText (s name : String) : (word s).isText name = decide (s = name) := by
  rw [word, text_isText]
  exact decide_eq_decide.mpr Text.Wide.ofString_inj

end

end Yaml.Value

/-- What holds of a tree and of all that is below it. -/
inductive Throughout {α : Type} (children : α → List α) (P : α → Prop) : α → Prop
  | node {a : α} : P a → (∀ child ∈ children a, Throughout children P child) →
      Throughout children P a

namespace Node

def height : Node → Nat
  | ⟨_, _, _, children⟩ => heights children + 1
where
  heights : List Node → Nat
    | [] => 0
    | n :: nodes => max (height n) (heights nodes)

theorem height_eq (n : Node) : n.height = height.heights n.children + 1 := by
  cases n
  rw [height]

theorem heights_le {nodes : List Node} {most : Nat} (h : ∀ n ∈ nodes, n.height ≤ most) :
    height.heights nodes ≤ most := by
  induction nodes with
  | nil => exact Nat.zero_le _
  | cons n nodes ih =>
    rw [List.forall_mem_cons] at h
    exact Nat.max_le.mpr ⟨h.1, ih h.2⟩

end Node

namespace Yaml.Tree

open Node.height (heights)
open Text (Wide)
open Value (word)

theorem induct {P : Tree → Prop} (step : ∀ t, (∀ child ∈ t.children, P child) → P t) (t : Tree) :
    P t := by
  refine @Tree.rec P (fun ts => ∀ t ∈ ts, P t) ?_ ?_ ?_ t
  · intro name attributes value children ih
    exact step _ ih
  · simp
  · intro head tail hhead htail
    simpa using ⟨hhead, htail⟩

def ofNode : Node → Tree
  | ⟨name, attributes, value, children⟩ =>
    ⟨.ofString name, attributes.map fun row => (.ofString row.1, .ofString row.2), .ofString value,
      ofNodes children⟩
where
  ofNodes : List Node → List Tree
    | [] => []
    | n :: ns => ofNode n :: ofNodes ns

theorem ofNodes_eq (ns : List Node) : ofNode.ofNodes ns = ns.map ofNode := by
  induction ns with
  | nil => rfl
  | cons n ns ih => rw [ofNode.ofNodes, ih, List.map_cons]

theorem nodes_eq (ts : List Tree) : node.nodes ts = ts.map node := by
  induction ts with
  | nil => rfl
  | cons t ts ih => rw [node.nodes, ih, List.map_cons]

@[simp] theorem children_ofNode (n : Node) : (ofNode n).children = n.children.map ofNode := by
  cases n
  rw [ofNode, ofNodes_eq]

@[simp] theorem children_node (t : Tree) : t.node.children = t.children.map node := by
  cases t
  rw [node, nodes_eq]

@[simp] theorem node_ofNode (n : Node) : (ofNode n).node = n := by
  induction n using Node.induct with
  | step n ih =>
    obtain ⟨name, attributes, value, children⟩ := n
    have hchildren : node.nodes (ofNode.ofNodes children) = children := by
      rw [ofNodes_eq, nodes_eq, List.map_map]
      exact (List.map_congr_left ih).trans (List.map_id _)
    simp [ofNode, node, hchildren, Text.Wide.strings, Text.Wide.string_ofString, Function.comp_def]

theorem throughout_ofNode {P : Tree → Prop} {n : Node}
    (h : Throughout Node.children (fun n => P (ofNode n)) n) :
    Throughout children P (ofNode n) := by
  induction h with
  | node hn _ ih =>
    refine .node hn ?_
    rwa [children_ofNode, List.forall_mem_map]

/-- No attribute is written twice, and none is named like what a mapping holds beside them. -/
structure Plain (t : Tree) : Prop where
  distinct : t.attributes.keys.Nodup
  noValue : .ofString "value" ∉ t.attributes.keys
  noChildren : .ofString "children" ∉ t.attributes.keys

theorem plain_ofNode {n : Node} (hdistinct : n.attributes.keys.Nodup)
    (hvalue : "value" ∉ n.attributes.keys) (hchildren : "children" ∉ n.attributes.keys) :
    (ofNode n).Plain := by
  have hkeys : (ofNode n).attributes.keys = n.attributes.keys.map Wide.ofString := by
    cases n
    simp [ofNode, Table.keys]
  have hother : ∀ {name}, name ∉ n.attributes.keys →
      Wide.ofString name ∉ (ofNode n).attributes.keys := by
    intro name hname hmem
    rw [hkeys, List.mem_map] at hmem
    obtain ⟨key, hkey, heq⟩ := hmem
    exact hname (Wide.ofString_inj.mp heq ▸ hkey)
  refine ⟨?_, hother hvalue, hother hchildren⟩
  rw [hkeys]
  exact List.Pairwise.map _ (fun _ _ hne heq => hne (Wide.ofString_inj.mp heq)) hdistinct

/-- A value that writes a tree. A node may be written in full, by its text alone if it has neither
attributes nor children, or by its children alone if it has neither attributes nor a text. -/
inductive Renders (cs : Compounds) : Tree → Value → Prop
  | full {name value : Wide} {attributes : Table Wide Wide} {children : List Tree}
      {vs : List Value} {own body list : Nat} :
      cs[own]? = some (.mapping [(.text name, .compound body)]) →
      cs[body]? = some (.mapping (attributes.map (fun row => (.text row.1, .text row.2)) ++
        [(word "value", .text value), (word "children", .compound list)])) →
      cs[list]? = some (.list vs) → List.Forall₂ (Renders cs) children vs →
      Renders cs ⟨name, attributes, value, children⟩ (.compound own)
  | text {name value : Wide} {own : Nat} :
      cs[own]? = some (.mapping [(.text name, .text value)]) →
      Renders cs ⟨name, [], value, []⟩ (.compound own)
  | list {name : Wide} {children : List Tree} {vs : List Value} {own list : Nat} :
      cs[own]? = some (.mapping [(.text name, .compound list)]) →
      cs[list]? = some (.list vs) → List.Forall₂ (Renders cs) children vs →
      Renders cs ⟨name, [], [], children⟩ (.compound own)

section

variable {cs : Compounds} {deepestShown : Nat}

theorem withEntries_attributes {child : Value → Except Refusal Tree}
    {attributes : Table Wide Wide} (hvalue : .ofString "value" ∉ attributes.keys)
    (hchildren : .ofString "children" ∉ attributes.keys) (es : List (Value × Value))
    (before : Table Wide Wide) :
    withEntries cs deepestShown child
        (attributes.map (fun row => (.text row.1, .text row.2)) ++ es) ⟨[], before, [], []⟩ =
      withEntries cs deepestShown child es
        ⟨[], attributes.foldl (fun t row => t.put row.1 row.2) before, [], []⟩ := by
  induction attributes generalizing before with
  | nil => rfl
  | cons row attributes ih =>
    simp only [Table.keys_cons, List.mem_cons, not_or] at hvalue hchildren
    simp only [List.map_cons, List.cons_append, withEntries, Value.text_isText,
      Ne.symm hvalue.1, Ne.symm hchildren.1, decide_false, Bool.false_eq_true, if_false,
      Value.text_scalarText, Value.text_plain, unlessBroken, Except.mapError, bind, Except.bind,
      ih hvalue.2 hchildren.2, List.foldl_cons]

theorem mapM_children {children : List Tree} {vs : List Value} {depth : Nat}
    (hvs : List.Forall₂ (Renders cs) children vs)
    (hread : ∀ t ∈ children, ∀ v, Renders cs t v → ofValueWithin cs deepestShown depth v =
      if t.node.height ≤ depth then .ok t else .error (.breakdown .endless)) :
    vs.mapM (ofValueWithin cs deepestShown depth) =
      if heights (children.map node) ≤ depth then .ok children
      else .error (.breakdown .endless) := by
  induction hvs with
  | nil => rfl
  | @cons t v children vs hv _ ih =>
    rw [List.forall_mem_cons] at hread
    have hmax := @Nat.max_le t.node.height (heights (children.map node)) depth
    rw [List.mapM_cons, hread.1 v hv, ih hread.2, List.map_cons, heights]
    by_cases ht : t.node.height ≤ depth
    · by_cases hrest : heights (children.map node) ≤ depth
      · rw [if_pos ht, if_pos hrest, if_pos (hmax.mpr ⟨ht, hrest⟩)]
        rfl
      · rw [if_pos ht, if_neg hrest, if_neg fun h => hrest (hmax.mp h).2]
        rfl
    · rw [if_neg ht, if_neg fun h => ht (hmax.mp h).1]
      rfl

theorem ofValueWithin_succ {t : Tree} (ht : t.Plain) {v : Value} (hv : Renders cs t v)
    {depth : Nat} (hchildren : ∀ vs, List.Forall₂ (Renders cs) t.children vs →
      vs.mapM (ofValueWithin cs deepestShown depth) =
        if heights (t.children.map node) ≤ depth then .ok t.children
        else .error (.breakdown .endless)) :
    ofValueWithin cs deepestShown (depth + 1) v =
      if heights (t.children.map node) ≤ depth then .ok t else .error (.breakdown .endless) := by
  cases hv with
  | @full name value attributes children vs own body list hown hbody hlist hvs =>
    have hrows := Table.ofRows_eq ht.distinct
    rw [Table.ofRows] at hrows
    have hlist' : childValues cs (.compound list) = .ok vs := by
      simp only [childValues, Value.parts?, hlist]
    simp only [ofValueWithin, Value.compound?_compound, hown, hbody, hrows,
      withEntries_attributes ht.noValue ht.noChildren, withEntries, Value.text_plain,
      Value.word_isText, Value.text_scalarText, hlist', unlessBroken, Except.mapError, bind,
      Except.bind, hchildren vs hvs]
    by_cases hdeep : heights (children.map node) ≤ depth
    · simp [hdeep, pure, Except.pure]
    · simp [hdeep]
  | text hown =>
    simp only [ofValueWithin, Value.compound?_compound, hown, Value.text_compound?,
      Value.text_plain, Value.text_scalarText, unlessBroken, Except.mapError, bind, Except.bind,
      pure, Except.pure, List.map_nil, heights, Nat.zero_le, if_true]
  | @list name children vs own list hown hlist hvs =>
    simp only [ofValueWithin, Value.compound?_compound, hown, hlist, Value.text_plain,
      unlessBroken, Except.mapError, bind, Except.bind, hchildren vs hvs]
    by_cases hdeep : heights (children.map node) ≤ depth
    · simp [hdeep, pure, Except.pure]
    · simp [hdeep]

theorem ofValueWithin_renders {t : Tree} (ht : Throughout children Plain t) {v : Value}
    (hv : Renders cs t v) (depth : Nat) : ofValueWithin cs deepestShown depth v =
      if t.node.height ≤ depth then .ok t else .error (.breakdown .endless) := by
  induction ht generalizing v depth with
  | @node t hplain _ ih =>
    cases depth with
    | zero => simp [ofValueWithin, Node.height_eq]
    | succ depth =>
      rw [ofValueWithin_succ hplain hv fun vs hvs => mapM_children hvs fun child hc v hr =>
        ih child hc hr depth, Node.height_eq, children_node]
      simp only [Nat.add_le_add_iff_right]

theorem ofText_renders {r : Readers} {text : String} {v : Value}
    (htext : r.yaml text.toList = .ok ⟨v, cs⟩) {t : Tree} (ht : Throughout children Plain t)
    (hv : Renders cs t v) : ofText text r =
      if t.node.height ≤ r.deepest then .ok t else .error (.breakdown .endless) := by
  rw [← ofValueWithin_renders ht hv, ofText, htext]
  -- Only a compound renders a node.
  cases hv <;> rfl

theorem Renders.mono (more : Compounds) {t : Tree} {v : Value} (hv : Renders cs t v) :
    Renders (cs ++ more) t v := by
  have hold : ∀ {i : Nat} {c : Compound}, cs[i]? = some c → (cs ++ more)[i]? = some c := by
    intro i c hc
    obtain ⟨hi, -⟩ := Array.getElem?_eq_some_iff.mp hc
    rw [Array.getElem?_append_left hi, hc]
  induction t using induct generalizing v with
  | step t ih =>
    have hchildren : ∀ {ts : List Tree} {vs : List Value}, (∀ s ∈ ts, s ∈ t.children) →
        List.Forall₂ (Renders cs) ts vs → List.Forall₂ (Renders (cs ++ more)) ts vs := by
      intro ts vs hsub hvs
      induction hvs with
      | nil => exact .nil
      | cons hv _ ih' =>
        rw [List.forall_mem_cons] at hsub
        exact .cons (ih _ hsub.1 hv) (ih' hsub.2)
    cases hv with
    | full hown hbody hlist hvs =>
      exact .full (hold hown) (hold hbody) (hold hlist) (hchildren (fun _ => id) hvs)
    | text hown => exact .text (hold hown)
    | list hown hlist hvs => exact .list (hold hown) (hold hlist) (hchildren (fun _ => id) hvs)

theorem exists_renders (t : Tree) (cs : Compounds) : ∃ more v, Renders (cs ++ more) t v := by
  induction t using induct generalizing cs with
  | step t ih =>
    obtain ⟨name, attributes, value, children⟩ := t
    have hchildren : ∃ more vs, List.Forall₂ (Renders (cs ++ more)) children vs := by
      change ∀ child ∈ children, _ at ih
      induction children with
      | nil => exact ⟨#[], [], .nil⟩
      | cons child children ih' =>
        rw [List.forall_mem_cons] at ih
        obtain ⟨more, vs, hvs⟩ := ih' ih.2
        obtain ⟨last, v, hv⟩ := ih.1 (cs ++ more)
        refine ⟨more ++ last, v :: vs, ?_⟩
        rw [← Array.append_assoc]
        exact .cons hv (hvs.imp fun _ _ => Renders.mono last)
    obtain ⟨more, vs, hvs⟩ := hchildren
    -- The list of the children comes first, then what the node holds, and the node itself last.
    let size := (cs ++ more).size
    let last : Compounds := #[.list vs,
      .mapping (attributes.map (fun row => (.text row.1, .text row.2)) ++
        [(word "value", .text value), (word "children", .compound size)]),
      .mapping [(.text name, .compound (size + 1))]]
    have hlast : ∀ k, (cs ++ more ++ last)[size + k]? = last[k]? := fun k => by
      rw [Array.getElem?_append_right (Nat.le_add_right ..), Nat.add_sub_cancel_left]
    refine ⟨more ++ last, .compound (size + 2), ?_⟩
    rw [← Array.append_assoc]
    exact .full (hlast 2) (hlast 1) (hlast 0) (hvs.imp fun _ _ => Renders.mono last)

end

end Yaml.Tree

namespace Node

open Yaml (Compound Compounds Tree Value)
open Yaml.Tree (ofNode Plain Renders)
open Yaml.Value (word)

/-- A text without white space around it, in every node. -/
def Trimmed (n : Node) : Prop := Text.trim n.value = n.value

/-- An element that writes a tree, with white space around its texts. -/
inductive Spells : Node → Xml.Element → Prop
  | element {name value text before behind : String} {attributes : Table String String}
      {children : List Node} {es : List Xml.Element} : text = before ++ value ++ behind →
      (∀ c ∈ before.toList, Text.isBlank c = true) →
      (∀ c ∈ behind.toList, Text.isBlank c = true) → List.Forall₂ Spells children es →
      Spells ⟨name, attributes, value, children⟩ ⟨name, attributes, text, es⟩

theorem height_ofElement (e : Xml.Element) : (ofElement e).height = e.depth := by
  refine @Xml.Element.rec (fun e => (ofElement e).height = e.depth)
    (fun es => height.heights (ofElement.ofElements es) = Xml.Element.depth.depths es) ?_ rfl ?_ e
  · intro name attributes text children ih
    rw [ofElement, height, ih, Xml.Element.depth]
  · intro e es hfirst hrest
    rw [ofElement.ofElements, height.heights, hfirst, hrest, Xml.Element.depth.depths]

theorem ofElements_spells {children : List Node} {es : List Xml.Element}
    (hes : List.Forall₂ Spells children es)
    (hread : ∀ n ∈ children, ∀ e, Spells n e → ofElement e = n) :
    ofElement.ofElements es = children := by
  induction hes with
  | nil => rfl
  | @cons n e children es he _ ih =>
    rw [List.forall_mem_cons] at hread
    rw [ofElement.ofElements, hread.1 e he, ih hread.2]

theorem ofElement_spells {n : Node} (hn : Throughout children Trimmed n) {e : Xml.Element}
    (he : Spells n e) : ofElement e = n := by
  induction n using induct generalizing e with
  | step n ih =>
    obtain ⟨htrimmed, hbelow⟩ := hn
    obtain ⟨rfl, hbefore, hbehind, hes⟩ := he
    have hnodes := ofElements_spells hes fun child hc e hs => ih child hc (hbelow child hc) hs
    rw [ofElement, hnodes, Text.trim_around hbefore htrimmed hbehind]

theorem ofXml_spells {r : Readers} {text : String} {e : Xml.Element}
    (htext : r.xml text.toList = .ok e) {n : Node} (hn : Throughout children Trimmed n) (he : Spells n e) :
    ofXml text r = if n.height ≤ r.deepest then .ok n else .error (.breakdown .tooDeep) := by
  rw [ofXml, htext, ← ofElement_spells hn he, height_ofElement]

theorem exists_spells (n : Node) : ∃ e, Spells n e := by
  induction n using induct with
  | step n ih =>
    obtain ⟨name, attributes, value, children⟩ := n
    have hchildren : ∃ es, List.Forall₂ Spells children es := by
      change ∀ child ∈ children, _ at ih
      induction children with
      | nil => exact ⟨[], .nil⟩
      | cons child children ih' =>
        rw [List.forall_mem_cons] at ih
        obtain ⟨e, he⟩ := ih.1
        obtain ⟨es, hes⟩ := ih' ih.2
        exact ⟨e :: es, .cons he hes⟩
    obtain ⟨es, hes⟩ := hchildren
    exact ⟨⟨name, attributes, "" ++ value ++ "", es⟩, .element rfl (by simp) (by simp) hes⟩

/-- A tree in which no node has a reserved or repeated attribute is read back from every value that
renders it, whatever stands in its texts. A tree of characters without white space around its texts
is also read back from every element that spells it. In both notations a tree is given back as it is
if it is not too deep, and refused otherwise; so it is with all readers, however deep they can
follow a tree. -/
theorem notations_agree {t : Tree} (hplain : Throughout Tree.children Plain t) :
    (∀ cs v deepestShown depth, Renders cs t v → Tree.ofValueWithin cs deepestShown depth v =
      if t.node.height ≤ depth then .ok t else .error (.breakdown .endless)) ∧
    ∀ n, t = ofNode n → Throughout children Trimmed n →
      (∀ e, Spells n e → ofElement e = n ∧ e.depth = n.height) ∧
      ∀ (r : Readers) yaml cs v xml e, r.yaml yaml.toList = .ok ⟨v, cs⟩ → Renders cs t v →
        r.xml xml.toList = .ok e → Spells n e →
        n.height ≤ r.deepest ∧ ofYaml yaml r = .ok n ∧ ofXml xml r = .ok n ∨
        r.deepest < n.height ∧ ofYaml yaml r = .error (.breakdown .endless) ∧
          ofXml xml r = .error (.breakdown .tooDeep) := by
  refine ⟨fun cs v _ depth hv => Tree.ofValueWithin_renders hplain hv depth, fun n ht hn =>
    ⟨fun e he => ?_, fun r yaml cs v xml e hyaml hv hxml he => ?_⟩⟩
  · have hread := ofElement_spells hn he
    exact ⟨hread, by rw [← height_ofElement, hread]⟩
  · rw [ofYaml, Tree.ofText_renders hyaml hplain hv, ofXml_spells hxml hn he, ht,
      Tree.node_ofNode]
    by_cases hdeep : n.height ≤ r.deepest
    · rw [if_pos hdeep, if_pos hdeep]
      exact .inl ⟨hdeep, congrArg Except.ok (Tree.node_ofNode n), rfl⟩
    · rw [if_neg hdeep, if_neg hdeep]
      exact .inr ⟨Nat.lt_of_not_le hdeep, rfl, rfl⟩

theorem plain_bare (name value : String) (children : List Node) :
    (ofNode ⟨name, [], value, children⟩).Plain := Tree.plain_ofNode .nil (by simp) (by simp)

def greeting : Node :=
  ⟨"entry", [("id", "1")], "", [⟨"text", [], "Welcome", []⟩,
    ⟨"select", [], "", [⟨"continue", [], "", []⟩]⟩]⟩

def greetingValues : Compounds := #[
  .mapping [(word "entry", .compound 1)],
  .mapping [(word "id", word "1"), (word "value", word ""), (word "children", .compound 2)],
  .list [.compound 3, .compound 4],
  .mapping [(word "text", word "Welcome")],
  .mapping [(word "select", .compound 5)],
  .list [.compound 6],
  .mapping [(word "continue", word "")]]

def greetingElement : Xml.Element :=
  ⟨"entry", [("id", "1")], "\n  ", [⟨"text", [], " Welcome\n", []⟩,
    ⟨"select", [], "", [⟨"continue", [], "\t", []⟩]⟩]⟩

theorem notations_agree_greeting : Throughout Tree.children Plain (ofNode greeting) ∧
    Renders greetingValues (ofNode greeting) (.compound 0) ∧ Spells greeting greetingElement ∧
    Tree.ofValueWithin greetingValues Readers.usual.deepestShown Readers.usual.deepest
      (.compound 0) = .ok (ofNode greeting) ∧
    ofElement greetingElement = greeting := by
  -- Of all its nodes, only the entry has attributes, and only its text has a value.
  have hall : ∀ {P : Node → Prop}, P greeting → P ⟨"text", [], "Welcome", []⟩ →
      P ⟨"select", [], "", [⟨"continue", [], "", []⟩]⟩ → P ⟨"continue", [], "", []⟩ →
      Throughout children P greeting := by
    intro P hentry htext hselect hgo
    refine .node hentry ?_
    simp only [greeting, List.forall_mem_cons]
    exact ⟨.node htext (by simp), .node hselect (by simpa using .node hgo (by simp)), by simp⟩
  have hplain : Throughout Tree.children Plain (ofNode greeting) :=
    Tree.throughout_ofNode (hall (Tree.plain_ofNode (by decide) (by decide) (by decide))
      (plain_bare ..) (plain_bare ..) (plain_bare ..))
  have hempty : Text.trim "" = "" := by decide
  have htrimmed : Throughout children Trimmed greeting :=
    hall hempty (by decide : Text.trim "Welcome" = "Welcome") hempty hempty
  have hvalue : Renders greetingValues (ofNode greeting) (.compound 0) :=
    .full rfl rfl rfl (.cons (.text rfl) (.cons (.list rfl rfl (.cons (.text rfl) .nil)) .nil))
  have helement : Spells greeting greetingElement := by
    have hnone : ∀ c ∈ "".toList, Text.isBlank c = true := by simp
    -- Stated of lists, these are not decided over all characters that there are.
    have htab := List.all_eq_true.mp (by decide +kernel : "\t".toList.all Text.isBlank = true)
    have hspace := List.all_eq_true.mp (by decide +kernel : " ".toList.all Text.isBlank = true)
    have hfeed := List.all_eq_true.mp (by decide +kernel : "\n".toList.all Text.isBlank = true)
    have hindent := List.all_eq_true.mp (by decide +kernel : "\n  ".toList.all Text.isBlank = true)
    have hgo : Spells ⟨"continue", [], "", []⟩ ⟨"continue", [], "\t", []⟩ :=
      @Spells.element _ "" "\t" "\t" "" _ _ _ (by decide +kernel) htab hnone .nil
    have hchoice : Spells ⟨"select", [], "", [⟨"continue", [], "", []⟩]⟩
        ⟨"select", [], "", [⟨"continue", [], "\t", []⟩]⟩ :=
      @Spells.element _ "" "" "" "" _ _ _ (by decide +kernel) hnone hnone (.cons hgo .nil)
    have htext : Spells ⟨"text", [], "Welcome", []⟩ ⟨"text", [], " Welcome\n", []⟩ :=
      @Spells.element _ "Welcome" " Welcome\n" " " "\n" _ _ _ (by decide +kernel) hspace hfeed .nil
    exact @Spells.element _ "" "\n  " "\n  " "" _ _ _ (by decide +kernel) hindent hnone
      (.cons htext (.cons hchoice .nil))
  obtain ⟨hread, hboth⟩ := notations_agree hplain
  obtain ⟨hspelt, -⟩ := hboth greeting rfl htrimmed
  exact ⟨hplain, hvalue, helement, (hread _ _ _ _ hvalue).trans (if_pos (by decide)),
    (hspelt _ helement).1⟩

def chain : Nat → Node
  | 0 => ⟨"a", [], "", []⟩
  | k + 1 => ⟨"a", [], "", [chain k]⟩

theorem chain_throughout {P : Node → Prop} (hP : ∀ children, P ⟨"a", [], "", children⟩)
    (k : Nat) : Throughout children P (chain k) := by
  induction k with
  | zero => exact .node (hP []) (by simp [chain])
  | succ k ih => exact .node (hP [chain k]) (by simpa [chain] using ih)

theorem height_chain (k : Nat) : (chain k).height = k + 1 := by
  induction k with
  | zero => rfl
  | succ k ih => rw [height_eq, chain, height.heights, height.heights, ih, Nat.max_zero]

/-- A tree that is one node too deep can be written in both notations, and is read in neither. -/
theorem deep_tree_refused :
    let deepest := Readers.usual.deepest
    Throughout Tree.children Plain (ofNode (chain deepest)) ∧
    Throughout children Trimmed (chain deepest) ∧
    (∃ cs v, Renders cs (ofNode (chain deepest)) v ∧ ∀ deepestShown,
      Tree.ofValueWithin cs deepestShown deepest v = .error (.breakdown .endless)) ∧
    ∃ e, Spells (chain deepest) e ∧ ∀ text, Xml.readElement text.toList = .ok e →
      ofXml text = .error (.breakdown .tooDeep) := by
  intro deepest
  have hplain := Tree.throughout_ofNode (chain_throughout (plain_bare "a" "") deepest)
  have hempty : Text.trim "" = "" := by decide
  have htrimmed := chain_throughout (P := Trimmed) (fun _ => hempty) deepest
  have hdeep : ¬(chain deepest).height ≤ deepest := by
    rw [height_chain]
    exact Nat.not_succ_le_self _
  obtain ⟨cs, v, hv⟩ := Tree.exists_renders (ofNode (chain deepest)) #[]
  obtain ⟨e, he⟩ := exists_spells (chain deepest)
  refine ⟨hplain, htrimmed, ⟨_, v, hv, fun deepestShown => ?_⟩, e, he, fun text htext => ?_⟩
  · rw [Tree.ofValueWithin_renders hplain hv, Tree.node_ofNode, if_neg hdeep]
  · rw [ofXml_spells (r := .usual) htext htrimmed he, if_neg hdeep]

end Node

end Fabula
