import Fabula.World

/-!
What can be wrong with the world that a document describes: ids that are absent, repeated or name
nothing, amounts that are no positive integers, and names that are needed and absent. A document
may be played if nothing is found.
-/

set_option autoImplicit false

namespace Fabula

inductive Holder where
  | area (id : Option String)
  | fixture (name area : Option String)
  deriving Repr, DecidableEq

inductive Complaint where
  | wrongRoot (name : String)
  | noId (tag : String)
  | repeatedId (tag id : String)
  | noStart
  | namelessItem (id : Option String)
  | enterNothing (scene : Option String)
  | enterMissing (scene : Option String) (area : String)
  | holdsNothing (holder : Holder)
  | holdsMissing (holder : Holder) (item : String)
  | amountNoInteger (holder : Holder) (raw : String) (item : Option String)
  | amountNotPositive (holder : Holder) (raw : String) (item : Option String)
  | exitNowhere (area : Option String)
  | exitMissing (area : Option String) (target : String)
  | exitNoDirection (area target : Option String)
  | exitNoKind (area target : Option String)
  | keyMissing (area direction : Option String) (key : String)
  | namelessFixture (area : Option String)
  deriving Repr, DecidableEq

def shownName (name : Option String) : String := name.getD "None"

def Holder.shown : Holder → String
  | .area id => "Area '" ++ shownName id ++ "'"
  | .fixture name place => "Prop '" ++ shownName name ++ "' in area '" ++ shownName place ++ "'"

namespace Complaint

def inArea (area : Option String) (what : String) : String := (Holder.area area).shown ++ what

def inScene (scene : Option String) (what : String) : String :=
  "Entry '" ++ shownName scene ++ "'" ++ what

def amount (holder : Holder) (raw : String) (item : Option String) : String :=
  holder.shown ++ " has invalid amount '" ++ raw ++ "' for item '" ++ shownName item ++ "'"

def message : Complaint → String
  | wrongRoot name => "Root element must be <adventure>, got <" ++ name ++ ">"
  | noId tag => "<" ++ tag ++ "> element without 'id'"
  | repeatedId tag id => "Duplicate " ++ tag ++ " id '" ++ id ++ "'"
  | noStart => "Start entry '1' does not exist"
  | namelessItem id => "Item '" ++ shownName id ++ "' has no name"
  | enterNothing scene => inScene scene " has <enter> without 'area'"
  | enterMissing scene area => inScene scene (" enters missing area '" ++ area ++ "'")
  | holdsNothing holder => holder.shown ++ " has <contains> without 'item'"
  | holdsMissing holder item => holder.shown ++ " contains missing item '" ++ item ++ "'"
  | amountNoInteger holder raw item => amount holder raw item
  | amountNotPositive holder raw item => amount holder raw item ++ " (must be positive integer)"
  | exitNowhere area => inArea area " has <connects> without 'to'"
  | exitMissing area target => inArea area (" connects to missing area '" ++ target ++ "'")
  | exitNoDirection area target =>
    inArea area (" connection to '" ++ shownName target ++ "' has no direction")
  | exitNoKind area target =>
    inArea area (" connection to '" ++ shownName target ++ "' has no type")
  | keyMissing area direction key =>
    inArea area (" connection [" ++ shownName direction ++ "] requires missing key item '" ++
      key ++ "'")
  | namelessFixture area => inArea area " has <prop> without 'name'"

end Complaint

namespace Node

def startScene : String := "1"

def idComplaints (tag : String) : List String → List Node → List Complaint
  | _, [] => []
  | seen, n :: nodes =>
    if n.tagged tag then
      match n.filled? "id" with
      | none => .noId tag :: idComplaints tag seen nodes
      | some id =>
        (if id ∈ seen then [.repeatedId tag id] else []) ++ idComplaints tag (id :: seen) nodes
    else idComplaints tag seen nodes

def idsOf (root : Node) (tag : String) : List String :=
  (root.children.filter (·.tagged tag)).filterMap (·.filled? "id")

def writtenAmount? (n : Node) : Option String :=
  match n.attr? "ammount" with
  | some raw => some raw
  | none => n.attr? "amount"

def mentionComplaints (items : List String) (holder : Holder) (n : Node) : List Complaint :=
  let item := n.attr? "item"
  (match n.filled? "item" with
    | none => [.holdsNothing holder]
    | some id => if id ∈ items then [] else [.holdsMissing holder id]) ++
  (match n.writtenAmount? with
    | none => []
    | some raw =>
      match Text.integer? raw with
      | none => [.amountNoInteger holder raw item]
      | some amount => if amount < 1 then [.amountNotPositive holder raw item] else [])

def exitComplaints (areas items : List String) (area : Option String) (n : Node) :
    List Complaint :=
  let target := n.attr? "to"
  let direction := n.attr? "dir"
  (match n.filled? "to" with
    | none => [.exitNowhere area]
    | some id => if id ∈ areas then [] else [.exitMissing area id]) ++
  (if (n.filled? "dir").isNone then [.exitNoDirection area target] else []) ++
  (if (n.filled? "type").isNone then [.exitNoKind area target] else []) ++
  (match n.filled? "key" with
    | none => []
    | some key => if key ∈ items then [] else [.keyMissing area direction key])

def fixtureComplaints (items : List String) (area : Option String) (n : Node) : List Complaint :=
  (if (n.filled? "name").isNone then [.namelessFixture area] else []) ++
  (n.children.filter (·.name == "contains")).flatMap
    (mentionComplaints items (.fixture (n.attr? "name") area))

def areaComplaints (areas items : List String) (n : Node) : List Complaint :=
  let area := n.attr? "id"
  n.children.flatMap fun child =>
    if child.name = "contains" then mentionComplaints items (.area area) child
    else if child.name = "connects" then exitComplaints areas items area child
    else if child.name = "prop" then fixtureComplaints items area child
    else []

mutual

def cueComplaints (areas : List String) (scene : Option String) : Node → List Complaint
  | ⟨name, attributes, value, children⟩ =>
    let n : Node := ⟨name, attributes, value, []⟩
    if n.tagged "enter" then
      match n.filled? "area" with
      | none => [.enterNothing scene]
      | some area => if area ∈ areas then [] else [.enterMissing scene area]
    else if n.tagged "select" || n.tagged "option" then cuesComplaints areas scene children
    else []

def cuesComplaints (areas : List String) (scene : Option String) : List Node → List Complaint
  | [] => []
  | n :: nodes => cueComplaints areas scene n ++ cuesComplaints areas scene nodes

end

def itemComplaints (n : Node) : List Complaint :=
  if (n.filled? "name").isNone then [.namelessItem (n.attr? "id")] else []

def childComplaints (areas items : List String) (n : Node) : List Complaint :=
  if n.tagged "item" then n.itemComplaints
  else if n.tagged "entry" then cuesComplaints areas (n.attr? "id") n.children
  else if n.tagged "area" then n.areaComplaints areas items
  else []

def complaints (root : Node) : List Complaint :=
  if root.name ≠ "adventure" then [.wrongRoot root.name]
  else
    let scenes := root.idsOf "entry"
    let areas := root.idsOf "area"
    let items := root.idsOf "item"
    idComplaints "entry" [] root.children ++ idComplaints "area" [] root.children ++
      idComplaints "item" [] root.children ++
      (if startScene ∈ scenes then [] else [.noStart]) ++
      root.children.flatMap (childComplaints areas items)

/-- The node that holds the world: the root, unless a child of it has the right name. -/
def worldRoot (root : Node) : Node :=
  if root.name = "adventure" then root else (root.child? "adventure").getD root

end Node

inductive LoadError where
  | complaints (found : List Complaint)
  | flaw (flaw : Flaw)
  deriving Repr, DecidableEq

end Fabula
