import Fabula.Node

set_option autoImplicit false

namespace Fabula.Sample

def mark (name : String) (attributes : Table String String) : Node := ⟨name, attributes, "", []⟩

def around (name : String) (attributes : Table String String) (children : List Node) : Node :=
  ⟨name, attributes, "", children⟩

def narration (text : String) : Node := ⟨"text", [], text, []⟩

def item (id name description : String) : Node :=
  mark "item" [("id", id), ("name", name), ("desc", description)]

def area (id name description : String) (children : List Node) : Node :=
  around "area" [("id", id), ("name", name), ("desc", description)] children

def prop (name description : String) (children : List Node) : Node :=
  around "prop" [("name", name), ("desc", description)] children

def one (item : String) : Node := mark "contains" [("item", item)]

def several (item amount : String) : Node :=
  mark "contains" [("item", item), ("ammount", amount)]

def passage (target direction : String) : Node :=
  mark "connects" [("to", target), ("dir", direction), ("type", "passage")]

def door (target direction key : String) : Node :=
  mark "connects" [("to", target), ("dir", direction), ("type", "door"), ("key", key)]

def option (text : String) (children : List Node) : Node :=
  around "option" [("text", text)] children

def items : List Node := [
  item "coin" "Coin" "A worn copper coin with a crown on one side.",
  item "key" "Key" "A heavy iron key, cold to the touch.",
  item "letter" "Letter" "The letter reads: the cellar key lies with the wine.",
  item "lantern" "Lantern" "An oil lantern. It still has some oil left."]

def areas : List Node := [
  area "yard" "Courtyard" "An overgrown courtyard in front of an old inn." [
    several "coin" "3",
    passage "hall" "north",
    prop "Well" "A mossy stone well. Something glints at the bottom." [
      one "letter"]],
  area "hall" "Hall" "The common room of the inn. Dust covers the tables." [
    one "lantern",
    passage "yard" "south",
    door "cellar" "down" "key",
    prop "Rack" "A wine rack with a few dusty bottles." [
      one "key",
      several "coin" "2"]],
  area "cellar" "Cellar" "A damp cellar. The air smells of old wine." [
    door "hall" "up" "key"]]

def opening : Node :=
  around "entry" [("id", "1")] [
    narration "Rain drums on the cobblestones as you reach the old inn.",
    narration "Type 'look' to look around, 'items' to check your bag, 'quit' to stop.",
    around "select" [("text", "Do you step into the courtyard?")] [
      option "yes" [narration "You push the creaking gate open."],
      option "no" [narration "You hesitate, but the rain leaves you no choice."]],
    mark "enter" [("area", "yard")]]

def document : Node := around "adventure" [] (items ++ areas ++ [opening])

end Fabula.Sample
