import Fabula.Catalogue.Loading

set_option autoImplicit false

namespace Fabula

namespace Catalogue

def english : Catalogue := [
  ("prompt", "> "),
  ("not_understood", "I don't understand that..."),
  ("select_option", "{index} - {text}"),
  ("quit_prompt", "Are you sure?"),
  ("quit_yes", "yes"),
  ("quit_no", "no"),
  ("farewell", "Quitting..."),
  ("restarted", "Restarting..."),
  ("inventory_header", "Inventory:"),
  ("inventory_entry", "{item} (x {amount})"),
  ("inventory_empty", "Your inventory is empty..."),
  ("taken", "Took {item}."),
  ("take_failure", "Can not take that."),
  ("already_carried", "You already carry {item}."),
  ("dropped", "Dropped {item}."),
  ("drop_failure", "Can not drop that."),
  ("examine_failure", "Can not examine that."),
  ("prop_contents", "Inside the {prop} you see:"),
  ("prop_entry", "{article} {item} [{index}]"),
  ("prop_empty", "The {prop} is empty."),
  ("moved", "You moved [{direction}]."),
  ("blocked", "The {type} [{direction}] is closed."),
  ("cannot_move", "Not possible to go in that direction..."),
  ("look_prop", "You notice a {prop} [{index}]."),
  ("look_connection", "There is a {type} [{direction}]."),
  ("look_item", "You see {article} {item} [{index}] laying around."),
  ("article_one", "one"),
  ("article_some", "some"),
  ("opened", "You opened the {type} [{direction}]."),
  ("already_open", "The {type} [{direction}] is already open."),
  ("needs_key", "The {type} [{direction}] is locked. You need {item}."),
  ("open_failure", "There is nothing to open there...")]

end Catalogue

namespace Folder

def catalogues : Folder :=
  ⟨[([Catalogue.pathFor "en"], Catalogue.english.toYaml.toUTF8)], []⟩

end Folder

end Fabula
