import Fabula.Template.Feature.Ability
import Fabula.Template.Feature.Compound
import Fabula.Template.Feature.Kind
import Fabula.Template.Feature.Number
import Fabula.Template.Feature.Text

set_option autoImplicit false

namespace Fabula.Template.Kind

def features : Kind → List Feature
  | text => Feature.ofTexts
  | number => Feature.ofNumbers
  | anything => Feature.ofAnything
  | kind => Feature.ofKinds
  | row => Feature.ofRows
  | nothing => Feature.ofNothing
  | truth => Feature.ofTruths
  | mapping => Feature.ofMappings
  | view => Feature.ofViews
  | ability => Feature.ofAbilities
  | operation => Feature.ofOperations
  | anyAbility => Feature.ofAnyAbilities
  | anyOperation => Feature.ofAnyOperations
  | anyPart => Feature.ofAnyParts
  | anySlot => Feature.ofAnySlots
  | ownAbility => Feature.ofOwnAbilities
  | freeAbility => Feature.ofFreeAbilities
  | applied => Feature.ofApplied

def feature? (k : Kind) (name : String) : Option Feature := k.features.find? (·.name == name)

def found? (k : Kind) (name : String) : Option (Kind × Feature) :=
  k.line.findSome? fun home => (home.feature? name).map (home, ·)

end Fabula.Template.Kind
