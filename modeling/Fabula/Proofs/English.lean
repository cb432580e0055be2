import Fabula.Catalogue.English
import Fabula.Proofs.Template

set_option autoImplicit false

namespace Fabula

namespace Catalogue

end Catalogue

end Fabula
