import Triplify.Registry
import Triplify.Text.CodeSet
/-!
# Fresh identifiers

No fresh identifier is given twice: its last digits are its number in hexadecimal.
-/

namespace Triplify

namespace Text

end Text

namespace Registries

end Registries

end Triplify
