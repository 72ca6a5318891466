import CatalogNames.Proofs.Command.Process
import CatalogNames.Proofs.Name.Construction

/-! Selecting names by a pattern, text by text. A text that stands for a name adds its line to those found
before it, or adds none if the name does not match; a text that stands for no name leaves nothing but its
error, whatever has been found by then. So one refused text is enough for a selection to fail, and the first
of them says why. -/

namespace CatalogNames.Command

end CatalogNames.Command
