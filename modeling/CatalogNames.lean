import CatalogNames.Command.Outcome
import CatalogNames.Descriptor
import CatalogNames.Main
import CatalogNames.Name.Set
import CatalogNames.Proofs.Command.Printed
import CatalogNames.Proofs.Command.Process
import CatalogNames.Proofs.Command.Selection
import CatalogNames.Proofs.Command.Words
import CatalogNames.Proofs.Descriptor.Decoded
import CatalogNames.Proofs.Descriptor.Placed
import CatalogNames.Proofs.Fields
import CatalogNames.Proofs.Json.Printed
import CatalogNames.Proofs.Name.Canonical
import CatalogNames.Proofs.Name.Checks
import CatalogNames.Proofs.Name.Construction
import CatalogNames.Proofs.Name.Descendants
import CatalogNames.Proofs.Name.Edits
import CatalogNames.Proofs.Name.Identity
import CatalogNames.Proofs.Name.Parts
import CatalogNames.Proofs.Name.Readings
import CatalogNames.Proofs.Name.Record
import CatalogNames.Proofs.Name.Representation
import CatalogNames.Proofs.Name.RoundTrip
import CatalogNames.Proofs.Name.Row
import CatalogNames.Proofs.Name.Segment
import CatalogNames.Proofs.Name.Sources
import CatalogNames.Proofs.Name.WellFormed
import CatalogNames.Proofs.Name.Writable
import CatalogNames.Proofs.Name.Written
import CatalogNames.Proofs.Pattern.Containment
import CatalogNames.Proofs.Pattern.Filters
import CatalogNames.Proofs.Pattern.Found
import CatalogNames.Proofs.Pattern.Language
import CatalogNames.Proofs.Pattern.Open
import CatalogNames.Proofs.Pattern.Placement
import CatalogNames.Proofs.Pattern.Subtree
import CatalogNames.Proofs.Text.Padding
import CatalogNames.Proofs.Text.Parts
import CatalogNames.Proofs.Text.Split
import CatalogNames.Proofs.Text.Trim
