import CatalogNames.Fields
import Std.Data.HashMap

/-! A source is anything that may hold a text under a key. A function that looks texts up is the
general case; ordered fields and hash maps of texts are sources as well. -/

namespace CatalogNames

class Source (σ : Type) where
  /-- The text under the key; a value that is not a text does not count. -/
  text? : σ → Text → Option Text

instance : Source (Text → Option Text) := ⟨id⟩

instance : Source (Fields Text) := ⟨Fields.get?⟩

instance [Hashable Text] : Source (Std.HashMap Text Text) := ⟨fun texts key => texts[key]?⟩

end CatalogNames
