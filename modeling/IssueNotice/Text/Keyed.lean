import Std.Data.ExtTreeMap
import Std.Data.ExtTreeSet

/-!
# Values keyed by text

Maps and sets over texts, ordered by code point. Two maps are equal as soon as they hold the same
value under every key, whatever the order in which they were filled.
-/

namespace IssueNotice

/-- A map from texts, listed in code point order. -/
abbrev Keyed (β : Type) := Std.ExtTreeMap String β compare

/-- A set of texts, listed in code point order. -/
abbrev TextSet := Std.ExtTreeSet String compare

namespace Keyed

/-- The map of a list of entries; of several with one key the last counts. -/
def ofEntries {β : Type} (entries : List (String × β)) : Keyed β :=
  entries.foldl (fun m e => m.insert e.1 e.2) ∅

end Keyed

end IssueNotice
