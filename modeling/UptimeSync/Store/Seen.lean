import Std.Data.ExtTreeSet

namespace UptimeSync

/-- The names of the events that were observed at least once. -/
structure SeenEvents where
  names : Std.ExtTreeSet String := ∅

namespace SeenEvents

def has (seen : SeenEvents) (name : String) : Bool := seen.names.contains name

def mark (seen : SeenEvents) (name : String) : SeenEvents := ⟨seen.names.insert name⟩

def size (seen : SeenEvents) : Nat := seen.names.size

def isEmpty (seen : SeenEvents) : Bool := seen.names.isEmpty

end SeenEvents
end UptimeSync
