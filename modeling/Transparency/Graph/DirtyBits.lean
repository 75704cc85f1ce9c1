/-! What changed since a task last looked. -/
namespace Transparency.Graph

/-- One bit for each kind of change. -/
abbrev DirtyBits := BitVec 3

namespace DirtyBits

/-- The names and bits of the kinds of change. -/
def table : List (String × Nat) := [("PARAMS", 1), ("RENDER_TAGS", 2), ("COLLECTION", 4)]

/-- Every kind of change. -/
def all : DirtyBits := .allOnes 3

/-- No change. -/
def none : DirtyBits := 0

/-- The defined bits of a word. -/
def ofBits (bits : Nat) : DirtyBits := .ofNat 3 bits

end DirtyBits

end Transparency.Graph
