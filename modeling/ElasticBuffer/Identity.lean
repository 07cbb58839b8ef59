import ElasticBuffer.Text.Form

/-!
# Generations and buffer identities

A buffer has an identity, drawn once when it is built, and a generation, which counts how often its block
was replaced. Both are words and wrap around.
-/

namespace ElasticBuffer

/-- The number of blocks a buffer has replaced so far, as a word. -/
@[ext] structure Generation where
  /-- The count modulo `2 ^ 64`. -/
  count : UInt64
deriving DecidableEq, Repr

namespace Generation

/-- The generation of a new buffer. -/
def initial : Generation := ⟨0⟩

instance : Inhabited Generation := ⟨initial⟩

instance : Ord Generation := ⟨fun g h => compare g.count h.count⟩

/-- The generation after one more replacement. -/
def next (g : Generation) : Generation := ⟨g.count + 1⟩

/-- The next `steps` generations. -/
def successors : (steps : Nat) → Generation → List Generation
  | 0, _ => []
  | steps + 1, g => g.next :: successors steps g.next

/-- The count in base ten. -/
def text (g : Generation) : String := toString g.count.toNat

/-- The structural form of a generation. -/
def form (g : Generation) : Text.Form := .tuple "Generation" [.number g.count.toNat]

/-- The generation `steps` replacements later. -/
def advance (g : Generation) (steps : Nat) : Generation := ⟨g.count + UInt64.ofNat steps⟩

@[simp] theorem advance_zero (g : Generation) : g.advance 0 = g := by
  simp [advance]

theorem next_advance (g : Generation) (steps : Nat) :
    (g.advance steps).next = g.advance (steps + 1) := by
  ext
  simp [next, advance, UInt64.ofNat_add, UInt64.add_assoc]

end Generation

/-- The identity of a buffer. -/
@[ext] structure BufferId where
  /-- The place in the order in which identities are drawn. -/
  serial : UInt64
deriving DecidableEq, Repr

namespace BufferId

/-- The first identity to be drawn. -/
def first : BufferId := ⟨1⟩

/-- The identity drawn after this one. -/
def next (id : BufferId) : BufferId := ⟨id.serial + 1⟩

/-- The next `count` identities, from `id` on. -/
def draws : (count : Nat) → (id : BufferId) → List BufferId
  | 0, _ => []
  | count + 1, id => id :: draws count id.next

/-- Each identity of the list is followed by a larger one. -/
def increasing : List BufferId → Bool
  | a :: b :: rest => a.serial < b.serial && increasing (b :: rest)
  | _ => true

/-- The serial number in base ten. -/
def text (id : BufferId) : String := toString id.serial.toNat

/-- The structural form of an identity. -/
def form (id : BufferId) : Text.Form := .tuple "BufferId" [.number id.serial.toNat]

@[simp] theorem length_draws (count : Nat) (id : BufferId) : (draws count id).length = count := by
  induction count generalizing id with
  | zero => rfl
  | succ count ih => simp [draws, ih]

end BufferId

end ElasticBuffer
