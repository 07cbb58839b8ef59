import ElasticBuffer.Limits
import ElasticBuffer.Text.Form

/-!
# Growth policies

A growth policy says which capacity follows a capacity. Both policies are geometric, so a run of pushes
replaces the block only logarithmically often; from an empty block both go to a single slot.
-/

namespace ElasticBuffer

/-- How a full block's capacity grows. -/
inductive Growth where
  /-- Twice the capacity. -/
  | doubling
  /-- Half as much again, the half rounded up. -/
  | threeHalves
deriving DecidableEq, Repr

namespace Growth

instance : Inhabited Growth := ⟨doubling⟩

/-- The half of a capacity, rounded up. -/
def upperHalf (capacity : Nat) : Nat := capacity / 2 + capacity % 2

/-- The capacity after `capacity`, or nothing if it is not a word. -/
def next? (growth : Growth) (capacity : Nat) : Option Nat :=
  if capacity = 0 then some 1
  else
    match growth with
    | doubling => sum? capacity capacity
    | threeHalves => sum? capacity (upperHalf capacity)

/-- The next `steps` capacities after `capacity`. Overflow is the last entry. -/
def chain (growth : Growth) : (steps capacity : Nat) → List (Option Nat)
  | 0, _ => []
  | steps + 1, capacity =>
    match growth.next? capacity with
    | none => [none]
    | some next => some next :: chain growth steps next

/-! ### Texts -/

/-- The policy's name. -/
def name : Growth → String
  | doubling => "doubling"
  | threeHalves => "three-halves"

/-- The policy of a name; `"default"` stands for the default one. -/
def ofName? : String → Option Growth
  | "doubling" => some doubling
  | "three-halves" => some threeHalves
  | "default" => some default
  | _ => none

/-- The growth factor, with one decimal place. -/
def factor : Growth → String
  | doubling => "2.0"
  | threeHalves => "1.5"

/-- The policy's structural form. -/
def form : Growth → Text.Form
  | doubling => .atom "Doubling"
  | threeHalves => .atom "ThreeHalves"

/-! ### One step -/

@[simp] theorem next?_zero (growth : Growth) : growth.next? 0 = some 1 := rfl

/-- A step always goes up. -/
theorem lt_of_next? {growth : Growth} {capacity next : Nat} (h : growth.next? capacity = some next) :
    capacity < next := by
  unfold next? at h
  split at h
  · simp_all
    omega
  · cases growth with
    | doubling =>
      obtain ⟨rfl, -⟩ := sum?_eq_some_iff.1 h
      omega
    | threeHalves =>
      obtain ⟨rfl, -⟩ := sum?_eq_some_iff.1 h
      unfold upperHalf
      omega

@[simp] theorem ofName?_name (growth : Growth) : ofName? growth.name = some growth := by
  cases growth <;> rfl

end Growth

end ElasticBuffer
