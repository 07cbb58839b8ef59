import ElasticBuffer.Fault
import ElasticBuffer.Growth

/-!
# Buffer configuration

A configuration fixes the capacity a buffer starts with, the ceiling that its capacity never passes, and
its growth policy. Any three values make a configuration; `Config.validate` says which of them a buffer
accepts (`validate_eq_ok_iff`).
-/

namespace ElasticBuffer

/-- The settings of a buffer, fixed when it is built. -/
structure Config where
  /-- The capacity of the first block. -/
  initialCapacity : UInt64 := 0
  /-- The largest capacity a block of the buffer may have. -/
  maxCapacity : UInt64 := 9223372036854775807
  /-- How a full block grows. -/
  growth : Growth := default
deriving DecidableEq, Repr

namespace Config

instance : Inhabited Config := ⟨{}⟩

/-- The capacity of the first block. -/
def initial (config : Config) : Nat := config.initialCapacity.toNat

/-- The largest capacity a block of the buffer may have. -/
def ceiling (config : Config) : Nat := config.maxCapacity.toNat

/-- A buffer can hold at least one element, and its first block respects the ceiling. -/
def Valid (config : Config) : Prop := 1 ≤ config.ceiling ∧ config.initial ≤ config.ceiling

instance (config : Config) : Decidable config.Valid := inferInstanceAs (Decidable (_ ∧ _))

/-- Refuses a ceiling of zero, then a first block above the ceiling. -/
def validate (config : Config) : Except Fault Unit :=
  if config.ceiling = 0 then .error (.invalidConfig "max_capacity must be at least 1")
  else if config.ceiling < config.initial then
    .error (.invalidConfig ("initial_capacity (" ++ toString config.initial
      ++ ") exceeds max_capacity (" ++ toString config.ceiling ++ ")"))
  else .ok ()

/-- The structural form of a configuration. -/
def form (config : Config) : Text.Form :=
  .record "BufferConfig"
    [("initial_capacity", .number config.initial), ("max_capacity", .number config.ceiling),
      ("growth", config.growth.form)]

/-- Validation accepts exactly the valid configurations. -/
theorem validate_eq_ok_iff {config : Config} : config.validate = .ok () ↔ config.Valid := by
  unfold validate Valid
  split
  · simp
    omega
  · split
    · simp
      omega
    · simp
      omega

/-- By default a buffer of one-byte elements may grow as far as storage goes. -/
theorem ceiling_default : (default : Config).ceiling = bytesMax := by
  decide

theorem ceiling_le_wordMax (config : Config) : config.ceiling ≤ wordMax :=
  toNat_le_wordMax config.maxCapacity

end Config

end ElasticBuffer
