import ElasticBuffer.Allocator
import ElasticBuffer.Buffer.Storage

/-!
# Workloads

A workload fills a new buffer with a given number of words that look scattered but are always the same: the
`i`-th one is `i` times an odd constant, modulo the word size.
-/

namespace ElasticBuffer

/-- How a buffer is filled. -/
structure Workload where
  /-- The capacity that the buffer starts with. -/
  initialCapacity : UInt64
  /-- The number of values. -/
  appends : UInt64
  /-- How a full block grows. -/
  growth : Growth
deriving DecidableEq, Repr

namespace Workload

/-- A workload that starts without a block. -/
def fromEmpty (appends : UInt64) (growth : Growth) : Workload := ⟨0, appends, growth⟩

/-- A workload that starts with a block for all its values. -/
def preallocated (appends : UInt64) : Workload := ⟨appends, appends, .doubling⟩

/-- The settings of the buffer that is filled. -/
def config (workload : Workload) : Config :=
  { initialCapacity := workload.initialCapacity, growth := workload.growth }

/-- The structural form of a workload. -/
def form (workload : Workload) : Text.Form :=
  .record "BenchProfile"
    [("initial_capacity", .number workload.initialCapacity.toNat),
      ("appends", .number workload.appends.toNat), ("growth", workload.growth.form)]

/-- The `i`-th value. -/
def value (i : UInt64) : UInt64 := i * 0x9E3779B97F4A7C15

variable {σ : Type} [BlockSource σ]

/-- Pushes `count` values, the first of them the `i`-th one, until one is declined. -/
def pushFrom : (count : Nat) → (i : UInt64) → Buffer UInt64 → σ → Attempt σ UInt64
  | 0, _, buffer, source => .done buffer source
  | count + 1, i, buffer, source =>
    (buffer.push (value i) source).andThen (pushFrom count (i + 1))

/-- Builds a buffer and fills it. -/
def fill (workload : Workload) (id : BufferId) (source : σ) : Construction σ UInt64 :=
  let construction : Construction σ UInt64 := Buffer.build id workload.config source
  match construction.outcome with
  | .error _ => construction
  | .ok buffer =>
    let attempt := pushFrom workload.appends.toNat 0 buffer construction.source
    { outcome :=
        match attempt.outcome with
        | .error halt => .error halt
        | .ok () => .ok attempt.buffer
      source := attempt.source
      events := construction.events ++ attempt.events }

/-- The exclusive or of some words. -/
def checksum (values : List UInt64) : UInt64 := values.foldl (· ^^^ ·) 0

end Workload

end ElasticBuffer
