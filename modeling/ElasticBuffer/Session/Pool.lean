/-!
# Pools of sources

A session has one source of its own, the heap, and any number of named sources that its buffers share. A
provider says which of them a buffer draws on; the number of named sources is fixed, so a provider always
leads to a source.
-/

namespace ElasticBuffer

/-- Which source a buffer draws on, among `k` named ones and the heap. -/
inductive Provider (k : Nat) where
  /-- The session's own source. -/
  | heap
  /-- One of the named sources. -/
  | shared (index : Fin k)
deriving DecidableEq, Repr

/-- The sources of a session. -/
structure Pool (σ : Type) (k : Nat) where
  /-- The session's own source. -/
  heap : σ
  /-- The names of the shared sources. -/
  names : Vector String k
  /-- The shared sources, in the order of their names. -/
  shared : Vector σ k

namespace Pool

variable {σ : Type} {k : Nat}

/-- The pool with the given sources. -/
def ofList (heap : σ) (sources : List (String × σ)) : Pool σ sources.length where
  heap := heap
  names := ⟨(sources.map Prod.fst).toArray, by simp⟩
  shared := ⟨(sources.map Prod.snd).toArray, by simp⟩

/-- The provider of a name. -/
def provider? (name : String) (pool : Pool σ k) : Option (Provider k) :=
  (pool.names.finIdxOf? name).map .shared

/-- The source that a provider leads to. -/
def source (provider : Provider k) (pool : Pool σ k) : σ :=
  match provider with
  | .heap => pool.heap
  | .shared index => pool.shared[index]

/-- The pool with another state of one source. -/
def update (provider : Provider k) (source : σ) (pool : Pool σ k) : Pool σ k :=
  match provider with
  | .heap => { pool with heap := source }
  | .shared index => { pool with shared := pool.shared.set index source }

/-- The named sources with their names. -/
def toList (pool : Pool σ k) : List (String × σ) := pool.names.toList.zip pool.shared.toList

@[simp] theorem source_update_self (provider : Provider k) (source : σ) (pool : Pool σ k) :
    (pool.update provider source).source provider = source := by
  cases provider with
  | heap => rfl
  | shared index => simp [update, Pool.source]

theorem source_update_of_ne {provider other : Provider k} (h : other ≠ provider) (source : σ)
    (pool : Pool σ k) : (pool.update provider source).source other = pool.source other := by
  cases provider with
  | heap =>
    cases other with
    | heap => exact absurd rfl h
    | shared index => rfl
  | shared index =>
    cases other with
    | heap => rfl
    | shared index' =>
      have hne : index.val ≠ index'.val := fun heq => h (by rw [Fin.ext heq])
      simp [update, Pool.source, Vector.getElem_set_ne, hne]

end Pool

end ElasticBuffer
