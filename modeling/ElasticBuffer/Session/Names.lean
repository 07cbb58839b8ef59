/-!
# Named things

A finite table from names to values, in which every name stands at most once. The view of a table is
`Names.find?`; inserting under a name that is in use replaces what stood there.
-/

namespace ElasticBuffer

/-- Things by name. -/
structure Names (β : Type) where
  /-- The names with what they stand for. -/
  entries : List (String × β)
  /-- No name stands twice. -/
  nodup : (entries.map Prod.fst).Nodup

namespace Names

variable {β : Type}

/-- The table without names. -/
def empty : Names β := ⟨[], List.nodup_nil⟩

instance : Inhabited (Names β) := ⟨empty⟩

/-- The names, in no particular order. -/
def keys (table : Names β) : List String := table.entries.map Prod.fst

/-- The things, in the order of their names in `keys`. -/
def values (table : Names β) : List β := table.entries.map Prod.snd

/-- What a name stands for. -/
def find? (name : String) (table : Names β) : Option β := table.entries.lookup name

/-- Forgets a name. -/
def erase (name : String) (table : Names β) : Names β where
  entries := table.entries.filter fun entry => entry.1 ≠ name
  nodup := (List.filter_sublist.map Prod.fst).nodup table.nodup

/-- Lets a name stand for a value, whatever it stood for before. -/
def insert (name : String) (value : β) (table : Names β) : Names β where
  entries := (name, value) :: (table.erase name).entries
  nodup := by
    rw [List.map_cons, List.nodup_cons]
    refine ⟨?_, (table.erase name).nodup⟩
    intro hmem
    obtain ⟨entry, hentry, hname⟩ := List.mem_map.1 hmem
    have hne := (List.mem_filter.1 hentry).2
    simp [hname] at hne

/-- The names whose value passes a test, in ascending order. -/
def select (test : β → Bool) (table : Names β) : List String :=
  ((table.entries.filter fun entry => test entry.2).map Prod.fst).mergeSort

/-! ### Looking a name up after a change -/

@[simp] theorem find?_empty (name : String) : (empty : Names β).find? name = none := rfl

@[simp] theorem find?_insert_self (name : String) (value : β) (table : Names β) :
    (table.insert name value).find? name = some value := by
  simp [insert, find?]

/-- Leaving out one name does not touch the others. -/
theorem lookup_filter_ne {name other : String} (h : other ≠ name) (entries : List (String × β)) :
    (entries.filter fun entry => entry.1 ≠ name).lookup other = entries.lookup other := by
  induction entries with
  | nil => rfl
  | cons entry rest ih =>
    obtain ⟨key, value⟩ := entry
    by_cases hkey : key = name
    · -- the entry is left out, and it is not the one that is looked up
      have hother : (other == key) = false := by simpa [hkey] using h
      rw [List.filter_cons_of_neg (by simp [hkey]), ih, List.lookup_cons, hother]
    · rw [List.filter_cons_of_pos (by simp [hkey]), List.lookup_cons, List.lookup_cons, ih]

theorem find?_erase_of_ne {name other : String} (h : other ≠ name) (table : Names β) :
    (table.erase name).find? other = table.find? other :=
  lookup_filter_ne h table.entries

theorem find?_insert_of_ne {name other : String} (h : other ≠ name) (value : β) (table : Names β) :
    (table.insert name value).find? other = table.find? other := by
  have hother : (other == name) = false := by simpa using h
  rw [find?, insert, List.lookup_cons, hother]
  exact find?_erase_of_ne h table

@[simp] theorem find?_erase_self (name : String) (table : Names β) :
    (table.erase name).find? name = none := by
  rw [find?, List.lookup_eq_none_iff]
  intro entry hentry
  have hne : entry.1 ≠ name := by simpa using (List.mem_filter.1 hentry).2
  exact bne_iff_ne.2 hne.symm

end Names

end ElasticBuffer
