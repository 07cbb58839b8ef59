import ElasticBuffer.Buffer.Action
import ElasticBuffer.Proofs.Replacement

/-!
# What happens within a block

Most actions read elements, or change them where they stand. Here it is said what they give in terms of the list
of elements, and that none of them touches anything of the buffer but its elements (`perform_inPlace`): the
capacity, the generation and the identity stay, and the source is not asked for anything.
-/

namespace ElasticBuffer

variable {σ α : Type}

namespace Buffer

/-! ### Other elements in the same block -/

@[simp] theorem toList_withElements (elements : Array α) (buffer : Buffer α) :
    (buffer.withElements elements).toList = elements.toList := rfl

/-- The buffer with another value at `index`, if there is an element. -/
def write (index : Nat) (value : α) (buffer : Buffer α) : Buffer α :=
  buffer.withElements (buffer.block.elements.setIfInBounds index value)

@[simp] theorem toList_write (index : Nat) (value : α) (buffer : Buffer α) :
    (buffer.write index value).toList = buffer.toList.set index value := by
  rw [write, toList_withElements, Array.toList_setIfInBounds]
  rfl

/-! ### Reading and writing by index -/

/-- There is an element at every index below the length. -/
theorem exists_getElem? {buffer : Buffer α} {index : Nat} (h : index < buffer.length) :
    ∃ value, buffer.toList[index]? = some value :=
  ⟨buffer.toList[index], List.getElem?_eq_getElem h⟩

theorem elementAt_of_some {buffer : Buffer α} {index : Nat} {value : α}
    (h : buffer.toList[index]? = some value) : buffer.elementAt index = .ok value := by
  rw [elementAt, get?_eq, h]

theorem elementAt_of_le {buffer : Buffer α} {index : Nat} (h : buffer.length ≤ index) :
    buffer.elementAt index = .error (.indexOutOfRange index buffer.length) := by
  have hget : buffer.toList[index]? = none := List.getElem?_eq_none h
  rw [elementAt, get?_eq, hget]

theorem index_of_some {buffer : Buffer α} {index : Nat} {value : α}
    (h : buffer.toList[index]? = some value) : buffer.index index = .ok value := by
  have hget : buffer.block.elements[index]? = some value := by
    rw [← h]
    exact (Array.getElem?_toList).symm
  rw [Buffer.index, Block.index, hget]

theorem index_of_le {buffer : Buffer α} {index : Nat} (h : buffer.length ≤ index) :
    buffer.index index = .error (.indexOutOfBounds index buffer.length) := by
  have hget : buffer.block.elements[index]? = none := Array.getElem?_eq_none h
  rw [Buffer.index, Block.index, hget]
  rfl

theorem swapAt?_of_some {buffer : Buffer α} {index : Nat} {old : α} (value : α)
    (h : buffer.toList[index]? = some old) :
    buffer.swapAt? index value = some (old, buffer.write index value) := by
  obtain ⟨hlt, hold⟩ := List.getElem?_eq_some_iff.1 h
  have hlt' : index < buffer.block.elements.size := hlt
  have hget : buffer.block.elements[index] = old := by
    rw [← hold]
    exact (Array.getElem_toList _).symm
  simp [swapAt?, Block.swapAt?, hlt', hget, write, withElements, Array.setIfInBounds]

theorem swapAt?_of_le {buffer : Buffer α} {index : Nat} (value : α) (h : buffer.length ≤ index) :
    buffer.swapAt? index value = none := by
  have hnot : ¬ index < buffer.block.elements.size := Nat.not_lt.2 h
  simp [swapAt?, Block.swapAt?, hnot]

theorem swapAt_of_some {buffer : Buffer α} {index : Nat} {old : α} (value : α)
    (h : buffer.toList[index]? = some old) :
    buffer.swapAt index value = .ok (old, buffer.write index value) := by
  have hswap := swapAt?_of_some value h
  rw [swapAt?, Option.map_eq_some_iff] at hswap
  obtain ⟨⟨old', block⟩, hblock, hresult⟩ := hswap
  obtain ⟨rfl, hbuffer⟩ := Prod.mk.inj hresult
  rw [swapAt, Block.swapAt, hblock, ← hbuffer]

theorem swapAt_of_le {buffer : Buffer α} {index : Nat} (value : α) (h : buffer.length ≤ index) :
    buffer.swapAt index value = .error (.indexOutOfBounds index buffer.length) := by
  have hnot : ¬ index < buffer.block.elements.size := Nat.not_lt.2 h
  simp [swapAt, Block.swapAt, Block.swapAt?, hnot, length]

/-! ### References -/

/-- A reference is taken to each element there is, and to no other. -/
theorem refer_cases (index : Nat) (buffer : Buffer α) :
    (index < buffer.length ∧ buffer.refer index = .ok ⟨buffer.id, buffer.generation, index⟩) ∨
      (buffer.length ≤ index ∧
        buffer.refer index = .error (.indexOutOfRange index buffer.length)) := by
  by_cases hindex : index < buffer.length
  · exact .inl ⟨hindex, if_pos hindex⟩
  · exact .inr ⟨Nat.le_of_not_lt hindex, if_neg hindex⟩

/-- A reference that was taken tells the identity and the generation of its buffer, and its index. -/
theorem refer_eq_ok {index : Nat} {buffer : Buffer α} {r : Reference}
    (h : buffer.refer index = .ok r) : r = ⟨buffer.id, buffer.generation, index⟩ := by
  rcases refer_cases index buffer with ⟨-, hrefer⟩ | ⟨-, hrefer⟩
  · rw [hrefer] at h
    exact (Except.ok.inj h).symm
  · rw [hrefer] at h
    cases h

/-- A reference is live, or the buffer gives a fault for it. -/
theorem locate_cases (r : Reference) (buffer : Buffer α) :
    (buffer.isLive r = true ∧ r.index < buffer.length ∧ buffer.locate r = .ok r.index) ∨
      (buffer.isLive r = false ∧ ∃ fault, buffer.locate r = .error fault) := by
  cases hlocate : buffer.locate r with
  | ok index =>
    obtain ⟨hlive, rfl⟩ := locate_eq_ok_iff.1 hlocate
    have hindex : r.index < buffer.length := by
      simp only [isLive, Bool.and_eq_true, decide_eq_true_eq] at hlive
      exact hlive.2
    exact .inl ⟨hlive, hindex, rfl⟩
  | error fault =>
    refine .inr ⟨?_, fault, rfl⟩
    cases hlive : buffer.isLive r with
    | false => rfl
    | true =>
      rw [locate_eq_ok_iff.2 ⟨hlive, rfl⟩] at hlocate
      cases hlocate

theorem resolve_of_locate_error {r : Reference} {buffer : Buffer α} {fault : Fault}
    (h : buffer.locate r = .error fault) : buffer.resolve r = .error (.fault fault) := by
  rw [resolve, h]

theorem resolveSwap_of_locate_error {r : Reference} {buffer : Buffer α} {fault : Fault} (value : α)
    (h : buffer.locate r = .error fault) : buffer.resolveSwap r value = .error (.fault fault) := by
  rw [resolveSwap, h]

theorem resolve_of_some {r : Reference} {buffer : Buffer α} {value : α}
    (h : buffer.locate r = .ok r.index) (hvalue : buffer.toList[r.index]? = some value) :
    buffer.resolve r = .ok value := by
  simp only [resolve, h, index_of_some hvalue]

theorem resolveSwap_of_some {r : Reference} {buffer : Buffer α} {old : α} (value : α)
    (h : buffer.locate r = .ok r.index) (hold : buffer.toList[r.index]? = some old) :
    buffer.resolveSwap r value = .ok (old, buffer.write r.index value) := by
  simp only [resolveSwap, h, swapAt_of_some value hold]

end Buffer

/-! ### Actions -/

namespace Action

/-- The action may ask the source for a block. -/
def mayAllocate : Action α → Bool
  | push _ => true
  | pushAll _ => true
  | extend _ => true
  | reserve _ => true
  | fit => true
  | _ => false

variable [Element α] [BlockSource σ]

/-- An action that does not ask for a block changes at most the elements, and adds none. -/
theorem perform_inPlace {action : Action α} (h : action.mayAllocate = false) (buffer : Buffer α)
    (source : σ) :
    (action.perform buffer source).source = source ∧
      ∃ elements, elements.size ≤ buffer.length ∧
        (action.perform buffer source).buffer = buffer.withElements elements := by
  -- an answer that leaves the buffer alone
  have hsame : ∃ elements : Array α, elements.size ≤ buffer.length ∧
      buffer = buffer.withElements elements :=
    ⟨buffer.block.elements, Nat.le_refl _, rfl⟩
  -- a write, which leaves the number of elements alone
  have hwrite : ∀ index value, ∃ elements : Array α, elements.size ≤ buffer.length ∧
      buffer.write index value = buffer.withElements elements := by
    intro index value
    refine ⟨_, ?_, rfl⟩
    rw [Array.size_setIfInBounds]
    exact Nat.le_refl _
  cases action with
  | push | pushAll | extend | reserve | fit => cases h
  | pop =>
    refine ⟨rfl, buffer.block.elements.pop, ?_, rfl⟩
    rw [Array.size_pop]
    exact Nat.sub_le _ _
  | truncate length =>
    refine ⟨rfl, buffer.block.elements.take length, ?_, rfl⟩
    show (buffer.block.elements.extract 0 length).size ≤ buffer.block.elements.size
    rw [Array.size_extract]
    omega
  | clear =>
    refine ⟨rfl, buffer.block.elements.take 0, ?_, rfl⟩
    show (buffer.block.elements.take 0).size ≤ buffer.block.elements.size
    simp
  | reverse =>
    refine ⟨rfl, buffer.block.elements.reverse, ?_, rfl⟩
    rw [Array.size_reverse]
    exact Nat.le_refl _
  | bumpAll =>
    refine ⟨rfl, _, ?_, rfl⟩
    rw [Array.size_mapIdx]
    exact Nat.le_refl _
  | bumpAlternate =>
    refine ⟨rfl, _, ?_, rfl⟩
    rw [Array.size_mapIdx]
    exact Nat.le_refl _
  | put index value =>
    rw [perform]
    by_cases hindex : index < buffer.length
    · obtain ⟨old, hold⟩ := Buffer.exists_getElem? hindex
      rw [Buffer.swapAt?_of_some value hold]
      exact ⟨rfl, hwrite index value⟩
    · rw [Buffer.swapAt?_of_le value (Nat.not_lt.1 hindex)]
      exact ⟨rfl, hsame⟩
  | putIndex index value =>
    rw [perform]
    by_cases hindex : index < buffer.length
    · obtain ⟨old, hold⟩ := Buffer.exists_getElem? hindex
      rw [Buffer.swapAt_of_some value hold]
      exact ⟨rfl, hwrite index value⟩
    · rw [Buffer.swapAt_of_le value (Nat.not_lt.1 hindex)]
      exact ⟨rfl, hsame⟩
  | overwrite reference value =>
    rw [perform]
    rcases Buffer.locate_cases reference buffer with ⟨-, hindex, hlocate⟩ | ⟨-, fault, hlocate⟩
    · obtain ⟨old, hold⟩ := Buffer.exists_getElem? hindex
      rw [Buffer.resolveSwap_of_some value hlocate hold]
      exact ⟨rfl, hwrite reference.index value⟩
    · rw [Buffer.resolveSwap_of_locate_error value hlocate]
      exact ⟨rfl, hsame⟩
  | elementAt index =>
    rw [perform]
    cases buffer.elementAt index <;> exact ⟨rfl, hsame⟩
  | index index =>
    rw [perform]
    cases buffer.index index <;> exact ⟨rfl, hsame⟩
  | refer index =>
    rw [perform]
    cases buffer.refer index <;> exact ⟨rfl, hsame⟩
  | get | elements | backwards | plainText | prettyText | config | source | resolve | isLive =>
    exact ⟨rfl, hsame⟩

end Action

end ElasticBuffer
