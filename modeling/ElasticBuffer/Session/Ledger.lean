import ElasticBuffer.Element

/-!
# The ledger of values

Every value that enters a session, and every copy made of one, is an item with a serial number of its own.
The ledger knows how many numbers were issued, and which items have left: handed to the caller, or dropped.
-/

namespace ElasticBuffer

/-- A value with its serial number. -/
structure Item (α : Type) where
  /-- The number that no other item has. -/
  serial : Nat
  /-- The value itself. -/
  value : α
deriving DecidableEq, Repr

namespace Item

variable {α : Type}

/-- The serial number takes no space. -/
instance [Sized α] : Sized (Item α) := ⟨Sized.bytes α⟩

/-- An item is shown as its value, and a change in place keeps the number. -/
instance [Element α] : Element (Item α) where
  form item := Element.form item.value
  bump item := { item with value := Element.bump item.value }

/-- Values as items, numbered from `start` on. -/
def number (start : Nat) : List α → List (Item α)
  | [] => []
  | value :: values => ⟨start, value⟩ :: number (start + 1) values

@[simp] theorem map_value_number (start : Nat) (values : List α) :
    (number start values).map Item.value = values := by
  induction values generalizing start with
  | nil => rfl
  | cons value values ih => rw [number, List.map_cons, ih]

@[simp] theorem length_number (start : Nat) (values : List α) :
    (number start values).length = values.length := by
  induction values generalizing start with
  | nil => rfl
  | cons value values ih => rw [number, List.length_cons, ih, List.length_cons]

/-- The serial numbers follow one another. -/
theorem map_serial_number (start : Nat) (values : List α) :
    (number start values).map Item.serial = List.range' start values.length := by
  induction values generalizing start with
  | nil => rfl
  | cons value values ih => rw [number, List.map_cons, ih, List.length_cons, List.range'_succ]

end Item

/-- Where the items of a session went. -/
structure Ledger where
  /-- The number of serial numbers issued; the next one is this one. -/
  issued : Nat := 0
  /-- The items handed to the caller. -/
  returned : List Nat := []
  /-- The items dropped. -/
  dropped : List Nat := []
deriving DecidableEq, Repr

namespace Ledger

variable {α : Type}

/-- Accounts for `count` more items. -/
def issue (count : Nat) (ledger : Ledger) : Ledger := { ledger with issued := ledger.issued + count }

/-- Accounts for items handed to the caller. -/
def giveBack (items : List (Item α)) (ledger : Ledger) : Ledger :=
  { ledger with returned := items.map Item.serial ++ ledger.returned }

/-- Accounts for items dropped. -/
def drop (items : List (Item α)) (ledger : Ledger) : Ledger :=
  { ledger with dropped := items.map Item.serial ++ ledger.dropped }

/-- The number of items that have ended, once the caller is done with those that were handed out. -/
def gone (ledger : Ledger) : Nat := ledger.returned.length + ledger.dropped.length

@[simp] theorem gone_issue (count : Nat) (ledger : Ledger) : (ledger.issue count).gone = ledger.gone :=
  rfl

@[simp] theorem gone_giveBack (items : List (Item α)) (ledger : Ledger) :
    (ledger.giveBack items).gone = items.length + ledger.gone := by
  simp [gone, giveBack, Nat.add_assoc]

@[simp] theorem gone_drop (items : List (Item α)) (ledger : Ledger) :
    (ledger.drop items).gone = items.length + ledger.gone := by
  simp [gone, drop, Nat.add_left_comm]

end Ledger

end ElasticBuffer
