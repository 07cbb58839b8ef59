import ElasticBuffer.Text.Form
import ElasticBuffer.Text.Quoted

/-!
# Elements

What a buffer needs to know of its elements: how many bytes one takes in a block (`Sized`), and, for the
calls that show or change elements in place, their structural form and a small change (`Element`).
-/

namespace ElasticBuffer

open ElasticBuffer.Text

/-- A type whose values take a fixed number of bytes in a block. -/
class Sized (α : Type) where
  /-- The size of one element in bytes. -/
  bytes : Nat

/-- A type of elements that can be shown and changed in place. -/
class Element (α : Type) extends Sized α where
  /-- The structural form of an element. -/
  form : α → Form
  /-- A small change of an element in place. -/
  bump : α → α

/-- Signed words; the change adds one and wraps around. -/
instance : Element Int64 where
  bytes := 8
  form n := .atom (toString n.toInt)
  bump n := n + 1

/-- Words; the change adds one and wraps around. -/
instance : Element UInt64 where
  bytes := 8
  form n := .number n.toNat
  bump n := n + 1

/-- Octets; the change adds one and wraps around. -/
instance : Element UInt8 where
  bytes := 1
  form n := .number n.toNat
  bump n := n + 1

/-- The value without content takes no space, and there is nothing to change. -/
instance : Element Unit where
  bytes := 0
  form _ := .atom "()"
  bump u := u

/-- Texts; the change appends an exclamation mark. -/
instance : Element String where
  bytes := 24
  form s := .atom (quoted s)
  bump s := s.push '!'

/-- A numbered token whose end is counted. -/
structure Token where
  /-- The token's number. -/
  number : UInt32
deriving DecidableEq, Repr

/-- Tokens; the change adds one to the number and wraps around. -/
instance : Element Token where
  bytes := 24
  form t := .atom ("#" ++ toString t.number.toNat)
  bump t := ⟨t.number + 1⟩

end ElasticBuffer
