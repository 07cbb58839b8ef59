import ElasticBuffer.Identity

/-!
# References

A reference names an element by place: the buffer's identity, the generation of its storage when the
reference was taken, and the index. It holds nothing of the buffer, so it may outlive any change; the
buffer checks it on use.
-/

namespace ElasticBuffer

/-- The place of an element in the storage of a buffer. -/
structure Reference where
  /-- The buffer the reference was taken from. -/
  buffer : BufferId
  /-- The generation of the buffer's storage at that time. -/
  generation : Generation
  /-- The index of the element. -/
  index : Nat
deriving DecidableEq, Repr

namespace Reference

/-- What a reader is shown. -/
def text (r : Reference) : String :=
  "ElementRef(buf=" ++ r.buffer.text ++ ", gen=" ++ r.generation.text ++ ", idx=" ++ toString r.index
    ++ ")"

/-- The structural form of a reference. -/
def form (r : Reference) : Text.Form :=
  .record "ElementRef"
    [("buffer", r.buffer.form), ("generation", r.generation.form), ("index", .number r.index)]

/-- The numbers that tell references apart, in the order in which they are compared. -/
def words (r : Reference) : List Nat := [r.buffer.serial.toNat, r.generation.count.toNat, r.index]

end Reference

end ElasticBuffer
