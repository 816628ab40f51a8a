set_option autoImplicit false

/-! # Byte strings

File contents and transfer buffers are lists of bytes. `Bytes.overlay` is what a transfer leaves in
a buffer and `Bytes.splice` is what a write leaves in a file.
-/

namespace StorageDispatch

/-- Contents of a file or of a transfer buffer. -/
abbrev Bytes := List UInt8

namespace Bytes

/-- A buffer after `data` has been copied to its front; what does not fit is cut off. -/
def overlay (data buffer : Bytes) : Bytes :=
  data.take buffer.length ++ buffer.drop data.length

/-- At most `count` bytes from position `start` on. -/
def slice (contents : Bytes) (start count : Nat) : Bytes := (contents.drop start).take count

/-- Contents after `data` has been written at position `start`. A gap is filled with zeros. -/
def splice (contents : Bytes) (start : Nat) (data : Bytes) : Bytes :=
  contents.take start ++ List.replicate (start - contents.length) 0 ++ data
    ++ contents.drop (start + data.length)

end Bytes

end StorageDispatch
