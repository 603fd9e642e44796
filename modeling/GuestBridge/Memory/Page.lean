/-! # Pages of guest memory

Guest memory comes in pages of 64 KiB. A page is read and written one byte at a time; a write
changes that byte and no other (`Page.get_set`).
-/

namespace GuestBridge

/-- The number of bytes in a page. -/
def pageSize : Nat := 65536

/-- A page: as many bytes as a page has. -/
structure Page where
  bytes : ByteArray
  size_eq : bytes.size = pageSize

namespace Page

/-- A page on which all bytes are the same. -/
def constant (byte : UInt8) : Page where
  bytes := ⟨Array.replicate pageSize byte⟩
  size_eq := by simp [ByteArray.size]

/-- A page of zeros. -/
def zero : Page := constant 0

/-- The byte at an offset within the page. -/
def get (page : Page) (offset : Nat) (h : offset < pageSize) : UInt8 :=
  page.bytes.get offset (page.size_eq ▸ h)

/-- The page with one byte replaced. -/
def set (page : Page) (offset : Nat) (byte : UInt8) (h : offset < pageSize) : Page where
  bytes := page.bytes.set offset byte (page.size_eq ▸ h)
  size_eq := by
    have := page.size_eq
    simp only [ByteArray.size] at this
    simp [ByteArray.set, ByteArray.size, this]

/-- A write changes the byte at its offset and no other. -/
theorem get_set (page : Page) (offset other : Nat) (byte : UInt8) (h : offset < pageSize)
    (h' : other < pageSize) :
    (page.set offset byte h).get other h' = if offset = other then byte else page.get other h' := by
  have hsize : page.bytes.data.size = pageSize := page.size_eq
  exact Array.getElem_set (hsize ▸ h) (by simpa [hsize] using h')

/-- A constant page holds its byte everywhere. -/
@[simp] theorem get_constant (byte : UInt8) (offset : Nat) (h : offset < pageSize) :
    (constant byte).get offset h = byte := by
  have hsize : offset < (Array.replicate pageSize byte).size := by simpa using h
  exact Array.getElem_replicate hsize

/-- A page of zeros holds zeros. -/
@[simp] theorem get_zero (offset : Nat) (h : offset < pageSize) : zero.get offset h = 0 :=
  get_constant 0 offset h

end Page

end GuestBridge
