import SimpleMuduo.Foundation.SequenceCopy
import SimpleMuduo.Kernel

/-!
# The byte buffer

`Buffer` of `Buffer.h` and `Buffer.cpp`: one `std::vector<char>` with a read index and a write
index.  The order of the two indices and the room in front of the write index are fields of the
structure, so every operation below has to establish them, and the copies of `makeSPace` and
`append` stay inside the vector.

What the buffer is for is a byte queue: `Buffer.readable` is the queue, and the theorems of the
last section say what each operation does to it.
-/

namespace SimpleMuduo

/-- The bytes kept free in front of the content. -/
def kCheapPrepend : ℕ := 8

/-- The default size of the content area. -/
def kInitialSize : ℕ := 1024

/-- `sizeof(extrabuf)` of `Buffer::readFd`. -/
def extrabufSize : ℕ := 65536

/-- `simple_muduo::Buffer`. -/
structure Buffer where
  /-- The storage. -/
  buffer_ : Bytes
  /-- Where the content starts. -/
  readerIndex_ : ℕ
  /-- Where the content ends. -/
  writerIndex_ : ℕ
  /-- The content does not end before it starts. -/
  reader_le_writer : readerIndex_ ≤ writerIndex_
  /-- The content never ends inside the prepend area. -/
  cheapPrepend_le_writer : kCheapPrepend ≤ writerIndex_
  /-- The content lies inside the storage. -/
  writer_le_size : writerIndex_ ≤ buffer_.length

namespace Buffer

/-! ## The operations of the source -/

/-- `Buffer(size_t initalSize)`. -/
def new (initialSize : ℕ) : Buffer where
  buffer_ := List.replicate (kCheapPrepend + initialSize) 0
  readerIndex_ := kCheapPrepend
  writerIndex_ := kCheapPrepend
  reader_le_writer := le_rfl
  cheapPrepend_le_writer := le_rfl
  writer_le_size := by rw [List.length_replicate]; exact Nat.le_add_right _ _

/-- `readableBytes()`. -/
def readableBytes (b : Buffer) : ℕ := b.writerIndex_ - b.readerIndex_

/-- `writableBytes()`. -/
def writableBytes (b : Buffer) : ℕ := b.buffer_.length - b.writerIndex_

/-- `prependableBytes()`. -/
def prependableBytes (b : Buffer) : ℕ := b.readerIndex_

/-- `retrieveAll()`. -/
def retrieveAll (b : Buffer) : Buffer where
  buffer_ := b.buffer_
  readerIndex_ := kCheapPrepend
  writerIndex_ := kCheapPrepend
  reader_le_writer := le_rfl
  cheapPrepend_le_writer := le_rfl
  writer_le_size := b.cheapPrepend_le_writer.trans b.writer_le_size

/-- `retrieve(size_t len)`. -/
def retrieve (b : Buffer) (len : ℕ) : Buffer :=
  if h : len < b.readableBytes then
    { b with
      readerIndex_ := b.readerIndex_ + len
      reader_le_writer := by unfold readableBytes at h; omega }
  else b.retrieveAll

/-- `buffer_.resize(n)`: the vector is cut off or padded with zeros. -/
def resize (v : Bytes) (n : ℕ) : Bytes := v.take n ++ List.replicate (n - v.length) 0

/-- A resized vector has the new size. -/
@[simp] lemma resize_length (v : Bytes) (n : ℕ) : (resize v n).length = n := by
  simp only [resize, List.length_append, List.length_take, List.length_replicate]
  omega

/-- `makeSPace(size_t len)`: grow the storage, or slide the content down to the prepend area. -/
def makeSPace (b : Buffer) (len : ℕ) : Buffer :=
  if h : b.writableBytes + b.prependableBytes < len + kCheapPrepend then
    { b with
      buffer_ := resize b.buffer_ (b.writerIndex_ + len)
      writer_le_size := by rw [resize_length]; omega }
  else
    { buffer_ := copyWithin b.buffer_ b.readerIndex_ kCheapPrepend b.readableBytes
      readerIndex_ := kCheapPrepend
      writerIndex_ := kCheapPrepend + b.readableBytes
      reader_le_writer := by omega
      cheapPrepend_le_writer := by omega
      writer_le_size := by
        have := b.reader_le_writer
        have := b.writer_le_size
        rw [copyWithin_length]
        unfold writableBytes prependableBytes at h
        unfold readableBytes
        omega }

/-- `ensureWritableBytes(size_t len)`. -/
def ensureWritableBytes (b : Buffer) (len : ℕ) : Buffer :=
  if b.writableBytes < len then b.makeSPace len else b

/-- Making space for `len` bytes leaves room for `len` bytes. -/
lemma le_writableBytes_makeSPace (b : Buffer) (len : ℕ) :
    len ≤ (b.makeSPace len).writableBytes := by
  have := b.reader_le_writer
  have := b.writer_le_size
  unfold makeSPace
  split
  · simp [writableBytes]
  · rename_i h
    unfold writableBytes prependableBytes at h
    simp only [writableBytes, copyWithin_length, readableBytes]
    omega

/-- After `ensureWritableBytes(len)` there is room for `len` bytes. -/
theorem le_writableBytes_ensureWritableBytes (b : Buffer) (len : ℕ) :
    len ≤ (b.ensureWritableBytes len).writableBytes := by
  unfold ensureWritableBytes
  split
  · exact b.le_writableBytes_makeSPace len
  · omega

/-- Store bytes behind the content, where there is room for them. -/
def store (b : Buffer) (data : Bytes) (h : data.length ≤ b.writableBytes) : Buffer where
  buffer_ := overwrite b.buffer_ b.writerIndex_ data
  readerIndex_ := b.readerIndex_
  writerIndex_ := b.writerIndex_ + data.length
  reader_le_writer := by have := b.reader_le_writer; omega
  cheapPrepend_le_writer := by have := b.cheapPrepend_le_writer; omega
  writer_le_size := by
    have := b.writer_le_size
    unfold writableBytes at h
    rw [overwrite_length (by omega)]
    omega

/-- `append(const char* data, size_t len)`. -/
def append (b : Buffer) (data : Bytes) : Buffer :=
  (b.ensureWritableBytes data.length).store data
    (b.le_writableBytes_ensureWritableBytes data.length)

/-- `prepend(const void* data, size_t len)`, which asserts that there is room in front. -/
def prepend (b : Buffer) (data : Bytes) (h : data.length ≤ b.prependableBytes) : Buffer where
  buffer_ := overwrite b.buffer_ (b.readerIndex_ - data.length) data
  readerIndex_ := b.readerIndex_ - data.length
  writerIndex_ := b.writerIndex_
  reader_le_writer := (Nat.sub_le _ _).trans b.reader_le_writer
  cheapPrepend_le_writer := b.cheapPrepend_le_writer
  writer_le_size := by
    have := b.reader_le_writer
    have := b.writer_le_size
    unfold prependableBytes at h
    rw [overwrite_length (by omega)]
    assumption

/-- The room the two `iovec` entries of `readFd` offer to `readv`. -/
def readFdCapacity (b : Buffer) : ℕ :=
  if b.writableBytes < extrabufSize then b.writableBytes + extrabufSize else b.writableBytes

/-- `readFd(int fd, int* saveErrno)`: `readv` fills the writable bytes first and the stack buffer
`extrabuf` after them, and what went to `extrabuf` is appended.  The bytes that have arrived on
the socket may be more than the two vectors hold. -/
def readFd (b : Buffer) (arrived : Except Errno Bytes) : Except Errno (ℕ × Buffer) :=
  match arrived with
  | .error savedErrno => .error savedErrno
  | .ok bytes =>
    let delivered := bytes.take b.readFdCapacity
    if h : delivered.length ≤ b.writableBytes then
      .ok (delivered.length, b.store delivered h)
    else
      .ok (delivered.length,
        (b.store (delivered.take b.writableBytes) (List.length_take_le _ _)).append
          (delivered.drop b.writableBytes))

/-! ## The buffer as a byte queue -/

/-- The content of the buffer. -/
def readable (b : Buffer) : Bytes := slice b.buffer_ b.readerIndex_ b.readableBytes

/-- `readableBytes()` is the length of the content. -/
@[simp] lemma readable_length (b : Buffer) : b.readable.length = b.readableBytes := by
  have := b.reader_le_writer
  have := b.writer_le_size
  exact slice_length (by unfold readableBytes; omega)

/-- A buffer has no readable bytes exactly when its content is empty. -/
lemma readableBytes_eq_zero {b : Buffer} : b.readableBytes = 0 ↔ b.readable = [] := by
  rw [← readable_length, List.length_eq_zero_iff]

/-- A new buffer is empty. -/
@[simp] lemma readable_new (initialSize : ℕ) : (new initialSize).readable = [] :=
  readableBytes_eq_zero.mp (Nat.sub_self _)

/-- `retrieveAll` empties the buffer. -/
@[simp] lemma readable_retrieveAll (b : Buffer) : b.retrieveAll.readable = [] :=
  readableBytes_eq_zero.mp (Nat.sub_self _)

/-- `retrieve(len)` drops `len` bytes from the front, or all of them. -/
@[simp] theorem readable_retrieve (b : Buffer) (len : ℕ) :
    (b.retrieve len).readable = b.readable.drop len := by
  unfold retrieve
  split
  · rw [readable, readable, slice_drop]
    simp only [readableBytes, Nat.sub_sub]
  · rename_i h
    rw [readable_retrieveAll, List.drop_of_length_le (by rw [readable_length]; omega)]

/-- Growing the storage leaves the content alone. -/
lemma slice_resize {v : Bytes} {i n m : ℕ} (h : i + n ≤ v.length) (hm : v.length ≤ m) :
    slice (resize v m) i n = slice v i n := by
  rw [resize, List.take_of_length_le hm, slice_append_left h]

/-- Making space that is really missing leaves the content alone: when the content is slid, it is
slid towards the front. -/
lemma readable_makeSPace {b : Buffer} {len : ℕ} (hlen : b.writableBytes < len) :
    (b.makeSPace len).readable = b.readable := by
  have hrw := b.reader_le_writer
  have hws := b.writer_le_size
  unfold makeSPace
  split
  · refine slice_resize ?_ ?_
    · show b.readerIndex_ + b.readableBytes ≤ _
      unfold readableBytes
      omega
    · unfold writableBytes at hlen
      omega
  · rename_i h
    have hdest : kCheapPrepend ≤ b.readerIndex_ := by
      unfold prependableBytes at h
      omega
    have hlast : b.readerIndex_ + b.readableBytes ≤ b.buffer_.length := by
      unfold readableBytes
      omega
    simp only [readable, readableBytes, Nat.add_sub_cancel_left]
    exact slice_copyWithin hdest hlast

/-- `ensureWritableBytes` leaves the content alone. -/
@[simp] theorem readable_ensureWritableBytes (b : Buffer) (len : ℕ) :
    (b.ensureWritableBytes len).readable = b.readable := by
  unfold ensureWritableBytes
  split
  · rename_i h
    exact readable_makeSPace h
  · rfl

/-- Bytes stored behind the content extend it. -/
@[simp] lemma readable_store (b : Buffer) (data : Bytes) (h : data.length ≤ b.writableBytes) :
    (b.store data h).readable = b.readable ++ data := by
  have hrw := b.reader_le_writer
  have hws := b.writer_le_size
  have hlen : (b.store data h).readableBytes = b.readableBytes + data.length := by
    simp only [readableBytes, store]
    omega
  have hend : b.readerIndex_ + b.readableBytes = b.writerIndex_ := by
    unfold readableBytes
    omega
  rw [readable, hlen]
  exact slice_overwrite_append hend hws

/-- `append` adds at the back. -/
@[simp] theorem readable_append (b : Buffer) (data : Bytes) :
    (b.append data).readable = b.readable ++ data := by
  rw [append, readable_store, readable_ensureWritableBytes]

/-- `append` makes the content longer by what it adds. -/
@[simp] lemma readableBytes_append (b : Buffer) (data : Bytes) :
    (b.append data).readableBytes = b.readableBytes + data.length := by
  rw [← readable_length, readable_append, List.length_append, readable_length]

/-- `retrieve` makes the content shorter by what it drops. -/
@[simp] lemma readableBytes_retrieve (b : Buffer) (len : ℕ) :
    (b.retrieve len).readableBytes = b.readableBytes - len := by
  rw [← readable_length, readable_retrieve, List.length_drop, readable_length]

/-- `prepend` adds at the front. -/
@[simp] theorem readable_prepend (b : Buffer) (data : Bytes)
    (h : data.length ≤ b.prependableBytes) : (b.prepend data h).readable = data ++ b.readable := by
  have hrw := b.reader_le_writer
  have hws := b.writer_le_size
  unfold prependableBytes at h
  have hlen : (b.prepend data h).readableBytes = data.length + b.readableBytes := by
    simp only [readableBytes, prepend]
    omega
  have hstart : b.readerIndex_ - data.length + data.length = b.readerIndex_ := by omega
  rw [readable, hlen]
  calc slice (b.prepend data h).buffer_ (b.readerIndex_ - data.length)
        (data.length + b.readableBytes)
      = data ++ slice b.buffer_ (b.readerIndex_ - data.length + data.length) b.readableBytes :=
        slice_overwrite_prepend (by omega)
    _ = data ++ b.readable := by rw [hstart, readable]

/-- A string made of the first `len` bytes of the content is their prefix. -/
lemma slice_readerIndex {b : Buffer} {len : ℕ} (h : len ≤ b.readableBytes) :
    slice b.buffer_ b.readerIndex_ len = b.readable.take len := by
  rw [readable, slice, slice, List.take_take, Nat.min_eq_left h]

lemma readFdCapacity_pos (b : Buffer) : 0 < b.readFdCapacity := by
  unfold readFdCapacity
  split
  · exact Nat.add_pos_right _ (by decide)
  · rename_i h
    exact Nat.lt_of_lt_of_le (by decide : 0 < extrabufSize) (Nat.le_of_not_lt h)

/-- A successful `readFd` adds the delivered bytes at the back and returns their number. -/
theorem exists_readFd_eq (b : Buffer) (arrived : Bytes) :
    ∃ b', b.readFd (.ok arrived) = .ok ((arrived.take b.readFdCapacity).length, b') ∧
      b'.readable = b.readable ++ arrived.take b.readFdCapacity := by
  simp only [readFd]
  by_cases h : (arrived.take b.readFdCapacity).length ≤ b.writableBytes
  · rw [dif_pos h]
    exact ⟨_, rfl, readable_store _ _ _⟩
  · rw [dif_neg h]
    refine ⟨_, rfl, ?_⟩
    rw [readable_append, readable_store, List.append_assoc, List.take_append_drop]

end Buffer

end SimpleMuduo
