import SimpleMuduo.Buffer
import SimpleMuduo.Foundation.TransitionSystem

/-!
# The buffer as it is stored

`Buffer` keeps its indices in order by its fields.  This file has the buffer of `Buffer.h` without
them: a vector and two `size_t` members, whose differences and sums are taken modulo `2 ^ 64`, and
copies that are undefined unless their ranges lie inside the vector and a `std::copy` does not
start to write inside the range it reads.  `BufferStorage.run_toStorage` says that nothing undefined
ever happens to the storage of a `Buffer`, and that the operations on the storage are those of
`Buffer`; so a buffer used through its member functions is the byte queue that `Buffer.readable`
describes.
-/

namespace SimpleMuduo

/-- Why an operation of the buffer does not return normally. -/
inductive BufferFault
  /-- `std::vector::resize` throws `std::length_error`. -/
  | lengthError
  /-- A failing `assert`, or a copy with an invalid range. -/
  | undefined
  deriving DecidableEq, Repr

/-! ## The operations on the vector -/

/-- `buffer_.resize(n)`. -/
def vectorResize (v : Bytes) (n : ℕ) : Except BufferFault Bytes :=
  if n ≤ maxObjectSize then .ok (Buffer.resize v n) else .error .lengthError

/-- `std::copy` from `[first, last)` to `dest` inside the vector.  The destination may not start
inside the source. -/
def stdCopy (v : Bytes) (first last dest : ℕ) : Except BufferFault Bytes :=
  if first ≤ last ∧ last ≤ v.length ∧ dest + (last - first) ≤ v.length ∧
      ¬ (first ≤ dest ∧ dest < last) then
    .ok (copyWithin v first dest (last - first))
  else .error .undefined

/-- `std::copy` of bytes from elsewhere to `dest` in the vector. -/
def stdCopyFrom (v : Bytes) (src : Bytes) (dest : ℕ) : Except BufferFault Bytes :=
  if dest + src.length ≤ v.length then .ok (overwrite v dest src) else .error .undefined

/-- `std::string(first, len)` of bytes in the vector. -/
def stringFrom (v : Bytes) (first len : ℕ) : Except BufferFault Bytes :=
  if first + len ≤ v.length then .ok (slice v first len) else .error .undefined

/-! ## The buffer -/

/-- The members of `simple_muduo::Buffer`. -/
structure BufferStorage where
  buffer_ : Bytes
  readerIndex_ : ℕ
  writerIndex_ : ℕ
  deriving DecidableEq

namespace BufferStorage

/-- `Buffer(size_t initalSize)`. -/
def new (initialSize : ℕ) : Except BufferFault BufferStorage :=
  (vectorResize [] (toSize (kCheapPrepend + initialSize))).map fun v =>
    { buffer_ := v
      readerIndex_ := kCheapPrepend
      writerIndex_ := kCheapPrepend }

/-- `readableBytes()`. -/
def readableBytes (b : BufferStorage) : ℕ := toSize (b.writerIndex_ - b.readerIndex_)

/-- `writableBytes()`. -/
def writableBytes (b : BufferStorage) : ℕ := toSize (b.buffer_.length - b.writerIndex_)

/-- `prependableBytes()`. -/
def prependableBytes (b : BufferStorage) : ℕ := b.readerIndex_

/-- `retrieveAll()`. -/
def retrieveAll (b : BufferStorage) : BufferStorage :=
  { b with readerIndex_ := kCheapPrepend, writerIndex_ := kCheapPrepend }

/-- `retrieve(size_t len)`. -/
def retrieve (b : BufferStorage) (len : ℕ) : BufferStorage :=
  if len < b.readableBytes then { b with readerIndex_ := toSize (b.readerIndex_ + len) }
  else b.retrieveAll

/-- `retrieveAsString(size_t len)`. -/
def retrieveAsString (b : BufferStorage) (len : ℕ) : Except BufferFault (BufferStorage × Bytes) :=
  (stringFrom b.buffer_ b.readerIndex_ len).map fun result => (b.retrieve len, result)

/-- `retrieveAllAsString()`. -/
def retrieveAllAsString (b : BufferStorage) : Except BufferFault (BufferStorage × Bytes) :=
  b.retrieveAsString b.readableBytes

/-- `makeSPace(size_t len)`. -/
def makeSPace (b : BufferStorage) (len : ℕ) : Except BufferFault BufferStorage :=
  if toSize (b.writableBytes + b.prependableBytes) < toSize (len + kCheapPrepend) then
    (vectorResize b.buffer_ (toSize (b.writerIndex_ + len))).map fun v => { b with buffer_ := v }
  else
    (stdCopy b.buffer_ b.readerIndex_ b.writerIndex_ kCheapPrepend).map fun v =>
      { buffer_ := v
        readerIndex_ := kCheapPrepend
        writerIndex_ := toSize (kCheapPrepend + b.readableBytes) }

/-- `ensureWritableBytes(size_t len)`. -/
def ensureWritableBytes (b : BufferStorage) (len : ℕ) : Except BufferFault BufferStorage :=
  if b.writableBytes < len then b.makeSPace len else .ok b

/-- `append(const char* data, size_t len)`. -/
def append (b : BufferStorage) (data : StdString) : Except BufferFault BufferStorage :=
  (b.ensureWritableBytes data.size).bind fun b =>
    (stdCopyFrom b.buffer_ data.data b.writerIndex_).map fun v =>
      { b with buffer_ := v, writerIndex_ := toSize (b.writerIndex_ + data.size) }

/-- `prepend(const void* data, size_t len)`. -/
def prepend (b : BufferStorage) (data : StdString) : Except BufferFault BufferStorage :=
  if data.size ≤ b.prependableBytes then
    let readerIndex := toSize (b.readerIndex_ - data.size)
    (stdCopyFrom b.buffer_ data.data readerIndex).map fun v =>
      { b with buffer_ := v, readerIndex_ := readerIndex }
  else .error .undefined

end BufferStorage

/-- The public member functions that change the buffer. -/
inductive BufferOp
  | append (data : StdString)
  | ensureWritableBytes (len : ℕ)
  | prepend (data : StdString)
  | retrieve (len : ℕ)
  | retrieveAll
  | retrieveAllAsString
  | retrieveAsString (len : ℕ)

namespace BufferOp

/-- The call of the member function, with the string it returns. -/
def run (b : BufferStorage) : BufferOp → Except BufferFault (BufferStorage × Bytes)
  | .append data => (b.append data).map fun b => (b, [])
  | .ensureWritableBytes len => (b.ensureWritableBytes len).map fun b => (b, [])
  | .prepend data => (b.prepend data).map fun b => (b, [])
  | .retrieve len => .ok (b.retrieve len, [])
  | .retrieveAll => .ok (b.retrieveAll, [])
  | .retrieveAllAsString => b.retrieveAllAsString
  | .retrieveAsString len => b.retrieveAsString len

/-- What the member function does to a queue of bytes, and the bytes it returns. -/
def onQueue (content : Bytes) : BufferOp → Bytes × Bytes
  | .append data => (content ++ data.data, [])
  | .ensureWritableBytes _ => (content, [])
  | .prepend data => (data.data ++ content, [])
  | .retrieve len => (content.drop len, [])
  | .retrieveAll => ([], [])
  | .retrieveAllAsString => ([], content)
  | .retrieveAsString len => (content.drop len, content.take len)

/-- The call keeps to the sizes it may use: `prepend` and `retrieveAsString` to what the buffer
has, and `ensureWritableBytes` to the largest size of a vector. -/
def Allowed (b : BufferStorage) : BufferOp → Prop
  | .ensureWritableBytes len => len ≤ maxObjectSize
  | .prepend data => data.size ≤ b.prependableBytes
  | .retrieveAsString len => len ≤ b.readableBytes
  | _ => True

instance (b : BufferStorage) (op : BufferOp) : Decidable (op.Allowed b) := by
  cases op <;> dsimp only [Allowed] <;> infer_instance

/-- The number of bytes that the call has to make room for behind the content. -/
def demand : BufferOp → ℕ
  | .append data => data.size
  | .ensureWritableBytes len => len
  | _ => 0

end BufferOp

/-- The step system of a buffer: the calls of its member functions that return normally. -/
def BufferStorage.step (b : BufferStorage) (op : BufferOp) : Option BufferStorage :=
  (op.run b).toOption.map Prod.fst

/-! ## The storage of a buffer -/

/-- The members of the buffer. -/
def Buffer.toStorage (b : Buffer) : BufferStorage := ⟨b.buffer_, b.readerIndex_, b.writerIndex_⟩

namespace BufferStorage

/-- The bytes between the two indices. -/
def content (b : BufferStorage) : Bytes :=
  slice b.buffer_ b.readerIndex_ (b.writerIndex_ - b.readerIndex_)

lemma content_toStorage (b : Buffer) : b.toStorage.content = b.readable := rfl

variable {b : Buffer} (hsize : b.buffer_.length ≤ maxObjectSize)

include hsize

lemma readableBytes_toStorage : b.toStorage.readableBytes = b.readableBytes := by
  have hws := b.writer_le_size
  have hmax : maxObjectSize < 2 ^ 64 := by decide
  have hlt : b.writerIndex_ < 2 ^ 64 := by omega
  exact toSize_sub b.reader_le_writer hlt

lemma writableBytes_toStorage : b.toStorage.writableBytes = b.writableBytes := by
  have hmax : maxObjectSize < 2 ^ 64 := by decide
  have hlt : b.buffer_.length < 2 ^ 64 := by omega
  exact toSize_sub b.writer_le_size hlt

/-- `retrieve` moves the read index. -/
lemma retrieve_toStorage (len : ℕ) : b.toStorage.retrieve len = (b.retrieve len).toStorage := by
  rw [retrieve, readableBytes_toStorage hsize, Buffer.retrieve]
  by_cases h : len < b.readableBytes
  · rw [if_pos h, dif_pos h]
    have hws := b.writer_le_size
    have hmax : maxObjectSize < 2 ^ 64 := by decide
    have hsum : toSize (b.readerIndex_ + len) = b.readerIndex_ + len := by
      have hlt : b.readerIndex_ + len < 2 ^ 64 := by
        unfold Buffer.readableBytes at h
        omega
      exact toSize_of_lt hlt
    simp only [Buffer.toStorage, hsum]
  · rw [if_neg h, dif_neg h]
    rfl

/-- Making space that is missing either grows the vector, or slides the content towards the front
by a valid copy. -/
lemma makeSPace_toStorage {len : ℕ} (hlen : len ≤ maxObjectSize) (hmiss : b.writableBytes < len) :
    (b.toStorage.makeSPace len = .error .lengthError ∧ maxObjectSize < b.writerIndex_ + len) ∨
      b.toStorage.makeSPace len = .ok (b.makeSPace len).toStorage ∧
        (b.makeSPace len).buffer_.length ≤ maxObjectSize := by
  have hrw := b.reader_le_writer
  have hcw := b.cheapPrepend_le_writer
  have hws := b.writer_le_size
  have hmax : maxObjectSize = 2 ^ 63 - 1 := rfl
  have hroom : toSize (b.toStorage.writableBytes + b.toStorage.prependableBytes) =
      b.writableBytes + b.prependableBytes := by
    have hlt : b.writableBytes + b.prependableBytes < 2 ^ 64 := by
      unfold Buffer.writableBytes Buffer.prependableBytes
      omega
    rw [writableBytes_toStorage hsize]
    exact toSize_of_lt hlt
  have hneed : toSize (len + kCheapPrepend) = len + kCheapPrepend :=
    toSize_of_lt (by unfold kCheapPrepend; omega)
  have hend : toSize (b.writerIndex_ + len) = b.writerIndex_ + len :=
    toSize_of_lt (by omega)
  rw [makeSPace, hroom, hneed, Buffer.makeSPace]
  by_cases h : b.writableBytes + b.prependableBytes < len + kCheapPrepend
  · rw [if_pos h, dif_pos h]
    by_cases hgrow : b.writerIndex_ + len ≤ maxObjectSize
    · right
      constructor
      · simp only [Buffer.toStorage, hend, vectorResize, if_pos hgrow]
        rfl
      · rw [Buffer.resize_length]
        exact hgrow
    · left
      constructor
      · simp only [Buffer.toStorage, hend, vectorResize, if_neg hgrow]
        rfl
      · omega
  · rw [if_neg h, dif_neg h]
    right
    unfold Buffer.writableBytes at hmiss
    unfold Buffer.writableBytes Buffer.prependableBytes at h
    constructor
    · -- the room that is missing behind the content is in front of it, so the content moves down
      have hdown : kCheapPrepend < b.readerIndex_ := by omega
      have hvalid : b.readerIndex_ ≤ b.writerIndex_ ∧ b.writerIndex_ ≤ b.buffer_.length ∧
          kCheapPrepend + (b.writerIndex_ - b.readerIndex_) ≤ b.buffer_.length ∧
          ¬ (b.readerIndex_ ≤ kCheapPrepend ∧ kCheapPrepend < b.writerIndex_) := by omega
      have hnew : toSize (kCheapPrepend + b.toStorage.readableBytes) =
          kCheapPrepend + b.readableBytes := by
        have hlt : kCheapPrepend + b.readableBytes < 2 ^ 64 := by
          unfold Buffer.readableBytes
          omega
        rw [readableBytes_toStorage hsize]
        exact toSize_of_lt hlt
      have hcopy : stdCopy b.toStorage.buffer_ b.toStorage.readerIndex_ b.toStorage.writerIndex_
          kCheapPrepend = .ok (copyWithin b.buffer_ b.readerIndex_ kCheapPrepend b.readableBytes) :=
        if_pos hvalid
      rw [hcopy, hnew]
      rfl
    · rw [copyWithin_length]
      exact hsize

lemma ensureWritableBytes_toStorage {len : ℕ} (hlen : len ≤ maxObjectSize) :
    (b.toStorage.ensureWritableBytes len = .error .lengthError ∧
        maxObjectSize < b.writerIndex_ + len) ∨
      b.toStorage.ensureWritableBytes len = .ok (b.ensureWritableBytes len).toStorage ∧
        (b.ensureWritableBytes len).buffer_.length ≤ maxObjectSize := by
  rw [ensureWritableBytes, writableBytes_toStorage hsize, Buffer.ensureWritableBytes]
  by_cases h : b.writableBytes < len
  · rw [if_pos h, if_pos h]
    exact makeSPace_toStorage hsize hlen h
  · rw [if_neg h, if_neg h]
    exact .inr ⟨rfl, hsize⟩

lemma append_toStorage (data : StdString) :
    (b.toStorage.append data = .error .lengthError ∧
        maxObjectSize < b.writerIndex_ + data.size) ∨
      b.toStorage.append data = .ok (b.append data.data).toStorage ∧
        (b.append data.data).buffer_.length ≤ maxObjectSize := by
  rcases ensureWritableBytes_toStorage hsize data.size_le with ⟨herror, hbig⟩ | ⟨hok, hfits⟩
  · left
    refine ⟨?_, hbig⟩
    have herror' : b.toStorage.ensureWritableBytes data.size = .error .lengthError := herror
    rw [append, herror']
    rfl
  · right
    have hroom := b.le_writableBytes_ensureWritableBytes data.data.length
    have hws := (b.ensureWritableBytes data.data.length).writer_le_size
    have hmax : maxObjectSize < 2 ^ 64 := by decide
    have hvalid : (b.ensureWritableBytes data.data.length).writerIndex_ + data.data.length ≤
        (b.ensureWritableBytes data.data.length).buffer_.length := by
      unfold Buffer.writableBytes at hroom
      omega
    have hend : toSize ((b.ensureWritableBytes data.data.length).writerIndex_ + data.data.length) =
        (b.ensureWritableBytes data.data.length).writerIndex_ + data.data.length :=
      toSize_of_lt (by omega)
    constructor
    · have hok' : b.toStorage.ensureWritableBytes data.size =
          .ok (b.ensureWritableBytes data.data.length).toStorage := hok
      have hcopy : stdCopyFrom (b.ensureWritableBytes data.data.length).buffer_ data.data
          (b.ensureWritableBytes data.data.length).writerIndex_ =
          .ok (b.append data.data).buffer_ := if_pos hvalid
      rw [append, hok']
      simp only [Except.bind, Buffer.toStorage, StdString.size, hend, hcopy]
      rfl
    · have hlen : (b.append data.data).buffer_.length =
          (b.ensureWritableBytes data.data.length).buffer_.length := overwrite_length hvalid
      rw [hlen]
      exact hfits

lemma prepend_toStorage (data : StdString) (h : data.data.length ≤ b.prependableBytes) :
    b.toStorage.prepend data = .ok (b.prepend data.data h).toStorage ∧
      (b.prepend data.data h).buffer_.length ≤ maxObjectSize := by
  have hrw := b.reader_le_writer
  have hws := b.writer_le_size
  have hmax : maxObjectSize < 2 ^ 64 := by decide
  have hroom : data.data.length ≤ b.readerIndex_ := h
  have hstart : toSize (b.readerIndex_ - data.data.length) = b.readerIndex_ - data.data.length :=
    toSize_sub hroom (by omega)
  have hvalid : b.readerIndex_ - data.data.length + data.data.length ≤ b.buffer_.length := by omega
  constructor
  · have hallowed : data.size ≤ b.toStorage.prependableBytes := h
    have hcopy : stdCopyFrom b.buffer_ data.data (b.readerIndex_ - data.data.length) =
        .ok (b.prepend data.data h).buffer_ := if_pos hvalid
    rw [prepend, if_pos hallowed]
    simp only [Buffer.toStorage, StdString.size, hstart, hcopy]
    rfl
  · have hlen : (b.prepend data.data h).buffer_.length = b.buffer_.length :=
      overwrite_length hvalid
    rw [hlen]
    exact hsize

lemma retrieveAsString_toStorage {len : ℕ} (h : len ≤ b.readableBytes) :
    b.toStorage.retrieveAsString len =
      .ok ((b.retrieve len).toStorage, b.readable.take len) := by
  have hrw := b.reader_le_writer
  have hws := b.writer_le_size
  have hvalid : b.readerIndex_ + len ≤ b.buffer_.length := by
    unfold Buffer.readableBytes at h
    omega
  have hstring : stringFrom b.toStorage.buffer_ b.toStorage.readerIndex_ len =
      .ok (slice b.buffer_ b.readerIndex_ len) := if_pos hvalid
  rw [retrieveAsString, retrieve_toStorage hsize, hstring, Buffer.slice_readerIndex h]
  rfl

omit hsize in
lemma retrieve_length (b : Buffer) (len : ℕ) :
    (b.retrieve len).buffer_.length = b.buffer_.length := by
  unfold Buffer.retrieve
  split <;> rfl

/-- A call that may be made on the storage of a buffer either throws `std::length_error`, because
the vector would become larger than it can be, or it is the operation on the queue of its content
and leaves the storage of a buffer behind. -/
theorem run_toStorage {op : BufferOp} (hallowed : op.Allowed b.toStorage) :
    (op.run b.toStorage = .error .lengthError ∧ maxObjectSize < b.writerIndex_ + op.demand) ∨
      ∃ (b' : Buffer) (out : Bytes), op.run b.toStorage = .ok (b'.toStorage, out) ∧
        b'.buffer_.length ≤ maxObjectSize ∧ op.onQueue b.readable = (b'.readable, out) ∧
          ∀ len, op = .ensureWritableBytes len → len ≤ b'.writableBytes := by
  cases op with
  | append data =>
    rcases append_toStorage hsize data with ⟨herror, hbig⟩ | ⟨hok, hfits⟩
    · exact .inl ⟨by rw [BufferOp.run, herror]; rfl, hbig⟩
    · refine .inr ⟨b.append data.data, [], by rw [BufferOp.run, hok]; rfl, hfits, ?_, ?_⟩
      · rw [BufferOp.onQueue, Buffer.readable_append]
      · intro len h
        cases h
  | ensureWritableBytes len =>
    rcases ensureWritableBytes_toStorage hsize hallowed with ⟨herror, hbig⟩ | ⟨hok, hfits⟩
    · exact .inl ⟨by rw [BufferOp.run, herror]; rfl, hbig⟩
    · refine .inr ⟨b.ensureWritableBytes len, [], by rw [BufferOp.run, hok]; rfl, hfits, ?_, ?_⟩
      · rw [BufferOp.onQueue, Buffer.readable_ensureWritableBytes]
      · intro len' h
        obtain rfl : len = len' := BufferOp.ensureWritableBytes.inj h
        exact b.le_writableBytes_ensureWritableBytes len
  | prepend data =>
    have hroom : data.data.length ≤ b.prependableBytes := hallowed
    obtain ⟨hok, hfits⟩ := prepend_toStorage hsize data hroom
    refine .inr ⟨b.prepend data.data hroom, [], by rw [BufferOp.run, hok]; rfl, hfits, ?_, ?_⟩
    · rw [BufferOp.onQueue, Buffer.readable_prepend]
    · intro len h
      cases h
  | retrieve len =>
    refine .inr ⟨b.retrieve len, [], by rw [BufferOp.run, retrieve_toStorage hsize], ?_, ?_, ?_⟩
    · rw [retrieve_length]
      exact hsize
    · rw [BufferOp.onQueue, Buffer.readable_retrieve]
    · intro len' h
      cases h
  | retrieveAll =>
    refine .inr ⟨b.retrieveAll, [], rfl, hsize, ?_, ?_⟩
    · rw [BufferOp.onQueue, Buffer.readable_retrieveAll]
    · intro len h
      cases h
  | retrieveAllAsString =>
    have hok := retrieveAsString_toStorage hsize (le_refl b.readableBytes)
    refine .inr ⟨b.retrieve b.readableBytes, b.readable, ?_, ?_, ?_, ?_⟩
    · rw [BufferOp.run, retrieveAllAsString, readableBytes_toStorage hsize, hok,
        List.take_of_length_le b.readable_length.le]
    · rw [retrieve_length]
      exact hsize
    · rw [BufferOp.onQueue, Buffer.readable_retrieve,
        List.drop_of_length_le b.readable_length.le]
    · intro len h
      cases h
  | retrieveAsString len =>
    have hlen : len ≤ b.readableBytes := by
      rw [← readableBytes_toStorage hsize]
      exact hallowed
    refine .inr ⟨b.retrieve len, b.readable.take len, ?_, ?_, ?_, ?_⟩
    · rw [BufferOp.run, retrieveAsString_toStorage hsize hlen]
    · rw [retrieve_length]
      exact hsize
    · rw [BufferOp.onQueue, Buffer.readable_retrieve]
    · intro len' h
      cases h

end BufferStorage

/-! ## The buffer as a queue of bytes -/

namespace BufferStorage

/-- The indices are in order and the area in front of the content is there. -/
structure WellFormed (b : BufferStorage) : Prop where
  reader_le_writer : b.readerIndex_ ≤ b.writerIndex_
  writer_le_size : b.writerIndex_ ≤ b.buffer_.length
  cheapPrepend_le_size : kCheapPrepend ≤ b.buffer_.length

lemma wellFormed_toStorage (b : Buffer) : b.toStorage.WellFormed :=
  ⟨b.reader_le_writer, b.writer_le_size, b.cheapPrepend_le_writer.trans b.writer_le_size⟩

/-- The storage is that of a buffer whose vector is not too large. -/
def Represents (b : Buffer) (s : BufferStorage) : Prop :=
  s = b.toStorage ∧ b.buffer_.length ≤ maxObjectSize

/-- A new buffer has the storage of an empty one. -/
lemma represents_new {initialSize : ℕ} (hinitial : initialSize ≤ maxObjectSize)
    {s : BufferStorage} (hnew : new initialSize = .ok s) :
    Represents (Buffer.new initialSize) s := by
  have hsum : toSize (kCheapPrepend + initialSize) = kCheapPrepend + initialSize :=
    toSize_of_lt (by unfold maxObjectSize at hinitial; unfold kCheapPrepend; omega)
  rw [new, hsum, vectorResize] at hnew
  by_cases hfits : kCheapPrepend + initialSize ≤ maxObjectSize
  · rw [if_pos hfits] at hnew
    obtain rfl := Except.ok.inj hnew
    constructor
    · simp [Buffer.resize, Buffer.new, Buffer.toStorage]
    · simpa [Buffer.new] using hfits
  · rw [if_neg hfits] at hnew
    cases hnew

/-- The operations take one buffer to another, and its content to that of the other. -/
lemma represents_of_exec {b : Buffer} {s t : BufferStorage} {ops : List BufferOp}
    (hs : Represents b s) (hallowed : Meets step (fun s op => op.Allowed s) s ops)
    (hrun : exec step s ops = some t) :
    ∃ b', Represents b' t ∧
      b'.readable = ops.foldl (fun content op => (op.onQueue content).1) b.readable := by
  induction ops generalizing b s with
  | nil =>
    obtain rfl : s = t := by simpa using hrun
    exact ⟨b, hs, rfl⟩
  | cons op ops ih =>
    obtain ⟨u, hu, hrest⟩ := exec_cons_eq_some.mp hrun
    obtain ⟨hop, hops⟩ := hallowed u hu
    obtain ⟨rfl, hsize⟩ := hs
    rcases run_toStorage hsize hop with ⟨herror, -⟩ | ⟨b', out, hok, hfits, hqueue, -⟩
    · rw [step, herror] at hu
      cases hu
    · rw [step, hok] at hu
      obtain rfl := Option.some.inj hu
      obtain ⟨b'', hb'', hcontent⟩ := ih ⟨rfl, hfits⟩ hops hrest
      refine ⟨b'', hb'', ?_⟩
      rw [hcontent, List.foldl_cons, hqueue]

end BufferStorage

/-- For every initial size and every sequence of calls that keep to the sizes they may use, the
indices of the buffer stay in order, its content is what the calls make of an empty queue of bytes,
and the next call either throws because the vector cannot become that large, or it does to the
content what it does to the queue.  In particular no copy leaves the vector, and no assertion
fails. -/
theorem buffer_is_byte_queue {initialSize : ℕ} (hinitial : initialSize ≤ maxObjectSize)
    {b₀ b : BufferStorage} {ops : List BufferOp} (hnew : BufferStorage.new initialSize = .ok b₀)
    (hallowed : Meets BufferStorage.step (fun b op => op.Allowed b) b₀ ops)
    (hrun : exec BufferStorage.step b₀ ops = some b) :
    b.WellFormed ∧ b.content = ops.foldl (fun content op => (op.onQueue content).1) [] ∧
      ∀ op : BufferOp, op.Allowed b →
        (op.run b = .error .lengthError ∧ maxObjectSize < b.writerIndex_ + op.demand) ∨
          ∃ b' out, op.run b = .ok (b', out) ∧ op.onQueue b.content = (b'.content, out) ∧
            ∀ len, op = .ensureWritableBytes len → len ≤ b'.writableBytes := by
  obtain ⟨b', ⟨rfl, hsize⟩, hcontent⟩ := BufferStorage.represents_of_exec
    (BufferStorage.represents_new hinitial hnew) hallowed hrun
  refine ⟨BufferStorage.wellFormed_toStorage b', ?_, ?_⟩
  · rw [BufferStorage.content_toStorage, hcontent, Buffer.readable_new]
  · intro op hop
    rcases BufferStorage.run_toStorage hsize hop with herror | ⟨b'', out, hok, hfits, hqueue, hroom⟩
    · exact .inl herror
    · refine .inr ⟨b''.toStorage, out, hok, hqueue, ?_⟩
      intro len h
      rw [BufferStorage.writableBytes_toStorage hfits]
      exact hroom len h

/-- Four bytes of which three are retrieved, two more for which the content slides to the front, and
one before them all. -/
theorem buffer_is_byte_queue_slide :
    (⟨[0, 0, 0, 0, 0, 0, 0, 7, 4, 5, 6, 4], 7, 11⟩ : BufferStorage).content = [7, 4, 5, 6] :=
  (@buffer_is_byte_queue 4 (by decide) ⟨List.replicate 12 0, 8, 8⟩ _
    [.append ⟨[1, 2, 3, 4], by decide⟩, .retrieve 3, .append ⟨[5, 6], by decide⟩,
      .prepend ⟨[7], by decide⟩] (by decide +kernel) (by decide +kernel) (by decide +kernel)).2.1

end SimpleMuduo
