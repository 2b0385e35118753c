import SimpleMuduo.Buffer.Storage

/-!
# Reading from a socket into the buffer

`readFd` hands two vectors to `readv`: the room behind the content, and the array `extrabuf` on the
stack.  The bytes that end up in `extrabuf` are appended afterwards, to a buffer whose room has been
filled, so that the content is slid or the vector grows for them.  Whatever the indices are, the
content afterwards is the old one followed by the bytes that were read.
-/

namespace SimpleMuduo

namespace BufferStorage

/-- The number of vectors that `readFd` passes to `readv`. -/
def iovcnt (b : BufferStorage) : ℕ := if b.writableBytes < extrabufSize then 2 else 1

/-- The number of bytes that these vectors can take. -/
def iovLength (b : BufferStorage) : ℕ :=
  if b.iovcnt = 2 then b.writableBytes + extrabufSize else b.writableBytes

/-- `append(extrabuf, len)`. -/
def appendExtrabuf (b : BufferStorage) (extrabuf : Bytes) (len : ℕ) :
    Except BufferFault BufferStorage :=
  if h : len ≤ extrabufSize then
    b.append ⟨extrabuf.take len, (List.length_take_le _ _).trans (h.trans (by decide))⟩
  else .error .undefined

/-- `readFd(int fd, int* saveErrno)`, when `readv` delivers these bytes or fails: the value
returned, the buffer, and what `*saveErrno` is set to. -/
def readFd (b : BufferStorage) (delivered : Except Errno Bytes) :
    Except BufferFault (ℤ × BufferStorage × Option Errno) :=
  let writable := b.writableBytes
  match delivered with
  | .error errno => .ok (-1, b, some errno)
  | .ok bytes =>
    (stdCopyFrom b.buffer_ (bytes.take writable) b.writerIndex_).bind fun buffer =>
      (stdCopyFrom (List.replicate extrabufSize 0) (bytes.drop writable) 0).bind fun extrabuf =>
        let b := { b with buffer_ := buffer }
        let n := toSsize bytes.length
        -- the comparison with `writable` converts `n` to `size_t`
        if toSize n ≤ writable then
          .ok (n, { b with writerIndex_ := toSize (b.writerIndex_ + n) }, none)
        else
          ({ b with writerIndex_ := b.buffer_.length }.appendExtrabuf extrabuf
            (toSize (n - writable))).map fun b => (n, b, none)

end BufferStorage

/-- The calls that change a buffer. -/
inductive BufferCall
  | member (op : BufferOp)
  | readFd (delivered : Except Errno Bytes)

namespace BufferCall

/-- The call keeps to the sizes it may use, and `readv` to the vectors it is passed. -/
def Allowed (b : BufferStorage) : BufferCall → Prop
  | .member op => op.Allowed b
  | .readFd delivered => ∀ bytes ∈ delivered.toOption, bytes.length ≤ b.iovLength

instance (b : BufferStorage) (c : BufferCall) : Decidable (c.Allowed b) := by
  cases c <;> dsimp only [Allowed] <;> infer_instance

end BufferCall

/-- The step system of a buffer that is read into: the calls that return normally. -/
def BufferStorage.stepCall (b : BufferStorage) : BufferCall → Option BufferStorage
  | .member op => b.step op
  | .readFd delivered => (b.readFd delivered).toOption.map fun result => result.2.1

/-! ## Reading into the storage of a buffer -/

namespace BufferStorage

variable {b : Buffer} (hsize : b.buffer_.length ≤ maxObjectSize)

include hsize

/-- The vectors take no more than the largest object has room for, with the array on the stack. -/
lemma iovLength_toStorage : b.toStorage.iovLength = b.readFdCapacity := by
  rw [iovLength, iovcnt, writableBytes_toStorage hsize, Buffer.readFdCapacity]
  split_ifs <;> simp_all

/-- The bytes fit into the room behind the content. -/
lemma readFd_toStorage_of_le {bytes : Bytes} (h : bytes.length ≤ b.writableBytes) :
    b.toStorage.readFd (.ok bytes) = .ok (bytes.length, (b.store bytes h).toStorage, none) := by
  have hws := b.writer_le_size
  have hmax : maxObjectSize = 2 ^ 63 - 1 := rfl
  have hroom : b.writerIndex_ + bytes.length ≤ b.buffer_.length := by
    unfold Buffer.writableBytes at h
    omega
  have hn : toSsize bytes.length = bytes.length := toSsize_of_lt (by omega)
  have hsum : toSize (b.toStorage.writerIndex_ + bytes.length) =
      b.writerIndex_ + bytes.length := by
    have hlt : b.writerIndex_ + bytes.length < 2 ^ 64 := by omega
    exact toSize_of_lt hlt
  have hcopy : stdCopyFrom b.toStorage.buffer_ bytes b.toStorage.writerIndex_ =
      .ok (overwrite b.buffer_ b.writerIndex_ bytes) := if_pos hroom
  have hextrabuf : stdCopyFrom (List.replicate extrabufSize 0) [] 0 =
      .ok (overwrite (List.replicate extrabufSize 0) 0 []) := if_pos (Nat.zero_le _)
  have hcompare : toSize (bytes.length : ℤ) = bytes.length := toSize_of_lt (by omega)
  simp only [readFd, writableBytes_toStorage hsize, List.take_of_length_le h,
    List.drop_of_length_le h, hcopy, hextrabuf, Except.bind, hn, hcompare, if_pos h,
    hsum]
  rfl

/-- The bytes that do not fit are appended to the full buffer. -/
lemma readFd_toStorage_of_lt {bytes : Bytes} (hlt : b.writableBytes < bytes.length)
    (hlen : bytes.length ≤ b.writableBytes + extrabufSize)
    (hsmall : b.writableBytes < extrabufSize) :
    (b.toStorage.readFd (.ok bytes) = .error .lengthError ∧
        maxObjectSize < b.buffer_.length + (bytes.length - b.writableBytes)) ∨
      b.toStorage.readFd (.ok bytes) = .ok (bytes.length,
        ((b.store (bytes.take b.writableBytes) (List.length_take_le _ _)).append
          (bytes.drop b.writableBytes)).toStorage, none) ∧
        ((b.store (bytes.take b.writableBytes) (List.length_take_le _ _)).append
          (bytes.drop b.writableBytes)).buffer_.length ≤ maxObjectSize := by
  have hws := b.writer_le_size
  have hmax : maxObjectSize = 2 ^ 63 - 1 := rfl
  have hextra : extrabufSize = 65536 := rfl
  have htake : (bytes.take b.writableBytes).length = b.writableBytes := by
    rw [List.length_take]
    omega
  have hfull : b.writerIndex_ + b.writableBytes = b.buffer_.length := by
    unfold Buffer.writableBytes
    omega
  have hn : toSsize bytes.length = bytes.length := toSsize_of_lt (by omega)
  have hrest : toSize ((bytes.length : ℤ) - b.writableBytes) =
      bytes.length - b.writableBytes := toSize_sub hlt.le (by omega)
  let full := b.store (bytes.take b.writableBytes) (List.length_take_le _ _)
  have hfullSize : full.buffer_.length = b.buffer_.length := by
    refine overwrite_length ?_
    rw [htake]
    exact hfull.le
  have hcopy : stdCopyFrom b.toStorage.buffer_ (bytes.take b.writableBytes)
      b.toStorage.writerIndex_ = .ok full.buffer_ := by
    refine if_pos ?_
    rw [htake]
    exact hfull.le
  have hextrabuf : stdCopyFrom (List.replicate extrabufSize 0) (bytes.drop b.writableBytes) 0 =
      .ok (overwrite (List.replicate extrabufSize 0) 0 (bytes.drop b.writableBytes)) := by
    refine if_pos ?_
    rw [List.length_drop, List.length_replicate]
    omega
  have hcontent : (overwrite (List.replicate extrabufSize 0) 0 (bytes.drop b.writableBytes)).take
      (bytes.length - b.writableBytes) = bytes.drop b.writableBytes := by
    rw [overwrite, List.take_zero, List.nil_append, ← List.length_drop, List.take_left]
  have hwriter : ({ b.toStorage with
      buffer_ := full.buffer_, writerIndex_ := full.buffer_.length } : BufferStorage) =
      full.toStorage := by
    have hindex : full.writerIndex_ = b.writerIndex_ + b.writableBytes := by
      change b.writerIndex_ + (bytes.take b.writableBytes).length = _
      rw [htake]
    rw [Buffer.toStorage, Buffer.toStorage, hindex, hfull, hfullSize]
    rfl
  have hread : b.toStorage.readFd (.ok bytes) =
      (full.toStorage.append ⟨bytes.drop b.writableBytes, by rw [List.length_drop]; omega⟩).map
        fun s => ((bytes.length : ℤ), s, none) := by
    simp only [readFd, writableBytes_toStorage hsize, hcopy, hextrabuf, Except.bind, hn, hwriter,
      appendExtrabuf, hrest, hcontent]
    rw [toSize_of_lt (by omega), if_neg (by omega), dif_pos (by omega)]
  have happend := append_toStorage (b := full) (by omega)
    ⟨bytes.drop b.writableBytes, by rw [List.length_drop]; omega⟩
  rcases happend with ⟨herror, hbig⟩ | ⟨hok, hfits⟩
  · left
    constructor
    · rw [hread, herror]
      rfl
    · have hle := full.writer_le_size
      simp only [StdString.size, List.length_drop] at hbig
      omega
  · right
    constructor
    · rw [hread, hok]
      rfl
    · exact hfits

/-- `readFd` adds the bytes it has read to the content, unless the vector cannot grow for them. -/
lemma readFd_toStorage {bytes : Bytes} (hlen : bytes.length ≤ b.toStorage.iovLength) :
    (b.toStorage.readFd (.ok bytes) = .error .lengthError ∧
        maxObjectSize < b.buffer_.length + (bytes.length - b.writableBytes)) ∨
      ∃ b' : Buffer, b.toStorage.readFd (.ok bytes) = .ok (bytes.length, b'.toStorage, none) ∧
        b'.buffer_.length ≤ maxObjectSize ∧ b'.readable = b.readable ++ bytes := by
  rw [iovLength_toStorage hsize, Buffer.readFdCapacity] at hlen
  by_cases hle : bytes.length ≤ b.writableBytes
  · refine .inr ⟨b.store bytes hle, readFd_toStorage_of_le hsize hle, ?_, ?_⟩
    · have hws := b.writer_le_size
      have hroom : b.writerIndex_ + bytes.length ≤ b.buffer_.length := by
        unfold Buffer.writableBytes at hle
        omega
      have hsame : (b.store bytes hle).buffer_.length = b.buffer_.length := overwrite_length hroom
      rw [hsame]
      exact hsize
    · exact Buffer.readable_store b bytes hle
  · -- more bytes than the room behind the content takes, so the second vector has been passed
    have hsmall : b.writableBytes < extrabufSize := by
      by_contra hbig
      rw [if_neg hbig] at hlen
      exact hle hlen
    rw [if_pos hsmall] at hlen
    rcases readFd_toStorage_of_lt hsize (by omega) hlen hsmall with herror | ⟨hok, hfits⟩
    · exact .inl herror
    · refine .inr ⟨_, hok, hfits, ?_⟩
      rw [Buffer.readable_append, Buffer.readable_store, List.append_assoc, List.take_append_drop]

end BufferStorage

/-! ## Reading into every reachable buffer -/

namespace BufferStorage

/-- Every call that returns leaves the storage of a buffer behind. -/
lemma represents_of_stepCall {b : Buffer} {s t : BufferStorage} {c : BufferCall}
    (hs : Represents b s) (hallowed : c.Allowed s) (hstep : stepCall s c = some t) :
    ∃ b', Represents b' t := by
  obtain ⟨rfl, hsize⟩ := hs
  cases c with
  | member op =>
    have hrun : step b.toStorage op = some t := hstep
    rcases run_toStorage hsize hallowed with ⟨herror, -⟩ | ⟨b', out, hok, hfits, -, -⟩
    · rw [step, herror] at hrun
      cases hrun
    · rw [step, hok] at hrun
      obtain rfl := Option.some.inj hrun
      exact ⟨b', rfl, hfits⟩
  | readFd delivered =>
    cases delivered with
    | error errno =>
      obtain rfl := Option.some.inj hstep
      exact ⟨b, rfl, hsize⟩
    | ok bytes =>
      rw [stepCall] at hstep
      rcases readFd_toStorage hsize (hallowed bytes rfl) with ⟨herror, -⟩ | ⟨b', hok, hfits, -⟩
      · rw [herror] at hstep
        cases hstep
      · rw [hok] at hstep
        obtain rfl := Option.some.inj hstep
        exact ⟨b', rfl, hfits⟩

/-- Every sequence of calls leaves the storage of a buffer behind. -/
lemma represents_of_execCalls {b : Buffer} {s t : BufferStorage} {calls : List BufferCall}
    (hs : Represents b s) (hallowed : Meets stepCall (fun s c => c.Allowed s) s calls)
    (hrun : exec stepCall s calls = some t) : ∃ b', Represents b' t := by
  induction calls generalizing b s with
  | nil =>
    obtain rfl : s = t := by simpa using hrun
    exact ⟨b, hs⟩
  | cons c calls ih =>
    obtain ⟨u, hu, hrest⟩ := exec_cons_eq_some.mp hrun
    obtain ⟨hc, hcalls⟩ := hallowed u hu
    obtain ⟨b', hb'⟩ := represents_of_stepCall hs hc hu
    exact ih hb' hcalls hrest

end BufferStorage

/-- In every buffer that calls of its member functions leave behind, `readFd` appends the bytes that
`readv` delivers into the vectors it is passed, and returns their number; only the vector that
cannot become large enough makes it throw.  When `readv` fails, `readFd` returns `-1`, the buffer is
what it was, and `*saveErrno` is set. -/
theorem readFd_appends_delivered {initialSize : ℕ} (hinitial : initialSize ≤ maxObjectSize)
    {b₀ b : BufferStorage} {calls : List BufferCall}
    (hnew : BufferStorage.new initialSize = .ok b₀)
    (hallowed : Meets BufferStorage.stepCall (fun b c => c.Allowed b) b₀ calls)
    (hrun : exec BufferStorage.stepCall b₀ calls = some b) :
    (∀ bytes : Bytes, bytes.length ≤ b.iovLength →
      (b.readFd (.ok bytes) = .error .lengthError ∧
          maxObjectSize < b.buffer_.length + (bytes.length - b.writableBytes)) ∨
        ∃ b', b.readFd (.ok bytes) = .ok (bytes.length, b', none) ∧ b'.WellFormed ∧
          b'.content = b.content ++ bytes) ∧
      ∀ errno, b.readFd (.error errno) = .ok (-1, b, some errno) := by
  obtain ⟨b', rfl, hsize⟩ := BufferStorage.represents_of_execCalls
    (BufferStorage.represents_new hinitial hnew) hallowed hrun
  constructor
  · intro bytes hlen
    rw [BufferStorage.writableBytes_toStorage hsize]
    rcases BufferStorage.readFd_toStorage hsize hlen with herror | ⟨b'', hok, -, hcontent⟩
    · exact .inl herror
    · refine .inr ⟨b''.toStorage, hok, BufferStorage.wellFormed_toStorage b'', ?_⟩
      rw [BufferStorage.content_toStorage, BufferStorage.content_toStorage, hcontent]
  · intro errno
    rfl

/-- A new buffer has grown for three bytes, of which two have been retrieved; the bytes that are
read next slide the third one to the front. -/
theorem readFd_appends_delivered_slide :
    let b : BufferStorage := ⟨[0, 0, 0, 0, 0, 0, 0, 0, 1, 2, 3], 10, 11⟩
    ∃ b', b.readFd (.ok [4, 5]) = .ok (2, b', none) ∧ b'.WellFormed ∧
      b'.content = b.content ++ [4, 5] :=
  ((@readFd_appends_delivered 2 (by decide) ⟨List.replicate 10 0, 8, 8⟩
    ⟨[0, 0, 0, 0, 0, 0, 0, 0, 1, 2, 3], 10, 11⟩
    [.member (.append ⟨[1, 2, 3], by decide⟩), .member (.retrieve 2)] (by decide +kernel)
    (by decide +kernel)
    (by decide +kernel)).1 [4, 5] (by decide +kernel)).resolve_left
      fun h => absurd h.2 (by decide +kernel)

end SimpleMuduo
