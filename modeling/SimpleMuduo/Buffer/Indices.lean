import SimpleMuduo.Buffer.ReadFd

/-!
# The indices of every reachable buffer

The sizes that `ensureWritableBytes`, `prepend` and `retrieveAsString` are called with need not be
ones that the buffer can serve, and `size_t` sums may wrap, so that a reachable buffer need not be
that of a `Buffer`.  Two things are left whatever the calls are: the read index is not behind the
write index, and both are far below `2 ^ 64`.  For each operation there is one lemma about the
calls that return: what they do to the two indices and to the size of the vector.
-/

namespace SimpleMuduo

namespace BufferStorage

/-- The indices are in order, and neither they nor the vector are larger than the largest
object. -/
structure Ordered (b : BufferStorage) : Prop where
  reader_le_writer : b.readerIndex_ ≤ b.writerIndex_
  writer_le : b.writerIndex_ ≤ maxObjectSize
  size_le : b.buffer_.length ≤ maxObjectSize

/-- `makeSPace(len)` takes the branch that resizes the vector. -/
def Resizes (b : BufferStorage) (len : ℕ) : Prop :=
  b.writableBytes < len ∧
    toSize (b.writableBytes + b.prependableBytes) < toSize (len + kCheapPrepend)

instance (b : BufferStorage) (len : ℕ) : Decidable (b.Resizes len) := by
  unfold Resizes
  infer_instance

/-! ## The vector -/

/-- `resize` gives the size that is asked for. -/
lemma length_of_vectorResize {v w : Bytes} {n : ℕ} (h : vectorResize v n = .ok w) :
    w.length = n ∧ n ≤ maxObjectSize := by
  unfold vectorResize at h
  split at h
  · rename_i hle
    obtain rfl := Except.ok.inj h
    exact ⟨Buffer.resize_length v n, hle⟩
  · cases h

/-- A copy that stays inside the vector. -/
lemma length_of_stdCopy {v w : Bytes} {first last dest : ℕ}
    (h : stdCopy v first last dest = .ok w) :
    w.length = v.length ∧ dest + (last - first) ≤ v.length := by
  unfold stdCopy at h
  split at h
  · rename_i hvalid
    obtain rfl := Except.ok.inj h
    exact ⟨copyWithin_length _ _ _ _, hvalid.2.2.1⟩
  · cases h

/-- A copy into the vector that stays inside it. -/
lemma length_of_stdCopyFrom {v w src : Bytes} {dest : ℕ}
    (h : stdCopyFrom v src dest = .ok w) :
    w.length = v.length ∧ dest + src.length ≤ v.length := by
  unfold stdCopyFrom at h
  split at h
  · rename_i hvalid
    obtain rfl := Except.ok.inj h
    exact ⟨overwrite_length hvalid, hvalid⟩
  · cases h

/-! ## The operations -/

/-- What is mapped has succeeded. -/
lemma exceptMap_eq_ok {ε α β : Type*} {f : α → β} {x : Except ε α} {y : β}
    (h : x.map f = .ok y) : ∃ a, x = .ok a ∧ f a = y := by
  cases x with
  | error e => cases h
  | ok a => exact ⟨a, rfl, Except.ok.inj h⟩

/-- What has a value has succeeded. -/
lemma exceptToOption_eq_some {ε α : Type*} {x : Except ε α} {a : α}
    (h : x.toOption = some a) : x = .ok a := by
  cases x with
  | error e => cases h
  | ok a' => exact congrArg Except.ok (Option.some.inj h)

/-- Both parts have succeeded. -/
lemma exceptBind_eq_ok {ε α β : Type*} {f : α → Except ε β} {x : Except ε α} {y : β}
    (h : x.bind f = .ok y) : ∃ a, x = .ok a ∧ f a = .ok y := by
  cases x with
  | error e => cases h
  | ok a => exact ⟨a, rfl, h⟩

/-- A new buffer is empty, behind the prepend area. -/
lemma new_cases {initialSize : ℕ} {b : BufferStorage} (h : new initialSize = .ok b) :
    b.Ordered ∧ b.buffer_.length = toSize (kCheapPrepend + initialSize) ∧
      b.readerIndex_ = kCheapPrepend ∧ b.writerIndex_ = kCheapPrepend := by
  obtain ⟨v, hv, rfl⟩ := exceptMap_eq_ok h
  obtain ⟨hlen, hmax⟩ := length_of_vectorResize hv
  exact ⟨⟨le_rfl, (by decide : kCheapPrepend ≤ maxObjectSize), hlen.le.trans hmax⟩, hlen, rfl, rfl⟩

variable {b b' : BufferStorage} {len : ℕ}

/-- The subtraction does not wrap around. -/
lemma Ordered.readableBytes_eq (h : b.Ordered) :
    b.readableBytes = b.writerIndex_ - b.readerIndex_ := by
  have hw := h.writer_le
  have hmax : maxObjectSize < 2 ^ 64 := by decide
  exact toSize_sub h.reader_le_writer (by omega)

/-- Nor does this one. -/
lemma Ordered.writableBytes_eq (h : b.Ordered) (hle : b.writerIndex_ ≤ b.buffer_.length) :
    b.writableBytes = b.buffer_.length - b.writerIndex_ := by
  have hs := h.size_le
  have hmax : maxObjectSize < 2 ^ 64 := by decide
  exact toSize_sub hle (by omega)

/-- `ensureWritableBytes` does nothing, resizes the vector, or slides the content down. -/
lemma ensureWritableBytes_cases (h : b.Ordered) (hok : b.ensureWritableBytes len = .ok b') :
    (len ≤ b.writableBytes ∧ b' = b) ∨
      (b.Resizes len ∧ b'.buffer_.length = toSize (b.writerIndex_ + len) ∧
        toSize (b.writerIndex_ + len) ≤ maxObjectSize ∧
        b'.readerIndex_ = b.readerIndex_ ∧ b'.writerIndex_ = b.writerIndex_) ∨
      (b.writableBytes < len ∧ ¬ b.Resizes len ∧ b'.buffer_.length = b.buffer_.length ∧
        b'.readerIndex_ = kCheapPrepend ∧
        b'.writerIndex_ = kCheapPrepend + (b.writerIndex_ - b.readerIndex_) ∧
        b'.writerIndex_ ≤ b.buffer_.length) := by
  unfold ensureWritableBytes at hok
  by_cases hmiss : b.writableBytes < len
  · rw [if_pos hmiss, makeSPace] at hok
    split at hok
    · rename_i hgrow
      obtain ⟨v, hv, rfl⟩ := exceptMap_eq_ok hok
      obtain ⟨hlen, hmax⟩ := length_of_vectorResize hv
      exact .inr (.inl ⟨⟨hmiss, hgrow⟩, hlen, hmax, rfl, rfl⟩)
    · rename_i hslide
      obtain ⟨v, hv, rfl⟩ := exceptMap_eq_ok hok
      obtain ⟨hlen, hroom⟩ := length_of_stdCopy hv
      have hs := h.size_le
      have hmax : maxObjectSize < 2 ^ 64 := by decide
      have hnew : toSize (kCheapPrepend + b.readableBytes) =
          kCheapPrepend + (b.writerIndex_ - b.readerIndex_) := by
        rw [h.readableBytes_eq]
        exact toSize_of_lt (by omega)
      refine .inr (.inr ⟨hmiss, fun hresizes => hslide hresizes.2, hlen, rfl, hnew, ?_⟩)
      exact hnew.trans_le hroom
  · rw [if_neg hmiss] at hok
    obtain rfl := Except.ok.inj hok
    exact .inl ⟨Nat.le_of_not_lt hmiss, rfl⟩

/-- `ensureWritableBytes` keeps the indices in order. -/
lemma ensureWritableBytes_ordered (h : b.Ordered) (hok : b.ensureWritableBytes len = .ok b') :
    b'.Ordered := by
  have hrw := h.reader_le_writer
  have hw := h.writer_le
  have hs := h.size_le
  rcases ensureWritableBytes_cases h hok with ⟨-, rfl⟩ | ⟨-, hsize, hmax, hr, hw'⟩ |
    ⟨-, -, hsize, hr, hw', hfits⟩
  · exact h
  · exact ⟨by omega, by omega, by omega⟩
  · exact ⟨by omega, by omega, by omega⟩

/-- `append` ensures that there is room, and stores the bytes there. -/
lemma append_cases (h : b.Ordered) {data : StdString} (hok : b.append data = .ok b') :
    ∃ room, b.ensureWritableBytes data.size = .ok room ∧ room.Ordered ∧
      b'.buffer_.length = room.buffer_.length ∧ b'.readerIndex_ = room.readerIndex_ ∧
      b'.writerIndex_ = room.writerIndex_ + data.size ∧
      room.writerIndex_ + data.size ≤ room.buffer_.length := by
  obtain ⟨room, hroom, hstore⟩ := exceptBind_eq_ok hok
  obtain ⟨v, hv, rfl⟩ := exceptMap_eq_ok hstore
  obtain ⟨hlen, hfits⟩ := length_of_stdCopyFrom hv
  have hordered := ensureWritableBytes_ordered h hroom
  have hs := hordered.size_le
  have hmax : maxObjectSize < 2 ^ 64 := by decide
  have hend : toSize (room.writerIndex_ + data.size) = room.writerIndex_ + data.size :=
    toSize_of_lt (lt_of_le_of_lt (hfits.trans hs) hmax)
  exact ⟨room, hroom, hordered, hlen, rfl, hend, hfits⟩

/-- `append` keeps the indices in order. -/
lemma append_ordered (h : b.Ordered) {data : StdString} (hok : b.append data = .ok b') :
    b'.Ordered := by
  obtain ⟨room, -, hordered, hsize, hr, hw, hfits⟩ := append_cases h hok
  have hrw := hordered.reader_le_writer
  have hs := hordered.size_le
  exact ⟨by omega, by omega, by omega⟩

/-- `prepend` moves the read index down, by no more than it is. -/
lemma prepend_cases (h : b.Ordered) {data : StdString} (hok : b.prepend data = .ok b') :
    data.size ≤ b.readerIndex_ ∧ b'.buffer_.length = b.buffer_.length ∧
      b'.readerIndex_ = b.readerIndex_ - data.size ∧ b'.writerIndex_ = b.writerIndex_ ∧
      b.readerIndex_ ≤ b.buffer_.length := by
  unfold prepend at hok
  split at hok
  · rename_i hle
    have hle : data.size ≤ b.readerIndex_ := hle
    have hrw := h.reader_le_writer
    have hw := h.writer_le
    have hmax : maxObjectSize < 2 ^ 64 := by decide
    have hstart : toSize (b.readerIndex_ - data.size) = b.readerIndex_ - data.size :=
      toSize_sub hle (by omega)
    obtain ⟨v, hv, rfl⟩ := exceptMap_eq_ok hok
    obtain ⟨hlen, hfits⟩ := length_of_stdCopyFrom hv
    rw [hstart] at hfits
    have hsize : data.data.length = data.size := rfl
    exact ⟨hle, hlen, hstart, rfl, by omega⟩
  · cases hok

/-- `retrieve` moves the read index up inside the content, or empties the buffer. -/
lemma retrieve_cases (h : b.Ordered) (len : ℕ) :
    (b.retrieve len).buffer_ = b.buffer_ ∧
      ((b.readerIndex_ + len < b.writerIndex_ ∧
          (b.retrieve len).readerIndex_ = b.readerIndex_ + len ∧
          (b.retrieve len).writerIndex_ = b.writerIndex_) ∨
        (b.writerIndex_ ≤ b.readerIndex_ + len ∧ (b.retrieve len).readerIndex_ = kCheapPrepend ∧
          (b.retrieve len).writerIndex_ = kCheapPrepend)) := by
  have hrw := h.reader_le_writer
  have hw := h.writer_le
  have hmax : maxObjectSize < 2 ^ 64 := by decide
  unfold retrieve
  rw [h.readableBytes_eq]
  by_cases hlt : len < b.writerIndex_ - b.readerIndex_
  · rw [if_pos hlt]
    have hsum : toSize (b.readerIndex_ + len) = b.readerIndex_ + len := by
      have hsmall : b.readerIndex_ + len < 2 ^ 64 := by omega
      exact toSize_of_lt hsmall
    exact ⟨rfl, .inl ⟨by omega, hsum, rfl⟩⟩
  · rw [if_neg hlt]
    exact ⟨rfl, .inr ⟨by omega, rfl, rfl⟩⟩

/-- What `retrieveAsString` has done when it returns. -/
lemma retrieveAsString_cases {out : Bytes} (hok : b.retrieveAsString len = .ok (b', out)) :
    b' = b.retrieve len ∧ out = slice b.buffer_ b.readerIndex_ len ∧
      b.readerIndex_ + len ≤ b.buffer_.length := by
  obtain ⟨result, hresult, hpair⟩ := exceptMap_eq_ok hok
  obtain ⟨rfl, rfl⟩ := Prod.mk.inj hpair
  unfold stringFrom at hresult
  split at hresult
  · rename_i hfits
    exact ⟨rfl, (Except.ok.inj hresult).symm, hfits⟩
  · cases hresult

/-! ## Reading -/

/-- The conversion to `ssize_t` keeps the residue. -/
lemma toSsize_emod (x : ℤ) : toSsize x % 2 ^ 64 = x % 2 ^ 64 := by
  have hmod : Int.bmod x (2 ^ 64) % ((2 ^ 64 : ℕ) : ℤ) = x % ((2 ^ 64 : ℕ) : ℤ) := Int.bmod_emod
  exact_mod_cast hmod

/-- The conversions between the two types lose nothing. -/
lemma toSize_toSsize (x : ℤ) : toSize (toSsize x) = toSize x := by
  rw [toSize, toSsize_emod, toSize]

/-- The same under a subtraction. -/
lemma toSize_toSsize_sub (x y : ℤ) : toSize (toSsize x - y) = toSize (x - y) := by
  rw [toSize, Int.sub_emod, toSsize_emod, ← Int.sub_emod, toSize]

/-- The same under an addition. -/
lemma toSize_add_toSsize (x y : ℤ) : toSize (x + toSsize y) = toSize (x + y) := by
  rw [toSize, Int.add_emod, toSsize_emod, ← Int.add_emod, toSize]

/-- The rest that is appended fits into a string. -/
lemma appendExtrabuf_eq_ok {extrabuf : Bytes} (hsize : extrabuf.length = extrabufSize)
    (hok : b.appendExtrabuf extrabuf len = .ok b') :
    ∃ data : StdString, data.size = len ∧ b.append data = .ok b' := by
  unfold appendExtrabuf at hok
  split at hok
  · rename_i hle
    refine ⟨_, ?_, hok⟩
    rw [StdString.size, List.length_take, hsize]
    exact Nat.min_eq_left hle
  · cases hok

/-- `readFd` fills the room behind the content, and appends what has gone to `extrabuf` to the full
buffer. -/
lemma readFd_cases (h : b.Ordered) {bytes : Bytes} {n : ℤ} {savedErrno : Option Errno}
    (hok : b.readFd (.ok bytes) = .ok (n, b', savedErrno)) :
    b.writerIndex_ ≤ b.buffer_.length ∧ bytes.length < 2 ^ 64 ∧
      ((bytes.length ≤ b.writableBytes ∧ b'.buffer_.length = b.buffer_.length ∧
          b'.readerIndex_ = b.readerIndex_ ∧ b'.writerIndex_ = b.writerIndex_ + bytes.length ∧
          b.writerIndex_ + bytes.length ≤ b.buffer_.length) ∨
        (b.writableBytes < bytes.length ∧ ∃ (full : BufferStorage) (data : StdString),
          full.buffer_.length = b.buffer_.length ∧ full.readerIndex_ = b.readerIndex_ ∧
          full.writerIndex_ = b.buffer_.length ∧
          data.size = bytes.length - b.writableBytes ∧ full.append data = .ok b')) := by
  obtain ⟨buffer, hbuffer, hok⟩ := exceptBind_eq_ok hok
  obtain ⟨extrabuf, hextrabuf, hok⟩ := exceptBind_eq_ok hok
  obtain ⟨hblen, hfits⟩ := length_of_stdCopyFrom hbuffer
  obtain ⟨helen, hextra⟩ := length_of_stdCopyFrom hextrabuf
  rw [List.length_replicate] at helen hextra
  rw [List.length_take] at hfits
  rw [List.length_drop, Nat.zero_add] at hextra
  have hs := h.size_le
  have hmax : maxObjectSize = 2 ^ 63 - 1 := rfl
  have hextraSize : extrabufSize = 65536 := rfl
  have hws : b.writerIndex_ ≤ b.buffer_.length := by omega
  have hwritable := h.writableBytes_eq hws
  have hshort : bytes.length < 2 ^ 64 := by omega
  have hn : toSize (toSsize bytes.length) = bytes.length := by
    rw [toSize_toSsize, toSize_of_lt hshort]
  refine ⟨hws, hshort, ?_⟩
  by_cases hle : bytes.length ≤ b.writableBytes
  · simp only [hn, if_pos hle] at hok
    obtain ⟨-, rfl, -⟩ := Prod.mk.inj (Except.ok.inj hok)
    have hroom : b.writerIndex_ + bytes.length ≤ b.buffer_.length := by omega
    have hend : toSize (b.writerIndex_ + toSsize bytes.length) =
        b.writerIndex_ + bytes.length := by
      have hsmall : b.writerIndex_ + bytes.length < 2 ^ 64 := by omega
      rw [toSize_add_toSsize]
      exact toSize_of_lt hsmall
    refine .inl ⟨hle, hblen, rfl, ?_, hroom⟩
    dsimp only
    exact hend
  · simp only [hn, if_neg hle] at hok
    obtain ⟨b₁, happend, hpair⟩ := exceptMap_eq_ok hok
    obtain ⟨-, rfl, -⟩ := Prod.mk.inj hpair
    have hrest : toSize (toSsize bytes.length - b.writableBytes) =
        bytes.length - b.writableBytes := by
      rw [toSize_toSsize_sub]
      exact toSize_sub (by omega) hshort
    rw [hrest] at happend
    obtain ⟨data, hdata, hdone⟩ := appendExtrabuf_eq_ok helen happend
    refine .inr ⟨Nat.lt_of_not_le hle, ⟨buffer, b.readerIndex_, buffer.length⟩, data, ?_⟩
    exact ⟨hblen, rfl, hblen, hdata, hdone⟩

/-! ## Every run -/

/-- The operation that a call which returns has carried out. -/
inductive Returns (b b' : BufferStorage) : BufferCall → Prop
  | append {data : StdString} (hok : b.append data = .ok b') :
      Returns b b' (.member (.append data))
  | ensureWritableBytes {len : ℕ} (hok : b.ensureWritableBytes len = .ok b') :
      Returns b b' (.member (.ensureWritableBytes len))
  | prepend {data : StdString} (hok : b.prepend data = .ok b') :
      Returns b b' (.member (.prepend data))
  | retrieve {c : BufferCall} (len : ℕ) (heq : b' = b.retrieve len) : Returns b b' c
  | readFd {bytes : Bytes} {n : ℤ} {savedErrno : Option Errno}
      (hok : b.readFd (.ok bytes) = .ok (n, b', savedErrno)) :
      Returns b b' (.readFd (.ok bytes))
  | readFdError {errno : Errno} (heq : b' = b) : Returns b b' (.readFd (.error errno))

/-- `retrieveAll` is what `retrieve` does when all of the content is asked for. -/
lemma retrieve_readableBytes (b : BufferStorage) : b.retrieve b.readableBytes = b.retrieveAll :=
  if_neg (lt_irrefl _)

/-- What a step of the buffer can be. -/
lemma returns_of_stepCall {c : BufferCall} (hstep : stepCall b c = some b') : Returns b b' c := by
  cases c with
  | member op =>
    obtain ⟨⟨b₁, out⟩, hresult, hfst⟩ := Option.map_eq_some_iff.mp hstep
    obtain rfl : b₁ = b' := hfst
    have hrun := exceptToOption_eq_some hresult
    cases op with
    | append data =>
      obtain ⟨b₂, hok, hpair⟩ := exceptMap_eq_ok hrun
      obtain ⟨rfl, -⟩ := Prod.mk.inj hpair
      exact .append hok
    | ensureWritableBytes len =>
      obtain ⟨b₂, hok, hpair⟩ := exceptMap_eq_ok hrun
      obtain ⟨rfl, -⟩ := Prod.mk.inj hpair
      exact .ensureWritableBytes hok
    | prepend data =>
      obtain ⟨b₂, hok, hpair⟩ := exceptMap_eq_ok hrun
      obtain ⟨rfl, -⟩ := Prod.mk.inj hpair
      exact .prepend hok
    | retrieve len =>
      obtain ⟨rfl, -⟩ := Prod.mk.inj (Except.ok.inj hrun)
      exact .retrieve len rfl
    | retrieveAll =>
      obtain ⟨rfl, -⟩ := Prod.mk.inj (Except.ok.inj hrun)
      exact .retrieve _ b.retrieve_readableBytes.symm
    | retrieveAllAsString => exact .retrieve _ (retrieveAsString_cases hrun).1
    | retrieveAsString len => exact .retrieve len (retrieveAsString_cases hrun).1
  | readFd delivered =>
    obtain ⟨⟨n, b₁, savedErrno⟩, hresult, hfst⟩ := Option.map_eq_some_iff.mp hstep
    obtain rfl : b₁ = b' := hfst
    have hrun := exceptToOption_eq_some hresult
    cases delivered with
    | error errno =>
      obtain ⟨-, rfl, -⟩ := Prod.mk.inj (Except.ok.inj hrun)
      exact .readFdError rfl
    | ok bytes => exact .readFd hrun

/-- Every call that returns keeps the indices in order. -/
lemma stepCall_ordered {c : BufferCall} (h : b.Ordered) (hstep : stepCall b c = some b') :
    b'.Ordered := by
  have hrw := h.reader_le_writer
  have hw := h.writer_le
  have hs := h.size_le
  cases returns_of_stepCall hstep with
  | append hok => exact append_ordered h hok
  | ensureWritableBytes hok => exact ensureWritableBytes_ordered h hok
  | prepend hok =>
    obtain ⟨-, hsize, hr, hw', -⟩ := prepend_cases h hok
    exact ⟨by omega, by omega, by omega⟩
  | retrieve len heq =>
    have hprepend : kCheapPrepend ≤ maxObjectSize := by decide
    obtain ⟨hbuf, ⟨hlt, hr, hw'⟩ | ⟨-, hr, hw'⟩⟩ := retrieve_cases h len
    · rw [heq]
      exact ⟨by omega, by omega, hbuf ▸ hs⟩
    · rw [heq]
      exact ⟨by omega, by omega, hbuf ▸ hs⟩
  | readFd hok =>
    obtain ⟨hws, -, ⟨-, hsize, hr, hw', hfits⟩ | ⟨-, full, data, hsize, hr, hw', -, hok⟩⟩ :=
      readFd_cases h hok
    · exact ⟨by omega, by omega, by omega⟩
    · have hfull : full.Ordered := ⟨by omega, by omega, by omega⟩
      exact append_ordered hfull hok
  | readFdError heq =>
    rw [heq]
    exact h

/-- The indices of every buffer are in order that calls of any sizes leave behind. -/
theorem ordered_of_exec {initialSize : ℕ} {b₀ : BufferStorage} {calls : List BufferCall}
    (hnew : new initialSize = .ok b₀) (hrun : exec stepCall b₀ calls = some b) : b.Ordered :=
  invariant_of_exec (fun _ _ _ h hstep => stepCall_ordered h hstep) (new_cases hnew).1 hrun

end BufferStorage

end SimpleMuduo
