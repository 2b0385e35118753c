import SimpleMuduo.Buffer.Indices

/-!
# How large the vector becomes

`makeSPace` resizes the vector to `writerIndex_ + len` without sliding the content first, so the
bytes in front of the read index stay dead.  They are fewer than `len + kCheapPrepend` when the
vector is resized, because the slide has been found to free too little, and that bounds the vector
by what has been in demand at one time, however many bytes have passed through.

The sum is computed in `size_t`.  A call `ensureWritableBytes(len)` whose `writerIndex_ + len` wraps
resizes the vector to a smaller one, and it is the only call that does.
-/

namespace SimpleMuduo

/-- A difference of counts that is negative wraps. -/
lemma toSize_sub_of_lt {m n : ℕ} (hlt : m < n) (h : n ≤ 2 ^ 64) :
    toSize (m - n) = 2 ^ 64 + m - n := by
  unfold toSize
  omega

/-- A count that is too large wraps. -/
lemma toSize_of_ge {n : ℕ} (hle : 2 ^ 64 ≤ n) (h : n < 2 * 2 ^ 64) :
    toSize n = n - 2 ^ 64 := by
  unfold toSize
  omega

/-! ## The demand of a call -/

/-- The arguments of type `size_t` are below `2 ^ 64`. -/
def BufferCall.FitsSizeT : BufferCall → Prop
  | .member (.ensureWritableBytes len) | .member (.retrieve len)
  | .member (.retrieveAsString len) => len < 2 ^ 64
  | _ => True

instance (c : BufferCall) : Decidable c.FitsSizeT := by
  unfold BufferCall.FitsSizeT
  split <;> infer_instance

namespace BufferStorage

/-- `readableBytes() + len` at the call `ensureWritableBytes(len)` that the member function is or
makes, and `0` where there is none. -/
def ensureDemand (b : BufferStorage) : BufferCall → ℕ
  | .member (.append data) => b.readableBytes + data.size
  | .member (.ensureWritableBytes len) => b.readableBytes + len
  | .readFd (.ok bytes) =>
    let n := toSsize bytes.length
    if toSize n ≤ b.writableBytes then 0
    else { b with writerIndex_ := b.buffer_.length }.readableBytes + toSize (n - b.writableBytes)
  | _ => 0

/-- The call is one of `ensureWritableBytes(len)` that resizes the vector to a sum
`writerIndex_ + len` that has wrapped. -/
def ResizeWraps (b : BufferStorage) : BufferCall → Prop
  | .member (.ensureWritableBytes len) =>
    b.writerIndex_ ≤ b.buffer_.length ∧ b.Resizes len ∧ 2 ^ 64 ≤ b.writerIndex_ + len
  | _ => False

instance (b : BufferStorage) (c : BufferCall) : Decidable (b.ResizeWraps c) := by
  unfold ResizeWraps
  split <;> infer_instance

end BufferStorage

/-- A buffer with the history of its vector. -/
structure TrackedBuffer where
  storage : BufferStorage
  /-- The largest `buffer_.size()` so far. -/
  largestSize : ℕ
  /-- The largest `readableBytes() + len` at a call of `ensureWritableBytes(len)` so far. -/
  peakDemand : ℕ
  deriving DecidableEq

namespace TrackedBuffer

/-- A new buffer. -/
def start (b : BufferStorage) : TrackedBuffer where
  storage := b
  largestSize := b.buffer_.length
  peakDemand := 0

/-- The calls of member functions that return normally. -/
def step (s : TrackedBuffer) (c : BufferCall) : Option TrackedBuffer :=
  if c.FitsSizeT then
    (s.storage.stepCall c).map fun b =>
      { storage := b
        largestSize := max s.largestSize b.buffer_.length
        peakDemand := max s.peakDemand (s.storage.ensureDemand c) }
  else none

/-- The vector has never been larger than it is, and it is bounded by the demand. -/
def BoundedByDemand (initialSize : ℕ) (s : TrackedBuffer) : Prop :=
  s.largestSize ≤ s.storage.buffer_.length ∧
    s.storage.buffer_.length ≤
      max (kCheapPrepend + initialSize) (2 * s.peakDemand + kCheapPrepend)

instance (initialSize : ℕ) (s : TrackedBuffer) : Decidable (s.BoundedByDemand initialSize) := by
  unfold BoundedByDemand
  infer_instance

end TrackedBuffer

/-! ## A buffer whose content lies in its vector -/

namespace BufferStorage

/-- The content ends between the prepend area and the end of the vector. -/
structure Roomy (b : BufferStorage) : Prop where
  cheapPrepend_le_writer : kCheapPrepend ≤ b.writerIndex_
  writer_le_size : b.writerIndex_ ≤ b.buffer_.length

/-- What a call that demands `demand` bytes may do to the vector. -/
structure GrowsFor (demand : ℕ) (b b' : BufferStorage) : Prop where
  roomy : b'.Roomy
  size_le : b.buffer_.length ≤ b'.buffer_.length
  size_le_max : b'.buffer_.length ≤ max b.buffer_.length (2 * demand + kCheapPrepend)

variable {b b' : BufferStorage} {len : ℕ}

/-- A call that leaves the vector as large as it is. -/
lemma growsFor_of_length_eq {demand : ℕ} (hroomy : b'.Roomy)
    (hsize : b'.buffer_.length = b.buffer_.length) : GrowsFor demand b b' :=
  ⟨hroomy, hsize.ge, hsize.le.trans (le_max_left _ _)⟩

/-- The slide that frees too little leaves little dead space, so the vector that is resized instead
is at most twice as large as the demand. -/
lemma ensureWritableBytes_growsFor (h : b.Ordered) (hroomy : b.Roomy)
    (hnowrap : b.Resizes len → b.writerIndex_ + len < 2 ^ 64)
    (hok : b.ensureWritableBytes len = .ok b') : GrowsFor (b.readableBytes + len) b b' := by
  have hrw := h.reader_le_writer
  have hs := h.size_le
  have hcw := hroomy.cheapPrepend_le_writer
  have hws := hroomy.writer_le_size
  have hmax : maxObjectSize = 2 ^ 63 - 1 := rfl
  rcases ensureWritableBytes_cases h hok with ⟨-, rfl⟩ | ⟨hresizes, hsize, -, -, hw⟩ |
    ⟨-, -, hsize, -, hw, hfits⟩
  · exact growsFor_of_length_eq hroomy rfl
  · have hsum := hnowrap hresizes
    obtain ⟨hmiss, hslide⟩ := hresizes
    have hend : toSize (b.writerIndex_ + len) = b.writerIndex_ + len := toSize_of_lt hsum
    have hfreed : toSize (b.writableBytes + b.prependableBytes) =
        b.buffer_.length - b.writerIndex_ + b.readerIndex_ := by
      rw [h.writableBytes_eq hws, prependableBytes]
      exact toSize_of_lt (by omega)
    have hneed : toSize (len + kCheapPrepend) = len + kCheapPrepend :=
      toSize_of_lt (by omega)
    rw [hend] at hsize
    rw [hfreed, hneed] at hslide
    rw [h.writableBytes_eq hws] at hmiss
    -- the dead space in front of the read index
    have hdead : b.readerIndex_ < len + kCheapPrepend := by omega
    refine ⟨⟨by omega, by omega⟩, by omega, ?_⟩
    rw [hsize, h.readableBytes_eq]
    refine le_trans ?_ (le_max_right _ _)
    omega
  · refine growsFor_of_length_eq ⟨by omega, by omega⟩ hsize

/-- The sum of two sizes of objects does not wrap, so `append` never shrinks the vector. -/
lemma append_growsFor (h : b.Ordered) (hroomy : b.Roomy) {data : StdString}
    (hok : b.append data = .ok b') : GrowsFor (b.readableBytes + data.size) b b' := by
  obtain ⟨room, hroom, -, hsize, -, hw, hfits⟩ := append_cases h hok
  have hsum : b.writerIndex_ + data.size < 2 ^ 64 := by
    have hwm := h.writer_le
    have hd : data.size ≤ maxObjectSize := data.size_le
    have hmax : maxObjectSize = 2 ^ 63 - 1 := rfl
    omega
  obtain ⟨⟨hcw, hws⟩, hle, hlemax⟩ :=
    ensureWritableBytes_growsFor h hroomy (fun _ => hsum) hroom
  exact ⟨⟨by omega, by omega⟩, by omega, by omega⟩

lemma retrieve_roomy (h : b.Ordered) (hroomy : b.Roomy) (len : ℕ) : (b.retrieve len).Roomy := by
  have hcw := hroomy.cheapPrepend_le_writer
  have hws := hroomy.writer_le_size
  obtain ⟨hbuf, ⟨-, -, hw⟩ | ⟨-, -, hw⟩⟩ := retrieve_cases h len
  · exact ⟨by omega, by rw [hbuf]; omega⟩
  · exact ⟨by omega, by rw [hbuf]; omega⟩

/-- `readFd` demands what it appends from `extrabuf`. -/
lemma readFd_growsFor (h : b.Ordered) (hroomy : b.Roomy) {bytes : Bytes} {n : ℤ}
    {savedErrno : Option Errno} (hok : b.readFd (.ok bytes) = .ok (n, b', savedErrno)) :
    GrowsFor (b.ensureDemand (.readFd (.ok bytes))) b b' := by
  have hrw := h.reader_le_writer
  have hcw := hroomy.cheapPrepend_le_writer
  have hs := h.size_le
  have hmax : maxObjectSize = 2 ^ 63 - 1 := rfl
  obtain ⟨hws, hshort, ⟨-, hsize, hr, hw, hfits⟩ | ⟨hlt, full, data, hsize, hr, hw, hdata, hok⟩⟩ :=
    readFd_cases h hok
  · exact growsFor_of_length_eq ⟨by omega, by omega⟩ hsize
  · have hfull : full.Ordered := ⟨by omega, by omega, by omega⟩
    have hdemand : b.ensureDemand (.readFd (.ok bytes)) = full.readableBytes + data.size := by
      have hn : toSize (toSsize bytes.length) = bytes.length := by
        rw [toSize_toSsize, toSize_of_lt hshort]
      have hrest : toSize (toSsize bytes.length - b.writableBytes) = data.size := by
        rw [toSize_toSsize_sub, hdata]
        exact toSize_sub hlt.le hshort
      rw [ensureDemand, hn, if_neg (by omega), hrest, readableBytes, readableBytes, hr, hw]
    obtain ⟨hroomy', hle, hlemax⟩ := append_growsFor hfull ⟨by omega, by omega⟩ hok
    rw [hdemand]
    exact ⟨hroomy', by omega, by omega⟩

/-- Every call that returns makes the vector larger only for what it demands, and smaller only when
the new size has wrapped. -/
lemma stepCall_growsFor {c : BufferCall} (h : b.Ordered) (hroomy : b.Roomy)
    (hwraps : ¬ b.ResizeWraps c) (hstep : b.stepCall c = some b') :
    GrowsFor (b.ensureDemand c) b b' := by
  have hcw := hroomy.cheapPrepend_le_writer
  have hws := hroomy.writer_le_size
  cases returns_of_stepCall hstep with
  | append hok => exact append_growsFor h hroomy hok
  | ensureWritableBytes hok =>
    refine ensureWritableBytes_growsFor h hroomy (fun hresizes => ?_) hok
    exact Nat.lt_of_not_le fun hle => hwraps ⟨hws, hresizes, hle⟩
  | prepend hok =>
    obtain ⟨-, hsize, -, hw, -⟩ := prepend_cases h hok
    exact growsFor_of_length_eq ⟨by omega, by omega⟩ hsize
  | retrieve len heq =>
    rw [heq]
    exact growsFor_of_length_eq (retrieve_roomy h hroomy len)
      (congrArg List.length (retrieve_cases h len).1)
  | readFd hok => exact readFd_growsFor h hroomy hok
  | readFdError heq =>
    rw [heq]
    exact growsFor_of_length_eq hroomy rfl

/-! ## A vector without the prepend area -/

/-- The initial size has wrapped, so that the vector ends in front of the indices. -/
structure Short (b : BufferStorage) : Prop where
  reader_eq : b.readerIndex_ = kCheapPrepend
  writer_eq : b.writerIndex_ = kCheapPrepend
  size_lt : b.buffer_.length < kCheapPrepend

/-- Nothing fits into such a buffer, and `ensureWritableBytes` makes it larger. -/
lemma stepCall_short {c : BufferCall} (h : b.Ordered) (hshort : b.Short) (hfits : c.FitsSizeT)
    (hstep : b.stepCall c = some b') : b'.Short ∧ b.buffer_.length ≤ b'.buffer_.length := by
  have hr := hshort.reader_eq
  have hw := hshort.writer_eq
  have hs := hshort.size_lt
  have hensure : ∀ {len : ℕ} {b₁ : BufferStorage}, len < 2 ^ 64 →
      b.ensureWritableBytes len = .ok b₁ → b₁.Short ∧ b.buffer_.length ≤ b₁.buffer_.length := by
    intro len b₁ hlen hok
    rcases ensureWritableBytes_cases h hok with ⟨-, rfl⟩ | ⟨⟨hmiss, -⟩, hsize, -, hr₁, hw₁⟩ |
      ⟨-, -, -, -, hw₁, hle⟩
    · exact ⟨hshort, le_rfl⟩
    · -- only a length close to `2 ^ 64` is more than `writableBytes()`, which has wrapped
      have hcheap : kCheapPrepend = 8 := rfl
      rw [writableBytes, toSize_sub_of_lt (by omega) (by omega)] at hmiss
      have hend : toSize (b.writerIndex_ + len) = b.writerIndex_ + len - 2 ^ 64 :=
        toSize_of_ge (by omega) (by omega)
      exact ⟨⟨by omega, by omega, by omega⟩, by omega⟩
    · omega
  cases returns_of_stepCall hstep with
  | append hok =>
    rename_i data
    obtain ⟨room, hroom, -, -, -, -, hle⟩ := append_cases h hok
    have hlen : data.size ≤ maxObjectSize := data.size_le
    have hmax : maxObjectSize = 2 ^ 63 - 1 := rfl
    obtain ⟨⟨-, hw₁, hs₁⟩, -⟩ := hensure (by omega) hroom
    omega
  | ensureWritableBytes hok => exact hensure hfits hok
  | prepend hok =>
    obtain ⟨-, -, -, -, hle⟩ := prepend_cases h hok
    omega
  | retrieve len heq =>
    obtain ⟨hbuf, ⟨hlt, -, -⟩ | ⟨-, hr₁, hw₁⟩⟩ := retrieve_cases h len
    · omega
    · rw [heq]
      exact ⟨⟨hr₁, hw₁, by rw [hbuf]; exact hs⟩, (congrArg List.length hbuf).ge⟩
  | readFd hok =>
    obtain ⟨hle, -⟩ := readFd_cases h hok
    omega
  | readFdError heq =>
    rw [heq]
    exact ⟨hshort, le_rfl⟩

/-- The size that has wrapped is smaller than that of the vector. -/
lemma length_lt_of_resizeWraps {c : BufferCall} (h : b.Ordered) (hfits : c.FitsSizeT)
    (hwraps : b.ResizeWraps c) (hstep : b.stepCall c = some b') :
    b'.buffer_.length < b.buffer_.length := by
  unfold ResizeWraps at hwraps
  split at hwraps
  · rename_i len
    obtain ⟨hws, hresizes, hsum⟩ := hwraps
    obtain ⟨⟨b₁, out⟩, hresult, hfst⟩ := Option.map_eq_some_iff.mp hstep
    obtain rfl : b₁ = b' := hfst
    obtain ⟨b₂, hok, hpair⟩ := exceptMap_eq_ok (exceptToOption_eq_some hresult)
    obtain ⟨rfl, -⟩ := Prod.mk.inj hpair
    have hlen : len < 2 ^ 64 := hfits
    have hw := h.writer_le
    have hmax : maxObjectSize = 2 ^ 63 - 1 := rfl
    have hend : toSize (b.writerIndex_ + len) = b.writerIndex_ + len - 2 ^ 64 :=
      toSize_of_ge hsum (by omega)
    rcases ensureWritableBytes_cases h hok with ⟨hle, -⟩ | ⟨-, hsize, -⟩ | ⟨-, hnot, -⟩
    · exact absurd hresizes.1 (Nat.not_lt.mpr hle)
    · omega
    · exact absurd hresizes hnot
  · exact hwraps.elim

end BufferStorage

/-! ## Every run -/

namespace TrackedBuffer

/-- What holds as long as no size has wrapped. -/
structure Sound (initialSize : ℕ) (s : TrackedBuffer) : Prop where
  ordered : s.storage.Ordered
  largest_eq : s.largestSize = s.storage.buffer_.length
  bounded : s.storage.buffer_.length ≤
    max (kCheapPrepend + initialSize) (2 * s.peakDemand + kCheapPrepend)
  shape : s.storage.Roomy ∨ s.storage.Short ∧ maxObjectSize ≤ initialSize

variable {initialSize : ℕ} {s t : TrackedBuffer} {c : BufferCall}

/-- A new buffer is sound, also when its size has wrapped. -/
lemma sound_start {b : BufferStorage} (hnew : BufferStorage.new initialSize = .ok b) :
    (start b).Sound initialSize := by
  obtain ⟨hordered, hsize, hr, hw⟩ := BufferStorage.new_cases hnew
  have hmax : maxObjectSize = 2 ^ 63 - 1 := rfl
  have hcheap : kCheapPrepend = 8 := rfl
  refine ⟨hordered, rfl, ?_, ?_⟩
  · refine le_trans ?_ (le_max_left _ _)
    rw [start, hsize]
    unfold toSize
    omega
  · by_cases hle : kCheapPrepend ≤ b.buffer_.length
    · exact .inl ⟨hw.ge, hw.le.trans hle⟩
    · refine .inr ⟨⟨hr, hw, Nat.lt_of_not_le hle⟩, ?_⟩
      rw [hsize] at hle
      by_contra hsmall
      have hsum : kCheapPrepend + initialSize < 2 ^ 64 := by omega
      have hend : toSize (kCheapPrepend + initialSize) = kCheapPrepend + initialSize :=
        toSize_of_lt hsum
      omega

lemma step_eq_some (hstep : step s c = some t) :
    c.FitsSizeT ∧ ∃ b, s.storage.stepCall c = some b ∧
      t = ⟨b, max s.largestSize b.buffer_.length,
        max s.peakDemand (s.storage.ensureDemand c)⟩ := by
  unfold step at hstep
  split at hstep
  · rename_i hfits
    obtain ⟨b, hb, rfl⟩ := Option.map_eq_some_iff.mp hstep
    exact ⟨hfits, b, hb, rfl⟩
  · cases hstep

/-- A call whose size does not wrap keeps the buffer sound. -/
lemma Sound.step (h : s.Sound initialSize) (hwraps : ¬ s.storage.ResizeWraps c)
    (hstep : step s c = some t) : t.Sound initialSize := by
  obtain ⟨hfits, b, hb, rfl⟩ := step_eq_some hstep
  have hordered := BufferStorage.stepCall_ordered h.ordered hb
  have hlargest := h.largest_eq
  have hbounded := h.bounded
  rcases h.shape with hroomy | ⟨hshort, hhuge⟩
  · obtain ⟨hroomy', hle, hlemax⟩ :=
      BufferStorage.stepCall_growsFor h.ordered hroomy hwraps hb
    refine ⟨hordered, ?_, ?_, .inl hroomy'⟩
    · dsimp only
      omega
    · dsimp only
      omega
  · obtain ⟨hshort', hle⟩ := BufferStorage.stepCall_short h.ordered hshort hfits hb
    refine ⟨hordered, ?_, ?_, .inr ⟨hshort', hhuge⟩⟩
    · dsimp only
      omega
    · -- the initial size is larger than any vector
      have hs := hordered.size_le
      dsimp only
      omega

end TrackedBuffer

/-- For every initial size and every sequence of calls, the vector never becomes smaller and never
larger than `max(kCheapPrepend + initialSize, 2 * P + kCheapPrepend)`, where `P` is the largest
`readableBytes() + len` at a call of `ensureWritableBytes(len)` so far, exactly when no call of
`ensureWritableBytes` resizes it to a sum that has wrapped. -/
theorem storage_bounded_iff {initialSize : ℕ} {b₀ : BufferStorage}
    (hnew : BufferStorage.new initialSize = .ok b₀) (calls : List BufferCall) :
    Always TrackedBuffer.step (TrackedBuffer.BoundedByDemand initialSize)
        (TrackedBuffer.start b₀) calls ↔
      Meets TrackedBuffer.step (fun s c => ¬ s.storage.ResizeWraps c)
        (TrackedBuffer.start b₀) calls := by
  refine always_iff_meets (I := TrackedBuffer.Sound initialSize) ?_ ?_ ?_
    (TrackedBuffer.sound_start hnew)
  · intro s c t h hok hstep
    exact h.step hok hstep
  · intro s h
    exact ⟨h.largest_eq.le, h.bounded⟩
  · rintro s c t h hbad hstep ⟨hlargest, -⟩
    have hwraps := not_not.mp hbad
    obtain ⟨hfits, b, hb, rfl⟩ := TrackedBuffer.step_eq_some hstep
    have hlt := BufferStorage.length_lt_of_resizeWraps h.ordered hfits hwraps hb
    have heq := h.largest_eq
    dsimp only at hlargest
    omega

/-- A buffer that grows for three bytes, is emptied in part, and slides for the next two. -/
theorem storage_bounded_slide :
    Always TrackedBuffer.step (TrackedBuffer.BoundedByDemand 2)
      (TrackedBuffer.start ⟨List.replicate 10 0, 8, 8⟩)
      [.member (.append ⟨[1, 2, 3], by decide⟩), .member (.retrieve 2),
        .readFd (.ok [4, 5])] :=
  (storage_bounded_iff (by decide +kernel) _).mpr
    fun _ _ => ⟨id, fun _ _ => ⟨id, fun _ _ => ⟨id, trivial⟩⟩⟩

/-- After three bytes have been appended, `ensureWritableBytes(2 ^ 64 - 10)` makes a vector of a
single byte out of one of eleven bytes, with indices that lie behind its end. -/
theorem not_storage_bounded_wrap :
    ∃ b₀, BufferStorage.new 2 = .ok b₀ ∧
      exec BufferStorage.stepCall b₀ [.member (.append ⟨[1, 2, 3], by decide⟩),
        .member (.ensureWritableBytes (2 ^ 64 - 10))] = some ⟨[0], 8, 11⟩ ∧
      ¬ Always TrackedBuffer.step (TrackedBuffer.BoundedByDemand 2) (TrackedBuffer.start b₀)
        [.member (.append ⟨[1, 2, 3], by decide⟩),
          .member (.ensureWritableBytes (2 ^ 64 - 10))] := by
  refine ⟨⟨List.replicate 10 0, 8, 8⟩, by decide +kernel, by decide +kernel, fun h => ?_⟩
  have hrun : exec TrackedBuffer.step (TrackedBuffer.start ⟨List.replicate 10 0, 8, 8⟩)
      [.member (.append ⟨[1, 2, 3], by decide⟩), .member (.ensureWritableBytes (2 ^ 64 - 10))] =
      some ⟨⟨[0], 8, 11⟩, 11, 2 ^ 64 - 7⟩ := by decide +kernel
  exact absurd (h.of_exec hrun) (by decide)

end SimpleMuduo
