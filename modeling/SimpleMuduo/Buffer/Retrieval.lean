import SimpleMuduo.Buffer.Indices

/-!
# What `retrieveAsString` gives out

`retrieve(len)` takes a length beyond the content as all of it.  `retrieveAsString(len)` makes its
string from `len` bytes at the read index before it calls `retrieve(len)`, without looking at where
the content ends.  So the two agree when the content has `len` bytes, and when it has not, the
string contains whatever lies behind the content.
-/

namespace SimpleMuduo

namespace BufferStorage

/-- The indices of the bytes from which `std::string result(peek(), len)` is made. -/
def retrieveReads (b : BufferStorage) (len : ℕ) : List ℕ := List.range' b.readerIndex_ len

/-- `retrieveAsString(len)` returns the first bytes of the content, `len` of them or all, they are
what `retrieve(len)` removes, and no byte behind the content is read. -/
def RetrievesPrefix (b : BufferStorage) (len : ℕ) : Prop :=
  b.retrieveAsString len =
      .ok (b.retrieve len, b.content.take (min len b.readableBytes)) ∧
    b.content = b.content.take (min len b.readableBytes) ++ (b.retrieve len).content ∧
    ∀ i ∈ b.retrieveReads len, i < b.writerIndex_

instance (b : BufferStorage) (len : ℕ) : Decidable (b.RetrievesPrefix len) := by
  unfold RetrievesPrefix
  infer_instance

variable {b b' : BufferStorage} {len : ℕ}

/-- A string that lies inside the vector is returned. -/
lemma retrieveAsString_of_le (h : b.readerIndex_ + len ≤ b.buffer_.length) :
    b.retrieveAsString len = .ok (b.retrieve len, slice b.buffer_ b.readerIndex_ len) := by
  have hstring : stringFrom b.buffer_ b.readerIndex_ len =
      .ok (slice b.buffer_ b.readerIndex_ len) := if_pos h
  rw [retrieveAsString, hstring]
  rfl

/-- What `retrieve` leaves is what follows the first `len` bytes of the content. -/
lemma content_eq_slice_append (h : b.Ordered) (hle : len ≤ b.readableBytes) :
    b.content = slice b.buffer_ b.readerIndex_ len ++ (b.retrieve len).content := by
  rw [h.readableBytes_eq] at hle
  have hsplit : b.writerIndex_ - b.readerIndex_ =
      len + (b.writerIndex_ - b.readerIndex_ - len) := by omega
  rw [content, hsplit, slice_add]
  congr 1
  obtain ⟨hbuf, ⟨hlt, hr, hw⟩ | ⟨hge, hr, hw⟩⟩ := retrieve_cases h len
  · rw [content, hbuf, hr, hw, Nat.sub_sub]
  · -- all of the content has been asked for, and `retrieveAll` leaves nothing
    have hnone : b.writerIndex_ - b.readerIndex_ - len = 0 := by
      have hrw := h.reader_le_writer
      omega
    rw [content, hr, hw, hnone, Nat.sub_self, slice_zero, slice_zero]

/-- The first `len` bytes of the content are those at the read index. -/
lemma take_content (h : b.Ordered) (hle : len ≤ b.readableBytes) :
    b.content.take len = slice b.buffer_ b.readerIndex_ len := by
  rw [content, slice, slice, List.take_take, ← h.readableBytes_eq, Nat.min_eq_left hle]

end BufferStorage

/-- For every buffer that calls of its member functions leave behind, `retrieveAsString(len)`
returns the first `len` bytes of the content, or all of it, and reads nothing else exactly when the
content has `len` bytes and they lie in the vector. -/
theorem retrievesPrefix_iff {initialSize : ℕ} {b₀ b : BufferStorage} {calls : List BufferCall}
    (hnew : BufferStorage.new initialSize = .ok b₀)
    (hrun : exec BufferStorage.stepCall b₀ calls = some b) (len : ℕ) :
    b.RetrievesPrefix len ↔
      len ≤ b.readableBytes ∧ b.readerIndex_ + len ≤ b.buffer_.length := by
  have h := BufferStorage.ordered_of_exec hnew hrun
  constructor
  · rintro ⟨hok, -, -⟩
    obtain ⟨-, hout, hfits⟩ := BufferStorage.retrieveAsString_cases hok
    refine ⟨?_, hfits⟩
    -- the string has `len` bytes, so the content has that many
    have hlen := congrArg List.length hout
    rw [List.length_take, slice_length hfits] at hlen
    omega
  · rintro ⟨hle, hfits⟩
    have hmin : min len b.readableBytes = len := Nat.min_eq_left hle
    refine ⟨?_, ?_, ?_⟩
    · rw [hmin, BufferStorage.take_content h hle]
      exact BufferStorage.retrieveAsString_of_le hfits
    · rw [hmin, BufferStorage.take_content h hle]
      exact BufferStorage.content_eq_slice_append h hle
    · intro i hi
      have hrange := List.mem_range'_1.mp hi
      have hrw := h.reader_le_writer
      rw [h.readableBytes_eq] at hle
      omega

/-- A message of three bytes is followed by one of a single byte, and one byte is asked for. -/
theorem retrievesPrefix_first_byte :
    (⟨[0, 0, 0, 0, 0, 0, 0, 0, 7, 2, 3], 8, 9⟩ : BufferStorage).RetrievesPrefix 1 :=
  (@retrievesPrefix_iff 3 ⟨List.replicate 11 0, 8, 8⟩ _
    [.member (.append ⟨[1, 2, 3], by decide⟩), .member .retrieveAll,
      .member (.append ⟨[7], by decide⟩)]
    (by decide +kernel) (by decide +kernel) 1).mpr (by decide +kernel)

/-- In the same buffer three bytes are asked for: two bytes of the earlier message are given out
again, although the content is one byte. -/
theorem not_retrievesPrefix_stale :
    ∃ b₀ b : BufferStorage, BufferStorage.new 3 = .ok b₀ ∧
      exec BufferStorage.stepCall b₀ [.member (.append ⟨[1, 2, 3], by decide⟩),
        .member .retrieveAll, .member (.append ⟨[7], by decide⟩)] = some b ∧
      b.content = [7] ∧ b.retrieveAsString 3 = .ok (b.retrieveAll, [7, 2, 3]) ∧
      ¬ b.RetrievesPrefix 3 :=
  ⟨⟨List.replicate 11 0, 8, 8⟩, ⟨[0, 0, 0, 0, 0, 0, 0, 0, 7, 2, 3], 8, 9⟩, by decide +kernel,
    by decide +kernel, by decide +kernel, by decide +kernel, by decide +kernel⟩

end SimpleMuduo
