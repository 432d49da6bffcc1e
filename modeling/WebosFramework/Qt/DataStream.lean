import Mathlib.Algebra.Group.Nat.Defs
import Mathlib.Data.List.Basic
import Mathlib.Data.List.Forall2

/-!
# Byte arrays on a `QDataStream`

`operator<<(QDataStream&, QByteArray)` writes the length as a 32-bit big-endian number and then the
bytes; `operator>>` reads them back. The reader never fails loudly: a stream that ends too early, in
the length or in the bytes, leaves the array empty, and so does the length `0xffffffff`, which marks
a null array.

* `readByteArray_write_append`: what was written is read back, whatever follows it;
* `eq_write_of_readByteArray`: an array that is not empty was read off a complete frame;
* `readByteArray_front`: the beginning of a frame is read as the array in it, or as an empty one;
* `eq_of_forall₂_length_le`: pieces of a stream that are each at least as long as the frame of their
  index, and together make up the frames, are the frames.
-/

namespace Qt

/-- A `QByteArray`. -/
abbrev Bytes := List UInt8

/-- The length that marks a null `QByteArray`. -/
def nullLength : Nat := 0xffffffff

/-- A `quint32` on the stream, the high byte first. The conversion of a larger number cuts it off.
-/
def putUInt32 (n : Nat) : Bytes :=
  [.ofNat (n / 2 ^ 24), .ofNat (n / 2 ^ 16), .ofNat (n / 2 ^ 8), .ofNat n]

/-- The number that four bytes stand for. -/
def uint32OfBytes (a b c d : UInt8) : Nat :=
  a.toNat * 2 ^ 24 + b.toNat * 2 ^ 16 + c.toNat * 2 ^ 8 + d.toNat

/-- `operator<<(QDataStream&, const QByteArray&)` for an array that is not null. -/
def writeByteArray (bytes : Bytes) : Bytes := putUInt32 bytes.length ++ bytes

/-- The bytes behind a length `len`. A read past the end uses the stream up and clears the array. -/
def readBytes (len : Nat) (stream : Bytes) : Bytes × Bytes :=
  if len = nullLength then ([], stream)
  else if len ≤ stream.length then (stream.take len, stream.drop len)
  else ([], [])

/-- `operator>>(QDataStream&, QByteArray&)`: the array, and what is left on the stream. -/
def readByteArray : Bytes → Bytes × Bytes
  | a :: b :: c :: d :: stream => readBytes (uint32OfBytes a b c d) stream
  | _ => ([], [])

@[simp] theorem length_putUInt32 (n : Nat) : (putUInt32 n).length = 4 := rfl

@[simp] theorem length_writeByteArray (bytes : Bytes) :
    (writeByteArray bytes).length = 4 + bytes.length := by
  simp [writeByteArray]

/-- A number below the limit is read back. -/
theorem uint32OfBytes_putUInt32 {n : Nat} (hn : n < 2 ^ 32) :
    uint32OfBytes (.ofNat (n / 2 ^ 24)) (.ofNat (n / 2 ^ 16)) (.ofNat (n / 2 ^ 8)) (.ofNat n) =
      n := by
  simp only [uint32OfBytes, UInt8.toNat_ofNat']
  omega

/-- Four bytes that were read as a number are written again by it. -/
theorem putUInt32_uint32OfBytes (a b c d : UInt8) :
    putUInt32 (uint32OfBytes a b c d) = [a, b, c, d] := by
  have ha := a.toNat_lt
  have hb := b.toNat_lt
  have hc := c.toNat_lt
  have hd := d.toNat_lt
  simp only [putUInt32, uint32OfBytes, List.cons.injEq, and_true, ← UInt8.toNat_inj,
    UInt8.toNat_ofNat']
  omega

/-! ## Round trips

What was written is read back, and what was read had been written. -/

/-- The bytes of an array are read up to its length, and the rest is left. -/
theorem readBytes_append {bytes : Bytes} (hlen : bytes.length < nullLength) (rest : Bytes) :
    readBytes bytes.length (bytes ++ rest) = (bytes, rest) := by
  have hne : bytes.length ≠ nullLength := Nat.ne_of_lt hlen
  have hle : bytes.length ≤ (bytes ++ rest).length := by simp
  rw [readBytes, if_neg hne, if_pos hle, List.take_left', List.drop_left'] <;> rfl

/-- What was written is read back, and the reader stops right behind it. -/
theorem readByteArray_write_append {bytes : Bytes} (hlen : bytes.length < nullLength)
    (rest : Bytes) : readByteArray (writeByteArray bytes ++ rest) = (bytes, rest) := by
  have hlt : bytes.length < 2 ^ 32 := by
    unfold nullLength at hlen
    omega
  simp only [writeByteArray, putUInt32, List.cons_append, List.nil_append, readByteArray,
    uint32OfBytes_putUInt32 hlt]
  exact readBytes_append hlen rest

/-- An array that is not empty has the length that was asked for, so that the stream was long
enough. -/
theorem eq_append_of_readBytes {len : Nat} {stream bytes rest : Bytes}
    (hread : readBytes len stream = (bytes, rest)) (hne : bytes ≠ []) :
    bytes.length = len ∧ stream = bytes ++ rest := by
  unfold readBytes at hread
  split at hread
  · exact absurd (Prod.mk.inj hread).1.symm hne
  · split at hread
    · rename_i hle
      obtain ⟨rfl, rfl⟩ := Prod.mk.inj hread
      exact ⟨by rw [List.length_take, Nat.min_eq_left hle], (List.take_append_drop len stream).symm⟩
    · exact absurd (Prod.mk.inj hread).1.symm hne

/-- An array that came out not empty was read off a complete frame. -/
theorem eq_write_of_readByteArray {block bytes rest : Bytes}
    (hread : readByteArray block = (bytes, rest)) (hne : bytes ≠ []) :
    block = writeByteArray bytes ++ rest := by
  unfold readByteArray at hread
  split at hread
  · obtain ⟨hlen, hstream⟩ := eq_append_of_readBytes hread hne
    rw [writeByteArray, hlen, putUInt32_uint32OfBytes, hstream]
    simp
  · exact absurd (Prod.mk.inj hread).1.symm hne

/-- The beginning of a frame gives its array, or none. -/
theorem readByteArray_front {block bytes : Bytes} (hlen : bytes.length < nullLength)
    (hblock : block <+: writeByteArray bytes) :
    (readByteArray block).1 = [] ∨ (readByteArray block).1 = bytes := by
  obtain ⟨rest, hrest⟩ := hblock
  rcases hread : readByteArray block with ⟨front, left⟩
  by_cases hne : front = []
  · exact .inl hne
  · -- the block holds a complete frame, and a frame is read in one way only
    have hframe := eq_write_of_readByteArray hread hne
    have hfront : front.length < nullLength := by
      have hlength := congrArg List.length hrest
      rw [hframe] at hlength
      simp only [List.length_append, length_writeByteArray] at hlength
      omega
    have hwhole := readByteArray_write_append hlen []
    rw [List.append_nil, ← hrest, hframe, List.append_assoc,
      readByteArray_write_append hfront] at hwhole
    exact .inr (Prod.mk.inj hwhole).1

/-! ## Pieces of a stream against its frames

A stream that is cut into pieces, each of which begins with the frame it is to hold, has been cut
at the frames. -/

/-- Lists that are longer piece by piece are longer as a whole. -/
theorem length_flatten_le_of_forall₂ {α : Type} {xs ys : List (List α)}
    (h : List.Forall₂ (fun x y => y.length ≤ x.length) xs ys) :
    ys.flatten.length ≤ xs.flatten.length := by
  induction h with
  | nil => exact Nat.le_refl _
  | cons hxy _ ih =>
    simp only [List.flatten_cons, List.length_append]
    exact Nat.add_le_add hxy ih

/-- Pieces that are each at least as long as their frame, and together make up the frames, are the
frames: a byte too many in some piece would be missing at the end. -/
theorem eq_of_forall₂_length_le {α : Type} {xs ys : List (List α)}
    (h : List.Forall₂ (fun x y => y.length ≤ x.length) xs ys) (hcat : xs.flatten = ys.flatten) :
    xs = ys := by
  induction h with
  | nil => rfl
  | @cons x y xs ys hxy hrest ih =>
    have hle := length_flatten_le_of_forall₂ hrest
    rw [List.flatten_cons, List.flatten_cons] at hcat
    have hlength : x.length = y.length := by
      have hlen := congrArg List.length hcat
      simp only [List.length_append] at hlen
      omega
    obtain ⟨rfl, htail⟩ := List.append_inj hcat hlength
    rw [ih htail]

end Qt
