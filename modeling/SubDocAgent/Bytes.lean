import Mathlib

/-!
# Byte strings and big-endian fields

Go's `[]byte` and `string` are both modelled as `Bytes`, a list of bytes: the sub-document
operations only take the length of a string and copy its bytes. This file gives the
big-endian fields the operations write (`binary.BigEndian.PutUint16`, `PutUint32`) and read
(`Uint16`, `Uint32`, `Uint64`), `PutUint64` with which a server writes a mutation token, and
`overwrite`, the in-place write of a slice into a zero-filled buffer that every encoder is made
of.
-/

namespace SubDocAgent

/-- A Go byte slice or string. -/
abbrev Bytes := List UInt8

/-- The `k` big-endian bytes of `n` modulo `256 ^ k`: what `PutUint16` (`k = 2`) and
`PutUint32` (`k = 4`) write, `byte(v >> 8)` before `byte(v)`. -/
def beBytes : Nat → Nat → Bytes
  | 0, _ => []
  | k + 1, n => beBytes k (n / 256) ++ [UInt8.ofNat n]

/-- The number a big-endian byte string stands for, as `binary.BigEndian.Uint16` and its
siblings compute it. -/
def beNat (bs : Bytes) : Nat := bs.foldl (fun acc b => acc * 256 + b.toNat) 0

/-- Reads a `k`-byte big-endian field from the front of `b`, returning the rest. -/
def takeBe (k : Nat) (b : Bytes) : Option (Nat × Bytes) :=
  if k ≤ b.length then some (beNat (b.take k), b.drop k) else none

/-- The two bytes `binary.BigEndian.PutUint16` writes. -/
def be16 (v : UInt16) : Bytes := beBytes 2 v.toNat

/-- The four bytes `binary.BigEndian.PutUint32` writes. -/
def be32 (v : UInt32) : Bytes := beBytes 4 v.toNat

/-- The eight bytes `binary.BigEndian.PutUint64` writes. -/
def be64 (v : UInt64) : Bytes := beBytes 8 v.toNat

/-- `b` with the bytes from offset `off` on replaced by `src`: what a Go write of `src` into
`b[off:]` leaves when `src` fits. -/
def overwrite (b : Bytes) (off : Nat) (src : Bytes) : Bytes :=
  b.take off ++ src ++ b.drop (off + src.length)

/-- A zero-filled buffer, `make([]byte, n)`. -/
def zeros (n : Nat) : Bytes := List.replicate n 0

@[simp] theorem beBytes_length (k n : Nat) : (beBytes k n).length = k := by
  induction k generalizing n with
  | zero => rfl
  | succ k ih => simp [beBytes, ih]

@[simp] theorem be16_length (v : UInt16) : (be16 v).length = 2 := beBytes_length 2 _

@[simp] theorem be32_length (v : UInt32) : (be32 v).length = 4 := beBytes_length 4 _

@[simp] theorem be64_length (v : UInt64) : (be64 v).length = 8 := beBytes_length 8 _

@[simp] theorem beNat_nil : beNat [] = 0 := rfl

theorem beNat_append_single (bs : Bytes) (b : UInt8) :
    beNat (bs ++ [b]) = beNat bs * 256 + b.toNat := by
  simp [beNat, List.foldl_append]

theorem uint8_toNat_ofNat (n : Nat) : (UInt8.ofNat n).toNat = n % 256 := by
  simp [UInt8.toNat, UInt8.ofNat]

/-- Reading back what `beBytes` wrote gives the number modulo the field's range. -/
theorem beNat_beBytes (k n : Nat) : beNat (beBytes k n) = n % 256 ^ k := by
  induction k generalizing n with
  | zero => simp [beBytes, Nat.mod_one]
  | succ k ih =>
    rw [beBytes, beNat_append_single, ih, uint8_toNat_ofNat, Nat.pow_succ', Nat.mod_mul,
      Nat.mul_comm, Nat.add_comm]

theorem beNat_lt (bs : Bytes) : beNat bs < 256 ^ bs.length := by
  induction bs using List.reverseRecOn with
  | nil => simp
  | append_singleton bs b ih =>
    rw [beNat_append_single, List.length_append, List.length_singleton, Nat.pow_succ]
    have hb : b.toNat < 256 := b.toNat_lt_size
    have := Nat.mul_le_mul_right 256 (Nat.succ_le_of_lt ih)
    rw [Nat.succ_mul] at this
    omega

theorem beNat_take_lt (k : Nat) (b : Bytes) : beNat (b.take k) < 256 ^ k :=
  (beNat_lt _).trans_le (Nat.pow_le_pow_right (by norm_num) (List.length_take_le _ _))

@[simp] theorem takeBe_append {k : Nat} {bs : Bytes} (rest : Bytes) (h : bs.length = k) :
    takeBe k (bs ++ rest) = some (beNat bs, rest) := by
  subst h
  simp [takeBe]

theorem takeBe_eq_some {k : Nat} {b rest : Bytes} {n : Nat} (h : takeBe k b = some (n, rest)) :
    b = b.take k ++ rest ∧ (b.take k).length = k ∧ n = beNat (b.take k) := by
  unfold takeBe at h
  split at h
  · cases h
    exact ⟨(List.take_append_drop k b).symm, List.length_take_of_le ‹_›, rfl⟩
  · cases h

theorem takeBe_suffix {k : Nat} {b rest : Bytes} {n : Nat} (h : takeBe k b = some (n, rest)) :
    rest <:+ b :=
  ⟨b.take k, (takeBe_eq_some h).1.symm⟩

theorem be16_eq (v : UInt16) : be16 v = [UInt8.ofNat (v.toNat / 256), UInt8.ofNat v.toNat] := rfl

theorem beNat_be16 (v : UInt16) : beNat (be16 v) = v.toNat := by
  rw [be16, beNat_beBytes]
  exact Nat.mod_eq_of_lt v.toNat_lt_size

theorem beNat_be32 (v : UInt32) : beNat (be32 v) = v.toNat := by
  rw [be32, beNat_beBytes]
  exact Nat.mod_eq_of_lt v.toNat_lt_size

theorem beNat_be64 (v : UInt64) : beNat (be64 v) = v.toNat := by
  rw [be64, beNat_beBytes]
  exact Nat.mod_eq_of_lt v.toNat_lt_size

@[simp] theorem uint16_toNat_ofNat (n : Nat) : (UInt16.ofNat n).toNat = n % 2 ^ 16 := by
  simp [UInt16.toNat, UInt16.ofNat]

@[simp] theorem uint32_toNat_ofNat (n : Nat) : (UInt32.ofNat n).toNat = n % 2 ^ 32 := by
  simp [UInt32.toNat, UInt32.ofNat]

theorem uint16_ofNat_toNat (v : UInt16) : UInt16.ofNat v.toNat = v :=
  UInt16.toNat.inj (by simp [Nat.mod_eq_of_lt v.toNat_lt_size])

theorem uint32_ofNat_toNat (v : UInt32) : UInt32.ofNat v.toNat = v :=
  UInt32.toNat.inj (by simp [Nat.mod_eq_of_lt v.toNat_lt_size])

theorem uint64_ofNat_toNat (v : UInt64) : UInt64.ofNat v.toNat = v :=
  UInt64.toNat.inj (by simp [UInt64.toNat, UInt64.ofNat, Nat.mod_eq_of_lt v.toNat_lt_size])

theorem uint32_eq_ofNat {a : UInt32} {n : Nat} (h : a.toNat = n) : a = UInt32.ofNat n :=
  h ▸ (uint32_ofNat_toNat a).symm

theorem beNat_be16_ofNat {n : Nat} (h : n < 2 ^ 16) : beNat (be16 (UInt16.ofNat n)) = n := by
  rw [beNat_be16, uint16_toNat_ofNat, Nat.mod_eq_of_lt h]

theorem beNat_be32_ofNat {n : Nat} (h : n < 2 ^ 32) : beNat (be32 (UInt32.ofNat n)) = n := by
  rw [beNat_be32, uint32_toNat_ofNat, Nat.mod_eq_of_lt h]

@[simp] theorem zeros_length (n : Nat) : (zeros n).length = n := List.length_replicate n 0

@[simp] theorem overwrite_length {b : Bytes} {off : Nat} {src : Bytes}
    (h : off + src.length ≤ b.length) : (overwrite b off src).length = b.length := by
  simp [overwrite]
  omega

/-- Writing at the end of what is already written into a zero-filled tail appends. -/
theorem overwrite_zeros (done src : Bytes) (m : Nat) :
    overwrite (done ++ zeros m) done.length src = (done ++ src) ++ zeros (m - src.length) := by
  simp [overwrite, zeros, List.drop_append_eq_append_drop, List.drop_replicate]

end SubDocAgent
