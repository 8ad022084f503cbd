import SubDocAgent.Bytes

/-!
# Go outcomes, slice operations and `int`

A Go function of the agent either returns normally, returns an error early (`return nil,
ErrInvalidArgs`), or panics: indexing or slicing out of range is a runtime panic, which takes the
client down. `Go` records which of the three happened, and the slice operations below panic
exactly where Go's runtime checks fail; a slice's capacity is its length, since every buffer is
made by `make` or is the value of a packet read whole. `int` is 32 or 64 bits wide depending on
the platform, and `IntWidth.wrap` is the two's complement wrap-around of its arithmetic.
-/

namespace SubDocAgent

/-- The status code of a response. -/
abbrev StatusCode := UInt16

/-- The errors the sub-document operations return or pass to their callbacks. -/
inductive AgentError where
  /-- `ErrInvalidArgs`. -/
  | invalidArgs
  /-- `ErrProtocol`: the server's reply could not be decoded. -/
  | protocol
  /-- `ErrSubDocBadMulti`: one operation of a multi-operation request failed. -/
  | subDocBadMulti
  /-- `SubDocMutateError{Err, OpIndex}`. -/
  | subDocMutate (err : Option AgentError) (opIndex : Nat)
  /-- A key-value error `getMemdError` gives for a status code. -/
  | memd (status : StatusCode)

/-- How a Go computation ends. -/
inductive Go (α : Type) where
  | ok (a : α)
  | err (e : AgentError)
  | panic

namespace Go

instance : Monad Go where
  pure := .ok
  bind x f := match x with
    | .ok a => f a
    | .err e => .err e
    | .panic => .panic

variable {α β : Type}

@[simp] theorem pure_eq (a : α) : (pure a : Go α) = .ok a := rfl
@[simp] theorem ok_bind (a : α) (f : α → Go β) : (Go.ok a >>= f) = f a := rfl
@[simp] theorem err_bind (e : AgentError) (f : α → Go β) : (Go.err e >>= f) = .err e := rfl
@[simp] theorem panic_bind (f : α → Go β) : (Go.panic >>= f) = .panic := rfl

theorem bind_eq_ok {x : Go α} {f : α → Go β} {b : β} (h : (x >>= f) = .ok b) :
    ∃ a, x = .ok a ∧ f a = .ok b := by
  cases x with
  | ok a => exact ⟨a, rfl, h⟩
  | err e => cases h
  | panic => cases h

/-- `x` panics or returns a value that satisfies `P`: what a computation is known to do when
it has no early error return. -/
def PanicsOr (x : Go α) (P : α → Prop) : Prop := x = .panic ∨ ∃ a, x = .ok a ∧ P a

theorem PanicsOr.bind {x : Go α} {P : α → Prop} {f : α → Go β} {Q : β → Prop}
    (hx : x.PanicsOr P) (hf : ∀ a, P a → (f a).PanicsOr Q) : (x >>= f).PanicsOr Q := by
  rcases hx with rfl | ⟨a, rfl, ha⟩
  · exact .inl rfl
  · exact hf a ha

theorem PanicsOr.pure {P : α → Prop} {a : α} (h : P a) : (pure a : Go α).PanicsOr P :=
  .inr ⟨a, rfl, h⟩

/-- `make([]byte, n)`: a negative length panics. -/
def makeBytes (n : Int) : Go Bytes := if 0 ≤ n then .ok (zeros n.toNat) else .panic

theorem makeBytes_natCast (n : Nat) : makeBytes n = .ok (zeros n) := by
  simp [makeBytes]

theorem makeBytes_neg {n : Int} (h : n < 0) : makeBytes n = .panic := if_neg (by omega)

theorem makeBytes_of_nonneg {n : Int} (h : 0 ≤ n) : makeBytes n = .ok (zeros n.toNat) := if_pos h

/-- `b[i]`. -/
def index (b : Bytes) (i : Nat) : Go UInt8 :=
  match b[i]? with
  | some x => .ok x
  | none => .panic

/-- `b[lo:hi]`. -/
def slice (b : Bytes) (lo hi : Nat) : Go Bytes :=
  if lo ≤ hi ∧ hi ≤ b.length then .ok ((b.drop lo).take (hi - lo)) else .panic

/-- `binary.BigEndian.Uint16(b[off:])`. -/
def uint16At (b : Bytes) (off : Nat) : Go StatusCode :=
  match takeBe 2 (b.drop off) with
  | some (v, _) => .ok (UInt16.ofNat v)
  | none => .panic

/-- `binary.BigEndian.Uint32(b[off:])`. -/
def uint32At (b : Bytes) (off : Nat) : Go UInt32 :=
  match takeBe 4 (b.drop off) with
  | some (v, _) => .ok (UInt32.ofNat v)
  | none => .panic

/-- Writes `src` whole at offset `off`, panicking unless it fits. -/
def write (b : Bytes) (off : Nat) (src : Bytes) : Go Bytes :=
  if off + src.length ≤ b.length then .ok (overwrite b off src) else .panic

/-- `b[i] = x`. -/
def setIndex (b : Bytes) (i : Nat) (x : UInt8) : Go Bytes := write b i [x]

/-- `binary.BigEndian.PutUint16(b[off:], v)`. -/
def putUint16 (b : Bytes) (off : Nat) (v : UInt16) : Go Bytes := write b off (be16 v)

/-- `binary.BigEndian.PutUint32(b[off:], v)`. -/
def putUint32 (b : Bytes) (off : Nat) (v : UInt32) : Go Bytes := write b off (be32 v)

/-- `copy(dst[off:], src)`: copies as much of `src` as fits. -/
def copyInto (dst : Bytes) (off : Nat) (src : Bytes) : Go Bytes :=
  if off ≤ dst.length then .ok (overwrite dst off (src.take (dst.length - off))) else .panic

/-- `xs[i].f = ...`: updates one element of a slice, panicking unless `i` is in range. -/
def update (xs : List α) (i : Nat) (f : α → α) : Go (List α) :=
  if i < xs.length then .ok (xs.modify f i) else .panic

theorem update_of_lt {xs : List α} {i : Nat} (f : α → α) (h : i < xs.length) :
    update xs i f = .ok (xs.modify f i) :=
  if_pos h

theorem update_of_le {xs : List α} {i : Nat} (f : α → α) (h : xs.length ≤ i) :
    update xs i f = .panic :=
  if_neg (by omega)

/-- A Go `int` used as an index: a negative one panics. -/
def natIndex (i : Int) : Go Nat := if 0 ≤ i then .ok i.toNat else .panic

@[simp] theorem natIndex_ofNat (n : Nat) : natIndex n = .ok n := by
  simp [natIndex]

theorem natIndex_neg {i : Int} (h : i < 0) : natIndex i = .panic := if_neg (by omega)

theorem natIndex_of_nonneg {i : Int} (h : 0 ≤ i) : natIndex i = .ok i.toNat := if_pos h

theorem slice_of_gt {b : Bytes} {lo hi : Nat} (h : hi < lo) : slice b lo hi = .panic :=
  if_neg (by omega)

theorem slice_of_le {b : Bytes} {lo hi : Nat} (h1 : lo ≤ hi) (h2 : hi ≤ b.length) :
    slice b lo hi = .ok ((b.drop lo).take (hi - lo)) :=
  if_pos ⟨h1, h2⟩

theorem uint16At_of_le {b : Bytes} {off : Nat} (h : off + 2 ≤ b.length) :
    uint16At b off = .ok (UInt16.ofNat (beNat ((b.drop off).take 2))) := by
  rw [uint16At, takeBe, if_pos (by simp; omega)]

theorem uint16At_of_lt {b : Bytes} {off : Nat} (h : b.length < off + 2) :
    uint16At b off = .panic := by
  rw [uint16At, takeBe, if_neg (by simp; omega)]

theorem uint32At_of_lt {b : Bytes} {off : Nat} (h : b.length < off + 4) :
    uint32At b off = .panic := by
  rw [uint32At, takeBe, if_neg (by simp; omega)]

theorem uint32At_of_le {b : Bytes} {off : Nat} (h : off + 4 ≤ b.length) :
    uint32At b off = .ok (UInt32.ofNat (beNat ((b.drop off).take 4))) := by
  rw [uint32At, takeBe, if_pos (by simp; omega)]

/-- A write at the end of what is written so far, into the zero-filled rest of a buffer. -/
theorem write_cursor {done src : Bytes} {off k : Nat} (hoff : off = done.length)
    (hk : src.length ≤ k) :
    write (done ++ zeros k) off src = .ok ((done ++ src) ++ zeros (k - src.length)) := by
  subst hoff
  rw [write, if_pos (by simp; omega), overwrite_zeros]

theorem copyInto_cursor {done src : Bytes} {off k : Nat} (hoff : off = done.length)
    (hk : src.length ≤ k) :
    copyInto (done ++ zeros k) off src = .ok ((done ++ src) ++ zeros (k - src.length)) := by
  subst hoff
  have hsrc : src.take ((done ++ zeros k).length - done.length) = src :=
    List.take_of_length_le (by simp; omega)
  rw [copyInto, if_pos (by simp), hsrc, overwrite_zeros]

theorem slice_append (pre mid post : Bytes) :
    slice (pre ++ mid ++ post) pre.length (pre.length + mid.length) = .ok mid := by
  rw [slice, if_pos (by simp)]
  simp [List.drop_append_eq_append_drop, List.take_append_eq_append_take]

theorem uint16At_append (pre post : Bytes) (v : UInt16) :
    uint16At (pre ++ be16 v ++ post) pre.length = .ok v := by
  simp [uint16At, List.drop_append_eq_append_drop, beNat_be16, uint16_ofNat_toNat]

theorem uint32At_append (pre post : Bytes) (v : UInt32) :
    uint32At (pre ++ be32 v ++ post) pre.length = .ok v := by
  simp [uint32At, List.drop_append_eq_append_drop, beNat_be32, uint32_ofNat_toNat]

/-! What each write does whatever the buffer: it panics, or keeps the buffer's length and shows
that the bytes it needed were there. -/

theorem write_panicsOr (b : Bytes) (off : Nat) (src : Bytes) :
    (write b off src).PanicsOr fun b' => b'.length = b.length ∧ off + src.length ≤ b.length := by
  unfold write
  split_ifs with h
  · exact .inr ⟨_, rfl, overwrite_length h, h⟩
  · exact .inl rfl

theorem setIndex_panicsOr (b : Bytes) (i : Nat) (x : UInt8) :
    (setIndex b i x).PanicsOr fun b' => b'.length = b.length ∧ i + 1 ≤ b.length :=
  write_panicsOr b i [x]

theorem putUint16_panicsOr (b : Bytes) (off : Nat) (v : UInt16) :
    (putUint16 b off v).PanicsOr fun b' => b'.length = b.length ∧ off + 2 ≤ b.length := by
  simpa only [be16_length] using write_panicsOr b off (be16 v)

theorem putUint32_panicsOr (b : Bytes) (off : Nat) (v : UInt32) :
    (putUint32 b off v).PanicsOr fun b' => b'.length = b.length ∧ off + 4 ≤ b.length := by
  simpa only [be32_length] using write_panicsOr b off (be32 v)

theorem copyInto_panicsOr (dst : Bytes) (off : Nat) (src : Bytes) :
    (copyInto dst off src).PanicsOr fun b' => b'.length = dst.length ∧ off ≤ dst.length := by
  unfold copyInto
  split_ifs with h
  · exact .inr ⟨_, rfl, overwrite_length (by simp; omega), h⟩
  · exact .inl rfl

end Go

/-- The width of Go's `int` on the platform the client runs on. -/
inductive IntWidth where
  | w32
  | w64
  deriving DecidableEq, Repr

namespace IntWidth

/-- The number of bits of `int`. -/
def bits : IntWidth → Nat
  | w32 => 32
  | w64 => 64

/-- `x` wrapped into the range of `int`, as its arithmetic and `int(...)` conversions do: the
residue of `x` modulo `2 ^ bits`, less `2 ^ bits` when it is past the largest `int`. -/
@[irreducible] def wrap (w : IntWidth) (x : Int) : Int :=
  let r := (x % 2 ^ w.bits).toNat
  if r < 2 ^ (w.bits - 1) then r else r - 2 ^ w.bits

/-- On a 64-bit platform every value met here is below `2 ^ 63` and nothing wraps. -/
theorem wrap_w64 {x : Int} (h0 : 0 ≤ x) (h : x < 2 ^ 63) : w64.wrap x = x := by
  rw [wrap, bits]
  split_ifs <;> omega

/-- On a 32-bit platform a value in the range of `int` is left as it is. -/
theorem wrap_w32 {x : Int} (h0 : -2 ^ 31 ≤ x) (h : x < 2 ^ 31) : w32.wrap x = x := by
  rw [wrap, bits]
  split_ifs <;> omega

/-- On a 32-bit platform `int(x)` of a `uint32` with its top bit set is negative. -/
theorem wrap_w32_of_ge {n : Nat} (h0 : 2 ^ 31 ≤ n) (h : n < 2 ^ 32) :
    w32.wrap n = n - 2 ^ 32 := by
  rw [wrap, bits]
  split_ifs <;> omega

theorem wrap_w64_natCast {x : Int} {n : Nat} (h : x = n) (hn : n < 2 ^ 63) : w64.wrap x = n := by
  subst h
  exact wrap_w64 (by omega) (by omega)

theorem wrap_w32_natCast {n : Nat} (hn : n < 2 ^ 31) : w32.wrap n = n :=
  wrap_w32 (by omega) (by omega)

/-- On a 32-bit platform a sum that passes the largest `int` by less than `2 ^ 32` wraps once. -/
theorem wrap_w32_sub {x : Int} (h0 : 2 ^ 31 ≤ x) (h : x < 2 ^ 32 + 2 ^ 31) :
    w32.wrap x = x - 2 ^ 32 := by
  rw [wrap, bits]
  split_ifs <;> omega

/-! Facts for either width. -/

variable (w : IntWidth)

theorem two_pow_bits : 2 ^ w.bits = 2 * 2 ^ (w.bits - 1) := by
  cases w <;> rfl

theorem two_pow_32_le : (2 : Int) ^ 32 ≤ 2 ^ w.bits := by
  cases w <;> decide

theorem two_pow_31_le : 2 ^ 31 ≤ 2 ^ (w.bits - 1) := by
  cases w <;> decide

theorem wrap_lt (x : Int) : w.wrap x < 2 ^ (w.bits - 1) := by
  cases w <;> (rw [wrap]; simp only [bits]; split_ifs <;> omega)

theorem wrap_of_lt {x : Int} (h0 : 0 ≤ x) (h : x < 2 ^ (w.bits - 1)) : w.wrap x = x := by
  cases w <;> (rw [wrap]; simp only [bits] at h ⊢; split_ifs <;> omega)

/-- A total at or past `2 ^ (bits - 1)` wraps to a negative `int`, or to one at least
`2 ^ bits` below it. -/
theorem wrap_of_half_le {x : Int} (h : 2 ^ (w.bits - 1) ≤ x) :
    w.wrap x < 0 ∨ 0 ≤ w.wrap x ∧ w.wrap x + 2 ^ w.bits ≤ x := by
  cases w <;> (rw [wrap]; simp only [bits] at h ⊢; split_ifs <;> omega)

/-- Wrapping a partial sum does not change the wrapped total. -/
theorem wrap_add_wrap (a b : Int) : w.wrap (w.wrap a + b) = w.wrap (a + b) := by
  cases w <;> (simp only [wrap, bits]; split_ifs <;> omega)

theorem add_wrap (a b : Int) : w.wrap (a + w.wrap b) = w.wrap (a + b) := by
  rw [Int.add_comm, wrap_add_wrap, Int.add_comm]

/-- `total := 0; for ... { total += x }` over `int`s. -/
def sum (xs : List Nat) : Int := xs.foldl (fun (total : Int) (x : Nat) => w.wrap (total + x)) 0

theorem sum_eq (xs : List Nat) : w.sum xs = w.wrap xs.sum := by
  suffices h : ∀ t, xs.foldl (fun (total : Int) (x : Nat) => w.wrap (total + x)) (w.wrap t) =
      w.wrap (t + xs.sum)
    by simpa [wrap_of_lt w (le_refl 0) (by cases w <;> decide)] using h 0
  induction xs with
  | nil => simp
  | cons x xs ih =>
    intro t
    rw [List.foldl_cons, wrap_add_wrap, ih, List.sum_cons, Nat.cast_add, Int.add_assoc]

theorem wrap_add_sum (a : Nat) (xs : List Nat) :
    w.wrap (w.wrap a + w.sum xs) = w.wrap ↑(a + xs.sum) := by
  rw [sum_eq, wrap_add_wrap, add_wrap, Nat.cast_add]

end IntWidth

end SubDocAgent
