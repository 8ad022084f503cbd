import SubDocAgent.Wire

/-!
# Multi-path requests

`SubDocLookup` and `SubDocMutate` add up their operations' lengths in Go `int`s, `make` a buffer
of that size, and check each operation and write its entry at a running offset (`encodeLoop`).
While the total stays below `2 ^ (bits - 1)` the buffer ends as the concatenation of the entries
(`subDocLookup_eq`, `subDocMutate_eq`). Past it the total wraps, and the request panics in `make`
or in a write past the end of the buffer (`encodeLoop_panic`). The length fields are written
through `uint16(...)` and `uint32(...)` unchecked.
-/

namespace SubDocAgent

/-- `for _, op := range ops { ... }` over the buffer and the offset the encoding loops carry. -/
def encodeLoop (body : Bytes → Nat → SubDocOp → Go (Bytes × Nat)) :
    List SubDocOp → Bytes → Nat → Go Bytes
  | [], valueBuf, _ => pure valueBuf
  | op :: ops, valueBuf, valueIter => do
    let (valueBuf, valueIter) ← body valueBuf valueIter op
    encodeLoop body ops valueBuf valueIter

/-- The whole loop from what one iteration does at the cursor: it writes the concatenation
of the entries, or stops with `ErrInvalidArgs` at the first operation that fails the check. -/
theorem encodeLoop_cursor {body : Bytes → Nat → SubDocOp → Go (Bytes × Nat)}
    {valid : SubDocOp → Prop} [DecidablePred valid] {enc : SubDocOp → Bytes}
    (hbody : ∀ done op m, body (done ++ zeros ((enc op).length + m)) done.length op =
      if valid op then .ok (done ++ enc op ++ zeros m, (done ++ enc op).length)
      else .err .invalidArgs)
    (ops : List SubDocOp) (done : Bytes) :
    encodeLoop body ops (done ++ zeros (ops.map fun op => (enc op).length).sum) done.length =
      if ∀ op ∈ ops, valid op then .ok (done ++ (ops.map enc).flatten)
      else .err .invalidArgs := by
  induction ops generalizing done with
  | nil => simp [encodeLoop, zeros]
  | cons op ops ih =>
    rw [List.map_cons, List.sum_cons, encodeLoop, hbody]
    by_cases h : valid op
    · have hrest := ih (done ++ enc op)
      simp only [List.append_assoc, List.length_append] at hrest
      simp [h, hrest]
    · simp [h]

/-- Once the entries still to write overrun the buffer by `D`, more than the last field of any
entry (the one `copy` may cut short), the loop panics: every step either panics or moves the
cursor past its entry, with all of the entry but that field inside the buffer. -/
theorem encodeLoop_panic {body : Bytes → Nat → SubDocOp → Go (Bytes × Nat)}
    {valid : SubDocOp → Prop} {len tail : SubDocOp → Nat}
    (hbody : ∀ buf c op, valid op → (body buf c op).PanicsOr fun r =>
      r.1.length = buf.length ∧ r.2 = c + len op ∧ c + len op ≤ buf.length + tail op)
    (D : Nat) (ops : List SubDocOp) (hvalid : ∀ op ∈ ops, valid op)
    (htail : ∀ op ∈ ops, tail op < D) (buf : Bytes) (c : Nat) (hc : c < buf.length + D)
    (hover : buf.length + D ≤ c + (ops.map len).sum) :
    encodeLoop body ops buf c = .panic := by
  induction ops generalizing buf c with
  | nil => simp only [List.map_nil, List.sum_nil] at hover; omega
  | cons op ops ih =>
    rw [List.forall_mem_cons] at hvalid htail
    rw [List.map_cons, List.sum_cons] at hover
    rcases hbody buf c op hvalid.1 with h | ⟨⟨buf', c'⟩, h, hlen, hc', hfit⟩
    · rw [encodeLoop, h]
      rfl
    · dsimp only at hlen hc' hfit
      rw [encodeLoop, h, Go.ok_bind]
      exact ih hvalid.2 htail.2 buf' c' (by omega) (by omega)

theorem encodeLoop_ne_ok {body : Bytes → Nat → SubDocOp → Go (Bytes × Nat)}
    {valid : SubDocOp → Prop} (hinvalid : ∀ buf c op, ¬ valid op → body buf c op = .err .invalidArgs)
    {ops : List SubDocOp} (h : ¬ ∀ op ∈ ops, valid op) (buf : Bytes) (c : Nat) (r : Bytes) :
    encodeLoop body ops buf c ≠ .ok r := by
  induction ops generalizing buf c with
  | nil => exact absurd (fun _ h => by cases h) h
  | cons op ops ih =>
    rw [encodeLoop]
    by_cases hop : valid op
    · have hrest : ¬ ∀ op ∈ ops, valid op := fun h' => h (List.forall_mem_cons.mpr ⟨hop, h'⟩)
      cases hb : body buf c op with
      | ok bc => exact ih hrest bc.1 bc.2
      | err e => exact fun h => by cases h
      | panic => exact fun h => by cases h
    · rw [hinvalid buf c op hop]
      exact fun h => by cases h

/-- A buffer that `make` sizes by a total of `2 ^ (bits - 1)` bytes or more, computed in `int`,
and that the loop then fills with valid entries: the size wraps negative and `make` panics, or
it wraps to a buffer the entries overrun by `2 ^ bits`, and the loop panics. -/
theorem makeBytes_encodeLoop_panic (W : IntWidth) {body : Bytes → Nat → SubDocOp → Go (Bytes × Nat)}
    {valid : SubDocOp → Prop} {len tail : SubDocOp → Nat}
    (hbody : ∀ buf c op, valid op → (body buf c op).PanicsOr fun r =>
      r.1.length = buf.length ∧ r.2 = c + len op ∧ c + len op ≤ buf.length + tail op)
    (ops : List SubDocOp) (hvalid : ∀ op ∈ ops, valid op)
    (htail : ∀ op ∈ ops, tail op < 2 ^ W.bits) (hbig : 2 ^ (W.bits - 1) ≤ (ops.map len).sum)
    {β : Type} (k : Bytes → Go β) :
    (Go.makeBytes (W.wrap ↑(ops.map len).sum) >>= fun buf => encodeLoop body ops buf 0 >>= k) =
      .panic := by
  rcases W.wrap_of_half_le (x := ↑(ops.map len).sum) (by exact_mod_cast hbig) with
    hneg | ⟨hnn, hover⟩
  · rw [Go.makeBytes_neg hneg]
    rfl
  · have hpow : ((2 ^ W.bits : Nat) : Int) = 2 ^ W.bits := by push_cast; rfl
    rw [Go.makeBytes_of_nonneg hnn, Go.ok_bind, encodeLoop_panic hbody (2 ^ W.bits) ops hvalid
      htail _ 0 (by rw [zeros_length]; positivity) (by rw [zeros_length]; omega)]
    rfl

/-! ### `SubDocLookup` -/

def SubDocOp.toLookupEntry (op : SubDocOp) : LookupEntry := ⟨op.op, op.flags, op.path⟩

/-- `SubDocLookup`'s test that an operation is neither a get nor an exists. -/
def notLookupOp (K : MemdConsts) (op : SubDocOpType) : Bool :=
  op != K.subDocOpGet && op != K.subDocOpExists

theorem notLookupOp_eq_false (K : MemdConsts) (op : SubDocOpType) :
    notLookupOp K op = false ↔ op ∈ K.lookupOps := by
  simp only [notLookupOp, MemdConsts.lookupOps, Bool.and_eq_false_iff, bne_eq_false_iff_eq,
    List.mem_cons, List.mem_singleton, List.not_mem_nil, or_false]

/-- One iteration of `SubDocLookup`'s encoding loop. -/
def subDocLookupWriteOp (K : MemdConsts) (valueBuf : Bytes) (valueIter : Nat) (op : SubDocOp) :
    Go (Bytes × Nat) :=
  if notLookupOp K op.op then .err .invalidArgs
  else if op.value.isSome then .err .invalidArgs
  else do
    let pathBytes := op.path
    let pathBytesLen := pathBytes.length
    let valueBuf ← Go.setIndex valueBuf (valueIter + 0) op.op
    let valueBuf ← Go.setIndex valueBuf (valueIter + 1) op.flags
    let valueBuf ← Go.putUint16 valueBuf (valueIter + 2) (UInt16.ofNat pathBytesLen)
    let valueBuf ← Go.copyInto valueBuf (valueIter + 4) pathBytes
    pure (valueBuf, valueIter + 4 + pathBytesLen)

/-- `SubDocLookup`'s request on a platform whose `int` is `W`: `.ok` is the packet it
dispatches. -/
def subDocLookup (W : IntWidth) (K : MemdConsts) (key : Bytes) (ops : List SubDocOp) :
    Go MemdPacket := do
  let pathBytesTotal := W.sum (ops.map fun op => op.path.length)
  let valueBuf ← Go.makeBytes (W.wrap (W.wrap (ops.length * 4 : Nat) + pathBytesTotal))
  let valueBuf ← encodeLoop (subDocLookupWriteOp K) ops valueBuf 0
  pure { magic := K.reqMagic, opcode := K.cmdSubDocMultiLookup, datatype := 0, vbucket := 0,
         cas := 0, extras := [], key := key, value := valueBuf }

/-- An operation `SubDocLookup` accepts. -/
def LookupValid (K : MemdConsts) (op : SubDocOp) : Prop :=
  op.op ∈ K.lookupOps ∧ op.value = none

instance (K : MemdConsts) (op : SubDocOp) : Decidable (LookupValid K op) :=
  inferInstanceAs (Decidable (_ ∧ _))

theorem subDocLookupWriteOp_invalid (K : MemdConsts) (buf : Bytes) (c : Nat) {op : SubDocOp}
    (h : ¬ LookupValid K op) : subDocLookupWriteOp K buf c op = .err .invalidArgs := by
  unfold subDocLookupWriteOp
  split_ifs with h1 h2
  · rfl
  · rfl
  · exact absurd ⟨(notLookupOp_eq_false K op.op).mp (by simpa using h1),
      Option.not_isSome_iff_eq_none.mp h2⟩ h

theorem lookupEntry_write_length (op : SubDocOp) :
    (lookupEntryFormat.write op.toLookupEntry).length = 4 + op.path.length := by
  simp only [lookupEntryFormat, SubDocOp.toLookupEntry, List.length_append, List.length_cons,
    List.length_nil, be16_length]

theorem subDocLookupWriteOp_cursor (K : MemdConsts) (done : Bytes) (op : SubDocOp) (m : Nat) :
    subDocLookupWriteOp K (done ++ zeros ((lookupEntryFormat.write op.toLookupEntry).length + m))
        done.length op =
      if LookupValid K op then
        .ok (done ++ lookupEntryFormat.write op.toLookupEntry ++ zeros m,
          (done ++ lookupEntryFormat.write op.toLookupEntry).length)
      else .err .invalidArgs := by
  rw [lookupEntry_write_length, subDocLookupWriteOp]
  by_cases hop : op.op ∈ K.lookupOps
  · by_cases hnil : op.value = none
    · simp (disch := (try simp only [List.length_append, List.length_cons, List.length_nil,
          be16_length]) <;> omega) only [(notLookupOp_eq_false K op.op).mpr hop, hnil,
        Option.isSome_none, Bool.false_eq_true, if_false, Go.setIndex, Go.putUint16,
        Go.write_cursor, Go.copyInto_cursor, Go.ok_bind, Go.pure_eq]
      simp only [if_pos (show LookupValid K op from ⟨hop, hnil⟩), lookupEntryFormat,
        SubDocOp.toLookupEntry, List.append_assoc, List.singleton_append, List.cons_append,
        List.nil_append, Go.ok.injEq, Prod.mk.injEq, List.append_cancel_left_eq, List.cons.injEq,
        true_and, List.length_append, List.length_cons, List.length_nil, List.length_singleton,
        be16_length]
      constructor
      · congr 1; omega
      · omega
    · simp [LookupValid, hnil, Option.ne_none_iff_isSome.mp hnil,
        (notLookupOp_eq_false K op.op).mpr hop]
  · have hbad : notLookupOp K op.op = true := by simpa [← notLookupOp_eq_false] using hop
    simp [LookupValid, hop, hbad]

theorem subDocLookupWriteOp_panicsOr (K : MemdConsts) (buf : Bytes) (c : Nat) {op : SubDocOp}
    (hv : LookupValid K op) :
    (subDocLookupWriteOp K buf c op).PanicsOr fun r =>
      r.1.length = buf.length ∧ r.2 = c + (lookupEntryFormat.write op.toLookupEntry).length ∧
        c + (lookupEntryFormat.write op.toLookupEntry).length ≤ buf.length + op.path.length := by
  rw [subDocLookupWriteOp, if_neg (by simp [(notLookupOp_eq_false K op.op).mpr hv.1]),
    if_neg (by simp [hv.2]), lookupEntry_write_length]
  exact (Go.setIndex_panicsOr _ _ _).bind fun b1 h1 =>
    (Go.setIndex_panicsOr _ _ _).bind fun b2 h2 =>
    (Go.putUint16_panicsOr _ _ _).bind fun b3 h3 =>
    (Go.copyInto_panicsOr _ _ _).bind fun b4 h4 =>
    Go.PanicsOr.pure (by dsimp only; refine ⟨?_, ?_, ?_⟩ <;> omega)

theorem subDocLookup_size (ops : List SubDocOp) :
    ops.length * 4 + (ops.map fun op => op.path.length).sum =
      (ops.map fun op => (lookupEntryFormat.write op.toLookupEntry).length).sum := by
  induction ops with
  | nil => rfl
  | cons op ops ih =>
    simp only [List.length_cons, List.map_cons, List.sum_cons, lookupEntry_write_length] at ih ⊢
    omega

/-- Below `2 ^ (bits - 1)` bytes, `SubDocLookup` refuses the operations unless each is a get
or an exists with a nil value, and otherwise dispatches the concatenation of their entries. -/
theorem subDocLookup_eq (W : IntWidth) (K : MemdConsts) (key : Bytes) (ops : List SubDocOp)
    (hsize : ops.length * 4 + (ops.map fun op => op.path.length).sum < 2 ^ (W.bits - 1)) :
    subDocLookup W K key ops =
      if ∀ op ∈ ops, LookupValid K op then
        .ok { magic := K.reqMagic, opcode := K.cmdSubDocMultiLookup, datatype := 0, vbucket := 0,
              cas := 0, extras := [], key := key,
              value := lookupEntryFormat.writeAll (ops.map SubDocOp.toLookupEntry) }
      else .err .invalidArgs := by
  have hloop := encodeLoop_cursor (subDocLookupWriteOp_cursor K) ops []
  rw [List.nil_append, List.length_nil, ← subDocLookup_size] at hloop
  rw [subDocLookup, IntWidth.wrap_add_sum, IntWidth.wrap_of_lt W (by omega) (by exact_mod_cast hsize),
    Go.makeBytes_natCast, Go.ok_bind, hloop]
  split_ifs
  · rw [Go.ok_bind, EntryFormat.writeAll, List.map_map]
    rfl
  · rfl

/-- With every operation valid, a lookup whose entries add up to `2 ^ (bits - 1)` bytes or more
panics: the size wraps negative and `make` panics, or it wraps to a buffer the entries overrun. -/
theorem subDocLookup_panic (W : IntWidth) (K : MemdConsts) (key : Bytes) (ops : List SubDocOp)
    (hvalid : ∀ op ∈ ops, LookupValid K op) (hpaths : ∀ op ∈ ops, op.path.length < 2 ^ W.bits)
    (hbig : 2 ^ (W.bits - 1) ≤ ops.length * 4 + (ops.map fun op => op.path.length).sum) :
    subDocLookup W K key ops = .panic := by
  rw [subDocLookup, IntWidth.wrap_add_sum, subDocLookup_size]
  exact makeBytes_encodeLoop_panic W (subDocLookupWriteOp_panicsOr K) ops hvalid hpaths
    (subDocLookup_size ops ▸ hbig) _

/-- The body of a lookup `SubDocLookup` dispatches is its operations' entries. -/
theorem subDocLookup_value {W : IntWidth} {K : MemdConsts} {key : Bytes} {ops : List SubDocOp}
    {pkt : MemdPacket} (h : subDocLookup W K key ops = .ok pkt)
    (hpaths : ∀ op ∈ ops, op.path.length < 2 ^ W.bits) :
    pkt.value = lookupEntryFormat.writeAll (ops.map SubDocOp.toLookupEntry) := by
  by_cases hsize : ops.length * 4 + (ops.map fun op => op.path.length).sum < 2 ^ (W.bits - 1)
  · rw [subDocLookup_eq W K key ops hsize] at h
    split_ifs at h
    cases h
    rfl
  · by_cases hvalid : ∀ op ∈ ops, LookupValid K op
    · rw [subDocLookup_panic W K key ops hvalid hpaths (by omega)] at h
      cases h
    · obtain ⟨buf, -, h⟩ := Go.bind_eq_ok h
      obtain ⟨vb, hloop, -⟩ := Go.bind_eq_ok h
      exact absurd hloop (encodeLoop_ne_ok (subDocLookupWriteOp_invalid K) hvalid buf 0 vb)

/-! ### `SubDocMutate` -/

def SubDocOp.toMutateEntry (op : SubDocOp) : MutateEntry :=
  ⟨op.op, op.flags, op.path, op.valueBytes⟩

/-- `SubDocMutate`'s test that an operation is none of the nine mutations. -/
def notMutationOp (K : MemdConsts) (op : SubDocOpType) : Bool :=
  op != K.subDocOpDictAdd && op != K.subDocOpDictSet && op != K.subDocOpDelete &&
    op != K.subDocOpReplace && op != K.subDocOpArrayPushLast &&
    op != K.subDocOpArrayPushFirst && op != K.subDocOpArrayInsert &&
    op != K.subDocOpArrayAddUnique && op != K.subDocOpCounter

theorem notMutationOp_eq_false (K : MemdConsts) (op : SubDocOpType) :
    notMutationOp K op = false ↔ op ∈ K.mutationOps := by
  simp only [notMutationOp, MemdConsts.mutationOps, Bool.and_eq_false_iff, bne_eq_false_iff_eq,
    List.mem_cons, List.mem_singleton, List.not_mem_nil, or_false, or_assoc]

/-- One iteration of `SubDocMutate`'s encoding loop. -/
def subDocMutateWriteOp (K : MemdConsts) (valueBuf : Bytes) (valueIter : Nat) (op : SubDocOp) :
    Go (Bytes × Nat) :=
  if notMutationOp K op.op then .err .invalidArgs
  else do
    let pathBytes := op.path
    let pathBytesLen := pathBytes.length
    let valueBytesLen := op.valueBytes.length
    let valueBuf ← Go.setIndex valueBuf (valueIter + 0) op.op
    let valueBuf ← Go.setIndex valueBuf (valueIter + 1) op.flags
    let valueBuf ← Go.putUint16 valueBuf (valueIter + 2) (UInt16.ofNat pathBytesLen)
    let valueBuf ← Go.putUint32 valueBuf (valueIter + 4) (UInt32.ofNat valueBytesLen)
    let valueBuf ← Go.copyInto valueBuf (valueIter + 8) pathBytes
    let valueBuf ← Go.copyInto valueBuf (valueIter + 8 + pathBytesLen) op.valueBytes
    pure (valueBuf, valueIter + 8 + pathBytesLen + valueBytesLen)

/-- The extras of `SubDocMutate`'s request: a 4-byte buffer holding the expiry when there is
one, and nil otherwise. -/
def subDocMutateExtras (expiry : UInt32) : Go Bytes :=
  if expiry != 0 then Go.putUint32 (zeros 4) 0 expiry else pure []

/-- `SubDocMutate`'s request on a platform whose `int` is `W`: `.ok` is the packet it
dispatches. -/
def subDocMutate (W : IntWidth) (K : MemdConsts) (key : Bytes) (ops : List SubDocOp) (cas : Cas)
    (expiry : UInt32) : Go MemdPacket := do
  let pathBytesTotal := W.sum (ops.map fun op => op.path.length)
  let valueBytesTotal := W.sum (ops.map fun op => op.valueBytes.length)
  let valueBuf ← Go.makeBytes
    (W.wrap (W.wrap (W.wrap (ops.length * 8 : Nat) + pathBytesTotal) + valueBytesTotal))
  let valueBuf ← encodeLoop (subDocMutateWriteOp K) ops valueBuf 0
  let extraBuf ← subDocMutateExtras expiry
  pure { magic := K.reqMagic, opcode := K.cmdSubDocMultiMutation, datatype := 0, vbucket := 0,
         cas := cas, extras := extraBuf, key := key, value := valueBuf }

theorem mutateEntry_write_length (op : SubDocOp) :
    (mutateEntryFormat.write op.toMutateEntry).length =
      8 + op.path.length + op.valueBytes.length := by
  simp only [mutateEntryFormat, SubDocOp.toMutateEntry, List.length_append, List.length_cons,
    List.length_nil, be16_length, be32_length]

theorem subDocMutateWriteOp_invalid (K : MemdConsts) (buf : Bytes) (c : Nat) {op : SubDocOp}
    (h : op.op ∉ K.mutationOps) : subDocMutateWriteOp K buf c op = .err .invalidArgs := by
  rw [subDocMutateWriteOp, if_pos]
  simpa [← notMutationOp_eq_false] using h

theorem subDocMutateWriteOp_panicsOr (K : MemdConsts) (buf : Bytes) (c : Nat) {op : SubDocOp}
    (hv : op.op ∈ K.mutationOps) :
    (subDocMutateWriteOp K buf c op).PanicsOr fun r =>
      r.1.length = buf.length ∧ r.2 = c + (mutateEntryFormat.write op.toMutateEntry).length ∧
        c + (mutateEntryFormat.write op.toMutateEntry).length ≤
          buf.length + op.valueBytes.length := by
  rw [subDocMutateWriteOp, if_neg (by simp [(notMutationOp_eq_false K op.op).mpr hv]),
    mutateEntry_write_length]
  exact (Go.setIndex_panicsOr _ _ _).bind fun b1 h1 =>
    (Go.setIndex_panicsOr _ _ _).bind fun b2 h2 =>
    (Go.putUint16_panicsOr _ _ _).bind fun b3 h3 =>
    (Go.putUint32_panicsOr _ _ _).bind fun b4 h4 =>
    (Go.copyInto_panicsOr _ _ _).bind fun b5 h5 =>
    (Go.copyInto_panicsOr _ _ _).bind fun b6 h6 =>
    Go.PanicsOr.pure (by dsimp only; refine ⟨?_, ?_, ?_⟩ <;> omega)

theorem subDocMutateWriteOp_cursor (K : MemdConsts) (done : Bytes) (op : SubDocOp) (m : Nat) :
    subDocMutateWriteOp K (done ++ zeros ((mutateEntryFormat.write op.toMutateEntry).length + m))
        done.length op =
      if op.op ∈ K.mutationOps then
        .ok (done ++ mutateEntryFormat.write op.toMutateEntry ++ zeros m,
          (done ++ mutateEntryFormat.write op.toMutateEntry).length)
      else .err .invalidArgs := by
  rw [mutateEntry_write_length, subDocMutateWriteOp]
  by_cases hv : op.op ∈ K.mutationOps
  · simp (disch := (try simp only [List.length_append, List.length_cons, List.length_nil,
        be16_length, be32_length]) <;> omega) only [(notMutationOp_eq_false K op.op).mpr hv,
      Bool.false_eq_true, if_false, Go.setIndex, Go.putUint16, Go.putUint32, Go.write_cursor,
      Go.copyInto_cursor, Go.ok_bind, Go.pure_eq]
    simp only [if_pos hv, mutateEntryFormat, SubDocOp.toMutateEntry, List.append_assoc,
      List.singleton_append, List.cons_append, List.nil_append, Go.ok.injEq, Prod.mk.injEq,
      List.append_cancel_left_eq, List.cons.injEq, true_and, List.length_append, List.length_cons,
      List.length_nil, List.length_singleton, be16_length, be32_length]
    constructor
    · congr 1; omega
    · omega
  · have hbad : notMutationOp K op.op = true := by
      simpa [← notMutationOp_eq_false] using hv
    simp [hv, hbad]

theorem subDocMutate_size (ops : List SubDocOp) :
    ops.length * 8 + (ops.map fun op => op.path.length).sum +
        (ops.map fun op => op.valueBytes.length).sum =
      (ops.map fun op => (mutateEntryFormat.write op.toMutateEntry).length).sum := by
  induction ops with
  | nil => rfl
  | cons op ops ih =>
    simp only [List.length_cons, List.map_cons, List.sum_cons, mutateEntry_write_length] at ih ⊢
    omega

theorem subDocMutateExtras_eq (expiry : UInt32) :
    subDocMutateExtras expiry = .ok (if expiry = 0 then [] else be32 expiry) := by
  by_cases h : expiry = 0
  · simp [subDocMutateExtras, h]
  · have hw := @Go.write_cursor [] (be32 expiry) 0 4 rfl (by simp)
    simp_all [subDocMutateExtras, Go.putUint32, zeros]

/-- Below `2 ^ (bits - 1)` bytes, `SubDocMutate` refuses the operations unless each is one of
the nine mutations, and otherwise dispatches the concatenation of their entries. -/
theorem subDocMutate_eq (W : IntWidth) (K : MemdConsts) (key : Bytes) (ops : List SubDocOp)
    (cas : Cas) (expiry : UInt32)
    (hsize : ops.length * 8 + (ops.map fun op => op.path.length).sum +
      (ops.map fun op => op.valueBytes.length).sum < 2 ^ (W.bits - 1)) :
    subDocMutate W K key ops cas expiry =
      if ∀ op ∈ ops, op.op ∈ K.mutationOps then
        .ok { magic := K.reqMagic, opcode := K.cmdSubDocMultiMutation, datatype := 0,
              vbucket := 0, cas := cas, extras := if expiry = 0 then [] else be32 expiry,
              key := key, value := mutateEntryFormat.writeAll (ops.map SubDocOp.toMutateEntry) }
      else .err .invalidArgs := by
  have hloop := encodeLoop_cursor (subDocMutateWriteOp_cursor K) ops []
  rw [List.nil_append, List.length_nil, ← subDocMutate_size] at hloop
  rw [subDocMutate, IntWidth.wrap_add_sum, IntWidth.wrap_add_sum,
    IntWidth.wrap_of_lt W (by omega) (by exact_mod_cast hsize), Go.makeBytes_natCast, Go.ok_bind,
    hloop]
  by_cases h : ∀ op ∈ ops, op.op ∈ K.mutationOps
  · rw [if_pos h, if_pos h, Go.ok_bind, subDocMutateExtras_eq, Go.ok_bind, EntryFormat.writeAll,
      List.map_map]
    rfl
  · rw [if_neg h, if_neg h]
    rfl

/-- With every operation a mutation, a request whose entries add up to `2 ^ (bits - 1)` bytes
or more panics, as `SubDocLookup` does: the values' bytes alias the callers', so only the size
computed in `int` bounds them. -/
theorem subDocMutate_panic (W : IntWidth) (K : MemdConsts) (key : Bytes) (ops : List SubDocOp)
    (cas : Cas) (expiry : UInt32) (hvalid : ∀ op ∈ ops, op.op ∈ K.mutationOps)
    (hvalues : ∀ op ∈ ops, op.valueBytes.length < 2 ^ W.bits)
    (hbig : 2 ^ (W.bits - 1) ≤ ops.length * 8 + (ops.map fun op => op.path.length).sum +
      (ops.map fun op => op.valueBytes.length).sum) :
    subDocMutate W K key ops cas expiry = .panic := by
  rw [subDocMutate, IntWidth.wrap_add_sum, IntWidth.wrap_add_sum, subDocMutate_size]
  exact makeBytes_encodeLoop_panic W (subDocMutateWriteOp_panicsOr K) ops hvalid hvalues
    (subDocMutate_size ops ▸ hbig) _

/-- The body of a mutation `SubDocMutate` dispatches is its operations' entries. -/
theorem subDocMutate_value {W : IntWidth} {K : MemdConsts} {key : Bytes} {ops : List SubDocOp}
    {cas : Cas} {expiry : UInt32} {pkt : MemdPacket}
    (h : subDocMutate W K key ops cas expiry = .ok pkt)
    (hvalues : ∀ op ∈ ops, op.valueBytes.length < 2 ^ W.bits) :
    pkt.value = mutateEntryFormat.writeAll (ops.map SubDocOp.toMutateEntry) := by
  by_cases hsize : ops.length * 8 + (ops.map fun op => op.path.length).sum +
      (ops.map fun op => op.valueBytes.length).sum < 2 ^ (W.bits - 1)
  · rw [subDocMutate_eq W K key ops cas expiry hsize] at h
    split_ifs at h <;> cases h <;> rfl
  · by_cases hvalid : ∀ op ∈ ops, op.op ∈ K.mutationOps
    · rw [subDocMutate_panic W K key ops cas expiry hvalid hvalues (by omega)] at h
      cases h
    · obtain ⟨buf, -, h⟩ := Go.bind_eq_ok h
      obtain ⟨vb, hloop, -⟩ := Go.bind_eq_ok h
      exact absurd hloop
        (encodeLoop_ne_ok (fun b c _ => subDocMutateWriteOp_invalid K b c) hvalid buf 0 vb)

/-! ### What the server reads back -/

/-- While its entries add up to less than `2 ^ (bits - 1)` bytes, `SubDocLookup` returns
`ErrInvalidArgs`, dispatching nothing, exactly when some operation is neither a get nor an
exists or has a value. Otherwise it dispatches a multi-lookup with no CAS and no extras whose
body is the operations' entries, which reads back as the entries when every path is shorter
than `2 ^ 16` bytes. With every operation valid, it panics exactly when they add up to more. -/
theorem subDocLookup_request (W : IntWidth) (K : MemdConsts) (key : Bytes)
    (ops : List SubDocOp) :
    (ops.length * 4 + (ops.map fun op => op.path.length).sum < 2 ^ (W.bits - 1) →
      (subDocLookup W K key ops = .err .invalidArgs ↔
        ∃ op ∈ ops, op.op ∉ K.lookupOps ∨ op.value ≠ none) ∧
      ((∀ op ∈ ops, LookupValid K op) →
        ∃ pkt, subDocLookup W K key ops = .ok pkt ∧ pkt.opcode = K.cmdSubDocMultiLookup ∧
          pkt.cas = 0 ∧ pkt.extras = [] ∧ pkt.key = key ∧
          pkt.value = lookupEntryFormat.writeAll (ops.map SubDocOp.toLookupEntry) ∧
          ((∀ op ∈ ops, op.path.length < 2 ^ 16) →
            lookupEntryFormat.readAll pkt.value = some (ops.map SubDocOp.toLookupEntry)))) ∧
    ((∀ op ∈ ops, LookupValid K op) → (∀ op ∈ ops, op.path.length < 2 ^ W.bits) →
      (subDocLookup W K key ops = .panic ↔
        2 ^ (W.bits - 1) ≤ ops.length * 4 + (ops.map fun op => op.path.length).sum)) := by
  have hbad : (∃ op ∈ ops, op.op ∉ K.lookupOps ∨ op.value ≠ none) ↔
      ¬ ∀ op ∈ ops, LookupValid K op := by
    simp only [LookupValid, not_forall, not_and_or, exists_prop]
  refine ⟨fun hsize => ?_, fun hvalid hpaths => ⟨fun hp => ?_, subDocLookup_panic W K key ops
    hvalid hpaths⟩⟩
  · rw [subDocLookup_eq W K key ops hsize, hbad]
    by_cases h : ∀ op ∈ ops, LookupValid K op
    · rw [if_pos h]
      refine ⟨⟨fun hc => (by cases hc), fun hn => absurd h hn⟩,
        fun _ => ⟨_, rfl, rfl, rfl, rfl, rfl, rfl, fun hfit => ?_⟩⟩
      exact lookupEntryFormat.readAll_writeAll (List.forall_mem_map.mpr hfit)
    · rw [if_neg h]
      exact ⟨⟨fun _ => h, fun _ => rfl⟩, fun h' => absurd h' h⟩
  · by_contra hsmall
    rw [subDocLookup_eq W K key ops (by omega), if_pos hvalid] at hp
    cases hp

/-- An entry whose path is `2 ^ 16` bytes long reads back with an empty path: its length
field holds 0, and the path's bytes are left to be read as what follows. -/
theorem lookupEntry_read_long_path (op flags : UInt8) {path : Bytes} (rest : Bytes)
    (h : path.length = 2 ^ 16) :
    lookupEntryFormat.read (lookupEntryFormat.write ⟨op, flags, path⟩ ++ rest) =
      some (⟨op, flags, []⟩, path ++ rest) := by
  simp only [lookupEntryFormat, Option.bind_eq_bind, List.append_assoc, List.cons_append,
    List.nil_append, takeByte_cons, Option.some_bind, takeBe_append, be16_length, beNat_be16,
    uint16_toNat_ofNat, h, Nat.mod_self, takeBytes_zero]
  rfl

theorem subDocLookup_long_path_misframed :
    ¬ ∃ W : IntWidth, ∃ K : MemdConsts, ∃ pkt,
      subDocLookup W K [] [⟨K.subDocOpGet, 0, zeros 65536, none⟩] = .ok pkt ∧
      lookupEntryFormat.readAll pkt.value = some [⟨K.subDocOpGet, 0, zeros 65536⟩] := by
  rintro ⟨W, K, pkt, hpkt, hread⟩
  rw [subDocLookup_eq W K _ _ (by
    simp only [List.length_singleton, List.map_cons, List.map_nil, List.sum_cons, List.sum_nil,
      zeros_length]
    have := W.two_pow_31_le
    omega), if_pos (by simp [LookupValid, MemdConsts.lookupOps])] at hpkt
  cases hpkt
  have hr := lookupEntry_read_long_path K.subDocOpGet 0 [] (zeros_length 65536)
  simp only [List.append_nil] at hr
  dsimp only [List.map, EntryFormat.writeAll_cons, EntryFormat.writeAll_nil,
    SubDocOp.toLookupEntry] at hread
  rw [List.append_nil, lookupEntryFormat.readAll_of_read hr] at hread
  cases hz : lookupEntryFormat.readAll (zeros 65536) with
  | none => simp [hz] at hread
  | some es =>
    simp only [hz, Option.map_eq_map, Option.map_some', Option.some.injEq, List.cons.injEq,
      LookupEntry.mk.injEq] at hread
    simpa using congrArg List.length hread.1.2.2

end SubDocAgent
