import SubDocAgent.Memd

/-!
# The sub-document wire formats

The bodies of the multi-path requests and replies are concatenations of entries, and the
other side reads them entry by entry from the front. An `EntryFormat` is one kind of entry: how
it is written, how it is read back from the front of a buffer, and for which entries the length
fields hold the true lengths (`Fits`). It carries the two laws the rest needs as fields: reading
undoes writing, and reading consumes bytes, which makes `readAll`, the reading of a whole
buffer, well founded. The formats are stated as the protocol lays them out; the agent's encoders
and decoders are compared with them in the later files.
-/

namespace SubDocAgent

/-- The first byte. -/
def takeByte : Bytes → Option (UInt8 × Bytes)
  | [] => none
  | x :: rest => some (x, rest)

/-- The first `n` bytes. -/
def takeBytes (n : Nat) (b : Bytes) : Option (Bytes × Bytes) :=
  if n ≤ b.length then some (b.take n, b.drop n) else none

@[simp] theorem takeByte_cons (x : UInt8) (rest : Bytes) :
    takeByte (x :: rest) = some (x, rest) := rfl

@[simp] theorem takeBytes_append {n : Nat} {p : Bytes} (rest : Bytes) (h : p.length = n) :
    takeBytes n (p ++ rest) = some (p, rest) := by
  subst h
  simp [takeBytes]

@[simp] theorem takeBytes_zero (b : Bytes) : takeBytes 0 b = some ([], b) := by
  simp [takeBytes]

theorem takeByte_length {b rest : Bytes} {x : UInt8} (h : takeByte b = some (x, rest)) :
    rest.length + 1 = b.length := by
  cases b with
  | nil => cases h
  | cons y ys => cases h; rfl

theorem takeBe_length {k : Nat} {b rest : Bytes} {n : Nat} (h : takeBe k b = some (n, rest)) :
    rest.length + k = b.length := by
  obtain ⟨hb, hk, -⟩ := takeBe_eq_some h
  rw [hb, List.length_append, hk]
  omega

theorem takeBytes_length {k : Nat} {b p rest : Bytes} (h : takeBytes k b = some (p, rest)) :
    rest.length + k = b.length := by
  unfold takeBytes at h
  split at h
  · cases h
    simp only [List.length_drop]
    omega
  · cases h

theorem takeBytes_suffix {k : Nat} {b p rest : Bytes} (h : takeBytes k b = some (p, rest)) :
    rest <:+ b := by
  unfold takeBytes at h
  split at h
  · cases h
    exact List.drop_suffix _ _
  · cases h

/-- One kind of entry of a wire format. -/
structure EntryFormat (α : Type) where
  write : α → Bytes
  read : Bytes → Option (α × Bytes)
  /-- The entries whose length fields hold their true lengths. -/
  Fits : α → Prop
  read_write : ∀ a rest, Fits a → read (write a ++ rest) = some (a, rest)
  consumes : ∀ {b a rest}, read b = some (a, rest) → rest.length < b.length

namespace EntryFormat

variable {α : Type} (F : EntryFormat α)

/-- The concatenation of the entries `as`. -/
def writeAll (as : List α) : Bytes := (as.map F.write).flatten

/-- Reads a whole buffer as a concatenation of entries; `none` if it is not one. -/
def readAll : Bytes → Option (List α)
  | [] => some []
  | x :: xs =>
    match h : F.read (x :: xs) with
    | none => none
    | some (a, rest) => (a :: ·) <$> readAll rest
termination_by b => b.length
decreasing_by exact F.consumes h

/-- Reads `n` entries from the front of a buffer and returns what follows them. -/
def readCount : Nat → Bytes → Option (List α × Bytes)
  | 0, b => some ([], b)
  | n + 1, b => do
    let (a, rest) ← F.read b
    let (as, rest') ← readCount n rest
    pure (a :: as, rest')

@[simp] theorem writeAll_nil : F.writeAll [] = [] := rfl

@[simp] theorem writeAll_cons (a : α) (as : List α) :
    F.writeAll (a :: as) = F.write a ++ F.writeAll as := rfl

@[simp] theorem readAll_nil : F.readAll [] = some [] := by
  rw [readAll]

theorem readAll_of_read {b rest : Bytes} {a : α} (h : F.read b = some (a, rest)) :
    F.readAll b = (a :: ·) <$> F.readAll rest := by
  cases b with
  | nil => exact absurd (F.consumes h) (Nat.not_lt_zero _)
  | cons x xs =>
    rw [readAll]
    split <;> simp_all

theorem readAll_of_read_none {b : Bytes} (hb : b ≠ []) (h : F.read b = none) :
    F.readAll b = none := by
  cases b with
  | nil => exact absurd rfl hb
  | cons x xs =>
    rw [readAll]
    split <;> simp_all

theorem readAll_write_append {a : α} (ha : F.Fits a) (rest : Bytes) :
    F.readAll (F.write a ++ rest) = (a :: ·) <$> F.readAll rest :=
  F.readAll_of_read (F.read_write a rest ha)

/-- Reading back a concatenation of fitting entries gives the entries. -/
theorem readAll_writeAll {as : List α} (h : ∀ a ∈ as, F.Fits a) :
    F.readAll (F.writeAll as) = some as := by
  induction as with
  | nil => simp
  | cons a as ih =>
    rw [writeAll_cons, F.readAll_write_append (h a (List.mem_cons_self a as)),
      ih (fun b hb => h b (List.mem_cons_of_mem a hb))]
    rfl

/-- Reading `n` fitting entries stops where they end, whatever follows. -/
theorem readCount_writeAll {as : List α} (h : ∀ a ∈ as, F.Fits a) (rest : Bytes) :
    F.readCount as.length (F.writeAll as ++ rest) = some (as, rest) := by
  induction as with
  | nil => rfl
  | cons a as ih =>
    simp [readCount, F.read_write a _ (h a (List.mem_cons_self a as)),
      ih (fun b hb => h b (List.mem_cons_of_mem a hb))]

end EntryFormat

/-! ### The four entry formats -/

/-- An entry of a multi-mutation request: `op(1) flags(1) pathLen(2) valueLen(4) path value`. -/
structure MutateEntry where
  op : SubDocOpType
  flags : SubDocFlag
  path : Bytes
  value : Bytes
  deriving DecidableEq, Repr

/-- An entry of a multi-lookup request: `op(1) flags(1) pathLen(2) path`. -/
structure LookupEntry where
  op : SubDocOpType
  flags : SubDocFlag
  path : Bytes
  deriving DecidableEq, Repr

/-- An entry of a multi-lookup reply: `status(2) len(4) value`. -/
structure LookupResultEntry where
  status : StatusCode
  value : Bytes
  deriving DecidableEq, Repr

/-- An entry of a multi-mutation reply: `index(1) status(2)`, then `len(4) value` exactly
after a success status. -/
structure MutateResultEntry where
  index : UInt8
  status : StatusCode
  value : Option Bytes
  deriving DecidableEq, Repr

def mutateEntryFormat : EntryFormat MutateEntry where
  write e := [e.op, e.flags] ++ be16 (UInt16.ofNat e.path.length) ++
    be32 (UInt32.ofNat e.value.length) ++ e.path ++ e.value
  read b := do
    let (op, b) ← takeByte b
    let (flags, b) ← takeByte b
    let (pathLen, b) ← takeBe 2 b
    let (valueLen, b) ← takeBe 4 b
    let (path, b) ← takeBytes pathLen b
    let (value, b) ← takeBytes valueLen b
    pure (⟨op, flags, path, value⟩, b)
  Fits e := e.path.length < 2 ^ 16 ∧ e.value.length < 2 ^ 32
  read_write e rest h := by
    simp only [Option.bind_eq_bind, List.append_assoc, List.cons_append, List.nil_append,
      takeByte_cons, Option.some_bind, takeBe_append, be16_length, be32_length,
      beNat_be16_ofNat h.1, beNat_be32_ofNat h.2, takeBytes_append]
    rfl
  consumes h := by
    simp only [Option.bind_eq_bind, Option.bind_eq_some, Prod.exists] at h
    obtain ⟨_, b1, h1, _, b2, h2, _, b3, h3, _, b4, h4, _, b5, h5, _, b6, h6, h7⟩ := h
    cases h7
    have := takeByte_length h1; have := takeByte_length h2; have := takeBe_length h3
    have := takeBe_length h4; have := takeBytes_length h5; have := takeBytes_length h6
    omega

def lookupEntryFormat : EntryFormat LookupEntry where
  write e := [e.op, e.flags] ++ be16 (UInt16.ofNat e.path.length) ++ e.path
  read b := do
    let (op, b) ← takeByte b
    let (flags, b) ← takeByte b
    let (pathLen, b) ← takeBe 2 b
    let (path, b) ← takeBytes pathLen b
    pure (⟨op, flags, path⟩, b)
  Fits e := e.path.length < 2 ^ 16
  read_write e rest h := by
    simp only [Option.bind_eq_bind, List.append_assoc, List.cons_append, List.nil_append,
      takeByte_cons, Option.some_bind, takeBe_append, be16_length, beNat_be16_ofNat h,
      takeBytes_append]
    rfl
  consumes h := by
    simp only [Option.bind_eq_bind, Option.bind_eq_some, Prod.exists] at h
    obtain ⟨_, b1, h1, _, b2, h2, _, b3, h3, _, b4, h4, h5⟩ := h
    cases h5
    have := takeByte_length h1; have := takeByte_length h2; have := takeBe_length h3
    have := takeBytes_length h4
    omega

def lookupResultFormat : EntryFormat LookupResultEntry where
  write e := be16 e.status ++ be32 (UInt32.ofNat e.value.length) ++ e.value
  read b := do
    let (status, b) ← takeBe 2 b
    let (len, b) ← takeBe 4 b
    let (value, b) ← takeBytes len b
    pure (⟨UInt16.ofNat status, value⟩, b)
  Fits e := e.value.length < 2 ^ 32
  read_write e rest h := by simp [beNat_be16, uint16_ofNat_toNat, beNat_be32_ofNat h]
  consumes h := by
    simp only [Option.bind_eq_bind, Option.bind_eq_some, Prod.exists] at h
    obtain ⟨_, b1, h1, _, b2, h2, _, b3, h3, h4⟩ := h
    cases h4
    have := takeBe_length h1; have := takeBe_length h2; have := takeBytes_length h3
    omega

/-- The reply entries of a multi-mutation, where `success` is the status after which a
value follows. -/
def mutateResultFormat (success : StatusCode) : EntryFormat MutateResultEntry where
  write e := [e.index] ++ be16 e.status ++
    match e.value with
    | some v => be32 (UInt32.ofNat v.length) ++ v
    | none => []
  read b := do
    let (index, b) ← takeByte b
    let (status, b) ← takeBe 2 b
    if UInt16.ofNat status = success then
      let (len, b) ← takeBe 4 b
      let (value, b) ← takeBytes len b
      pure (⟨index, UInt16.ofNat status, some value⟩, b)
    else
      pure (⟨index, UInt16.ofNat status, none⟩, b)
  Fits e :=
    match e.value with
    | some v => e.status = success ∧ v.length < 2 ^ 32
    | none => e.status ≠ success
  read_write e rest h := by
    rcases e with ⟨index, status, _ | v⟩
    · simp only [List.append_assoc, List.singleton_append, List.cons_append, List.nil_append,
        List.append_nil, Option.bind_eq_bind, takeByte_cons, Option.some_bind, takeBe_append,
        be16_length, beNat_be16, uint16_ofNat_toNat, if_neg (show status ≠ success from h)]
      rfl
    · obtain ⟨rfl, hv⟩ := h
      simp only [List.append_assoc, List.singleton_append, List.cons_append, List.nil_append,
        Option.bind_eq_bind, takeByte_cons, Option.some_bind, takeBe_append, be16_length,
        be32_length, beNat_be16, uint16_ofNat_toNat, if_true, beNat_be32_ofNat hv,
        takeBytes_append]
      rfl
  consumes h := by
    simp only [Option.bind_eq_bind, Option.bind_eq_some, Prod.exists] at h
    obtain ⟨_, b1, h1, _, b2, h2, h3⟩ := h
    have := takeByte_length h1
    have := takeBe_length h2
    split at h3
    · simp only [Option.bind_eq_bind, Option.bind_eq_some, Prod.exists] at h3
      obtain ⟨_, b3, h4, _, b4, h5, h6⟩ := h3
      cases h6
      have := takeBe_length h4; have := takeBytes_length h5
      omega
    · cases h3
      omega

end SubDocAgent
