import SubDocAgent.Wire

/-!
# The reply handler of `SubDocLookup`

The handler reads one entry `status(2) len(4) value(len)` per operation from the front of the
reply's value, checking before each that its header and then its value fit, and calls back with
`ErrProtocol` when one does not. The checks add Go `int`s. On a 64-bit platform nothing wraps
and the handler is the format's reader `readCount`. On a 32-bit platform an entry whose header,
or the end its length field announces, reaches `2 ^ 31` makes a sum wrap negative, a check
passes, and the slice after it panics; `lookupPanicsW32` says which replies do that, and on all
others the handler does what it does on 64 bits.
-/

namespace SubDocAgent

/-- The arguments of a `LookupInCallback`: the results (`none` for nil), the CAS and the
error. -/
structure LookupInArgs where
  results : Option (List SubDocResult)
  cas : Cas
  err : Option AgentError

/-- One turn of the loop in the handler, for `results[i]`: the check that the entry's header
fits, its status and its length (`int(...)` of the big-endian `uint32`), the check that its value
fits, the two fields of `results[i]`, and the offset of the next entry. An early `Go.err` is the
`cb(nil, 0, ErrProtocol)` that ends the handler. -/
def subDocLookupEntry (W : IntWidth) (K : MemdConsts) (value : Bytes) (result : SubDocResult)
    (respIter : Int) : Go (SubDocResult × Int) :=
  if W.wrap (respIter + 6) > value.length then Go.err .protocol else do
  let resError ← Go.uint16At value (← Go.natIndex (W.wrap (respIter + 0)))
  let resValueLen := W.wrap (← Go.uint32At value (← Go.natIndex (W.wrap (respIter + 2)))).toNat
  if W.wrap (W.wrap (respIter + 6) + resValueLen) > value.length then Go.err .protocol else do
  let result := { result with err := K.getMemdError resError }
  let lo ← Go.natIndex (W.wrap (respIter + 6))
  let hi ← Go.natIndex (W.wrap (W.wrap (respIter + 6) + resValueLen))
  let result := { result with value := some (← Go.slice value lo hi) }
  pure (result, W.wrap (respIter + W.wrap (6 + resValueLen)))

/-- The loop over `results` in the handler. -/
def subDocLookupLoop (W : IntWidth) (K : MemdConsts) (value : Bytes) :
    List SubDocResult → Int → Go (List SubDocResult)
  | [], _ => pure []
  | result :: results, respIter => do
    let (result, respIter) ← subDocLookupEntry W K value result respIter
    let results ← subDocLookupLoop W K value results respIter
    pure (result :: results)

/-- The handler `SubDocLookup` dispatches with its request, for `n = len(ops)` operations. -/
def subDocLookupHandler (W : IntWidth) (K : MemdConsts) (n : Nat) (resp : MemdResponse)
    (err : Option AgentError) : Handled LookupInArgs :=
  if isOtherError err then .callback ⟨none, 0, err⟩ else
  match subDocLookupLoop W K resp.value (List.replicate n SubDocResult.zero) 0 with
  | .ok results => .callback ⟨some results, resp.cas, err⟩
  | .err e => .callback ⟨none, 0, some e⟩
  | .panic => .panic

/-! ### One entry of the reply -/

/-- The result the handler stores for a reply entry. -/
def lookupResult (K : MemdConsts) (e : LookupResultEntry) : SubDocResult :=
  ⟨K.getMemdError e.status, some e.value⟩

theorem lookupResultFormat_read (b : Bytes) :
    lookupResultFormat.read b =
      if 6 ≤ b.length ∧ 6 + beNat ((b.drop 2).take 4) ≤ b.length then
        some (⟨UInt16.ofNat (beNat (b.take 2)), (b.drop 6).take (beNat ((b.drop 2).take 4))⟩,
          b.drop (6 + beNat ((b.drop 2).take 4)))
      else none := by
  by_cases h6 : 6 ≤ b.length
  · have h4 : 4 ≤ (b.drop 2).length := by simp; omega
    have hL : beNat ((b.drop 2).take 4) ≤ ((b.drop 2).drop 4).length ↔
        6 + beNat ((b.drop 2).take 4) ≤ b.length := by simp; omega
    simp only [lookupResultFormat, Option.bind_eq_bind, takeBe, if_pos (show 2 ≤ b.length by omega),
      if_pos h4, Option.some_bind, takeBytes, hL, h6, true_and]
    split_ifs <;> simp [List.drop_drop]
  · by_cases h2 : 2 ≤ b.length <;>
      simp [lookupResultFormat, takeBe, h6, h2, show ¬ 4 ≤ b.length - 2 by omega]

theorem lookupResultFormat_read_drop (value : Bytes) (p : Nat) :
    lookupResultFormat.read (value.drop p) =
      if p + 6 ≤ value.length ∧ p + 6 + beNat ((value.drop (p + 2)).take 4) ≤ value.length then
        some (⟨UInt16.ofNat (beNat ((value.drop p).take 2)),
            (value.drop (p + 6)).take (beNat ((value.drop (p + 2)).take 4))⟩,
          value.drop (p + 6 + beNat ((value.drop (p + 2)).take 4)))
      else none := by
  rw [lookupResultFormat_read, List.drop_drop, List.drop_drop, List.drop_drop, List.length_drop]
  by_cases h : p + 6 ≤ value.length ∧ p + 6 + beNat ((value.drop (p + 2)).take 4) ≤ value.length
  · rw [if_pos h, if_pos ⟨by omega, by omega⟩, Nat.add_assoc]
  · rw [if_neg h, if_neg (by omega)]

theorem lookupResultFormat_read_eq_some {b rest : Bytes} {e : LookupResultEntry}
    (h : lookupResultFormat.read b = some (e, rest)) :
    6 + e.value.length ≤ b.length ∧ rest = b.drop (6 + e.value.length) := by
  rw [lookupResultFormat_read] at h
  split_ifs at h with hb
  cases h
  have hm : min (beNat ((b.drop 2).take 4)) (b.length - 6) = beNat ((b.drop 2).take 4) :=
    min_eq_left (by omega)
  simp only [List.length_take, List.length_drop, hm, and_true]
  omega

section Entry

variable (K : MemdConsts) {value : Bytes}

/-- One entry at a width whose `int` holds every number below `B`, when the entry's header and
the end its length field announces stay below `B`: nothing wraps, the handler reads what the
format's reader reads, and reports a protocol error where the reader fails. -/
theorem subDocLookupEntry_of_lt_bound (W : IntWidth) (B : Nat)
    (hW : ∀ n : Nat, n < B → W.wrap n = n) (r : SubDocResult) {p : Nat} (hp : p ≤ value.length)
    (h6 : p + 6 < B)
    (hL : p + 6 ≤ value.length → p + 6 + beNat ((value.drop (p + 2)).take 4) < B) :
    subDocLookupEntry W K value r p =
      match lookupResultFormat.read (value.drop p) with
      | none => .err .protocol
      | some (e, _) => .ok (lookupResult K e, ↑(p + 6 + e.value.length)) := by
  rw [subDocLookupEntry, lookupResultFormat_read_drop]
  have e6 : W.wrap (p + 6) = ↑(p + 6) := by exact_mod_cast hW (p + 6) h6
  by_cases hfit : p + 6 ≤ value.length
  swap
  · rw [if_pos (show W.wrap (p + 6) > value.length by rw [e6]; omega), if_neg (by omega)]
  have n0 : Go.natIndex (W.wrap (p + 0)) = .ok p := by
    rw [show (p : Int) + 0 = ↑p by omega, hW p (by omega), Go.natIndex_ofNat]
  have n2 : Go.natIndex (W.wrap (p + 2)) = .ok (p + 2) := by
    rw [show (p : Int) + 2 = ↑(p + 2) by omega, hW (p + 2) (by omega), Go.natIndex_ofNat]
  have hB := hL hfit
  generalize hL : beNat ((value.drop (p + 2)).take 4) = L at hB
  have hL32 : L < 2 ^ 32 := hL ▸ beNat_take_lt 4 _
  have eL : W.wrap (UInt32.ofNat L).toNat = L := by
    rw [uint32_toNat_ofNat, Nat.mod_eq_of_lt hL32, hW L (by omega)]
  have e6L : W.wrap (W.wrap (p + 6) + L) = ↑(p + 6 + L) := by
    rw [e6, show ((p + 6 : Nat) : Int) + L = ↑(p + 6 + L) by omega, hW _ hB]
  rw [if_neg (show ¬ W.wrap (p + 6) > value.length by rw [e6]; omega)]
  simp only [n0, n2, Go.ok_bind, Go.uint16At_of_le (show p + 2 ≤ value.length by omega),
    Go.uint32At_of_le (show p + 2 + 4 ≤ value.length by omega), hL]
  rw [eL]
  by_cases hL6 : p + 6 + L ≤ value.length
  · have enext : W.wrap (p + W.wrap (6 + L)) = ↑(p + 6 + L) := by
      rw [show (6 : Int) + L = ↑(6 + L) by omega, hW _ (by omega),
        show (p : Int) + ↑(6 + L) = ↑(p + 6 + L) by omega, hW _ hB]
    rw [if_pos (show p + 6 ≤ value.length ∧ p + 6 + L ≤ value.length from ⟨hfit, hL6⟩),
      if_neg (by rw [e6L]; omega), e6L, e6, enext]
    simp only [Go.natIndex_ofNat, Go.ok_bind, Go.slice_of_le (show p + 6 ≤ p + 6 + L by omega) hL6]
    simp [lookupResult, min_eq_left (show L ≤ value.length - (p + 6) by omega)]
  · rw [if_neg (show ¬ (p + 6 ≤ value.length ∧ p + 6 + L ≤ value.length) by omega),
      if_pos (show W.wrap (W.wrap (p + 6) + L) > value.length by rw [e6L]; omega)]

theorem subDocLookupEntry_w64 (hv : value.length < 2 ^ 32) (r : SubDocResult) {p : Nat}
    (hp : p ≤ value.length) :
    subDocLookupEntry .w64 K value r p =
      match lookupResultFormat.read (value.drop p) with
      | none => .err .protocol
      | some (e, _) => .ok (lookupResult K e, ↑(p + 6 + e.value.length)) :=
  subDocLookupEntry_of_lt_bound K .w64 (2 ^ 63) (fun _ hn => IntWidth.wrap_w64_natCast rfl hn) r hp
    (by omega) (fun _ => by have := beNat_take_lt 4 (value.drop (p + 2)); omega)

theorem subDocLookupEntry_w32_near_max (hv : value.length < 2 ^ 31) (r : SubDocResult) {p : Nat}
    (hp : p ≤ value.length) (h6 : 2 ^ 31 ≤ p + 6) :
    subDocLookupEntry .w32 K value r p = .panic := by
  have n0 : Go.natIndex (IntWidth.w32.wrap (p + 0)) = .ok p := by
    rw [Int.add_zero, IntWidth.wrap_w32_natCast (by omega), Go.natIndex_ofNat]
  rw [subDocLookupEntry, IntWidth.wrap_w32_sub (by omega) (by omega), if_neg (by omega)]
  simp only [n0, Go.ok_bind]
  by_cases h2 : p + 2 ≤ value.length
  · rw [Go.uint16At_of_le h2, Go.ok_bind]
    by_cases hp2 : p + 2 < 2 ^ 31
    · rw [show (p : Int) + 2 = ↑(p + 2) by omega, IntWidth.wrap_w32_natCast hp2, Go.natIndex_ofNat,
        Go.ok_bind, Go.uint32At_of_lt (by omega)]
      rfl
    · rw [IntWidth.wrap_w32_sub (by omega) (by omega), Go.natIndex_neg (by omega)]
      rfl
  · rw [Go.uint16At_of_lt (by omega)]
    rfl

theorem subDocLookupEntry_w32_long (hv : value.length < 2 ^ 31) (r : SubDocResult) {p : Nat}
    (hfit : p + 6 ≤ value.length)
    (hend : 2 ^ 31 ≤ p + 6 + beNat ((value.drop (p + 2)).take 4)) :
    subDocLookupEntry .w32 K value r p = .panic := by
  have n0 : Go.natIndex (IntWidth.w32.wrap (p + 0)) = .ok p := by
    rw [Int.add_zero, IntWidth.wrap_w32_natCast (by omega), Go.natIndex_ofNat]
  have n2 : Go.natIndex (IntWidth.w32.wrap (p + 2)) = .ok (p + 2) := by
    rw [show (p : Int) + 2 = ↑(p + 2) by omega, IntWidth.wrap_w32_natCast (by omega),
      Go.natIndex_ofNat]
  have e6 : IntWidth.w32.wrap (p + 6) = ↑(p + 6) := by
    rw [show (p : Int) + 6 = ↑(p + 6) by omega, IntWidth.wrap_w32_natCast (by omega)]
  generalize hL : beNat ((value.drop (p + 2)).take 4) = L at hend
  have hL32 : L < 2 ^ 32 := hL ▸ beNat_take_lt 4 _
  have ehi : IntWidth.w32.wrap (↑(p + 6) + IntWidth.w32.wrap (UInt32.ofNat L).toNat) =
      ↑(p + 6 + L) - 2 ^ 32 := by
    rw [uint32_toNat_ofNat, Nat.mod_eq_of_lt hL32]
    by_cases hL31 : L < 2 ^ 31
    · rw [IntWidth.wrap_w32_natCast hL31, IntWidth.wrap_w32_sub (by omega) (by omega)]
      omega
    · rw [IntWidth.wrap_w32_of_ge (by omega) hL32, IntWidth.wrap_w32 (by omega) (by omega)]
      omega
  rw [subDocLookupEntry, e6, if_neg (by omega)]
  simp only [n0, n2, Go.ok_bind, Go.uint16At_of_le (show p + 2 ≤ value.length by omega),
    Go.uint32At_of_le (show p + 2 + 4 ≤ value.length by omega), hL]
  rw [ehi, if_neg (by omega), Go.natIndex_ofNat, Go.ok_bind]
  by_cases hneg : (↑(p + 6 + L) : Int) - 2 ^ 32 < 0
  · rw [Go.natIndex_neg hneg]
    rfl
  · rw [Go.natIndex_of_nonneg (by omega), Go.ok_bind, Go.slice_of_gt (by omega)]
    rfl

/-- One entry on a 32-bit platform: it panics exactly when the end of its header, or the end its
length field announces, lies at `2 ^ 31` or beyond, and otherwise does what it does on a 64-bit
platform. -/
theorem subDocLookupEntry_w32 (hv : value.length < 2 ^ 31) (r : SubDocResult) {p : Nat}
    (hp : p ≤ value.length) :
    subDocLookupEntry .w32 K value r p =
      if 2 ^ 31 ≤ p + 6 ∨
          p + 6 ≤ value.length ∧ 2 ^ 31 ≤ p + 6 + beNat ((value.drop (p + 2)).take 4) then
        .panic
      else subDocLookupEntry .w64 K value r p := by
  split_ifs with h
  · rcases h with h | ⟨hfit, hend⟩
    · exact subDocLookupEntry_w32_near_max K hv r hp h
    · exact subDocLookupEntry_w32_long K hv r hfit hend
  · rw [subDocLookupEntry_of_lt_bound K .w32 (2 ^ 31) (fun _ hn => IntWidth.wrap_w32_natCast hn) r
      hp (by omega) (fun hfit => by omega), subDocLookupEntry_w64 K (by omega) r hp]

end Entry

section W64

variable (K : MemdConsts) {value : Bytes}

/-- The whole loop on a 64-bit platform is `readCount` over the rest of the value. -/
theorem subDocLookupLoop_w64 (hv : value.length < 2 ^ 32) (results : List SubDocResult) {p : Nat}
    (hp : p ≤ value.length) :
    subDocLookupLoop .w64 K value results p =
      match lookupResultFormat.readCount results.length (value.drop p) with
      | none => .err .protocol
      | some (es, _) => .ok (es.map (lookupResult K)) := by
  induction results generalizing p with
  | nil => rfl
  | cons r rs ih =>
    rw [subDocLookupLoop, subDocLookupEntry_w64 K hv r hp, List.length_cons, EntryFormat.readCount]
    cases hread : lookupResultFormat.read (value.drop p) with
    | none => rfl
    | some er =>
      obtain ⟨e, rest⟩ := er
      obtain ⟨hlen, rfl⟩ := lookupResultFormat_read_eq_some hread
      rw [List.length_drop] at hlen
      rw [List.drop_drop, ← Nat.add_assoc]
      simp only [Go.ok_bind, Option.bind_eq_bind, Option.some_bind,
        ih (show p + 6 + e.value.length ≤ value.length by omega)]
      cases lookupResultFormat.readCount rs.length (value.drop (p + 6 + e.value.length)) <;> rfl

end W64

section W32

/-- Whether the loop panics on a 32-bit platform, reading `n` entries of `value` from offset
`p`: some entry it reaches has its header, or the end its length field announces, at `2 ^ 31`
or beyond, and the entries before it are read as the format's reader reads them. -/
def lookupPanicsW32 (value : Bytes) : Nat → Nat → Bool
  | 0, _ => false
  | n + 1, p =>
    if 2 ^ 31 ≤ p + 6 ∨
        p + 6 ≤ value.length ∧ 2 ^ 31 ≤ p + 6 + beNat ((value.drop (p + 2)).take 4) then true
    else match lookupResultFormat.read (value.drop p) with
      | some (e, _) => lookupPanicsW32 value n (p + 6 + e.value.length)
      | none => false

variable (K : MemdConsts) {value : Bytes}

theorem lookupPanicsW32_of_readCount (hv : value.length < 2 ^ 31) (n : Nat) {p : Nat}
    {es : List LookupResultEntry} {rest : Bytes}
    (hread : lookupResultFormat.readCount n (value.drop p) = some (es, rest)) :
    lookupPanicsW32 value n p = false := by
  induction n generalizing p es rest with
  | zero => rfl
  | succ n ih =>
    simp only [EntryFormat.readCount, Option.bind_eq_bind, Option.bind_eq_some, Prod.exists] at hread
    obtain ⟨e, rest1, h1, es', rest2, h2, -⟩ := hread
    have hfits := h1
    rw [lookupResultFormat_read_drop] at hfits
    split_ifs at hfits with hc
    obtain ⟨hlen, rfl⟩ := lookupResultFormat_read_eq_some h1
    rw [List.drop_drop, ← Nat.add_assoc] at h2
    rw [lookupPanicsW32, if_neg (by omega), h1]
    exact ih h2

/-- The whole loop on a 32-bit platform: it panics exactly on the values `lookupPanicsW32`
names, and does what it does on a 64-bit platform on all others. -/
theorem subDocLookupLoop_w32 (hv : value.length < 2 ^ 31) (results : List SubDocResult) {p : Nat}
    (hp : p ≤ value.length) :
    subDocLookupLoop .w32 K value results p =
      if lookupPanicsW32 value results.length p then .panic
      else subDocLookupLoop .w64 K value results p := by
  induction results generalizing p with
  | nil => rfl
  | cons r rs ih =>
    rw [subDocLookupLoop, subDocLookupLoop, subDocLookupEntry_w32 K hv r hp, List.length_cons,
      lookupPanicsW32]
    by_cases hc : 2 ^ 31 ≤ p + 6 ∨
        p + 6 ≤ value.length ∧ 2 ^ 31 ≤ p + 6 + beNat ((value.drop (p + 2)).take 4)
    · rw [if_pos hc, if_pos hc]
      rfl
    rw [if_neg hc, if_neg hc, subDocLookupEntry_w64 K (by omega) r hp]
    cases hread : lookupResultFormat.read (value.drop p) with
    | none => rfl
    | some er =>
      obtain ⟨e, rest⟩ := er
      obtain ⟨hlen, -⟩ := lookupResultFormat_read_eq_some hread
      rw [List.length_drop] at hlen
      simp only [Go.ok_bind]
      rw [ih (show p + 6 + e.value.length ≤ value.length by omega)]
      split_ifs <;> rfl

end W32

/-! ### The handler -/

theorem subDocLookupHandler_of_readCount (W : IntWidth) (K : MemdConsts) (n : Nat)
    (resp : MemdResponse) (err : Option AgentError)
    (herr : err = none ∨ err = some .subDocBadMulti) (hw : W = .w32 → resp.value.length < 2 ^ 31)
    {es : List LookupResultEntry} {rest : Bytes}
    (hread : lookupResultFormat.readCount n resp.value = some (es, rest)) :
    subDocLookupHandler W K n resp err =
      .callback ⟨some (es.map (lookupResult K)), resp.cas, err⟩ := by
  have hother : ¬ isOtherError err = true := by rcases herr with rfl | rfl <;> decide
  have h64 := subDocLookupLoop_w64 K resp.value_lt (List.replicate n SubDocResult.zero)
    (Nat.zero_le _)
  rw [Nat.cast_zero, List.length_replicate, List.drop_zero, hread] at h64
  have hloop : subDocLookupLoop W K resp.value (List.replicate n .zero) 0 =
      .ok (es.map (lookupResult K)) := by
    cases W with
    | w64 => exact h64
    | w32 =>
      have h32 := subDocLookupLoop_w32 K (hw rfl) (List.replicate n SubDocResult.zero)
        (Nat.zero_le _)
      rw [Nat.cast_zero, List.length_replicate, lookupPanicsW32_of_readCount (hw rfl) n
        (by rwa [List.drop_zero])] at h32
      rw [h32, h64]
      rfl
  rw [subDocLookupHandler, if_neg hother, hloop]

/-- On a 64-bit platform, for a success or an `ErrSubDocBadMulti` reply, the handler calls back
with `ErrProtocol` exactly when the value does not begin with `n` reply entries, and otherwise
with one result per operation, read from the entries in order, the reply's CAS and the error it
was given; what follows the entries is ignored. It never panics. -/
theorem subDocLookupHandler_w64 (K : MemdConsts) (n : Nat) (resp : MemdResponse)
    (err : Option AgentError) (herr : err = none ∨ err = some .subDocBadMulti) :
    subDocLookupHandler .w64 K n resp err =
      match lookupResultFormat.readCount n resp.value with
      | none => .callback ⟨none, 0, some .protocol⟩
      | some (es, _) => .callback ⟨some (es.map (lookupResult K)), resp.cas, err⟩ := by
  have hother : isOtherError err = false := by rcases herr with rfl | rfl <;> rfl
  have hloop := subDocLookupLoop_w64 K resp.value_lt (List.replicate n SubDocResult.zero)
    (Nat.zero_le _)
  rw [Nat.cast_zero, List.length_replicate, List.drop_zero] at hloop
  rw [subDocLookupHandler, if_neg (by simp [hother]), hloop]
  cases lookupResultFormat.readCount n resp.value <;> rfl

theorem subDocLookupHandler_w64_one_entry :
    subDocLookupHandler .w64 default 1
        ⟨{ magic := 0, opcode := 0, datatype := 0, vbucket := 0, cas := 5, extras := [], key := [],
           value := [0, 0, 0, 0, 0, 1, 7] }, by decide⟩ none =
      match lookupResultFormat.readCount 1 [0, 0, 0, 0, 0, 1, 7] with
      | none => .callback ⟨none, 0, some .protocol⟩
      | some (es, _) => .callback ⟨some (es.map (lookupResult default)), 5, none⟩ :=
  subDocLookupHandler_w64 default 1 _ none (Or.inl rfl)

/-- On a 32-bit platform, a reply whose first entry has a length field of `2 ^ 31` or more makes
the handler panic, where the format's reader finds no entry. -/
theorem subDocLookupHandler_w32_panics (K : MemdConsts) (n : Nat) (resp : MemdResponse)
    (err : Option AgentError) (herr : err = none ∨ err = some .subDocBadMulti) (hn : 0 < n)
    (status : StatusCode) (len : UInt32) (rest : Bytes)
    (hv : resp.value = be16 status ++ be32 len ++ rest) (hlen : 2 ^ 31 ≤ len.toNat)
    (hv32 : resp.value.length < 2 ^ 31) :
    lookupResultFormat.readCount n resp.value = none ∧
      subDocLookupHandler .w32 K n resp err = .panic := by
  have hother : isOtherError err = false := by rcases herr with rfl | rfl <;> rfl
  obtain ⟨m, rfl⟩ : ∃ m, n = m + 1 := ⟨n - 1, by omega⟩
  have hvlen : resp.value.length = 6 + rest.length := by simp [hv]; omega
  have hL : beNat ((resp.value.drop 2).take 4) = len.toNat := by
    simp [hv, List.drop_append_eq_append_drop, beNat_be32]
  constructor
  · have hread : lookupResultFormat.read resp.value = none := by
      rw [lookupResultFormat_read, if_neg (by rw [hL]; omega)]
    simp [EntryFormat.readCount, hread]
  · have h0 := subDocLookupEntry_w32_long K hv32 SubDocResult.zero
      (show 0 + 6 ≤ resp.value.length by omega) (by simp only [Nat.zero_add, hL]; omega)
    rw [Nat.cast_zero] at h0
    rw [subDocLookupHandler, if_neg (by simp [hother]), List.replicate_succ, subDocLookupLoop, h0]

theorem subDocLookupHandler_w32_panics_at_max_len :
    lookupResultFormat.readCount 1 [0, 0, 0xFF, 0xFF, 0xFF, 0xFF] = none ∧
      subDocLookupHandler .w32 default 1
        ⟨{ magic := 0, opcode := 0, datatype := 0, vbucket := 0, cas := 0, extras := [], key := [],
           value := [0, 0, 0xFF, 0xFF, 0xFF, 0xFF] }, by decide⟩ none = .panic :=
  subDocLookupHandler_w32_panics default 1
    ⟨{ magic := 0, opcode := 0, datatype := 0, vbucket := 0, cas := 0, extras := [], key := [],
       value := [0, 0, 0xFF, 0xFF, 0xFF, 0xFF] }, by decide⟩
    none (Or.inl rfl) (by decide) 0 0xFFFFFFFF [] (by decide) (by decide) (by decide)

/-- On a 32-bit platform, for a success or an `ErrSubDocBadMulti` reply shorter than `2 ^ 31`
bytes, the handler panics exactly when `lookupPanicsW32` says the loop does, and otherwise does
what it does on a 64-bit platform. A value that begins with `n` reply entries never makes it
panic: it calls back with their results. -/
theorem subDocLookupHandler_w32 (K : MemdConsts) (n : Nat) (resp : MemdResponse)
    (err : Option AgentError) (herr : err = none ∨ err = some .subDocBadMulti)
    (hv : resp.value.length < 2 ^ 31) :
    subDocLookupHandler .w32 K n resp err =
      (if lookupPanicsW32 resp.value n 0 then .panic
        else subDocLookupHandler .w64 K n resp err) ∧
    ∀ es rest, lookupResultFormat.readCount n resp.value = some (es, rest) →
      subDocLookupHandler .w32 K n resp err =
        .callback ⟨some (es.map (lookupResult K)), resp.cas, err⟩ := by
  have hother : ¬ isOtherError err = true := by rcases herr with rfl | rfl <;> decide
  have hloop := subDocLookupLoop_w32 K hv (List.replicate n SubDocResult.zero) (Nat.zero_le _)
  rw [Nat.cast_zero, List.length_replicate] at hloop
  refine ⟨?_, fun es rest hread =>
    subDocLookupHandler_of_readCount .w32 K n resp err herr (fun _ => hv) hread⟩
  rw [subDocLookupHandler, subDocLookupHandler, if_neg hother, if_neg hother, hloop]
  split_ifs <;> rfl

theorem subDocLookupHandler_w32_one_entry :
    ((none : Option AgentError) = none ∨ (none : Option AgentError) = some .subDocBadMulti) ∧
    [0, 0, 0xFF, 0xFF, 0xFF, 0xFF].length < 2 ^ 31 ∧
    (subDocLookupHandler .w32 default 1
        ⟨{ magic := 0, opcode := 0, datatype := 0, vbucket := 0, cas := 5, extras := [], key := [],
           value := [0, 0, 0xFF, 0xFF, 0xFF, 0xFF] }, by decide⟩ none =
      (if lookupPanicsW32 [0, 0, 0xFF, 0xFF, 0xFF, 0xFF] 1 0 then .panic
        else subDocLookupHandler .w64 default 1
          ⟨{ magic := 0, opcode := 0, datatype := 0, vbucket := 0, cas := 5, extras := [],
             key := [], value := [0, 0, 0xFF, 0xFF, 0xFF, 0xFF] }, by decide⟩ none) ∧
    ∀ es rest, lookupResultFormat.readCount 1 [0, 0, 0xFF, 0xFF, 0xFF, 0xFF] = some (es, rest) →
      subDocLookupHandler .w32 default 1
          ⟨{ magic := 0, opcode := 0, datatype := 0, vbucket := 0, cas := 5, extras := [],
             key := [], value := [0, 0, 0xFF, 0xFF, 0xFF, 0xFF] }, by decide⟩ none =
        .callback ⟨some (es.map (lookupResult default)), 5, none⟩) :=
  ⟨Or.inl rfl, by decide, subDocLookupHandler_w32 default 1
    ⟨{ magic := 0, opcode := 0, datatype := 0, vbucket := 0, cas := 5, extras := [], key := [],
       value := [0, 0, 0xFF, 0xFF, 0xFF, 0xFF] }, by decide⟩ none (Or.inl rfl) (by decide)⟩

end SubDocAgent
