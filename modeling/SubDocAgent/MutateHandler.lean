import SubDocAgent.Wire

/-!
# The reply handler of `SubDocMutate`

The handler reads the reply entries `index(1) status(2)`, followed by `len(4) value(len)` after a
success status, from the front of the reply's value until its `uint32` cursor reaches the end,
and stores each entry's error and value into `results[index]`. Nothing in the loop checks a
length or an index against the slices it reads, so Go's runtime checks are the only ones: the
loop is the format's reader `readAll` on a whole concatenation of entries whose indices are in
range, and panics on any other reply.
-/

namespace SubDocAgent

/-- The arguments of a `MutateInCallback`: the results (`none` for nil), the CAS, the mutation
token and the error. -/
structure MutateInArgs where
  results : Option (List SubDocResult)
  cas : Cas
  mutToken : MutationToken
  err : Option AgentError

/-- One turn of the loop in the handler at the `uint32` cursor `readPos`: the entry's operation
index and status, the status's error stored into `results[opIndex]`, and after a success status
the value's length and the value. -/
def subDocMutateEntry (K : MemdConsts) (value : Bytes) (results : List SubDocResult)
    (readPos : UInt32) : Go (List SubDocResult × UInt32) := do
  let opIndex := (← Go.index value (readPos + 0).toNat).toNat
  let opStatus ← Go.uint16At value (readPos + 1).toNat
  let results ← Go.update results opIndex fun r => { r with err := K.getMemdError opStatus }
  let readPos := readPos + 3
  if opStatus = K.statusSuccess then
    let valLength ← Go.uint32At value readPos.toNat
    let v ← Go.slice value (readPos + 4).toNat (readPos + 4 + valLength).toNat
    let results ← Go.update results opIndex fun r => { r with value := some v }
    pure (results, readPos + (4 + valLength))
  else
    pure (results, readPos)

/-- What a reply entry leaves at its index: its status's error, and its value when it has one;
an entry without a value keeps the value there. -/
def MutateResultEntry.apply (K : MemdConsts) (e : MutateResultEntry) (r : SubDocResult) :
    SubDocResult :=
  ⟨K.getMemdError e.status, e.value.or r.value⟩

/-- The results after the reply entries `es`, each stored at its index, in order. -/
def applyResults (K : MemdConsts) (results : List SubDocResult) (es : List MutateResultEntry) :
    List SubDocResult :=
  es.foldl (fun rs e => rs.modify (e.apply K) e.index.toNat) results

section Apply

variable (K : MemdConsts)

theorem applyResults_cons (rs : List SubDocResult) (e : MutateResultEntry)
    (es : List MutateResultEntry) :
    applyResults K rs (e :: es) = applyResults K (rs.modify (e.apply K) e.index.toNat) es :=
  rfl

@[simp] theorem length_applyResults (rs : List SubDocResult) (es : List MutateResultEntry) :
    (applyResults K rs es).length = rs.length := by
  induction es generalizing rs with
  | nil => rfl
  | cons e es ih => rw [applyResults_cons, ih, List.length_modify]

theorem applyResults_getElem?_of_forall_ne {j : Nat} (rs : List SubDocResult)
    {es : List MutateResultEntry} (h : ∀ e ∈ es, e.index.toNat ≠ j) :
    (applyResults K rs es)[j]? = rs[j]? := by
  induction es generalizing rs with
  | nil => rfl
  | cons e es ih =>
    rw [applyResults_cons, ih _ (fun e' he' => h e' (List.mem_cons_of_mem e he')),
      List.getElem?_modify_ne _ _ (h e (List.mem_cons_self e es))]

/-- When the entries name distinct indices, each entry's index holds what that entry leaves. -/
theorem applyResults_getElem?_index (rs : List SubDocResult) {es : List MutateResultEntry}
    (hnodup : (es.map MutateResultEntry.index).Nodup) {e : MutateResultEntry} (he : e ∈ es) :
    (applyResults K rs es)[e.index.toNat]? = (e.apply K) <$> rs[e.index.toNat]? := by
  induction es generalizing rs with
  | nil => cases he
  | cons e' es ih =>
    rw [List.map_cons, List.nodup_cons] at hnodup
    rw [applyResults_cons]
    rcases List.mem_cons.mp he with rfl | he
    · rw [applyResults_getElem?_of_forall_ne K _ (fun e'' he'' heq => hnodup.1
        (by rw [← UInt8.toNat.inj heq]; exact List.mem_map_of_mem _ he'')), List.getElem?_modify_eq]
    · rw [ih _ hnodup.2 he, List.getElem?_modify_ne _ _ (fun heq => hnodup.1
        (by rw [UInt8.toNat.inj heq]; exact List.mem_map_of_mem _ he))]

end Apply

theorem mutateResultFormat_read_cons {s : StatusCode} {x : UInt8} {t rest : Bytes}
    {e : MutateResultEntry} (h : (mutateResultFormat s).read (x :: t) = some (e, rest)) :
    e.index = x ∧ rest <:+ t := by
  simp only [mutateResultFormat, Option.bind_eq_bind, takeByte_cons, Option.some_bind,
    Option.bind_eq_some, Prod.exists] at h
  obtain ⟨_, r1, h1, h⟩ := h
  split at h
  · simp only [Option.bind_eq_some, Prod.exists] at h
    obtain ⟨_, r2, h2, _, r3, h3, h⟩ := h
    cases h
    exact ⟨rfl, ((takeBytes_suffix h3).trans (takeBe_suffix h2)).trans (takeBe_suffix h1)⟩
  · cases h
    exact ⟨rfl, takeBe_suffix h1⟩

section Entry

variable (K : MemdConsts) {value : Bytes}

/-- The value after a success status: the `uint32` length at the cursor `q`, that many bytes
after it stored into `results[i]`, and the cursor moved past them. It is the format's
`len(4) value(len)` read, and panics exactly where that read fails, including when the length
wraps the cursor. -/
theorem subDocMutateValue_eq (hv : value.length < 2 ^ 32) {results : List SubDocResult}
    {i : Nat} (hi : i < results.length) {q : UInt32} (hq : q.toNat ≤ value.length) :
    (do
      let valLength ← Go.uint32At value q.toNat
      let v ← Go.slice value (q + 4).toNat (q + 4 + valLength).toNat
      let results ← Go.update results i fun r => { r with value := some v }
      pure (results, q + (4 + valLength))) =
      match takeBe 4 (value.drop q.toNat) with
      | none => .panic
      | some (L, r) =>
        match takeBytes L r with
        | none => .panic
        | some (v, rest) =>
          .ok (results.modify (fun r => { r with value := some v }) i,
            UInt32.ofNat (value.length - rest.length)) := by
  by_cases h4 : q.toNat + 4 ≤ value.length
  swap
  · rw [Go.uint32At_of_lt (by omega), takeBe, if_neg (by simp; omega)]
    rfl
  rw [Go.uint32At_of_le h4, takeBe, if_pos (by simp; omega)]
  have hL := beNat_take_lt 4 (value.drop q.toNat)
  generalize beNat ((value.drop q.toNat).take 4) = L at hL ⊢
  have e4 : (q + 4).toNat = q.toNat + 4 := by simp [UInt32.toNat_add, UInt32.size]; omega
  have eL : (q + 4 + UInt32.ofNat L).toNat = (q.toNat + 4 + L) % 2 ^ 32 := by
    simp [UInt32.toNat_add, UInt32.size]
  simp only [Go.ok_bind, e4, eL, takeBytes, List.drop_drop]
  by_cases hfit : q.toNat + 4 + L ≤ value.length
  · rw [Nat.mod_eq_of_lt (by omega), Go.slice_of_le (by omega) hfit, if_pos (by simp; omega),
      Go.ok_bind, Go.update_of_lt _ hi, Go.ok_bind, Nat.add_sub_cancel_left,
      uint32_eq_ofNat (show (q + (4 + UInt32.ofNat L)).toNat =
        value.length - (value.drop (q.toNat + 4 + L)).length by
          simp [UInt32.toNat_add, UInt32.size]; omega)]
    rfl
  · rw [Go.slice, if_neg (by omega), if_neg (by simp; omega)]
    rfl

/-- One turn of the loop at a cursor inside the value is the format's reader there: it panics
where the reader fails or the entry's index names no result, and otherwise stores the entry and
moves the cursor past it. -/
theorem subDocMutateEntry_eq (hv : value.length < 2 ^ 32) (results : List SubDocResult)
    {readPos : UInt32} (hp : readPos.toNat < value.length) :
    subDocMutateEntry K value results readPos =
      match (mutateResultFormat K.statusSuccess).read (value.drop readPos.toNat) with
      | none => .panic
      | some (e, rest) =>
        if e.index.toNat < results.length then
          .ok (results.modify (e.apply K) e.index.toNat, UInt32.ofNat (value.length - rest.length))
        else .panic := by
  generalize hp' : readPos.toNat = p at hp
  obtain ⟨x, t, hxt⟩ : ∃ x t, value.drop p = x :: t := ⟨_, _, List.drop_eq_getElem_cons hp⟩
  have hlen : t.length + 1 + p = value.length := by
    have := congrArg List.length hxt
    simp only [List.length_drop, List.length_cons] at this
    omega
  have hidx : Go.index value p = .ok x := by
    rw [Go.index, ← Nat.add_zero p, ← List.getElem?_drop, hxt, List.getElem?_cons_zero]
  have e0 : (readPos + 0).toNat = p := by simp [UInt32.toNat_add, UInt32.size, hp']
  have e1 : (readPos + 1).toNat = p + 1 := by simp [UInt32.toNat_add, UInt32.size, hp']; omega
  have ht : value.drop (p + 1) = t := by rw [← List.drop_drop, hxt]; rfl
  simp only [subDocMutateEntry, e0, e1, hidx, Go.ok_bind, Go.uint16At, ht, hxt]
  by_cases h3 : p + 3 ≤ value.length
  swap
  · have h2 : takeBe 2 t = none := if_neg (by omega)
    simp only [h2, mutateResultFormat, takeByte_cons, Option.bind_eq_bind, Option.some_bind,
      Option.none_bind, Go.panic_bind]
  have h2 : takeBe 2 t = some (beNat (t.take 2), t.drop 2) := if_pos (by omega)
  by_cases hn : x.toNat < results.length
  swap
  · rw [h2]
    simp only [Go.ok_bind, Go.update_of_le _ (not_lt.mp hn), Go.panic_bind]
    split
    · rfl
    · rw [if_neg (by rw [(mutateResultFormat_read_cons ‹_›).1]; exact hn)]
  have e3 : (readPos + 3).toNat = p + 3 := by simp [UInt32.toNat_add, UInt32.size, hp']; omega
  simp only [h2, Go.ok_bind, Go.update_of_lt _ hn, mutateResultFormat, takeByte_cons,
    Option.bind_eq_bind, Option.some_bind, e3]
  by_cases hs : UInt16.ofNat (beNat (t.take 2)) = K.statusSuccess
  swap
  · simp only [if_neg hs, Go.pure_eq, Option.pure_def, if_pos hn]
    rw [uint32_eq_ofNat (show (readPos + 3).toNat = value.length - (t.drop 2).length by
      rw [e3, List.length_drop]; omega)]
    rfl
  have ht2 : value.drop (p + 3) = t.drop 2 := by rw [← ht, List.drop_drop]
  rw [if_pos hs, if_pos hs, ← e3, subDocMutateValue_eq hv (by rwa [List.length_modify])
    (by rw [e3]; omega), e3, ht2]
  rcases takeBe 4 (t.drop 2) with _ | ⟨L, r⟩
  · rfl
  simp only [Option.some_bind]
  rcases takeBytes L r with _ | ⟨v, rest⟩
  · rfl
  simp only [Option.some_bind, Option.pure_def, if_pos hn, List.modify_modify_eq]
  rfl

theorem subDocMutateEntry_progress (hv : value.length < 2 ^ 32)
    {results results' : List SubDocResult} {readPos readPos' : UInt32}
    (hp : readPos < UInt32.ofNat value.length)
    (h : subDocMutateEntry K value results readPos = .ok (results', readPos')) :
    value.length - readPos'.toNat < value.length - readPos.toNat := by
  rw [subDocMutateEntry_eq K hv results (UInt32.toNat_lt_of_lt hv hp)] at h
  split at h
  · cases h
  · rename_i e rest hread
    split_ifs at h
    cases h
    have := (mutateResultFormat K.statusSuccess).consumes hread
    rw [List.length_drop] at this
    rw [uint32_toNat_ofNat, Nat.mod_eq_of_lt (by omega)]
    omega

end Entry

/-- The loop of the handler over the reply's value, while `readPos < uint32(len(resp.Value))`. -/
def subDocMutateLoop (K : MemdConsts) (resp : MemdResponse) (results : List SubDocResult)
    (readPos : UInt32) : Go (List SubDocResult) :=
  if h : readPos < UInt32.ofNat resp.value.length then
    match he : subDocMutateEntry K resp.value results readPos with
    | .ok (results, readPos') => subDocMutateLoop K resp results readPos'
    | .err e => .err e
    | .panic => .panic
  else .ok results
termination_by resp.value.length - readPos.toNat
decreasing_by exact subDocMutateEntry_progress K resp.value_lt h he

/-- Reading the whole rest of a value from a cursor where an entry is read: that entry, then the
rest from the cursor past it. -/
theorem readAll_drop_of_read {s : StatusCode} {value rest : Bytes} {p : Nat}
    {e : MutateResultEntry} (hp : p < value.length)
    (h : (mutateResultFormat s).read (value.drop p) = some (e, rest)) :
    (mutateResultFormat s).readAll (value.drop p) =
      (e :: ·) <$> (mutateResultFormat s).readAll (value.drop (value.length - rest.length)) := by
  have hsuf : rest <:+ value :=
    (mutateResultFormat_read_cons (List.drop_eq_getElem_cons hp ▸ h)).2.trans (List.drop_suffix _ _)
  rw [← List.suffix_iff_eq_drop.mp hsuf, EntryFormat.readAll_of_read _ h]

section Loop

variable (K : MemdConsts) (resp : MemdResponse) {results : List SubDocResult} {readPos : UInt32}

theorem subDocMutateLoop_of_ok {results' : List SubDocResult} {readPos' : UInt32}
    (h : readPos < UInt32.ofNat resp.value.length)
    (he : subDocMutateEntry K resp.value results readPos = .ok (results', readPos')) :
    subDocMutateLoop K resp results readPos = subDocMutateLoop K resp results' readPos' := by
  rw [subDocMutateLoop, dif_pos h]
  split <;> simp_all

theorem subDocMutateLoop_of_panic (h : readPos < UInt32.ofNat resp.value.length)
    (he : subDocMutateEntry K resp.value results readPos = .panic) :
    subDocMutateLoop K resp results readPos = .panic := by
  rw [subDocMutateLoop, dif_pos h]
  split <;> simp_all

theorem subDocMutateLoop_of_ge (h : ¬ readPos < UInt32.ofNat resp.value.length) :
    subDocMutateLoop K resp results readPos = .ok results := by
  rw [subDocMutateLoop, dif_neg h]

/-- The loop from a cursor inside the value is the format's reader over the rest of the value:
it panics unless the rest is a whole concatenation of entries whose indices are in range, and
stores the entries in order otherwise. -/
theorem subDocMutateLoop_eq (results : List SubDocResult) (readPos : UInt32)
    (hp : readPos.toNat ≤ resp.value.length) :
    subDocMutateLoop K resp results readPos =
      match (mutateResultFormat K.statusSuccess).readAll (resp.value.drop readPos.toNat) with
      | none => .panic
      | some es =>
        if ∀ e ∈ es, e.index.toNat < results.length then .ok (applyResults K results es)
        else .panic := by
  induction results, readPos using subDocMutateLoop.induct K resp with
  | case1 results readPos h results' readPos' he ih =>
    rw [subDocMutateLoop_of_ok K resp h he]
    have hp' := UInt32.toNat_lt_of_lt resp.value_lt h
    rw [subDocMutateEntry_eq K resp.value_lt results hp'] at he
    split at he
    · cases he
    rename_i e rest hread
    split_ifs at he with hn
    cases he
    have hlt := (mutateResultFormat K.statusSuccess).consumes hread
    rw [List.length_drop] at hlt
    have hpos : (UInt32.ofNat (resp.value.length - rest.length)).toNat =
        resp.value.length - rest.length := by
      rw [uint32_toNat_ofNat, Nat.mod_eq_of_lt (by have := resp.value_lt; omega)]
    rw [ih (by omega), hpos, readAll_drop_of_read hp' hread]
    cases (mutateResultFormat K.statusSuccess).readAll
        (resp.value.drop (resp.value.length - rest.length)) with
    | none => rfl
    | some es =>
      simp only [Option.map_eq_map, Option.map_some', List.forall_mem_cons, List.length_modify, hn,
        true_and]
      rfl
  | case2 results readPos h e he =>
    rw [subDocMutateEntry_eq K resp.value_lt results (UInt32.toNat_lt_of_lt resp.value_lt h)] at he
    split at he
    · cases he
    · split_ifs at he
  | case3 results readPos h he =>
    rw [subDocMutateLoop_of_panic K resp h he]
    have hp' := UInt32.toNat_lt_of_lt resp.value_lt h
    rw [subDocMutateEntry_eq K resp.value_lt results hp'] at he
    split at he
    · rename_i hread
      have hne : resp.value.drop readPos.toNat ≠ [] := by simp; omega
      rw [EntryFormat.readAll_of_read_none _ hne hread]
    rename_i e rest hread
    split_ifs at he with hn
    rw [readAll_drop_of_read hp' hread]
    cases (mutateResultFormat K.statusSuccess).readAll
        (resp.value.drop (resp.value.length - rest.length)) with
    | none => rfl
    | some es =>
      simp only [Option.map_eq_map, Option.map_some', List.forall_mem_cons, hn, false_and]
      rfl
  | case4 results readPos h =>
    have hlen : resp.value.length ≤ readPos.toNat :=
      UInt32.le_toNat_of_le resp.value_lt (UInt32.not_lt.mp h)
    rw [subDocMutateLoop_of_ge K resp h, List.drop_eq_nil_of_le hlen, EntryFormat.readAll_nil]
    simp [applyResults]

end Loop

/-! ### The handler -/

/-- The `SubDocMutateError` of an `ErrSubDocBadMulti` reply: the index of the operation that
failed and the error of its status. -/
def subDocBadMultiError (K : MemdConsts) (value : Bytes) : Go AgentError := do
  let opIndex := (← Go.index value 0).toNat
  let resError ← Go.uint16At value 1
  pure (.subDocMutate (K.getMemdError resError) opIndex)

/-- The handler `SubDocMutate` dispatches with its request, for `n = len(ops)` operations. -/
def subDocMutateHandler (K : MemdConsts) (n : Nat) (resp : MemdResponse) (req : MemdPacket)
    (err : Option AgentError) : Handled MutateInArgs :=
  if isOtherError err then .callback ⟨none, 0, .zero, err⟩ else
  match err with
  | some .subDocBadMulti =>
    if resp.value.length ≠ 3 then .callback ⟨none, 0, .zero, some .protocol⟩ else
    match subDocBadMultiError K resp.value with
    | .ok e => .callback ⟨none, 0, .zero, some e⟩
    | .err e => .callback ⟨none, 0, .zero, some e⟩
    | .panic => .panic
  | _ =>
    match subDocMutateLoop K resp (List.replicate n .zero) 0 with
    | .ok results => .callback ⟨some results, resp.cas, readMutationToken resp req, none⟩
    | .err e => .callback ⟨none, 0, .zero, some e⟩
    | .panic => .panic

section Handler

variable (K : MemdConsts) (n : Nat) (resp : MemdResponse) (req : MemdPacket)

/-- On a success reply the handler runs the loop over fresh results. -/
theorem subDocMutateHandler_none :
    subDocMutateHandler K n resp req none =
      match subDocMutateLoop K resp (List.replicate n .zero) 0 with
      | .ok results => .callback ⟨some results, resp.cas, readMutationToken resp req, none⟩
      | .err e => .callback ⟨none, 0, .zero, some e⟩
      | .panic => .panic :=
  rfl

theorem subDocMutateLoop_start :
    subDocMutateLoop K resp (List.replicate n .zero) 0 =
      match (mutateResultFormat K.statusSuccess).readAll resp.value with
      | none => .panic
      | some es =>
        if ∀ e ∈ es, e.index.toNat < n then .ok (applyResults K (List.replicate n .zero) es)
        else .panic := by
  rw [subDocMutateLoop_eq K resp _ 0 (by simp), UInt32.toNat_zero, List.drop_zero,
    List.length_replicate]

/-- An `ErrSubDocBadMulti` reply of three bytes is read as the index of the operation that failed
and its status. -/
theorem subDocMutateHandler_of_badMulti {index s0 s1 : UInt8}
    (h : resp.value = [index, s0, s1]) :
    subDocMutateHandler K n resp req (some .subDocBadMulti) =
      .callback ⟨none, 0, .zero,
        some (.subDocMutate (K.getMemdError (UInt16.ofNat (beNat [s0, s1]))) index.toNat)⟩ := by
  unfold subDocMutateHandler
  rw [if_neg (by decide)]
  dsimp only
  rw [h]
  rfl

/-- On a success reply that is not a whole concatenation of reply entries whose indices name
operations, the handler panics. -/
theorem subDocMutateHandler_panics_on_malformed
    (hbad : ¬ ∃ es, (mutateResultFormat K.statusSuccess).readAll resp.value = some es ∧
      ∀ e ∈ es, e.index.toNat < n) :
    subDocMutateHandler K n resp req none = .panic := by
  rw [subDocMutateHandler_none, subDocMutateLoop_start]
  cases h : (mutateResultFormat K.statusSuccess).readAll resp.value with
  | none => rfl
  | some es =>
    dsimp only
    rw [if_neg (fun hall => hbad ⟨es, h, hall⟩)]

theorem subDocMutateHandler_panics_on_one_byte :
    (¬ ∃ es, (mutateResultFormat (default : MemdConsts).statusSuccess).readAll [0] = some es ∧
      ∀ e ∈ es, e.index.toNat < 1) ∧
    subDocMutateHandler default 1
      ⟨{ magic := 0, opcode := 0, datatype := 0, vbucket := 0, cas := 0, extras := [], key := [],
         value := [0] }, by decide⟩
      { magic := 0, opcode := 0, datatype := 0, vbucket := 0, cas := 0, extras := [], key := [],
        value := [] } none = .panic := by
  have hbad : ¬ ∃ es, (mutateResultFormat (default : MemdConsts).statusSuccess).readAll [0] =
      some es ∧ ∀ e ∈ es, e.index.toNat < 1 := fun ⟨es, h, _⟩ => by
    rw [EntryFormat.readAll_of_read_none _ (by simp) (by decide)] at h
    cases h
  exact ⟨hbad, subDocMutateHandler_panics_on_malformed default 1 _ _ hbad⟩

/-- A success reply made of entries with distinct indices that name operations is stored entry
by entry: each named result gets its entry's error and value, the others stay zero. -/
theorem subDocMutateHandler_stores_results (es : List MutateResultEntry)
    (hfits : ∀ e ∈ es, (mutateResultFormat K.statusSuccess).Fits e)
    (hidx : ∀ e ∈ es, e.index.toNat < n) (hnodup : (es.map MutateResultEntry.index).Nodup)
    (hv : resp.value = (mutateResultFormat K.statusSuccess).writeAll es) :
    ∃ results, subDocMutateHandler K n resp req none =
        .callback ⟨some results, resp.cas, readMutationToken resp req, none⟩ ∧
      results.length = n ∧
      (∀ e ∈ es, results[e.index.toNat]? = some ⟨K.getMemdError e.status, e.value⟩) ∧
      ∀ j < n, (∀ e ∈ es, e.index.toNat ≠ j) → results[j]? = some .zero := by
  refine ⟨applyResults K (List.replicate n .zero) es, ?_, by simp, fun e he => ?_,
    fun j hj hne => ?_⟩
  · rw [subDocMutateHandler_none, subDocMutateLoop_start, hv,
      EntryFormat.readAll_writeAll _ hfits]
    dsimp only
    rw [if_pos hidx]
  · rw [applyResults_getElem?_index K _ hnodup he, List.getElem?_replicate_of_lt (hidx e he)]
    simp [MutateResultEntry.apply, SubDocResult.zero, Option.or_none]
  · rw [applyResults_getElem?_of_forall_ne K _ hne, List.getElem?_replicate_of_lt hj]

theorem subDocMutateHandler_stores_one_value :
    (∀ e ∈ [⟨1, 0, some [7]⟩], (mutateResultFormat (default : MemdConsts).statusSuccess).Fits e) ∧
    (∀ e ∈ [(⟨1, 0, some [7]⟩ : MutateResultEntry)], e.index.toNat < 2) ∧
    ([(⟨1, 0, some [7]⟩ : MutateResultEntry)].map MutateResultEntry.index).Nodup ∧
    [1, 0, 0, 0, 0, 0, 1, 7] =
      (mutateResultFormat (default : MemdConsts).statusSuccess).writeAll [⟨1, 0, some [7]⟩] ∧
    ∃ results, subDocMutateHandler default 2
        ⟨{ magic := 0, opcode := 0, datatype := 0, vbucket := 0, cas := 9, extras := [], key := [],
           value := [1, 0, 0, 0, 0, 0, 1, 7] }, by decide⟩
        { magic := 0, opcode := 0, datatype := 0, vbucket := 0, cas := 0, extras := [], key := [],
          value := [] } none =
        .callback ⟨some results, 9, .zero, none⟩ ∧
      results.length = 2 ∧
      (∀ e ∈ [(⟨1, 0, some [7]⟩ : MutateResultEntry)],
        results[e.index.toNat]? = some ⟨(default : MemdConsts).getMemdError e.status, e.value⟩) ∧
      ∀ j < 2, (∀ e ∈ [(⟨1, 0, some [7]⟩ : MutateResultEntry)], e.index.toNat ≠ j) →
        results[j]? = some .zero := by
  have hfits : ∀ e ∈ [⟨1, 0, some [7]⟩],
      (mutateResultFormat (default : MemdConsts).statusSuccess).Fits e := by
    simp only [List.mem_singleton, forall_eq]
    exact ⟨rfl, by decide⟩
  have hidx : ∀ e ∈ [(⟨1, 0, some [7]⟩ : MutateResultEntry)], e.index.toNat < 2 := by decide
  have hnodup : ([(⟨1, 0, some [7]⟩ : MutateResultEntry)].map MutateResultEntry.index).Nodup :=
    by decide
  have hv : [1, 0, 0, 0, 0, 0, 1, 7] =
      (mutateResultFormat (default : MemdConsts).statusSuccess).writeAll [⟨1, 0, some [7]⟩] := by
    decide
  exact ⟨hfits, hidx, hnodup, hv,
    subDocMutateHandler_stores_results default 2 _ _ _ hfits hidx hnodup hv⟩

theorem subDocMutateHandler_none_eq :
    subDocMutateHandler K n resp req none =
      match (mutateResultFormat K.statusSuccess).readAll resp.value with
      | none => .panic
      | some es =>
        if ∀ e ∈ es, e.index.toNat < n then
          .callback ⟨some (applyResults K (List.replicate n .zero) es), resp.cas,
            readMutationToken resp req, none⟩
        else .panic := by
  rw [subDocMutateHandler_none, subDocMutateLoop_start]
  cases (mutateResultFormat K.statusSuccess).readAll resp.value with
  | none => rfl
  | some es =>
    dsimp only
    by_cases h : ∀ e ∈ es, e.index.toNat < n
    · rw [if_pos h, if_pos h]
    · rw [if_neg h, if_neg h]

theorem subDocMutateHandler_badMulti :
    subDocMutateHandler K n resp req (some .subDocBadMulti) =
      match resp.value with
      | [index, s0, s1] =>
        .callback ⟨none, 0, .zero,
          some (.subDocMutate (K.getMemdError (UInt16.ofNat (beNat [s0, s1]))) index.toNat)⟩
      | _ => .callback ⟨none, 0, .zero, some .protocol⟩ := by
  unfold subDocMutateHandler
  rw [if_neg (by decide)]
  dsimp only
  match resp.value with
  | [] => rfl
  | [_] => rfl
  | [_, _] => rfl
  | [_, _, _] => rfl
  | _ :: _ :: _ :: _ :: _ => simp

end Handler

end SubDocAgent
