import SubDocAgent.MultiRequest
import SubDocAgent.LookupHandler
import SubDocAgent.MutateHandler

/-!
# Whole exchanges with a server

The agent is one half of a multi-path operation: it sends the request and reads the reply. The
other half, the server, is not in this repository; here it is any server that reads the request's
body with the request format's reader and answers in the reply format of its command. A lookup
server answers each entry by a function `answer`. A mutation server applies each entry by a
function `outcome`, refusing the whole request with `ErrSubDocBadMulti` at the first that fails,
and otherwise returns an entry for each mutation that gives a value, with its mutation token.
-/

namespace SubDocAgent

/-! ### Multi-path lookups -/

/-- A server of multi-path lookups: it reads the request's body as lookup entries and answers
each, in order, with the reply entry `answer` gives for it; `none` when the body is not a whole
concatenation of entries. -/
def lookupServer (answer : LookupEntry → LookupResultEntry) (body : Bytes) : Option Bytes :=
  (fun es => lookupResultFormat.writeAll (es.map answer)) <$> lookupEntryFormat.readAll body

/-- A multi-path lookup against any server: when every path is shorter than `2 ^ 16` bytes and
every answer shorter than `2 ^ 32`, the handler calls back with one result per operation, the
server's answer to it, in the operations' order, with the reply's CAS and error. On a 32-bit
platform this holds for replies shorter than `2 ^ 31` bytes. -/
theorem subDocLookup_exchange (W : IntWidth) (K : MemdConsts) (key : Bytes) (ops : List SubDocOp)
    (pkt : MemdPacket) (hreq : subDocLookup W K key ops = .ok pkt)
    (hpaths : ∀ op ∈ ops, op.path.length < 2 ^ 16) (answer : LookupEntry → LookupResultEntry)
    (hanswer : ∀ e, (answer e).value.length < 2 ^ 32) (resp : MemdResponse)
    (hreply : lookupServer answer pkt.value = some resp.value)
    (hw : W = .w32 → resp.value.length < 2 ^ 31) (err : Option AgentError)
    (herr : err = none ∨ err = some .subDocBadMulti) :
    subDocLookupHandler W K ops.length resp err =
      .callback ⟨some (ops.map fun op => lookupResult K (answer op.toLookupEntry)), resp.cas,
        err⟩ := by
  have hfit : ∀ e ∈ ops.map SubDocOp.toLookupEntry, lookupEntryFormat.Fits e :=
    List.forall_mem_map.mpr hpaths
  have hanswers : ∀ a ∈ (ops.map SubDocOp.toLookupEntry).map answer, lookupResultFormat.Fits a :=
    List.forall_mem_map.mpr fun e _ => hanswer e
  have hbits := W.two_pow_bits
  have h31 := W.two_pow_31_le
  simp only [lookupServer, subDocLookup_value hreq fun op hop => by have := hpaths op hop; omega,
    lookupEntryFormat.readAll_writeAll hfit, Option.map_eq_map, Option.map_some',
    Option.some.injEq] at hreply
  have hread := lookupResultFormat.readCount_writeAll hanswers []
  rw [List.append_nil, hreply, List.length_map, List.length_map] at hread
  rw [subDocLookupHandler_of_readCount W K _ resp err herr hw hread, List.map_map, List.map_map]
  rfl

theorem subDocLookup_exchange_one_get :
    subDocLookupHandler .w32 default 1
        ⟨{ magic := 0, opcode := 0, datatype := 0, vbucket := 0, cas := 5, extras := [], key := [],
           value := [0, 0, 0, 0, 0, 1, 7] }, by decide⟩ none =
      .callback ⟨some ([(⟨0, 0, [1], none⟩ : SubDocOp)].map fun op =>
        lookupResult default ((fun _ => ⟨0, [7]⟩ : LookupEntry → LookupResultEntry)
          op.toLookupEntry)), 5, none⟩ :=
  subDocLookup_exchange .w32 default [] [⟨0, 0, [1], none⟩]
    { magic := 0, opcode := 0, datatype := 0, vbucket := 0, cas := 0, extras := [], key := [],
      value := [0, 0, 0, 1, 1] }
    (by rw [subDocLookup_eq .w32 default [] _ (by decide), if_pos (by decide)]; rfl)
    (by decide) (fun _ => ⟨0, [7]⟩)
    (fun _ => show [7].length < 2 ^ 32 by decide) _
    (by
      rw [show ([0, 0, 0, 1, 1] : Bytes) = lookupEntryFormat.writeAll [⟨0, 0, [1]⟩] from rfl,
        lookupServer, lookupEntryFormat.readAll_writeAll
          (by exact List.forall_mem_singleton.mpr (show [1].length < 2 ^ 16 by decide))]
      rfl)
    (fun _ => by decide) none (Or.inl rfl)


/-! ### Multi-path mutations -/

/-- How a server answers one mutation: it applies it, with a value to return or none, or it
fails with a status. -/
inductive MutateOutcome where
  | applied (value : Option Bytes)
  | failed (status : StatusCode)

/-- The first mutation that fails, with its index and status. -/
def firstFailure (outcome : MutateEntry → MutateOutcome) :
    List MutateEntry → Option (Nat × StatusCode)
  | [] => none
  | e :: es =>
    match outcome e with
    | .failed s => some (0, s)
    | .applied _ => (firstFailure outcome es).map fun (i, s) => (i + 1, s)

/-- The reply entries of applied mutations, the first of which has index `i`: one for each
mutation that gives a value, with its index, the success status and the value. -/
def appliedEntries (success : StatusCode) (outcome : MutateEntry → MutateOutcome) :
    Nat → List MutateEntry → List MutateResultEntry
  | _, [] => []
  | i, e :: es =>
    match outcome e with
    | .applied (some v) =>
      ⟨UInt8.ofNat i, success, some v⟩ :: appliedEntries success outcome (i + 1) es
    | _ => appliedEntries success outcome (i + 1) es

/-- The extras of a success reply: the vBucket UUID and the sequence number of the mutation token
when the server sends one. -/
def tokenExtras : Option (UInt64 × UInt64) → Bytes
  | some (vbUuid, seqNo) => be64 vbUuid ++ be64 seqNo
  | none => []

/-- A reply as the handler receives it: the error its status stands for, its extras and its
value. -/
structure MutateReply where
  err : Option AgentError
  extras : Bytes
  value : Bytes

/-- A server of multi-mutations: it reads the request's body as mutation entries. When one fails
it replies `ErrSubDocBadMulti` with the index and status of the first that failed; otherwise a
success whose extras hold its token and whose body holds an entry for each mutation that gives a
value. `none` when the body is not a whole concatenation of entries. -/
def mutateServer (success : StatusCode) (outcome : MutateEntry → MutateOutcome)
    (token : Option (UInt64 × UInt64)) (body : Bytes) : Option MutateReply :=
  (mutateEntryFormat.readAll body).map fun es =>
    match firstFailure outcome es with
    | some (i, s) => ⟨some .subDocBadMulti, [], UInt8.ofNat i :: be16 s⟩
    | none =>
      ⟨none, tokenExtras token,
        (mutateResultFormat success).writeAll (appliedEntries success outcome 0 es)⟩

/-- The result of a mutation the server applied: the error of the success status and the value
it gave, or zero when it gave none. -/
def appliedResult (K : MemdConsts) (outcome : MutateEntry → MutateOutcome) (e : MutateEntry) :
    SubDocResult :=
  match outcome e with
  | .applied (some v) => ⟨K.getMemdError K.statusSuccess, some v⟩
  | _ => .zero

/-- The token a callback receives for the token a server sends: the request's vBucket with the
server's UUID and sequence number, or zero. -/
def tokenOf (req : MemdPacket) : Option (UInt64 × UInt64) → MutationToken
  | some (vbUuid, seqNo) => ⟨req.vbucket, vbUuid, seqNo⟩
  | none => .zero

theorem readMutationToken_tokenExtras (resp : MemdResponse) (req : MemdPacket)
    {token : Option (UInt64 × UInt64)} (h : resp.extras = tokenExtras token) :
    readMutationToken resp req = tokenOf req token := by
  rcases token with _ | ⟨vbUuid, seqNo⟩
  · exact readMutationToken_of_lt resp req (by rw [h]; decide)
  · exact readMutationToken_be64 resp req vbUuid seqNo [] (by rw [h, List.append_nil]; rfl)

theorem modify_append_length {α : Type} (f : α → α) (pre : List α) (x : α) (rest : List α) :
    (pre ++ x :: rest).modify f pre.length = pre ++ f x :: rest := by
  induction pre with
  | nil => simp
  | cons a pre ih => simp [ih]

section Server

variable (outcome : MutateEntry → MutateOutcome)

theorem firstFailure_lt {es : List MutateEntry} {i : Nat} {s : StatusCode}
    (h : firstFailure outcome es = some (i, s)) : i < es.length := by
  induction es generalizing i with
  | nil => cases h
  | cons e es ih =>
    rw [firstFailure] at h
    split at h
    · cases h
      exact Nat.succ_pos _
    · obtain ⟨⟨j, s'⟩, hj, hij⟩ := Option.map_eq_some'.mp h
      cases hij
      exact Nat.succ_lt_succ (ih hj)

variable {success : StatusCode}

theorem appliedEntries_fits (hvalues : ∀ e v, outcome e = .applied (some v) → v.length < 2 ^ 32)
    (i : Nat) (es : List MutateEntry) :
    ∀ x ∈ appliedEntries success outcome i es, (mutateResultFormat success).Fits x := by
  induction es generalizing i with
  | nil => intro x hx; cases hx
  | cons e es ih =>
    rw [appliedEntries]
    split
    · next v hv =>
      intro x hx
      rcases List.mem_cons.mp hx with rfl | hx
      · exact ⟨rfl, hvalues e v hv⟩
      · exact ih (i + 1) x hx
    · exact ih (i + 1)

theorem appliedEntries_index_lt (i : Nat) (es : List MutateEntry) (h : i + es.length ≤ 256) :
    ∀ x ∈ appliedEntries success outcome i es, x.index.toNat < i + es.length := by
  induction es generalizing i with
  | nil => intro x hx; cases hx
  | cons e es ih =>
    rw [List.length_cons] at h ⊢
    have ih' := ih (i + 1) (by omega)
    rw [appliedEntries]
    split
    · intro x hx
      rcases List.mem_cons.mp hx with rfl | hx
      · show (UInt8.ofNat i).toNat < _
        rw [uint8_toNat_ofNat]
        omega
      · have := ih' x hx
        omega
    · intro x hx
      have := ih' x hx
      omega

/-- Storing the entries of applied mutations into zero results after `pre` gives each mutation's
result at its place. -/
theorem applyResults_appliedEntries (K : MemdConsts) (es : List MutateEntry)
    (pre : List SubDocResult) (h : pre.length + es.length ≤ 256) :
    applyResults K (pre ++ List.replicate es.length .zero)
        (appliedEntries K.statusSuccess outcome pre.length es) =
      pre ++ es.map (appliedResult K outcome) := by
  induction es generalizing pre with
  | nil => simp [appliedEntries, applyResults]
  | cons e es ih =>
    rw [List.length_cons] at h ⊢
    rw [List.replicate_succ, List.map_cons, appliedEntries]
    have hr : appliedResult K outcome e = match outcome e with
      | .applied (some v) => ⟨K.getMemdError K.statusSuccess, some v⟩
      | _ => .zero := rfl
    rw [hr]
    split
    · next v hv =>
      have ih' := ih (pre ++ [⟨K.getMemdError K.statusSuccess, some v⟩])
        (by rw [List.length_append, List.length_singleton]; omega)
      rw [List.length_append, List.length_singleton, List.append_assoc,
        List.singleton_append, List.append_assoc, List.singleton_append] at ih'
      rw [applyResults_cons, uint8_toNat_ofNat, Nat.mod_eq_of_lt (by omega), modify_append_length]
      exact ih'
    · have ih' := ih (pre ++ [.zero]) (by rw [List.length_append, List.length_singleton]; omega)
      rw [List.length_append, List.length_singleton, List.append_assoc,
        List.singleton_append, List.append_assoc, List.singleton_append] at ih'
      exact ih'

end Server

/-- A multi-mutation against any server: when every path is shorter than `2 ^ 16` bytes, every
value and every value the server returns shorter than `2 ^ 32`, and there are at most 256
operations (the reply names an operation by one byte), the handler calls back with the index
and the status's error of the first operation that failed, when one failed; and otherwise with
one result per operation, the value the server gave it or zero, in the operations' order, the
reply's CAS and the server's mutation token with the request's vBucket. -/
theorem subDocMutate_exchange (W : IntWidth) (K : MemdConsts) (key : Bytes) (ops : List SubDocOp)
    (cas : Cas) (expiry : UInt32) (pkt : MemdPacket)
    (hreq : subDocMutate W K key ops cas expiry = .ok pkt)
    (hfit : ∀ op ∈ ops, op.path.length < 2 ^ 16 ∧ op.valueBytes.length < 2 ^ 32)
    (hn : ops.length ≤ 256) (outcome : MutateEntry → MutateOutcome)
    (hvalues : ∀ e v, outcome e = .applied (some v) → v.length < 2 ^ 32)
    (token : Option (UInt64 × UInt64)) (reply : MutateReply)
    (hreply : mutateServer K.statusSuccess outcome token pkt.value = some reply)
    (resp : MemdResponse) (hextras : resp.extras = reply.extras)
    (hvalue : resp.value = reply.value) (req : MemdPacket) :
    subDocMutateHandler K ops.length resp req reply.err =
      match firstFailure outcome (ops.map SubDocOp.toMutateEntry) with
      | some (i, s) => .callback ⟨none, 0, .zero, some (.subDocMutate (K.getMemdError s) i)⟩
      | none =>
        .callback ⟨some (ops.map fun op => appliedResult K outcome op.toMutateEntry), resp.cas,
          tokenOf req token, none⟩ := by
  have hbody : ∀ e ∈ ops.map SubDocOp.toMutateEntry, mutateEntryFormat.Fits e :=
    List.forall_mem_map.mpr hfit
  have hbits := W.two_pow_bits
  have h31 := W.two_pow_31_le
  simp only [mutateServer, subDocMutate_value hreq fun op hop => by have := (hfit op hop).2; omega,
    mutateEntryFormat.readAll_writeAll hbody, Option.map_some', Option.some.injEq] at hreply
  subst hreply
  cases hf : firstFailure outcome (ops.map SubDocOp.toMutateEntry) with
  | some is =>
    obtain ⟨i, s⟩ := is
    have hi := firstFailure_lt outcome hf
    rw [List.length_map] at hi
    rw [hf] at hvalue
    dsimp only at hvalue ⊢
    rw [subDocMutateHandler_of_badMulti K _ resp req (hvalue.trans (by rw [be16_eq])),
      ← be16_eq, beNat_be16, uint16_ofNat_toNat, uint8_toNat_ofNat, Nat.mod_eq_of_lt (by omega)]
  | none =>
    rw [hf] at hvalue hextras
    dsimp only at hvalue hextras ⊢
    have hidx : ∀ x ∈ appliedEntries K.statusSuccess outcome 0 (ops.map SubDocOp.toMutateEntry),
        x.index.toNat < 0 + (ops.map SubDocOp.toMutateEntry).length :=
      appliedEntries_index_lt outcome 0 _ (by simpa using hn)
    rw [subDocMutateHandler_none, subDocMutateLoop_start, hvalue,
      (mutateResultFormat _).readAll_writeAll (appliedEntries_fits outcome hvalues 0 _)]
    dsimp only
    rw [if_pos (fun x hx => by simpa using hidx x hx)]
    have happ := applyResults_appliedEntries outcome K (ops.map SubDocOp.toMutateEntry) []
      (by simpa using hn)
    rw [List.nil_append, List.length_map, List.nil_append, List.length_nil] at happ
    rw [happ, List.map_map, readMutationToken_tokenExtras resp req hextras]
    rfl

theorem subDocMutate_exchange_one_counter :
    subDocMutateHandler default 1
        ⟨{ magic := 0, opcode := 0, datatype := 0, vbucket := 0, cas := 7,
           extras := [0, 0, 0, 0, 0, 0, 0, 3, 0, 0, 0, 0, 0, 0, 0, 4], key := [],
           value := [0, 0, 0, 0, 0, 0, 1, 9] }, by decide⟩
        ⟨0, 0, 0, 12, 0, [], [], []⟩ none =
      match firstFailure (fun _ => .applied (some [9]))
          ([(⟨0, 0, [1], some [2]⟩ : SubDocOp)].map SubDocOp.toMutateEntry) with
      | some (i, s) =>
        .callback ⟨none, 0, .zero, some (.subDocMutate ((default : MemdConsts).getMemdError s) i)⟩
      | none =>
        .callback ⟨some ([(⟨0, 0, [1], some [2]⟩ : SubDocOp)].map fun op =>
            appliedResult default (fun _ => .applied (some [9])) op.toMutateEntry), 7,
          tokenOf ⟨0, 0, 0, 12, 0, [], [], []⟩ (some (3, 4)), none⟩ :=
  subDocMutate_exchange .w64 default [] [⟨0, 0, [1], some [2]⟩] 0 0
    { magic := 0, opcode := 0, datatype := 0, vbucket := 0, cas := 0, extras := [], key := [],
      value := [0, 0, 0, 1, 0, 0, 0, 1, 1, 2] }
    (by rw [subDocMutate_eq .w64 default [] _ 0 0 (by decide), if_pos (by decide)]; rfl)
    (by decide) (by decide)
    (fun _ => .applied (some [9])) (fun _ v h => by cases h; decide) (some (3, 4))
    ⟨none, be64 3 ++ be64 4, [0, 0, 0, 0, 0, 0, 1, 9]⟩
    (by
      rw [show ([0, 0, 0, 1, 0, 0, 0, 1, 1, 2] : Bytes) =
          mutateEntryFormat.writeAll [⟨0, 0, [1], [2]⟩] from rfl, mutateServer,
        mutateEntryFormat.readAll_writeAll (by
          exact List.forall_mem_singleton.mpr
            (show [1].length < 2 ^ 16 ∧ [2].length < 2 ^ 32 by decide))]
      rfl)
    _ rfl rfl _

end SubDocAgent
