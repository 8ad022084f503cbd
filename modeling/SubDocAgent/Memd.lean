import SubDocAgent.Go

/-!
# Packets, operations and the protocol constants

The memcached binary packet as the agent builds and reads it, the per-operation structure
`SubDocOp` and the result `SubDocResult` of the multi-path calls, and what a response
handler does with a reply. The command codes, operation types, flags and status codes the
sub-document code names are declared in a part of the client outside this model, so
`MemdConsts` takes them, and `getMemdError`, as a parameter: every result holds whatever
their values are.
-/

namespace SubDocAgent

abbrev CommandCode := UInt8

abbrev SubDocOpType := UInt8

abbrev SubDocFlag := UInt8

abbrev Cas := UInt64

/-- The constants of the sub-document protocol the operations use. -/
structure MemdConsts where
  reqMagic : UInt8
  cmdSubDocGet : CommandCode
  cmdSubDocExists : CommandCode
  cmdSubDocDictAdd : CommandCode
  cmdSubDocDictSet : CommandCode
  cmdSubDocDelete : CommandCode
  cmdSubDocReplace : CommandCode
  cmdSubDocArrayPushLast : CommandCode
  cmdSubDocArrayPushFirst : CommandCode
  cmdSubDocArrayInsert : CommandCode
  cmdSubDocArrayAddUnique : CommandCode
  cmdSubDocCounter : CommandCode
  cmdSubDocMultiLookup : CommandCode
  cmdSubDocMultiMutation : CommandCode
  subDocOpGet : SubDocOpType
  subDocOpExists : SubDocOpType
  subDocOpDictAdd : SubDocOpType
  subDocOpDictSet : SubDocOpType
  subDocOpDelete : SubDocOpType
  subDocOpReplace : SubDocOpType
  subDocOpArrayPushLast : SubDocOpType
  subDocOpArrayPushFirst : SubDocOpType
  subDocOpArrayInsert : SubDocOpType
  subDocOpArrayAddUnique : SubDocOpType
  subDocOpCounter : SubDocOpType
  subDocFlagMkDirP : SubDocFlag
  statusSuccess : StatusCode
  /-- The error a response status stands for; `none` is a nil error. -/
  getMemdError : StatusCode → Option AgentError
  deriving Inhabited

namespace MemdConsts

/-- The nine operation types `SubDocMutate` accepts. -/
def mutationOps (K : MemdConsts) : List SubDocOpType :=
  [K.subDocOpDictAdd, K.subDocOpDictSet, K.subDocOpDelete, K.subDocOpReplace,
    K.subDocOpArrayPushLast, K.subDocOpArrayPushFirst, K.subDocOpArrayInsert,
    K.subDocOpArrayAddUnique, K.subDocOpCounter]

def lookupOps (K : MemdConsts) : List SubDocOpType := [K.subDocOpGet, K.subDocOpExists]

end MemdConsts

/-- A memcached binary packet, with the fields the sub-document operations set or read. -/
structure MemdPacket where
  magic : UInt8
  opcode : CommandCode
  datatype : UInt8
  vbucket : UInt16
  cas : Cas
  extras : Bytes
  key : Bytes
  value : Bytes
  deriving DecidableEq, Repr

/-- A packet read off a connection. The header counts its body `extras ++ key ++ value` in
a 32-bit total body length, so the body is shorter than `2 ^ 32` bytes. -/
structure MemdResponse extends MemdPacket where
  body_lt : extras.length + key.length + value.length < 2 ^ 32

theorem MemdResponse.value_lt (resp : MemdResponse) : resp.value.length < 2 ^ 32 := by
  have := resp.body_lt
  omega

/-- One operation of a multi-path request. `value = none` is a nil `Value`. -/
structure SubDocOp where
  op : SubDocOpType
  flags : SubDocFlag
  path : Bytes
  value : Option Bytes
  deriving DecidableEq, Repr

/-- The bytes of an operation's value: a nil value has none. -/
def SubDocOp.valueBytes (op : SubDocOp) : Bytes := op.value.getD []

structure SubDocResult where
  err : Option AgentError
  value : Option Bytes

def SubDocResult.zero : SubDocResult := ⟨none, none⟩

structure MutationToken where
  vbId : UInt16
  vbUuid : UInt64
  seqNo : UInt64
  deriving DecidableEq, Repr

def MutationToken.zero : MutationToken := ⟨0, 0, 0⟩

/-- The token the handlers of the mutating operations read: the vBucket of the request and
two big-endian 64-bit numbers at the front of the reply's extras, when it has 16 bytes. -/
def readMutationToken (resp : MemdResponse) (req : MemdPacket) : MutationToken :=
  if 16 ≤ resp.extras.length then
    ⟨req.vbucket, UInt64.ofNat (beNat (resp.extras.take 8)),
      UInt64.ofNat (beNat ((resp.extras.drop 8).take 8))⟩
  else MutationToken.zero

/-- Extras that begin with a vBucket UUID and a sequence number, as a server writes a mutation
token, are read back as that token, with the request's vBucket. -/
theorem readMutationToken_be64 (resp : MemdResponse) (req : MemdPacket) (vbUuid seqNo : UInt64)
    (rest : Bytes) (h : resp.extras = be64 vbUuid ++ be64 seqNo ++ rest) :
    readMutationToken resp req = ⟨req.vbucket, vbUuid, seqNo⟩ := by
  rw [readMutationToken, if_pos (by simp [h]; omega), h, List.append_assoc,
    List.take_left' (be64_length vbUuid), List.drop_left' (be64_length vbUuid),
    List.take_left' (be64_length seqNo), beNat_be64, beNat_be64, uint64_ofNat_toNat,
    uint64_ofNat_toNat]

theorem readMutationToken_of_lt (resp : MemdResponse) (req : MemdPacket)
    (h : resp.extras.length < 16) : readMutationToken resp req = .zero :=
  if_neg (by omega)

/-- `err != nil && err != ErrSubDocBadMulti`: an error the multi-path handlers pass to their
callback without reading the reply. -/
def isOtherError : Option AgentError → Bool
  | none => false
  | some .subDocBadMulti => false
  | some _ => true

/-- What a response handler does: it calls its operation's callback once with these
arguments, or it panics before. -/
inductive Handled (α : Type) where
  | callback (args : α)
  | panic

end SubDocAgent
