import Mathlib

/-!
# The bootstrap addresses of a connection string

`FromConnStr` (agent.go) parses a connection string with `gocbconnstr.Parse`, resolves it with
`gocbconnstr.Resolve` (both outside this repository) and fills the configuration from the
result. Its first part, modelled here, sets `MemdAddrs` and `HttpAddrs`: it formats the resolved
hosts as `host:port`, reads the option `bootstrap_on` (its last value, as `fetchOption` takes
for every option), and clears the addresses of the kind that option leaves out, refusing a value
it does not know and a kind that has no hosts. The rest of the function is cut off in agent.go.
-/

namespace SubDocAgent

structure ConnAddress where
  host : String
  port : Int

/-- The fields of the resolved connection string that the part read here uses: its memcached
and HTTP hosts and its options, each with the values given for it in order. -/
structure ResolvedConnSpec where
  memdHosts : List ConnAddress
  httpHosts : List ConnAddress
  options : String → List String

/-- `fetchOption`: the last value given for the option, and whether there is one. -/
def fetchOption (spec : ResolvedConnSpec) (name : String) : String × Bool :=
  let optValue := spec.options name
  if optValue.length = 0 then ("", false) else (optValue.getLastD "", true)

def hostPort (a : ConnAddress) : String := a.host ++ ":" ++ toString a.port

/-- The `switch` on `bootstrap_on`: the memcached and HTTP addresses it keeps, or its error. -/
def bootstrapOn (val : String) (memdHosts httpHosts : List String) :
    Except String (List String × List String) :=
  if val = "http" then
    if httpHosts.length = 0 then .error "bootstrap_on=http but no HTTP hosts in connection string"
    else .ok ([], httpHosts)
  else if val = "cccp" then
    if memdHosts.length = 0 then
      .error "bootstrap_on=cccp but no CCCP/Memcached hosts in connection string"
    else .ok (memdHosts, [])
  else if val = "both" ∨ val = "" then .ok (memdHosts, httpHosts)
  else .error "bootstrap_on=\x7bhttp,cccp,both\x7d"

/-- The part of `FromConnStr` after `Resolve`: the values it gives `config.MemdAddrs` and
`config.HttpAddrs`, or the error it returns before setting either. -/
def fromConnStrAddrs (spec : ResolvedConnSpec) : Except String (List String × List String) :=
  let httpHosts := spec.httpHosts.map hostPort
  let memdHosts := spec.memdHosts.map hostPort
  bootstrapOn (fetchOption spec "bootstrap_on").1 memdHosts httpHosts

theorem fetchOption_fst (spec : ResolvedConnSpec) (name : String) :
    (fetchOption spec name).1 = (spec.options name).getLastD "" := by
  unfold fetchOption
  dsimp only
  split_ifs with h
  · rw [List.length_eq_zero.mp h]
    rfl
  · rfl

/-- What the part sets, for every resolved connection string. With `bootstrap_on=http` it keeps
only the HTTP addresses and needs one; with `cccp` only the memcached addresses and needs one;
with `both` or with no value it keeps both as they are. Any other last value fails. The
addresses are the hosts' `host:port` in order. -/
theorem fromConnStrAddrs_eq_ok_iff (spec : ResolvedConnSpec)
    (memdAddrs httpAddrs : List String) :
    fromConnStrAddrs spec = .ok (memdAddrs, httpAddrs) ↔
      ((fetchOption spec "bootstrap_on").1 = "http" ∧ spec.httpHosts ≠ [] ∧
          memdAddrs = [] ∧ httpAddrs = spec.httpHosts.map hostPort) ∨
      ((fetchOption spec "bootstrap_on").1 = "cccp" ∧ spec.memdHosts ≠ [] ∧
          memdAddrs = spec.memdHosts.map hostPort ∧ httpAddrs = []) ∨
      (((fetchOption spec "bootstrap_on").1 = "both" ∨
          (fetchOption spec "bootstrap_on").1 = "") ∧
          memdAddrs = spec.memdHosts.map hostPort ∧ httpAddrs = spec.httpHosts.map hostPort) := by
  unfold fromConnStrAddrs bootstrapOn
  generalize (fetchOption spec "bootstrap_on").1 = val
  by_cases hhttp : val = "http"
  · subst hhttp
    by_cases hh : spec.httpHosts = [] <;> simp [hh, eq_comm]
  · by_cases hcccp : val = "cccp"
    · subst hcccp
      by_cases hm : spec.memdHosts = [] <;> simp [hm, eq_comm]
    · by_cases hboth : val = "both" ∨ val = ""
      · simp [hhttp, hcccp, hboth, eq_comm]
      · simp [hhttp, hcccp, hboth]

/-- Every error of the part names the option `bootstrap_on`. -/
theorem fromConnStrAddrs_error (spec : ResolvedConnSpec) {e : String}
    (h : fromConnStrAddrs spec = .error e) : ∃ rest, e = "bootstrap_on=" ++ rest := by
  unfold fromConnStrAddrs bootstrapOn at h
  dsimp only at h
  split_ifs at h <;> cases h
  · exact ⟨"http but no HTTP hosts in connection string", rfl⟩
  · exact ⟨"cccp but no CCCP/Memcached hosts in connection string", rfl⟩
  · exact ⟨"\x7bhttp,cccp,both\x7d", rfl⟩

end SubDocAgent
