import Mathlib

/-!
# The agent's settings and its HTTP redirect policy

`createAgent` (agent.go) derives the settings the agent runs with from an `AgentConfig`: each
timeout and size left at zero or below takes a default, the compression ratio is capped at 1,
the hello features negate their `Disable` switches, and the SASL mechanisms have a default list.
agent.go holds `createAgent` twice, cut by merge-conflict markers; modelled are the whole
statements of the first version that compute these settings (lines 268-329 and 421-444), and
the `CheckRedirect` of the HTTP client, with the loop of Go's `http.Client` that calls it.
-/

namespace SubDocAgent

/-! ### Settings -/

abbrev Duration := Int

def millisecond : Duration := 1000000

def second : Duration := 1000000000

inductive AuthMechanism where
  | plain
  | scramSha1
  | scramSha256
  | scramSha512
  deriving DecidableEq, Repr

/-- The fields of `AgentConfig` that the settings below are computed from. The minimum
compression ratio, a `float64` in Go, is a rational here: `createAgent` only compares it with 0
and 1, and a NaN fails `> 0` as a non-positive ratio does. -/
structure AgentConfig where
  useTLS : Bool
  httpIdleConnectionTimeout : Duration
  kvConnectTimeout : Duration
  kvPoolSize : Int
  maxQueueSize : Int
  httpRetryDelay : Duration
  cccpMaxWait : Duration
  cccpPollPeriod : Duration
  compressionMinRatio : ℚ
  authMechanisms : List AuthMechanism
  disableJSONHello : Bool
  disableXErrors : Bool
  disableSyncReplicationHello : Bool

/-- `v := d; if config.V > 0 { v = config.V }`: the configured value when it is positive, and
the default otherwise. -/
def positiveOr (d configured : Int) : Int := if configured > 0 then configured else d

theorem positiveOr_pos {d : Int} (configured : Int) (hd : 0 < d) :
    0 < positiveOr d configured := by
  unfold positiveOr
  split_ifs <;> omega

/-- `compressionMinRatio := 0.83`, replaced by a positive configured ratio, which is capped at
`1.0`. -/
def compressionMinRatioOf (configured : ℚ) : ℚ :=
  if configured > 0 then (if configured ≥ 1 then 1 else configured) else 0.83

/-- The SASL mechanisms: the configured ones, or when there are none, PLAIN over TLS and the
SCRAM family, strongest first, otherwise. A configured PLAIN without TLS is only logged. -/
def authMechanismsOf (useTLS : Bool) (configured : List AuthMechanism) : List AuthMechanism :=
  if configured.isEmpty then
    if useTLS then [.plain] else [.scramSha512, .scramSha256, .scramSha1]
  else configured

structure AgentSettings where
  httpIdleConnTimeout : Duration
  kvConnectTimeout : Duration
  serverWaitTimeout : Duration
  kvPoolSize : Int
  maxQueueSize : Int
  confHTTPRetryDelay : Duration
  confCccpMaxWait : Duration
  confCccpPollPeriod : Duration
  compressionMinSize : Int
  compressionMinRatio : ℚ
  useJSONHello : Bool
  useXErrorHello : Bool
  useSyncReplicationHello : Bool
  authMechanisms : List AuthMechanism

/-- The settings of the first `createAgent`. -/
def createAgentSettings (config : AgentConfig) : AgentSettings where
  httpIdleConnTimeout := positiveOr (4500 * millisecond) config.httpIdleConnectionTimeout
  kvConnectTimeout := positiveOr (7000 * millisecond) config.kvConnectTimeout
  serverWaitTimeout := 5 * second
  kvPoolSize := positiveOr 1 config.kvPoolSize
  maxQueueSize := positiveOr 2048 config.maxQueueSize
  confHTTPRetryDelay := positiveOr (10 * second) config.httpRetryDelay
  confCccpMaxWait := positiveOr (3 * second) config.cccpMaxWait
  confCccpPollPeriod := positiveOr (2500 * millisecond) config.cccpPollPeriod
  compressionMinSize := 32
  compressionMinRatio := compressionMinRatioOf config.compressionMinRatio
  useJSONHello := !config.disableJSONHello
  useXErrorHello := !config.disableXErrors
  useSyncReplicationHello := !config.disableSyncReplicationHello
  authMechanisms := authMechanismsOf config.useTLS config.authMechanisms

/-- What every configuration gives: positive timeouts, sizes and periods, a compression ratio
in `(0, 1]`, and at least one SASL mechanism. -/
structure AgentSettings.Valid (s : AgentSettings) : Prop where
  httpIdleConnTimeout_pos : 0 < s.httpIdleConnTimeout
  kvConnectTimeout_pos : 0 < s.kvConnectTimeout
  serverWaitTimeout_pos : 0 < s.serverWaitTimeout
  kvPoolSize_pos : 0 < s.kvPoolSize
  maxQueueSize_pos : 0 < s.maxQueueSize
  confHTTPRetryDelay_pos : 0 < s.confHTTPRetryDelay
  confCccpMaxWait_pos : 0 < s.confCccpMaxWait
  confCccpPollPeriod_pos : 0 < s.confCccpPollPeriod
  compressionMinSize_pos : 0 < s.compressionMinSize
  compressionMinRatio_pos : 0 < s.compressionMinRatio
  compressionMinRatio_le_one : s.compressionMinRatio ≤ 1
  authMechanisms_ne_nil : s.authMechanisms ≠ []

theorem compressionMinRatioOf_mem (configured : ℚ) :
    0 < compressionMinRatioOf configured ∧ compressionMinRatioOf configured ≤ 1 := by
  unfold compressionMinRatioOf
  split_ifs with h0 h1
  · exact ⟨one_pos, le_refl 1⟩
  · exact ⟨h0, le_of_lt (not_le.mp h1)⟩
  · norm_num

theorem authMechanismsOf_ne_nil (useTLS : Bool) (configured : List AuthMechanism) :
    authMechanismsOf useTLS configured ≠ [] := by
  unfold authMechanismsOf
  split_ifs with h
  · simp
  · simp
  · exact fun hc => by simp [hc] at h

/-- Every default passes the check its configured value is put to. -/
theorem createAgentSettings_valid (config : AgentConfig) : (createAgentSettings config).Valid where
  httpIdleConnTimeout_pos := positiveOr_pos _ (by decide)
  kvConnectTimeout_pos := positiveOr_pos _ (by decide)
  serverWaitTimeout_pos := show (0 : Int) < 5 * second by decide
  kvPoolSize_pos := positiveOr_pos _ (by decide)
  maxQueueSize_pos := positiveOr_pos _ (by decide)
  confHTTPRetryDelay_pos := positiveOr_pos _ (by decide)
  confCccpMaxWait_pos := positiveOr_pos _ (by decide)
  confCccpPollPeriod_pos := positiveOr_pos _ (by decide)
  compressionMinSize_pos := show (0 : Int) < 32 by decide
  compressionMinRatio_pos := (compressionMinRatioOf_mem _).1
  compressionMinRatio_le_one := (compressionMinRatioOf_mem _).2
  authMechanisms_ne_nil := authMechanismsOf_ne_nil _ _

/-- The SASL mechanisms the agent offers: with none configured, the SCRAM family, strongest
first, without TLS and PLAIN, which sends the password in clear, with it. -/
theorem createAgentSettings_authMechanisms (config : AgentConfig) :
    (createAgentSettings config).authMechanisms =
      if config.authMechanisms = [] then
        (if config.useTLS then [.plain] else [.scramSha512, .scramSha256, .scramSha1])
      else config.authMechanisms := by
  simp only [createAgentSettings, authMechanismsOf, List.isEmpty_iff]

theorem createAgentSettings_plain (config : AgentConfig)
    (h : AuthMechanism.plain ∈ (createAgentSettings config).authMechanisms) :
    config.useTLS = true ∨ AuthMechanism.plain ∈ config.authMechanisms := by
  rw [createAgentSettings_authMechanisms] at h
  split_ifs at h with hempty htls
  · exact .inl htls
  · simp at h
  · exact .inr h

/-! ### Redirects -/

/-- `http.Header` at the keys the policy reads: the values under each canonical key. -/
abbrev Header := String → List String

def Header.get (h : Header) (key : String) : String := (h key).headD ""

def Header.set (h : Header) (key value : String) : Header := Function.update h key [value]

theorem Header.get_set_self (h : Header) (key value : String) :
    (h.set key value).get key = value := by
  simp [Header.get, Header.set]

structure HttpRequest where
  header : Header

/-- The `CheckRedirect` of the agent's HTTP client, for the redirected request `req` and the
requests already sent, `via = first :: later`: `http.Client` always passes at least the first
request, so `via[0]` is there. -/
def checkRedirect (req first : HttpRequest) (later : List HttpRequest) :
    Except String HttpRequest :=
  if (first :: later).length ≥ 10 then .error "stopped after 10 redirects"
  else
    let oldest := first
    let auth := oldest.header.get "Authorization"
    if auth != "" then .ok { req with header := req.header.set "Authorization" auth }
    else .ok req

/-- The loop of Go's `http.Client` over a chain of redirects from `first`, of which `later` have
been sent after it. `hops` are the requests it prepares for the redirects the servers answer
with, in order, each with the headers the client copies for it (those of the first request,
less `Authorization` and the other sensitive ones when the host changes). It hands each to
`CheckRedirect` with the requests sent so far and sends what that returns, or stops with its
error. The result is every request sent, in order, and the error. -/
def clientDo (first : HttpRequest) : List HttpRequest → List HttpRequest →
    List HttpRequest × Option String
  | later, [] => (first :: later, none)
  | later, hop :: hops =>
    match checkRedirect hop first later with
    | .ok req => clientDo first (later ++ [req]) hops
    | .error e => (first :: later, some e)

section Redirects

variable (first : HttpRequest)

theorem checkRedirect_of_lt (req : HttpRequest) {later : List HttpRequest}
    (h : later.length + 1 < 10) :
    ∃ req', checkRedirect req first later = .ok req' ∧
      (first.header.get "Authorization" ≠ "" →
        req'.header.get "Authorization" = first.header.get "Authorization") := by
  unfold checkRedirect
  rw [if_neg (by simp only [List.length_cons]; omega)]
  dsimp only
  split
  · next hne => exact ⟨_, rfl, fun _ => Header.get_set_self _ _ _⟩
  · next heq => exact ⟨req, rfl, fun hne => absurd (by simpa using heq) hne⟩

theorem checkRedirect_of_ge (req : HttpRequest) {later : List HttpRequest}
    (h : 10 ≤ later.length + 1) :
    checkRedirect req first later = .error "stopped after 10 redirects" :=
  if_pos (by simp only [List.length_cons]; omega)

/-- The run from `later` on: the requests sent are the first, `later`, and then as many hops as
fit below 10 requests; the chain stops with the error exactly when a hop is left over; and every
request sent after the first carries its `Authorization`. -/
theorem clientDo_from (hops : List HttpRequest) (later : List HttpRequest)
    (hlen : later.length + 1 ≤ 10) (hauth : first.header.get "Authorization" ≠ "" →
      ∀ r ∈ later, r.header.get "Authorization" = first.header.get "Authorization") :
    (clientDo first later hops).1.length = min (later.length + 1 + hops.length) 10 ∧
    ((clientDo first later hops).2 = none ↔ later.length + 1 + hops.length ≤ 10) ∧
    (∀ e, (clientDo first later hops).2 = some e → e = "stopped after 10 redirects") ∧
    (first.header.get "Authorization" ≠ "" →
      ∀ r ∈ (clientDo first later hops).1,
        r.header.get "Authorization" = first.header.get "Authorization") := by
  induction hops generalizing later with
  | nil =>
    refine ⟨?_, ?_, (fun e he => by cases he), fun hne r hr => ?_⟩
    · simp only [clientDo, List.length_cons, List.length_nil]
      omega
    · simp only [clientDo, List.length_nil, true_iff]
      omega
    · rcases List.mem_cons.mp hr with rfl | hr
      · rfl
      · exact hauth hne r hr
  | cons hop hops ih =>
    by_cases hfull : later.length + 1 < 10
    · obtain ⟨req, hreq, hreqauth⟩ := checkRedirect_of_lt first hop hfull
      have hrun := ih (later ++ [req]) (by simp; omega) (fun hne r hr => by
        rcases List.mem_append.mp hr with hr | hr
        · exact hauth hne r hr
        · rw [List.mem_singleton.mp hr]; exact hreqauth hne)
      simp only [clientDo, hreq, List.length_append, List.length_singleton,
        List.length_cons, List.length_nil] at hrun ⊢
      refine ⟨by rw [hrun.1]; omega, by rw [hrun.2.1]; omega, hrun.2.2.1, hrun.2.2.2⟩
    · rw [clientDo, checkRedirect_of_ge first hop (by omega)]
      refine ⟨?_, ?_, fun e he => (Option.some.inj he).symm, fun hne r hr => ?_⟩
      · simp only [List.length_cons]
        omega
      · simp only [List.length_cons, reduceCtorEq, false_iff]
        omega
      · rcases List.mem_cons.mp hr with rfl | hr
        · rfl
        · exact hauth hne r hr

end Redirects

/-- Whatever chain of redirects the servers answer with, and whatever headers Go's client copies
onto each hop: the agent's HTTP client sends at most 10 requests, the first and at most 9
redirects; it stops with "stopped after 10 redirects" exactly when the chain asks for more;
and when the first request has an `Authorization` header, every request sent carries that same
header, also to hosts for which Go's client drops it. -/
theorem clientDo_redirects (first : HttpRequest) (hops : List HttpRequest) :
    (clientDo first [] hops).1.length = min (hops.length + 1) 10 ∧
    ((clientDo first [] hops).2 = none ↔ hops.length < 10) ∧
    ((clientDo first [] hops).2 = some "stopped after 10 redirects" ↔ 10 ≤ hops.length) ∧
    (first.header.get "Authorization" ≠ "" →
      ∀ r ∈ (clientDo first [] hops).1,
        r.header.get "Authorization" = first.header.get "Authorization") := by
  obtain ⟨hlen, hnone, hsome, hauth⟩ :=
    clientDo_from first hops [] (by simp) (fun _ _ hr => by cases hr)
  simp only [List.length_nil, Nat.zero_add] at hlen hnone
  refine ⟨by rw [hlen]; omega, by rw [hnone]; omega, ⟨fun h => ?_, fun h => ?_⟩, hauth⟩
  · by_contra hlt
    exact absurd (hnone.mpr (by omega)) (by rw [h]; exact Option.some_ne_none _)
  · cases herr : (clientDo first [] hops).2 with
    | none => exact absurd (hnone.mp herr) (by omega)
    | some e => rw [hsome e herr]

end SubDocAgent
