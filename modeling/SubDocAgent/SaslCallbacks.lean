import Mathlib

/-!
# The SASL callbacks of `buildAuthHandler`

`buildAuthHandler` (agent.go) builds a function that starts `saslMethod` with two callbacks and
returns two buffered channels of capacity 1: `continueCh`, on which the caller learns whether to
go on, and `completedCh`, on which it learns the outcome. `saslMethod` may call the callbacks
from other goroutines at once; the code guards `continueCh` with a compare-and-swap on
`hasContinued`. A run of a callback is a program counter over its atomic actions, and a schedule
is any interleaving of calls, of the runs' actions and of the caller's receives.
-/

namespace SubDocAgent

variable {ε : Type}

/-! ### The handler -/

structure UserPassPair where
  username : String
  password : String

/-- What the function built by `buildAuthHandler` returns: the channels `completedCh` and
`continueCh` of a new `SaslState` when `channels` holds, two nil channels otherwise, and the
error. -/
structure AuthFuncResult (ε : Type) where
  channels : Bool
  err : Option ε

/-- `buildAuthHandler(auth)` for a client whose credentials lookup returned `creds` and `err`;
`none` is a nil `authFunc`. The function it builds is applied to the error `saslMethod`
returns. -/
def buildAuthHandler (creds : UserPassPair) (err : Option ε) :
    Option (Option ε → AuthFuncResult ε) :=
  if err.isSome then none
  else if creds.username != "" || creds.password != "" then
    some fun callErr => if callErr.isSome then ⟨false, err⟩ else ⟨true, none⟩
  else none

/-- The function `buildAuthHandler` builds never returns an error. It returns the two channels
when `saslMethod` succeeds; when `saslMethod` fails it returns nil channels together with the
credentials lookup's `err`, which is nil on that path, so the caller gets neither the channels
nor the error. -/
theorem buildAuthHandler_err (creds : UserPassPair) (err : Option ε)
    {authFunc : Option ε → AuthFuncResult ε} (h : buildAuthHandler creds err = some authFunc)
    (callErr : Option ε) :
    (authFunc callErr).err = none ∧ ((authFunc callErr).channels = true ↔ callErr = none) := by
  unfold buildAuthHandler at h
  split_ifs at h with herr
  cases h
  rw [Option.not_isSome_iff_eq_none] at herr
  cases callErr <;> simp [herr]

/-! ### The callbacks -/

/-- The two callbacks `buildAuthHandler` passes to `saslMethod`: the continue callback, and the
completion callback with the error it is called with. -/
inductive SaslCallback (ε : Type) where
  | continue
  | completed (err : Option ε)

/-- The value a callback sends on `continueCh` when it wins the compare-and-swap: `true`, or for
the completion callback `sendContinue`, which is false when its error is not nil. -/
def SaslCallback.continueValue : SaslCallback ε → Bool
  | .continue => true
  | .completed err => err.isNone

/-- Where a run of a callback is. -/
inductive CallbackPc where
  /-- At `atomic.CompareAndSwapInt32(&hasContinued, 0, 1)`. -/
  | cas
  /-- At `continueCh <- v`. -/
  | sendContinue (v : Bool)
  /-- At `completedCh <- BytesAndError{Err: err}`. -/
  | sendCompleted
  | done
  deriving DecidableEq

/-- Where a run goes after the `if` around `continueCh`: the continue callback returns, the
completion callback goes on to `completedCh`. -/
def SaslCallback.afterContinue : SaslCallback ε → CallbackPc
  | .continue => .done
  | .completed _ => .sendCompleted

structure CallbackRun (ε : Type) where
  callback : SaslCallback ε
  pc : CallbackPc

def CallbackPc.sendsContinue : CallbackPc → Bool
  | .sendContinue _ => true
  | _ => false

def CallbackRun.waitsContinue (r : CallbackRun ε) : Bool := r.pc.sendsContinue

theorem afterContinue_sendsContinue (cb : SaslCallback ε) :
    cb.afterContinue.sendsContinue = false := by
  cases cb <;> rfl

/-- What one call of the built function shares with the callbacks: `hasContinued`, the buffers
of `continueCh` and `completedCh`, the runs of the callbacks `saslMethod` has started, and the
values sent on `continueCh` so far. -/
structure SaslState (ε : Type) where
  hasContinued : Int
  continueCh : List Bool
  completedCh : List (Option ε)
  runs : List (CallbackRun ε)
  continueSent : List Bool

def SaslState.init : SaslState ε := ⟨0, [], [], [], []⟩

/-- `atomic.CompareAndSwapInt32`: the new value at the address and whether it swapped. -/
def compareAndSwapInt32 (x old new : Int) : Int × Bool :=
  if x = old then (new, true) else (x, false)

theorem compareAndSwapInt32_of_eq {x old : Int} (new : Int) (h : x = old) :
    compareAndSwapInt32 x old new = (new, true) :=
  if_pos h

theorem compareAndSwapInt32_of_ne {x old : Int} (new : Int) (h : x ≠ old) :
    compareAndSwapInt32 x old new = (x, false) :=
  if_neg h

def saslChanCap : Nat := 1

/-- The next atomic action of the run `r` at index `i`. A run blocked on a full channel, or
finished, leaves the state as it is. -/
def SaslState.advanceRun (s : SaslState ε) (i : Nat) (r : CallbackRun ε) : SaslState ε :=
  match r.pc with
  | .cas =>
    let (hasContinued, swapped) := compareAndSwapInt32 s.hasContinued 0 1
    { s with
      hasContinued := hasContinued
      runs := s.runs.set i { r with
        pc := if swapped then .sendContinue r.callback.continueValue
          else r.callback.afterContinue } }
  | .sendContinue v =>
    if s.continueCh.length < saslChanCap then
      { s with
        continueCh := s.continueCh ++ [v]
        continueSent := s.continueSent ++ [v]
        runs := s.runs.set i { r with pc := r.callback.afterContinue } }
    else s
  | .sendCompleted =>
    match r.callback with
    | .completed err =>
      if s.completedCh.length < saslChanCap then
        { s with
          completedCh := s.completedCh ++ [err]
          runs := s.runs.set i { r with pc := .done } }
      else s
    | .continue => s
  | .done => s

/-- One step of a schedule. -/
inductive SaslAction (ε : Type) where
  /-- `saslMethod` calls a callback, which starts a run. -/
  | call (cb : SaslCallback ε)
  /-- The run at index `i` takes its next action. -/
  | advance (i : Nat)
  /-- The caller receives from `continueCh`. -/
  | recvContinue
  /-- The caller receives from `completedCh`. -/
  | recvCompleted

/-- The state after one step; a receive from an empty channel waits, which leaves the state as
it is. -/
def SaslState.step (s : SaslState ε) : SaslAction ε → SaslState ε
  | .call cb => { s with runs := s.runs ++ [⟨cb, .cas⟩] }
  | .advance i =>
    match s.runs[i]? with
    | some r => s.advanceRun i r
    | none => s
  | .recvContinue => { s with continueCh := s.continueCh.tail }
  | .recvCompleted => { s with completedCh := s.completedCh.tail }

def SaslState.run (s : SaslState ε) (as : List (SaslAction ε)) : SaslState ε :=
  as.foldl SaslState.step s

/-! ### The invariant -/

/-- What holds in every reachable state: `hasContinued` is 0 or 1; it counts the values sent on
`continueCh` and the runs waiting to send one; the channel buffers no more than was sent; and
any run past its compare-and-swap has set `hasContinued`. -/
structure SaslState.Inv (s : SaslState ε) : Prop where
  hasContinued_mem : s.hasContinued = 0 ∨ s.hasContinued = 1
  continue_count :
    s.runs.countP CallbackRun.waitsContinue + s.continueSent.length = s.hasContinued.toNat
  buffered_le : s.continueCh.length ≤ s.continueSent.length
  passed_cas : ∀ r ∈ s.runs, r.pc ≠ .cas → s.hasContinued = 1

namespace SaslState

theorem inv_init : (init : SaslState ε).Inv :=
  ⟨.inl rfl, rfl, le_refl _, fun _ h => by cases h⟩

variable {s : SaslState ε}

theorem countP_set_pc {i : Nat} {r : CallbackRun ε} (hi : s.runs[i]? = some r) (pc : CallbackPc) :
    (s.runs.set i { r with pc := pc }).countP CallbackRun.waitsContinue +
        (if r.pc.sendsContinue then 1 else 0) =
      s.runs.countP CallbackRun.waitsContinue + (if pc.sendsContinue then 1 else 0) := by
  obtain ⟨hlt, hget⟩ := List.getElem?_eq_some_iff.mp hi
  have hle := List.boole_getElem_le_countP CallbackRun.waitsContinue s.runs i hlt
  rw [List.countP_set _ _ _ _ hlt, hget] at *
  simp only [CallbackRun.waitsContinue] at *
  omega

theorem Inv.advanceRun (hs : s.Inv) {i : Nat} {r : CallbackRun ε} (hi : s.runs[i]? = some r) :
    (s.advanceRun i r).Inv := by
  have hr : r ∈ s.runs := List.getElem?_mem hi
  have hcount := hs.continue_count
  have hset := countP_set_pc hi
  unfold SaslState.advanceRun
  cases hpc : r.pc with
  | cas =>
    have hw : r.pc.sendsContinue = false := by rw [hpc]; rfl
    dsimp only
    rcases hs.hasContinued_mem with h0 | h1
    · have h := hset (.sendContinue r.callback.continueValue)
      rw [hw] at h
      rw [h0, Int.toNat_zero] at hcount
      rw [compareAndSwapInt32_of_eq 1 h0]
      refine ⟨.inr rfl, ?_, hs.buffered_le, fun _ _ _ => rfl⟩
      simp only [CallbackPc.sendsContinue, Bool.false_eq_true, if_false, if_true, Int.toNat_one]
        at h ⊢
      omega
    · have h := hset r.callback.afterContinue
      rw [hw, afterContinue_sendsContinue] at h
      rw [compareAndSwapInt32_of_ne 1 (by rw [h1]; decide)]
      refine ⟨.inr h1, ?_, hs.buffered_le, fun _ _ _ => h1⟩
      simp only [Bool.false_eq_true, if_false] at h ⊢
      omega
  | sendContinue v =>
    have hw : r.pc.sendsContinue = true := by rw [hpc]; rfl
    have h1 := hs.passed_cas r hr (by rw [hpc]; exact CallbackPc.noConfusion)
    dsimp only
    split
    · have h := hset r.callback.afterContinue
      rw [hw, afterContinue_sendsContinue] at h
      refine ⟨.inr h1, ?_, ?_, fun _ _ _ => h1⟩
      · simp only [if_true, Bool.false_eq_true, if_false, List.length_append,
          List.length_singleton] at h ⊢
        omega
      · simp only [List.length_append, List.length_singleton]
        exact Nat.add_le_add_right hs.buffered_le 1
    · exact hs
  | sendCompleted =>
    have hw : r.pc.sendsContinue = false := by rw [hpc]; rfl
    have h1 := hs.passed_cas r hr (by rw [hpc]; exact CallbackPc.noConfusion)
    have h := hset .done
    rw [hw] at h
    dsimp only
    split
    · split
      · refine ⟨.inr h1, ?_, hs.buffered_le, fun _ _ _ => h1⟩
        simp only [CallbackPc.sendsContinue, Bool.false_eq_true, if_false] at h ⊢
        omega
      · exact hs
    · exact hs
  | done => exact hs

theorem Inv.step (hs : s.Inv) (a : SaslAction ε) : (s.step a).Inv := by
  cases a with
  | call cb =>
    refine ⟨hs.hasContinued_mem, ?_, hs.buffered_le, fun r hr hpc => ?_⟩
    · simpa [SaslState.step, CallbackRun.waitsContinue, CallbackPc.sendsContinue] using
        hs.continue_count
    · rcases List.mem_append.mp hr with hr | hr
      · exact hs.passed_cas r hr hpc
      · rw [List.mem_singleton.mp hr] at hpc
        exact absurd rfl hpc
  | advance i =>
    show (match s.runs[i]? with
      | some r => s.advanceRun i r
      | none => s).Inv
    cases hi : s.runs[i]? with
    | none => exact hs
    | some r => exact hs.advanceRun hi
  | recvContinue =>
    refine ⟨hs.hasContinued_mem, hs.continue_count, ?_, hs.passed_cas⟩
    simp only [SaslState.step, List.length_tail]
    exact le_trans (Nat.sub_le _ _) hs.buffered_le
  | recvCompleted => exact ⟨hs.hasContinued_mem, hs.continue_count, hs.buffered_le, hs.passed_cas⟩

theorem Inv.run (hs : s.Inv) (as : List (SaslAction ε)) : (s.run as).Inv := by
  induction as generalizing s with
  | nil => exact hs
  | cons a as ih => exact ih (hs.step a)

/-! ### The value sent -/

theorem map_callback_set {i : Nat} {r : CallbackRun ε} (hi : s.runs[i]? = some r)
    (pc : CallbackPc) :
    (s.runs.set i { r with pc := pc }).map CallbackRun.callback =
      s.runs.map CallbackRun.callback := by
  apply List.ext_getElem?
  intro j
  rw [List.getElem?_map, List.getElem?_map, List.getElem?_set']
  split_ifs with h
  · subst h
    rw [hi]
    rfl
  · rfl

theorem continueValue_eq_false {cb : SaslCallback ε} (h : cb.continueValue = false) :
    ∃ e, cb = .completed (some e) := by
  rcases cb with _ | ⟨_ | e⟩
  · cases h
  · cases h
  · exact ⟨e, rfl⟩

theorem afterContinue_ne_sendContinue (cb : SaslCallback ε) (v : Bool) :
    cb.afterContinue ≠ .sendContinue v := by
  cases cb <;> exact CallbackPc.noConfusion

/-- A run waiting to send on `continueCh` carries its callback's value, and a `false` has been
sent only when `saslMethod` called the completion callback with an error. -/
structure ValueInv (s : SaslState ε) : Prop where
  waiting_value : ∀ r ∈ s.runs, ∀ v, r.pc = .sendContinue v → v = r.callback.continueValue
  sent_false : false ∈ s.continueSent →
    ∃ e, SaslCallback.completed (some e) ∈ s.runs.map CallbackRun.callback

theorem valueInv_init : (init : SaslState ε).ValueInv :=
  ⟨(fun _ h => by cases h), fun h => by cases h⟩

theorem ValueInv.advanceRun (hv : s.ValueInv) {i : Nat} {r : CallbackRun ε}
    (hi : s.runs[i]? = some r) : (s.advanceRun i r).ValueInv := by
  have hr : r ∈ s.runs := List.getElem?_mem hi
  have hmap := map_callback_set hi
  have hset : ∀ pc, (∀ v, pc = .sendContinue v → v = r.callback.continueValue) →
      ∀ r' ∈ s.runs.set i { r with pc := pc }, ∀ v, r'.pc = .sendContinue v →
        v = r'.callback.continueValue := fun pc hpc r' hr' v hv' => by
    rcases List.mem_or_eq_of_mem_set hr' with hr' | rfl
    · exact hv.waiting_value r' hr' v hv'
    · exact hpc v hv'
  have hafter : ∀ v, r.callback.afterContinue = .sendContinue v → v = r.callback.continueValue :=
    fun v h => absurd h (afterContinue_ne_sendContinue _ v)
  unfold SaslState.advanceRun
  cases hpc : r.pc with
  | cas =>
    dsimp only
    rcases compareAndSwapInt32 s.hasContinued 0 1 with ⟨hc, _ | _⟩
    · exact ⟨hset _ hafter, by rw [hmap]; exact hv.sent_false⟩
    · exact ⟨hset _ fun v h => (CallbackPc.sendContinue.inj h).symm,
        by rw [hmap]; exact hv.sent_false⟩
  | sendContinue v =>
    dsimp only
    split
    · refine ⟨hset _ hafter, fun hf => ?_⟩
      rw [hmap]
      rcases List.mem_append.mp hf with hf | hf
      · exact hv.sent_false hf
      · have hval := hv.waiting_value r hr v hpc
        rw [← List.mem_singleton.mp hf] at hval
        obtain ⟨e, he⟩ := continueValue_eq_false hval.symm
        exact ⟨e, he ▸ List.mem_map_of_mem _ hr⟩
    · exact hv
  | sendCompleted =>
    dsimp only
    split
    · split
      · exact ⟨hset _ fun v h => CallbackPc.noConfusion h, by rw [hmap]; exact hv.sent_false⟩
      · exact hv
    · exact hv
  | done => exact hv

theorem ValueInv.step (hv : s.ValueInv) (a : SaslAction ε) : (s.step a).ValueInv := by
  cases a with
  | call cb =>
    refine ⟨fun r hr v hpc => ?_, fun hf => ?_⟩
    · rcases List.mem_append.mp hr with hr | hr
      · exact hv.waiting_value r hr v hpc
      · rw [List.mem_singleton.mp hr] at hpc
        cases hpc
    · obtain ⟨e, he⟩ := hv.sent_false hf
      exact ⟨e, by simp only [SaslState.step, List.map_append]; exact List.mem_append_left _ he⟩
  | advance i =>
    show (match s.runs[i]? with
      | some r => s.advanceRun i r
      | none => s).ValueInv
    cases hi : s.runs[i]? with
    | none => exact hv
    | some r => exact hv.advanceRun hi
  | recvContinue => exact ⟨hv.waiting_value, hv.sent_false⟩
  | recvCompleted => exact ⟨hv.waiting_value, hv.sent_false⟩

theorem ValueInv.run (hv : s.ValueInv) (as : List (SaslAction ε)) : (s.run as).ValueInv := by
  induction as generalizing s with
  | nil => exact hv
  | cons a as ih => exact ih (hv.step a)

end SaslState

/-- Whatever the order in which `saslMethod` calls the two callbacks, however often, and however
their actions interleave with each other and with the caller's receives: at most one value is
ever sent on `continueCh`; a run about to send on it finds it empty, so that send never blocks;
once a callback has passed the compare-and-swap, the value has been sent or its sender is
waiting with the channel empty; and the value is `false` only when `saslMethod` called the
completion callback with an error. -/
theorem saslCallbacks_continue_once (as : List (SaslAction ε)) :
    (SaslState.init.run as).continueSent.length ≤ 1 ∧
    (∀ r ∈ (SaslState.init.run as).runs, r.waitsContinue →
      (SaslState.init.run as).continueCh = []) ∧
    ((∃ r ∈ (SaslState.init.run as).runs, r.pc ≠ .cas) →
      (SaslState.init.run as).continueSent ≠ [] ∨
        ∃ r ∈ (SaslState.init.run as).runs, r.waitsContinue ∧
          (SaslState.init.run as).continueCh = []) ∧
    (false ∈ (SaslState.init.run as).continueSent →
      ∃ e, SaslCallback.completed (some e) ∈
        (SaslState.init.run as).runs.map CallbackRun.callback) := by
  have hs := SaslState.inv_init.run as
  have hv := SaslState.valueInv_init.run as
  generalize SaslState.init.run as = s at hs hv ⊢
  have hcount := hs.continue_count
  have hle : s.hasContinued.toNat ≤ 1 := by
    rcases hs.hasContinued_mem with h | h <;> rw [h] <;> decide
  have hwait : ∀ r ∈ s.runs, r.waitsContinue → s.continueCh = [] := fun r hr hw => by
    have hpos := List.countP_pos_iff.mpr ⟨r, hr, hw⟩
    have hbuf := hs.buffered_le
    exact List.eq_nil_of_length_eq_zero (by omega)
  refine ⟨by omega, hwait, fun ⟨r, hr, hpc⟩ => ?_, hv.sent_false⟩
  have h1 := hs.passed_cas r hr hpc
  rw [h1] at hcount
  by_cases hsent : s.continueSent = []
  · rw [hsent, List.length_nil] at hcount
    have hpos : 0 < s.runs.countP CallbackRun.waitsContinue := by
      simp only [Int.toNat_one] at hcount
      omega
    obtain ⟨r', hr', hw⟩ := List.countP_pos_iff.mp hpos
    exact .inr ⟨r', hr', hw, hwait r' hr' hw⟩
  · exact .inl hsent

end SubDocAgent
