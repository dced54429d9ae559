import Mathlib.Data.List.Nodup
import AstateRdma.Retry

/-!
# RPC listener bring-up

`SetupRpcServer` binds the control-plane listener on the configured port, or scans a
window of ports starting at `kRdmaPortStart + r` for a random `r ∈ [0, 1000]`. The scan
hands `setup_func` to the retry runner; the body keeps its own attempt counter, which
advances only when a bind fails, and refuses to call the backend once it reaches
`kBindPortMaxRetry`.

* `scan_calls` — from any counter value, the calls the scan makes are the consecutive
  ports from there, all but the last failing, and the recorded port is the successful
  one; for every allowance of the runner;
* `setupRpcServer_port` — the whole law: at most `kBindPortMaxRetry` binds on distinct
  ports `51010 + r + i`, true iff one of them bound, and then `GetBindPort()` is that
  port; in fixed mode it is `TRANSFER_ENGINE_LOCAL_PORT`.
-/

namespace AstateRdma

/-- `kRdmaPortStart`, the bottom of the scan window. -/
def kRdmaPortStart : Int := 51010

/-- The variables `setup_func` captures by reference: `attempt_count`, `success`, and the
engine's `local_server_port_`. -/
structure ScanState where
  attemptCount : Nat
  success : Bool
  localServerPort : Int
  deriving DecidableEq, Repr

/-- `setup_func`, the body the scan gives to the runner. The `j`-th call of
`utrans_setup_rpcsrv` answers `rpcsrv j`. -/
def setupFunc (kBindPortMaxRetry : Nat) (ctx : Ctx) (basePort : Int) (rpcsrv : Nat → Ret)
    (_attempt : Nat) (s : ScanState) : Outcome ScanState Unit :=
  let currentPort := basePort + s.attemptCount
  if kBindPortMaxRetry ≤ s.attemptCount then
    ⟨[], .error (.runtimeError ("Failed to bind RPC server on port " ++ toString currentPort ++
      ", max retry attempts reached")), s⟩
  else
    match rpcsrv s.attemptCount with
    | .ok => ⟨[.utransSetupRpcsrv ctx currentPort .ok], .ok (),
        { s with localServerPort := currentPort, success := true }⟩
    | .err code => ⟨[.utransSetupRpcsrv ctx currentPort (.err code)],
        .error (.runtimeError ("Port binding failed for port " ++ toString currentPort)),
        { s with attemptCount := s.attemptCount + 1 }⟩

/-- `SetupRpcServerWithRetry`. The source runs `setup_func` under
`CountingRetry(kBindPortMaxRetry)`; the runner's allowance is the parameter `policy` here,
and `setupRpcServer` passes that policy. The state is `local_server_port_`. -/
def setupRpcServerWithRetry (kBindPortMaxRetry : Nat) (policy : RetryPolicy) (ctx : Ctx)
    (randomOffset : Fin 1001) (rpcsrv : Nat → Ret) (localServerPort : Int) :
    Outcome Int Bool :=
  let basePort := kRdmaPortStart + (randomOffset : Nat)
  let r := retry (setupFunc kBindPortMaxRetry ctx basePort rpcsrv) policy
    ⟨0, false, localServerPort⟩
  match r.result with
  | .ok () => ⟨r.effects, .ok r.state.success, r.state.localServerPort⟩
  | .error _ => ⟨r.effects, .ok false, r.state.localServerPort⟩

/-- `SetupRpcServer(options, utrans_config)`. In fixed mode the first call of
`utrans_setup_rpcsrv` answers `rpcsrv 0`. The state is `local_server_port_`. -/
def setupRpcServer (kBindPortMaxRetry : Nat) (options : Options) (ctx : Ctx)
    (randomOffset : Fin 1001) (rpcsrv : Nat → Ret) (localServerPort : Int) :
    Outcome Int Bool :=
  if options.transferEngineServiceFixedPort then
    let port := options.transferEngineLocalPort
    match rpcsrv 0 with
    | .ok => ⟨[.utransSetupRpcsrv ctx port .ok], .ok true, port⟩
    | .err code => ⟨[.utransSetupRpcsrv ctx port (.err code)], .ok false, localServerPort⟩
  else
    setupRpcServerWithRetry kBindPortMaxRetry (countingRetry kBindPortMaxRetry) ctx
      randomOffset rpcsrv localServerPort

/-- The `utrans_setup_rpcsrv` calls of a trace: port and answer, in order. -/
def rpcsrvCalls (effects : List Effect) : List (Int × Ret) :=
  effects.filterMap fun
    | .utransSetupRpcsrv _ port ret => some (port, ret)
    | _ => none

@[simp] theorem rpcsrvCalls_nil : rpcsrvCalls [] = [] := rfl

@[simp] theorem rpcsrvCalls_append (a b : List Effect) :
    rpcsrvCalls (a ++ b) = rpcsrvCalls a ++ rpcsrvCalls b :=
  List.filterMap_append _ _ _

@[simp] theorem rpcsrvCalls_rpcsrv (ctx : Ctx) (port : Int) (ret : Ret) (rest : List Effect) :
    rpcsrvCalls (.utransSetupRpcsrv ctx port ret :: rest) = (port, ret) :: rpcsrvCalls rest :=
  rfl

@[simp] theorem rpcsrvCalls_sleepFor (ms : Int) (rest : List Effect) :
    rpcsrvCalls (.sleepFor ms :: rest) = rpcsrvCalls rest :=
  rfl

/-- The port of the last call in `calls` that bound, if any. -/
def lastBoundPort (calls : List (Int × Ret)) : Option Int :=
  (calls.filterMap fun c => if c.2 = .ok then some c.1 else none).getLast?

@[simp] theorem lastBoundPort_nil : lastBoundPort [] = none := rfl

@[simp] theorem lastBoundPort_append (a b : List (Int × Ret)) :
    lastBoundPort (a ++ b) = (lastBoundPort b).or (lastBoundPort a) := by
  simp only [lastBoundPort, List.filterMap_append, List.getLast?_append]

@[simp] theorem lastBoundPort_cons_err (p : Int) (code : Int) (l : List (Int × Ret)) :
    lastBoundPort ((p, .err code) :: l) = lastBoundPort l := rfl

@[simp] theorem lastBoundPort_singleton_ok (p : Int) : lastBoundPort [(p, .ok)] = some p := rfl

section Scan

variable {kBindPortMaxRetry : Nat} {ctx : Ctx} {basePort : Int} {rpcsrv : Nat → Ret}
  {sleepMs : Int}

/-- The scan's law from counter `s.attemptCount`: the calls are the next ports in order,
all but the last fail, and the run ends bound iff one bound, on the port it records. -/
theorem scan_calls (left i : Nat) (s : ScanState) (hs : s.success = false)
    (hc : s.attemptCount ≤ kBindPortMaxRetry) :
    let o := retryFrom sleepMs (setupFunc kBindPortMaxRetry ctx basePort rpcsrv) left i s
    ∃ n, s.attemptCount + n ≤ kBindPortMaxRetry ∧
      rpcsrvCalls o.effects = (List.range n).map
        (fun j => (basePort + ↑(s.attemptCount + j), rpcsrv (s.attemptCount + j))) ∧
      (∀ j, j + 1 < n → rpcsrv (s.attemptCount + j) ≠ .ok) ∧
      ((o.result = .ok () ∧ o.state.success = true) ↔
        ∃ p, (p, Ret.ok) ∈ rpcsrvCalls o.effects) ∧
      (o.state.success = true → (o.state.localServerPort, Ret.ok) ∈ rpcsrvCalls o.effects) := by
  induction left generalizing i s with
  | zero =>
    by_cases hk : kBindPortMaxRetry ≤ s.attemptCount
    · exact ⟨0, by omega, by simp [setupFunc, hk, hs]⟩
    · cases hr : rpcsrv s.attemptCount with
      | ok => exact ⟨1, by omega, by simp [setupFunc, hk, hr, List.range_succ_eq_map]⟩
      | err code => exact ⟨1, by omega, by simp [setupFunc, hk, hr, hs, List.range_succ_eq_map]⟩
  | succ left ih =>
    by_cases hk : kBindPortMaxRetry ≤ s.attemptCount
    · have hf : (setupFunc kBindPortMaxRetry ctx basePort rpcsrv i s).result =
          .error (.runtimeError ("Failed to bind RPC server on port " ++
            toString (basePort + s.attemptCount) ++ ", max retry attempts reached")) := by
        simp [setupFunc, hk]
      rw [retryFrom_of_retryable hf rfl]
      obtain ⟨n, hn, hcalls, hfail, hres, hport⟩ := ih (i + 1) s hs hc
      simp only [setupFunc, hk, if_true] at hcalls hres hport ⊢
      exact ⟨n, hn, by simpa using hcalls, hfail, by simpa using hres, by simpa using hport⟩
    · cases hr : rpcsrv s.attemptCount with
      | ok =>
        have hf : (setupFunc kBindPortMaxRetry ctx basePort rpcsrv i s).result = .ok () := by
          simp [setupFunc, hk, hr]
        rw [retryFrom_of_ok hf]
        exact ⟨1, by omega, by simp [setupFunc, hk, hr, List.range_succ_eq_map]⟩
      | err code =>
        have hf : (setupFunc kBindPortMaxRetry ctx basePort rpcsrv i s).result =
            .error (.runtimeError ("Port binding failed for port " ++
              toString (basePort + s.attemptCount))) := by
          simp [setupFunc, hk, hr]
        rw [retryFrom_of_retryable hf rfl]
        obtain ⟨n, hn, hcalls, hfail, hres, hport⟩ :=
          ih (i + 1) { s with attemptCount := s.attemptCount + 1 } hs (by simp; omega)
        simp only [setupFunc, hk, hr, if_false] at hn hcalls hfail hres hport ⊢
        refine ⟨n + 1, by omega, ?_, ?_, ?_, ?_⟩
        · simp [List.range_succ_eq_map, hcalls, hr, Function.comp_def, Nat.add_assoc,
            Nat.add_comm 1]
        · intro j hj
          cases j with
          | zero => simp [hr]
          | succ j => simpa [Nat.add_assoc, Nat.add_comm 1] using hfail j (by omega)
        · simpa using hres
        · intro h; simpa using hport h

/-- What `SetupRpcServerWithRetry` reports is the run's `success` flag, when the runner
returned normally. -/
theorem setupRpcServerWithRetry_result_ok (policy : RetryPolicy) (randomOffset : Fin 1001)
    (localServerPort : Int) :
    let r := retry (setupFunc kBindPortMaxRetry ctx (kRdmaPortStart + (randomOffset : Nat))
      rpcsrv) policy ⟨0, false, localServerPort⟩
    let o := setupRpcServerWithRetry kBindPortMaxRetry policy ctx randomOffset rpcsrv
      localServerPort
    o.effects = r.effects ∧ o.state = r.state.localServerPort ∧
      (o.result = .ok true ↔ r.result = .ok () ∧ r.state.success = true) := by
  simp only [setupRpcServerWithRetry]
  split <;> simp_all

/-- A scan that reports success recorded the port of a call that bound, inside the window
`[51010, 51010 + 1000 + kBindPortMaxRetry)`. -/
theorem setupRpcServerWithRetry_bound (policy : RetryPolicy) (r : Fin 1001)
    (localServerPort : Int)
    (h : (setupRpcServerWithRetry kBindPortMaxRetry policy ctx r rpcsrv
      localServerPort).result = .ok true) :
    let o := setupRpcServerWithRetry kBindPortMaxRetry policy ctx r rpcsrv localServerPort
    (o.state, Ret.ok) ∈ rpcsrvCalls o.effects ∧ kRdmaPortStart ≤ o.state ∧
      o.state < kRdmaPortStart + 1000 + kBindPortMaxRetry := by
  obtain ⟨hEff, hState, hRes⟩ :=
    @setupRpcServerWithRetry_result_ok kBindPortMaxRetry ctx rpcsrv policy r localServerPort
  obtain ⟨n, hn, hcalls, -, -, hport⟩ := @scan_calls kBindPortMaxRetry ctx
    (kRdmaPortStart + (r : Nat)) rpcsrv policy.sleepMs policy.retries 0
    ⟨0, false, localServerPort⟩ rfl (Nat.zero_le _)
  simp only [retry] at hEff hState hRes
  have hmem := hport (hRes.1 h).2
  rw [← hEff, ← hState] at hmem
  refine ⟨hmem, ?_⟩
  rw [hEff, hcalls] at hmem
  obtain ⟨j, hj, hport⟩ := List.mem_map.mp hmem
  simp only [List.mem_range, Prod.mk.injEq] at hj hport
  have hr := r.isLt
  simp only [kRdmaPortStart] at hport ⊢
  omega

/-- The scan records the port of its last call that bound, and keeps the old one when none
did. -/
theorem scan_port (left i : Nat) (s : ScanState) :
    let o := retryFrom sleepMs (setupFunc kBindPortMaxRetry ctx basePort rpcsrv) left i s
    o.state.localServerPort = (lastBoundPort (rpcsrvCalls o.effects)).getD s.localServerPort := by
  induction left generalizing i s with
  | zero =>
    simp only [retryFrom, setupFunc]
    split
    · rfl
    · cases rpcsrv s.attemptCount <;> rfl
  | succ left ih =>
    by_cases hk : kBindPortMaxRetry ≤ s.attemptCount
    · have hf : (setupFunc kBindPortMaxRetry ctx basePort rpcsrv i s).result =
          .error (.runtimeError ("Failed to bind RPC server on port " ++
            toString (basePort + s.attemptCount) ++ ", max retry attempts reached")) := by
        simp [setupFunc, hk]
      rw [retryFrom_of_retryable hf rfl]
      simpa [setupFunc, hk] using ih (i + 1) s
    · cases hr : rpcsrv s.attemptCount with
      | ok =>
        have hf : (setupFunc kBindPortMaxRetry ctx basePort rpcsrv i s).result = .ok () := by
          simp [setupFunc, hk, hr]
        rw [retryFrom_of_ok hf]
        simp [setupFunc, hk, hr]
      | err code =>
        have hf : (setupFunc kBindPortMaxRetry ctx basePort rpcsrv i s).result =
            .error (.runtimeError ("Port binding failed for port " ++
              toString (basePort + s.attemptCount))) := by
          simp [setupFunc, hk, hr]
        rw [retryFrom_of_retryable hf rfl]
        simpa [setupFunc, hk, hr] using ih (i + 1) { s with attemptCount := s.attemptCount + 1 }

end Scan

/-- A bring-up that returns `true` recorded the port of a call that bound: in scan mode
inside the window, in fixed mode `TRANSFER_ENGINE_LOCAL_PORT`. -/
theorem setupRpcServer_bound (kBindPortMaxRetry : Nat) (options : Options) (ctx : Ctx)
    (r : Fin 1001) (rpcsrv : Nat → Ret) (localServerPort : Int)
    (h : (setupRpcServer kBindPortMaxRetry options ctx r rpcsrv localServerPort).result =
      .ok true) :
    let o := setupRpcServer kBindPortMaxRetry options ctx r rpcsrv localServerPort
    (o.state, Ret.ok) ∈ rpcsrvCalls o.effects ∧
      (options.transferEngineServiceFixedPort = false →
        kRdmaPortStart ≤ o.state ∧ o.state < kRdmaPortStart + 1000 + kBindPortMaxRetry) ∧
      (options.transferEngineServiceFixedPort = true →
        o.state = options.transferEngineLocalPort) := by
  unfold setupRpcServer at h ⊢
  cases hf : options.transferEngineServiceFixedPort
  · simp only [hf, Bool.false_eq_true, if_false] at h ⊢
    obtain ⟨hm, hb⟩ := setupRpcServerWithRetry_bound _ r localServerPort h
    exact ⟨hm, fun _ => hb, nofun⟩
  · cases hr : rpcsrv 0 <;> simp_all

/-- `local_server_port_` after the bring-up is the port of its last call that bound, or what
it was when none did, in either mode. -/
theorem setupRpcServer_state (kBindPortMaxRetry : Nat) (options : Options) (ctx : Ctx)
    (r : Fin 1001) (rpcsrv : Nat → Ret) (localServerPort : Int) :
    let o := setupRpcServer kBindPortMaxRetry options ctx r rpcsrv localServerPort
    o.state = (lastBoundPort (rpcsrvCalls o.effects)).getD localServerPort := by
  unfold setupRpcServer
  dsimp only
  split
  · cases rpcsrv 0 <;> rfl
  · obtain ⟨hEff, hState, -⟩ := @setupRpcServerWithRetry_result_ok kBindPortMaxRetry ctx rpcsrv
      (countingRetry kBindPortMaxRetry) r localServerPort
    rw [hEff, hState]
    exact scan_port _ _ _

/-- The bring-up's only effects are `utrans_setup_rpcsrv` calls on the context it is given,
and sleeps. -/
theorem setupRpcServer_effects (kBindPortMaxRetry : Nat) (options : Options) (ctx : Ctx)
    (r : Fin 1001) (rpcsrv : Nat → Ret) (localServerPort : Int) :
    ∀ x ∈ (setupRpcServer kBindPortMaxRetry options ctx r rpcsrv localServerPort).effects,
      (∃ p ret, x = .utransSetupRpcsrv ctx p ret) ∨ ∃ ms, x = .sleepFor ms := by
  unfold setupRpcServer
  split
  · split <;> simp
  · rw [(@setupRpcServerWithRetry_result_ok kBindPortMaxRetry ctx rpcsrv _ r _).1]
    refine retryFrom_effects
      (fun x : Effect => (∃ p ret, x = .utransSetupRpcsrv ctx p ret) ∨ ∃ ms, x = .sleepFor ms)
      (.inr ⟨_, rfl⟩) (fun i s x hx => ?_) _ _ _
    simp only [setupFunc] at hx
    split at hx
    · simp at hx
    · split at hx <;> simp_all

/-- The bring-up law. In scan mode, for every random offset, every allowance of the runner
and every answer of `utrans_setup_rpcsrv`: at most `kBindPortMaxRetry` calls, the `i`-th on
port `51010 + r + i` (so no port twice), none after a success; true iff a call bound, and
then `GetBindPort()` is that call's port, inside `[51010, 51010 + 1000 + kBindPortMaxRetry)`.
In fixed mode a successful bring-up records `TRANSFER_ENGINE_LOCAL_PORT`. -/
theorem setupRpcServer_port (kBindPortMaxRetry : Nat) (policy : RetryPolicy) (ctx : Ctx)
    (r : Fin 1001) (rpcsrv : Nat → Ret) (localServerPort : Int) (options : Options) :
    (let o := setupRpcServerWithRetry kBindPortMaxRetry policy ctx r rpcsrv localServerPort
     let calls := rpcsrvCalls o.effects
     ∃ n ≤ kBindPortMaxRetry,
       calls = (List.range n).map (fun i : Nat => (kRdmaPortStart + (r : Nat) + i, rpcsrv i)) ∧
       (calls.map Prod.fst).Nodup ∧
       (∀ i, i + 1 < n → rpcsrv i ≠ .ok) ∧
       (o.result = .ok true ↔ ∃ p, (p, Ret.ok) ∈ calls) ∧
       (o.result = .ok true → (o.state, Ret.ok) ∈ calls ∧ kRdmaPortStart ≤ o.state ∧
         o.state < kRdmaPortStart + 1000 + kBindPortMaxRetry)) ∧
    (options.transferEngineServiceFixedPort = true →
      (setupRpcServer kBindPortMaxRetry options ctx r rpcsrv localServerPort).result = .ok true →
      (setupRpcServer kBindPortMaxRetry options ctx r rpcsrv localServerPort).state =
        options.transferEngineLocalPort) := by
  constructor
  · obtain ⟨hEff, -, hRes⟩ :=
      @setupRpcServerWithRetry_result_ok kBindPortMaxRetry ctx rpcsrv policy r localServerPort
    obtain ⟨n, hn, hcalls, hfail, hok, -⟩ := @scan_calls kBindPortMaxRetry ctx
      (kRdmaPortStart + (r : Nat)) rpcsrv policy.sleepMs policy.retries 0
      ⟨0, false, localServerPort⟩ rfl (Nat.zero_le _)
    simp only [retry] at hEff hRes
    simp only [Nat.zero_add] at hn hcalls hfail
    rw [← hEff] at hcalls hok
    refine ⟨n, hn, hcalls, ?_, hfail, hRes.trans hok,
      setupRpcServerWithRetry_bound policy r localServerPort⟩
    rw [hcalls, List.map_map]
    exact List.Nodup.map (fun a b hab => by simp only [Function.comp_apply] at hab; omega)
      (List.nodup_range n)
  · exact fun hfixed hok =>
      (setupRpcServer_bound kBindPortMaxRetry options ctx r rpcsrv localServerPort hok).2.2 hfixed

theorem setupRpcServer_port_fixed :
    let options : Options := ⟨"", 19000, true, 1000, 1000, 4, false, true, 500, 2, 0, 2, 0⟩
    options.transferEngineServiceFixedPort = true ∧
      (setupRpcServer 5 options 7 0 (fun _ => .ok) 51100).result = .ok true ∧
      (setupRpcServer 5 options 7 0 (fun _ => .ok) 51100).state = options.transferEngineLocalPort :=
  ⟨rfl, rfl, (setupRpcServer_port 5 (countingRetry 5) 7 0 (fun _ => .ok) 51100
    ⟨"", 19000, true, 1000, 1000, 4, false, true, 500, 2, 0, 2, 0⟩).2 rfl rfl⟩

end AstateRdma
