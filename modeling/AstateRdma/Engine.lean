import AstateRdma.RpcServer

/-!
# The engine and its lifecycle methods

`RDMATransporter`'s members, as the modelled methods read and write them, and the
methods other than the data path: `Start` with its helpers, `Stop`, `RegisterMemory`,
`DeregisterMemory` and the destructor. Each method is a function from the engine to an
`Outcome`; what the engine learns from outside it (host name, pid, the device selection,
sysfs, the random port offset) is a `Host`, and the backend's answers to `Start` are a
`StartBackend`.

`Stop` is the sequential reading of the method: its two tests of `is_running_` (before
and under `close_mutex_`) see the same value. `Shutdown` models the concurrent calls.

* `start_spec` — what `Start` does to the context, the options and `is_running_`;
* `start_bind_port` — a `Start` that returns `true` records the port a bind succeeded on;
* `start_result_of_rpc` — with a new context and a bring-up that succeeds, `Start` returns
  `true` unless it would move a new perf thread onto a joinable one;
* `stop_spec`, `destroy_spec` — `Stop` only joins; the destructor releases `ctx_`.
-/

namespace AstateRdma

/-- The members of `RDMATransporter` the modelled methods touch; `is_running_` is the
base class's flag, `perfLoggingThreadJoinable` is `perf_logging_thread_.joinable()`. -/
structure RDMATransporter where
  options : Options
  localServerName : String
  localServerPort : Int
  metaAddr : String
  writeTimeoutMs : Int
  readTimeoutMs : Int
  ctx : Option Ctx
  enablePerfMetrics : Bool
  perfStatsIntervalMs : Int
  perfLoggingThreadRunning : Bool
  perfLoggingThreadJoinable : Bool
  rdmaNumaNode : Int
  nicNodes : List (String × Int)
  lastSendReceiveTime : Int
  isRunning : Bool
  deriving DecidableEq, Repr

/-- A constructed engine, every member at its initializer. `options_` is a
default-constructed `Options`, whose values live in `option.h` (not among the sources):
they are the parameter `defaults`. -/
def RDMATransporter.init (defaults : Options) : RDMATransporter where
  options := defaults
  localServerName := ""
  localServerPort := 0
  metaAddr := ""
  writeTimeoutMs := -1
  readTimeoutMs := -1
  ctx := none
  enablePerfMetrics := true
  perfStatsIntervalMs := 500
  perfLoggingThreadRunning := false
  perfLoggingThreadJoinable := false
  rdmaNumaNode := -1
  nicNodes := []
  lastSendReceiveTime := 0
  isRunning := false

/-- What `Start` reads from outside the engine: `GetLocalHostnameOrIP()`, `getpid()`, the
result of `SelectRdmaDevices`, integer sysfs files, and the scan's random offset. -/
structure Host where
  hostname : String
  pid : Nat
  selectedDevices : String
  readSysfsInt : String → Option Int
  randomOffset : Fin 1001

/-- The backend's answers during `Start`: the context `utrans_setup` creates (or failure),
and the answer of the `i`-th `utrans_setup_rpcsrv` call. -/
structure StartBackend where
  setup : Option Ctx
  rpcsrv : Nat → Ret

/-- `NumaNodeOfInfiniband(dev)`: the NIC's NUMA node from sysfs, `-1` when unreadable. -/
def numaNodeOfInfiniband (readSysfsInt : String → Option Int) (dev : String) : Int :=
  (readSysfsInt ("/sys/class/infiniband/" ++ dev ++ "/device/numa_node")).getD (-1)

/-- Modelled from the spec: `SplitByComma`, the device names of a comma-separated list. -/
def splitByComma (s : String) : List String :=
  s.splitOn ","

/-- `PATH_MAX` and `NAME_MAX` of Linux. -/
def pathMax : Nat := 4096

/-- `NAME_MAX`. -/
def nameMax : Nat := 255

/-- `InitializeFromOptions(options)`. -/
def RDMATransporter.initializeFromOptions (e : RDMATransporter) (hostname : String)
    (options : Options) : RDMATransporter :=
  { e with
    localServerName := hostname
    metaAddr := options.transferEngineMetaServiceAddress
    readTimeoutMs := options.transferEngineReadTimeoutMs
    writeTimeoutMs := options.transferEngineWriteTimeoutMs }

/-- `InitializeLoggingConfig(utrans_config)`. -/
def initializeLoggingConfig (pid : Nat) (conf : UtransConfig) : UtransConfig :=
  let logName := "utrans-" ++ toString pid
  let logDir := "/tmp/astate"
  { conf with logConf := ⟨logDir.take (pathMax - 1), logName.take (nameMax - 1), 16,
      1024 * 1024 * 1024, 1⟩ }

/-- `InitializeRdmaConfig(utrans_config, options, parallel_config)`: the NIC list and the
primary NIC's NUMA node, the optional NUMA binding, and the config's device pattern. -/
def RDMATransporter.initializeRdmaConfig (e : RDMATransporter) (host : Host)
    (options : Options) (conf : UtransConfig) : Outcome (RDMATransporter × UtransConfig) Unit :=
  let conf := { conf with rdmaConf.numPollers := options.transferEngineRdmaNumPollers }
  if host.selectedDevices.isEmpty then
    ⟨[], .ok (), (e, { conf with rdmaConf.validDevPatt := none })⟩
  else
    let nicNodes := (splitByComma host.selectedDevices).map
      fun n => (n, numaNodeOfInfiniband host.readSysfsInt n)
    let node := match nicNodes with
      | [] => -1
      | (_, k) :: _ => k
    let bind := if options.transferEngineEnableNumaAllocation then [Effect.numaBind node] else []
    ⟨bind, .ok (), ({ e with nicNodes := nicNodes, rdmaNumaNode := node },
      { conf with rdmaConf.validDevPatt := some host.selectedDevices })⟩

/-- `SetupUtransContext(utrans_config)`. `utrans_setup` writes `ctx_` when it succeeds. -/
def RDMATransporter.setupUtransContext (e : RDMATransporter) (conf : UtransConfig)
    (setup : Option Ctx) : Outcome RDMATransporter Bool :=
  match setup with
  | none => ⟨[.utransSetup conf none], .ok false, e⟩
  | some c => ⟨[.utransSetup conf (some c)], .ok true, { e with ctx := some c }⟩

/-- `InitializePerfMetricsThread(options)`. The new thread is created before it is moved
into `perf_logging_thread_`; moving onto a joinable thread is `std::terminate`. -/
def RDMATransporter.initializePerfMetricsThread (e : RDMATransporter) (options : Options) :
    Outcome RDMATransporter Unit :=
  let e := { e with
    enablePerfMetrics := options.transferEngineEnablePerfMetrics
    perfStatsIntervalMs := options.transferEnginePerfStatsIntervalMs }
  if e.enablePerfMetrics && e.ctx.isSome then
    let e := { e with perfLoggingThreadRunning := true }
    if e.perfLoggingThreadJoinable then ⟨[.spawnPerfThread], .error .terminate, e⟩
    else ⟨[.spawnPerfThread], .ok (), { e with perfLoggingThreadJoinable := true }⟩
  else ⟨[], .ok (), e⟩

/-- `Start(options, parallel_config)`. -/
def RDMATransporter.start (e : RDMATransporter) (kBindPortMaxRetry : Nat) (host : Host)
    (backend : StartBackend) (options : Options) : Outcome RDMATransporter Bool :=
  let e := e.initializeFromOptions host.hostname options
  let rdma := e.initializeRdmaConfig host options
    (initializeLoggingConfig host.pid UtransConfig.zero)
  let su := rdma.state.1.setupUtransContext rdma.state.2 backend.setup
  match su.result, su.state.ctx with
  | .ok true, some c =>
    let rpc := setupRpcServer kBindPortMaxRetry options c host.randomOffset backend.rpcsrv
      su.state.localServerPort
    let e := { su.state with localServerPort := rpc.state }
    let before := rdma.effects ++ su.effects ++ rpc.effects
    match rpc.result with
    | .ok true =>
      let perf := e.initializePerfMetricsThread options
      match perf.result with
      | .ok () => ⟨before ++ perf.effects ++ [.sleepFor 1000], .ok true,
          { perf.state with isRunning := true }⟩
      | .error ex => ⟨before ++ perf.effects, .error ex, perf.state⟩
    | _ => ⟨before, .ok false, e⟩
  | _, _ => ⟨rdma.effects ++ su.effects, .ok false, su.state⟩

/-- `Stop()`, run alone: its second test of `is_running_`, under `close_mutex_`, sees the
value of the first. -/
def RDMATransporter.stop (e : RDMATransporter) : Outcome RDMATransporter Unit :=
  if !e.isRunning then ⟨[], .ok (), e⟩
  else
    let joined : Outcome RDMATransporter Unit :=
      if e.perfLoggingThreadRunning then
        let e := { e with perfLoggingThreadRunning := false }
        if e.perfLoggingThreadJoinable then
          ⟨[.joinPerfThread], .ok (), { e with perfLoggingThreadJoinable := false }⟩
        else ⟨[], .ok (), e⟩
      else ⟨[], .ok (), e⟩
    ⟨joined.effects, .ok (), { joined.state with isRunning := false }⟩

/-- `RegisterMemory(addr, len, is_vram, gpu_id_or_numa_node)`; `mr` is the registration
handle the backend returns, `none` for `nullptr`. -/
def RDMATransporter.registerMemory (e : RDMATransporter) (addr : Ptr) (len : UInt64)
    (is_vram : Bool) (gpu_id_or_numa_node : Int) (mr : Option Nat) :
    Outcome RDMATransporter Bool :=
  match e.ctx with
  | none => ⟨[], .ok false, e⟩
  | some c =>
    let call := if is_vram then Effect.utransRegistVram c addr len gpu_id_or_numa_node mr
      else Effect.utransRegistRam c addr len e.rdmaNumaNode mr
    match mr with
    | none => ⟨[call], .error (.runtimeError "Memory registration failed, mr is null"), e⟩
    | some _ => ⟨[call], .ok true, e⟩

/-- `DeregisterMemory(addr, len)`; `ret` is what `utrans_dereg_mem` returns. The result is the
code's `bool`, not the memory region the header's comment announces. -/
def RDMATransporter.deregisterMemory (e : RDMATransporter) (addr : Ptr) (len : UInt64)
    (ret : Int) : Outcome RDMATransporter Bool :=
  match e.ctx with
  | none => ⟨[], .ok false, e⟩
  | some c => ⟨[.utransDeregMem c addr len ret], .ok (ret == 0), e⟩

/-- `~RDMATransporter()`: `Stop()`, then `utrans_clean` on the context if there is one. -/
def RDMATransporter.destroy (e : RDMATransporter) : Outcome RDMATransporter Unit :=
  let s := e.stop
  match s.state.ctx with
  | none => s
  | some c => ⟨s.effects ++ [.utransClean c], .ok (), { s.state with ctx := none }⟩

/-! ## What each method does to the context -/

/-- The contexts `utrans_setup` created in a trace, in order. -/
def createdCtxs (effects : List Effect) : List Ctx :=
  effects.filterMap fun
    | .utransSetup _ (some c) => some c
    | _ => none

/-- The contexts a trace passes to `utrans_clean`, in order. -/
def cleanedCtxs (effects : List Effect) : List Ctx :=
  effects.filterMap fun
    | .utransClean c => some c
    | _ => none

@[simp] theorem createdCtxs_nil : createdCtxs [] = [] := rfl

@[simp] theorem cleanedCtxs_nil : cleanedCtxs [] = [] := rfl

@[simp] theorem createdCtxs_append (a b : List Effect) :
    createdCtxs (a ++ b) = createdCtxs a ++ createdCtxs b :=
  List.filterMap_append _ _ _

@[simp] theorem cleanedCtxs_append (a b : List Effect) :
    cleanedCtxs (a ++ b) = cleanedCtxs a ++ cleanedCtxs b :=
  List.filterMap_append _ _ _

@[simp] theorem createdCtxs_cons_utransSetup (conf : UtransConfig) (ret : Option Ctx)
    (l : List Effect) : createdCtxs (.utransSetup conf ret :: l) = ret.toList ++ createdCtxs l := by
  cases ret <;> rfl

@[simp] theorem cleanedCtxs_cons_utransSetup (conf : UtransConfig) (ret : Option Ctx)
    (l : List Effect) : cleanedCtxs (.utransSetup conf ret :: l) = cleanedCtxs l := rfl

@[simp] theorem createdCtxs_cons_utransClean (c : Ctx) (l : List Effect) :
    createdCtxs (.utransClean c :: l) = createdCtxs l := rfl

@[simp] theorem cleanedCtxs_cons_utransClean (c : Ctx) (l : List Effect) :
    cleanedCtxs (.utransClean c :: l) = c :: cleanedCtxs l := rfl

@[simp] theorem rpcsrvCalls_cons_utransSetup (conf : UtransConfig) (ret : Option Ctx)
    (l : List Effect) : rpcsrvCalls (.utransSetup conf ret :: l) = rpcsrvCalls l := rfl

@[simp] theorem createdCtxs_cons_sleepFor (ms : Int) (l : List Effect) :
    createdCtxs (.sleepFor ms :: l) = createdCtxs l := rfl

@[simp] theorem cleanedCtxs_cons_sleepFor (ms : Int) (l : List Effect) :
    cleanedCtxs (.sleepFor ms :: l) = cleanedCtxs l := rfl

/-- A trace with no context call creates and releases none. -/
theorem ctxs_eq_nil {l : List Effect} (h : ∀ x ∈ l, x.IsContextCall = false) :
    createdCtxs l = [] ∧ cleanedCtxs l = [] := by
  refine ⟨List.filterMap_eq_nil_iff.2 fun x hx => ?_,
    List.filterMap_eq_nil_iff.2 fun x hx => ?_⟩ <;>
    have hx := h x hx <;> cases x <;> first | rfl | cases hx

section Helpers

variable (e : RDMATransporter) (host : Host) (options : Options) (conf : UtransConfig)

theorem initializeRdmaConfig_spec :
    let o := e.initializeRdmaConfig host options conf
    (∃ nics node, o.state.1 = { e with nicNodes := nics, rdmaNumaNode := node }) ∧
      ∀ x ∈ o.effects, ∃ n, x = .numaBind n := by
  simp only [RDMATransporter.initializeRdmaConfig]
  split
  · exact ⟨⟨e.nicNodes, e.rdmaNumaNode, rfl⟩, by simp⟩
  · refine ⟨⟨_, _, rfl⟩, ?_⟩
    split <;> simp

@[simp] theorem initializeRdmaConfig_frame :
    (e.initializeRdmaConfig host options conf).state.1.ctx = e.ctx ∧
    (e.initializeRdmaConfig host options conf).state.1.options = e.options ∧
    (e.initializeRdmaConfig host options conf).state.1.isRunning = e.isRunning ∧
    (e.initializeRdmaConfig host options conf).state.1.perfLoggingThreadJoinable =
      e.perfLoggingThreadJoinable ∧
    (e.initializeRdmaConfig host options conf).state.1.perfLoggingThreadRunning =
      e.perfLoggingThreadRunning := by
  obtain ⟨⟨_, _, h⟩, -⟩ := initializeRdmaConfig_spec e host options conf
  simp [h]

@[simp] theorem initializeRdmaConfig_rpcsrvCalls :
    rpcsrvCalls (e.initializeRdmaConfig host options conf).effects = [] :=
  List.filterMap_eq_nil_iff.2 fun x hx => by
    obtain ⟨n, rfl⟩ := (initializeRdmaConfig_spec e host options conf).2 x hx; rfl

@[simp] theorem initializeRdmaConfig_effects :
    createdCtxs (e.initializeRdmaConfig host options conf).effects = [] ∧
    cleanedCtxs (e.initializeRdmaConfig host options conf).effects = [] ∧
    Effect.spawnPerfThread ∉ (e.initializeRdmaConfig host options conf).effects := by
  have h := (initializeRdmaConfig_spec e host options conf).2
  refine ⟨(ctxs_eq_nil fun x hx => ?_).1, (ctxs_eq_nil fun x hx => ?_).2, fun hx => ?_⟩ <;>
    obtain ⟨n, hn⟩ := h _ hx <;> cases hn <;> rfl

theorem initializePerfMetricsThread_spec :
    let o := e.initializePerfMetricsThread options
    (∃ en iv run join, o.state =
      { e with
        enablePerfMetrics := en
        perfStatsIntervalMs := iv
        perfLoggingThreadRunning := run
        perfLoggingThreadJoinable := join }) ∧
      ∀ x ∈ o.effects, x = .spawnPerfThread := by
  simp only [RDMATransporter.initializePerfMetricsThread]
  split
  · split <;> exact ⟨⟨_, _, _, _, rfl⟩, by simp⟩
  · exact ⟨⟨_, _, e.perfLoggingThreadRunning, e.perfLoggingThreadJoinable, rfl⟩, by simp⟩

@[simp] theorem initializePerfMetricsThread_frame :
    (e.initializePerfMetricsThread options).state.ctx = e.ctx ∧
    (e.initializePerfMetricsThread options).state.options = e.options ∧
    (e.initializePerfMetricsThread options).state.isRunning = e.isRunning ∧
    (e.initializePerfMetricsThread options).state.localServerPort = e.localServerPort ∧
    createdCtxs (e.initializePerfMetricsThread options).effects = [] ∧
    cleanedCtxs (e.initializePerfMetricsThread options).effects = [] ∧
    rpcsrvCalls (e.initializePerfMetricsThread options).effects = [] := by
  obtain ⟨⟨_, _, _, _, h⟩, he⟩ := initializePerfMetricsThread_spec e options
  refine ⟨by simp [h], by simp [h], by simp [h], by simp [h], (ctxs_eq_nil fun x hx => ?_).1,
    (ctxs_eq_nil fun x hx => ?_).2, List.filterMap_eq_nil_iff.2 fun x hx => ?_⟩ <;>
    simp [he x hx, Effect.IsContextCall]

/-- `InitializePerfMetricsThread` ends the process exactly when it starts a thread while
`perf_logging_thread_` is joinable. -/
theorem initializePerfMetricsThread_result_eq :
    (e.initializePerfMetricsThread options).result =
      if options.transferEngineEnablePerfMetrics && e.ctx.isSome && e.perfLoggingThreadJoinable
      then .error .terminate else .ok () := by
  simp only [RDMATransporter.initializePerfMetricsThread]
  split <;> (try split) <;> simp_all

/-- The thread flags `InitializePerfMetricsThread` leaves: both set when it starts a thread. -/
@[simp] theorem initializePerfMetricsThread_flags :
    (e.initializePerfMetricsThread options).state.perfLoggingThreadRunning =
      (e.perfLoggingThreadRunning || options.transferEngineEnablePerfMetrics && e.ctx.isSome) ∧
    (e.initializePerfMetricsThread options).state.perfLoggingThreadJoinable =
      (e.perfLoggingThreadJoinable || options.transferEngineEnablePerfMetrics && e.ctx.isSome) := by
  simp only [RDMATransporter.initializePerfMetricsThread]
  split
  · split <;> simp_all
  · simp_all

end Helpers

@[simp] theorem setupRpcServer_ctxs (kBindPortMaxRetry : Nat) (options : Options) (ctx : Ctx)
    (r : Fin 1001) (rpcsrv : Nat → Ret) (localServerPort : Int) :
    let o := setupRpcServer kBindPortMaxRetry options ctx r rpcsrv localServerPort
    createdCtxs o.effects = [] ∧ cleanedCtxs o.effects = [] ∧
      Effect.spawnPerfThread ∉ o.effects := by
  have h := setupRpcServer_effects kBindPortMaxRetry options ctx r rpcsrv localServerPort
  refine ⟨(ctxs_eq_nil fun x hx => ?_).1, (ctxs_eq_nil fun x hx => ?_).2, fun hx => ?_⟩ <;>
    rcases h _ hx with ⟨_, _, h'⟩ | ⟨_, h'⟩ <;> cases h' <;> rfl

/-- What `Start` does to the context, whatever the backend answers: `ctx_` ends as the
context `utrans_setup` created, or the old one; that is the only context call; `options_`
is untouched; `is_running_` is set only with a new context; a `Start` that returns `false`
starts no perf thread. -/
theorem start_spec (e : RDMATransporter) (kBindPortMaxRetry : Nat) (host : Host)
    (backend : StartBackend) (options : Options) :
    let o := e.start kBindPortMaxRetry host backend options
    o.state.ctx = backend.setup.or e.ctx ∧ o.state.options = e.options ∧
      (o.state.isRunning = true → e.isRunning = true ∨ backend.setup.isSome) ∧
      createdCtxs o.effects = backend.setup.toList ∧ cleanedCtxs o.effects = [] ∧
      (o.result = .ok false → Effect.spawnPerfThread ∉ o.effects) := by
  unfold RDMATransporter.start
  dsimp only
  cases hs : backend.setup with
  | none => simp [RDMATransporter.setupUtransContext, RDMATransporter.initializeFromOptions]
  | some c =>
    simp only [RDMATransporter.setupUtransContext]
    split
    · split <;> simp [RDMATransporter.initializeFromOptions]
    · simp [RDMATransporter.initializeFromOptions]

/-- The calls `Start` makes, in order: the NUMA binding, one `utrans_setup`, then, on the
context that call created, the RPC bring-up, the perf thread and the final sleep. -/
theorem start_effects (e : RDMATransporter) (kBindPortMaxRetry : Nat) (host : Host)
    (backend : StartBackend) (options : Options) :
    ∃ conf pre post, (e.start kBindPortMaxRetry host backend options).effects =
        pre ++ .utransSetup conf backend.setup :: post ∧
          (∀ x ∈ pre, ∃ n, x = .numaBind n) ∧
      ∀ x ∈ post, (∃ c p ret, backend.setup = some c ∧ x = .utransSetupRpcsrv c p ret) ∨
        x = .spawnPerfThread ∨ ∃ ms, x = .sleepFor ms := by
  have hpre := (initializeRdmaConfig_spec (e.initializeFromOptions host.hostname options) host
    options (initializeLoggingConfig host.pid UtransConfig.zero)).2
  unfold RDMATransporter.start
  dsimp only
  generalize (e.initializeFromOptions host.hostname options).initializeRdmaConfig host options
    (initializeLoggingConfig host.pid UtransConfig.zero) = rdma at hpre ⊢
  cases hs : backend.setup with
  | none =>
    exact ⟨rdma.state.2, _, [], by simp [RDMATransporter.setupUtransContext], hpre, by simp⟩
  | some c =>
    have hrpc := setupRpcServer_effects kBindPortMaxRetry options c host.randomOffset
      backend.rpcsrv rdma.state.1.localServerPort
    simp only [RDMATransporter.setupUtransContext]
    generalize setupRpcServer kBindPortMaxRetry options c host.randomOffset backend.rpcsrv
      rdma.state.1.localServerPort = rpc at hrpc ⊢
    have post : ∀ mid tail : List Effect, (∀ x ∈ mid, x = .spawnPerfThread) →
        (∀ x ∈ tail, ∃ ms, x = .sleepFor ms) → ∀ x ∈ rpc.effects ++ mid ++ tail,
          (∃ c' p ret, some c = some c' ∧ x = .utransSetupRpcsrv c' p ret) ∨
            x = .spawnPerfThread ∨ ∃ ms, x = .sleepFor ms := by
      intro mid tail hmid htail x hx
      rcases List.mem_append.1 hx with hx | hx
      rcases List.mem_append.1 hx with hx | hx
      · rcases hrpc x hx with ⟨p, ret, rfl⟩ | h
        exacts [.inl ⟨c, p, ret, rfl, rfl⟩, .inr (.inr h)]
      · exact .inr (.inl (hmid x hx))
      · exact .inr (.inr (htail x hx))
    have perf := fun e' => (initializePerfMetricsThread_spec e' options).2
    split
    · split
      · exact ⟨rdma.state.2, rdma.effects, _, by simp; rfl, hpre,
          post _ [.sleepFor 1000] (perf _) (by simp)⟩
      · exact ⟨rdma.state.2, rdma.effects, _, by simp; rfl, hpre, post _ [] (perf _) (by simp)⟩
    · exact ⟨rdma.state.2, rdma.effects, _, by simp, hpre, post [] [] (by simp) (by simp)⟩

/-- `GetBindPort()` after `Start` is the port of its last `utrans_setup_rpcsrv` call that
bound, or what it was before when none did. -/
theorem start_port (e : RDMATransporter) (kBindPortMaxRetry : Nat) (host : Host)
    (backend : StartBackend) (options : Options) :
    let o := e.start kBindPortMaxRetry host backend options
    o.state.localServerPort = (lastBoundPort (rpcsrvCalls o.effects)).getD e.localServerPort := by
  obtain ⟨⟨nics, node, hrdma⟩, -⟩ := initializeRdmaConfig_spec
    (e.initializeFromOptions host.hostname options) host options
    (initializeLoggingConfig host.pid UtransConfig.zero)
  have hcalls := initializeRdmaConfig_rpcsrvCalls (e.initializeFromOptions host.hostname options)
    host options (initializeLoggingConfig host.pid UtransConfig.zero)
  unfold RDMATransporter.start
  dsimp only
  generalize (e.initializeFromOptions host.hostname options).initializeRdmaConfig host options
    (initializeLoggingConfig host.pid UtransConfig.zero) = rdma at hrdma hcalls ⊢
  have hport : rdma.state.1.localServerPort = e.localServerPort := by
    rw [hrdma]; rfl
  cases hs : backend.setup with
  | none => simp [RDMATransporter.setupUtransContext, hcalls, hport]
  | some c =>
    have hrpc := setupRpcServer_state kBindPortMaxRetry options c host.randomOffset
      backend.rpcsrv rdma.state.1.localServerPort
    simp only [RDMATransporter.setupUtransContext]
    generalize setupRpcServer kBindPortMaxRetry options c host.randomOffset backend.rpcsrv
      rdma.state.1.localServerPort = rpc at hrpc ⊢
    split
    · split <;> simp [hcalls, hport, hrpc]
    · simp [hcalls, hport, hrpc]

/-- `InitializePerfMetricsThread` fails only by ending the process, and only when it would
replace a joinable thread. -/
theorem initializePerfMetricsThread_result (e : RDMATransporter) (options : Options) :
    ((e.initializePerfMetricsThread options).result = .ok () →
      Effect.spawnPerfThread ∈ (e.initializePerfMetricsThread options).effects →
        e.perfLoggingThreadJoinable = false) ∧
    ∀ ex, (e.initializePerfMetricsThread options).result = .error ex → ex = .terminate := by
  simp only [RDMATransporter.initializePerfMetricsThread]
  split
  · split <;> simp_all
  · simp

/-- `Start` never moves a new perf thread onto a joinable one: it ends the process first. -/
theorem start_spawn (e : RDMATransporter) (kBindPortMaxRetry : Nat) (host : Host)
    (backend : StartBackend) (options : Options) :
    let o := e.start kBindPortMaxRetry host backend options
    Effect.spawnPerfThread ∈ o.effects →
      e.perfLoggingThreadJoinable = false ∨ o.result = .error .terminate := by
  unfold RDMATransporter.start
  dsimp only
  cases hs : backend.setup with
  | none => simp [RDMATransporter.setupUtransContext]
  | some c =>
    simp only [RDMATransporter.setupUtransContext]
    split
    · split
      · rename_i hok
        intro h
        have := (initializePerfMetricsThread_result _ options).1 hok (by simpa using h)
        exact .inl (by simpa [RDMATransporter.initializeFromOptions] using this)
      · rename_i hex
        intro _
        simp [(initializePerfMetricsThread_result _ options).2 _ hex]
    · simp

theorem initializePerfMetricsThread_started (e : RDMATransporter) (options : Options)
    (hok : (e.initializePerfMetricsThread options).result = .ok ())
    (hperf : options.transferEngineEnablePerfMetrics = true) (hctx : e.ctx.isSome = true) :
    (e.initializePerfMetricsThread options).state.perfLoggingThreadRunning = true ∧
      (e.initializePerfMetricsThread options).state.perfLoggingThreadJoinable = true := by
  simp only [RDMATransporter.initializePerfMetricsThread, hperf, hctx] at hok ⊢
  cases hj : e.perfLoggingThreadJoinable <;> simp_all

/-- A `Start` that returns `true` with perf metrics enabled leaves the engine running, with
its new context and a running, joinable perf thread. -/
theorem start_perf_started (e : RDMATransporter) (kBindPortMaxRetry : Nat) (host : Host)
    (backend : StartBackend) (options : Options)
    (hok : (e.start kBindPortMaxRetry host backend options).result = .ok true)
    (hperf : options.transferEngineEnablePerfMetrics = true) :
    let s := (e.start kBindPortMaxRetry host backend options).state
    s.isRunning = true ∧ s.perfLoggingThreadRunning = true ∧
      s.perfLoggingThreadJoinable = true ∧
      s.ctx.isSome = true := by
  revert hok
  unfold RDMATransporter.start
  dsimp only
  cases hs : backend.setup with
  | none => exact fun h => nomatch h
  | some c =>
    simp only [RDMATransporter.setupUtransContext]
    split
    · split
      · rename_i hperfOk
        have := initializePerfMetricsThread_started _ options hperfOk hperf rfl
        simp_all
      · exact fun h => nomatch h
    · exact fun h => nomatch h

/-- With a new context and an RPC bring-up that succeeds (in either mode, from whatever port
the engine recorded), `Start` returns `true`, unless perf metrics are on and
`perf_logging_thread_` is still joinable from an earlier `Start`: then it ends the process. -/
theorem start_result_of_rpc (e : RDMATransporter) (kBindPortMaxRetry : Nat) (host : Host)
    (backend : StartBackend) (options : Options) {c : Ctx} (hs : backend.setup = some c)
    (hrpc : ∀ port, (setupRpcServer kBindPortMaxRetry options c host.randomOffset backend.rpcsrv
      port).result = .ok true) :
    (e.start kBindPortMaxRetry host backend options).result =
      if options.transferEngineEnablePerfMetrics && e.perfLoggingThreadJoinable then
        .error .terminate
      else .ok true := by
  unfold RDMATransporter.start
  simp only [RDMATransporter.setupUtransContext, hs, hrpc, initializePerfMetricsThread_result_eq]
  split <;> split <;> simp_all [RDMATransporter.initializeFromOptions]

/-- A `Start` that returns `true` went through a bring-up that returned `true` on the new
context: `local_server_port_` is what that bring-up recorded, and its calls of
`utrans_setup_rpcsrv` are the only ones `Start` made. -/
theorem start_rpc (e : RDMATransporter) (kBindPortMaxRetry : Nat) (host : Host)
    (backend : StartBackend) (options : Options)
    (hok : (e.start kBindPortMaxRetry host backend options).result = .ok true) :
    ∃ c port, (setupRpcServer kBindPortMaxRetry options c host.randomOffset backend.rpcsrv
        port).result = .ok true ∧
      (e.start kBindPortMaxRetry host backend options).state.localServerPort =
        (setupRpcServer kBindPortMaxRetry options c host.randomOffset backend.rpcsrv port).state ∧
      rpcsrvCalls (e.start kBindPortMaxRetry host backend options).effects =
        rpcsrvCalls (setupRpcServer kBindPortMaxRetry options c host.randomOffset backend.rpcsrv
          port).effects := by
  revert hok
  unfold RDMATransporter.start
  dsimp only
  cases hs : backend.setup with
  | none => exact fun h => nomatch h
  | some c =>
    simp only [RDMATransporter.setupUtransContext]
    split
    · rename_i hrpc
      split
      · exact fun _ => ⟨c, _, hrpc, by simp, by simp⟩
      · exact fun h => nomatch h
    · exact fun h => nomatch h

/-- A `Start` that returns `true` has its listener bound: `GetBindPort()` is the port of a
call of `utrans_setup_rpcsrv` this `Start` made and that bound; in scan mode it lies in
`[51010, 51010 + 1000 + kBindPortMaxRetry)`, in fixed mode it is
`TRANSFER_ENGINE_LOCAL_PORT`. -/
theorem start_bind_port (e : RDMATransporter) (kBindPortMaxRetry : Nat) (host : Host)
    (backend : StartBackend) (options : Options)
    (hok : (e.start kBindPortMaxRetry host backend options).result = .ok true) :
    let o := e.start kBindPortMaxRetry host backend options
    (o.state.localServerPort, Ret.ok) ∈ rpcsrvCalls o.effects ∧
      (options.transferEngineServiceFixedPort = false →
        kRdmaPortStart ≤ o.state.localServerPort ∧
          o.state.localServerPort < kRdmaPortStart + 1000 + kBindPortMaxRetry) ∧
      (options.transferEngineServiceFixedPort = true →
        o.state.localServerPort = options.transferEngineLocalPort) := by
  obtain ⟨c, port, hrpc, hport, hcalls⟩ :=
    start_rpc e kBindPortMaxRetry host backend options hok
  dsimp only
  rw [hport, hcalls]
  exact setupRpcServer_bound kBindPortMaxRetry options c host.randomOffset backend.rpcsrv port hrpc

theorem start_bind_port_scan :
    let options : Options := ⟨"", 19000, false, 1000, 1000, 4, false, false, 500, 2, 0, 2, 0⟩
    let o := (RDMATransporter.init options).start 5 ⟨"host", 1, "", fun _ => none, 0⟩
      ⟨some 7, fun i => if i < 2 then .err 98 else .ok⟩ options
    o.result = .ok true ∧ o.state.localServerPort = 51012 ∧
      ((o.state.localServerPort, Ret.ok) ∈ rpcsrvCalls o.effects ∧
        (options.transferEngineServiceFixedPort = false →
          kRdmaPortStart ≤ o.state.localServerPort ∧
            o.state.localServerPort < kRdmaPortStart + 1000 + 5) ∧
        (options.transferEngineServiceFixedPort = true →
          o.state.localServerPort = options.transferEngineLocalPort)) :=
  ⟨rfl, rfl,
    start_bind_port (.init ⟨"", 19000, false, 1000, 1000, 4, false, false, 500, 2, 0, 2, 0⟩)
      5 ⟨"host", 1, "", fun _ => none, 0⟩ ⟨some 7, fun i => if i < 2 then .err 98 else .ok⟩
      ⟨"", 19000, false, 1000, 1000, 4, false, false, 500, 2, 0, 2, 0⟩ rfl⟩

/-- With perf metrics off, `Start` starts no perf thread. -/
theorem start_no_perf (e : RDMATransporter) (kBindPortMaxRetry : Nat) (host : Host)
    (backend : StartBackend) (options : Options)
    (hoff : options.transferEngineEnablePerfMetrics = false) :
    Effect.spawnPerfThread ∉ (e.start kBindPortMaxRetry host backend options).effects := by
  unfold RDMATransporter.start
  dsimp only
  cases hs : backend.setup with
  | none => simp [RDMATransporter.setupUtransContext]
  | some c =>
    simp only [RDMATransporter.setupUtransContext]
    split
    · split <;> simp [RDMATransporter.initializePerfMetricsThread, hoff]
    · simp

/-- `Stop` clears `is_running_`, keeps the context and the options, and at most joins. -/
theorem stop_spec (e : RDMATransporter) :
    e.stop.state.ctx = e.ctx ∧ e.stop.state.options = e.options ∧
      e.stop.state.isRunning = false ∧ ∀ x ∈ e.stop.effects, x = .joinPerfThread := by
  unfold RDMATransporter.stop
  split
  · simp_all
  · dsimp only
    split
    · split <;> simp
    · simp

theorem stop_ctxs (e : RDMATransporter) :
    createdCtxs e.stop.effects = [] ∧ cleanedCtxs e.stop.effects = [] :=
  ctxs_eq_nil fun x hx => by rw [(stop_spec e).2.2.2 x hx]; rfl

/-! ## The perf thread's flags -/

/-- A joinable perf thread belongs to a running engine whose sampler loop is on. -/
def RDMATransporter.PerfInv (e : RDMATransporter) : Prop :=
  e.perfLoggingThreadJoinable = true → e.isRunning = true ∧ e.perfLoggingThreadRunning = true

/-- `Start` keeps `PerfInv`, and ends the process only with perf metrics on and a joinable
perf thread. -/
theorem start_flags (e : RDMATransporter) (kBindPortMaxRetry : Nat) (host : Host)
    (backend : StartBackend) (options : Options) (inv : e.PerfInv) :
    let o := e.start kBindPortMaxRetry host backend options
    o.state.PerfInv ∧
      (o.result = .error .terminate → options.transferEngineEnablePerfMetrics = true ∧
        e.perfLoggingThreadJoinable = true) := by
  unfold RDMATransporter.start RDMATransporter.PerfInv at *
  dsimp only
  cases hs : backend.setup with
  | none =>
    simpa [RDMATransporter.setupUtransContext, RDMATransporter.initializeFromOptions] using inv
  | some c =>
    simp only [RDMATransporter.setupUtransContext]
    split
    · split
      · simp [RDMATransporter.initializeFromOptions]
        rintro (h | h)
        exacts [.inl (inv h).2, .inr h]
      · rename_i hex
        rw [initializePerfMetricsThread_result_eq] at hex
        simp [RDMATransporter.initializeFromOptions] at hex ⊢
        split_ifs at hex with h
        exact ⟨fun _ => ⟨(inv h.2).1, .inr h.1⟩, fun _ => h⟩
    · simpa [RDMATransporter.initializeFromOptions] using inv

/-- On an engine with `PerfInv`, `Stop` leaves no joinable perf thread. -/
theorem stop_joinable (e : RDMATransporter) (inv : e.PerfInv) :
    e.stop.state.perfLoggingThreadJoinable = false := by
  unfold RDMATransporter.stop
  cases hj : e.perfLoggingThreadJoinable
  · split <;> (try split) <;> simp_all
  · obtain ⟨hr, hp⟩ := inv hj
    simp [hr, hp, hj]

/-- The destructor releases exactly the context `ctx_` holds, and creates none. -/
theorem destroy_spec (e : RDMATransporter) :
    createdCtxs e.destroy.effects = [] ∧ cleanedCtxs e.destroy.effects = e.ctx.toList ∧
      e.destroy.state.ctx = none := by
  obtain ⟨hctx, -, -, -⟩ := stop_spec e
  obtain ⟨hc, hk⟩ := stop_ctxs e
  unfold RDMATransporter.destroy
  dsimp only
  rw [hctx]
  cases h : e.ctx <;> simp [hc, hk, hctx, h]

/-- Registration and deregistration leave the engine as it was, make no context call,
and without a context return `false` at once. -/
theorem registerMemory_spec (e : RDMATransporter) (addr : Ptr) (len : UInt64) (is_vram : Bool)
    (gpu_id_or_numa_node : Int) (mr : Option Nat) (ret : Int) :
    let r := e.registerMemory addr len is_vram gpu_id_or_numa_node mr
    let d := e.deregisterMemory addr len ret
    r.state = e ∧ d.state = e ∧ (∀ x ∈ r.effects ++ d.effects, x.IsContextCall = false) ∧
      (e.ctx = none → r.effects = [] ∧ r.result = .ok false ∧ d.effects = [] ∧
        d.result = .ok false) := by
  unfold RDMATransporter.registerMemory RDMATransporter.deregisterMemory
  cases e.ctx with
  | none => simp
  | some c =>
    refine ⟨by cases mr <;> rfl, rfl, fun x hx => ?_, nofun⟩
    cases is_vram <;> cases mr <;>
      simp only [List.mem_append, List.mem_singleton, if_true, if_false,
        Bool.false_eq_true] at hx <;>
      rcases hx with rfl | rfl <;> rfl

end AstateRdma
