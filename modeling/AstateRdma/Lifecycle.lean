import AstateRdma.Transfer

/-!
# Call sequences on one engine

A client drives an `RDMATransporter` by a sequence of calls: `Start` (again after a failure
or after `Stop`), `Stop`, `Send`, `Receive`, `RegisterMemory` and `DeregisterMemory`, each
with the answers the outside world gives it. `runCalls` makes them in order and collects
their effects; a call that ends in `std::terminate` ends the run.

* `call_spec` — what one call does to the context, the options and `is_running_`;
* `runCalls_inv` — along every run from a constructed engine, `ctx_` is the last context
  `utrans_setup` created, no context has been released, and a running engine has one;
* `runCalls_spawn` — every perf thread is started by a `Start` with perf metrics on, among
  that `Start`'s own effects;
* `data_calls_need_setup` — without a context the data calls touch nothing and fail at
  their first guard; with one they reach the backend, also after `Stop`;
* `destroy_cleans_last_ctx` — the destructor releases the last context created, once, and
  no call releases another;
* `restart_with_perf_terminates` — a second `Start` without `Stop`, with perf metrics on,
  ends the process;
* `only_restart_terminates` — and nothing else does: the call that ends the process is such
  a `Start`;
* `start_ignores_retry_options` — the retry keys given to `Start` never reach a transfer.
-/

namespace AstateRdma

/-- A call on the engine, with what the outside world answers during it. -/
inductive Call where
  | start (host : Host) (backend : StartBackend) (options : Options)
  | stop
  | send (now : Int) (local_addr : Ptr) (send_size : UInt64) (remote_host : String)
      (remote_port : Int) (extend_info : Option ExtendInfo) (backend : Nat → Attempt)
  | receive (now : Int) (local_addr : Ptr) (recv_size : UInt64) (remote_host : String)
      (remote_port : Int) (extend_info : Option ExtendInfo) (backend : Nat → Attempt)
  | registerMemory (addr : Ptr) (len : UInt64) (is_vram : Bool) (gpu_id_or_numa_node : Int)
      (mr : Option Nat)
  | deregisterMemory (addr : Ptr) (len : UInt64) (ret : Int)

/-- The data-plane calls, which the source gates on `ctx_ != nullptr`. -/
def Call.IsData : Call → Bool
  | .start .. | .stop => false
  | _ => true

/-- An outcome with its result mapped. -/
def Outcome.mapResult {σ α β : Type} (f : α → β) (o : Outcome σ α) : Outcome σ β :=
  ⟨o.effects, o.result.map f, o.state⟩

/-- One call; `Stop` returns nothing, the others a `bool`. -/
def RDMATransporter.call (kBindPortMaxRetry : Nat) (e : RDMATransporter) :
    Call → Outcome RDMATransporter (Option Bool)
  | .start host backend options =>
    (e.start kBindPortMaxRetry host backend options).mapResult some
  | .stop => e.stop.mapResult fun _ => none
  | .send now a n h p x b => (e.send now a n h p x b).mapResult some
  | .receive now a n h p x b => (e.receive now a n h p x b).mapResult some
  | .registerMemory a n v g mr => (e.registerMemory a n v g mr).mapResult some
  | .deregisterMemory a n r => (e.deregisterMemory a n r).mapResult some

/-- Whether a call ended the process. -/
def endsProcess {α : Type} : Except Exn α → Bool
  | .error .terminate => true
  | _ => false

/-- A run: the effects of its calls in order, the engine after them, and whether one of
them ended the process. -/
structure Run where
  effects : List Effect
  engine : RDMATransporter
  terminated : Bool

/-- `calls` made in order on `e`; nothing runs after a call that ended the process. -/
def runCalls (kBindPortMaxRetry : Nat) (e : RDMATransporter) : List Call → Run
  | [] => ⟨[], e, false⟩
  | c :: cs =>
    let o := e.call kBindPortMaxRetry c
    if endsProcess o.result then ⟨o.effects, o.state, true⟩
    else
      let r := runCalls kBindPortMaxRetry o.state cs
      ⟨o.effects ++ r.effects, r.engine, r.terminated⟩

/-! ## One call -/

/-- What a call may do to the context: `utrans_setup` may create one, which then replaces
`ctx_`; none is released; `is_running_` is set only with a new context; `options_` is
never written. -/
structure CtxStep {α : Type} (e : RDMATransporter) (o : Outcome RDMATransporter α) : Prop where
  options_eq : o.state.options = e.options
  none_cleaned : cleanedCtxs o.effects = []
  setup : ∃ s : Option Ctx, o.state.ctx = s.or e.ctx ∧ createdCtxs o.effects = s.toList ∧
    (o.state.isRunning = true → e.isRunning = true ∨ s.isSome)

section Call

variable (kBindPortMaxRetry : Nat) (e : RDMATransporter)

/-- A call that keeps `ctx_`, `options_` and `is_running_` and makes no context call. -/
theorem CtxStep.of_frame {α : Type} (f : α → Option Bool) (o : Outcome RDMATransporter α)
    (hs : o.state.ctx = e.ctx ∧ o.state.options = e.options ∧ o.state.isRunning = e.isRunning)
    (hx : ∀ x ∈ o.effects, x.IsContextCall = false) : CtxStep e (o.mapResult f) :=
  ⟨hs.2.1, (ctxs_eq_nil hx).2, none, by simpa using hs.1, (ctxs_eq_nil hx).1,
    fun h => .inl (hs.2.2 ▸ h)⟩

theorem call_spec (c : Call) : CtxStep e (e.call kBindPortMaxRetry c) := by
  cases c with
  | start host backend options =>
    obtain ⟨h1, h2, h3, h4, h5, -⟩ := start_spec e kBindPortMaxRetry host backend options
    exact ⟨h2, h5, _, h1, h4, h3⟩
  | stop =>
    obtain ⟨h1, h2, h3, hx⟩ := stop_spec e
    refine ⟨h2, (stop_ctxs e).2, none, by simpa using h1, (stop_ctxs e).1, ?_⟩
    simp [RDMATransporter.call, Outcome.mapResult, h3]
  | send now a n h p x b =>
    obtain ⟨⟨t, ht⟩, -, -⟩ := send_frame e now a n h p x b
    exact .of_frame e _ _ (by simp [ht]) (send_no_context_calls e now a n h p x b).1
  | receive now a n h p x b =>
    obtain ⟨-, ⟨t, ht⟩, -⟩ := send_frame e now a n h p x b
    exact .of_frame e _ _ (by simp [ht]) (send_no_context_calls e now a n h p x b).2
  | registerMemory a n v g mr =>
    obtain ⟨hs, -, hx, -⟩ := registerMemory_spec e a n v g mr 0
    exact .of_frame e _ _ (by simp [hs]) fun y hy => hx y (List.mem_append_left _ hy)
  | deregisterMemory a n r =>
    obtain ⟨-, hs, hx, -⟩ := registerMemory_spec e a n false 0 none r
    exact .of_frame e _ _ (by simp [hs]) fun y hy => hx y (List.mem_append_right _ hy)

/-- Without a context the data calls touch nothing and end at their first guard: `Send`,
`RegisterMemory` and `DeregisterMemory` return `false`, `Receive` throws
`std::invalid_argument`. -/
theorem call_data_without_ctx (h : e.ctx = none) :
    (∀ now a n hh p x b, e.call kBindPortMaxRetry (.send now a n hh p x b) =
      ⟨[], .ok (some false), e⟩) ∧
    (∀ now a n hh p x b, e.call kBindPortMaxRetry (.receive now a n hh p x b) =
      ⟨[], .error
        (.invalidArgument "RDMATransporter::Receive: context not initialized"), e⟩) ∧
    (∀ a n v g mr, e.call kBindPortMaxRetry (.registerMemory a n v g mr) =
      ⟨[], .ok (some false), e⟩) ∧
    ∀ a n r, e.call kBindPortMaxRetry (.deregisterMemory a n r) =
      ⟨[], .ok (some false), e⟩ := by
  refine ⟨fun _ _ _ _ _ _ _ => ?_, fun _ _ _ _ _ _ _ => ?_, fun _ _ _ _ _ => ?_,
    fun _ _ _ => ?_⟩ <;>
    simp [RDMATransporter.call, Outcome.mapResult, RDMATransporter.send, RDMATransporter.receive,
      RDMATransporter.registerMemory, RDMATransporter.deregisterMemory, h, Except.map]

/-- Only a `Start` with perf metrics on starts a perf thread. -/
theorem call_spawn {c : Call}
    (h : Effect.spawnPerfThread ∈ (e.call kBindPortMaxRetry c).effects) :
    ∃ host backend options, c = .start host backend options ∧
      options.transferEngineEnablePerfMetrics = true := by
  cases c with
  | start host backend options =>
    refine ⟨host, backend, options, rfl, ?_⟩
    by_contra hoff
    exact start_no_perf e kBindPortMaxRetry host backend options (by simpa using hoff) h
  | stop => cases (stop_spec e).2.2.2 _ h
  | send now a n hh p x b => cases (send_effects_transfer e now a n hh p x b).1 _ h
  | receive now a n hh p x b => cases (send_effects_transfer e now a n hh p x b).2 _ h
  | registerMemory a n v g mr =>
    simp only [RDMATransporter.call, Outcome.mapResult, RDMATransporter.registerMemory] at h
    split at h <;> (try cases mr) <;> (try cases v) <;> simp at h
  | deregisterMemory a n r =>
    simp only [RDMATransporter.call, Outcome.mapResult, RDMATransporter.deregisterMemory] at h
    split at h <;> simp at h
end Call

/-! ## Runs -/

/-- What holds after the effects `pre` of a run from a constructed engine: `ctx_` is the
last context created, none has been released, and a running engine has a context. -/
structure CtxInv (pre : List Effect) (e : RDMATransporter) : Prop where
  ctx_eq : e.ctx = (createdCtxs pre).getLast?
  none_cleaned : cleanedCtxs pre = []
  running_ctx : e.isRunning = true → e.ctx.isSome = true

theorem CtxInv.init (defaults : Options) : CtxInv [] (RDMATransporter.init defaults) :=
  ⟨rfl, rfl, fun h => nomatch h⟩

theorem CtxInv.step {α : Type} {pre : List Effect} {e : RDMATransporter}
    {o : Outcome RDMATransporter α} (inv : CtxInv pre e) (step : CtxStep e o) :
    CtxInv (pre ++ o.effects) o.state := by
  obtain ⟨s, hctx, hcreated, hrun⟩ := step.setup
  refine ⟨by cases s <;> simp [hctx, hcreated, inv.ctx_eq],
    by simp [inv.none_cleaned, step.none_cleaned], fun h => ?_⟩
  rcases hrun h with h | h
  · simpa [hctx] using .inr (inv.running_ctx h)
  · simpa [hctx] using .inl h

theorem runCalls_inv (kBindPortMaxRetry : Nat) (calls : List Call) :
    ∀ {pre : List Effect} {e : RDMATransporter}, CtxInv pre e →
      CtxInv (pre ++ (runCalls kBindPortMaxRetry e calls).effects)
        (runCalls kBindPortMaxRetry e calls).engine := by
  induction calls with
  | nil => intro pre e inv; simpa [runCalls] using inv
  | cons c cs ih =>
    intro pre e inv
    have next := inv.step (call_spec kBindPortMaxRetry e c)
    simp only [runCalls]
    split
    · exact next
    · simpa using ih next

theorem runCalls_options (kBindPortMaxRetry : Nat) (calls : List Call) :
    ∀ e : RDMATransporter, (runCalls kBindPortMaxRetry e calls).engine.options = e.options := by
  induction calls with
  | nil => intro e; rfl
  | cons c cs ih =>
    intro e
    have step := (call_spec kBindPortMaxRetry e c).options_eq
    simp only [runCalls]
    split
    · exact step
    · exact (ih _).trans step

/-- A run starts a perf thread only in a `Start` with perf metrics on: every spawn is among
the effects of such a `Start`, made on the engine the run had reached without ending the
process. -/
theorem runCalls_spawn (kBindPortMaxRetry : Nat) :
    ∀ (calls : List Call) (e : RDMATransporter),
      Effect.spawnPerfThread ∈ (runCalls kBindPortMaxRetry e calls).effects →
      ∃ pre host backend options post, calls = pre ++ .start host backend options :: post ∧
        options.transferEngineEnablePerfMetrics = true ∧
        let r := runCalls kBindPortMaxRetry e pre
        r.terminated = false ∧
          Effect.spawnPerfThread ∈
            (r.engine.start kBindPortMaxRetry host backend options).effects := by
  intro calls
  induction calls with
  | nil => intro e h; cases h
  | cons c cs ih =>
    intro e h
    have first : Effect.spawnPerfThread ∈ (e.call kBindPortMaxRetry c).effects →
        ∃ host backend options post, c :: cs = [] ++ .start host backend options :: post ∧
          options.transferEngineEnablePerfMetrics = true ∧
          let r := runCalls kBindPortMaxRetry e []
          r.terminated = false ∧
            Effect.spawnPerfThread ∈
              (r.engine.start kBindPortMaxRetry host backend options).effects :=
      fun hc => by
        obtain ⟨host, backend, options, rfl, hon⟩ := call_spawn kBindPortMaxRetry e hc
        exact ⟨host, backend, options, cs, rfl, hon, rfl, hc⟩
    simp only [runCalls] at h
    split at h
    · exact ⟨[], first h⟩
    · rename_i hc
      rcases List.mem_append.1 h with h | h
      · exact ⟨[], first h⟩
      · obtain ⟨pre, host, backend, options, post, rfl, hon, h₁, h₂⟩ := ih _ h
        refine ⟨c :: pre, host, backend, options, post, rfl, hon, ?_⟩
        simpa [runCalls, hc] using ⟨h₁, h₂⟩

theorem runCalls_spawn_after_start :
    let options : Options := ⟨"", 19000, true, 1000, 1000, 4, false, true, 500, 2, 0, 2, 0⟩
    let host : Host := ⟨"host", 1, "", fun _ => none, 0⟩
    let calls := [Call.start host ⟨some 7, fun _ => .ok⟩ { options with
        transferEngineEnablePerfMetrics := false }, .stop,
      Call.start host ⟨some 8, fun _ => .ok⟩ options]
    Effect.spawnPerfThread ∈ (runCalls 5 (RDMATransporter.init options) calls).effects ∧
      ∃ pre host backend options' post, calls = pre ++ .start host backend options' :: post ∧
        options'.transferEngineEnablePerfMetrics = true ∧
        let r := runCalls 5 (RDMATransporter.init options) pre
        r.terminated = false ∧
          Effect.spawnPerfThread ∈ (r.engine.start 5 host backend options').effects :=
  have h : Effect.spawnPerfThread ∈ (runCalls 5 (RDMATransporter.init
      ⟨"", 19000, true, 1000, 1000, 4, false, true, 500, 2, 0, 2, 0⟩)
      [Call.start ⟨"host", 1, "", fun _ => none, 0⟩ ⟨some 7, fun _ => .ok⟩
        ⟨"", 19000, true, 1000, 1000, 4, false, false, 500, 2, 0, 2, 0⟩, .stop,
      Call.start ⟨"host", 1, "", fun _ => none, 0⟩ ⟨some 8, fun _ => .ok⟩
        ⟨"", 19000, true, 1000, 1000, 4, false, true, 500, 2, 0, 2, 0⟩]).effects :=
    by decide
  ⟨h, runCalls_spawn 5 _ _ h⟩

/-! ## The data calls and `Running` -/

/-- The data calls are gated on `ctx_`, not on `is_running_`. Along every run from a
constructed engine a running engine has a context, and the engine has one exactly when some
`utrans_setup` has succeeded. Without one the data calls touch nothing: `Send`,
`RegisterMemory` and `DeregisterMemory` return `false`, and `Receive` throws. With one they
reach the backend on it also after `Stop`, which keeps the context and clears
`is_running_`. -/
theorem data_calls_need_setup (kBindPortMaxRetry : Nat) (defaults : Options)
    (calls : List Call) :
    let r := runCalls kBindPortMaxRetry (RDMATransporter.init defaults) calls
    (r.engine.isRunning = true → r.engine.ctx.isSome = true) ∧
      (r.engine.ctx.isSome = true ↔ createdCtxs r.effects ≠ []) ∧
      (r.engine.ctx = none →
        (∀ now a n h p x b, r.engine.call kBindPortMaxRetry (.send now a n h p x b) =
          ⟨[], .ok (some false), r.engine⟩) ∧
        (∀ now a n h p x b, r.engine.call kBindPortMaxRetry (.receive now a n h p x b) =
          ⟨[], .error (.invalidArgument "RDMATransporter::Receive: context not initialized"),
            r.engine⟩) ∧
        (∀ a n v g mr, r.engine.call kBindPortMaxRetry (.registerMemory a n v g mr) =
          ⟨[], .ok (some false), r.engine⟩) ∧
        ∀ a n ret, r.engine.call kBindPortMaxRetry (.deregisterMemory a n ret) =
          ⟨[], .ok (some false), r.engine⟩) ∧
      ∀ c, r.engine.ctx = some c →
        let s := r.engine.stop.state
        s.isRunning = false ∧ s.ctx = some c ∧
        (∀ now local_addr size remote_host remote_port rbuf backend, local_addr ≠ nullptr →
          size ≠ 0 → rbuf ≠ nullptr →
          let x := some (getExtendInfoFromRemoteAddr rbuf)
          let q := Effect.utransQueryInstid c remote_host remote_port (backend 0).queryRet
          (s.send now local_addr size remote_host remote_port x backend).effects.head? = some q ∧
            (s.receive now local_addr size remote_host remote_port x backend).effects.head? =
              some q) ∧
        (∀ addr len is_vram g mr, (s.registerMemory addr len is_vram g mr).effects =
          [if is_vram then .utransRegistVram c addr len g mr
            else .utransRegistRam c addr len s.rdmaNumaNode mr]) ∧
        ∀ addr len ret, (s.deregisterMemory addr len ret).effects =
          [.utransDeregMem c addr len ret] := by
  have inv := runCalls_inv kBindPortMaxRetry calls (CtxInv.init defaults)
  rw [List.nil_append] at inv
  refine ⟨inv.running_ctx, by simp [inv.ctx_eq], call_data_without_ctx kBindPortMaxRetry _,
    fun c hc => ?_⟩
  obtain ⟨hctx, -, hoff, -⟩ :=
    stop_spec (runCalls kBindPortMaxRetry (.init defaults) calls).engine
  have hs := hctx.trans hc
  refine ⟨hoff, hs, fun now _ _ h p _ b ha hn hr => send_queries_first hs now h p b ha hn hr,
    fun _ _ _ _ mr => ?_, fun _ _ _ => by simp [RDMATransporter.deregisterMemory, hs]⟩
  simp only [RDMATransporter.registerMemory, hs]
  cases mr <;> rfl

/-- A `Start` whose `utrans_setup` succeeds and whose RPC bring-up fails returns `false`
and leaves the engine stopped, yet the next `Send` calls the backend; so does a `Send` after
a `Start` that returned `true` and a `Stop`. -/
theorem send_reaches_backend_outside_running :
    let options : Options := ⟨"", 19000, true, 1000, 1000, 4, false, false, 500, 2, 0, 2, 0⟩
    let host : Host := ⟨"host", 1, "", fun _ => none, 0⟩
    let send := Call.send 0 4096 4096 "peer" 19001 (some (getExtendInfoFromRemoteAddr 8192))
      fun _ => ⟨.ok, 42, some 9, .ok⟩
    let failed := runCalls 5 (RDMATransporter.init options)
      [.start host ⟨some 7, fun _ => .err 98⟩ options]
    let stopped := runCalls 5 (RDMATransporter.init options)
      [.start host ⟨some 7, fun _ => .ok⟩ options, .stop]
    failed.engine.isRunning = false ∧ (failed.engine.call 5 send).effects ≠ [] ∧
      stopped.engine.isRunning = false ∧ (stopped.engine.call 5 send).effects ≠ [] := by
  decide

/-! ## Contexts and the destructor -/

/-- Along every run from a constructed engine no call releases a context and `ctx_` holds
the last one `utrans_setup` created; the destructor then releases exactly that one, once,
and creates none. A `Start` that returns `false` starts no perf thread, and no `Start`
moves a new perf thread onto a joinable one. -/
theorem destroy_cleans_last_ctx (kBindPortMaxRetry : Nat) (defaults : Options)
    (calls : List Call) :
    let r := runCalls kBindPortMaxRetry (RDMATransporter.init defaults) calls
    cleanedCtxs r.effects = [] ∧ r.engine.ctx = (createdCtxs r.effects).getLast? ∧
      cleanedCtxs r.engine.destroy.effects = (createdCtxs r.effects).getLast?.toList ∧
      createdCtxs r.engine.destroy.effects = [] ∧
      ∀ host backend options,
        let o := r.engine.start kBindPortMaxRetry host backend options
        (o.result = .ok false → Effect.spawnPerfThread ∉ o.effects) ∧
          (Effect.spawnPerfThread ∈ o.effects →
            r.engine.perfLoggingThreadJoinable = false ∨ o.result = .error .terminate) := by
  have inv := runCalls_inv kBindPortMaxRetry calls (CtxInv.init defaults)
  rw [List.nil_append] at inv
  obtain ⟨hc, hk, -⟩ := destroy_spec (runCalls kBindPortMaxRetry (.init defaults) calls).engine
  refine ⟨inv.none_cleaned, inv.ctx_eq, by rw [hk, inv.ctx_eq], hc, fun host backend options =>
    ⟨(start_spec _ _ host backend options).2.2.2.2.2, start_spawn _ _ host backend options⟩⟩

/-- A `Start` that fails after `utrans_setup` keeps its context; a second `Start` replaces
it, and the destructor releases only the second. -/
theorem restart_leaks_first_ctx :
    let options : Options := ⟨"", 19000, true, 1000, 1000, 4, false, false, 500, 2, 0, 2, 0⟩
    let host : Host := ⟨"host", 1, "", fun _ => none, 0⟩
    let s₁ := (RDMATransporter.init options).start 5 host ⟨some 1, fun _ => .err 98⟩ options
    let s₂ := s₁.state.start 5 host ⟨some 2, fun _ => .ok⟩ options
    s₁.result = .ok false ∧ s₁.state.ctx = some 1 ∧ s₂.result = .ok true ∧
      createdCtxs (s₁.effects ++ s₂.effects) = [1, 2] ∧
      cleanedCtxs (s₁.effects ++ s₂.effects ++ s₂.state.destroy.effects) = [2] :=
  ⟨rfl, rfl, rfl, by decide, by decide⟩

/-- A second `Start` without `Stop`, with perf metrics on, ends the process: the first
`Start`, whatever its arguments, returned `true` and left `perf_logging_thread_` joinable,
and the second, whatever its own, gets a context, binds its listener and moves a new thread
onto it. -/
theorem restart_with_perf_terminates (kBindPortMaxRetry : Nat) (e : RDMATransporter)
    (host₁ : Host) (backend₁ : StartBackend) (options₁ : Options) (host₂ : Host)
    (backend₂ : StartBackend) (options₂ : Options) {c₁ c₂ : Ctx}
    (hs₁ : backend₁.setup = some c₁)
    (hrpc₁ : ∀ port, (setupRpcServer kBindPortMaxRetry options₁ c₁ host₁.randomOffset
      backend₁.rpcsrv port).result = .ok true)
    (hperf₁ : options₁.transferEngineEnablePerfMetrics = true)
    (hj : e.perfLoggingThreadJoinable = false) (hs₂ : backend₂.setup = some c₂)
    (hrpc₂ : ∀ port, (setupRpcServer kBindPortMaxRetry options₂ c₂ host₂.randomOffset
      backend₂.rpcsrv port).result = .ok true)
    (hperf₂ : options₂.transferEngineEnablePerfMetrics = true) :
    (e.start kBindPortMaxRetry host₁ backend₁ options₁).result = .ok true ∧
      (runCalls kBindPortMaxRetry e
        [.start host₁ backend₁ options₁, .start host₂ backend₂ options₂]).terminated =
          true := by
  have first : (e.start kBindPortMaxRetry host₁ backend₁ options₁).result = .ok true := by
    simpa [hperf₁, hj] using
      start_result_of_rpc e kBindPortMaxRetry host₁ backend₁ options₁ hs₁ hrpc₁
  have joinable :=
    (start_perf_started e kBindPortMaxRetry host₁ backend₁ options₁ first hperf₁).2.2.1
  have second := start_result_of_rpc (e.start kBindPortMaxRetry host₁ backend₁ options₁).state
    kBindPortMaxRetry host₂ backend₂ options₂ hs₂ hrpc₂
  rw [hperf₂, joinable] at second
  refine ⟨first, ?_⟩
  simp [runCalls, RDMATransporter.call, Outcome.mapResult, first, second, endsProcess, Except.map]

theorem restart_with_perf_terminates_rescan :
    let options₁ : Options := ⟨"", 19000, true, 1000, 1000, 4, false, true, 500, 2, 0, 2, 0⟩
    let options₂ : Options := ⟨"", 19000, false, 1000, 1000, 4, false, true, 500, 2, 0, 2, 0⟩
    let backend₂ : StartBackend := ⟨some 8, fun i => if i < 2 then .err 98 else .ok⟩
    let host₂ : Host := ⟨"host", 2, "", fun _ => none, 17⟩
    (∀ port, (setupRpcServer 5 options₁ 7 0 (fun _ => .ok) port).result = .ok true) ∧
      (∀ port,
        (setupRpcServer 5 options₂ 8 host₂.randomOffset backend₂.rpcsrv port).result =
          .ok true) ∧
      ((RDMATransporter.init options₁).start 5 ⟨"host", 1, "", fun _ => none, 0⟩
          ⟨some 7, fun _ => .ok⟩ options₁).result = .ok true ∧
      (runCalls 5 (RDMATransporter.init options₁)
        [.start ⟨"host", 1, "", fun _ => none, 0⟩ ⟨some 7, fun _ => .ok⟩ options₁,
          .start host₂ backend₂ options₂]).terminated = true :=
  have h₁ : ∀ port, (setupRpcServer 5 ⟨"", 19000, true, 1000, 1000, 4, false, true, 500, 2, 0,
      2, 0⟩ 7 0 (fun _ => .ok) port).result = .ok true := fun _ => rfl
  have h₂ : ∀ port,
    (setupRpcServer 5 ⟨"", 19000, false, 1000, 1000, 4, false, true, 500, 2, 0,
      2, 0⟩ 8 17 (fun i => if i < 2 then .err 98 else .ok) port).result = .ok true := fun _ => rfl
  ⟨h₁, h₂, restart_with_perf_terminates 5
    (.init ⟨"", 19000, true, 1000, 1000, 4, false, true,
    500, 2, 0, 2, 0⟩) ⟨"host", 1, "", fun _ => none, 0⟩ ⟨some 7, fun _ => .ok⟩
    ⟨"", 19000, true, 1000, 1000, 4, false, true, 500, 2, 0, 2, 0⟩
      ⟨"host", 2, "", fun _ => none, 17⟩
    ⟨some 8, fun i => if i < 2 then .err 98 else .ok⟩
    ⟨"", 19000, false, 1000, 1000, 4, false, true, 500, 2, 0, 2, 0⟩ rfl h₁ rfl rfl
      rfl h₂ rfl⟩

/-! ## Ending the process -/

theorem endsProcess_map {α β : Type} (f : α → β) (r : Except Exn α) :
    endsProcess (r.map f) = endsProcess r := by
  rcases r with ex | _
  · cases ex <;> rfl
  · rfl

theorem endsProcess_eq_true {α : Type} {r : Except Exn α} :
    endsProcess r = true ↔ r = .error .terminate := by
  unfold endsProcess
  split <;> simp_all

/-- One call keeps `PerfInv`, and only a `Start` with perf metrics on, on an engine whose
perf thread is joinable, ends the process: that `Start` itself ends in `std::terminate`. -/
theorem call_perfInv (kBindPortMaxRetry : Nat) (e : RDMATransporter) (inv : e.PerfInv)
    (c : Call) :
    (e.call kBindPortMaxRetry c).state.PerfInv ∧
      (endsProcess (e.call kBindPortMaxRetry c).result = true →
        ∃ host backend options, c = .start host backend options ∧
          options.transferEngineEnablePerfMetrics = true ∧ e.perfLoggingThreadJoinable = true ∧
          (e.start kBindPortMaxRetry host backend options).result = .error .terminate) := by
  have ends : ∀ {α : Type} {f : α → Option Bool} {o : Outcome RDMATransporter α},
      endsProcess (o.mapResult f).result = true → o.result = .error .terminate := fun h => by
    simpa only [Outcome.mapResult, endsProcess_map, endsProcess_eq_true] using h
  cases c with
  | start host backend options =>
    obtain ⟨h₁, h₂⟩ := start_flags e kBindPortMaxRetry host backend options inv
    exact ⟨h₁,
      fun h => ⟨host, backend, options, rfl, (h₂ (ends h)).1, (h₂ (ends h)).2, ends h⟩⟩
  | stop =>
    refine ⟨fun h => absurd h (by simp [RDMATransporter.call, Outcome.mapResult,
      stop_joinable e inv]), fun h => ?_⟩
    have h := ends h
    unfold RDMATransporter.stop at h
    split at h <;> cases h
  | send now a n hh p x b =>
    obtain ⟨⟨t, ht⟩, -, -⟩ := send_frame e now a n hh p x b
    exact ⟨by simpa [RDMATransporter.call, Outcome.mapResult, RDMATransporter.PerfInv, ht]
      using inv, fun h => absurd (ends h) (send_result_ne_terminate e now a n hh p x b).1⟩
  | receive now a n hh p x b =>
    obtain ⟨-, ⟨t, ht⟩, -⟩ := send_frame e now a n hh p x b
    exact ⟨by simpa [RDMATransporter.call, Outcome.mapResult, RDMATransporter.PerfInv, ht]
      using inv, fun h => absurd (ends h) (send_result_ne_terminate e now a n hh p x b).2⟩
  | registerMemory a n v g mr =>
    refine ⟨by simpa [RDMATransporter.call, Outcome.mapResult,
      (registerMemory_spec e a n v g mr 0).1] using inv, fun h => ?_⟩
    have h := ends h
    simp only [RDMATransporter.registerMemory] at h
    split at h <;> (try split at h) <;> cases h
  | deregisterMemory a n r =>
    refine ⟨by simpa [RDMATransporter.call, Outcome.mapResult,
      (registerMemory_spec e a n false 0 none r).2.1] using inv, fun h => ?_⟩
    have h := ends h
    unfold RDMATransporter.deregisterMemory at h
    split at h <;> cases h

/-- Along every run from an engine with `PerfInv`, the process ends only at a `Start` with
perf metrics on, made while the engine is running with a joinable perf thread, and that
`Start` is the call that ends it. -/
theorem runCalls_terminated (kBindPortMaxRetry : Nat) :
    ∀ (calls : List Call) (e : RDMATransporter), e.PerfInv →
      (runCalls kBindPortMaxRetry e calls).terminated = true →
      ∃ pre host backend options post, calls = pre ++ .start host backend options :: post ∧
        options.transferEngineEnablePerfMetrics = true ∧
        let r := runCalls kBindPortMaxRetry e pre
        r.terminated = false ∧ r.engine.isRunning = true ∧
          r.engine.perfLoggingThreadJoinable = true ∧
          (r.engine.start kBindPortMaxRetry host backend options).result = .error .terminate := by
  intro calls
  induction calls with
  | nil => intro e _ h; cases h
  | cons c cs ih =>
    intro e inv h
    obtain ⟨hinv, hends⟩ := call_perfInv kBindPortMaxRetry e inv c
    simp only [runCalls] at h
    split at h
    · rename_i hc
      obtain ⟨host, backend, options, rfl, hon, hj, hterm⟩ := hends hc
      exact ⟨[], host, backend, options, cs, rfl, hon, rfl, (inv hj).1, hj, hterm⟩
    · rename_i hc
      obtain ⟨pre, host, backend, options, post, rfl, hon, h₁, h₂, h₃, h₄⟩ :=
        ih _ hinv h
      refine ⟨c :: pre, host, backend, options, post, rfl, hon, ?_⟩
      simpa [runCalls, hc] using ⟨h₁, h₂, h₃, h₄⟩

/-- On a constructed engine the only call that ends the process is a `Start` with perf
metrics on made while the engine is still running from an earlier `Start` with its perf
thread joinable, that is with no `Stop` in between: the run reaches that `Start`, and the
`Start` ends in `std::terminate`. -/
theorem only_restart_terminates (kBindPortMaxRetry : Nat) (defaults : Options)
    (calls : List Call)
    (h : (runCalls kBindPortMaxRetry (RDMATransporter.init defaults) calls).terminated = true) :
    ∃ pre host backend options post, calls = pre ++ .start host backend options :: post ∧
      options.transferEngineEnablePerfMetrics = true ∧
      let r := runCalls kBindPortMaxRetry (RDMATransporter.init defaults) pre
      r.terminated = false ∧ r.engine.isRunning = true ∧
        r.engine.perfLoggingThreadJoinable = true ∧
        (r.engine.start kBindPortMaxRetry host backend options).result = .error .terminate :=
  runCalls_terminated kBindPortMaxRetry calls _ (fun h => nomatch h) h

theorem only_restart_terminates_twice :
    let options : Options := ⟨"", 19000, true, 1000, 1000, 4, false, true, 500, 2, 0, 2, 0⟩
    let host : Host := ⟨"host", 1, "", fun _ => none, 0⟩
    let calls := [Call.start host ⟨some 7, fun _ => .ok⟩ options,
      Call.start host ⟨none, fun _ => .ok⟩ options,
        Call.start host ⟨some 8, fun _ => .ok⟩ options]
    (runCalls 5 (RDMATransporter.init options) calls).terminated = true ∧
      ∃ pre host backend options' post, calls = pre ++ .start host backend options' :: post ∧
        options'.transferEngineEnablePerfMetrics = true ∧
        let r := runCalls 5 (RDMATransporter.init options) pre
        r.terminated = false ∧ r.engine.isRunning = true ∧
          r.engine.perfLoggingThreadJoinable = true ∧
          (r.engine.start 5 host backend options').result = .error .terminate :=
  ⟨rfl, only_restart_terminates 5 _ _ rfl⟩

/-! ## The options a transfer reads -/

/-- `Send` and `Receive` read their retry budget and sleep from `options_`, which no call
writes: every run keeps the constructed engine's options, and two runs whose first `Start`
is given options that differ only in the four retry keys are the same run. -/
theorem start_ignores_retry_options (kBindPortMaxRetry : Nat) (defaults : Options)
    (host : Host) (backend : StartBackend) (options : Options)
    (sendCount sendSleep receiveCount receiveSleep : Int) (calls : List Call) :
    (runCalls kBindPortMaxRetry (RDMATransporter.init defaults) calls).engine.options =
        defaults ∧
      runCalls kBindPortMaxRetry (RDMATransporter.init defaults)
          (.start host backend
            { options with
              transportSendRetryCount := sendCount
              transportSendRetrySleepMs := sendSleep
              transportReceiveRetryCount := receiveCount
              transportReceiveRetrySleepMs := receiveSleep } :: calls) =
        runCalls kBindPortMaxRetry (RDMATransporter.init defaults)
          (.start host backend options :: calls) :=
  ⟨runCalls_options kBindPortMaxRetry calls _, rfl⟩

end AstateRdma
