import AstateRdma.Lifecycle

/-!
# The backend's resources along a run

`utrans` hands the engine two kinds of resource: contexts, from `utrans_setup` to
`utrans_clean`, and request handles, from `utrans_exec_transfer` to `utrans_unref_req_info`.
Each discipline is a monitor over the effects, run with `List.foldlM`: it is `none` from the
first call that breaks the discipline on. The third resource is the RPC listener, whose port
`GetBindPort()` reports.

* `Effect.ctxStep` — a call that takes a context takes the live one: the last one
  `utrans_setup` returned, not released since; `utrans_clean` ends it;
* `Effect.reqStep` — one request at a time: `utrans_exec_transfer` only when no handle is
  outstanding, the completion query and the release only on the outstanding one;
* `call_monitors`, `destroy_monitors` — every call, and the destructor, keeps both;
* `utrans_ctx_discipline`, `utrans_one_request_at_a_time` — so does every run of calls on an
  engine followed by its destructor;
* `bind_port_is_last_bound` — `GetBindPort()` after a run is the port of the run's last
  `utrans_setup_rpcsrv` call that bound.

The context monitor lets a new `utrans_setup` replace a live context: the replaced one is
leaked, never used again (`restart_leaks_first_ctx`).
-/

namespace AstateRdma

/-- The context a call works on, for the calls that neither create nor release one. -/
def Effect.ctxArg : Effect → Option Ctx
  | .utransSetupRpcsrv c _ _ | .utransQueryInstid c _ _ _ | .utransExecTransfer c _ _ _
  | .utransRegistRam c _ _ _ _ | .utransRegistVram c _ _ _ _ | .utransDeregMem c _ _ _
  | .utransPrintPerfInfo c => some c
  | _ => none

/-- The context monitor. From the live context `cur`: `utrans_setup` makes the context it
returns live, `utrans_clean` must release the live one and leaves none, any other call must
take the live one. -/
def Effect.ctxStep (cur : Option Ctx) (x : Effect) : Option (Option Ctx) :=
  match x with
  | .utransSetup _ ret => some (ret.or cur)
  | .utransClean c => if cur = some c then some none else none
  | _ => if x.ctxArg.all (fun c => cur == some c) then some cur else none

/-- The request monitor. From the outstanding handle `cur`: `utrans_exec_transfer` submits
only when none is outstanding, the completion query and the release must take the
outstanding one, and the release ends it. -/
def Effect.reqStep (cur : Option ReqHandle) (x : Effect) : Option (Option ReqHandle) :=
  match x with
  | .utransExecTransfer _ _ _ ret => if cur = none then some ret else none
  | .utransGetReqExecResult h _ => if cur = some h then some cur else none
  | .utransUnrefReqInfo h => if cur = some h then some none else none
  | _ => some cur

/-- A stretch each of whose calls the monitor `g` lets through from `b`, unchanged. -/
theorem foldlM_of_forall {β : Type} (g : β → Effect → Option β) (b : β) {l : List Effect}
    (h : ∀ x ∈ l, g b x = some b) : l.foldlM g b = some b := by
  induction l with
  | nil => rfl
  | cons x l ih =>
    rw [List.foldlM_cons, h x (List.mem_cons_self _ _)]
    exact ih fun y hy => h y (List.mem_cons_of_mem _ hy)

/-! ## The data path -/

section DataPath

variable (opcode : UserOp) (timeoutMs : Int) (ctx : Ctx) (local_addr : Ptr) (size : UInt64)
  (rbuf : Ptr) (remote_host : String) (remote_port : Int)

/-- One attempt works on the context it is given and releases the handle it obtained. -/
theorem transferFunc_monitors (a : Attempt) :
    let l := (transferFunc opcode timeoutMs ctx local_addr size rbuf remote_host remote_port
      a).effects
    l.foldlM Effect.ctxStep (some ctx) = some (some ctx) ∧
      l.foldlM Effect.reqStep none = some none := by
  obtain ⟨q, i, hd, st⟩ := a
  cases q with
  | err => simp [transferFunc, Effect.ctxStep, Effect.ctxArg, Effect.reqStep]
  | ok =>
    cases hd with
    | none => simp [transferFunc, Effect.ctxStep, Effect.ctxArg, Effect.reqStep]
    | some h => cases st <;> simp [transferFunc, Effect.ctxStep, Effect.ctxArg, Effect.reqStep]

/-- So does the retry phase, whatever the backend answers. -/
theorem retryPhase_monitors (policy : RetryPolicy) (backend : Nat → Attempt) :
    let l := (retryPhase (transferFunc opcode timeoutMs ctx local_addr size rbuf remote_host
      remote_port) policy backend).1
    l.foldlM Effect.ctxStep (some ctx) = some (some ctx) ∧
      l.foldlM Effect.reqStep none = some none :=
  have attempt := fun i => transferFunc_monitors opcode timeoutMs ctx local_addr size rbuf
    remote_host remote_port (backend i)
  ⟨retryFrom_foldlM _ _ rfl (fun i _ => (attempt i).1) _ _ _,
    retryFrom_foldlM _ _ rfl (fun i _ => (attempt i).2) _ _ _⟩

end DataPath

/-! ## One call -/

section Calls

variable (e : RDMATransporter)

/-- `Send` and `Receive` work on `ctx_` and leave no request outstanding. -/
theorem send_monitors (now : Int) (local_addr : Ptr) (size : UInt64) (remote_host : String)
    (remote_port : Int) (extend_info : Option ExtendInfo) (backend : Nat → Attempt) :
    let s := e.send now local_addr size remote_host remote_port extend_info backend
    let r := e.receive now local_addr size remote_host remote_port extend_info backend
    (s.effects.foldlM Effect.ctxStep e.ctx = some s.state.ctx ∧
      s.effects.foldlM Effect.reqStep none = some none) ∧
    (r.effects.foldlM Effect.ctxStep e.ctx = some r.state.ctx ∧
      r.effects.foldlM Effect.reqStep none = some none) := by
  constructor
  · rcases send_cases e now local_addr size remote_host remote_port extend_info backend with
      ⟨_, -, hs⟩ | ⟨c, _, hc, -, hs⟩ <;> rw [hs]
    exacts [⟨rfl, rfl⟩, hc ▸ retryPhase_monitors .userOpWrite _ c _ _ _ _ _ _ _]
  · rcases receive_cases e now local_addr size remote_host remote_port extend_info backend with
      ⟨_, -, hs⟩ | ⟨c, _, hc, -, hs⟩ <;> rw [hs]
    exacts [⟨rfl, rfl⟩, hc ▸ retryPhase_monitors .userOpRead _ c _ _ _ _ _ _ _]

/-- `Start` makes what its `utrans_setup` returned the live context, calls
`utrans_setup_rpcsrv` only on it, and submits no request. -/
theorem start_monitors (kBindPortMaxRetry : Nat) (host : Host) (backend : StartBackend)
    (options : Options) :
    let o := e.start kBindPortMaxRetry host backend options
    o.effects.foldlM Effect.ctxStep e.ctx = some o.state.ctx ∧
      o.effects.foldlM Effect.reqStep none = some none := by
  obtain ⟨conf, pre, post, heq, hpre, hpost⟩ :=
    start_effects e kBindPortMaxRetry host backend options
  have numa : ∀ {β : Type} (g : β → Effect → Option β) b,
    (∀ n, g b (.numaBind n) = some b) →
      pre.foldlM g b = some b := fun g b h => foldlM_of_forall g b fun x hx => by
    obtain ⟨n, rfl⟩ := hpre x hx; exact h n
  dsimp only
  rw [(start_spec e kBindPortMaxRetry host backend options).1, heq, List.foldlM_append,
    List.foldlM_append, numa Effect.ctxStep e.ctx (fun _ => rfl),
    numa Effect.reqStep none (fun _ => rfl)]
  constructor
  · show post.foldlM Effect.ctxStep (backend.setup.or e.ctx) = some (backend.setup.or e.ctx)
    refine foldlM_of_forall _ _ fun x hx => ?_
    rcases hpost x hx with ⟨c, p, ret, hc, rfl⟩ | rfl | ⟨ms, rfl⟩
    · simp [Effect.ctxStep, Effect.ctxArg, hc]
    all_goals rfl
  · show post.foldlM Effect.reqStep none = some none
    refine foldlM_of_forall _ _ fun x hx => ?_
    rcases hpost x hx with ⟨c, p, ret, hc, rfl⟩ | rfl | ⟨ms, rfl⟩ <;> rfl

/-- `Stop` makes no `utrans` call. -/
theorem stop_monitors :
    e.stop.effects.foldlM Effect.ctxStep e.ctx = some e.ctx ∧
      e.stop.effects.foldlM Effect.reqStep none = some none := by
  have stop := (stop_spec e).2.2.2
  constructor <;> refine foldlM_of_forall _ _ fun x hx => ?_ <;> rw [stop x hx] <;> rfl

/-- `RegisterMemory` and `DeregisterMemory` work on `ctx_` and submit no request. -/
theorem registerMemory_monitors (addr : Ptr) (len : UInt64) (is_vram : Bool)
    (gpu_id_or_numa_node : Int) (mr : Option Nat) (ret : Int) :
    let r := (e.registerMemory addr len is_vram gpu_id_or_numa_node mr).effects
    let d := (e.deregisterMemory addr len ret).effects
    (r.foldlM Effect.ctxStep e.ctx = some e.ctx ∧ r.foldlM Effect.reqStep none = some none) ∧
      (d.foldlM Effect.ctxStep e.ctx = some e.ctx ∧
        d.foldlM Effect.reqStep none = some none) := by
  unfold RDMATransporter.registerMemory RDMATransporter.deregisterMemory
  cases e.ctx <;> (try cases is_vram) <;> (try cases mr) <;>
    simp [Effect.ctxStep, Effect.ctxArg, Effect.reqStep]

/-- The destructor's `utrans_clean` releases the live context. -/
theorem destroy_monitors :
    e.destroy.effects.foldlM Effect.ctxStep e.ctx = some none ∧
      e.destroy.effects.foldlM Effect.reqStep none = some none := by
  obtain ⟨hctx, -, -, -⟩ := stop_spec e
  obtain ⟨hc, hr⟩ := stop_monitors e
  unfold RDMATransporter.destroy
  dsimp only
  rw [hctx]
  cases h : e.ctx with
  | none => rw [h] at hc; exact ⟨hc, hr⟩
  | some c =>
    rw [h] at hc
    simp [List.foldlM_append, hc, hr, Effect.ctxStep, Effect.reqStep]

/-- Every call keeps both monitors, from the context the engine holds to the one it leaves. -/
theorem call_monitors (kBindPortMaxRetry : Nat) (c : Call) :
    let o := e.call kBindPortMaxRetry c
    o.effects.foldlM Effect.ctxStep e.ctx = some o.state.ctx ∧
      o.effects.foldlM Effect.reqStep none = some none := by
  cases c with
  | start host backend options => exact start_monitors e kBindPortMaxRetry host backend options
  | stop => simpa [RDMATransporter.call, Outcome.mapResult, (stop_spec e).1] using stop_monitors e
  | send now a n h p x b => exact (send_monitors e now a n h p x b).1
  | receive now a n h p x b => exact (send_monitors e now a n h p x b).2
  | registerMemory a n v g mr =>
    simpa [RDMATransporter.call, Outcome.mapResult, (registerMemory_spec e a n v g mr 0).1]
      using (registerMemory_monitors e a n v g mr 0).1
  | deregisterMemory a n r =>
    simpa [RDMATransporter.call, Outcome.mapResult, (registerMemory_spec e a n false 0 none r).2.1]
      using (registerMemory_monitors e a n false 0 none r).2

end Calls

/-! ## Runs -/

/-- Along every run of calls on any engine, each call that takes a context takes the live
one, and the run ends with the engine's context live and no request outstanding. -/
theorem runCalls_monitors (kBindPortMaxRetry : Nat) (calls : List Call) :
    ∀ e : RDMATransporter, let r := runCalls kBindPortMaxRetry e calls
    r.effects.foldlM Effect.ctxStep e.ctx = some r.engine.ctx ∧
      r.effects.foldlM Effect.reqStep none = some none := by
  induction calls with
  | nil => intro e; exact ⟨rfl, rfl⟩
  | cons c cs ih =>
    intro e
    obtain ⟨hc, hr⟩ := call_monitors e kBindPortMaxRetry c
    simp only [runCalls]
    split
    · exact ⟨hc, hr⟩
    · obtain ⟨hc', hr'⟩ := ih (e.call kBindPortMaxRetry c).state
      simp [List.foldlM_append, hc, hr, hc', hr']

/-- The context discipline of the engine as a `utrans` client. Along every run of calls on
an engine, followed by its destructor, every `utrans` call that takes a context takes the
one the last successful `utrans_setup` returned (before any, the engine's own), never one
released, and the destructor releases the live one. -/
theorem utrans_ctx_discipline (kBindPortMaxRetry : Nat) (e : RDMATransporter)
    (calls : List Call) :
    let r := runCalls kBindPortMaxRetry e calls
    (r.effects ++ r.engine.destroy.effects).foldlM Effect.ctxStep e.ctx = some none := by
  simp [List.foldlM_append, (runCalls_monitors kBindPortMaxRetry calls e).1,
    (destroy_monitors _).1]

/-- The monitor rejects a call on a context that a later `utrans_setup` replaced. -/
example : [Effect.utransSetup .zero (some 1), .utransSetup .zero (some 2),
    .utransPrintPerfInfo 1].foldlM Effect.ctxStep none = none := rfl

/-- The request discipline. Along every run of calls on an engine, followed by its
destructor, requests go one at a time: `utrans_exec_transfer` only when no handle is
outstanding, `utrans_get_req_exec_result` and `utrans_unref_req_info` only on the
outstanding handle, which is released before the next submission and before the run ends. -/
theorem utrans_one_request_at_a_time (kBindPortMaxRetry : Nat) (e : RDMATransporter)
    (calls : List Call) :
    let r := runCalls kBindPortMaxRetry e calls
    (r.effects ++ r.engine.destroy.effects).foldlM Effect.reqStep none = some none := by
  simp [List.foldlM_append, (runCalls_monitors kBindPortMaxRetry calls e).2,
    (destroy_monitors _).2]

/-! ## The listener port -/

theorem rpcsrvCalls_eq_nil {l : List Effect}
    (h : ∀ x ∈ l, ∀ c p r, x ≠ .utransSetupRpcsrv c p r) : rpcsrvCalls l = [] :=
  List.filterMap_eq_nil_iff.2 fun x hx => by
    cases x <;> first | rfl | exact absurd rfl (h _ hx _ _ _)

/-- One call leaves `local_server_port_` at the port of its last `utrans_setup_rpcsrv` call
that bound, or where it was. -/
theorem call_port (kBindPortMaxRetry : Nat) (e : RDMATransporter) (c : Call) :
    let o := e.call kBindPortMaxRetry c
    o.state.localServerPort = (lastBoundPort (rpcsrvCalls o.effects)).getD e.localServerPort := by
  have transfer : ∀ {l : List Effect}, (∀ x ∈ l, x.IsTransfer) → rpcsrvCalls l = [] :=
    fun h => rpcsrvCalls_eq_nil fun x hx _ _ _ hxe => by
      simpa [hxe, Effect.IsTransfer] using h x hx
  cases c with
  | start host backend options => exact start_port e kBindPortMaxRetry host backend options
  | stop =>
    have hcalls : rpcsrvCalls e.stop.effects = [] := rpcsrvCalls_eq_nil fun x hx _ _ _ hxe => by
      simpa [hxe] using (stop_spec e).2.2.2 x hx
    simp only [RDMATransporter.call, Outcome.mapResult, hcalls, lastBoundPort_nil,
      Option.getD_none]
    unfold RDMATransporter.stop
    dsimp only
    split <;> (try split) <;> (try split) <;> rfl
  | send now a n hh p x b =>
    obtain ⟨⟨t, ht⟩, -, -⟩ := send_frame e now a n hh p x b
    simp [RDMATransporter.call, Outcome.mapResult, ht,
      transfer (send_effects_transfer e now a n hh p x b).1]
  | receive now a n hh p x b =>
    obtain ⟨-, ⟨t, ht⟩, -⟩ := send_frame e now a n hh p x b
    simp [RDMATransporter.call, Outcome.mapResult, ht,
      transfer (send_effects_transfer e now a n hh p x b).2]
  | registerMemory a n v g mr =>
    simp only [RDMATransporter.call, Outcome.mapResult, RDMATransporter.registerMemory]
    split <;> (try cases v) <;> (try split) <;> rfl
  | deregisterMemory a n r =>
    simp only [RDMATransporter.call, Outcome.mapResult, RDMATransporter.deregisterMemory]
    split <;> rfl

/-- `GetBindPort()` after every run of calls on an engine is the port of the last
`utrans_setup_rpcsrv` call of the run that bound, or the engine's own when none did: a
`Start` whose bring-up fails keeps the port an earlier `Start` bound. -/
theorem bind_port_is_last_bound (kBindPortMaxRetry : Nat) (calls : List Call) :
    ∀ e : RDMATransporter, let r := runCalls kBindPortMaxRetry e calls
    r.engine.localServerPort = (lastBoundPort (rpcsrvCalls r.effects)).getD e.localServerPort := by
  induction calls with
  | nil => intro e; rfl
  | cons c cs ih =>
    intro e
    have first := call_port kBindPortMaxRetry e c
    simp only [runCalls]
    split
    · exact first
    · simp only [rpcsrvCalls_append, lastBoundPort_append, ih, first]
      cases lastBoundPort (rpcsrvCalls
        (runCalls kBindPortMaxRetry (e.call kBindPortMaxRetry c).state cs).effects) <;> rfl

end AstateRdma
