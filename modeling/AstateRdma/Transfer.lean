import AstateRdma.Engine

/-!
# The data path: `Send` and `Receive`

Both methods check the engine and their arguments, stamp `last_send_receive_time_`, and
run one attempt body under `CountingAndSleepRetryPolicy`, turning any exception that
surfaces into `false`. The attempt bodies (`send_func`, `recv_func`) differ in opcode,
timeout and log text only, so they are one definition, `transferFunc`; the guards differ
(`Send` returns `false` without a context, `Receive` throws), so each method keeps its own.

* `transferFunc_trace` — what one attempt does to the backend: a successful completion
  is followed by the release of its handle and nothing else, every handle it gets is
  released once, every request has the caller's opcode, buffers and segment;
* `retry_trace` — the same of a whole run of attempts under the runner;
* `send_retry_contract` — `Send` and `Receive` return `true` iff an attempt completed,
  stop at the first success, release every handle once, and never let an exception out
  of the retry phase;
* `send_attempts` — at most one attempt more than the configured retry count;
* `send_succeeds_within_retries` — and a success within that many attempts is returned;
* `receive_eq_send_of_ctx` — with a context, `Receive` is `Send` up to direction.
-/

namespace AstateRdma

/-- An element of `ExtendInfo` (a `std::any`): a `const void*`, or something else. -/
inductive AnyValue where
  | voidPtr (p : Ptr)
  | other
  deriving DecidableEq, Repr

/-- `ExtendInfo`, a vector of `std::any`. -/
abbrev ExtendInfo := List AnyValue

/-- `GetRemoteAddrFromExtendInfo(extend_info)`; `none` is a null pointer. `std::any_cast`
of an element that holds no `const void*` throws `std::bad_any_cast`. -/
def getRemoteAddrFromExtendInfo : Option ExtendInfo → Except Exn Ptr
  | none | some [] => .ok nullptr
  | some (.voidPtr p :: _) => .ok p
  | some (.other :: _) => .error .badAnyCast

/-- `GetExtendInfoFromRemoteAddr(remote_addr)`. -/
def getExtendInfoFromRemoteAddr (remote_addr : Ptr) : ExtendInfo :=
  [.voidPtr remote_addr]

/-- The backend's answers to one attempt: `utrans_query_instid`'s code and the id it
wrote, the handle of `utrans_exec_transfer`, and that handle's completion status. -/
structure Attempt where
  queryRet : Ret
  instId : UInt64
  handle : Option ReqHandle
  status : Ret
  deriving DecidableEq, Repr

/-- The body shared by `send_func` and `recv_func`, for opcode `opcode` and timeout
`timeoutMs`. The segment length is `static_cast<uint32_t>(size)`. -/
def transferFunc (opcode : UserOp) (timeoutMs : Int) (ctx : Ctx) (local_addr : Ptr)
    (size : UInt64) (rbuf : Ptr) (remote_host : String) (remote_port : Int) (a : Attempt) :
    Outcome Unit Bool :=
  let query := Effect.utransQueryInstid ctx remote_host remote_port a.queryRet
  match a.queryRet with
  | .err ret =>
    ⟨[query], .error (.runtimeError ("Query remote instance id failed, remote_addr= " ++
      remote_host ++ ":" ++ toString remote_port ++ ", ret=" ++ toString ret)), ()⟩
  | .ok =>
    let req : TransReq := ⟨a.instId, opcode, 1, rbuf, [⟨local_addr, size.toUInt32⟩]⟩
    let exec := Effect.utransExecTransfer ctx req ⟨4, 1024 * 1024, timeoutMs⟩ a.handle
    match a.handle with
    | none => ⟨[query, exec], .error (.runtimeError "utrans_exec_transfer failed"), ()⟩
    | some h =>
      match a.status with
      | .err status => ⟨[query, exec, .utransGetReqExecResult h a.status,
          .utransGetReqExecResult h a.status, .utransUnrefReqInfo h],
          .error (.runtimeError
            ("Transfer execution failed with status: " ++ toString status)), ()⟩
      | .ok =>
        ⟨[query, exec, .utransGetReqExecResult h .ok, .utransUnrefReqInfo h], .ok true, ()⟩

/-- `send_func`. -/
def sendFunc (e : RDMATransporter) (ctx : Ctx) (local_addr : Ptr) (send_size : UInt64)
    (rbuf : Ptr) (remote_host : String) (remote_port : Int) : Attempt → Outcome Unit Bool :=
  transferFunc .userOpWrite e.writeTimeoutMs ctx local_addr send_size rbuf remote_host remote_port

/-- `recv_func`. -/
def recvFunc (e : RDMATransporter) (ctx : Ctx) (local_addr : Ptr) (recv_size : UInt64)
    (rbuf : Ptr) (remote_host : String) (remote_port : Int) : Attempt → Outcome Unit Bool :=
  transferFunc .userOpRead e.readTimeoutMs ctx local_addr recv_size rbuf remote_host remote_port

/-- The retry phase of `Send` and `Receive`: the runner over the attempt body (through the
logging wrapper, which rethrows unchanged), attempt `i` answered by `backend i`; an
exception that surfaces, retryable or not, becomes `false`. -/
def retryPhase (body : Attempt → Outcome Unit Bool) (policy : RetryPolicy)
    (backend : Nat → Attempt) : List Effect × Bool :=
  let r := retry (fun i _ => body (backend i)) policy ()
  (r.effects, match r.result with
    | .ok b => b
    | .error _ => false)

/-- `Send(local_addr, send_size, remote_host, remote_port, extend_info)`, with the system
clock reading `now`. -/
def RDMATransporter.send (e : RDMATransporter) (now : Int) (local_addr : Ptr)
    (send_size : UInt64) (remote_host : String) (remote_port : Int)
    (extend_info : Option ExtendInfo) (backend : Nat → Attempt) : Outcome RDMATransporter Bool :=
  match e.ctx with
  | none => ⟨[], .ok false, e⟩
  | some ctx =>
    if local_addr = nullptr ∨ send_size = 0 then
      ⟨[], .error
        (.invalidArgument "RDMATransporter::Send: send_data is null or size is zero"), e⟩
    else
      match getRemoteAddrFromExtendInfo extend_info with
      | .error ex => ⟨[], .error ex, e⟩
      | .ok rbuf =>
        if rbuf = nullptr then
          ⟨[], .error (.invalidArgument "RDMATransporter::Send: remote address is null"), e⟩
        else
          let e := { e with lastSendReceiveTime := now }
          let r := retryPhase (sendFunc e ctx local_addr send_size rbuf remote_host remote_port)
            (countingAndSleepRetryPolicy e.options.transportSendRetryCount
              e.options.transportSendRetrySleepMs) backend
          ⟨r.1, .ok r.2, e⟩

/-- `Receive(local_addr, recv_size, remote_host, remote_port, extend_info)`, with the system
clock reading `now`. -/
def RDMATransporter.receive (e : RDMATransporter) (now : Int) (local_addr : Ptr)
    (recv_size : UInt64) (remote_host : String) (remote_port : Int)
    (extend_info : Option ExtendInfo) (backend : Nat → Attempt) : Outcome RDMATransporter Bool :=
  match e.ctx with
  | none =>
    ⟨[], .error (.invalidArgument "RDMATransporter::Receive: context not initialized"), e⟩
  | some ctx =>
    if local_addr = nullptr ∨ recv_size = 0 then
      ⟨[], .error (.invalidArgument
        "RDMATransporter::Receive: recv_data is null or size is zero"), e⟩
    else
      match getRemoteAddrFromExtendInfo extend_info with
      | .error ex => ⟨[], .error ex, e⟩
      | .ok rbuf =>
        if rbuf = nullptr then
          ⟨[], .error (.invalidArgument "RDMATransporter::Receive: remote address is null"), e⟩
        else
          let e := { e with lastSendReceiveTime := now }
          let r := retryPhase (recvFunc e ctx local_addr recv_size rbuf remote_host remote_port)
            (countingAndSleepRetryPolicy e.options.transportReceiveRetryCount
              e.options.transportReceiveRetrySleepMs) backend
          ⟨r.1, .ok r.2, e⟩

/-- Every way `Send` ends: at a guard, before any backend call, with the engine as it was
and not with `true`; or in the retry phase, on the context and remote address it found,
with `now` stored. -/
theorem send_cases (e : RDMATransporter) (now : Int) (local_addr : Ptr) (size : UInt64)
    (remote_host : String) (remote_port : Int) (extend_info : Option ExtendInfo)
    (backend : Nat → Attempt) :
    (∃ res, res ≠ .ok true ∧
      e.send now local_addr size remote_host remote_port extend_info backend = ⟨[], res, e⟩) ∨
    ∃ ctx rbuf, e.ctx = some ctx ∧ getRemoteAddrFromExtendInfo extend_info = .ok rbuf ∧
      e.send now local_addr size remote_host remote_port extend_info backend =
        let r := retryPhase (sendFunc e ctx local_addr size rbuf remote_host remote_port)
          (countingAndSleepRetryPolicy e.options.transportSendRetryCount
            e.options.transportSendRetrySleepMs) backend
        ⟨r.1, .ok r.2, { e with lastSendReceiveTime := now }⟩ := by
  unfold RDMATransporter.send
  repeat' split
  all_goals first | exact .inl ⟨_, by simp, rfl⟩ | exact .inr ⟨_, _, ‹_›, ‹_›, rfl⟩

/-- Every way `Receive` ends, as `send_cases` for `Send`. -/
theorem receive_cases (e : RDMATransporter) (now : Int) (local_addr : Ptr) (size : UInt64)
    (remote_host : String) (remote_port : Int) (extend_info : Option ExtendInfo)
    (backend : Nat → Attempt) :
    (∃ res, res ≠ .ok true ∧
      e.receive now local_addr size remote_host remote_port extend_info backend =
        ⟨[], res, e⟩) ∨
    ∃ ctx rbuf, e.ctx = some ctx ∧ getRemoteAddrFromExtendInfo extend_info = .ok rbuf ∧
      e.receive now local_addr size remote_host remote_port extend_info backend =
        let r := retryPhase (recvFunc e ctx local_addr size rbuf remote_host remote_port)
          (countingAndSleepRetryPolicy e.options.transportReceiveRetryCount
            e.options.transportReceiveRetrySleepMs) backend
        ⟨r.1, .ok r.2, { e with lastSendReceiveTime := now }⟩ := by
  unfold RDMATransporter.receive
  repeat' split
  all_goals first | exact .inl ⟨_, by simp, rfl⟩ | exact .inr ⟨_, _, ‹_›, ‹_›, rfl⟩

/-- `std::any_cast` is the one thing that throws in `GetRemoteAddrFromExtendInfo`. -/
theorem getRemoteAddrFromExtendInfo_error {x : Option ExtendInfo} {ex : Exn}
    (h : getRemoteAddrFromExtendInfo x = .error ex) : ex = .badAnyCast := by
  unfold getRemoteAddrFromExtendInfo at h
  split at h <;> cases h
  rfl

/-- `Send` and `Receive` never end the process. -/
theorem send_result_ne_terminate (e : RDMATransporter) (now : Int) (local_addr : Ptr)
    (size : UInt64) (remote_host : String) (remote_port : Int)
    (extend_info : Option ExtendInfo) (backend : Nat → Attempt) :
    (e.send now local_addr size remote_host remote_port extend_info backend).result ≠
        .error .terminate ∧
      (e.receive now local_addr size remote_host remote_port extend_info backend).result ≠
        .error .terminate := by
  constructor <;> simp only [RDMATransporter.send, RDMATransporter.receive] <;> repeat' split
  all_goals intro h; cases h
  all_goals rename_i hx; exact nomatch getRemoteAddrFromExtendInfo_error hx

/-! ## The backend traffic of a run of attempts -/

/-- `utrans_exec_transfer` returned the handle `h`. -/
def Effect.ReturnsHandle (h : ReqHandle) : Effect → Bool
  | .utransExecTransfer _ _ _ (some h') => h' == h
  | _ => false

/-- The effects of the data path: the four `utrans` calls of an attempt and the runner's
sleeps. -/
def Effect.IsTransfer : Effect → Bool
  | .utransQueryInstid .. | .utransExecTransfer .. | .utransGetReqExecResult ..
  | .utransUnrefReqInfo _ | .sleepFor _ => true
  | _ => false

theorem Effect.IsTransfer.not_contextCall {x : Effect} (h : x.IsTransfer = true) :
    x.IsContextCall = false := by
  cases x <;> first | rfl | cases h

/-- The traffic of a run of attempts whose requests have opcode `opcode`, remote buffer
`rbuf` and local segment `seg`: it ends well iff a completion succeeded; a successful
completion is followed by the release of its handle and nothing else; each handle is
released as often as it was returned; failures are retryable. -/
structure TransferTrace (opcode : UserOp) (rbuf : Ptr) (seg : LbufSeg)
    (o : Outcome Unit Bool) : Prop where
  ok_iff : o.result = .ok true ↔ ∃ h, Effect.utransGetReqExecResult h .ok ∈ o.effects
  ok_true : ∀ b, o.result = .ok b → b = true
  retryable : ∀ ex, o.result = .error ex → ex.IsNonRetryable = false
  stops : ∀ pre h post, o.effects = pre ++ Effect.utransGetReqExecResult h .ok :: post →
    post = [.utransUnrefReqInfo h]
  released : ∀ h, o.effects.count (.utransUnrefReqInfo h) =
    o.effects.countP (Effect.ReturnsHandle h)
  requests : ∀ ctx req conf ret, Effect.utransExecTransfer ctx req conf ret ∈ o.effects →
    req.opcode = opcode ∧ req.rbuf = rbuf ∧ req.lbufNum = 1 ∧ req.lbufSeg = [seg]

/-- A split of `l₁ ++ l₂` around an element that is not in `l₁` is a split of `l₂`. -/
theorem exists_split_of_not_mem {α : Type} {l₁ l₂ pre post : List α} {m : α}
    (h : pre ++ m :: post = l₁ ++ l₂) (hm : m ∉ l₁) :
    ∃ pre', l₂ = pre' ++ m :: post := by
  induction l₁ generalizing pre with
  | nil => exact ⟨pre, h.symm⟩
  | cons a l₁ ih =>
    cases pre with
    | nil =>
      simp only [List.nil_append, List.cons_append, List.cons.injEq] at h
      exact absurd (h.1 ▸ List.mem_cons_self a l₁) hm
    | cons b pre =>
      simp only [List.cons_append, List.cons.injEq] at h
      exact ih h.2 (fun hl => hm (List.mem_cons_of_mem a hl))

/-- A trace with no successful completion has nothing to stop after. -/
theorem stops_of_no_success {l : List Effect}
    (hl : ∀ h, Effect.utransGetReqExecResult h .ok ∉ l) :
    ∀ pre h post, l = pre ++ Effect.utransGetReqExecResult h .ok :: post →
      post = [.utransUnrefReqInfo h] :=
  fun pre h _ heq => absurd (heq ▸ List.mem_append_right pre (List.mem_cons_self _ _)) (hl h)

/-- An attempt that throws before any successful completion keeps the discipline, once
its handles balance and its requests are the caller's. -/
theorem TransferTrace.of_failed {opcode : UserOp} {rbuf : Ptr} {seg : LbufSeg}
    {effs : List Effect} {msg : String}
    (hnone : ∀ h, Effect.utransGetReqExecResult h .ok ∉ effs)
    (hrel : ∀ h, effs.count (.utransUnrefReqInfo h) = effs.countP (Effect.ReturnsHandle h))
    (hreq : ∀ ctx req conf ret, Effect.utransExecTransfer ctx req conf ret ∈ effs →
      req.opcode = opcode ∧ req.rbuf = rbuf ∧ req.lbufNum = 1 ∧ req.lbufSeg = [seg]) :
    TransferTrace opcode rbuf seg ⟨effs, .error (.runtimeError msg), ()⟩ :=
  ⟨by simpa using hnone, by simp, fun _ h => by cases h; rfl, stops_of_no_success hnone, hrel,
    hreq⟩

/-- The only request an attempt submits: the caller's opcode, remote buffer and one
segment, under the instance id the query wrote. -/
theorem transferFunc_request {opcode : UserOp} {timeoutMs : Int} {ctx : Ctx} {local_addr : Ptr}
    {size : UInt64} {rbuf : Ptr} {remote_host : String} {remote_port : Int} {a : Attempt}
    {c : Ctx} {req : TransReq} {conf : TransConf} {ret : Option ReqHandle}
    (h : Effect.utransExecTransfer c req conf ret ∈
      (transferFunc opcode timeoutMs ctx local_addr size rbuf remote_host remote_port a).effects) :
    req = ⟨a.instId, opcode, 1, rbuf, [⟨local_addr, size.toUInt32⟩]⟩ := by
  obtain ⟨q, i, hd, st⟩ := a
  cases q <;> cases hd <;> (try cases st) <;> simp [transferFunc] at h <;> exact h.2.1

/-- One attempt keeps the discipline. -/
theorem transferFunc_trace (opcode : UserOp) (timeoutMs : Int) (ctx : Ctx) (local_addr : Ptr)
    (size : UInt64) (rbuf : Ptr) (remote_host : String) (remote_port : Int) (a : Attempt) :
    TransferTrace opcode rbuf ⟨local_addr, size.toUInt32⟩
      (transferFunc opcode timeoutMs ctx local_addr size rbuf remote_host remote_port a) := by
  have requests : ∀ c req conf ret, Effect.utransExecTransfer c req conf ret ∈
      (transferFunc opcode timeoutMs ctx local_addr size rbuf remote_host remote_port a).effects →
      req.opcode = opcode ∧ req.rbuf = rbuf ∧ req.lbufNum = 1 ∧
        req.lbufSeg = [⟨local_addr, size.toUInt32⟩] := fun _ _ _ _ h => by
    rw [transferFunc_request h]; exact ⟨rfl, rfl, rfl, rfl⟩
  obtain ⟨q, i, hd, st⟩ := a
  cases q with
  | err ret =>
    exact .of_failed (by simp [transferFunc]) (by simp [transferFunc, Effect.ReturnsHandle])
      requests
  | ok =>
    cases hd with
    | none =>
      exact .of_failed (by simp [transferFunc]) (by simp [transferFunc, Effect.ReturnsHandle])
        requests
    | some h =>
      cases st with
      | err s =>
        exact .of_failed (by simp [transferFunc])
          (by simp [transferFunc, Effect.ReturnsHandle, List.count_cons, List.countP_cons]) requests
      | ok =>
        refine ⟨by simp [transferFunc], by simp [transferFunc], by simp [transferFunc], ?_,
          by simp [transferFunc, Effect.ReturnsHandle, List.count_cons,
            List.countP_cons], requests⟩
        intro pre h' post heq
        simp only [transferFunc] at heq
        rcases pre with _ | ⟨a, _ | ⟨b, _ | ⟨c, _ | ⟨d, pre⟩⟩⟩⟩ <;> simp at heq
        obtain ⟨-, -, rfl, rfl⟩ := heq
        rfl

/-- A run of attempts keeps the discipline of its attempts: a failed attempt has no
successful completion, so the sleep and the next attempts start a fresh trace. -/
theorem retry_trace {opcode : UserOp} {rbuf : Ptr} {seg : LbufSeg}
    (body : Attempt → Outcome Unit Bool) (hbody : ∀ a, TransferTrace opcode rbuf seg (body a))
    (policy : RetryPolicy) (backend : Nat → Attempt) :
    TransferTrace opcode rbuf seg (retry (fun i _ => body (backend i)) policy ()) := by
  refine retryFrom_inv _ (fun i _ => hbody (backend i)) ?_ _ _ _
  rintro r r' ⟨ex, hex, -⟩ t t'
  have none : ∀ h,
    Effect.utransGetReqExecResult h .ok ∉ r.effects ++ [.sleepFor policy.sleepMs] :=
    fun h hm => by
      rcases List.mem_append.mp hm with hm | hm
      · exact absurd (t.ok_iff.mpr ⟨h, hm⟩) (by simp [hex])
      · simp at hm
  have split : r.effects ++ Effect.sleepFor policy.sleepMs :: r'.effects =
      (r.effects ++ [.sleepFor policy.sleepMs]) ++ r'.effects := by simp
  refine ⟨?_, t'.ok_true, t'.retryable, ?_, ?_, ?_⟩
  · rw [t'.ok_iff, split]
    exact exists_congr fun h => by simp only [List.mem_append, none h, false_or]
  · intro pre h post heq
    rw [split] at heq
    obtain ⟨pre', hpre'⟩ := exists_split_of_not_mem heq.symm (none h)
    exact t'.stops pre' h post hpre'
  · intro h
    simp [List.count_append, List.countP_append, t.released, t'.released, Effect.ReturnsHandle]
  · intro c req conf ret hmem
    rcases List.mem_append.mp hmem with hm | hm
    · exact t.requests c req conf ret hm
    · exact t'.requests c req conf ret (by simpa using hm)

/-! ## `Send` and `Receive` -/

/-- What a call of `Send` or `Receive` promises about its backend traffic and its end:
`true` iff an attempt completed successfully; nothing but the release of the handle after
the first success; every handle returned is released once; an exception only from the
argument checks, before any backend call. -/
structure TransferContract (o : Outcome RDMATransporter Bool) : Prop where
  true_iff : o.result = .ok true ↔ ∃ h, Effect.utransGetReqExecResult h .ok ∈ o.effects
  stops : ∀ pre h post, o.effects = pre ++ Effect.utransGetReqExecResult h .ok :: post →
    post = [.utransUnrefReqInfo h]
  released : ∀ h, o.effects.count (.utransUnrefReqInfo h) =
    o.effects.countP (Effect.ReturnsHandle h)
  raises_early : ∀ ex, o.result = .error ex → o.effects = []

/-- A call that ends in a guard, before any backend call, and not with `true`. -/
theorem TransferContract.of_guard {e : RDMATransporter} {res : Except Exn Bool}
    (hres : res ≠ .ok true) : TransferContract ⟨[], res, e⟩ :=
  ⟨by simpa using hres, fun pre _ _ h => by simp at h, fun _ => rfl, fun _ _ => rfl⟩

/-- A call that reaches the retry phase. -/
theorem TransferContract.of_retryPhase {opcode : UserOp} {rbuf : Ptr} {seg : LbufSeg}
    {body : Attempt → Outcome Unit Bool} (hbody : ∀ a, TransferTrace opcode rbuf seg (body a))
    (policy : RetryPolicy) (backend : Nat → Attempt) (e : RDMATransporter) :
    TransferContract ⟨(retryPhase body policy backend).1, .ok (retryPhase body policy backend).2,
      e⟩ := by
  have t := retry_trace body hbody policy backend
  refine ⟨?_, t.stops, t.released, fun _ h => by simp at h⟩
  simp only [retryPhase, Except.ok.injEq, ← t.ok_iff]
  split <;> simp_all [t.ok_true]

/-- `Send` and `Receive`, for every engine, argument and sequence of backend answers:
true iff an attempt completed, no query or submission after the first success, every
handle released exactly once, and no exception out of the retry phase. -/
theorem send_retry_contract (e : RDMATransporter) (now : Int) (local_addr : Ptr)
    (size : UInt64) (remote_host : String) (remote_port : Int)
    (extend_info : Option ExtendInfo) (backend : Nat → Attempt) :
    TransferContract (e.send now local_addr size remote_host remote_port extend_info backend) ∧
    TransferContract
      (e.receive now local_addr size remote_host remote_port extend_info backend) := by
  have phase := fun opcode t c rbuf policy =>
    TransferContract.of_retryPhase (fun a => transferFunc_trace opcode t c local_addr size rbuf
      remote_host remote_port a) policy backend
  constructor
  · rcases send_cases e now local_addr size remote_host remote_port extend_info backend with
      ⟨res, hres, hs⟩ | ⟨_, _, -, -, hs⟩ <;> rw [hs]
    exacts [.of_guard hres, phase _ _ _ _ _ _]
  · rcases receive_cases e now local_addr size remote_host remote_port extend_info backend with
      ⟨res, hres, hs⟩ | ⟨_, _, -, -, hs⟩ <;> rw [hs]
    exacts [.of_guard hres, phase _ _ _ _ _ _]

/-- Every effect of `Send` and `Receive` is a call of the data path or a sleep. -/
theorem send_effects_transfer (e : RDMATransporter) (now : Int) (local_addr : Ptr)
    (size : UInt64) (remote_host : String) (remote_port : Int)
    (extend_info : Option ExtendInfo) (backend : Nat → Attempt) :
    (∀ x ∈ (e.send now local_addr size remote_host remote_port extend_info backend).effects,
      x.IsTransfer) ∧
    (∀ x ∈ (e.receive now local_addr size remote_host remote_port extend_info backend).effects,
      x.IsTransfer) := by
  have attempt : ∀ (opcode : UserOp) t c rbuf a,
      ∀ x ∈ (transferFunc opcode t c local_addr size rbuf remote_host remote_port a).effects,
        x.IsTransfer := by
    intro opcode t c rbuf a
    obtain ⟨q, i, hd, st⟩ := a
    cases q <;> cases hd <;> (try cases st) <;> exact List.all_eq_true.1 rfl
  have phase : ∀ (opcode : UserOp) t c rbuf policy, ∀ x ∈ (retryPhase
      (transferFunc opcode t c local_addr size rbuf remote_host remote_port) policy backend).1,
      x.IsTransfer := fun opcode t c rbuf policy =>
    retryFrom_effects (fun x : Effect => x.IsTransfer) rfl
      (fun i _ => attempt opcode t c rbuf (backend i)) _ _ _
  constructor
  · rcases send_cases e now local_addr size remote_host remote_port extend_info backend with
      ⟨_, -, hs⟩ | ⟨_, _, -, -, hs⟩ <;> rw [hs]
    exacts [fun _ h => (nomatch h), phase .userOpWrite _ _ _ _]
  · rcases receive_cases e now local_addr size remote_host remote_port extend_info backend with
      ⟨_, -, hs⟩ | ⟨_, _, -, -, hs⟩ <;> rw [hs]
    exacts [fun _ h => (nomatch h), phase .userOpRead _ _ _ _]

/-- `Send` and `Receive` create and release no context. -/
theorem send_no_context_calls (e : RDMATransporter) (now : Int) (local_addr : Ptr)
    (size : UInt64) (remote_host : String) (remote_port : Int)
    (extend_info : Option ExtendInfo) (backend : Nat → Attempt) :
    (∀ x ∈ (e.send now local_addr size remote_host remote_port extend_info backend).effects,
      x.IsContextCall = false) ∧
    (∀ x ∈ (e.receive now local_addr size remote_host remote_port extend_info backend).effects,
      x.IsContextCall = false) :=
  have h := send_effects_transfer e now local_addr size remote_host remote_port extend_info backend
  ⟨fun x hx => Effect.IsTransfer.not_contextCall (h.1 x hx),
    fun x hx => Effect.IsTransfer.not_contextCall (h.2 x hx)⟩

/-- Each attempt queries the remote instance id exactly once. -/
theorem transferFunc_queries (opcode : UserOp) (timeoutMs : Int) (ctx : Ctx) (local_addr : Ptr)
    (size : UInt64) (rbuf : Ptr) (remote_host : String) (remote_port : Int) (a : Attempt) :
    (transferFunc opcode timeoutMs ctx local_addr size rbuf remote_host remote_port
      a).effects.countP
      (· matches .utransQueryInstid ..) = 1 := by
  obtain ⟨q, i, hd, st⟩ := a
  cases q <;> cases hd <;> (try cases st) <;> rfl

/-- Each attempt begins with `utrans_query_instid` on its context. -/
theorem transferFunc_head (opcode : UserOp) (timeoutMs : Int) (ctx : Ctx) (local_addr : Ptr)
    (size : UInt64) (rbuf : Ptr) (remote_host : String) (remote_port : Int) (a : Attempt) :
    (transferFunc opcode timeoutMs ctx local_addr size rbuf remote_host remote_port
      a).effects.head? = some (.utransQueryInstid ctx remote_host remote_port a.queryRet) := by
  unfold transferFunc
  split <;> (try split) <;> (try split) <;> rfl

/-- `Send` and `Receive` make at most one attempt more than their retry count: at most
`transport_send_retry_count + 1` (resp. receive) queries of the remote instance id. -/
theorem send_attempts (e : RDMATransporter) (now : Int) (local_addr : Ptr)
    (size : UInt64) (remote_host : String) (remote_port : Int)
    (extend_info : Option ExtendInfo) (backend : Nat → Attempt) :
    (e.send now local_addr size remote_host remote_port extend_info backend).effects.countP
      (· matches .utransQueryInstid ..) ≤ e.options.transportSendRetryCount.toNat + 1 ∧
    (e.receive now local_addr size remote_host remote_port extend_info backend).effects.countP
      (· matches .utransQueryInstid ..) ≤ e.options.transportReceiveRetryCount.toNat + 1 := by
  have phase : ∀ (opcode : UserOp) t c rbuf (policy : RetryPolicy), (retryPhase
      (transferFunc opcode t c local_addr size rbuf remote_host remote_port) policy
        backend).1.countP
        (· matches .utransQueryInstid ..) ≤ policy.retries + 1 := fun opcode t c rbuf policy =>
    retryFrom_countP_le _ rfl (fun i _ => (transferFunc_queries opcode t c local_addr size rbuf
      remote_host remote_port (backend i)).le) _ _ _
  constructor
  · rcases send_cases e now local_addr size remote_host remote_port extend_info backend with
      ⟨_, -, hs⟩ | ⟨_, _, -, -, hs⟩ <;> rw [hs]
    exacts [Nat.zero_le _, phase .userOpWrite _ _ _ _]
  · rcases receive_cases e now local_addr size remote_host remote_port extend_info backend with
      ⟨_, -, hs⟩ | ⟨_, _, -, -, hs⟩ <;> rw [hs]
    exacts [Nat.zero_le _, phase .userOpRead _ _ _ _]

/-- With a context, a buffer, a non-zero size and a remote address, `Send` and `Receive` call
the backend whatever `is_running_` is: first `utrans_query_instid` on the context. -/
theorem send_queries_first {e : RDMATransporter} {c : Ctx} (hc : e.ctx = some c) (now : Int)
    {local_addr : Ptr} {size : UInt64} (remote_host : String) (remote_port : Int) {rbuf : Ptr}
    (backend : Nat → Attempt) (ha : local_addr ≠ nullptr) (hn : size ≠ 0)
    (hr : rbuf ≠ nullptr) :
    let x := some (getExtendInfoFromRemoteAddr rbuf)
    let q := Effect.utransQueryInstid c remote_host remote_port (backend 0).queryRet
    (e.send now local_addr size remote_host remote_port x backend).effects.head? = some q ∧
      (e.receive now local_addr size remote_host remote_port x backend).effects.head? =
        some q := by
  have phase : ∀ (opcode : UserOp) t (policy : RetryPolicy),
      (retryPhase (transferFunc opcode t c local_addr size rbuf remote_host remote_port) policy
        backend).1.head? =
        some (.utransQueryInstid c remote_host remote_port (backend 0).queryRet) := by
    intro opcode t policy
    obtain ⟨rest, h⟩ := @retryFrom_first_effects Unit Bool policy.sleepMs
      (fun i _ => transferFunc opcode t c local_addr size rbuf remote_host remote_port
        (backend i)) policy.retries 0 ()
    simp only [retryPhase, retry, h, List.head?_append, transferFunc_head]
    rfl
  simp only [RDMATransporter.send, RDMATransporter.receive, hc, ha, hn, hr, or_self, if_false,
    getExtendInfoFromRemoteAddr, getRemoteAddrFromExtendInfo]
  exact ⟨phase _ _ _, phase _ _ _⟩

/-- An attempt succeeds exactly when the query, the submission and the completion all do;
any other attempt throws a `std::runtime_error`, which the runner retries. -/
theorem transferFunc_result (opcode : UserOp) (timeoutMs : Int) (ctx : Ctx) (local_addr : Ptr)
    (size : UInt64) (rbuf : Ptr) (remote_host : String) (remote_port : Int) (a : Attempt) :
    (a.queryRet = .ok ∧ a.handle.isSome ∧ a.status = .ok →
      (transferFunc opcode timeoutMs ctx local_addr size rbuf remote_host remote_port a).result =
        .ok true) ∧
    (¬ (a.queryRet = .ok ∧ a.handle.isSome ∧ a.status = .ok) → ∃ msg,
      (transferFunc opcode timeoutMs ctx local_addr size rbuf remote_host remote_port a).result =
        .error (.runtimeError msg)) := by
  obtain ⟨q, i, hd, st⟩ := a
  cases q <;> cases hd <;> (try cases st) <;> simp [transferFunc]

/-- Enough retries give success: on a request that passes the guards, if every attempt
before the `k`-th fails and the `k`-th succeeds, `Send` and `Receive` return `true` when
their retry count is at least `k`. -/
theorem send_succeeds_within_retries (e : RDMATransporter) (now : Int) (local_addr : Ptr)
    (size : UInt64) (remote_host : String) (remote_port : Int)
    (extend_info : Option ExtendInfo) (backend : Nat → Attempt) {c : Ctx} {rbuf : Ptr}
    (hctx : e.ctx = some c) (hargs : ¬(local_addr = nullptr ∨ size = 0))
    (hrbuf : getRemoteAddrFromExtendInfo extend_info = .ok rbuf) (hnull : rbuf ≠ nullptr)
    (k : Nat)
    (hfail : ∀ j < k, ¬((backend j).queryRet = .ok ∧ (backend j).handle.isSome ∧
      (backend j).status = .ok))
    (hok : (backend k).queryRet = .ok ∧ (backend k).handle.isSome ∧ (backend k).status = .ok) :
    (k ≤ e.options.transportSendRetryCount.toNat →
      (e.send now local_addr size remote_host remote_port extend_info backend).result =
        .ok true) ∧
    (k ≤ e.options.transportReceiveRetryCount.toNat →
      (e.receive now local_addr size remote_host remote_port extend_info backend).result =
        .ok true) := by
  have phase : ∀ (opcode : UserOp) t (policy : RetryPolicy), k ≤ policy.retries →
      (retryPhase (transferFunc opcode t c local_addr size rbuf remote_host remote_port) policy
        backend).2 = true := by
    intro opcode t policy hk
    have reaches := @retryFrom_reaches_ok Unit Bool policy.sleepMs
      (fun i _ => transferFunc opcode t c local_addr size rbuf remote_host remote_port (backend i))
      true k policy.retries 0 () hk
      (fun j hj _ => by
        obtain ⟨msg, h⟩ := (transferFunc_result opcode t c local_addr size rbuf remote_host
          remote_port (backend (0 + j))).2 (by simpa using hfail j hj)
        exact ⟨_, h, rfl⟩)
      (fun _ => by simpa using (transferFunc_result opcode t c local_addr size rbuf remote_host
          remote_port (backend k)).1 hok)
    simp only [retryPhase, retry, reaches]
  refine ⟨fun hk => ?_, fun hk => ?_⟩
  · simp only [RDMATransporter.send, hctx, hargs, hrbuf, hnull, if_false, sendFunc]
    rw [phase _ _ _ hk]
  · simp only [RDMATransporter.receive, hctx, hargs, hrbuf, hnull, if_false, recvFunc]
    rw [phase _ _ _ hk]

theorem send_succeeds_at_second_attempt :
    let e : RDMATransporter :=
      { RDMATransporter.init
        ⟨"", 19000, true, 1000, 1000, 4, false, false, 500, 2, 0, 2, 0⟩ with
        ctx := some 7 }
    let backend : Nat → Attempt := fun i => if i = 0 then ⟨.err 1, 0, none, .ok⟩
      else ⟨.ok, 42, some 9, .ok⟩
    let x := some (getExtendInfoFromRemoteAddr 8192)
    e.ctx = some 7 ∧ ¬(4096 = nullptr ∨ (1024 : UInt64) = 0) ∧
      getRemoteAddrFromExtendInfo x = .ok 8192 ∧ 8192 ≠ nullptr ∧
      (∀ j < 1, ¬((backend j).queryRet = .ok ∧ (backend j).handle.isSome ∧
        (backend j).status = .ok)) ∧
      ((backend 1).queryRet = .ok ∧ (backend 1).handle.isSome ∧ (backend 1).status = .ok) ∧
      ((1 ≤ e.options.transportSendRetryCount.toNat →
        (e.send 0 4096 1024 "peer" 19001 x backend).result = .ok true) ∧
      (1 ≤ e.options.transportReceiveRetryCount.toNat →
        (e.receive 0 4096 1024 "peer" 19001 x backend).result = .ok true)) :=
  ⟨rfl, by decide, rfl, by decide, by decide, ⟨rfl, rfl, rfl⟩,
    send_succeeds_within_retries
      { RDMATransporter.init
        ⟨"", 19000, true, 1000, 1000, 4, false, false, 500, 2, 0, 2, 0⟩ with
        ctx := some 7 } 0 4096 1024 "peer" 19001 (some (getExtendInfoFromRemoteAddr 8192))
      (fun i => if i = 0 then ⟨.err 1, 0, none, .ok⟩ else ⟨.ok, 42, some 9, .ok⟩)
        rfl (by decide)
      rfl (by decide) 1 (by decide) ⟨rfl, rfl, rfl⟩⟩

/-- `Send` and `Receive` write only `last_send_receive_time_`; without a context they touch
nothing, `Send` returning `false` and `Receive` throwing. -/
theorem send_frame (e : RDMATransporter) (now : Int) (local_addr : Ptr) (size : UInt64)
    (remote_host : String) (remote_port : Int) (extend_info : Option ExtendInfo)
    (backend : Nat → Attempt) :
    let s := e.send now local_addr size remote_host remote_port extend_info backend
    let r := e.receive now local_addr size remote_host remote_port extend_info backend
    (∃ t, s.state = { e with lastSendReceiveTime := t }) ∧
      (∃ t, r.state = { e with lastSendReceiveTime := t }) ∧
      (e.ctx = none → s.effects = [] ∧ s.result = .ok false ∧ r.effects = [] ∧
        r.result =
          .error (.invalidArgument "RDMATransporter::Receive: context not initialized")) := by
  refine ⟨?_, ?_, fun h => by simp [RDMATransporter.send, RDMATransporter.receive, h]⟩
  · rcases send_cases e now local_addr size remote_host remote_port extend_info backend with
      ⟨_, -, hs⟩ | ⟨_, _, -, -, hs⟩ <;> rw [hs]
    exacts [⟨e.lastSendReceiveTime, rfl⟩, ⟨now, rfl⟩]
  · rcases receive_cases e now local_addr size remote_host remote_port extend_info backend with
      ⟨_, -, hs⟩ | ⟨_, _, -, -, hs⟩ <;> rw [hs]
    exacts [⟨e.lastSendReceiveTime, rfl⟩, ⟨now, rfl⟩]

/-! ## `Receive` against `Send` -/

/-- The direction swap: a submission becomes a READ, every other effect stays. -/
def Effect.toRead : Effect → Effect
  | .utransExecTransfer c req conf ret =>
    .utransExecTransfer c { req with opcode := .userOpRead } conf ret
  | x => x

/-- The engine as `Receive` configures its transfers, seen from `Send`: the read timeout
and the receive retry options in place of the write and send ones. -/
def RDMATransporter.asReceiver (e : RDMATransporter) : RDMATransporter :=
  { e with
    writeTimeoutMs := e.readTimeoutMs
    options := { e.options with
      transportSendRetryCount := e.options.transportReceiveRetryCount
      transportSendRetrySleepMs := e.options.transportReceiveRetrySleepMs } }

/-- A READ attempt is the WRITE attempt with its submission renamed. -/
theorem transferFunc_read (timeoutMs : Int) (ctx : Ctx) (local_addr : Ptr) (size : UInt64)
    (rbuf : Ptr) (remote_host : String) (remote_port : Int) (a : Attempt) :
    transferFunc .userOpRead timeoutMs ctx local_addr size rbuf remote_host remote_port a =
      let w := transferFunc .userOpWrite timeoutMs ctx local_addr size rbuf remote_host
        remote_port a
      ⟨w.effects.map Effect.toRead, w.result, w.state⟩ := by
  obtain ⟨q, i, hd, st⟩ := a
  cases q <;> cases hd <;> cases st <;> rfl

/-- With a context, `Receive` makes the backend calls `Send` makes on `e.asReceiver`, READ
for WRITE, and ends the same way up to the exception's text. -/
theorem receive_eq_send_of_ctx (e : RDMATransporter) (c : Ctx) (hctx : e.ctx = some c)
    (now : Int) (local_addr : Ptr) (size : UInt64) (remote_host : String) (remote_port : Int)
    (extend_info : Option ExtendInfo) (backend : Nat → Attempt) :
    let r := e.receive now local_addr size remote_host remote_port extend_info backend
    let s := e.asReceiver.send now local_addr size remote_host remote_port extend_info backend
    r.effects = s.effects.map Effect.toRead ∧
      r.result.mapError Exn.kind = s.result.mapError Exn.kind := by
  have phase : ∀ (t : Int) (rbuf : Ptr) (policy : RetryPolicy),
      retryPhase (transferFunc .userOpRead t c local_addr size rbuf remote_host remote_port)
          policy backend =
        ((retryPhase (transferFunc .userOpWrite t c local_addr size rbuf remote_host remote_port)
          policy backend).1.map Effect.toRead,
          (retryPhase (transferFunc .userOpWrite t c local_addr size rbuf remote_host remote_port)
          policy backend).2) := by
    intro t rbuf policy
    simp only [retryPhase, retry]
    rw [retryFrom_map Effect.toRead rfl (fun i _ => transferFunc_read _ _ _ _ _ _ _ (backend i))]
  simp only [RDMATransporter.receive, RDMATransporter.send, RDMATransporter.asReceiver, hctx,
    recvFunc, sendFunc, phase]
  repeat' split
  all_goals first | rfl | simp_all [Exn.kind, Except.mapError]

theorem receive_eq_send_with_ctx :
    let e : RDMATransporter :=
      { RDMATransporter.init
        ⟨"", 19000, true, 1000, 1000, 4, false, false, 500, 2, 0, 2, 0⟩ with
        ctx := some 7 }
    let backend : Nat → Attempt := fun _ => ⟨.ok, 42, some 9, .err 3⟩
    let x := some (getExtendInfoFromRemoteAddr 8192)
    e.ctx = some 7 ∧
      let r := e.receive 0 4096 1024 "peer" 19001 x backend
      let s := e.asReceiver.send 0 4096 1024 "peer" 19001 x backend
      r.effects = s.effects.map Effect.toRead ∧
        r.result.mapError Exn.kind = s.result.mapError Exn.kind :=
  ⟨rfl, receive_eq_send_of_ctx
    { RDMATransporter.init ⟨"", 19000, true, 1000, 1000, 4, false, false, 500, 2, 0, 2, 0⟩ with
      ctx := some 7 } 7 rfl 0 4096 1024 "peer" 19001 (some (getExtendInfoFromRemoteAddr 8192))
    (fun _ => ⟨.ok, 42, some 9, .err 3⟩)⟩

/-- Without a context the two directions part: `Send` returns `false`, `Receive` throws
`std::invalid_argument`, on every argument tuple and backend. -/
theorem send_receive_differ_without_ctx (defaults : Options) (now : Int) (local_addr : Ptr)
    (size : UInt64) (remote_host : String) (remote_port : Int)
    (extend_info : Option ExtendInfo) (backend : Nat → Attempt) :
    let e := RDMATransporter.init defaults
    e.send now local_addr size remote_host remote_port extend_info backend =
      ⟨[], .ok false, e⟩ ∧
    e.receive now local_addr size remote_host remote_port extend_info backend =
      ⟨[], .error (.invalidArgument "RDMATransporter::Receive: context not initialized"), e⟩ :=
  ⟨rfl, rfl⟩

/-! ## The submitted request -/

/-- A transfer of `2^32` bytes is submitted as a zero-length WRITE, and reports success. -/
theorem send_wraps_segment_length (defaults : Options) :
    let e := { RDMATransporter.init defaults with ctx := some 1 }
    let o := e.send 0 4096 4294967296 "peer" 19001 (some (getExtendInfoFromRemoteAddr 8192))
      (fun _ => ⟨.ok, 42, some 9, .ok⟩)
    o.result = .ok true ∧
      Effect.utransExecTransfer 1 ⟨42, .userOpWrite, 1, 8192, [⟨4096, 0⟩]⟩
      ⟨4, 1024 * 1024, -1⟩ (some 9) ∈ o.effects := by
  simp only [RDMATransporter.send, getExtendInfoFromRemoteAddr, getRemoteAddrFromExtendInfo,
    retryPhase, retry]
  rw [retryFrom_of_ok_any rfl]
  simp [nullptr, sendFunc, transferFunc, RDMATransporter.init]
  rfl

end AstateRdma
