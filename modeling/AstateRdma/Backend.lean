import Mathlib.Data.List.Basic

/-!
# The engine's view of the utrans backend

`RDMATransporter` talks to the verbs library only through the utrans C interface. This
module fixes that interface as the model sees it:

* **values** — pointers, contexts and request handles are plain numbers; `nullptr` is `0`
  for buffers, and `none` for the handles the backend may fail to return;
* **effects** — every backend call the engine makes is an `Effect`, recorded with the
  arguments it passes and, where the engine branches on it, the answer it gets;
* **exceptions** — the C++ exceptions that cross a function boundary (`Exn`);
* **configuration** — the `Options` keys the engine reads, and the records it hands to
  `utrans_setup` and `utrans_exec_transfer`.

Return codes are compared with the backend's success constants (`UTRANS_RET_SUCC`,
`URES_SUCCESS`) and nothing else, so a code is `Ret.ok` or `Ret.err c`.
-/

namespace AstateRdma

/-- A host or device address (`void*`); `0` is `nullptr`. -/
abbrev Ptr := Nat

/-- The null pointer. -/
def nullptr : Ptr := 0

/-- A utrans context (`utrans_ctx_t*`), named by the value `utrans_setup` wrote. -/
abbrev Ctx := Nat

/-- A transfer request handle (`utrans_req_info_t*`) that is not null. -/
abbrev ReqHandle := Nat

/-- A backend return code, as the engine reads it: the success constant or another code. -/
inductive Ret where
  | ok
  | err (code : Int)
  deriving DecidableEq, Repr

/-- The one-sided operation of a request (`USER_OP_READ`, `USER_OP_WRITE`). -/
inductive UserOp where
  | userOpRead
  | userOpWrite
  deriving DecidableEq, Repr

/-- One local segment of a request: start address and byte count (`uint32_t`). -/
structure LbufSeg where
  addrBeg : Ptr
  trzSize : UInt32
  deriving DecidableEq, Repr

/-- `trans_req_t`: target instance, opcode, segment count, remote buffer, local segments.
The fifth initializer of the source, a constant `nullptr`, is left out. -/
structure TransReq where
  instId : UInt64
  opcode : UserOp
  lbufNum : Nat
  rbuf : Ptr
  lbufSeg : List LbufSeg
  deriving DecidableEq, Repr

/-- `trans_conf_t`: poller count, chunk size and timeout in milliseconds. -/
structure TransConf where
  pollers : Int
  chunkSize : Int
  timeoutMs : Int
  deriving DecidableEq, Repr

/-- `utrans_config_t.log_conf`. -/
structure LogConf where
  logDir : String
  logName : String
  logMaxFileCount : Int
  logMaxSize : Int
  selfDelete : Int
  deriving DecidableEq, Repr

/-- `utrans_config_t.rdma_conf`; `validDevPatt = none` is a null device pattern. -/
structure RdmaConf where
  numPollers : Int
  validDevPatt : Option String
  deriving DecidableEq, Repr

/-- `utrans_config_t`, as `Start` fills it before `utrans_setup`. -/
structure UtransConfig where
  logConf : LogConf
  rdmaConf : RdmaConf
  deriving DecidableEq, Repr

/-- The zero-initialised `utrans_config_t utrans_config = {}`. -/
def UtransConfig.zero : UtransConfig :=
  ⟨⟨"", "", 0, 0, 0⟩, ⟨0, none⟩⟩

/-- What the engine does outside its own memory, in program order. Backend calls carry
their arguments and, where the engine branches on it, the backend's answer. -/
inductive Effect where
  | utransSetup (conf : UtransConfig) (ret : Option Ctx)
  | utransSetupRpcsrv (ctx : Ctx) (port : Int) (ret : Ret)
  | utransQueryInstid (ctx : Ctx) (host : String) (port : Int) (ret : Ret)
  | utransExecTransfer (ctx : Ctx) (req : TransReq) (conf : TransConf) (ret : Option ReqHandle)
  | utransGetReqExecResult (h : ReqHandle) (ret : Ret)
  | utransUnrefReqInfo (h : ReqHandle)
  | utransRegistRam (ctx : Ctx) (addr : Ptr) (len : UInt64) (numa : Int) (mr : Option Nat)
  | utransRegistVram (ctx : Ctx) (addr : Ptr) (len : UInt64) (gpu : Int) (mr : Option Nat)
  | utransDeregMem (ctx : Ctx) (addr : Ptr) (len : UInt64) (ret : Int)
  | utransPrintPerfInfo (ctx : Ctx)
  | utransClean (ctx : Ctx)
  | numaBind (node : Int)
  | spawnPerfThread
  | joinPerfThread
  | sleepFor (ms : Int)
  deriving DecidableEq, Repr

/-- The calls that create or release a context: `utrans_setup`, `utrans_clean`. -/
def Effect.IsContextCall : Effect → Bool
  | .utransSetup _ _ | .utransClean _ => true
  | _ => false

/-- The exceptions that leave a modelled function. `terminate` is `std::terminate`, which
ends the process (assigning to a joinable `std::thread`). -/
inductive Exn where
  | invalidArgument (what : String)
  | runtimeError (what : String)
  | badAnyCast
  | nonRetryable (what : String)
  | terminate
  deriving DecidableEq, Repr

/-- `NonRetryableException`, the one kind the retry runner never retries. -/
def Exn.IsNonRetryable : Exn → Bool
  | .nonRetryable _ => true
  | _ => false

/-- The exception's C++ type, forgetting its text. -/
def Exn.kind : Exn → Nat
  | .invalidArgument _ => 0
  | .runtimeError _ => 1
  | .badAnyCast => 2
  | .nonRetryable _ => 3
  | .terminate => 4

/-- The `Options` keys the engine reads (`GetOptionValue<T>(options, KEY)`). -/
structure Options where
  transferEngineMetaServiceAddress : String
  transferEngineLocalPort : Int
  transferEngineServiceFixedPort : Bool
  transferEngineReadTimeoutMs : Int
  transferEngineWriteTimeoutMs : Int
  transferEngineRdmaNumPollers : Int
  transferEngineEnableNumaAllocation : Bool
  transferEngineEnablePerfMetrics : Bool
  transferEnginePerfStatsIntervalMs : Int
  transportSendRetryCount : Int
  transportSendRetrySleepMs : Int
  transportReceiveRetryCount : Int
  transportReceiveRetrySleepMs : Int
  deriving DecidableEq, Repr

/-- What a modelled call did: its effects in order, how it ended, and the state after. -/
structure Outcome (σ α : Type) where
  effects : List Effect
  result : Except Exn α
  state : σ

end AstateRdma
