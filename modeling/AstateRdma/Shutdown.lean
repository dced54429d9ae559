import AstateRdma.Activity

/-!
# Concurrent shutdown: `Stop`, the perf sampler and the destructor

After a `Start` that returned `true` with perf metrics enabled, the sampler thread runs
`PerfMetricsLoggingThread` while any number of threads call `Stop` and one thread runs the
destructor (`Stop`, then `utrans_clean`). Every line of these that touches shared state is
one atomic step, so the model is the interleaving of those steps. `Stop`'s first test of
`is_running_` is outside `close_mutex_`; the join blocks until the sampler has exited.

* `ShutdownInv` — the holder of `close_mutex_` is the one thread inside `Stop`'s critical
  section, and the shared flags are those its place in the teardown allows;
* `ShutdownInv.step`, `ShutdownInv.run` — every step, hence every run, keeps it;
* `perf_thread_joined_before_stop_returns` — the sampler is joined at most once, every
  `Stop` (and the destructor) returns only after the join, and the sampler prints only
  while no `Stop` has returned, on the live context; from every point, some schedule lets
  every `Stop` return and the destructor finish, the sampler then joined exactly once;
* `ShutdownInv.progress`, `ShutdownInv.finish_all` — a thread that is not done has a step
  that lowers `World.finishRank` (its own, the mutex holder's or the sampler's), hence a
  schedule that finishes it;
* `shutdown_refines_stop` — once a `Stop` has returned, the flags are those the sequential
  `Stop` leaves;
* `utrans_clean_after_join` — the destructor releases the context only after the join;
* `stop_never_deadlocks` — the sampler never blocks, and a `Stop` thread that cannot move has
  finished or waits for the holder of the mutex, which can move or waits in the join for the
  sampler's next five steps at most.
-/

namespace AstateRdma

/-- A thread that calls into the engine: a `Stop` caller, or the destructor. -/
inductive Tid where
  | caller (i : Nat)
  | destructor
  deriving DecidableEq, Repr

/-- The line a `Stop` call is at. From `recheck` to `unlock` the thread holds
`close_mutex_`; `destroyed` is the destructor's, after `utrans_clean`. -/
inductive StopPc where
  | entry
  | lock
  | recheck
  | testPerf
  | clearPerf
  | testJoinable
  | join
  | clearRunning
  | unlock
  | returned
  | destroyed
  deriving DecidableEq, Repr

/-- The lines run under `close_mutex_`. -/
def StopPc.InCS : StopPc → Bool
  | .recheck | .testPerf | .clearPerf | .testJoinable | .join | .clearRunning | .unlock => true
  | _ => false

/-- The line the sampler is at; `print c` is about to call `utrans_print_perf_info(c)`. -/
inductive SamplerPc where
  | test
  | sleep
  | sample
  | checkCtx
  | print (c : Ctx)
  | exited
  deriving DecidableEq, Repr

/-- The shared state: `is_running_`, `perf_logging_thread_running_`, `joinable()`, the
holder of `close_mutex_`, `ctx_`; the contexts released so far and the joins completed;
where each thread is. -/
structure World where
  isRunning : Bool
  perfRunning : Bool
  joinable : Bool
  mutex : Option Tid
  ctx : Option Ctx
  cleaned : List Ctx
  joins : Nat
  sampler : SamplerPc
  pc : Tid → StopPc

/-- The engine as `Start` left it, the sampler at its loop test and no `Stop` begun. -/
def World.ofEngine (e : RDMATransporter) : World :=
  ⟨e.isRunning, e.perfLoggingThreadRunning, e.perfLoggingThreadJoinable, none, e.ctx, [], 0,
    .test, fun _ => .entry⟩

/-- One step of `PerfMetricsLoggingThread`; at `sample` it reads the clock (`now`) and
`last_send_receive_time_` (`last_activity`). -/
def World.samplerStep (w : World) (now last_activity : Int) : Option World :=
  match w.sampler with
  | .test => some { w with sampler := if w.perfRunning then .sleep else .exited }
  | .sleep => some { w with sampler := .sample }
  | .sample =>
    some { w with sampler := if recentActivity now last_activity then .checkCtx else .test }
  | .checkCtx =>
    some { w with
      sampler := match w.ctx with
        | some c => .print c
        | none => .test }
  | .print _ => some { w with sampler := .test }
  | .exited => none

/-- One step of thread `t` in `Stop` (and, for the destructor, the `utrans_clean` after
it); `none` while it is blocked on the mutex or in the join, and once it is done. -/
def World.stopStep (w : World) (t : Tid) : Option World :=
  let go := fun p => { w with pc := Function.update w.pc t p }
  match w.pc t with
  | .entry => some (go (if w.isRunning then .lock else .returned))
  | .lock => if w.mutex = none then some { go .recheck with mutex := some t } else none
  | .recheck => some (go (if w.isRunning then .testPerf else .unlock))
  | .testPerf => some (go (if w.perfRunning then .clearPerf else .clearRunning))
  | .clearPerf => some { go .testJoinable with perfRunning := false }
  | .testJoinable => some (go (if w.joinable then .join else .clearRunning))
  | .join =>
    if w.sampler = .exited then
      some { go .clearRunning with joinable := false, joins := w.joins + 1 }
    else none
  | .clearRunning => some { go .unlock with isRunning := false }
  | .unlock => some { go .returned with mutex := none }
  | .returned =>
    match t with
    | .destructor => some { go .destroyed with ctx := none, cleaned := w.cleaned ++ w.ctx.toList }
    | .caller _ => none
  | .destroyed => none

/-- A step of the sampler or of one `Stop` thread. -/
inductive ShutdownStep where
  | sampler (now last_activity : Int)
  | stop (t : Tid)

def World.step (w : World) : ShutdownStep → Option World
  | .sampler now last_activity => w.samplerStep now last_activity
  | .stop t => w.stopStep t

/-- A schedule, `none` when one of its steps is not enabled. -/
def World.run (w : World) : List ShutdownStep → Option World
  | [] => some w
  | a :: as => (w.step a).bind fun w' => w'.run as

/-! ## The invariant -/

/-- Before the teardown. -/
def World.Running (w : World) : Prop :=
  w.isRunning = true ∧ w.perfRunning = true ∧ w.joinable = true ∧ w.joins = 0 ∧
    w.sampler ≠ .exited

/-- `perf_logging_thread_running_` cleared, not yet joined. -/
def World.Draining (w : World) : Prop :=
  w.isRunning = true ∧ w.perfRunning = false ∧ w.joinable = true ∧ w.joins = 0

/-- Joined, `is_running_` not yet cleared. -/
def World.Joined (w : World) : Prop :=
  w.isRunning = true ∧ w.perfRunning = false ∧ w.joinable = false ∧ w.joins = 1 ∧
    w.sampler = .exited

/-- After the teardown. -/
def World.Stopped (w : World) : Prop :=
  w.isRunning = false ∧ w.perfRunning = false ∧ w.joinable = false ∧ w.joins = 1 ∧
    w.sampler = .exited

/-- The flags the holder of `close_mutex_` may find at its line (`none`: no holder). -/
def World.StageOk (w : World) : Option StopPc → Prop
  | none | some .recheck => w.Running ∨ w.Stopped
  | some .testPerf | some .clearPerf => w.Running
  | some .testJoinable | some .join => w.Draining
  | some .clearRunning => w.Joined
  | some .unlock => w.Stopped
  | some _ => False

/-- The shutdown invariant, for the context `c₀` that `Start` created. -/
structure ShutdownInv (c₀ : Ctx) (w : World) : Prop where
  mutex_held : ∀ t, (w.pc t).InCS = true ↔ w.mutex = some t
  stage : w.StageOk (w.mutex.map w.pc)
  done : ∀ t, w.pc t = .returned ∨ w.pc t = .destroyed → w.isRunning = false
  ctx : (w.pc .destructor = .destroyed ∧ w.ctx = none ∧ w.cleaned = [c₀]) ∨
    (w.pc .destructor ≠ .destroyed ∧ w.ctx = some c₀ ∧ w.cleaned = [])
  callers_alive : ∀ i, w.pc (.caller i) ≠ .destroyed
  print : ∀ c, w.sampler = .print c → c = c₀

section Steps

variable {c₀ : Ctx} {w : World}

/-- Whatever the holder's line, the flags are those of one of the four stages. -/
theorem World.StageOk.cases {p : Option StopPc} (h : w.StageOk p) :
    w.Running ∨ w.Draining ∨ w.Joined ∨ w.Stopped := by
  rcases p with _ | _ | _ | _ | _ | _ | _ | _ | _ | _ | _ | _ <;> simp only [World.StageOk] at h
  all_goals first
    | exact h.elim .inl fun h => .inr (.inr (.inr h))
    | exact .inl h
    | exact .inr (.inl h)
    | exact .inr (.inr (.inl h))
    | exact .inr (.inr (.inr h))

/-- The holder's stage carries over to a world whose flags are in the same stage. -/
theorem World.StageOk.mono {w' : World} {p : Option StopPc} (h : w.StageOk p)
    (hR : w.Running → w'.Running) (hD : w.Draining → w'.Draining) (hJ : w.Joined → w'.Joined)
    (hS : w.Stopped → w'.Stopped) : w'.StageOk p := by
  rcases p with _ | _ | _ | _ | _ | _ | _ | _ | _ | _ | _ | _ <;>
    simp only [World.StageOk] at h ⊢
  all_goals first
    | exact h.imp hR hS
    | exact hR h
    | exact hD h
    | exact hJ h
    | exact hS h

theorem World.StageOk.stopped {p : Option StopPc} (h : w.StageOk p) (hr : w.isRunning = false) :
    w.Stopped := by
  rcases h.cases with ⟨h, -⟩ | ⟨h, -⟩ | ⟨h, -⟩ | h
  iterate 3 · simp [h] at hr
  exact h

theorem World.StageOk.joins_le {p : Option StopPc} (h : w.StageOk p) : w.joins ≤ 1 := by
  rcases h.cases with ⟨-, -, -, h, -⟩ | ⟨-, -, -, h⟩ | ⟨-, -, -, h, -⟩ |
    ⟨-, -, -, h, -⟩ <;> omega

/-- Moving one thread's pc keeps the mutex consistent when the holder is updated alike. -/
theorem mutex_held_update {t : Tid} {p : StopPc} {m : Option Tid}
    (held : ∀ t', (w.pc t').InCS = true ↔ w.mutex = some t') (ht : p.InCS = true ↔ m = some t)
    (hother : ∀ t', t' ≠ t → (w.mutex = some t' ↔ m = some t')) :
    ∀ t', (Function.update w.pc t p t').InCS = true ↔ m = some t' := by
  intro t'
  by_cases h : t' = t
  · subst h; simpa using ht
  · rw [Function.update_noteq h, held, hother t' h]

theorem ShutdownInv.sampler {w' : World} {now last_activity : Int} (inv : ShutdownInv c₀ w)
    (h : w.samplerStep now last_activity = some w') : ShutdownInv c₀ w' := by
  have live : w.sampler ≠ .exited := fun he => by simp [World.samplerStep, he] at h
  have keep : ∀ s : SamplerPc, (w.perfRunning = true → s ≠ .exited) →
      (∀ c, s = .print c → c = c₀) → ShutdownInv c₀ { w with sampler := s } :=
    fun s hs hprint => ⟨inv.mutex_held,
      inv.stage.mono
        (fun ⟨h₁, h₂, h₃, h₄, _⟩ => ⟨h₁, h₂, h₃, h₄, hs h₂⟩) id
        (fun h => absurd h.2.2.2.2 live) (fun h => absurd h.2.2.2.2 live),
      inv.done, inv.ctx, inv.callers_alive, hprint⟩
  unfold World.samplerStep at h
  split at h <;> cases h
  · exact keep _ (fun hp => by simp [hp]) (by split <;> simp)
  · exact keep _ (by simp) (by simp)
  · exact keep _ (by split <;> simp) (by split <;> simp)
  · refine keep _ (by split <;> simp) fun c hc => ?_
    split at hc
    · rename_i c' hctx
      cases hc
      rcases inv.ctx with ⟨-, h0, -⟩ | ⟨-, h0, -⟩ <;> rw [hctx] at h0
      · cases h0
      · exact Option.some.inj h0
    · cases hc
  · exact keep _ (by simp) (by simp)

/-- A move between two lines other than `destroyed` neither creates nor removes one. -/
theorem update_eq_destroyed {t : Tid} {p : StopPc} (ht : w.pc t ≠ .destroyed)
    (hp : p ≠ .destroyed) (t' : Tid) :
    Function.update w.pc t p t' = .destroyed ↔ w.pc t' = .destroyed := by
  by_cases h : t' = t
  · subst h; simp [ht, hp]
  · rw [Function.update_noteq h]

/-- A `Stop` step of `t` that keeps `ctx_`, the released contexts and the sampler, and moves
`t` between lines other than `destroyed`, keeps the invariant when the mutex and the flags
it leaves are consistent with the new lines. -/
theorem ShutdownInv.move {t : Tid} {p : StopPc} (r pr j : Bool) (m : Option Tid) (n : Nat)
    (inv : ShutdownInv c₀ w) (ht : w.pc t ≠ .destroyed) (hp : p ≠ .destroyed)
    (held : ∀ t', (Function.update w.pc t p t').InCS = true ↔ m = some t')
    (hstage : World.StageOk
      ⟨r, pr, j, m, w.ctx, w.cleaned, n, w.sampler, Function.update w.pc t p⟩
      (m.map (Function.update w.pc t p)))
    (hret : p = .returned → r = false) (hrun : w.isRunning = false → r = false) :
    ShutdownInv c₀
      ⟨r, pr, j, m, w.ctx, w.cleaned, n, w.sampler, Function.update w.pc t p⟩ := by
  have hd := update_eq_destroyed ht hp
  refine ⟨held, hstage, fun t' h => ?_, ?_, fun i => (hd _).not.2 (inv.callers_alive i),
    inv.print⟩
  · rcases h with h | h
    · by_cases e : t' = t
      · subst e; exact hret (by simpa using h)
      · exact hrun (inv.done t' (.inl (by simpa [Function.update_noteq e] using h)))
    · exact hrun (inv.done t' (.inr ((hd t').1 h)))
  · rcases inv.ctx with ⟨h₁, h₂, h₃⟩ | ⟨h₁, h₂, h₃⟩
    exacts [.inl ⟨(hd _).2 h₁, h₂, h₃⟩, .inr ⟨(hd _).not.2 h₁, h₂, h₃⟩]

theorem map_update_of_ne {f : Tid → StopPc} {m : Option Tid} {t : Tid} (h : m ≠ some t)
    (p : StopPc) : m.map (Function.update f t p) = m.map f := by
  cases m with
  | none => rfl
  | some h' =>
    have : h' ≠ t := fun e => h (e ▸ rfl)
    simp [Function.update_noteq this]

/-- The holder of `close_mutex_` moving to another line of the critical section, leaving
flags that its new line allows. -/
theorem ShutdownInv.holder {t : Tid} {p : StopPc} (r pr j : Bool) (n : Nat)
    (inv : ShutdownInv c₀ w) (hcs : (w.pc t).InCS = true) (hp : p.InCS = true)
    (hstage : w.StageOk (some (w.pc t)) → World.StageOk
      ⟨r, pr, j, w.mutex, w.ctx, w.cleaned, n, w.sampler, Function.update w.pc t p⟩ (some p))
    (hrun : w.isRunning = false → r = false) :
    ShutdownInv c₀
      ⟨r, pr, j, w.mutex, w.ctx, w.cleaned, n, w.sampler, Function.update w.pc t p⟩ := by
  have hm := (inv.mutex_held t).1 hcs
  have outside : ∀ {q : StopPc}, q.InCS = true → q ≠ .destroyed ∧ q ≠ .returned :=
    fun hq => ⟨fun h => by simp [h, StopPc.InCS] at hq, fun h => by simp [h, StopPc.InCS] at hq⟩
  exact inv.move _ _ _ _ _ (outside hcs).1 (outside hp).1
    (mutex_held_update inv.mutex_held (by simp [hp, hm]) fun _ _ => Iff.rfl)
    (by simpa [hm] using hstage (by simpa [hm] using inv.stage)) (fun h => absurd h (outside hp).2)
    hrun

theorem ShutdownInv.stop {t : Tid} {w' : World} (inv : ShutdownInv c₀ w)
    (h : w.stopStep t = some w') : ShutdownInv c₀ w' := by
  have held := inv.mutex_held
  unfold World.stopStep at h
  split at h <;> rename_i hpc
  · -- `if (!is_running_) return;`, outside the mutex
    have hne : w.mutex ≠ some t := fun hm => by simpa [hpc, StopPc.InCS] using (held t).2 hm
    cases h
    refine inv.move _ _ _ _ _ (by simp [hpc]) (by split <;> simp)
      (mutex_held_update held (by split <;> simp [StopPc.InCS, hne]) fun _ _ => Iff.rfl) ?_
      (by split <;> simp_all) id
    rw [map_update_of_ne hne]; exact inv.stage
  · -- taking `close_mutex_`
    split at h
    · rename_i hfree
      cases h
      refine inv.move _ _ _ _ _ (by simp [hpc]) (by simp) ?_ ?_ (by simp) id
      · exact mutex_held_update held (by simp [StopPc.InCS])
          fun t' ht' => by simp [hfree, Ne.symm ht']
      · simpa [hfree, World.StageOk] using inv.stage
    · cases h
  · -- re-test of `is_running_` under the mutex
    cases h
    refine inv.holder _ _ _ _ (by simp [hpc, StopPc.InCS]) (by split <;> rfl) (fun old => ?_) id
    rw [hpc] at old
    split <;> simp_all [World.StageOk, World.Running, World.Stopped]
  · -- `if (perf_logging_thread_running_)`
    cases h
    refine inv.holder _ _ _ _ (by simp [hpc, StopPc.InCS]) (by split <;> rfl) (fun old => ?_) id
    rw [hpc] at old
    split <;> simp_all [World.StageOk, World.Running]
  · -- `perf_logging_thread_running_ = false`
    cases h
    refine inv.holder _ _ _ _ (by simp [hpc, StopPc.InCS]) rfl (fun old => ?_) id
    rw [hpc] at old
    simp_all [World.StageOk, World.Running, World.Draining]
  · -- `if (perf_logging_thread_.joinable())`
    cases h
    refine inv.holder _ _ _ _ (by simp [hpc, StopPc.InCS]) (by split <;> rfl) (fun old => ?_) id
    rw [hpc] at old
    split <;> simp_all [World.StageOk, World.Draining]
  · -- `join()`, which returns once the sampler has exited
    split at h
    · cases h
      refine inv.holder _ _ _ _ (by simp [hpc, StopPc.InCS]) rfl (fun old => ?_) id
      rw [hpc] at old
      simp_all [World.StageOk, World.Draining, World.Joined]
    · cases h
  · -- `is_running_ = false`
    cases h
    refine inv.holder _ _ _ _ (by simp [hpc, StopPc.InCS]) rfl (fun old => ?_) fun _ => rfl
    rw [hpc] at old
    simp_all [World.StageOk, World.Joined, World.Stopped]
  · -- releasing `close_mutex_` and returning
    have hm : w.mutex = some t := (held t).1 (by simp [hpc, StopPc.InCS])
    have stopped : w.Stopped := by simpa [hm, hpc, World.StageOk] using inv.stage
    cases h
    exact inv.move _ _ _ _ _ (by simp [hpc]) (by simp)
      (mutex_held_update held (by simp [StopPc.InCS]) fun t' ht' => by simp [hm, Ne.symm ht'])
      (.inr stopped) (fun _ => stopped.1) id
  · -- the destructor's `utrans_clean(ctx_); ctx_ = nullptr;`
    split at h
    · have hne : w.mutex ≠ some .destructor := fun hm => by
        simpa [hpc, StopPc.InCS] using (held _).2 hm
      cases h
      have hoff := inv.done _ (.inl hpc)
      refine ⟨mutex_held_update held (by simp [StopPc.InCS, hne]) fun _ _ => Iff.rfl,
        by rw [map_update_of_ne hne]; exact inv.stage, fun t' _ => hoff, ?_,
        fun i => by simpa using inv.callers_alive i, inv.print⟩
      rcases inv.ctx with ⟨h₁, -⟩ | ⟨-, h₂, h₃⟩
      · simp [hpc] at h₁
      · simp [h₂, h₃]
    · cases h
  · cases h

theorem ShutdownInv.step {w' : World} {a : ShutdownStep} (inv : ShutdownInv c₀ w)
    (h : w.step a = some w') : ShutdownInv c₀ w' := by
  cases a with
  | sampler now last_activity => exact inv.sampler h
  | stop t => exact inv.stop h

theorem ShutdownInv.run {w' : World} (inv : ShutdownInv c₀ w) :
    ∀ {as : List ShutdownStep}, w.run as = some w' → ShutdownInv c₀ w' := by
  intro as
  induction as generalizing w with
  | nil => intro h; cases h; exact inv
  | cons a as ih =>
    intro h
    simp only [World.run, Option.bind_eq_some] at h
    obtain ⟨w₁, h₁, h₂⟩ := h
    exact ih (inv.step h₁) h₂

end Steps

/-- The engine after `Start`, with `is_running_`, a running and joinable perf thread and the
context `c₀`, satisfies the invariant. -/
theorem ShutdownInv.ofEngine {e : RDMATransporter} {c₀ : Ctx} (hrun : e.isRunning = true)
    (hperf : e.perfLoggingThreadRunning = true) (hjoin : e.perfLoggingThreadJoinable = true)
    (hctx : e.ctx = some c₀) : ShutdownInv c₀ (World.ofEngine e) :=
  ⟨fun _ => by simp [World.ofEngine, StopPc.InCS],
    .inl ⟨hrun, hperf, hjoin, rfl, by simp [World.ofEngine]⟩,
      fun _ h => by simp [World.ofEngine] at h,
    .inr ⟨by simp [World.ofEngine], hctx, rfl⟩, fun _ => by simp [World.ofEngine],
    fun _ h => by simp [World.ofEngine] at h⟩

/-- What the invariant gives about the join and the prints: at most one join; a `Stop` that
has returned did so after the join, with the sampler gone; a print happens only while no
`Stop` has returned, on the context `Start` created, none released. -/
theorem ShutdownInv.joined_before_return {c₀ : Ctx} {w : World} (inv : ShutdownInv c₀ w) :
    w.joins ≤ 1 ∧
      (∀ t, w.pc t = .returned ∨ w.pc t = .destroyed →
        w.joins = 1 ∧ w.sampler = .exited) ∧
      ∀ c, w.sampler = .print c →
        c = c₀ ∧ w.cleaned = [] ∧ ∀ t, w.pc t ≠ .returned ∧ w.pc t ≠ .destroyed := by
  refine ⟨inv.stage.joins_le, fun t ht => ?_, fun c hc => ⟨inv.print c hc, ?_⟩⟩
  · obtain ⟨-, -, -, h₁, h₂⟩ := inv.stage.stopped (inv.done t ht)
    exact ⟨h₁, h₂⟩
  · have live : w.isRunning = true := by
      by_contra hr
      have := (inv.stage.stopped (by simpa using hr)).2.2.2.2
      simp [hc] at this
    have alive : ∀ t, w.pc t ≠ .returned ∧ w.pc t ≠ .destroyed := fun t =>
      ⟨fun h => by simp [inv.done t (.inl h)] at live,
        fun h => by simp [inv.done t (.inr h)] at live⟩
    rcases inv.ctx with ⟨h₁, -⟩ | ⟨-, -, h₂⟩
    · exact absurd h₁ (alive _).2
    · exact ⟨h₂, alive⟩

/-! ## Progress and completion -/

/-- How many of its own steps the sampler has left before it exits, once
`perf_logging_thread_running_` is false: the rest of one loop body, then the loop test. -/
def SamplerPc.toExit : SamplerPc → Nat
  | .exited => 0
  | .test => 1
  | .print _ => 2
  | .checkCtx => 3
  | .sample => 4
  | .sleep => 5

/-- The sampler's steps in a schedule. -/
def ShutdownStep.IsSampler : ShutdownStep → Bool
  | .sampler .. => true
  | .stop _ => false

/-- How many of its lines a `Stop` thread at `p` has left (the destructor's `utrans_clean`
counted). -/
def StopPc.toEnd : StopPc → Nat
  | .entry => 10
  | .lock => 9
  | .recheck => 8
  | .testPerf => 7
  | .clearPerf => 6
  | .testJoinable => 5
  | .join => 4
  | .clearRunning => 3
  | .unlock => 2
  | .returned => 1
  | .destroyed => 0

theorem StopPc.toEnd_le (p : StopPc) : p.toEnd ≤ 10 := by
  cases p <;> simp [StopPc.toEnd]

/-- A thread that is done: a `Stop` caller has returned; the destructor has also run
`utrans_clean`. -/
def World.Finished (w : World) : Tid → Prop
  | .caller i => w.pc (.caller i) = .returned
  | .destructor => w.pc .destructor = .destroyed

theorem World.Finished.done {w : World} {t : Tid} (h : w.Finished t) :
    w.pc t = .returned ∨ w.pc t = .destroyed := by
  cases t
  exacts [.inl h, .inr h]

section Progress

variable {c₀ : Ctx} {w w' : World}

/-- A holder of `close_mutex_` can always take its next line, except the join while the
sampler has not exited. -/
theorem World.stopStep_holder {t : Tid} (hcs : (w.pc t).InCS = true) :
    w.stopStep t ≠ none ∨ (w.pc t = .join ∧ w.sampler ≠ .exited) := by
  unfold World.stopStep
  cases hp : w.pc t <;> simp [hp, StopPc.InCS] at hcs ⊢
  exact em _

/-- The holder of `close_mutex_` can take its next line, or it is in the join, which it
entered after clearing `perf_logging_thread_running_`, and the sampler has not exited. -/
theorem ShutdownInv.holder_progress (inv : ShutdownInv c₀ w) {h : Tid}
    (hm : w.mutex = some h) :
    w.stopStep h ≠ none ∨
      (w.pc h = .join ∧ w.sampler ≠ .exited ∧ w.perfRunning = false) := by
  refine (World.stopStep_holder ((inv.mutex_held h).2 hm)).imp_right fun ⟨hj, hs⟩ =>
    ⟨hj, hs, ?_⟩
  have stage := inv.stage
  rw [hm, Option.map_some', hj] at stage
  exact stage.2.1

/-- A thread that cannot move has returned (a caller), has run `utrans_clean` (the
destructor), or waits for the holder of `close_mutex_`, which can move or waits in the join
for the sampler. -/
theorem ShutdownInv.blocked (inv : ShutdownInv c₀ w) {t : Tid} (hb : w.stopStep t = none) :
    (w.pc t = .returned ∧ t ≠ .destructor) ∨ w.pc t = .destroyed ∨
      ∃ h, w.mutex = some h ∧
        (w.stopStep h ≠ none ∨
          (w.pc h = .join ∧ w.sampler ≠ .exited ∧ w.perfRunning = false)) := by
  by_cases hcs : (w.pc t).InCS = true
  · have hm := (inv.mutex_held t).1 hcs
    exact .inr (.inr ⟨t, hm, inv.holder_progress hm⟩)
  unfold World.stopStep at hb
  cases hp : w.pc t <;> simp only [hp, StopPc.InCS, not_true_eq_false] at hcs hb
  · cases hb
  · -- blocked on `close_mutex_`
    split at hb
    · cases hb
    · obtain ⟨h, hm⟩ := Option.ne_none_iff_exists'.1 ‹_›
      exact .inr (.inr ⟨h, hm, inv.holder_progress hm⟩)
  · cases t with
    | caller i => exact .inl ⟨rfl, nofun⟩
    | destructor => cases hb
  · exact .inr (.inl rfl)

/-- A `Stop` step leaves the sampler where it is and never sets
`perf_logging_thread_running_`. -/
theorem World.stopStep_sampler {t : Tid} (h : w.stopStep t = some w') :
    w'.sampler = w.sampler ∧ (w.perfRunning = false → w'.perfRunning = false) := by
  unfold World.stopStep at h
  split at h <;> (try split at h) <;> cases h <;> simp

/-- Once `perf_logging_thread_running_` is false it stays so, and each sampler step brings
the sampler closer to its exit. -/
theorem World.step_toExit {a : ShutdownStep} (hp : w.perfRunning = false)
    (h : w.step a = some w') :
    w'.perfRunning = false ∧
      w'.sampler.toExit + (if a.IsSampler then 1 else 0) ≤ w.sampler.toExit := by
  cases a with
  | sampler now last_activity =>
    simp only [World.step, World.samplerStep] at h
    split at h <;> cases h <;> simp [hp, SamplerPc.toExit, ShutdownStep.IsSampler, *]
    all_goals first
      | split_ifs <;> simp [SamplerPc.toExit]
      | cases w.ctx <;> simp [SamplerPc.toExit]
  | stop t =>
    obtain ⟨hs, hr⟩ := World.stopStep_sampler h
    simp [hs, hr hp, ShutdownStep.IsSampler]

theorem SamplerPc.toExit_le (s : SamplerPc) : s.toExit ≤ 5 := by
  cases s <;> simp [SamplerPc.toExit]

/-- Along any schedule from a world where `perf_logging_thread_running_` is false, the
sampler takes at most as many steps as it had left. -/
theorem World.run_toExit {as : List ShutdownStep} (hp : w.perfRunning = false)
    (h : w.run as = some w') : as.countP (·.IsSampler) + w'.sampler.toExit ≤
      w.sampler.toExit := by
  induction as generalizing w with
  | nil => cases h; simp
  | cons a as ih =>
    simp only [World.run, Option.bind_eq_some] at h
    obtain ⟨w₁, h₁, h₂⟩ := h
    obtain ⟨hp₁, hle⟩ := World.step_toExit hp h₁
    have rest := ih hp₁ h₂
    rw [List.countP_cons]
    cases hs : a.IsSampler <;> simp only [hs, Bool.false_eq_true, if_true, if_false] at hle ⊢ <;>
      omega

theorem World.run_append (as bs : List ShutdownStep) :
    w.run (as ++ bs) = (w.run as).bind fun w' => w'.run bs := by
  induction as generalizing w with
  | nil => rfl
  | cons a as ih =>
    simp only [List.cons_append, World.run]
    cases w.step a <;> simp [ih]

/-- A `Stop` step of `t` moves `t` nearer its end and no other thread, leaves the sampler, and
changes the holder of `close_mutex_` only when `t` takes it or releases it. -/
theorem World.stopStep_frame {t : Tid} (h : w.stopStep t = some w') :
    (w'.pc t).toEnd < (w.pc t).toEnd ∧ (∀ t', t' ≠ t → w'.pc t' = w.pc t') ∧
      w'.sampler = w.sampler ∧
      (w'.mutex = w.mutex ∨ w.pc t = .lock ∨ (w.pc t = .unlock ∧ w'.mutex = none)) := by
  have other : ∀ p t', t' ≠ t → Function.update w.pc t p t' = w.pc t' :=
    fun _ _ ht' => Function.update_noteq ht' _ _
  unfold World.stopStep at h
  split at h <;> rename_i hpc <;> (try split at h) <;> cases h <;>
    simp [hpc, StopPc.toEnd] <;> exact fun t' => other _ t'

/-- A sampler step moves the sampler only. -/
theorem World.samplerStep_frame {now last_activity : Int}
    (h : w.samplerStep now last_activity = some w') : w' = { w with sampler := w'.sampler } := by
  unfold World.samplerStep at h
  split at h <;> cases h <;> rfl

/-- The sampler never blocks: until it has exited it can always take its next line. -/
theorem World.samplerStep_ne_none (hs : w.sampler ≠ .exited) (now last_activity : Int) :
    w.samplerStep now last_activity ≠ none := by
  unfold World.samplerStep
  cases h : w.sampler <;> simp_all

/-- A done thread takes no more steps, and no other step moves it. -/
theorem World.step_finished {a : ShutdownStep} {t : Tid} (hf : w.Finished t)
    (h : w.step a = some w') : w'.Finished t := by
  have same : w'.pc t = w.pc t := by
    cases a with
    | sampler now last_activity => exact congrArg (fun x => x.pc t) (World.samplerStep_frame h)
    | stop t' =>
      by_cases ht : t = t'
      · subst ht
        cases t <;> simp only [World.Finished] at hf <;>
          simp [World.step, World.stopStep, hf] at h
      · exact (World.stopStep_frame h).2.1 t ht
  cases t <;> simpa only [World.Finished, same] using hf

theorem World.run_finished {t : Tid} (hf : w.Finished t) :
    ∀ {as : List ShutdownStep}, w.run as = some w' → w'.Finished t := by
  intro as
  induction as generalizing w with
  | nil => intro h; cases h; exact hf
  | cons a as ih =>
    intro h
    simp only [World.run, Option.bind_eq_some] at h
    obtain ⟨w₁, h₁, h₂⟩ := h
    exact ih (World.step_finished hf h₁) h₂

/-- The measure a schedule that finishes `t` lowers: `t`'s lines left, then those of the holder
of `close_mutex_`, then the sampler's steps to its exit. -/
def World.finishRank (w : World) (t : Tid) : Nat :=
  (w.pc t).toEnd * 100 + (w.mutex.map fun h => (w.pc h).toEnd).getD 0 * 8 + w.sampler.toExit

theorem World.holderEnd_le (w : World) : (w.mutex.map fun h => (w.pc h).toEnd).getD 0 ≤ 10 := by
  cases w.mutex <;> simp [StopPc.toEnd_le]

/-- From a reachable world, a thread that is not done has a step, of its own, of the holder
of `close_mutex_` or of the sampler, that lowers its measure. -/
theorem ShutdownInv.progress (inv : ShutdownInv c₀ w) {t : Tid} (hf : ¬w.Finished t) :
    ∃ a w', w.step a = some w' ∧ w'.finishRank t < w.finishRank t := by
  cases hs : w.stopStep t with
  | some w₁ =>
    -- `t` moves
    have hlt := (World.stopStep_frame hs).1
    have := w₁.holderEnd_le
    have := w₁.sampler.toExit_le
    exact ⟨.stop t, w₁, hs, by unfold World.finishRank; omega⟩
  | none =>
    rcases inv.blocked hs with ⟨hr, hd⟩ | hd | ⟨h, hm, hh | ⟨-, hsx, hp⟩⟩
    · cases t with
      | caller i => exact absurd hr hf
      | destructor => exact absurd rfl hd
    · cases t with
      | caller i => exact absurd hd (inv.callers_alive i)
      | destructor => exact absurd hd hf
    · -- the holder of `close_mutex_` moves
      obtain ⟨w₁, h₁⟩ := Option.ne_none_iff_exists'.1 hh
      have hne : t ≠ h := fun e => hh (e ▸ hs)
      obtain ⟨hlt, hother, hsam, hmut⟩ := World.stopStep_frame h₁
      have hcs : (w.pc h).InCS = true := (inv.mutex_held h).2 hm
      refine ⟨.stop h, w₁, h₁, ?_⟩
      simp only [World.finishRank, hother t hne, hsam, hm, Option.map_some', Option.getD_some]
      rcases hmut with hm' | hl | ⟨hu, hm'⟩
      · simp only [hm', hm, Option.map_some', Option.getD_some]; omega
      · rw [hl] at hcs; cases hcs
      · simp only [hm', hu, Option.map_none', Option.getD_none, StopPc.toEnd]; omega
    · -- the holder waits in the join: the sampler moves
      obtain ⟨w₁, h₁⟩ := Option.ne_none_iff_exists'.1 (World.samplerStep_ne_none hsx 0 0)
      have hexit := (World.step_toExit (a := .sampler 0 0) hp h₁).2
      have frame := World.samplerStep_frame h₁
      have hpc : w₁.pc = w.pc := by rw [frame]
      have hmx : w₁.mutex = w.mutex := by rw [frame]
      refine ⟨.sampler 0 0, w₁, h₁, ?_⟩
      simp only [ShutdownStep.IsSampler, if_true] at hexit
      simp only [World.finishRank, hpc, hmx]
      omega

/-- From a reachable world, some schedule finishes `t`. -/
theorem ShutdownInv.finish (inv : ShutdownInv c₀ w) (t : Tid) :
    ∃ more w', w.run more = some w' ∧ w'.Finished t := by
  obtain ⟨n, hn⟩ : ∃ n, w.finishRank t = n := ⟨_, rfl⟩
  induction n using Nat.strong_induction_on generalizing w with
  | _ n ih =>
    by_cases hf : w.Finished t
    · exact ⟨[], w, rfl, hf⟩
    · obtain ⟨a, w₁, h₁, hlt⟩ := inv.progress hf
      obtain ⟨more, w', hrun, hw'⟩ := ih _ (hn ▸ hlt) (inv.step h₁) rfl
      exact ⟨a :: more, w', by simp [World.run, h₁, hrun], hw'⟩

/-- From a reachable world, some schedule finishes every thread of `ts`. -/
theorem ShutdownInv.finish_all (inv : ShutdownInv c₀ w) (ts : List Tid) :
    ∃ more w', w.run more = some w' ∧ ∀ t ∈ ts, w'.Finished t := by
  induction ts generalizing w with
  | nil => exact ⟨[], w, rfl, nofun⟩
  | cons t ts ih =>
    obtain ⟨more₁, w₁, h₁, hf₁⟩ := inv.finish t
    obtain ⟨more₂, w₂, h₂, hf₂⟩ := ih (inv.run h₁)
    exact ⟨more₁ ++ more₂, w₂, by simp [World.run_append, h₁, h₂],
      List.forall_mem_cons.2 ⟨World.run_finished hf₁ h₂, hf₂⟩⟩

/-- Once `perf_logging_thread_running_` is false, the sampler's own steps, at most as many as
it has left, take it to its exit and move nothing else. -/
theorem World.drain_sampler (hp : w.perfRunning = false) :
    ∃ ss, ss.length ≤ w.sampler.toExit ∧ (∀ a ∈ ss, a.IsSampler = true) ∧
      w.run ss = some { w with sampler := .exited } := by
  obtain ⟨n, hn⟩ : ∃ n, w.sampler.toExit = n := ⟨_, rfl⟩
  induction n using Nat.strong_induction_on generalizing w with
  | _ n ih =>
    by_cases hx : w.sampler = .exited
    · exact ⟨[], by simp, nofun, by rw [← hx]; rfl⟩
    · obtain ⟨w₁, h₁⟩ := Option.ne_none_iff_exists'.1 (World.samplerStep_ne_none hx 0 0)
      obtain ⟨hp₁, hle⟩ := World.step_toExit (a := .sampler 0 0) hp h₁
      simp only [ShutdownStep.IsSampler, if_true] at hle
      obtain ⟨ss, hlen, hsam, hrun⟩ := ih _ (by omega) hp₁ rfl
      have frame := World.samplerStep_frame h₁
      refine ⟨.sampler 0 0 :: ss, by simp only [List.length_cons]; omega,
        List.forall_mem_cons.2 ⟨rfl, hsam⟩, ?_⟩
      simp only [World.run, World.step, h₁, Option.some_bind, hrun]
      rw [frame]

end Progress

/-- The world a `Start` that returned `true` with perf metrics on leaves, with the context
it created, satisfies the invariant. -/
theorem ShutdownInv.ofStart {e : RDMATransporter} {kBindPortMaxRetry : Nat} {host : Host}
    {backend : StartBackend} {options : Options}
    (hstart : (e.start kBindPortMaxRetry host backend options).result = .ok true)
    (hperf : options.transferEngineEnablePerfMetrics = true) :
    ∃ c₀, (e.start kBindPortMaxRetry host backend options).state.ctx = some c₀ ∧
      ShutdownInv c₀ (World.ofEngine (e.start kBindPortMaxRetry host backend options).state) := by
  obtain ⟨h₁, h₂, h₃, h₄⟩ :=
    start_perf_started e kBindPortMaxRetry host backend options hstart hperf
  obtain ⟨c₀, hc₀⟩ := Option.isSome_iff_exists.1 h₄
  exact ⟨c₀, hc₀, .ofEngine h₁ h₂ h₃ hc₀⟩

/-! ## The teardown -/

/-- One interleaving of the teardown after a `Start`: two `Stop` callers and the destructor
with the sampler. Caller 0 takes the mutex and joins while the sampler prints once and exits;
caller 1 and the destructor wait on the mutex, then find `is_running_` false; the destructor
then runs `utrans_clean`. -/
def teardownSchedule : List ShutdownStep :=
  let c₀ := ShutdownStep.stop (.caller 0)
  let c₁ := ShutdownStep.stop (.caller 1)
  let d := ShutdownStep.stop .destructor
  let s := ShutdownStep.sampler 0 0
  [c₀, c₁, s, c₀, d, s, c₀, s, c₀, s, c₀, c₀,
    s, s, c₀, c₀, c₀, c₁, c₁, c₁, d, d, d, d]

/-- The teardown law. After a `Start` that returned `true` with perf metrics enabled, along
every interleaving of the sampler with any number of `Stop` calls and the destructor: the
sampler is joined at most once; every `Stop`, including one that returned at its unlocked
test or at the re-test under the mutex, and the destructor's, returns only after the join
completed and the sampler exited; `utrans_print_perf_info` is called only while no `Stop`
has returned, on the context `Start` created, before any `utrans_clean`. And from every point
of every interleaving the teardown can complete: some schedule lets every `Stop` caller of
any list return and the destructor finish, and then the sampler has been joined exactly
once. -/
theorem perf_thread_joined_before_stop_returns (e : RDMATransporter) (kBindPortMaxRetry : Nat)
    (host : Host) (backend : StartBackend) (options : Options)
    (hstart : (e.start kBindPortMaxRetry host backend options).result = .ok true)
    (hperf : options.transferEngineEnablePerfMetrics = true) (steps : List ShutdownStep)
    {w : World}
    (hrun : (World.ofEngine (e.start kBindPortMaxRetry host backend options).state).run steps =
      some w) :
    w.joins ≤ 1 ∧
      (∀ t, w.pc t = .returned ∨ w.pc t = .destroyed →
        w.joins = 1 ∧ w.sampler = .exited) ∧
      (∀ c, w.sampler = .print c →
        (e.start kBindPortMaxRetry host backend options).state.ctx = some c ∧ w.cleaned = [] ∧
          ∀ t, w.pc t ≠ .returned ∧ w.pc t ≠ .destroyed) ∧
      ∀ ts : List Tid, ∃ more w', w.run more = some w' ∧ (∀ t ∈ ts, w'.Finished t) ∧
        (ts ≠ [] → w'.joins = 1) := by
  obtain ⟨c₀, hc₀, inv⟩ := ShutdownInv.ofStart hstart hperf
  have inv := inv.run hrun
  obtain ⟨hj, hret, hprint⟩ := inv.joined_before_return
  refine ⟨hj, hret, fun c hc => ?_, fun ts => ?_⟩
  · obtain ⟨rfl, hcl, halive⟩ := hprint c hc
    exact ⟨hc₀, hcl, halive⟩
  · obtain ⟨more, w', hw', hdone⟩ := inv.finish_all ts
    refine ⟨more, w', hw', hdone, fun hne => ?_⟩
    obtain ⟨t, ht⟩ := List.exists_mem_of_ne_nil ts hne
    exact ((inv.run hw').joined_before_return.2.1 t (hdone t ht).done).1

theorem perf_thread_joined_after_start :
    let options : Options := ⟨"", 19000, true, 1000, 1000, 4, false, true, 500, 2, 0, 2, 0⟩
    let o := (RDMATransporter.init options).start 5 ⟨"host", 1, "", fun _ => none, 0⟩
      ⟨some 7, fun _ => .ok⟩ options
    let w₀ := World.ofEngine o.state
    let w := (w₀.run teardownSchedule).getD w₀
    o.result = .ok true ∧ options.transferEngineEnablePerfMetrics = true ∧
      w₀.run teardownSchedule = some w ∧
      (w.joins ≤ 1 ∧
        (∀ t, w.pc t = .returned ∨ w.pc t = .destroyed →
          w.joins = 1 ∧ w.sampler = .exited) ∧
        (∀ c, w.sampler = .print c →
          o.state.ctx = some c ∧ w.cleaned = [] ∧
            ∀ t, w.pc t ≠ .returned ∧ w.pc t ≠ .destroyed) ∧
        ∀ ts : List Tid, ∃ more w', w.run more = some w' ∧ (∀ t ∈ ts, w'.Finished t) ∧
          (ts ≠ [] → w'.joins = 1)) :=
  ⟨rfl, rfl, rfl, perf_thread_joined_before_stop_returns
    (.init ⟨"", 19000, true, 1000, 1000, 4, false, true, 500, 2, 0, 2, 0⟩) 5
    ⟨"host", 1, "", fun _ => none, 0⟩ ⟨some 7, fun _ => .ok⟩
    ⟨"", 19000, true, 1000, 1000, 4, false, true, 500, 2, 0, 2, 0⟩ rfl rfl
    teardownSchedule rfl⟩

/-- The concurrent teardown refines the sequential `Stop`: once any `Stop` has returned, the
flags are those `Stop` run alone leaves on the started engine, after as many joins. -/
theorem shutdown_refines_stop {e : RDMATransporter} {c₀ : Ctx} (hrun : e.isRunning = true)
    (hperf : e.perfLoggingThreadRunning = true) (hjoin : e.perfLoggingThreadJoinable = true)
    (hctx : e.ctx = some c₀) {steps : List ShutdownStep} {w : World}
    (h : (World.ofEngine e).run steps = some w) {t : Tid} (ht : w.pc t = .returned) :
    w.isRunning = e.stop.state.isRunning ∧
      w.perfRunning = e.stop.state.perfLoggingThreadRunning ∧
      w.joinable = e.stop.state.perfLoggingThreadJoinable ∧ w.joins = e.stop.effects.length := by
  have inv := (ShutdownInv.ofEngine hrun hperf hjoin hctx).run h
  obtain ⟨h₁, h₂, h₃, h₄, -⟩ := inv.stage.stopped (inv.done t (.inl ht))
  simp [RDMATransporter.stop, hrun, hperf, hjoin, h₁, h₂, h₃, h₄]

theorem shutdown_refines_stop_one_caller :
    let options : Options := ⟨"", 19000, true, 1000, 1000, 4, false, true, 500, 2, 0, 2, 0⟩
    let e := ((RDMATransporter.init options).start 5 ⟨"host", 1, "", fun _ => none, 0⟩
      ⟨some 7, fun _ => .ok⟩ options).state
    let c := Tid.caller 0
    let steps : List ShutdownStep := [.stop c, .stop c, .stop c, .stop c, .stop c, .stop c,
      .sampler 0 0, .stop c, .stop c, .stop c]
    let w := ((World.ofEngine e).run steps).getD (World.ofEngine e)
    e.isRunning = true ∧ e.perfLoggingThreadRunning = true ∧
      e.perfLoggingThreadJoinable = true ∧
      e.ctx = some 7 ∧ (World.ofEngine e).run steps = some w ∧ w.pc c = .returned ∧
      (w.isRunning = e.stop.state.isRunning ∧
        w.perfRunning = e.stop.state.perfLoggingThreadRunning ∧
        w.joinable = e.stop.state.perfLoggingThreadJoinable ∧ w.joins = e.stop.effects.length) :=
  ⟨rfl, rfl, rfl, rfl, rfl, rfl, @shutdown_refines_stop _ 7 rfl rfl rfl rfl
    [.stop (.caller 0), .stop (.caller 0), .stop (.caller 0), .stop (.caller 0), .stop (.caller 0),
      .stop (.caller 0), .sampler 0 0, .stop (.caller 0), .stop (.caller 0), .stop (.caller 0)]
    _ rfl (.caller 0) rfl⟩

section Teardown

variable (e : RDMATransporter) (kBindPortMaxRetry : Nat) (host : Host) (backend : StartBackend)
  (options : Options)

/-- `utrans_clean` runs only after the join: along every interleaving of the sampler with
any number of `Stop` calls and the destructor, after a `Start` that returned `true` with
perf metrics on, once the destructor has released the context `is_running_` is false, the
sampler has been joined once and has exited, and the context released is the one `Start`
created, with `ctx_` null. -/
theorem utrans_clean_after_join
    (hstart : (e.start kBindPortMaxRetry host backend options).result = .ok true)
    (hperf : options.transferEngineEnablePerfMetrics = true) (steps : List ShutdownStep)
    {w : World}
    (hrun : (World.ofEngine (e.start kBindPortMaxRetry host backend options).state).run steps =
      some w) :
    w.cleaned ≠ [] → w.isRunning = false ∧ w.joins = 1 ∧ w.sampler = .exited ∧
      ∃ c, (e.start kBindPortMaxRetry host backend options).state.ctx = some c ∧
        w.cleaned = [c] ∧ w.ctx = none := by
  obtain ⟨c₀, hc₀, inv⟩ := ShutdownInv.ofStart hstart hperf
  have inv := inv.run hrun
  intro hcl
  rcases inv.ctx with ⟨hd, h₁, h₂⟩ | ⟨-, -, h₂⟩
  · have off := inv.done _ (.inr hd)
    obtain ⟨-, -, -, hj, hs⟩ := inv.stage.stopped off
    exact ⟨off, hj, hs, c₀, hc₀, h₂, h₁⟩
  · exact absurd h₂ hcl

theorem utrans_clean_after_join_teardown :
    let options : Options := ⟨"", 19000, true, 1000, 1000, 4, false, true, 500, 2, 0, 2, 0⟩
    let o := (RDMATransporter.init options).start 5 ⟨"host", 1, "", fun _ => none, 0⟩
      ⟨some 7, fun _ => .ok⟩ options
    let w₀ := World.ofEngine o.state
    let w := (w₀.run teardownSchedule).getD w₀
    o.result = .ok true ∧ options.transferEngineEnablePerfMetrics = true ∧
      w₀.run teardownSchedule = some w ∧ w.cleaned ≠ [] ∧
      (w.cleaned ≠ [] → w.isRunning = false ∧ w.joins = 1 ∧ w.sampler = .exited ∧
        ∃ c, o.state.ctx = some c ∧ w.cleaned = [c] ∧ w.ctx = none) :=
  ⟨rfl, rfl, rfl, by decide, utrans_clean_after_join
    (.init ⟨"", 19000, true, 1000, 1000, 4, false, true, 500, 2, 0, 2, 0⟩) 5
    ⟨"host", 1, "", fun _ => none, 0⟩ ⟨some 7, fun _ => .ok⟩
    ⟨"", 19000, true, 1000, 1000, 4, false, true, 500, 2, 0, 2, 0⟩ rfl rfl
    teardownSchedule rfl⟩

/-- Joining the sampler under `close_mutex_` cannot deadlock. Along every such interleaving
the sampler can always take its next line until it has exited, and each `Stop` thread can
take its next line, or has finished, or waits for the holder of the mutex, which can move
or is in the join. In the join, the sampler's own next steps, at most five, let the join
return, and no schedule makes the join wait for more than five sampler steps, since the
sampler never takes the mutex and `perf_logging_thread_running_` is already false. -/
theorem stop_never_deadlocks
    (hstart : (e.start kBindPortMaxRetry host backend options).result = .ok true)
    (hperf : options.transferEngineEnablePerfMetrics = true) (steps : List ShutdownStep)
    {w : World}
    (hrun : (World.ofEngine (e.start kBindPortMaxRetry host backend options).state).run steps =
      some w) :
    (w.sampler ≠ .exited → ∀ now last_activity, w.samplerStep now last_activity ≠ none) ∧
    ∀ t, w.stopStep t ≠ none ∨ (w.pc t = .returned ∧ t ≠ .destructor) ∨
      w.pc t = .destroyed ∨
      ∃ h, w.mutex = some h ∧
        (w.stopStep h ≠ none ∨ (w.pc h = .join ∧ w.sampler ≠ .exited ∧
        (∀ more w', w.run more = some w' → more.countP (·.IsSampler) ≤ 5) ∧
        ∃ ss w', ss.length ≤ 5 ∧ (∀ a ∈ ss, a.IsSampler = true) ∧ w.run ss = some w' ∧
          w'.stopStep h ≠ none)) := by
  obtain ⟨c₀, -, inv⟩ := ShutdownInv.ofStart hstart hperf
  have inv := inv.run hrun
  refine ⟨fun hs => World.samplerStep_ne_none hs, fun t => ?_⟩
  by_cases hb : w.stopStep t = none
  · refine .inr ((inv.blocked hb).imp_right (Or.imp_right fun ⟨h, hm, hh⟩ => ⟨h, hm, ?_⟩))
    refine hh.imp_right fun ⟨hj, hs, hp⟩ => ⟨hj, hs, fun more w' hw =>
      (Nat.le_of_add_right_le (World.run_toExit hp hw)).trans w.sampler.toExit_le, ?_⟩
    obtain ⟨ss, hlen, hsam, hss⟩ := World.drain_sampler hp
    exact ⟨ss, _, hlen.trans w.sampler.toExit_le, hsam, hss, by simp [World.stopStep, hj]⟩
  · exact .inl hb

theorem stop_never_deadlocks_in_join :
    let options : Options := ⟨"", 19000, true, 1000, 1000, 4, false, true, 500, 2, 0, 2, 0⟩
    let o := (RDMATransporter.init options).start 5 ⟨"host", 1, "", fun _ => none, 0⟩
      ⟨some 7, fun _ => .ok⟩ options
    let w₀ := World.ofEngine o.state
    let steps := teardownSchedule.take 12
    let w := (w₀.run steps).getD w₀
    o.result = .ok true ∧ options.transferEngineEnablePerfMetrics = true ∧
      w₀.run steps = some w ∧ w.pc (.caller 0) = .join ∧ w.sampler = .print 7 ∧
      w.pc (.caller 1) = .lock ∧ w.pc .destructor = .lock ∧
      ((w.sampler ≠ .exited → ∀ now last_activity,
        w.samplerStep now last_activity ≠ none) ∧
      ∀ t, w.stopStep t ≠ none ∨ (w.pc t = .returned ∧ t ≠ .destructor) ∨
        w.pc t = .destroyed ∨
        ∃ h, w.mutex = some h ∧
          (w.stopStep h ≠ none ∨ (w.pc h = .join ∧ w.sampler ≠ .exited ∧
          (∀ more w', w.run more = some w' → more.countP (·.IsSampler) ≤ 5) ∧
          ∃ ss w', ss.length ≤ 5 ∧ (∀ a ∈ ss, a.IsSampler = true) ∧
            w.run ss = some w' ∧ w'.stopStep h ≠ none))) :=
  ⟨rfl, rfl, rfl, rfl, rfl, rfl, rfl, stop_never_deadlocks
    (.init ⟨"", 19000, true, 1000, 1000, 4, false, true, 500, 2, 0, 2, 0⟩) 5
    ⟨"host", 1, "", fun _ => none, 0⟩ ⟨some 7, fun _ => .ok⟩
    ⟨"", 19000, true, 1000, 1000, 4, false, true, 500, 2, 0, 2, 0⟩ rfl rfl
    (teardownSchedule.take 12) rfl⟩

end Teardown

end AstateRdma
