import Mathlib.Logic.Function.Basic
import AstateRdma.Transfer

/-!
# The activity timestamp under concurrent transfers

A `Send` or `Receive` that passes its guards reads the system clock and then stores the
reading into the atomic `last_send_receive_time_`; the perf sampler prints only when its own
reading is less than 1000 ms past the stored one. The read and the store are two atomic
steps, so the steps of concurrent transfers interleave in any order. The clock only moves
forward.

* `send_stamp` — `Send` and `Receive` store their clock reading and nothing else;
* `ActivityInv.step`, `ActivityInv.run` — along every run the stamp and every reading a transfer
  holds are at most the clock, and the stamp is 0 or the reading of a transfer that stored;
* `stamp_is_last_store` — the stamp is 0 until the first store, then the reading of the
  transfer that stored last, and the store step is what `Send` and `Receive` write;
* `stamp_goes_back` — a run in which the stamp decreases and the sampler skips a tick that
  follows a transfer started 950 ms earlier.
-/

namespace AstateRdma

/-- `Send` and `Receive` store the clock reading they are given into
`last_send_receive_time_` once their guards pass, and otherwise leave the engine as it was. -/
theorem send_stamp (e : RDMATransporter) (now : Int) (local_addr : Ptr) (size : UInt64)
    (remote_host : String) (remote_port : Int) (extend_info : Option ExtendInfo)
    (backend : Nat → Attempt) :
    let s := e.send now local_addr size remote_host remote_port extend_info backend
    let r := e.receive now local_addr size remote_host remote_port extend_info backend
    (s.state = e ∨ s.state = { e with lastSendReceiveTime := now }) ∧
      (r.state = e ∨ r.state = { e with lastSendReceiveTime := now }) := by
  constructor
  · rcases send_cases e now local_addr size remote_host remote_port extend_info backend with
      ⟨_, -, hs⟩ | ⟨_, _, -, -, hs⟩ <;> rw [hs]
    exacts [.inl rfl, .inr rfl]
  · rcases receive_cases e now local_addr size remote_host remote_port extend_info backend with
      ⟨_, -, hs⟩ | ⟨_, _, -, -, hs⟩ <;> rw [hs]
    exacts [.inl rfl, .inr rfl]

/-- The sampler's test in `PerfMetricsLoggingThread`: activity within the last second. -/
def recentActivity (now last_activity : Int) : Bool :=
  now - last_activity < 1000

/-- Where one transfer is in its stamp: not started, holding its clock reading, or done
(with the reading it stored). -/
inductive StampPc where
  | idle
  | read (now : Int)
  | stored (now : Int)
  deriving DecidableEq, Repr

/-- The clock, `last_send_receive_time_`, and each transfer's progress. -/
structure ActivityState where
  clock : Int
  lastSendReceiveTime : Int
  pc : Nat → StampPc

/-- A constructed engine (`last_send_receive_time_{0}`) with the clock at `start` and no
transfer begun. -/
def ActivityState.init (start : Nat) : ActivityState :=
  ⟨start, 0, fun _ => .idle⟩

/-- One atomic step: the clock moves to `t`, transfer `i` reads the clock, or transfer `i`
stores its reading. -/
inductive ActivityStep where
  | advance (t : Int)
  | readClock (i : Nat)
  | store (i : Nat)
  deriving DecidableEq, Repr

/-- The step, `none` when it is not enabled: the clock never goes back, and each transfer
reads once and then stores once. -/
def ActivityState.step (s : ActivityState) : ActivityStep → Option ActivityState
  | .advance t => if s.clock ≤ t then some { s with clock := t } else none
  | .readClock i =>
    match s.pc i with
    | .idle => some { s with pc := Function.update s.pc i (.read s.clock) }
    | _ => none
  | .store i =>
    match s.pc i with
    | .read now =>
      some { s with lastSendReceiveTime := now, pc := Function.update s.pc i (.stored now) }
    | _ => none

/-- A schedule of steps, `none` when one of them is not enabled. -/
def ActivityState.run (s : ActivityState) : List ActivityStep → Option ActivityState
  | [] => some s
  | a :: as => (s.step a).bind fun s' => s'.run as

theorem ActivityState.run_append (s : ActivityState) (as bs : List ActivityStep) :
    s.run (as ++ bs) = (s.run as).bind fun s' => s'.run bs := by
  induction as generalizing s with
  | nil => rfl
  | cons a as ih =>
    simp only [List.cons_append, run]
    cases s.step a <;> simp [ih]

/-- A transfer holding a reading can store it, and the stamp becomes that reading. -/
theorem ActivityState.step_store {s : ActivityState} {i : Nat} {now : Int}
    (h : s.pc i = .read now) :
    ∃ s', s.step (.store i) = some s' ∧ s'.lastSendReceiveTime = now := by
  simp [ActivityState.step, h]

/-! ## What every run keeps -/

/-- The readings a transfer holds or stored, and the stamp, never exceed the clock, and the
stamp is 0 or the reading of a transfer that stored. -/
structure ActivityInv (s : ActivityState) : Prop where
  stamp_le : s.lastSendReceiveTime ≤ s.clock
  reading_le : ∀ i t, s.pc i = .read t ∨ s.pc i = .stored t → t ≤ s.clock
  stamp_stored : s.lastSendReceiveTime = 0 ∨ ∃ i, s.pc i = .stored s.lastSendReceiveTime

theorem ActivityInv.init (start : Nat) : ActivityInv (ActivityState.init start) :=
  ⟨by show (0 : Int) ≤ start; omega, fun _ _ h => by simp [ActivityState.init] at h, .inl rfl⟩

theorem ActivityInv.step {s s' : ActivityState} {a : ActivityStep} (inv : ActivityInv s)
    (h : s.step a = some s') : ActivityInv s' := by
  cases a with
  | advance t =>
    simp only [ActivityState.step] at h
    split at h
    · cases h
      exact ⟨by have := inv.stamp_le; simp only; omega,
        fun i r hr => by have := inv.reading_le i r hr; simp only; omega, inv.stamp_stored⟩
    · cases h
  | readClock i =>
    simp only [ActivityState.step] at h
    split at h
    · rename_i hidle
      cases h
      refine ⟨inv.stamp_le, fun j r hr => ?_, ?_⟩
      · dsimp only at hr ⊢
        by_cases hj : j = i
        · subst hj; simp only [Function.update_same] at hr; simp_all
        · rw [Function.update_noteq hj] at hr; exact inv.reading_le j r hr
      · rcases inv.stamp_stored with h0 | ⟨j, hj⟩
        · exact .inl h0
        · refine .inr ⟨j, ?_⟩
          have : j ≠ i := fun h => by simp_all
          simpa [Function.update_noteq this] using hj
    · cases h
  | store i =>
    simp only [ActivityState.step] at h
    split at h
    · rename_i now hread
      cases h
      have hnow := inv.reading_le i now (.inl hread)
      refine ⟨hnow, fun j r hr => ?_, .inr ⟨i, by simp⟩⟩
      dsimp only at hr ⊢
      by_cases hj : j = i
      · subst hj; simp only [Function.update_same] at hr; simp_all
      · rw [Function.update_noteq hj] at hr; exact inv.reading_le j r hr
    · cases h

theorem ActivityInv.run {s s' : ActivityState} (inv : ActivityInv s) :
    ∀ {as : List ActivityStep}, s.run as = some s' → ActivityInv s' := by
  intro as
  induction as generalizing s with
  | nil => intro h; cases h; exact inv
  | cons a as ih =>
    intro h
    simp only [ActivityState.run, Option.bind_eq_some] at h
    obtain ⟨t, ht, hrun⟩ := h
    exact ih (inv.step ht) hrun

/-- A step that is not a store keeps the stamp and every stored reading. -/
theorem ActivityState.step_keeps_stores {s s' : ActivityState} {a : ActivityStep}
    (ha : ∀ j, a ≠ .store j) (h : s.step a = some s') :
    s'.lastSendReceiveTime = s.lastSendReceiveTime ∧
      ∀ i t, s.pc i = .stored t → s'.pc i = .stored t := by
  cases a with
  | advance t =>
    simp only [step] at h
    split at h <;> cases h
    exact ⟨rfl, fun _ _ hi => hi⟩
  | readClock j =>
    simp only [step] at h
    split at h
    · rename_i hidle
      cases h
      refine ⟨rfl, fun i t hi => ?_⟩
      have : i ≠ j := fun hij => by simp_all
      simpa [Function.update_noteq this] using hi
    · cases h
  | store j => exact absurd rfl (ha j)

theorem ActivityState.run_keeps_stores {s s' : ActivityState} :
    ∀ {as : List ActivityStep}, (∀ j, .store j ∉ as) → s.run as = some s' →
      s'.lastSendReceiveTime = s.lastSendReceiveTime ∧
        ∀ i t, s.pc i = .stored t → s'.pc i = .stored t := by
  intro as
  induction as generalizing s with
  | nil => intro _ h; cases h; exact ⟨rfl, fun _ _ hi => hi⟩
  | cons a as ih =>
    intro hs h
    simp only [run, Option.bind_eq_some] at h
    obtain ⟨t, ht, hrun⟩ := h
    have step := step_keeps_stores (fun j hj => hs j (hj ▸ List.mem_cons_self _ _)) ht
    have rest := ih (fun j hj => hs j (List.mem_cons_of_mem _ hj)) hrun
    exact ⟨rest.1.trans step.1, fun i r hi => rest.2 i r (step.2 i r hi)⟩

/-! ## The stamp -/

/-- Along every run from a constructed engine the invariant holds; the stamp is 0 until the
first store, and then the reading stored by the transfer that stored last: a later store of
an older reading replaces a newer one. The store step is what `Send` and `Receive` do to
`last_send_receive_time_`: from an engine whose stamp is the run's, a transfer holding the
reading `now` either stops at a guard and leaves the stamp, or leaves the stamp its store step
gives. -/
theorem stamp_is_last_store (start : Nat) (steps : List ActivityStep) {s : ActivityState}
    (h : (ActivityState.init start).run steps = some s) :
    ActivityInv s ∧ ((∀ i, .store i ∉ steps) → s.lastSendReceiveTime = 0) ∧
      (∀ pre i post, steps = pre ++ .store i :: post →
        (∀ j, .store j ∉ post) → s.pc i = .stored s.lastSendReceiveTime) ∧
      ∀ i now, s.pc i = .read now → ∀ e : RDMATransporter,
        e.lastSendReceiveTime = s.lastSendReceiveTime →
        ∀ local_addr size remote_host remote_port extend_info backend,
          let o := e.send now local_addr size remote_host remote_port extend_info backend
          let o' := e.receive now local_addr size remote_host remote_port extend_info backend
          (o.state.lastSendReceiveTime = s.lastSendReceiveTime ∨
            ∃ s', s.step (.store i) = some s' ∧
              o.state.lastSendReceiveTime = s'.lastSendReceiveTime) ∧
          (o'.state.lastSendReceiveTime = s.lastSendReceiveTime ∨
            ∃ s', s.step (.store i) = some s' ∧
              o'.state.lastSendReceiveTime = s'.lastSendReceiveTime) := by
  refine ⟨(ActivityInv.init start).run h, fun hs => (ActivityState.run_keeps_stores hs h).1,
    fun pre i post hsteps hpost => ?_, fun i now hread e he _ _ _ _ _ _ => ?_⟩
  · subst hsteps
    rw [ActivityState.run_append, Option.bind_eq_some] at h
    obtain ⟨s₁, -, h⟩ := h
    simp only [ActivityState.run, ActivityState.step, Option.bind_eq_some] at h
    obtain ⟨s₂, hstore, hpostRun⟩ := h
    split at hstore
    · rename_i now _
      cases hstore
      obtain ⟨hlast, hkeep⟩ := ActivityState.run_keeps_stores hpost hpostRun
      rw [hlast]
      exact hkeep i now (by simp)
    · cases hstore
  · obtain ⟨s', hs', hlast⟩ := ActivityState.step_store hread
    have tie : ∀ o : RDMATransporter, (o = e ∨ o = { e with lastSendReceiveTime := now }) →
        o.lastSendReceiveTime = s.lastSendReceiveTime ∨
          ∃ s', s.step (.store i) = some s' ∧ o.lastSendReceiveTime =
            s'.lastSendReceiveTime := by
      rintro o (rfl | rfl)
      exacts [.inl he, .inr ⟨s', hs', hlast.symm⟩]
    obtain ⟨hsend, hrecv⟩ := send_stamp e now _ _ _ _ _ _
    exact ⟨tie _ hsend, tie _ hrecv⟩

theorem stamp_is_last_store_interleaved :
    let steps : List ActivityStep := [.advance 100, .readClock 0, .advance 200, .readClock 1,
      .store 1, .advance 250, .readClock 2, .store 0]
    let s := ((ActivityState.init 0).run steps).getD (ActivityState.init 0)
    (ActivityState.init 0).run steps = some s ∧ s.lastSendReceiveTime = 100 ∧
      s.pc 2 = .read 250 ∧
      (ActivityInv s ∧ ((∀ i, .store i ∉ steps) → s.lastSendReceiveTime = 0) ∧
        (∀ pre i post, steps = pre ++ .store i :: post →
          (∀ j, .store j ∉ post) → s.pc i = .stored s.lastSendReceiveTime) ∧
        ∀ i now, s.pc i = .read now → ∀ e : RDMATransporter,
          e.lastSendReceiveTime = s.lastSendReceiveTime →
          ∀ local_addr size remote_host remote_port extend_info backend,
            let o := e.send now local_addr size remote_host remote_port extend_info backend
            let o' := e.receive now local_addr size remote_host remote_port extend_info backend
            (o.state.lastSendReceiveTime = s.lastSendReceiveTime ∨
              ∃ s', s.step (.store i) = some s' ∧
                o.state.lastSendReceiveTime = s'.lastSendReceiveTime) ∧
            (o'.state.lastSendReceiveTime = s.lastSendReceiveTime ∨
              ∃ s', s.step (.store i) = some s' ∧
                o'.state.lastSendReceiveTime = s'.lastSendReceiveTime)) :=
  ⟨rfl, rfl, rfl, stamp_is_last_store 0 [.advance 100, .readClock 0, .advance 200, .readClock 1,
    .store 1, .advance 250, .readClock 2, .store 0] rfl⟩

/-- Transfer 0 reads the clock at 100, transfer 1 at 200; 1 stores, then 0 stores: the
stamp goes from 200 back to 100, and at 1150 the sampler finds no recent activity though
transfer 1 started 950 ms earlier. -/
theorem stamp_goes_back :
    let run := (ActivityState.init 0).run
    let reads : List ActivityStep := [.advance 100, .readClock 0, .advance 200, .readClock 1]
    (run (reads ++ [.store 1])).map (·.lastSendReceiveTime) = some 200 ∧
      (run (reads ++ [.store 1, .store 0])).map (·.lastSendReceiveTime) = some 100 ∧
      (run (reads ++ [.store 1, .store 0, .advance 1150])).map
        (fun s => recentActivity s.clock s.lastSendReceiveTime) = some false ∧
      recentActivity 1150 200 = true := by
  decide

end AstateRdma
