import AstateRdma.Backend

/-!
# The retry runner

`RetryUtils::Retry`, `CountingRetry` and `CountingAndSleepRetryPolicy` are used by the
engine but are not part of the sources, so the runner is modelled from the spec
(section 4.5): it invokes the body; a normal return stops it; a `NonRetryableException`
is rethrown at once; any other exception is followed by a sleep and another attempt
until the policy's retries are used up, and then the last exception surfaces.

* `retryFrom_of_ok`, `retryFrom_of_retryable`, `retryFrom_of_nonRetryable` — the three
  ways one attempt ends;
* `retryFrom_inv` — a property of attempt outcomes that survives "failed attempt, sleep,
  the rest of the run" holds of the whole run. Every trace law about `Send`, `Receive`
  and the port scan is an instance;
* `retryFrom_foldlM` — a monitor that every attempt and the sleep leave where they found
  it accepts the whole run;
* `retryFrom_countP_le` — a run makes at most one attempt more than its allowance;
* `retryFrom_reaches_ok` — a run whose allowance covers the failures before a success
  returns that success.
-/

namespace AstateRdma

/-- Modelled from the spec: a retry policy, as the runner consults it after a failed
attempt — how many retries it allows in all, and the sleep before each. -/
structure RetryPolicy where
  retries : Nat
  sleepMs : Int
  deriving DecidableEq, Repr

/-- Modelled from the spec: `CountingRetry(N)`, up to `N` retries with zero sleep. -/
def countingRetry (n : Int) : RetryPolicy :=
  ⟨n.toNat, 0⟩

/-- Modelled from the spec: `CountingAndSleepRetryPolicy(retry_count, retry_sleep_ms)`. -/
def countingAndSleepRetryPolicy (retryCount retrySleepMs : Int) : RetryPolicy :=
  ⟨retryCount.toNat, retrySleepMs⟩

/-- Modelled from the spec: the loop of `RetryUtils::Retry`. `f i s` is attempt `i` from
state `s` (the body's captured variables); `left` retries remain. -/
def retryFrom {σ α : Type} (sleepMs : Int) (f : Nat → σ → Outcome σ α) :
    Nat → Nat → σ → Outcome σ α
  | 0, i, s => f i s
  | left + 1, i, s =>
    let r := f i s
    match r.result with
    | .ok _ => r
    | .error ex =>
      if ex.IsNonRetryable then r
      else
        let rest := retryFrom sleepMs f left (i + 1) r.state
        ⟨r.effects ++ Effect.sleepFor sleepMs :: rest.effects, rest.result, rest.state⟩

/-- Modelled from the spec: `RetryUtils::Retry(name, f, policy)`. -/
def retry {σ α : Type} (f : Nat → σ → Outcome σ α) (policy : RetryPolicy) (s : σ) :
    Outcome σ α :=
  retryFrom policy.sleepMs f policy.retries 0 s

section Runner

variable {σ α : Type} {sleepMs : Int} {f : Nat → σ → Outcome σ α}

@[simp] theorem retryFrom_zero (i : Nat) (s : σ) : retryFrom sleepMs f 0 i s = f i s := rfl

theorem retryFrom_of_ok {left i : Nat} {s : σ} {a : α} (h : (f i s).result = .ok a) :
    retryFrom sleepMs f (left + 1) i s = f i s := by
  simp only [retryFrom, h]

theorem retryFrom_of_retryable {left i : Nat} {s : σ} {ex : Exn}
    (h : (f i s).result = .error ex) (hr : ex.IsNonRetryable = false) :
    retryFrom sleepMs f (left + 1) i s =
      ⟨(f i s).effects ++ Effect.sleepFor sleepMs ::
          (retryFrom sleepMs f left (i + 1) (f i s).state).effects,
        (retryFrom sleepMs f left (i + 1) (f i s).state).result,
        (retryFrom sleepMs f left (i + 1) (f i s).state).state⟩ := by
  simp only [retryFrom, h, hr, Bool.false_eq_true, if_false]

theorem retryFrom_of_nonRetryable {left i : Nat} {s : σ} {ex : Exn}
    (h : (f i s).result = .error ex) (hr : ex.IsNonRetryable = true) :
    retryFrom sleepMs f (left + 1) i s = f i s := by
  simp only [retryFrom, h, hr, if_true]

/-- An attempt that returns normally is the whole run, whatever the allowance. -/
theorem retryFrom_of_ok_any {left i : Nat} {s : σ} {a : α} (h : (f i s).result = .ok a) :
    retryFrom sleepMs f left i s = f i s := by
  cases left with
  | zero => rfl
  | succ left => exact retryFrom_of_ok h

/-- Renaming the effects of every attempt (leaving sleeps alone) renames those of the run. -/
theorem retryFrom_map (φ : Effect → Effect) (hφ : φ (.sleepFor sleepMs) = .sleepFor sleepMs)
    {g : Nat → σ → Outcome σ α}
    (hfg : ∀ i s, g i s = ⟨(f i s).effects.map φ, (f i s).result, (f i s).state⟩) :
    ∀ left i s, retryFrom sleepMs g left i s =
      ⟨(retryFrom sleepMs f left i s).effects.map φ, (retryFrom sleepMs f left i s).result,
        (retryFrom sleepMs f left i s).state⟩ := by
  intro left
  induction left with
  | zero => exact hfg
  | succ left ih =>
    intro i s
    have hg := hfg i s
    cases h : (f i s).result with
    | ok a =>
      rw [retryFrom_of_ok h, retryFrom_of_ok (by rw [hg]; exact h), hg]
    | error ex =>
      cases hr : ex.IsNonRetryable
      · rw [retryFrom_of_retryable h hr, retryFrom_of_retryable (by rw [hg]; exact h) hr, hg]
        simp only [ih, List.map_append, List.map_cons, hφ]
      · rw [retryFrom_of_nonRetryable h hr,
          retryFrom_of_nonRetryable (by rw [hg]; exact h) hr, hg]

/-- The runner's induction principle: a property of single attempts that is kept when a
retryable failure is followed by a sleep and the rest of the run holds of every run. -/
theorem retryFrom_inv (Q : Outcome σ α → Prop) (attempt : ∀ i s, Q (f i s))
    (combine : ∀ r r' : Outcome σ α,
      (∃ ex, r.result = .error ex ∧ ex.IsNonRetryable = false) →
      Q r → Q r' →
        Q ⟨r.effects ++ Effect.sleepFor sleepMs :: r'.effects, r'.result, r'.state⟩) :
    ∀ left i s, Q (retryFrom sleepMs f left i s) := by
  intro left
  induction left with
  | zero => exact attempt
  | succ left ih =>
    intro i s
    cases h : (f i s).result with
    | ok a => rw [retryFrom_of_ok h]; exact attempt i s
    | error ex =>
      cases hr : ex.IsNonRetryable
      · rw [retryFrom_of_retryable h hr]
        exact combine _ _ ⟨ex, h, hr⟩ (attempt i s) (ih (i + 1) _)
      · rw [retryFrom_of_nonRetryable h hr]; exact attempt i s

/-- A property of every effect of every attempt, which sleeps also have, holds of every
effect of a run. -/
theorem retryFrom_effects (P : Effect → Prop) (hsleep : P (.sleepFor sleepMs))
    (attempt : ∀ i s, ∀ x ∈ (f i s).effects, P x) :
    ∀ left i s, ∀ x ∈ (retryFrom sleepMs f left i s).effects, P x :=
  retryFrom_inv (fun o => ∀ x ∈ o.effects, P x) attempt fun r r' _ hr hr' x hx => by
    rcases List.mem_append.mp hx with hx | hx
    · exact hr x hx
    · rcases List.mem_cons.mp hx with rfl | hx
      exacts [hsleep, hr' x hx]

/-- A monitor over effects that takes every attempt, and the sleep, from `b` back to `b`
takes a whole run from `b` back to `b`. -/
theorem retryFrom_foldlM {β : Type} (g : β → Effect → Option β) (b : β)
    (hsleep : g b (.sleepFor sleepMs) = some b)
    (attempt : ∀ i s, (f i s).effects.foldlM g b = some b) :
    ∀ left i s, (retryFrom sleepMs f left i s).effects.foldlM g b = some b :=
  retryFrom_inv (fun o => o.effects.foldlM g b = some b) attempt fun r r' _ hr hr' => by
    simp [List.foldlM_append, hr, hsleep, hr']

/-- A run makes at most one attempt more than its allowance: if each attempt has at most
one effect of a kind that sleeps are not, a run with `left` retries has at most `left + 1`. -/
theorem retryFrom_countP_le (P : Effect → Bool) (hsleep : P (.sleepFor sleepMs) = false)
    (attempt : ∀ i s, (f i s).effects.countP P ≤ 1) :
    ∀ left i s, (retryFrom sleepMs f left i s).effects.countP P ≤ left + 1 := by
  intro left
  induction left with
  | zero => exact attempt
  | succ left ih =>
    intro i s
    cases h : (f i s).result with
    | ok a => rw [retryFrom_of_ok h]; exact (attempt i s).trans (by omega)
    | error ex =>
      cases hr : ex.IsNonRetryable
      · rw [retryFrom_of_retryable h hr]
        have first := attempt i s
        have rest := ih (i + 1) (f i s).state
        simp only [List.countP_append, List.countP_cons, hsleep, Bool.false_eq_true, if_false]
        omega
      · rw [retryFrom_of_nonRetryable h hr]; exact (attempt i s).trans (by omega)

/-- Enough retries reach a success: if the attempts before the `k`-th fail with retryable
exceptions and the `k`-th returns, a run allowing at least `k` retries returns what it
returned. -/
theorem retryFrom_reaches_ok {a : α} :
    ∀ (k left i : Nat) (s : σ), k ≤ left →
      (∀ j < k, ∀ s, ∃ ex, (f (i + j) s).result = .error ex ∧ ex.IsNonRetryable = false) →
      (∀ s, (f (i + k) s).result = .ok a) →
      (retryFrom sleepMs f left i s).result = .ok a := by
  intro k
  induction k with
  | zero =>
    intro left i s _ _ hok
    have h := hok s
    rw [Nat.add_zero] at h
    rw [retryFrom_of_ok_any h, h]
  | succ k ih =>
    intro left i s hk hfail hok
    obtain ⟨left, rfl⟩ : ∃ l, left = l + 1 := ⟨left - 1, by omega⟩
    obtain ⟨ex, h, hr⟩ := hfail 0 (Nat.succ_pos k) s
    rw [Nat.add_zero] at h
    rw [retryFrom_of_retryable h hr]
    exact ih left (i + 1) _ (by omega)
      (fun j hj s => by simpa [Nat.add_assoc, Nat.add_comm 1] using hfail (j + 1) (by omega) s)
      (fun s => by simpa [Nat.add_assoc, Nat.add_comm 1] using hok s)

/-- A run begins with its first attempt's effects. -/
theorem retryFrom_first_effects (left i : Nat) (s : σ) :
    ∃ rest, (retryFrom sleepMs f left i s).effects = (f i s).effects ++ rest := by
  cases left with
  | zero => exact ⟨[], by simp⟩
  | succ left =>
    cases h : (f i s).result with
    | ok a => exact ⟨[], by rw [retryFrom_of_ok h]; simp⟩
    | error ex =>
      cases hr : ex.IsNonRetryable
      · exact ⟨_, by rw [retryFrom_of_retryable h hr]⟩
      · exact ⟨[], by rw [retryFrom_of_nonRetryable h hr]; simp⟩

end Runner

end AstateRdma
