import Mathlib.Data.List.Iterate
import Mathlib.Order.Nat
import Mathlib.Tactic.Common
import TokenLifecycle.Redis.Connection

/-!
# Attempts to connect

Connecting stops at the first attempt that succeeds, that fails in a way another attempt will not
mend, or that is the last one allowed. Attempts are counted on a network that keeps their numbers;
what connecting comes to is the same on every network with the same outcomes.

The main statement is `Redis.Connected.withRetry_stops`.
-/

namespace TokenLifecycle.Redis

namespace Connected

variable {σ τ α : Type}

section Words

theorem toNat_atLeastOne (attempts : UInt32) :
    (max 1 attempts).toNat = max 1 attempts.toNat := by
  have toNat_ite : (max 1 attempts).toNat = if 1 ≤ attempts then attempts.toNat else 1 :=
    apply_ite UInt32.toNat _ _ _
  rw [toNat_ite, Nat.max_def]
  rfl

theorem toNat_succ {attempt attempts : UInt32} (more : attempt < attempts) :
    (attempt + 1).toNat = attempt.toNat + 1 := by
  have below : attempt.toNat < attempts.toNat := UInt32.lt_iff_toNat_lt.mp more
  have limit := attempts.toNat_lt
  rw [UInt32.toNat_add]
  exact Nat.mod_eq_of_lt (by simp only [UInt32.toNat_one]; omega)

theorem toNat_nextPause {pause : UInt64} (short : pause.toNat ≤ 5000) :
    (nextPause pause).toNat = min (2 * pause.toNat) 5000 := by
  have toNat_ite : (nextPause pause).toNat =
      if (2 * pause).toNat ≤ longestPause.toNat then (2 * pause).toNat else longestPause.toNat :=
    apply_ite UInt64.toNat _ _ _
  have doubled : (2 * pause).toNat = 2 * pause.toNat := by
    rw [UInt64.toNat_mul]
    exact Nat.mod_eq_of_lt (by simp only [UInt64.toNat_ofNat]; omega)
  rw [toNat_ite, doubled, Nat.min_def]
  rfl

/-- The pause, in milliseconds, that comes after `i` other pauses. -/
def pauseAt (i : Nat) : Nat :=
  min (100 * 2 ^ i) 5000

theorem pauseAt_succ (i : Nat) : pauseAt (i + 1) = min (2 * pauseAt i) 5000 := by
  unfold pauseAt
  rw [pow_succ]
  omega

theorem toNat_iterate_nextPause (i : Nat) : (nextPause^[i] firstPause).toNat = pauseAt i := by
  induction i with
  | zero => rfl
  | succ i ih =>
    have short : (nextPause^[i] firstPause).toNat ≤ 5000 := ih ▸ Nat.min_le_right _ _
    rw [Function.iterate_succ_apply', toNat_nextPause short, ih, pauseAt_succ]

/-- The pauses of a run, as many as there are. -/
theorem map_toNat_iterate (n : Nat) :
    (List.iterate nextPause firstPause n).map UInt64.toNat = (List.range n).map pauseAt := by
  rw [← List.range_map_iterate, List.map_map]
  exact List.map_congr_left fun i _ => toNat_iterate_nextPause i

end Words

section Step

variable {dial : Nat → σ → Except Fault α × σ} {attempts attempt : UInt32} {pause : UInt64}
  {s s' : σ}

theorem attemptFrom_stop {outcome : Except Fault α}
    (answered : dial attempt.toNat s = (outcome, s'))
    (final : ∀ f, outcome = .error f → ¬(attempt < attempts ∧ f.isRetriable)) :
    attemptFrom dial attempts attempt pause s = (ended attempt.toNat outcome, s') := by
  rw [attemptFrom, answered]
  cases outcome with
  | ok a => rfl
  | error f => exact if_neg (final f rfl)

theorem attemptFrom_retry {f : Fault} (failed : dial attempt.toNat s = (.error f, s'))
    (more : attempt < attempts) (mends : f.isRetriable) :
    attemptFrom dial attempts attempt pause s =
      ((attemptFrom dial attempts (attempt + 1) (nextPause pause) s').1.after pause
          (retryLine attempt.toNat attempts.toNat pause.toNat f),
        (attemptFrom dial attempts (attempt + 1) (nextPause pause) s').2) := by
  rw [attemptFrom, failed]
  exact if_pos ⟨more, mends⟩

end Step

/-- What connecting comes to depends on the outcomes of the attempts alone, not on the rest of what
the network does. -/
theorem attemptFrom_fst_congr {dial : Nat → σ → Except Fault α × σ}
    {dial' : Nat → τ → Except Fault α × τ} (same : ∀ n s t, (dial n s).1 = (dial' n t).1)
    (attempts attempt : UInt32) (pause : UInt64) (s : σ) (t : τ) :
    (attemptFrom dial attempts attempt pause s).1 =
      (attemptFrom dial' attempts attempt pause t).1 := by
  have matched {n : Nat} {s s' : σ} (t : τ) {outcome : Except Fault α}
      (answered : dial n s = (outcome, s')) : dial' n t = (outcome, (dial' n t).2) :=
    Prod.ext ((same n s t).symm.trans (congrArg Prod.fst answered)) rfl
  induction attempt, pause, s using attemptFrom.induct dial attempts generalizing t with
  | case1 attempt pause s a s' answered =>
    rw [attemptFrom_stop answered nofun, attemptFrom_stop (matched t answered) nofun]
  | case2 attempt pause s f s' failed more _ _ _ ih =>
    rw [attemptFrom_retry failed more.1 more.2, attemptFrom_retry (matched t failed) more.1 more.2,
      ih]
  | case3 attempt pause s f s' failed no_more =>
    have final : ∀ g : Fault, (.error f : Except Fault α) = .error g →
        ¬(attempt < attempts ∧ g.isRetriable) := by
      rintro g ⟨⟩
      exact no_more
    rw [attemptFrom_stop failed final, attemptFrom_stop (matched t failed) final]

section Run

variable (outcomes : Nat → Except Fault α)

/-- A network on which the attempts have the given outcomes, and which keeps the numbers of the
attempts made on it. -/
def noting (attempt : Nat) (made : List Nat) : Except Fault α × List Nat :=
  (outcomes attempt, made ++ [attempt])

/-- No other attempt comes after the attempt with a number, when `most` attempts are allowed. -/
inductive Final (most n : Nat) : Prop
  | last (last : n = most)
  | connected (a : α) (connected : outcomes n = .ok a)
  | hopeless (f : Fault) (failed : outcomes n = .error f) (hopeless : f.isRetriable = false)

variable {outcomes}

theorem exists_mending_of_not_final {most n : Nat} (not_final : ¬Final outcomes most n) :
    ∃ f, outcomes n = .error f ∧ f.isRetriable = true := by
  cases answered : outcomes n with
  | ok a => exact absurd (.connected a answered) not_final
  | error f =>
    refine ⟨f, rfl, ?_⟩
    by_contra hopeless
    exact not_final (.hopeless f answered (Bool.eq_false_of_not_eq_true hopeless))

/-- The run of attempts up to the first final one, from the attempt that is `left` attempts before
it. -/
theorem attemptFrom_noting {attempts : UInt32} {k : Nat} (final : Final outcomes attempts.toNat k)
    (allowed : k ≤ attempts.toNat) (left : Nat) (attempt : UInt32) (pause : UInt64)
    (made : List Nat) (distance : attempt.toNat + left = k)
    (before : ∀ n, attempt.toNat ≤ n → n < k → ¬Final outcomes attempts.toNat n) :
    ∃ faults : List Fault,
      (List.range' attempt.toNat left).map outcomes = faults.map .error ∧
        attemptFrom (noting outcomes) attempts attempt pause made =
          (⟨outcomes k, List.iterate nextPause pause left,
            faults.mapIdx (fun i f => retryLine (attempt.toNat + i) attempts.toNat
              (nextPause^[i] pause).toNat f) ++ [lastLine k (outcomes k)]⟩,
            made ++ List.range' attempt.toNat (left + 1)) := by
  induction left generalizing attempt pause made with
  | zero =>
    obtain rfl : attempt.toNat = k := distance
    refine ⟨[], rfl, ?_⟩
    apply attemptFrom_stop rfl
    rintro f failed ⟨more, mends⟩
    cases final with
    | last last => exact Nat.lt_irrefl _ (last ▸ UInt32.lt_iff_toNat_lt.mp more)
    | connected a connected => exact nomatch failed.symm.trans connected
    | hopeless g failed' hopeless =>
      obtain rfl : f = g := Except.error.inj (failed.symm.trans failed')
      exact absurd mends (hopeless ▸ Bool.false_ne_true)
  | succ left ih =>
    have more : attempt < attempts := UInt32.lt_iff_toNat_lt.mpr (by omega)
    have next := toNat_succ more
    obtain ⟨f, failed, mends⟩ :=
      exists_mending_of_not_final (before attempt.toNat le_rfl (by omega))
    obtain ⟨faults, failed_later, run_later⟩ :=
      ih (attempt + 1) (nextPause pause) (made ++ [attempt.toNat]) (by omega)
        fun n from_next => before n (by omega)
    refine ⟨f :: faults, ?_, ?_⟩
    · rw [List.range'_succ, List.map_cons, List.map_cons, failed, ← failed_later, next]
    · have answered : noting outcomes attempt.toNat made = (.error f, made ++ [attempt.toNat]) :=
        congrArg (·, made ++ [attempt.toNat]) failed
      rw [attemptFrom_retry answered more mends, run_later, next,
        List.range'_succ (s := attempt.toNat)]
      simp only [after, List.iterate, List.mapIdx_cons, List.append_assoc, List.cons_append,
        List.nil_append, Function.iterate_succ_apply, Nat.add_zero, Function.iterate_zero, id_eq,
        Nat.add_assoc, Nat.add_comm 1]

/-- What is left behind by `k` attempts, the last of which is final. -/
structure Stopped (outcomes : Nat → Except Fault α) (most k : Nat)
    (left : Connected α × List Nat) : Prop where
  /-- The attempts are made in order, each one once. -/
  made : left.2 = List.range' 1 k
  /-- The outcome is the one of the last attempt. -/
  outcome : left.1.outcome = outcomes k
  /-- A pause lies between two attempts, twice as long as the one before it up to a bound. -/
  pauses : left.1.pauses.map UInt64.toNat = (List.range (k - 1)).map pauseAt
  /-- The faults of the attempts before the last are warned of, each with its attempt and pause. -/
  logs : ∃ faults : List Fault, (List.range' 1 (k - 1)).map outcomes = faults.map .error ∧
    left.1.logs = faults.mapIdx (fun i f => retryLine (1 + i) most (pauseAt i) f) ++
      [lastLine k (outcomes k)]
  /-- The attempts can be counted in a word. -/
  counted : k < 2 ^ 32
  /-- A pause can be doubled in a word. -/
  doubled : ∀ pause ∈ left.1.pauses, 2 * pause.toNat < 2 ^ 64

/-- Whatever the attempts come to, connecting stops at the first final one, with its outcome. -/
theorem withRetry_stops (attempts : UInt32) (outcomes : Nat → Except Fault α) :
    ∃ k, IsLeast {n | 1 ≤ n ∧ Final outcomes (max 1 attempts.toNat) n} k ∧
      Stopped outcomes (max 1 attempts.toNat) k (withRetry attempts (noting outcomes) []) := by
  have bound : max 1 attempts.toNat < 2 ^ 32 := by
    have limit := attempts.toNat_lt
    omega
  have some_final : ∃ n, 1 ≤ n ∧ Final outcomes (max 1 attempts.toNat) n :=
    ⟨_, Nat.le_max_left _ _, .last rfl⟩
  classical
  obtain ⟨⟨positive, final⟩, least⟩ := Nat.isLeast_find some_final
  generalize Nat.find some_final = k at positive final least
  have allowed : k ≤ max 1 attempts.toNat := least ⟨Nat.le_max_left _ _, .last rfl⟩
  rw [← toNat_atLeastOne] at final allowed
  obtain ⟨faults, failed, run⟩ :=
    attemptFrom_noting final allowed (k - 1) 1 firstPause [] (Nat.add_sub_cancel' positive)
      fun n from_one below is_final =>
        absurd (least ⟨from_one, toNat_atLeastOne attempts ▸ is_final⟩) (Nat.not_le.mpr below)
  refine ⟨k, ⟨⟨positive, toNat_atLeastOne attempts ▸ final⟩, least⟩, ?_⟩
  rw [withRetry, run]
  exact {
    made := by rw [List.nil_append, Nat.sub_add_cancel positive]; rfl
    outcome := rfl
    pauses := map_toNat_iterate (k - 1)
    logs := by
      refine ⟨faults, failed, ?_⟩
      simp only [toNat_iterate_nextPause, toNat_atLeastOne, UInt32.toNat_one]
    counted := by rw [toNat_atLeastOne] at allowed; omega
    doubled := by
      intro pause among
      obtain ⟨i, _, rfl⟩ := List.mem_iterate.mp among
      rw [toNat_iterate_nextPause]
      have bounded : pauseAt i ≤ 5000 := Nat.min_le_right _ _
      omega }

/-- Connecting to the server that settings name is making those attempts at its address, between
the first line of the log and the last. -/
theorem ofSettings_of_address {c : Config.Cache} {a : Address} (named : address c = .ok a)
    (dial : Address → Nat → Except Fault α) :
    ∃ last, ofSettings c dial =
      { (withRetry c.connectAttempts (noting (dial a)) []).1 with
        logs := firstLine c ::
          (withRetry c.connectAttempts (noting (dial a)) []).1.logs ++ last } := by
  have same : (withRetry c.connectAttempts (fun n s => (dial a n, s)) ()).1 =
      (withRetry c.connectAttempts (noting (dial a)) []).1 := by
    apply attemptFrom_fst_congr
    intro n s made
    rfl
  rw [ofSettings, named, ← same]
  exact ⟨_, rfl⟩

end Run

end Connected

end TokenLifecycle.Redis
