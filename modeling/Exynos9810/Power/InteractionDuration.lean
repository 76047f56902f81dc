import Exynos9810.Library.Words
import Exynos9810.Power.InteractionHint

/-!
# The duration of an interaction hint

`Acquire` adds the offset and clamps in `unsigned` arithmetic, and remembers the
result in an `int`.  A later call is dropped when the remembered hint covers it.
-/
namespace Exynos9810.Power

open Transition Words InteractionHandler

def requestedMs (k : InteractionProps) (duration : Int32) : Int :=
  duration.toInt + k.kDurationOffsetMs.toNat

def clampedMs (k : InteractionProps) (ms : Int) : Int :=
  min (max ms k.kMinDurationMs.toNat) k.kMaxDurationMs.toNat

/-- The sum fits an `unsigned` and the result an `int`, or the bounds leave no choice,
or a sum that wrapped around is still beyond the upper bound. -/
def ClampExact (k : InteractionProps) (duration : Int32) : Prop :=
  (0 ≤ requestedMs k duration ∧ requestedMs k duration < 2 ^ 32 ∧
    clampedMs k (requestedMs k duration) < 2 ^ 31) ∨
  (k.kMinDurationMs = k.kMaxDurationMs ∧ k.kMaxDurationMs.toNat < 2 ^ 31) ∨
  (2 ^ 32 + k.kMaxDurationMs.toNat ≤ requestedMs k duration)

instance (k : InteractionProps) (duration : Int32) : Decidable (ClampExact k duration) :=
  inferInstanceAs (Decidable (_ ∨ _ ∨ _))

section Clamp

variable {k : InteractionProps}

theorem clampedMs_mono {ms ms' : Int} (h : ms ≤ ms') : clampedMs k ms ≤ clampedMs k ms' :=
  min_le_min_right _ (max_le_max_right _ h)

theorem requestedMs_mono {duration duration' : Int32} (h : duration ≤ duration') :
    requestedMs k duration ≤ requestedMs k duration' :=
  Int.add_le_add_right (Int32.le_iff_toInt_le.mp h) _

theorem toInt_finalDuration (hle : k.kMinDurationMs ≤ k.kMaxDurationMs) (duration : Int32) :
    (finalDuration k duration).toInt =
      (clampedMs k (requestedMs k duration % 2 ^ 32)).bmod (2 ^ 32) := by
  have hsum : ((duration.toUInt32 + k.kDurationOffsetMs).toNat : Int) =
      requestedMs k duration % 2 ^ 32 := by
    have hduration := toNat_toUInt32 duration
    rw [UInt32.toNat_add, requestedMs]
    omega
  rw [UInt32.le_iff_toNat_le] at hle
  rw [← hsum, clampedMs]
  simp only [finalDuration, UInt32.toUInt32_toInt32, gt_iff_lt, UInt32.lt_iff_toNat_lt]
  split_ifs with hmax hmin
  · rw [toInt_toInt32, min_eq_right (by omega)]
  · rw [toInt_toInt32, max_eq_left (by omega), min_eq_left (by omega)]
  · rw [toInt_toInt32, max_eq_right (by omega), min_eq_left (by omega)]

theorem finalDuration_eq_iff (hle : k.kMinDurationMs ≤ k.kMaxDurationMs) (duration : Int32)
    (ms : Int) (hms : 0 ≤ ms) :
    (finalDuration k duration).toInt = ms ↔
      clampedMs k (requestedMs k duration % 2 ^ 32) = ms ∧ ms < 2 ^ 31 := by
  have hlt := k.kMaxDurationMs.toNat_lt
  have hrange : 0 ≤ clampedMs k (requestedMs k duration % 2 ^ 32) ∧
      clampedMs k (requestedMs k duration % 2 ^ 32) < 2 ^ 32 := by
    unfold clampedMs
    omega
  rw [toInt_finalDuration hle, Int.bmod_def]
  split <;> omega

theorem clampExact_iff (hmin : 0 < k.kMinDurationMs) (hle : k.kMinDurationMs ≤ k.kMaxDurationMs)
    (duration : Int32) :
    (finalDuration k duration).toInt = clampedMs k (requestedMs k duration) ↔
      ClampExact k duration := by
  rw [UInt32.lt_iff_toNat_lt, UInt32.toNat_zero] at hmin
  have hle' := UInt32.le_iff_toNat_le.mp hle
  have hlow := duration.le_toInt
  have hhigh := duration.toInt_lt
  have hoffset := k.kDurationOffsetMs.toNat_lt
  have hrequested : requestedMs k duration = duration.toInt + k.kDurationOffsetMs.toNat := rfl
  rw [finalDuration_eq_iff hle _ _ (by unfold clampedMs; omega), ClampExact,
    ← UInt32.toNat_inj]
  unfold clampedMs
  omega

end Clamp

/-- The duration used is the exact sum clamped between the bounds just when `ClampExact`
holds, and it grows with the request among such requests. -/
theorem duration_clamped_iff (k : InteractionProps) (hmin : 0 < k.kMinDurationMs)
    (hle : k.kMinDurationMs ≤ k.kMaxDurationMs) :
    (∀ duration, (finalDuration k duration).toInt = clampedMs k (requestedMs k duration) ↔
      ClampExact k duration) ∧
    ∀ duration duration', duration ≤ duration' → ClampExact k duration →
      ClampExact k duration' → finalDuration k duration ≤ finalDuration k duration' := by
  refine ⟨clampExact_iff hmin hle, ?_⟩
  intro duration duration' h hexact hexact'
  rw [Int32.le_iff_toInt_le, (clampExact_iff hmin hle duration).mpr hexact,
    (clampExact_iff hmin hle duration').mpr hexact']
  exact clampedMs_mono (requestedMs_mono h)

/-- Two requests from the point on where the sum is not negative, and the one below it. -/
theorem duration_clamped_iff_defaults :
    ClampExact {} (-650) ∧ ClampExact {} 1000 ∧ ¬ClampExact {} (-651) ∧
      finalDuration {} (-650) = 1400 ∧ finalDuration {} 1000 = 1650 ∧
      (finalDuration {} 1000).toInt = clampedMs {} (requestedMs {} 1000) ∧
      finalDuration {} (-650) ≤ finalDuration {} 1000 := by
  have hclamped := duration_clamped_iff {} (by decide) (by decide)
  exact ⟨by decide, by decide, by decide, by decide, by decide,
    (hclamped.1 1000).mpr (by decide), hclamped.2 (-650) 1000 (by decide) (by decide) (by decide)⟩

/-- With the default properties a request whose sum is negative gets the longest boost. -/
theorem negative_duration_longest :
    clampedMs {} (requestedMs {} (-651)) = 1400 ∧ finalDuration {} (-651) = 5650 ∧
      ¬finalDuration {} (-651) ≤ finalDuration {} 0 := by
  decide

def Timespec.ns (t : Timespec) : Int :=
  t.tvSec * 1000000000 + t.tvNsec

def Timespec.Normalised (t : Timespec) : Prop :=
  0 ≤ t.tvNsec ∧ t.tvNsec < 1000000000

instance (t : Timespec) : Decidable t.Normalised :=
  inferInstanceAs (Decidable (_ ∧ _))

structure ClockedHandler where
  handler : InteractionHandler
  clock : Timespec

namespace ClockedHandler

def step (k : InteractionProps) (c : ClockedHandler) (event : InteractionEvent) :
    Option ClockedHandler :=
  (c.handler.step k event).map fun handler =>
    match event with
    | .acquire _ now => ⟨handler, now⟩
    | _ => ⟨handler, c.clock⟩

def Monotonic (c : ClockedHandler) : InteractionEvent → Prop
  | .acquire _ now => now.Normalised ∧ c.clock.ns ≤ now.ns
  | _ => True

instance (c : ClockedHandler) (event : InteractionEvent) : Decidable (c.Monotonic event) := by
  unfold Monotonic
  split <;> infer_instance

def Stamped (c : ClockedHandler) : Prop :=
  c.handler.mState = .interaction ∨ c.handler.mState = .waiting →
    c.handler.mLastTimespec.Normalised ∧ c.handler.mLastTimespec.ns ≤ c.clock.ns

end ClockedHandler

section Elapsed

theorem tdiv_near (ns : Int) :
    ns - 1000000 < 1000000 * ns.tdiv 1000000 ∧ 1000000 * ns.tdiv 1000000 < ns + 1000000 := by
  have hdiv := Int.mul_tdiv_add_tmod ns 1000000
  have hlow := Int.lt_tmod_of_pos ns (show (0 : Int) < 1000000 by decide)
  have hhigh := Int.tmod_lt_of_pos ns (show (0 : Int) < 1000000 by decide)
  constructor <;> omega

variable {start stop : Timespec}

theorem calcTimespecDiffMs_near (hstart : start.Normalised) (hstop : stop.Normalised)
    (hle : start.ns ≤ stop.ns) (hspan : (stop.tvSec - start.tvSec) * 1000 < 2 ^ 63) :
    stop.ns - start.ns - 1000000 < (calcTimespecDiffMs start stop).toNat * 1000000 ∧
      (calcTimespecDiffMs start stop).toNat * 1000000 < stop.ns - start.ns + 1000000 := by
  obtain ⟨hlow, hhigh⟩ := tdiv_near (stop.tvNsec - start.tvNsec)
  unfold Timespec.ns at *
  unfold Timespec.Normalised at *
  have hexact : ((calcTimespecDiffMs start stop).toNat : Int) =
      (stop.tvSec - start.tvSec) * 1000 + (stop.tvNsec - start.tvNsec).tdiv 1000000 := by
    rw [calcTimespecDiffMs, ← UInt64.ofInt_add]
    refine toNat_ofInt ?_ ?_ <;> omega
  rw [hexact]
  constructor <;> omega

end Elapsed

section Skipped

variable {k : InteractionProps} {s s' : InteractionHandler} {c : ClockedHandler}

theorem finalDuration_nonneg (hmin : k.kMinDurationMs.toNat < 2 ^ 31)
    (hmax : k.kMaxDurationMs.toNat < 2 ^ 31) (duration : Int32) :
    0 ≤ (finalDuration k duration).toInt := by
  simp only [finalDuration, UInt32.toUInt32_toInt32, gt_iff_lt, UInt32.lt_iff_toNat_lt]
  split_ifs <;> rw [toInt_toInt32, Int.bmod_def] <;> split <;> omega

theorem elapsed_le_of_covers {finalDuration : Int32} {now : Timespec}
    (hfinal : 0 ≤ finalDuration.toInt) (h : s.covers finalDuration now) :
    ((calcTimespecDiffMs s.mLastTimespec now).toNat : Int) ≤
      s.mDurationMs.toInt - finalDuration.toInt := by
  simp only [covers, Bool.and_eq_true, decide_eq_true_eq] at h
  obtain ⟨⟨-, hle⟩, helapsed⟩ := h
  rw [Int32.le_iff_toInt_le] at hle
  have hdiff := toInt_sub_of_le hfinal hle
  rw [UInt64.le_iff_toNat_le] at helapsed
  have hcast := toNat_toUInt64 (x := s.mDurationMs - finalDuration) (by omega)
  omega

@[simp] theorem mLastTimespec_boost (finalDuration : Int32) (now : Timespec) :
    (s.boost finalDuration now).mLastTimespec = now := by
  simp only [boost, abortOrLock, abortWaitLocked, act]
  split_ifs <;> rfl

theorem stamp_kept {event : InteractionEvent} (hstep : s.step k event = some s')
    (hevent : ∀ duration now, event ≠ .acquire duration now) :
    s'.mLastTimespec = s.mLastTimespec ∧
      (s'.mState = .interaction ∨ s'.mState = .waiting →
        s.mState = .interaction ∨ s.mState = .waiting) := by
  cases event with
  | acquire duration now => exact absurd rfl (hevent duration now)
  | routineWake =>
    simp only [InteractionHandler.step, routineWake] at hstep
    split_ifs at hstep with hguard hinit <;> cases hstep
    · exact ⟨rfl, id⟩
    · refine ⟨rfl, fun _ => ?_⟩
      cases hstate : s.mState <;> simp_all
  | waitForIdle result =>
    simp only [InteractionHandler.step, InteractionHandler.waitForIdle] at hstep
    split at hstep <;> (try split_ifs at hstep) <;> cases hstep <;> exact ⟨rfl, id⟩
  | release =>
    simp only [InteractionHandler.step, release] at hstep
    split_ifs at hstep <;> cases hstep
    · refine ⟨rfl, ?_⟩
      rintro (h | h) <;> cases h
    · exact ⟨rfl, id⟩
  | exit =>
    simp only [InteractionHandler.step, exitLocked, abortWaitLocked] at hstep
    split_ifs at hstep <;> cases hstep
    all_goals
      refine ⟨rfl, ?_⟩
      rintro (h | h) <;> cases h
  | exitJoined =>
    simp only [InteractionHandler.step, exitJoined] at hstep
    split_ifs at hstep
    cases hstep
    exact ⟨rfl, id⟩

theorem stamped_acquire (h : c.Stamped) (duration : Int32) {now : Timespec}
    (hnow : now.Normalised) (hclock : c.clock.ns ≤ now.ns) :
    ClockedHandler.Stamped ⟨c.handler.acquire k duration now, now⟩ := by
  have hkept : ClockedHandler.Stamped ⟨c.handler, now⟩ := by
    intro hheld
    obtain ⟨hnormalised, hle⟩ := h hheld
    exact ⟨hnormalised, hle.trans hclock⟩
  unfold acquire
  dsimp only
  split_ifs
  · exact hkept
  · exact hkept
  · intro _
    rw [mLastTimespec_boost]
    exact ⟨hnow, le_rfl⟩

theorem stamped_step {event : InteractionEvent} {c' : ClockedHandler} (h : c.Stamped)
    (hclock : c.Monotonic event) (hstep : c.step k event = some c') : c'.Stamped := by
  obtain ⟨handler, hhandler, rfl⟩ := Option.map_eq_some_iff.mp hstep
  cases event with
  | acquire duration now =>
    cases hhandler
    exact stamped_acquire h duration hclock.1 hclock.2
  | _ =>
    obtain ⟨hlast, hheld⟩ := stamp_kept hhandler nofun
    intro hstate
    rw [hlast]
    exact h (hheld hstate)

end Skipped

/-- `calcTimespecDiffMs` is off by less than a millisecond, and when the previous hint
lets a call return early, it ends later than the new one would have, up to a millisecond.
The bounds are below the sign bit and the seconds in milliseconds are a `long`. -/
theorem skipped_hint_covered (k : InteractionProps) (hmin : k.kMinDurationMs.toNat < 2 ^ 31)
    (hmax : k.kMaxDurationMs.toNat < 2 ^ 31) (mLastTimespec clock : Timespec)
    (c : ClockedHandler)
    (hrun : Reach (ClockedHandler.step k) ClockedHandler.Monotonic
      ⟨initialised mLastTimespec, clock⟩ c) :
    (∀ start stop : Timespec, start.Normalised → stop.Normalised → start.ns ≤ stop.ns →
      (stop.tvSec - start.tvSec) * 1000 < 2 ^ 63 →
      |(calcTimespecDiffMs start stop).toNat * 1000000 - (stop.ns - start.ns)| < 1000000) ∧
    ∀ duration now, c.Monotonic (.acquire duration now) →
      (now.tvSec - c.handler.mLastTimespec.tvSec) * 1000 < 2 ^ 63 →
      c.handler.mState ≠ .uninitialized → c.handler.covers (finalDuration k duration) now →
      now.ns + (finalDuration k duration).toInt * 1000000 - 1000000 <
        c.handler.mLastTimespec.ns + c.handler.mDurationMs.toInt * 1000000 := by
  refine ⟨?_, ?_⟩
  · intro start stop hstart hstop hle hspan
    obtain ⟨hlow, hhigh⟩ := calcTimespecDiffMs_near hstart hstop hle hspan
    rw [abs_lt]
    constructor <;> omega
  · intro duration now hclock hspan hinit hcovers
    have hstamped := hrun.invariant ClockedHandler.Stamped
      (by rintro (h | h) <;> cases h) fun _ _ _ => stamped_step
    have hheld : c.handler.mState = .interaction ∨ c.handler.mState = .waiting := by
      have hidle : c.handler.mState ≠ .idle := by
        intro hidle
        simp [covers, hidle] at hcovers
      cases hstate : c.handler.mState <;> simp_all
    obtain ⟨hnormalised, hle⟩ := hstamped hheld
    obtain ⟨hlow, -⟩ := calcTimespecDiffMs_near hnormalised hclock.1 (hle.trans hclock.2) hspan
    have helapsed := elapsed_le_of_covers (finalDuration_nonneg hmin hmax duration) hcovers
    omega

/-- A touch of one second, and a quarter of a second later one that would last 999999 ns
longer. -/
theorem skipped_hint_covered_touch :
    ∃ c, exec (ClockedHandler.step {}) ClockedHandler.Monotonic
        ⟨initialised ⟨7, -3⟩, ⟨0, 0⟩⟩ [.acquire 1000 ⟨1, 0⟩] = some c ∧
      c.handler.covers (finalDuration {} 0) ⟨1, 250999999⟩ ∧
      1250999999 + 1400000000 - 1000000 <
        c.handler.mLastTimespec.ns + c.handler.mDurationMs.toInt * 1000000 := by
  refine ⟨_, rfl, by decide, ?_⟩
  exact (skipped_hint_covered {} (by decide) (by decide) ⟨7, -3⟩ ⟨0, 0⟩ _
    (reach_of_exec [.acquire 1000 ⟨1, 0⟩] rfl)).2 0 ⟨1, 250999999⟩ (by decide) (by decide)
    (by decide) (by decide)

/-- A touch whose hint lasts 2147483647 ms, and the routine in its second poll, which takes
as long and starts when the first one has run out, 100 ms later by default. -/
def longestTouch : List InteractionEvent :=
  [.acquire 2147482997 ⟨0, 0⟩, .routineWake, .waitForIdle .timeout, .waitForIdle .busy]

/-- With an upper bound above the sign bit a sum of -1 is kept and the difference of the
durations overflows.  A hint that ended 53 ms ago, and is not released yet, covers the
new one. -/
theorem ended_hint_covers :
    ∃ c, exec (ClockedHandler.step { kMaxDurationMs := 4294967295 }) ClockedHandler.Monotonic
        ⟨initialised ⟨0, 0⟩, ⟨0, 0⟩⟩ longestTouch = some c ∧
      c.Monotonic (.acquire (-651) ⟨2147483, 700000000⟩) ∧ c.handler.mState = .waiting ∧
      c.handler.covers (finalDuration { kMaxDurationMs := 4294967295 } (-651))
        ⟨2147483, 700000000⟩ ∧
      c.handler.mLastTimespec.ns + c.handler.mDurationMs.toInt * 1000000 + 51000000 =
        (⟨2147483, 700000000⟩ : Timespec).ns +
          (finalDuration { kMaxDurationMs := 4294967295 } (-651)).toInt * 1000000 - 1000000 := by
  exact ⟨_, rfl, by decide, rfl, by decide, by decide⟩

end Exynos9810.Power
