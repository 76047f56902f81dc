import Mathlib.Tactic.Ring
import Mathlib.Tactic.Linarith

namespace Exynos9810.Fingerprint

def semSensorStatusOk : Int := 100040
def semSensorStatusWorking : Int := 100041
def semSensorStatusError : Int := 100042
def semSensorStatusCalibrationError : Int := 100045

/-- The `while` loop.  Request `k` returns `statuses k`.  The result comes with the number of
requests; `none` if the fuel does not suffice. -/
def waitLoop (pollWait timeOut : Int) (statuses : Nat → Int) :
    (fuel requests : Nat) → (sensorStatus timeWaited : Int) → Option (Int × Nat)
  | 0, _, _, _ => none
  | fuel + 1, requests, sensorStatus, timeWaited =>
    if sensorStatus ≠ semSensorStatusOk then
      if sensorStatus = semSensorStatusCalibrationError ∨ sensorStatus = semSensorStatusError then
        some (-1, requests)
      else if timeOut ≤ timeWaited then some (-2, requests)
      else
        waitLoop pollWait timeOut statuses fuel (requests + 1) (statuses requests)
          (timeWaited + pollWait)
    else some (0, requests)

def waitForSensor (pollWait timeOut : Int) (statuses : Nat → Int) (fuel : Nat) :
    Option (Int × Nat) :=
  waitLoop pollWait timeOut statuses fuel 0 semSensorStatusWorking 0

def Decisive (status : Int) : Prop :=
  status = semSensorStatusOk ∨ status = semSensorStatusError ∨
    status = semSensorStatusCalibrationError

instance (status : Int) : Decidable (Decisive status) :=
  inferInstanceAs (Decidable (_ ∨ _ ∨ _))

/-- How many requests fit: `timeOut / pollWait`, rounded up. -/
def allowance (pollWait timeOut : Int) : Nat :=
  ((timeOut + pollWait - 1) / pollWait).toNat

section Loop

variable {pollWait timeOut : Int} {statuses : Nat → Int}

theorem timeOut_le_iff (hpoll : 0 < pollWait) (requests : Nat) :
    timeOut ≤ requests * pollWait ↔ allowance pollWait timeOut ≤ requests := by
  have hdiv := Int.ediv_lt_iff_lt_mul (a := timeOut + pollWait - 1) (b := requests + 1) hpoll
  rw [add_mul, one_mul] at hdiv
  rw [allowance, Int.toNat_le]
  omega

theorem waitLoop_decisive {status timeWaited : Int} (h : Decisive status) (fuel requests : Nat) :
    waitLoop pollWait timeOut statuses (fuel + 1) requests status timeWaited =
      some (if status = semSensorStatusOk then 0 else -1, requests) := by
  rw [waitLoop]
  by_cases hok : status = semSensorStatusOk
  · simp [hok]
  · rw [if_pos hok, if_pos (h.resolve_left hok).symm, if_neg hok]

theorem waitLoop_up {status timeWaited : Int} (h : ¬Decisive status)
    (htime : timeOut ≤ timeWaited) (fuel requests : Nat) :
    waitLoop pollWait timeOut statuses (fuel + 1) requests status timeWaited =
      some (-2, requests) := by
  simp only [Decisive, not_or] at h
  rw [waitLoop, if_pos h.1, if_neg (by simp [h.2]), if_pos htime]

theorem waitLoop_next {status timeWaited : Int} (h : ¬Decisive status)
    (htime : ¬timeOut ≤ timeWaited) (fuel requests : Nat) :
    waitLoop pollWait timeOut statuses (fuel + 1) requests status timeWaited =
      waitLoop pollWait timeOut statuses fuel (requests + 1) (statuses requests)
        (timeWaited + pollWait) := by
  simp only [Decisive, not_or] at h
  rw [waitLoop, if_pos h.1, if_neg (by simp [h.2]), if_neg htime]

def tested (statuses : Nat → Int) : Nat → Int
  | 0 => semSensorStatusWorking
  | k + 1 => statuses k

theorem waitForSensor_after {k : Nat} (fuel : Nat)
    (hgoes : ∀ j < k, ¬Decisive (tested statuses j) ∧ ¬timeOut ≤ j * pollWait) :
    waitForSensor pollWait timeOut statuses (fuel + k) =
      waitLoop pollWait timeOut statuses fuel k (tested statuses k) (k * pollWait) := by
  induction k generalizing fuel with
  | zero =>
    rw [waitForSensor, Nat.cast_zero, zero_mul]
    rfl
  | succ k ih =>
    have hlast := hgoes k (Nat.lt_succ_self k)
    have hbefore := ih (fuel + 1) fun j hj => hgoes j (Nat.lt_succ_of_lt hj)
    rw [← Nat.add_assoc, Nat.add_right_comm, hbefore, waitLoop_next hlast.1 hlast.2,
      Nat.cast_succ, add_mul, one_mul]
    rfl

theorem not_decisive_working : ¬Decisive semSensorStatusWorking := by
  decide

theorem not_decisive_tested {k : Nat} (hnone : ∀ j, j + 1 < k → ¬Decisive (statuses j)) {j : Nat}
    (hj : j < k) : ¬Decisive (tested statuses j) := by
  cases j with
  | zero => exact not_decisive_working
  | succ j => exact hnone j hj

end Loop

/-- **Polling.**  With a positive interval, the first request that settles the matter among
those that fit in the time decides the result, and none comes after it; if there is none, the
result is a time-out after just as many requests as fit.  With another interval the loop ends
only if a request settles the matter. -/
theorem waitForSensor_settled (pollWait timeOut : Int) (statuses : Nat → Int) :
    (0 < pollWait →
      (∀ k < allowance pollWait timeOut, (∀ j < k, ¬Decisive (statuses j)) →
        Decisive (statuses k) → ∀ fuel, waitForSensor pollWait timeOut statuses (fuel + k + 2) =
          some (if statuses k = semSensorStatusOk then 0 else -1, k + 1)) ∧
      ((∀ j < allowance pollWait timeOut, ¬Decisive (statuses j)) →
        ∀ fuel, waitForSensor pollWait timeOut statuses (fuel + allowance pollWait timeOut + 1) =
          some (-2, allowance pollWait timeOut))) ∧
    (pollWait ≤ 0 → 0 < timeOut → (∀ j, ¬Decisive (statuses j)) →
      ∀ fuel, waitForSensor pollWait timeOut statuses fuel = none) := by
  refine ⟨fun hpoll => ⟨?_, ?_⟩, ?_⟩
  · intro k hk hnone hdecisive fuel
    have hfuel : fuel + k + 2 = fuel + 1 + (k + 1) := by omega
    rw [hfuel, waitForSensor_after]
    · exact waitLoop_decisive hdecisive fuel (k + 1)
    · intro j hj
      rw [timeOut_le_iff hpoll]
      exact ⟨not_decisive_tested (fun i hi => hnone i (Nat.lt_of_succ_lt_succ hi)) hj, by omega⟩
  · intro hnone fuel
    rw [Nat.add_right_comm, waitForSensor_after]
    · refine waitLoop_up ?_ ((timeOut_le_iff hpoll _).mpr le_rfl) fuel _
      exact not_decisive_tested (fun i hi => hnone i (Nat.lt_of_succ_lt_succ hi))
        (Nat.lt_succ_self _)
    · intro j hj
      rw [timeOut_le_iff hpoll]
      exact ⟨not_decisive_tested (fun i hi => hnone i (Nat.lt_of_succ_lt hi)) hj, by omega⟩
  · intro hpoll htime hnone fuel
    have hgoes (j : Nat) (hj : j < fuel) :
        ¬Decisive (tested statuses j) ∧ ¬timeOut ≤ j * pollWait := by
      have hwaited : j * pollWait ≤ 0 :=
        mul_nonpos_of_nonneg_of_nonpos (Int.natCast_nonneg j) hpoll
      exact ⟨not_decisive_tested (fun i _ => hnone i) hj, by omega⟩
    have hafter := waitForSensor_after 0 hgoes
    rw [Nat.zero_add] at hafter
    rw [hafter, waitLoop]

theorem waitForSensor_settled_third :
    waitForSensor 10 35 (fun k => if k < 2 then 100041 else 100040) 9 = some (0, 3) :=
  ((waitForSensor_settled 10 35 _).1 (by decide)).1 2 (by decide) (by decide) (by decide) 5

end Exynos9810.Fingerprint
