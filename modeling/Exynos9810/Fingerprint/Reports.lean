import Exynos9810.Fingerprint.BiometricsFingerprint

namespace Exynos9810.Fingerprint

section Gist

/-- The error that a client takes `error` for. -/
def errorGist (error : Int) : Int :=
  if 1 ≤ error ∧ error ≤ 7 ∨ fingerprintErrorVendorBase ≤ error then error else 2

def infoGist (info : Int) : Int :=
  if 0 ≤ info ∧ info ≤ 5 ∨ fingerprintAcquiredVendorBase ≤ info then info else 2

def zeroToken : AuthToken :=
  ⟨List.replicate 69 0, List.length_replicate⟩

def Message.gist : Message → Message
  | .error code => .error (errorGist code)
  | .acquired info =>
    if semFingerprintEventBase < info then .other 0 else .acquired (infoGist info)
  | .authenticated finger hat =>
    .authenticated finger (if finger.fid ≠ 0 then hat else zeroToken)
  | .other _ => .other 0
  | msg => msg

def errorOf : FingerprintError → Int → Int
  | .errorHwUnavailable, _ => 1
  | .errorUnableToProcess, _ => 2
  | .errorTimeout, _ => 3
  | .errorNoSpace, _ => 4
  | .errorCanceled, _ => 5
  | .errorUnableToRemove, _ => 6
  | .errorLockout, _ => 7
  | .errorVendor, vendorCode => vendorCode + fingerprintErrorVendorBase

def infoOf : FingerprintAcquiredInfo → Int → Int
  | .acquiredGood, _ => 0
  | .acquiredPartial, _ => 1
  | .acquiredInsufficient, _ => 2
  | .acquiredImagerDirty, _ => 3
  | .acquiredTooSlow, _ => 4
  | .acquiredTooFast, _ => 5
  | .acquiredVendor, vendorCode => vendorCode + fingerprintAcquiredVendorBase

def messageOf (flags : Flags) : Option Report → Message
  | none => .other 0
  | some (.onError _ error vendorCode) => .error (errorOf error vendorCode)
  | some (.onAcquired _ info vendorCode) => .acquired (infoOf info vendorCode)
  -- the percentage is its own inverse
  | some (.onEnrollResult _ finger remaining) =>
    .enrolling finger (samplesRemaining flags remaining)
  | some (.onRemoved _ finger remaining) => .removed finger remaining
  | some (.onAuthenticated _ finger token) =>
    .authenticated finger (if h : token.length = 69 then ⟨token, h⟩ else zeroToken)
  | some (.onEnumerate _ finger remaining) => .enumerating finger remaining

theorem vendorErrorFilter_unknown {error : Int}
    (h : ¬(1 ≤ error ∧ error ≤ 7 ∨ fingerprintErrorVendorBase ≤ error)) :
    vendorErrorFilter error = (.errorUnableToProcess, 0) := by
  unfold vendorErrorFilter
  split
  iterate 7 exact absurd (.inl (by decide)) h
  rw [if_neg (fun hvendor => h (.inr hvendor))]

theorem errorOf_vendorErrorFilter (error : Int) :
    errorOf (vendorErrorFilter error).1 (vendorErrorFilter error).2 = errorGist error := by
  unfold errorGist
  split_ifs with hknown
  · unfold vendorErrorFilter
    split
    iterate 7 rfl
    rw [if_pos (hknown.resolve_left (by grind))]
    exact Int.sub_add_cancel error _
  · rw [vendorErrorFilter_unknown hknown]
    rfl

theorem vendorErrorFilter_gist (error : Int) :
    vendorErrorFilter (errorGist error) = vendorErrorFilter error := by
  unfold errorGist
  split_ifs with hknown
  · rfl
  · rw [vendorErrorFilter_unknown hknown]
    rfl

theorem vendorAcquiredFilter_unknown {info : Int}
    (h : ¬(0 ≤ info ∧ info ≤ 5 ∨ fingerprintAcquiredVendorBase ≤ info)) :
    vendorAcquiredFilter info = (.acquiredInsufficient, 0) := by
  unfold vendorAcquiredFilter
  split
  iterate 6 exact absurd (.inl (by decide)) h
  rw [if_neg (fun hvendor => h (.inr hvendor))]

theorem infoOf_vendorAcquiredFilter (info : Int) :
    infoOf (vendorAcquiredFilter info).1 (vendorAcquiredFilter info).2 = infoGist info := by
  unfold infoGist
  split_ifs with hknown
  · unfold vendorAcquiredFilter
    split
    iterate 6 rfl
    rw [if_pos (hknown.resolve_left (by grind))]
    exact Int.sub_add_cancel info _
  · rw [vendorAcquiredFilter_unknown hknown]
    rfl

theorem vendorAcquiredFilter_gist (info : Int) :
    vendorAcquiredFilter (infoGist info) = vendorAcquiredFilter info := by
  unfold infoGist
  split_ifs with hknown
  · rfl
  · rw [vendorAcquiredFilter_unknown hknown]
    rfl

theorem samplesRemaining_twice (flags : Flags) (samples : UInt32) :
    samplesRemaining flags (samplesRemaining flags samples) = samples := by
  unfold samplesRemaining
  split_ifs
  · grind
  · rfl

theorem infoGist_le {info : Int} (h : info ≤ semFingerprintEventBase) :
    infoGist info ≤ semFingerprintEventBase := by
  unfold infoGist
  split_ifs
  · exact h
  · decide

theorem messageOf_report (flags : Flags) (msg : Message) :
    messageOf flags (report flags msg) = msg.gist := by
  cases msg with
  | error error => simp only [report, messageOf, Message.gist, errorOf_vendorErrorFilter]
  | acquired info =>
    simp only [report, Message.gist]
    split_ifs
    · rfl
    · simp only [messageOf, infoOf_vendorAcquiredFilter]
  | enrolling finger samples =>
    simp only [report, messageOf, Message.gist, samplesRemaining_twice]
  | authenticated finger hat =>
    simp only [report, messageOf, Message.gist]
    by_cases hfid : finger.fid = 0 <;> simp [hfid, hat.size]
  | removed finger remaining => rfl
  | enumerating finger remaining => rfl
  | other type => rfl

theorem report_gist (flags : Flags) (msg : Message) :
    report flags msg.gist = report flags msg := by
  cases msg with
  | error error => simp only [Message.gist, report, vendorErrorFilter_gist]
  | acquired info =>
    simp only [Message.gist, report]
    split_ifs with hevent
    · rfl
    · have hgist := Int.not_lt.mpr (infoGist_le (Int.not_lt.mp hevent))
      simp only [if_neg hgist, vendorAcquiredFilter_gist]
  | authenticated finger hat =>
    simp only [Message.gist, report]
    by_cases hfid : finger.fid = 0 <;> simp [hfid]
  | enrolling finger samples => rfl
  | removed finger remaining => rfl
  | enumerating finger remaining => rfl
  | other type => rfl

end Gist

/-- **What a client learns.**  Two messages come to the same call, or to none, exactly when
they differ in what is struck out: the number of an error or image information that has no
meaning of its own, the events above 10000, and the token of a finger that was not recognised. -/
theorem reports_equal_iff (flags : Flags) (msg msg' : Message) :
    report flags msg = report flags msg' ↔ msg.gist = msg'.gist := by
  constructor
  · intro h
    rw [← messageOf_report flags msg, h, messageOf_report]
  · intro h
    rw [← report_gist flags msg, h, report_gist]

end Exynos9810.Fingerprint
