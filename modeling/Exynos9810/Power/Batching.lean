import Exynos9810.Library.Transition
import Exynos9810.Power.Controller
import Exynos9810.Power.PidLoop

/-!
# Reports in batches

With an integral window over all samples, the controller carries from one report to
the next what a fold over the samples leaves.  How the samples are spread over calls,
and what happens between the calls, makes no difference.
-/
namespace Exynos9810.Power

open AppHintDesc IndexedLoop PowerHal Transition

def Carried.take (p : Platform) (carried : Carried) (actual : Int) : Carried :=
  { carried with
    integralError := accumulate p carried.duration carried.integralError actual
    previousError := sampleError p carried.duration actual }

theorem foldl_take (p : Platform) (carried : Carried) (actuals : List Int) :
    actuals.foldl (Carried.take p) carried =
      { duration := carried.duration
        integralError := actuals.foldl (accumulate p carried.duration) carried.integralError
        previousError :=
          (actuals.map (sampleError p carried.duration)).getLastD carried.previousError } := by
  induction actuals generalizing carried with
  | nil => rfl
  | cons actual rest ih =>
    rw [List.foldl_cons, ih, List.map_cons, List.getLastD_cons]
    rfl

/-- The samples that the calls of `events` report to a session, call by call. -/
def reports (id : SessionId) (events : List Event) : List (List Int) :=
  events.filterMap fun
    | .call (.reportActualWorkDuration session actualDurations) =>
      if session = id then some actualDurations else none
    | _ => none

/-- The target of the session stays, and so does its integral error but for reports
that are accepted and do not find the session stale. -/
def OnlyReports (p : Platform) (id : SessionId) (s : PowerHal) : Event → Prop
  | .call (.reportActualWorkDuration session actualDurations) => session = id →
    (s.session id).desc.reportRefusal actualDurations = none ∧
      (s.session id).isStale p s.now = false
  | .call (.resume session) => session ≠ id
  | .call (.updateTargetWorkDuration session _) => session ≠ id
  | _ => True

instance (p : Platform) (id : SessionId) (s : PowerHal) (event : Event) :
    Decidable (OnlyReports p id s event) := by
  rcases event with _ | (_ | _ | _ | _ | _ | _) | _ | _ | _ <;> dsimp only [OnlyReports] <;>
    infer_instance

variable {p : Platform} {id : SessionId} {s s' : PowerHal}

theorem carried_reportPid (hwindow : p.iSamplingWindow = 0) (desc : AppHintDesc)
    (actualDurations : List Int) :
    (desc.reportPid p false actualDurations).1.carried =
      actualDurations.foldl (Carried.take p) desc.carried := by
  have hfirst : windowStart p.iSamplingWindow actualDurations.length = 0 := by
    rw [hwindow]
    rfl
  have hstart : loopStart p actualDurations.length = 0 := by
    have hle := (loopStart_le p actualDurations.length).2.1
    omega
  have hsums : desc.pidSums p actualDurations = pidLoop p desc.duration actualDurations.length
      { errSum := 0, derivativeSum := 0, integralError := desc.integralError
        previousError := desc.previousError } 0 actualDurations := by
    rw [pidSums, hstart]
    rfl
  have hcarried : (desc.reportPid p false actualDurations).1.carried =
      { duration := desc.duration
        integralError := (desc.pidSums p actualDurations).integralError
        previousError := (desc.pidSums p actualDurations).previousError } := rfl
  rw [hcarried, hsums, integralError_pidLoop, previousError_pidLoop, hfirst, gated_eq_foldl,
    foldl_take]
  rfl

section Step

theorem makeCall_of_accepted {call : Call} (haccepted : s.refusal p call = none)
    (h : s.makeCall p call = some s') : s' = s.begin p call := by
  unfold makeCall at h
  split at h
  · rw [haccepted] at h
    exact (Option.some.inj h).symm
  · cases h

theorem carried_begin (hid : id < s.created) {call : Call}
    (hallowed : OnlyReports p id s (.call call)) (hother : reports id [.call call] = []) :
    ((s.begin p call).session id).desc.carried = (s.session id).desc.carried := by
  cases call with
  | createHintSession threadIds durationNanos =>
    have hne : id ≠ s.created := Nat.ne_of_lt hid
    simp only [begin, create, binderAt, if_neg hne]
  | pause target =>
    simp only [begin, setUclamp, binderAt, session_update]
    split <;> rfl
  | resume target =>
    simp only [begin, updateDesc, binderAt, session_update, if_neg (Ne.symm hallowed)]
  | close target =>
    simp only [begin, binderAt, session_update]
    split <;> rfl
  | updateTargetWorkDuration target targetDurationNanos =>
    simp only [begin, updateDesc, session_update, if_neg (Ne.symm hallowed)]
  | reportActualWorkDuration target actualDurations =>
    have hne : id ≠ target := by
      rintro rfl
      simp [reports] at hother
    simp only [begin, updateDesc, binderAt, session_update, if_neg hne]

theorem created_le_step {event : Event} (h : s.step p event = some s') :
    s.created ≤ s'.created := by
  refine step_preserves (fun s' => s.created ≤ s'.created) h le_rfl (fun _ => le_rfl) ?_ ?_
    (fun _ _ _ _ _ _ => le_rfl) ?_
  · exact fun call _ _ _ _ => created_le_begin call
  · exact fun _ hbinder => (created_binderStep hbinder).ge
  · exact fun _ hlooper => (created_looperStep hlooper).ge

theorem carried_step (hwindow : p.iSamplingWindow = 0) (hid : id < s.created) {event : Event}
    (hallowed : OnlyReports p id s event) (hstep : s.step p event = some s') :
    (s'.session id).desc.carried =
      (reports id [event]).flatten.foldl (Carried.take p) (s.session id).desc.carried := by
  cases event with
  | tick nanos =>
    cases hstep
    rfl
  | call call =>
    by_cases hother : reports id [.call call] = []
    · rw [hother]
      obtain ⟨-, -, rfl | ⟨-, rfl⟩⟩ := makeCall_cases hstep
      · rfl
      · exact carried_begin hid hallowed hother
    · cases call with
      | reportActualWorkDuration session actualDurations =>
        have hsession : session = id := by
          by_contra hne
          simp [reports, hne] at hother
        obtain ⟨haccepted, hfresh⟩ := hallowed hsession
        subst hsession
        have hbegin : s' = s.begin p (.reportActualWorkDuration session actualDurations) :=
          makeCall_of_accepted haccepted hstep
        rw [hbegin]
        simp only [begin, updateDesc, binderAt, session_update, if_pos, hfresh]
        rw [carried_reportPid hwindow]
        simp [reports]
      | _ => exact absurd rfl hother
  | binder => exact carried_binderStep (binderStep_cases hstep) id
  | dequeue i =>
    obtain ⟨-, message, looper, -, -, rfl⟩ := dequeue_cases hstep
    rfl
  | looper => exact carried_looperStep (looperStep_cases hstep) id

end Step

/-- A whole run takes the samples that it reports, however its other steps lie between
the reports. -/
theorem carried_run (hwindow : p.iSamplingWindow = 0) (hid : id < s.created)
    {events : List Event} (hrun : exec (step p) (OnlyReports p id) s events = some s') :
    (s'.session id).desc.carried =
      (reports id events).flatten.foldl (Carried.take p) (s.session id).desc.carried := by
  induction events generalizing s with
  | nil =>
    cases hrun
    rfl
  | cons event rest ih =>
    have hsplit : reports id (event :: rest) = reports id [event] ++ reports id rest := by
      rw [reports, ← List.singleton_append, List.filterMap_append]
      rfl
    unfold exec at hrun
    split at hrun
    · rename_i hallowed
      split at hrun
      · rename_i next hstep
        rw [ih (hid.trans_le (created_le_step hstep)) hrun,
          carried_step hwindow hid hallowed hstep, hsplit, List.flatten_append, List.foldl_append]
      · cases hrun
    · cases hrun

/-- **Batching.**  Reporting `xs ++ ys` in one call or `xs` and `ys` in two leaves the same
integral error and the same previous error. -/
theorem batching_irrelevant (p : Platform) (hwindow : p.iSamplingWindow = 0) (s : PowerHal)
    (id : SessionId) (hid : id < s.created) (xs ys : List Int) (once twice : List Event)
    (honce : reports id once = [xs ++ ys]) (htwice : reports id twice = [xs, ys])
    (s₁ s₂ : PowerHal) (hrun₁ : exec (step p) (OnlyReports p id) s once = some s₁)
    (hrun₂ : exec (step p) (OnlyReports p id) s twice = some s₂) :
    (s₁.session id).desc.integralError = (s₂.session id).desc.integralError ∧
      (s₁.session id).desc.previousError = (s₂.session id).desc.previousError := by
  have hcarried : (s₁.session id).desc.carried = (s₂.session id).desc.carried := by
    rw [carried_run hwindow hid hrun₁, carried_run hwindow hid hrun₂, honce, htwice]
    simp only [List.flatten_cons, List.flatten_nil, List.append_nil]
  exact ⟨congrArg Carried.integralError hcarried, congrArg Carried.previousError hcarried⟩

def freshSession : PowerHal :=
  PowerHal.init.begin .default (.createHintSession [7] 16000000)

theorem batching_irrelevant_three :
    ∃ s₁ s₂, exec (step .default) (OnlyReports .default 0) freshSession
        [.binder, .binder, .call (.reportActualWorkDuration 0 [17000000, 9000000, 16500000]),
          .binder, .binder] = some s₁ ∧
      exec (step .default) (OnlyReports .default 0) freshSession
        [.binder, .binder, .call (.reportActualWorkDuration 0 [17000000, 9000000]), .binder,
          .binder, .binder, .tick 16000000, .call (.reportActualWorkDuration 0 [16500000])] =
        some s₂ ∧
      (s₁.session 0).desc.integralError = (s₂.session 0).desc.integralError ∧
      (s₁.session 0).desc.previousError = (s₂.session 0).desc.previousError := by
  refine ⟨_, _, rfl, rfl, batching_irrelevant .default rfl freshSession 0 (by decide)
    [17000000, 9000000] [16500000]
    [.binder, .binder, .call (.reportActualWorkDuration 0 [17000000, 9000000, 16500000]),
      .binder, .binder]
    [.binder, .binder, .call (.reportActualWorkDuration 0 [17000000, 9000000]), .binder,
      .binder, .binder, .tick 16000000, .call (.reportActualWorkDuration 0 [16500000])]
    rfl rfl _ _ rfl rfl⟩

end Exynos9810.Power
