import Exynos9810.Library.Past
import Exynos9810.Fingerprint.Reports

namespace Exynos9810.Fingerprint

open BiometricsFingerprint

abbrev Event := Request × Outcome

def Event.client (before : Option Nat) (event : Event) : Option Nat :=
  match event.1 with
  | .setNotify clientCallback => clientCallback
  | _ => before

def registered (events : List Event) : Option Nat :=
  events.foldl Event.client none

/-- The message that an event passes to `notify`. -/
def Event.message (flags : Flags) (event : Event) : Option Message :=
  match event.1 with
  | .notify msg => some msg
  | .cancel =>
    if flags.callNotifyOnCancel && event.2.ret == 0 then some (.error fingerprintErrorCanceled)
    else none
  | _ => none

def Event.reports (flags : Flags) (client : Option Nat) (event : Event) : List (Nat × Report) :=
  match client, event.message flags with
  | some client, some msg => (report flags msg).toList.map (Prod.mk client)
  | _, _ => []

def Event.stroke (flags : Flags) (client : Option Nat) (event : Event) :
    Option (Nat × List Bool) :=
  match client, event.1 with
  | some _, .notify (.acquired info) => (gestureKey flags info).map (·, event.2.results)
  | _, _ => none

def Event.needs (flags : Flags) (client : Option Nat) (event : Event) : List Symbol :=
  match event.1 with
  | .preEnroll => [.ssFingerprintPreEnroll]
  | .enroll .. =>
    (if flags.requestForceCalibrate then [.ssFingerprintRequest] else []) ++
      [.ssFingerprintEnroll]
  | .postEnroll => [.ssFingerprintPostEnroll]
  | .getAuthenticatorId => [.ssFingerprintGetAuthId]
  | .cancel => [.ssFingerprintCancel]
  | .remove .. => [.ssFingerprintRemove]
  | .setActiveGroup _ storePath =>
    if 0 < storePath.length ∧ storePath.length < pathMax ∧ event.2.writable then
      [.ssFingerprintSetActiveGroup]
    else []
  | .authenticate .. => [.ssFingerprintAuthenticate]
  | .notify (.enrolling _ samples) =>
    if client.isSome && flags.callCancelOnEnrollCompletion &&
        samplesRemaining flags samples == 0 then
      [.ssFingerprintCancel]
    else []
  | _ => []

section Steps

variable {flags : Flags} {self : UInt64} {s s' : BiometricsFingerprint} {event : Event}

structure Served (flags : Flags) (s : BiometricsFingerprint) (event : Event)
    (s' : BiometricsFingerprint) : Prop where
  pointers : s'.pointers = s.pointers
  created : s'.created = s.created
  client : s'.mClientCallback = event.client s.mClientCallback
  told : s'.told = s.told ++ event.reports flags s.mClientCallback
  written : s'.written = s.written ++
    match event.stroke flags s.mClientCallback with
    | some (key, results) => if s.created then writeEvents (swipe key) results else []
    | none => []

/-- The event calls no pointer that is null or was never assigned, and tests none of the
latter. -/
structure Event.Safe (flags : Flags) (s : BiometricsFingerprint) (event : Event) : Prop where
  calls : ∀ symbol ∈ event.needs flags s.mClientCallback, s.pointers symbol = .function
  tests : event.1 = .enumerate → s.pointers .ssFingerprintEnumerate ≠ .indeterminate

theorem call_of_function {c : VendorCall} (h : s.pointers c.symbol = .function) :
    s.call c = .ok { s with called := s.called ++ [c] } := by
  simp only [call, h]

theorem call_of_not_function {c : VendorCall} (h : s.pointers c.symbol ≠ .function) :
    ∃ fault, s.call c = .error fault := by
  unfold call
  split
  · exact ⟨_, rfl⟩
  · exact ⟨_, rfl⟩
  · contradiction

theorem served_called (s : BiometricsFingerprint) (calls : List VendorCall)
    (hclient : event.client s.mClientCallback = s.mClientCallback)
    (hreports : event.reports flags s.mClientCallback = [])
    (hstroke : event.stroke flags s.mClientCallback = none) :
    Served flags s event { s with called := s.called ++ calls } :=
  ⟨rfl, rfl, hclient.symm, by simp [hreports], by simp [hstroke]⟩

theorem served_tell {client : Nat} {msg : Message} (calls : List VendorCall)
    (hsome : s.mClientCallback = some client)
    (hclient : event.client s.mClientCallback = s.mClientCallback)
    (hmsg : event.message flags = some msg)
    (hstroke : event.stroke flags s.mClientCallback = none) :
    Served flags s event
      (BiometricsFingerprint.tell { s with called := s.called ++ calls } client
        (report flags msg)) :=
  ⟨rfl, rfl, hclient.symm, by simp [BiometricsFingerprint.tell, Event.reports, hsome, hmsg],
    by simp [BiometricsFingerprint.tell, hstroke]⟩

structure StepSpec (flags : Flags) (s : BiometricsFingerprint) (event : Event)
    (result : Except Fault BiometricsFingerprint) : Prop where
  ok : event.Safe flags s → ∃ s', result = .ok s' ∧ Served flags s event s'
  error : ¬event.Safe flags s → ∃ fault, result = .error fault

theorem Event.safe_iff (henumerate : event.1 ≠ .enumerate) : event.Safe flags s ↔
    ∀ symbol ∈ event.needs flags s.mClientCallback, s.pointers symbol = .function :=
  ⟨Safe.calls, fun hcalls => ⟨hcalls, fun htest => absurd htest henumerate⟩⟩

theorem StepSpec.of_ok {result : Except Fault BiometricsFingerprint}
    (hsafe : event.Safe flags s) (hresult : result = .ok s')
    (hserved : Served flags s event s') : StepSpec flags s event result :=
  ⟨fun _ => ⟨s', hresult, hserved⟩, absurd hsafe⟩

theorem Event.safe_of_needs (hneeds : event.needs flags s.mClientCallback = [])
    (henumerate : event.1 ≠ .enumerate) : event.Safe flags s :=
  (safe_iff henumerate).mpr (by simp [hneeds])

theorem StepSpec.of_call (c : VendorCall) (k : BiometricsFingerprint → BiometricsFingerprint)
    {result : Except Fault BiometricsFingerprint}
    (hneeds : event.needs flags s.mClientCallback = [c.symbol])
    (henumerate : event.1 ≠ .enumerate) (hresult : result = k <$> s.call c)
    (hserved : Served flags s event (k { s with called := s.called ++ [c] })) :
    StepSpec flags s event result := by
  have hsafe : event.Safe flags s ↔ s.pointers c.symbol = .function := by
    simp [Event.safe_iff henumerate, hneeds]
  rw [hresult]
  constructor
  · intro h
    rw [call_of_function (hsafe.mp h)]
    exact ⟨_, rfl, hserved⟩
  · intro h
    obtain ⟨fault, hfault⟩ := call_of_not_function (hsafe.not.mp h)
    exact ⟨fault, by rw [hfault]; rfl⟩

theorem gestureKey_of_le {info : Int} (h : info ≤ semFingerprintEventBase) :
    gestureKey flags info = none := by
  have hbase : info ≤ 10000 := h
  unfold gestureKey semFingerprintEventGestureSwipeUp semFingerprintEventGestureSwipeDown
  split_ifs <;> first | rfl | omega

theorem served_handleEvent {client : Nat} {info : Int} {o : Outcome}
    (hsome : s.mClientCallback = some client) (hinfo : semFingerprintEventBase < info) :
    Served flags s (.notify (.acquired info), o) (s.handleEvent flags info o.results) := by
  have hreports : Event.reports flags s.mClientCallback (.notify (.acquired info), o) = [] := by
    simp [Event.reports, hsome, Event.message, report, hinfo]
  unfold handleEvent
  cases hkey : gestureKey flags info with
  | none =>
    refine ⟨rfl, rfl, rfl, by simp [hreports], ?_⟩
    simp [Event.stroke, hsome, hkey]
  | some key =>
    cases hcreated : s.created with
    | false =>
      refine ⟨rfl, rfl, rfl, by simp [hreports], ?_⟩
      simp [Event.stroke, hsome, hkey, hcreated]
    | true =>
      refine ⟨rfl, hcreated.symm, rfl, by simp [hreports], ?_⟩
      simp [Event.stroke, hsome, hkey, hcreated]

theorem notify_spec (s : BiometricsFingerprint) (msg : Message) (o : Outcome) :
    StepSpec flags s (.notify msg, o) (s.notify flags msg o.results) := by
  cases hsome : s.mClientCallback with
  | none =>
    have hneeds : Event.needs flags s.mClientCallback (.notify msg, o) = [] := by
      rw [hsome]
      cases msg <;> rfl
    have hserved : Served flags s (.notify msg, o) s := by
      refine ⟨rfl, rfl, rfl, ?_, ?_⟩
      · simp [Event.reports, hsome]
      · simp [Event.stroke, hsome]
    exact .of_ok (Event.safe_of_needs hneeds nofun) (by simp [notify, hsome]) hserved
  | some client =>
    have htell (hneeds : Event.needs flags s.mClientCallback (.notify msg, o) = [])
        (hstroke : Event.stroke flags s.mClientCallback (.notify msg, o) = none)
        (hresult : s.notify flags msg o.results = .ok (s.tell client (report flags msg))) :
        StepSpec flags s (.notify msg, o) (s.notify flags msg o.results) := by
      have hserved := served_tell [] hsome rfl rfl hstroke
      rw [List.append_nil] at hserved
      exact .of_ok (Event.safe_of_needs hneeds nofun) hresult hserved
    cases msg with
    | acquired info =>
      by_cases hinfo : semFingerprintEventBase < info
      · exact .of_ok (Event.safe_of_needs rfl nofun) (by simp [notify, hsome, hinfo])
          (served_handleEvent hsome hinfo)
      · refine htell rfl ?_ (by simp [notify, hsome, hinfo])
        simp [Event.stroke, hsome, gestureKey_of_le (Int.not_lt.mp hinfo)]
    | enrolling finger samples =>
      have hstroke : Event.stroke flags s.mClientCallback (.notify (.enrolling finger samples), o) =
          none := by
        simp [Event.stroke, hsome]
      cases hdone : flags.callCancelOnEnrollCompletion && samplesRemaining flags samples == 0 with
      | true =>
        refine .of_call .cancel (fun s => s.tell client (report flags _)) ?_ nofun ?_
          (served_tell [.cancel] hsome rfl rfl hstroke)
        · simp only [Event.needs, hsome, Option.isSome_some, Bool.true_and, hdone, if_true]
          rfl
        · simp only [notify, hsome, hdone, if_true]
          rfl
      | false =>
        refine htell ?_ hstroke (by simp only [notify, hsome, hdone]; rfl)
        simp only [Event.needs, hsome, Option.isSome_some, Bool.true_and, hdone]
        rfl
    | _ => exact htell rfl (by simp [Event.stroke, hsome]) (by simp [notify, hsome])

theorem served_silent (s : BiometricsFingerprint) (calls : List VendorCall)
    (hclient : event.client s.mClientCallback = s.mClientCallback)
    (hmessage : event.message flags = none) (hnotify : ∀ msg, event.1 ≠ .notify msg) :
    Served flags s event { s with called := s.called ++ calls } := by
  refine served_called s calls hclient ?_ ?_
  · unfold Event.reports
    split
    next heq => cases hmessage.symm.trans heq
    next => rfl
  · unfold Event.stroke
    split
    next heq => exact absurd heq (hnotify _)
    next => rfl

theorem filtered_eq (c : VendorCall) (o : Outcome) :
    Prod.fst <$> s.filtered c o = id <$> s.call c := by
  rw [filtered]
  cases s.call c <;> rfl

theorem answered_eq (c : VendorCall) (answer : Answer) :
    Prod.fst <$> (do let s ← s.call c; return (s, answer)) = id <$> s.call c := by
  cases s.call c <;> rfl

theorem enroll_spec (s : BiometricsFingerprint) (hat : AuthToken) (gid timeoutSec : UInt32)
    (o : Outcome) :
    StepSpec flags s (.enroll hat gid timeoutSec, o)
      (Prod.fst <$> s.step flags self (.enroll hat gid timeoutSec) o) := by
  have hserved (calls : List VendorCall) :
      Served flags s (.enroll hat gid timeoutSec, o) { s with called := s.called ++ calls } :=
    served_silent s calls rfl rfl (by simp)
  cases hforce : flags.requestForceCalibrate with
  | false =>
    refine .of_call (.enroll hat.bytes gid timeoutSec) id ?_ nofun ?_ (hserved _)
    · simp only [Event.needs, hforce]
      rfl
    · simp only [step, hforce]
      exact filtered_eq _ _
  | true =>
    have hsafe : Event.Safe flags s (.enroll hat gid timeoutSec, o) ↔
        s.pointers .ssFingerprintRequest = .function ∧
          s.pointers .ssFingerprintEnroll = .function := by
      simp [Event.safe_iff, Event.needs, hforce]
    simp only [step, hforce, if_true]
    let requested : BiometricsFingerprint :=
      { s with called := s.called ++ [.request semRequestForceCbge 1] }
    constructor
    · intro h
      obtain ⟨hrequest, henroll⟩ := hsafe.mp h
      have hcall : requested.call (.enroll hat.bytes gid timeoutSec) = .ok { requested with
          called := requested.called ++ [.enroll hat.bytes gid timeoutSec] } :=
        call_of_function henroll
      refine ⟨_, ?_, hserved [.request semRequestForceCbge 1, .enroll hat.bytes gid timeoutSec]⟩
      rw [call_of_function (c := .request semRequestForceCbge 1) hrequest]
      change Prod.fst <$> requested.filtered _ _ = _
      rw [filtered_eq, hcall]
      simp [requested]
    · intro h
      by_cases hrequest : s.pointers .ssFingerprintRequest = .function
      · have henroll : requested.pointers .ssFingerprintEnroll ≠ .function :=
          not_and.mp (hsafe.not.mp h) hrequest
        obtain ⟨fault, hfault⟩ :=
          call_of_not_function (c := .enroll hat.bytes gid timeoutSec) henroll
        rw [call_of_function (c := .request semRequestForceCbge 1) hrequest]
        change ∃ fault, Prod.fst <$> requested.filtered _ _ = _
        rw [filtered_eq, hfault]
        exact ⟨fault, rfl⟩
      · obtain ⟨fault, hfault⟩ :=
          call_of_not_function (c := .request semRequestForceCbge 1) hrequest
        rw [hfault]
        exact ⟨fault, rfl⟩

/-- What `cancel` does once the library has returned. -/
def canceled (flags : Flags) (o : Outcome) (s : BiometricsFingerprint) : BiometricsFingerprint :=
  match s.mClientCallback, flags.callNotifyOnCancel && o.ret == 0 with
  | some client, true => s.tell client (report flags (.error fingerprintErrorCanceled))
  | _, _ => s

theorem served_canceled (o : Outcome) (calls : List VendorCall) :
    Served flags s (.cancel, o) (canceled flags o { s with called := s.called ++ calls }) := by
  cases hnotify : flags.callNotifyOnCancel && o.ret == 0 with
  | false =>
    have hcanceled : canceled flags o { s with called := s.called ++ calls } =
        { s with called := s.called ++ calls } := by
      simp [canceled, hnotify]
    rw [hcanceled]
    exact served_silent s calls rfl (by simp only [Event.message, hnotify]; rfl) (by simp)
  | true =>
    have hmessage : Event.message flags (.cancel, o) = some (.error fingerprintErrorCanceled) := by
      simp only [Event.message, hnotify, if_true]
    obtain hnone | ⟨client, hsome⟩ := Option.eq_none_or_eq_some s.mClientCallback
    · have hcanceled : canceled flags o { s with called := s.called ++ calls } =
          { s with called := s.called ++ calls } := by
        simp [canceled, hnone]
      rw [hcanceled]
      exact served_called s calls rfl (by simp [Event.reports, hnone])
        (by simp [Event.stroke, hnone])
    · have hcanceled : canceled flags o { s with called := s.called ++ calls } =
          BiometricsFingerprint.tell { s with called := s.called ++ calls } client
            (report flags (.error fingerprintErrorCanceled)) := by
        simp [canceled, hsome, hnotify]
      rw [hcanceled]
      exact served_tell calls hsome rfl hmessage (by simp [Event.stroke, hsome])

theorem cancel_spec (s : BiometricsFingerprint) (o : Outcome) :
    StepSpec flags s (.cancel, o) (Prod.fst <$> s.step flags self .cancel o) := by
  refine .of_call .cancel (canceled flags o) rfl nofun ?_ (served_canceled o _)
  rw [step]
  cases s.call .cancel with
  | error fault => rfl
  | ok s' =>
    change Prod.fst <$> (do
      let s ← if flags.callNotifyOnCancel && o.ret == 0 then
          s'.notify flags (.error fingerprintErrorCanceled) o.results
        else .ok s'
      return (s, Answer.status (errorFilter o.ret))) = .ok (canceled flags o s')
    unfold canceled notify
    cases s'.mClientCallback <;> cases flags.callNotifyOnCancel && o.ret == 0 <;> rfl

theorem step_spec (s : BiometricsFingerprint) (event : Event) :
    StepSpec flags s event (Prod.fst <$> s.step flags self event.1 event.2) := by
  obtain ⟨request, o⟩ := event
  have hsame (hclient : Event.client s.mClientCallback (request, o) = s.mClientCallback)
      (hmessage : Event.message flags (request, o) = none)
      (hnotify : ∀ msg, request ≠ .notify msg) : Served flags s (request, o) s := by
    have hserved := served_silent s [] hclient hmessage hnotify
    rw [List.append_nil] at hserved
    exact hserved
  cases request with
  | setNotify clientCallback =>
    refine .of_ok (Event.safe_of_needs rfl nofun) rfl ⟨rfl, rfl, rfl, ?_, ?_⟩
    · cases s.mClientCallback <;> simp [Event.reports, Event.message]
    · cases s.mClientCallback <;> simp [Event.stroke]
  | preEnroll =>
    exact .of_call .preEnroll id rfl nofun (answered_eq _ _) (served_silent s _ rfl rfl (by simp))
  | enroll hat gid timeoutSec => exact enroll_spec s hat gid timeoutSec o
  | postEnroll =>
    exact .of_call .postEnroll id rfl nofun (filtered_eq _ _) (served_silent s _ rfl rfl (by simp))
  | getAuthenticatorId =>
    exact .of_call .getAuthId id rfl nofun (answered_eq _ _) (served_silent s _ rfl rfl (by simp))
  | cancel => exact cancel_spec s o
  | enumerate =>
    have hsafe (h : s.pointers .ssFingerprintEnumerate ≠ .indeterminate) :
        Event.Safe flags s (.enumerate, o) :=
      ⟨by simp [Event.needs], fun _ => h⟩
    cases hpointer : s.pointers .ssFingerprintEnumerate with
    | function =>
      refine .of_ok (hsafe (by simp [hpointer])) ?_ (served_silent s [.enumerate] rfl rfl (by simp))
      simp only [step, hpointer, filtered_eq, call_of_function (c := .enumerate) hpointer]
      rfl
    | null =>
      refine .of_ok (hsafe (by simp [hpointer])) ?_ (hsame rfl rfl (by simp))
      simp only [step, hpointer]
      rfl
    | indeterminate =>
      refine ⟨fun h => absurd hpointer (h.tests rfl), fun _ => ?_⟩
      simp only [step, hpointer]
      exact ⟨_, rfl⟩
  | remove gid fid =>
    exact .of_call (.remove gid fid) id rfl nofun (filtered_eq _ _)
      (served_silent s _ rfl rfl (by simp))
  | setActiveGroup gid storePath =>
    by_cases hpath : 0 < storePath.length ∧ storePath.length < pathMax ∧ o.writable
    · refine .of_call (.setActiveGroup gid storePath) id (if_pos hpath) nofun ?_
        (served_silent s _ rfl rfl fun msg => by simp)
      have hlength : (pathMax ≤ storePath.length || storePath.length == 0) = false :=
        Bool.or_eq_false_iff.mpr ⟨decide_eq_false (by omega), beq_false_of_ne (by omega)⟩
      simp only [step, hlength, hpath.2.2, if_true]
      exact filtered_eq _ _
    · refine .of_ok (Event.safe_of_needs (if_neg hpath) nofun) ?_ (hsame rfl rfl (by simp))
      simp only [step]
      split_ifs with hlength hwritable
      · rfl
      · simp at hlength
        exact absurd ⟨List.length_pos_iff.mpr hlength.2, hlength.1, hwritable⟩ hpath
      · rfl
  | authenticate operationId gid =>
    exact .of_call (.authenticate operationId gid) id rfl nofun (filtered_eq _ _)
      (served_silent s _ rfl rfl (by simp))
  | notify msg =>
    have hresult : Prod.fst <$> s.step flags self (.notify msg) o =
        s.notify flags msg o.results := by
      rw [step]
      cases s.notify flags msg o.results <;> rfl
    change StepSpec flags s _ (Prod.fst <$> s.step flags self (.notify msg) o)
    rw [hresult]
    exact notify_spec s msg o
  | isUdfps | onFingerDown | onFingerUp =>
    exact .of_ok (Event.safe_of_needs rfl nofun) rfl (hsame rfl rfl (by simp))

theorem served_of_step (h : Prod.fst <$> s.step flags self event.1 event.2 = .ok s') :
    Served flags s event s' := by
  have hspec : StepSpec flags s event (Prod.fst <$> s.step flags self event.1 event.2) :=
    step_spec s event
  by_cases hsafe : event.Safe flags s
  · obtain ⟨served, hok, hserved⟩ := hspec.ok hsafe
    cases hok.symm.trans h
    exact hserved
  · obtain ⟨fault, hfault⟩ := hspec.error hsafe
    cases hfault.symm.trans h

end Steps

section Runs

variable {flags : Flags} {boot : Boot} {self : UInt64} {exported : Symbol → Bool}
  {s s' : BiometricsFingerprint} {events : List Event}

def startNeeds (boot : Boot) : List Symbol :=
  .ssFingerprintOpen :: (if boot.openResult = 0 then [.ssSetNotifyCallback] else []) ++
    [.ssFingerprintRequest]

def Event.typed (flags : Flags) (boot : Boot) (client : Option Nat) (event : Event) :
    List InputEvent :=
  match event.stroke flags client with
  | some (key, results) => if createsDevice boot then writeEvents (swipe key) results else []
  | none => []

structure Provides (flags : Flags) (boot : Boot) (exported : Symbol → Bool)
    (events : List Event) : Prop where
  start : ∀ symbol ∈ startNeeds boot, exported symbol = true
  events : ∀ past event, past ++ [event] <+: events →
    ∀ symbol ∈ event.needs flags (registered past), exported symbol = true

structure Ran (flags : Flags) (boot : Boot) (events : List Event) (s : BiometricsFingerprint) :
    Prop where
  created : flags.hasFingerprintGestures = true → s.created = createsDevice boot
  client : s.mClientCallback = registered events
  told : s.told = Past.flatMap (fun past event => event.reports flags (registered past)) events
  written : s.written =
    Past.flatMap (fun past event => event.typed flags boot (registered past)) events

theorem registered_concat (events : List Event) (event : Event) :
    registered (events ++ [event]) = event.client (registered events) := by
  rw [registered, List.foldl_append]
  rfl

theorem hasFingerprintGestures_of_stroke {client : Option Nat} {event : Event}
    {stroke : Nat × List Bool} (h : event.stroke flags client = some stroke) :
    flags.hasFingerprintGestures = true := by
  by_contra hnone
  have hkey (info : Int) : gestureKey flags info = none := by
    simp [gestureKey, hnone]
  unfold Event.stroke at h
  split at h
  · simp [hkey] at h
  · cases h

theorem Ran.served {event : Event} (h : Ran flags boot events s)
    (hserved : Served flags s event s') : Ran flags boot (events ++ [event]) s' := by
  refine ⟨fun hgestures => hserved.created.trans (h.created hgestures), ?_, ?_, ?_⟩
  · rw [hserved.client, h.client, registered_concat]
  · rw [hserved.told, h.told, h.client, Past.flatMap_concat]
  · rw [hserved.written, h.written, h.client, Past.flatMap_concat, Event.typed]
    split
    next hstroke => rw [h.created (hasFingerprintGestures_of_stroke hstroke)]
    next => rfl

def Linked (exported : Symbol → Bool) (s : BiometricsFingerprint) : Prop :=
  s.pointers = fun symbol => if exported symbol then .function else .null

theorem Linked.eq_function_iff (h : Linked exported s) {symbol : Symbol} :
    s.pointers symbol = .function ↔ exported symbol = true := by
  rw [h]
  cases hexported : exported symbol <;> simp [hexported]

theorem Linked.safe_iff (h : Linked exported s) {event : Event} :
    event.Safe flags s ↔
      ∀ symbol ∈ event.needs flags s.mClientCallback, exported symbol = true := by
  simp only [← h.eq_function_iff]
  refine ⟨Event.Safe.calls, fun hcalls => ⟨hcalls, fun _ => ?_⟩⟩
  rw [h]
  cases hexported : exported .ssFingerprintEnumerate <;> simp [hexported]

theorem bind_call {β : Type} (h : Linked exported s) (c : VendorCall)
    (k : BiometricsFingerprint → Except Fault β) :
    s.call c >>= k = if exported c.symbol then k { s with called := s.called ++ [c] }
      else .error (.nullCall c.symbol) := by
  have hpointer := congrFun h c.symbol
  unfold call
  cases hexported : exported c.symbol <;> simp only [hexported] at hpointer <;>
    simp only [hpointer] <;> rfl

theorem openHal_eq (hloaded : boot.libbauthserver = some exported) :
    ∃ s s' : BiometricsFingerprint, Linked exported s ∧ Linked exported s' ∧
      openHal boot {} =
        if exported .ssFingerprintOpen then
          if boot.openResult = 0 then
            if exported .ssSetNotifyCallback then .ok (s', boot.setNotifyResult == 0)
            else .error (.nullCall .ssSetNotifyCallback)
          else .ok (s, false)
        else .error (.nullCall .ssFingerprintOpen) := by
  have hlinked (calls : List VendorCall) : Linked exported
      { pointers := fun symbol => if exported symbol then .function else .null
        called := calls } :=
    rfl
  refine ⟨_, _, hlinked [.openLibrary], hlinked [.openLibrary, .setNotifyCallback], ?_⟩
  simp only [openHal, hloaded]
  rw [bind_call (hlinked [])]
  by_cases hresult : boot.openResult = 0
  · simp only [hresult, ne_eq, not_true_eq_false, if_false, if_true, List.nil_append]
    rw [bind_call (hlinked [.openLibrary])]
    rfl
  · simp only [hresult, ne_eq, not_false_eq_true, if_true, if_false]
    rfl

theorem construct_of_openHal {opened : Bool} (hgestures : flags.hasFingerprintGestures = true)
    (hopenHal : openHal boot {} = .ok (s, opened)) (hs : Linked exported s) :
    ∃ s', Linked exported s' ∧
      construct flags boot = if exported .ssFingerprintRequest then .ok s'
        else .error (.nullCall .ssFingerprintRequest) := by
  have hlinked : Linked exported { s with mIsUdfps := boot.position } := hs
  refine ⟨{ s with mIsUdfps := boot.position
                   created := createsDevice boot
                   called := s.called ++ [.request fingerprintRequestNavigationModeStart 1] },
    hs, ?_⟩
  rw [construct, hopenHal]
  change ite (flags.hasFingerprintGestures = true) _ _ = _
  rw [if_pos hgestures, bind_call hlinked]
  rfl

theorem construct_spec (hgestures : flags.hasFingerprintGestures = true)
    (hloaded : boot.libbauthserver = some exported) :
    ((∀ symbol ∈ startNeeds boot, exported symbol = true) →
      ∃ s, construct flags boot = .ok s ∧ Linked exported s) ∧
    ∀ symbol ∈ startNeeds boot, exported symbol = false →
      ∃ fault, construct flags boot = .error fault := by
  obtain ⟨s, s', hs, hs', hopenHal⟩ := openHal_eq hloaded
  have herror {fault : Fault} (h : openHal boot {} = .error fault) :
      construct flags boot = .error fault := by
    rw [construct, h]
    rfl
  -- once `openHal` has returned, only `request` can be missing
  have hrest {s : BiometricsFingerprint} {opened : Bool} (hs : Linked exported s)
      (h : openHal boot {} = .ok (s, opened))
      (hothers : ∀ symbol ∈ startNeeds boot,
        symbol = .ssFingerprintRequest ∨ exported symbol = true) :
      ((∀ symbol ∈ startNeeds boot, exported symbol = true) →
        ∃ s, construct flags boot = .ok s ∧ Linked exported s) ∧
      ∀ symbol ∈ startNeeds boot, exported symbol = false →
        ∃ fault, construct flags boot = .error fault := by
    obtain ⟨s', hlinked, hconstruct⟩ := construct_of_openHal hgestures h hs
    refine ⟨fun hneeds => ⟨s', ?_, hlinked⟩, fun symbol hsymbol hexported =>
      ⟨.nullCall .ssFingerprintRequest, ?_⟩⟩
    · rw [hconstruct, if_pos (hneeds _ (by simp [startNeeds]))]
    · rcases hothers symbol hsymbol with rfl | hother
      · rw [hconstruct, if_neg (by simp [hexported])]
      · cases hexported.symm.trans hother
  by_cases hopen : exported .ssFingerprintOpen = true
  · rw [if_pos hopen] at hopenHal
    by_cases hresult : boot.openResult = 0
    · rw [if_pos hresult] at hopenHal
      by_cases hset : exported .ssSetNotifyCallback = true
      · rw [if_pos hset] at hopenHal
        exact hrest hs' hopenHal (by simp [startNeeds, hresult, hopen, hset])
      · rw [if_neg hset] at hopenHal
        refine ⟨fun hneeds => absurd (hneeds _ (by simp [startNeeds, hresult])) hset, ?_⟩
        exact fun _ _ _ => ⟨_, herror hopenHal⟩
    · rw [if_neg hresult] at hopenHal
      exact hrest hs hopenHal (by simp [startNeeds, hresult, hopen])
  · rw [if_neg hopen] at hopenHal
    refine ⟨fun hneeds => absurd (hneeds _ (by simp [startNeeds])) hopen, ?_⟩
    exact fun _ _ _ => ⟨_, herror hopenHal⟩

theorem run_concat (self : UInt64) (events : List Event) (event : Event) :
    run flags boot self (events ++ [event]) =
      run flags boot self events >>= fun s =>
        Prod.fst <$> s.step flags self event.1 event.2 := by
  unfold run
  rw [bind_assoc]
  congr 1
  funext s
  rw [List.foldlM_append]
  congr 1
  funext s
  exact bind_pure _

theorem exists_of_bind {α β : Type} {x : Except Fault α} {next : α → Except Fault β} {result : β}
    (h : x >>= next = .ok result) : ∃ value, x = .ok value ∧ next value = .ok result := by
  cases x with
  | error fault => cases h
  | ok value => exact ⟨value, rfl, h⟩

theorem eq_of_call {c : VendorCall} (h : s.call c = .ok s') :
    s' = { s with called := s.called ++ [c] } := by
  unfold call at h
  split at h <;> cases h
  rfl

structure Fresh (s : BiometricsFingerprint) : Prop where
  client : s.mClientCallback = none
  told : s.told = []
  written : s.written = []

theorem fresh_of_openHal {opened : Bool} (h : openHal boot {} = .ok (s, opened)) : Fresh s := by
  unfold openHal at h
  split at h
  · cases h
    exact ⟨rfl, rfl, rfl⟩
  · obtain ⟨s₁, hopen, h⟩ := exists_of_bind h
    cases eq_of_call hopen
    split_ifs at h
    · cases h
      exact ⟨rfl, rfl, rfl⟩
    · obtain ⟨s₂, hset, h⟩ := exists_of_bind h
      cases eq_of_call hset
      cases h
      exact ⟨rfl, rfl, rfl⟩

theorem ran_of_construct (h : construct flags boot = .ok s) : Ran flags boot [] s := by
  unfold construct at h
  obtain ⟨⟨s₁, opened⟩, hopenHal, h⟩ := exists_of_bind h
  have hfresh := fresh_of_openHal hopenHal
  change ite (flags.hasFingerprintGestures = true) _ _ = _ at h
  by_cases hgestures : flags.hasFingerprintGestures = true
  · rw [if_pos hgestures] at h
    obtain ⟨s₂, hcall, h⟩ := exists_of_bind h
    cases eq_of_call hcall
    cases h
    exact ⟨fun _ => rfl, hfresh.client, hfresh.told, hfresh.written⟩
  · rw [if_neg hgestures] at h
    cases h
    exact ⟨fun h => absurd h hgestures, hfresh.client, hfresh.told, hfresh.written⟩

theorem ran_of_run (hrun : run flags boot self events = .ok s) : Ran flags boot events s := by
  induction events using List.reverseRecOn generalizing s with
  | nil =>
    have hconstruct : run flags boot self [] = construct flags boot := bind_pure _
    exact ran_of_construct (hconstruct.symm.trans hrun)
  | append_singleton events event ih =>
    rw [run_concat] at hrun
    obtain ⟨before, hbefore, hstep⟩ := exists_of_bind hrun
    exact (ih hbefore).served (served_of_step hstep)

theorem Provides.concat_iff {event : Event} :
    Provides flags boot exported (events ++ [event]) ↔
      Provides flags boot exported events ∧
        ∀ symbol ∈ event.needs flags (registered events), exported symbol = true := by
  constructor
  · rintro ⟨hstart, hevents⟩
    refine ⟨⟨hstart, ?_⟩, hevents events event (List.prefix_refl _)⟩
    intro past event' hfront
    exact hevents past event' (hfront.trans (List.prefix_append _ _))
  · rintro ⟨⟨hstart, hevents⟩, hevent⟩
    refine ⟨hstart, ?_⟩
    intro past event' hfront
    rcases List.prefix_concat_iff.mp hfront with heq | hfront
    · obtain ⟨rfl, hlast⟩ := List.append_inj' heq rfl
      cases hlast
      exact hevent
    · exact hevents past event' hfront

theorem run_spec (self : UInt64) (hgestures : flags.hasFingerprintGestures = true)
    (hloaded : boot.libbauthserver = some exported) (events : List Event) :
    (Provides flags boot exported events →
      ∃ s, run flags boot self events = .ok s ∧ Linked exported s) ∧
    (¬Provides flags boot exported events →
      ∃ fault, run flags boot self events = .error fault) := by
  induction events using List.reverseRecOn with
  | nil =>
    have hrun : run flags boot self [] = construct flags boot := bind_pure _
    have hspec := construct_spec hgestures hloaded
    rw [hrun]
    refine ⟨fun hprovides => hspec.1 hprovides.start, fun hmissing => ?_⟩
    by_contra hnone
    refine hmissing ⟨fun symbol hsymbol => ?_, by simp⟩
    by_contra hexported
    exact hnone (hspec.2 symbol hsymbol (Bool.eq_false_iff.mpr hexported))
  | append_singleton events event ih =>
    rw [run_concat, Provides.concat_iff]
    by_cases hprovides : Provides flags boot exported events
    · obtain ⟨s, hrun, hlinked⟩ := ih.1 hprovides
      have hstep : StepSpec flags s event (Prod.fst <$> s.step flags self event.1 event.2) :=
        step_spec s event
      rw [hrun]
      change (_ → ∃ s', Prod.fst <$> s.step flags self event.1 event.2 = .ok s' ∧ _) ∧
        (_ → ∃ fault, Prod.fst <$> s.step flags self event.1 event.2 = .error fault)
      rw [← (ran_of_run hrun).client]
      constructor
      · rintro ⟨-, hneeds⟩
        obtain ⟨s', hresult, hserved⟩ := hstep.ok (hlinked.safe_iff.mpr hneeds)
        exact ⟨s', hresult, hserved.pointers.trans hlinked⟩
      · intro hmissing
        exact hstep.error fun hsafe => hmissing ⟨hprovides, hlinked.safe_iff.mp hsafe⟩
    · obtain ⟨fault, hrun⟩ := ih.2 hprovides
      rw [hrun]
      exact ⟨fun h => absurd h.1 hprovides, fun _ => ⟨fault, rfl⟩⟩

theorem not_run_of_not_loaded (hgestures : flags.hasFingerprintGestures = true)
    (hloaded : boot.libbauthserver = none) (self : UInt64) (events : List Event) :
    run flags boot self events = .error (.indeterminate .ssFingerprintRequest) := by
  have hconstruct : construct flags boot = .error (.indeterminate .ssFingerprintRequest) := by
    rw [construct, openHal, hloaded]
    change ite (flags.hasFingerprintGestures = true) _ _ = _
    rw [if_pos hgestures]
    rfl
  rw [run, hconstruct]
  rfl

theorem provides_of_run (hgestures : flags.hasFingerprintGestures = true)
    (hrun : run flags boot self events = .ok s) :
    ∃ exported, boot.libbauthserver = some exported ∧ Provides flags boot exported events := by
  cases hloaded : boot.libbauthserver with
  | none => cases (not_run_of_not_loaded hgestures hloaded self events).symm.trans hrun
  | some exported =>
    refine ⟨exported, rfl, ?_⟩
    by_contra hprovides
    obtain ⟨fault, hfault⟩ := (run_spec self hgestures hloaded events).2 hprovides
    cases hfault.symm.trans hrun

end Runs

/-- **Survival.**  With gestures, the service comes up and serves a run exactly if the vendor
library can be loaded and exports the functions that the constructor and the run call.
`ss_fingerprint_enumerate` is not among them; the other pointers are not tested. -/
theorem service_survives_iff (flags : Flags) (hgestures : flags.hasFingerprintGestures = true)
    (boot : Boot) (self : UInt64) (events : List Event) :
    (∃ s, run flags boot self events = .ok s) ↔
      ∃ exported, boot.libbauthserver = some exported ∧
        (∀ symbol ∈ startNeeds boot, exported symbol = true) ∧
        ∀ past event, past ++ [event] <+: events →
          ∀ symbol ∈ event.needs flags (registered past), exported symbol = true := by
  constructor
  · rintro ⟨s, hrun⟩
    obtain ⟨exported, hloaded, hprovides⟩ := provides_of_run hgestures hrun
    exact ⟨exported, hloaded, hprovides.start, hprovides.events⟩
  · rintro ⟨exported, hloaded, hstart, hevents⟩
    obtain ⟨s, hrun, -⟩ := (run_spec self hgestures hloaded events).1 ⟨hstart, hevents⟩
    exact ⟨s, hrun⟩

/-- A library that lacks `ss_fingerprint_enumerate`. -/
def libraryWithoutEnumerate : Boot where
  libbauthserver := some fun symbol => symbol ≠ .ssFingerprintEnumerate
  openResult := 0
  setNotifyResult := 0
  position := true
  uinputFd := 7
  setEvbit := 0
  setKeybitUp := 0
  setKeybitDown := 0
  writeResult := 1116
  createResult := 0

theorem service_survives_iff_enumerate :
    ∃ exported, libraryWithoutEnumerate.libbauthserver = some exported ∧
      exported .ssFingerprintAuthenticate = true := by
  obtain ⟨exported, hloaded, -, hevents⟩ :=
    (service_survives_iff boardFlags rfl libraryWithoutEnumerate 1
      [(.enumerate, {}), (.authenticate 5 0, {})]).mp ⟨_, rfl⟩
  exact ⟨exported, hloaded, hevents [(.enumerate, {})] (.authenticate 5 0, {})
    (List.prefix_refl _) _ (List.mem_singleton_self _)⟩

/-- **Reports.**  Each call of a client stems from one message and reaches the client that
was registered when the message came, in the order of the messages. -/
theorem clients_told (flags : Flags) (boot : Boot) (self : UInt64) (events : List Event)
    (s : BiometricsFingerprint) (hrun : run flags boot self events = .ok s) :
    s.told = Past.flatMap (fun past event => event.reports flags (registered past)) events :=
  (ran_of_run hrun).told

def handover : List Event :=
  [(.notify (.error 1005), {}), (.setNotify (some 3), {}), (.notify (.acquired 1001), {}),
    (.setNotify (some 4), {}), (.notify (.authenticated ⟨0, 0⟩ zeroToken), {})]

theorem clients_told_handover :
    ∃ s, run boardFlags libraryWithoutEnumerate 1 handover = .ok s ∧
      s.told = [(3, .onAcquired 1 .acquiredVendor 1), (4, .onAuthenticated 1 ⟨0, 0⟩ [])] :=
  ⟨_, rfl, (clients_told boardFlags libraryWithoutEnumerate 1 handover _ rfl).trans rfl⟩

section Keys

variable {flags : Flags} {boot : Boot} {key : Nat} {client : Option Nat} {event : Event}

def InputEvent.leaves (key : Nat) (down : Bool) : InputEvent → Bool
  | .key code value => if code = key then value ≠ 0 else down
  | .synReport => down

def pressed (key : Nat) (written : List InputEvent) : Bool :=
  written.foldl (InputEvent.leaves key) false

def Event.Presses (flags : Flags) (key : Nat) (client : Option Nat) (event : Event) : Prop :=
  ∃ results, event.stroke flags client = some (key, true :: results)

def Event.Sticks (flags : Flags) (key : Nat) (client : Option Nat) (event : Event) : Prop :=
  ∃ results, event.stroke flags client = some (key, results) ∧ ¬[true, true, true] <+: results

theorem leaves_press (down : Bool) : ∀ results,
    (writeEvents (swipe key) (true :: results)).foldl (InputEvent.leaves key) down = true ↔
      ¬[true, true, true] <+: true :: results
  | [] => by simp [writeEvents, swipe, InputEvent.leaves]
  | false :: _ => by simp [writeEvents, swipe, InputEvent.leaves]
  | [true] => by simp [writeEvents, swipe, InputEvent.leaves]
  | true :: false :: _ => by simp [writeEvents, swipe, InputEvent.leaves]
  | [true, true] => by simp [writeEvents, swipe, InputEvent.leaves]
  | true :: true :: false :: _ => by simp [writeEvents, swipe, InputEvent.leaves]
  | true :: true :: true :: _ => by simp [writeEvents, swipe, InputEvent.leaves]

theorem leaves_writeEvents {inputs : List InputEvent} (down : Bool)
    (h : ∀ input ∈ inputs, input.leaves key down = down) (results : List Bool) :
    (writeEvents inputs results).foldl (InputEvent.leaves key) down = down := by
  induction inputs generalizing results with
  | nil => rfl
  | cons input inputs ih =>
    rcases results with _ | ⟨_ | _, results⟩
    · rfl
    · rfl
    · rw [writeEvents, List.foldl_cons, h input List.mem_cons_self]
      exact ih (fun input hinput => h input (List.mem_cons_of_mem _ hinput)) results

theorem typed_of_not_presses (h : ¬event.Presses flags key client) (down : Bool) :
    (event.typed flags boot client).foldl (InputEvent.leaves key) down = down := by
  unfold Event.typed
  split
  next code results hstroke =>
    split_ifs
    · by_cases hcode : code = key
      · subst hcode
        rcases results with _ | ⟨_ | _, results⟩
        · rfl
        · rfl
        · exact absurd ⟨results, hstroke⟩ h
      · exact leaves_writeEvents down (by simp [swipe, InputEvent.leaves, hcode]) results
    · rfl
  next => rfl

theorem typed_of_presses (hcreated : createsDevice boot = true)
    (h : event.Presses flags key client) (down : Bool) :
    (event.typed flags boot client).foldl (InputEvent.leaves key) down = true ↔
      event.Sticks flags key client := by
  obtain ⟨results, hstroke⟩ := h
  simp only [Event.typed, hstroke, hcreated, if_true, leaves_press, Event.Sticks, Option.some.injEq,
    Prod.mk.injEq, true_and]
  simp

end Keys

/-- **Keys.**  A key is down after a run exactly if the last swipe that has pressed it has
failed to release it. -/
theorem key_down_iff (flags : Flags) (boot : Boot) (self : UInt64) (events : List Event)
    (s : BiometricsFingerprint) (hrun : run flags boot self events = .ok s) (key : Nat) :
    pressed key s.written = true ↔
      createsDevice boot = true ∧
        Past.Last (fun past event => event.Presses flags key (registered past))
          (fun past event => event.Sticks flags key (registered past)) events := by
  rw [(ran_of_run hrun).written]
  clear hrun
  cases hcreated : createsDevice boot with
  | false =>
    have hnothing (events : List Event) :
        Past.flatMap (fun past event => event.typed flags boot (registered past)) events = [] := by
      induction events using List.reverseRecOn with
      | nil => rfl
      | append_singleton events event ih =>
        rw [Past.flatMap_concat, ih, Event.typed]
        cases event.stroke flags (registered events) <;> simp [hcreated]
    simp [hnothing, pressed]
  | true =>
    simp only [true_and]
    induction events using List.reverseRecOn with
    | nil => exact iff_of_false Bool.false_ne_true (Past.not_last_nil _ _)
    | append_singleton events event ih =>
      rw [Past.flatMap_concat, pressed, List.foldl_append]
      by_cases hpresses : event.Presses flags key (registered events)
      · rw [typed_of_presses hcreated hpresses]
        symm
        apply Past.last_concat_of_pos
        exact hpresses
      · rw [typed_of_not_presses hpresses]
        exact ih.trans (Past.last_concat_of_neg hpresses).symm

def stuckSwipe : List Event :=
  [(.setNotify (some 3), {}),
    (.notify (.acquired 20001), { results := [true, true, true, true] }),
    (.notify (.acquired 20001), { results := [true, false] }),
    (.notify (.acquired 20002), { results := [true, true, true, true] })]

theorem key_down_iff_stuck :
    (∃ s, run boardFlags libraryWithoutEnumerate 1 stuckSwipe = .ok s ∧
      pressed keyUp s.written = true) ∧
    Past.Last (fun past event => event.Presses boardFlags keyUp (registered past))
      (fun past event => event.Sticks boardFlags keyUp (registered past)) stuckSwipe :=
  ⟨⟨_, rfl, rfl⟩,
    ((key_down_iff boardFlags libraryWithoutEnumerate 1 stuckSwipe _ rfl keyUp).mp rfl).2⟩

end Exynos9810.Fingerprint
