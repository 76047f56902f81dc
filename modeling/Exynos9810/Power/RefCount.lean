import Exynos9810.Library.Transition
import Exynos9810.Power.RefCountTurns
import Mathlib.Algebra.BigOperators.Group.Finset.Basic

/-!
# Reference counts of tids

Sessions are created, closed and destroyed in any order.  The count of a tid is
the number of successful additions by the sessions that are still registered,
as long as every session removes exactly what it has added.
-/
namespace Exynos9810.Power

open PowerSessionManager Transition

/-- What `PowerHintSession` brings to the manager. -/
structure SessionObject where
  threadIds : List Tid
  sessionClosed : Bool
  alive : Bool
  deriving DecidableEq, Repr

structure Registry where
  manager : PowerSessionManager
  objects : List SessionObject

def Registry.init : Registry :=
  { manager := PowerSessionManager.init, objects := [] }

inductive RegistryCall where
  | create (threadIds : List Tid)
  | close (session : SessionId)
  | destroy (session : SessionId)
  deriving DecidableEq, Repr

/-- `PowerHintSession::close`: only the call that flips `mSessionClosed` removes
the session. -/
def Registry.close (r : Registry) (session : SessionId) (object : SessionObject) : Registry :=
  if object.sessionClosed then r
  else
    { manager := r.manager.removePowerSession session object.threadIds
      objects := r.objects.set session { object with sessionClosed := true } }

/-- The destructor closes the session first. -/
def Registry.destroy (r : Registry) (session : SessionId) (object : SessionObject) : Registry :=
  let r := r.close session object
  { r with objects := r.objects.modify session fun object => { object with alive := false } }

def Registry.live (r : Registry) (session : SessionId) : Option SessionObject :=
  r.objects[session]?.filter (·.alive)

def Registry.threadIds (r : Registry) (session : SessionId) : List Tid :=
  (r.objects[session]?.map SessionObject.threadIds).getD []

def registryStep (setTaskProfiles : Nat → Bool) (r : Registry) :
    RegistryCall → Option Registry
  | .create threadIds =>
    some
      { manager := r.manager.addPowerSession setTaskProfiles r.objects.length threadIds
        objects := r.objects ++ [{ threadIds, sessionClosed := false, alive := true }] }
  | .close session => (r.live session).map (r.close session)
  | .destroy session => (r.live session).map (r.destroy session)

def RegistryCall.removes : RegistryCall → Option SessionId
  | .create _ => none
  | .close session => some session
  | .destroy session => some session

/-- A session that is removed has added a reference for each occurrence of its
tids, or nobody else has a reference to the tid. -/
def OwnsItsTids (r : Registry) (call : RegistryCall) : Prop :=
  ∀ session ∈ call.removes, ∀ object ∈ r.objects[session]?, object.sessionClosed = false →
    ∀ t ∈ object.threadIds, successes r.manager.turns session t = object.threadIds.count t ∨
      ∀ other ∈ r.manager.sessions.erase session, successes r.manager.turns other t = 0

instance (r : Registry) (call : RegistryCall) : Decidable (OwnsItsTids r call) :=
  inferInstanceAs (Decidable (∀ session ∈ call.removes, ∀ object ∈ r.objects[session]?,
    object.sessionClosed = false → ∀ t ∈ object.threadIds,
      successes r.manager.turns session t = object.threadIds.count t ∨
        ∀ other ∈ r.manager.sessions.erase session, successes r.manager.turns other t = 0))

/-- The counts are the successful additions of the registered sessions. -/
structure Consistent (r : Registry) : Prop where
  registered : ∀ session, session ∈ r.manager.sessions ↔
    ∃ object, r.objects[session]? = some object ∧ object.sessionClosed = false
  counts : ∀ t, r.manager.tidRefCountMap t =
    counted (∑ session ∈ r.manager.sessions, successes r.manager.turns session t)
  known : ∀ turn ∈ r.manager.turns, turn.session < r.objects.length
  bounded : ∀ session object, r.objects[session]? = some object →
    ∀ t, successes r.manager.turns session t ≤ object.threadIds.count t

def ReleasesForeign (r r' : Registry) : Prop :=
  ∃ turn ∈ r'.manager.turns.drop r.manager.turns.length, turn.operation = .remove ∧
    turn.Releases ∧ ∃ other ∈ r'.manager.sessions, other ≠ turn.session ∧
      0 < successes r'.manager.turns other turn.tid

section Steps

variable {setTaskProfiles : Nat → Bool} {r : Registry}

theorem Consistent.successes_fresh (h : Consistent r) (t : Tid) :
    successes r.manager.turns r.objects.length t = 0 := by
  apply successes_eq_zero
  intro turn hturn
  exact Or.inr (Nat.ne_of_lt (h.known turn hturn))

theorem Consistent.known_of_takes (h : Consistent r) {operation : Operation}
    {session : SessionId} {new : List Turn} {m' : PowerSessionManager} {length : Nat}
    (htakes : Takes operation session new r.manager m') (hlength : r.objects.length ≤ length)
    (hsession : session < length) {turn : Turn} (hturn : turn ∈ m'.turns) :
    turn.session < length := by
  rw [htakes.turns] at hturn
  rcases List.mem_append.mp hturn with hturn | hturn
  · exact Nat.lt_of_lt_of_le (h.known turn hturn) hlength
  · rw [(htakes.sameSession turn hturn).2]
    exact hsession

theorem Consistent.not_registered_fresh (h : Consistent r) :
    r.objects.length ∉ r.manager.sessions := by
  intro hmem
  obtain ⟨object, hobject, -⟩ := (h.registered _).mp hmem
  rw [List.getElem?_eq_none (Nat.le_refl _)] at hobject
  cases hobject

theorem getElem?_concat_cases {objects : List SessionObject} {last object : SessionObject}
    {session : SessionId} (h : (objects ++ [last])[session]? = some object) :
    (session ≠ objects.length ∧ objects[session]? = some object) ∨
      (session = objects.length ∧ object = last) := by
  by_cases hsession : session = objects.length
  · rw [hsession, List.getElem?_concat_length] at h
    exact Or.inr ⟨hsession, (Option.some.inj h).symm⟩
  · have hlt := (List.getElem?_eq_some_iff.mp h).1
    rw [List.length_append, List.length_singleton] at hlt
    rw [List.getElem?_append_left
      (Nat.lt_of_le_of_ne (Nat.le_of_lt_succ hlt) hsession)] at h
    exact Or.inl ⟨hsession, h⟩

theorem create_consistent (setTaskProfiles : Nat → Bool) (h : Consistent r)
    (threadIds : List Tid) :
    ∃ new : List Turn,
      Takes .add r.objects.length new r.manager
        (threadIds.foldl (addTid setTaskProfiles r.objects.length) r.manager) ∧
      Consistent
        { manager := r.manager.addPowerSession setTaskProfiles r.objects.length threadIds
          objects := r.objects ++ [{ threadIds, sessionClosed := false, alive := true }] } ∧
      ((∀ call, setTaskProfiles call = true) →
        (∀ turn ∈ new, turn.Ordinary) ∧
          ∀ t, successes new r.objects.length t = threadIds.count t) := by
  obtain ⟨new, htakes, hcounts, hle, hall⟩ :=
    addTids_spec setTaskProfiles r.objects.length threadIds h.counts
  refine ⟨new, htakes, ?_, hall⟩
  let m' := threadIds.foldl (addTid setTaskProfiles r.objects.length) r.manager
  have hnew (t : Tid) : successes m'.turns r.objects.length t =
      successes new r.objects.length t := by
    rw [htakes.turns, successes_append, h.successes_fresh, Nat.zero_add]
  constructor
  · intro session
    change session ∈ insert r.objects.length m'.sessions ↔ _
    rw [htakes.sessions, Finset.mem_insert, h.registered]
    constructor
    · rintro (rfl | ⟨object, hobject, hopen⟩)
      · exact ⟨_, List.getElem?_concat_length, rfl⟩
      · have hlt := (List.getElem?_eq_some_iff.mp hobject).1
        exact ⟨object, by rw [List.getElem?_append_left hlt, hobject], hopen⟩
    · rintro ⟨object, hobject, hopen⟩
      rcases getElem?_concat_cases hobject with ⟨-, hobject⟩ | ⟨hsession, -⟩
      · exact Or.inr ⟨object, hobject, hopen⟩
      · exact Or.inl hsession
  · intro t
    change m'.tidRefCountMap t = counted (∑ session ∈ insert r.objects.length m'.sessions,
      successes m'.turns session t)
    have hsum : ∑ session ∈ r.manager.sessions, successes m'.turns session t =
        ∑ session ∈ r.manager.sessions, successes r.manager.turns session t := by
      apply Finset.sum_congr rfl
      intro session hsession
      exact htakes.successes_other (fun heq => h.not_registered_fresh (heq ▸ hsession)) t
    rw [htakes.sessions, Finset.sum_insert h.not_registered_fresh, hnew, hsum, Nat.add_comm]
    exact hcounts t
  · intro turn hturn
    rw [List.length_append, List.length_singleton]
    exact h.known_of_takes htakes (Nat.le_succ _) (Nat.lt_succ_self _) hturn
  · intro session object hobject t
    change successes m'.turns session t ≤ _
    rcases getElem?_concat_cases hobject with ⟨hsession, hobject⟩ | ⟨rfl, rfl⟩
    · rw [htakes.successes_other hsession]
      exact h.bounded session object hobject t
    · rw [hnew]
      exact hle t

theorem getElem?_close {session other : SessionId} {object object' : SessionObject}
    (hobject : r.objects[session]? = some object)
    (h : (r.close session object).objects[other]? = some object') :
    ∃ original, r.objects[other]? = some original ∧
      object'.threadIds = original.threadIds := by
  unfold Registry.close at h
  split at h
  · exact ⟨object', h, rfl⟩
  · by_cases hother : session = other
    · subst hother
      rw [List.getElem?_set_self (List.getElem?_eq_some_iff.mp hobject).1] at h
      cases h
      exact ⟨object, hobject, rfl⟩
    · rw [List.getElem?_set_ne hother] at h
      exact ⟨object', h, rfl⟩

theorem close_of_closed {session : SessionId} {object : SessionObject}
    (hclosed : object.sessionClosed = true) : r.close session object = r := by
  rw [Registry.close, hclosed, if_pos rfl]

theorem close_of_open {session : SessionId} {object : SessionObject}
    (hopen : object.sessionClosed = false) : r.close session object =
      { manager := r.manager.removePowerSession session object.threadIds
        objects := r.objects.set session { object with sessionClosed := true } } := by
  rw [Registry.close, hopen, if_neg Bool.false_ne_true]

theorem Consistent.registered_close (h : Consistent r) {session : SessionId}
    {object : SessionObject} (hobject : r.objects[session]? = some object)
    (hopen : object.sessionClosed = false) (other : SessionId) :
    other ∈ r.manager.sessions.erase session ↔
      ∃ object', (r.close session object).objects[other]? = some object' ∧
        object'.sessionClosed = false := by
  have hlt : session < r.objects.length := (List.getElem?_eq_some_iff.mp hobject).1
  rw [Finset.mem_erase, h.registered, close_of_open hopen]
  by_cases hother : session = other
  · simp [← hother, hlt]
  · simp [List.getElem?_set_ne hother, Ne.symm hother]

/-- A session either holds a reference for every time it lists a tid, or no other one
holds any. -/
theorem Consistent.owns_or_alone (h : Consistent r) {session : SessionId}
    {object : SessionObject} (hobject : r.objects[session]? = some object)
    (howns : ∀ t ∈ object.threadIds,
      successes r.manager.turns session t = object.threadIds.count t ∨
        ∀ other ∈ r.manager.sessions.erase session, successes r.manager.turns other t = 0)
    (t : Tid) : successes r.manager.turns session t = object.threadIds.count t ∨
      ∑ other ∈ r.manager.sessions.erase session, successes r.manager.turns other t = 0 := by
  by_cases ht : t ∈ object.threadIds
  · exact (howns t ht).imp_right fun hzero => Finset.sum_eq_zero hzero
  · left
    have hle := h.bounded session object hobject t
    rw [List.count_eq_zero_of_not_mem ht] at hle ⊢
    exact Nat.le_zero.mp hle

theorem close_consistent (h : Consistent r) {session : SessionId} {object : SessionObject}
    (hobject : r.objects[session]? = some object) (hopen : object.sessionClosed = false)
    (howns : ∀ t ∈ object.threadIds,
      successes r.manager.turns session t = object.threadIds.count t ∨
        ∀ other ∈ r.manager.sessions.erase session, successes r.manager.turns other t = 0) :
    ∃ new : List Turn,
      (r.close session object).manager.turns = r.manager.turns ++ new ∧
      (r.close session object).manager.sessions = r.manager.sessions.erase session ∧
      (∀ other t, successes (r.close session object).manager.turns other t =
        successes r.manager.turns other t) ∧
      Consistent (r.close session object) ∧
      (∀ turn ∈ new, turn.Releases → ∀ other ∈ r.manager.sessions.erase session,
        successes r.manager.turns other turn.tid = 0) ∧
      ((∀ t, successes r.manager.turns session t = object.threadIds.count t) →
        ∀ turn ∈ new, turn.Ordinary) := by
  have hmem : session ∈ r.manager.sessions := (h.registered session).mpr ⟨object, hobject, hopen⟩
  have hmap (t : Tid) : r.manager.tidRefCountMap t = counted (successes r.manager.turns session t +
      ∑ other ∈ r.manager.sessions.erase session, successes r.manager.turns other t) := by
    rw [h.counts t, ← Finset.add_sum_erase _ _ hmem]
  obtain ⟨new, htakes, hcounts, hreleases, hordinary⟩ :=
    removeTids_spec session object.threadIds hmap (h.bounded session object hobject)
      (h.owns_or_alone hobject howns)
  have hclose : r.close session object = _ := close_of_open hopen
  have hturns : (r.close session object).manager.turns = r.manager.turns ++ new := by
    rw [hclose]
    exact htakes.turns
  have hsessions : (r.close session object).manager.sessions =
      r.manager.sessions.erase session := by
    rw [hclose, removePowerSession, htakes.sessions]
  have hsame (other : SessionId) (t : Tid) :
      successes (r.close session object).manager.turns other t =
        successes r.manager.turns other t := by
    rw [hclose]
    exact htakes.successes_remove other t
  refine ⟨new, hturns, hsessions, hsame, ?_, ?_, hordinary⟩
  · constructor
    · intro other
      rw [hsessions]
      exact h.registered_close hobject hopen other
    · intro t
      simp only [hsessions, hsame]
      rw [hclose]
      exact hcounts t
    · intro turn hturn
      rw [hclose] at hturn
      rw [hclose, List.length_set]
      exact h.known_of_takes htakes (Nat.le_refl _) (List.getElem?_eq_some_iff.mp hobject).1 hturn
    · intro other object' hobject' t
      obtain ⟨original, horiginal, hthreadIds⟩ := getElem?_close hobject hobject'
      rw [hsame, hthreadIds]
      exact h.bounded other original horiginal t
  · intro turn hturn hrelease other hother
    exact Finset.sum_eq_zero_iff.mp (hreleases turn hturn hrelease) other hother

theorem getElem?_modify_alive {objects : List SessionObject} {session other : SessionId}
    {object' : SessionObject} (h : (objects.modify session fun object =>
      { object with alive := false })[other]? = some object') :
    ∃ object, objects[other]? = some object ∧ object'.threadIds = object.threadIds ∧
      object'.sessionClosed = object.sessionClosed := by
  rw [List.getElem?_modify] at h
  obtain ⟨object, hobject, rfl⟩ := Option.map_eq_some_iff.mp h
  exact ⟨object, hobject, by split <;> rfl, by split <;> rfl⟩

theorem Consistent.modify_alive (h : Consistent r) (session : SessionId) :
    Consistent { r with
      objects := r.objects.modify session fun object => { object with alive := false } } := by
  constructor
  · intro other
    rw [h.registered]
    constructor
    · rintro ⟨object, hobject, hopen⟩
      refine ⟨_, by rw [List.getElem?_modify, hobject]; rfl, ?_⟩
      dsimp only
      split <;> exact hopen
    · rintro ⟨object', hobject', hopen⟩
      obtain ⟨object, hobject, -, hclosed⟩ := getElem?_modify_alive hobject'
      exact ⟨object, hobject, hclosed ▸ hopen⟩
  · exact h.counts
  · intro turn hturn
    rw [List.length_modify]
    exact h.known turn hturn
  · intro other object' hobject' t
    obtain ⟨object, hobject, hthreadIds, -⟩ := getElem?_modify_alive hobject'
    rw [hthreadIds]
    exact h.bounded other object hobject t

theorem close_spec (h : Consistent r) {session : SessionId} {object : SessionObject}
    (hobject : r.objects[session]? = some object)
    (howns : object.sessionClosed = false → ∀ t ∈ object.threadIds,
      successes r.manager.turns session t = object.threadIds.count t ∨
        ∀ other ∈ r.manager.sessions.erase session, successes r.manager.turns other t = 0) :
    Consistent (r.close session object) ∧ ¬ReleasesForeign r (r.close session object) := by
  cases hclosed : object.sessionClosed with
  | true =>
    rw [close_of_closed hclosed]
    refine ⟨h, ?_⟩
    rintro ⟨turn, hturn, -⟩
    rw [List.drop_length] at hturn
    cases hturn
  | false =>
    obtain ⟨new, hturns, hsessions, hsame, hconsistent, hreleases, -⟩ :=
      close_consistent h hobject hclosed (howns hclosed)
    refine ⟨hconsistent, ?_⟩
    rintro ⟨turn, hturn, -, hrelease, other, hother, hne, hpos⟩
    rw [hturns, List.drop_left] at hturn
    rw [hsessions] at hother
    rw [hsame, hreleases turn hturn hrelease other hother] at hpos
    exact Nat.lt_irrefl 0 hpos

theorem live_eq_some {session : SessionId} {object : SessionObject}
    (h : r.live session = some object) : r.objects[session]? = some object :=
  (Option.filter_eq_some_iff.mp h).1

/-- One step keeps the counts right and takes no tid away from another session. -/
theorem step_consistent {call : RegistryCall} {r' : Registry} (h : Consistent r)
    (howns : OwnsItsTids r call) (hstep : registryStep setTaskProfiles r call = some r') :
    Consistent r' ∧ ¬ReleasesForeign r r' := by
  cases call with
  | create threadIds =>
    cases hstep
    obtain ⟨new, htakes, hconsistent, -⟩ :=
      create_consistent setTaskProfiles h threadIds
    refine ⟨hconsistent, ?_⟩
    rintro ⟨turn, hturn, hoperation, -⟩
    have hturns : (r.manager.addPowerSession setTaskProfiles r.objects.length threadIds).turns =
        r.manager.turns ++ new := htakes.turns
    rw [hturns, List.drop_left] at hturn
    rw [(htakes.sameSession turn hturn).1] at hoperation
    cases hoperation
  | close session =>
    obtain ⟨object, hlive, rfl⟩ := Option.map_eq_some_iff.mp hstep
    have hobject := live_eq_some hlive
    exact close_spec h hobject (howns session rfl object hobject)
  | destroy session =>
    obtain ⟨object, hlive, rfl⟩ := Option.map_eq_some_iff.mp hstep
    have hobject := live_eq_some hlive
    obtain ⟨hconsistent, hforeign⟩ := close_spec h hobject (howns session rfl object hobject)
    exact ⟨hconsistent.modify_alive session, hforeign⟩

theorem init_consistent : Consistent Registry.init where
  registered := by simp [Registry.init, PowerSessionManager.init]
  counts := by simp [Registry.init, PowerSessionManager.init, counted]
  known := by simp [Registry.init, PowerSessionManager.init]
  bounded := by simp [Registry.init]

/-- With profile calls that succeed, every session has added all it lists. -/
structure Exact (r : Registry) : Prop where
  consistent : Consistent r
  complete : ∀ session object, r.objects[session]? = some object →
    ∀ t, successes r.manager.turns session t = object.threadIds.count t
  ordinary : ∀ turn ∈ r.manager.turns, turn.Ordinary

theorem init_exact : Exact Registry.init where
  consistent := init_consistent
  complete := by simp [Registry.init]
  ordinary := by simp [Registry.init, PowerSessionManager.init]

theorem create_exact (hprofiles : ∀ call, setTaskProfiles call = true) (h : Exact r)
    (threadIds : List Tid) :
    Exact
      { manager := r.manager.addPowerSession setTaskProfiles r.objects.length threadIds
        objects := r.objects ++ [{ threadIds, sessionClosed := false, alive := true }] } := by
  obtain ⟨new, htakes, hconsistent, hall⟩ :=
    create_consistent setTaskProfiles h.consistent threadIds
  obtain ⟨hordinary, hcount⟩ := hall hprofiles
  let m' := threadIds.foldl (addTid setTaskProfiles r.objects.length) r.manager
  refine ⟨hconsistent, ?_, ?_⟩
  · intro session object hobject t
    change successes m'.turns session t = _
    rcases getElem?_concat_cases hobject with ⟨hsession, hobject⟩ | ⟨rfl, rfl⟩
    · rw [htakes.successes_other hsession]
      exact h.complete session object hobject t
    · rw [htakes.turns, successes_append, h.consistent.successes_fresh, Nat.zero_add]
      exact hcount t
  · intro turn hturn
    change turn ∈ m'.turns at hturn
    rw [htakes.turns] at hturn
    rcases List.mem_append.mp hturn with hturn | hturn
    · exact h.ordinary turn hturn
    · exact hordinary turn hturn

theorem close_exact (h : Exact r) {session : SessionId} {object : SessionObject}
    (hobject : r.objects[session]? = some object) : Exact (r.close session object) := by
  cases hclosed : object.sessionClosed with
  | true =>
    rw [close_of_closed hclosed]
    exact h
  | false =>
    obtain ⟨new, hturns, -, hsame, hconsistent, -, hordinary⟩ :=
      close_consistent h.consistent hobject hclosed fun t _ =>
        Or.inl (h.complete session object hobject t)
    refine ⟨hconsistent, ?_, ?_⟩
    · intro other object' hobject' t
      obtain ⟨original, horiginal, hthreadIds⟩ := getElem?_close hobject hobject'
      rw [hsame, hthreadIds]
      exact h.complete other original horiginal t
    · intro turn hturn
      rw [hturns] at hturn
      rcases List.mem_append.mp hturn with hturn | hturn
      · exact h.ordinary turn hturn
      · exact hordinary (h.complete session object hobject) turn hturn

theorem Exact.modify_alive (h : Exact r) (session : SessionId) :
    Exact { r with
      objects := r.objects.modify session fun object => { object with alive := false } } where
  consistent := h.consistent.modify_alive session
  complete := by
    intro other object' hobject' t
    obtain ⟨object, hobject, hthreadIds, -⟩ := getElem?_modify_alive hobject'
    rw [hthreadIds]
    exact h.complete other object hobject t
  ordinary := h.ordinary

theorem step_exact (hprofiles : ∀ call, setTaskProfiles call = true) {call : RegistryCall}
    {r' : Registry} (h : Exact r) (hstep : registryStep setTaskProfiles r call = some r') :
    Exact r' := by
  cases call with
  | create threadIds =>
    cases hstep
    exact create_exact hprofiles h threadIds
  | close session =>
    obtain ⟨object, hlive, rfl⟩ := Option.map_eq_some_iff.mp hstep
    exact close_exact h (live_eq_some hlive)
  | destroy session =>
    obtain ⟨object, hlive, rfl⟩ := Option.map_eq_some_iff.mp hstep
    exact (close_exact h (live_eq_some hlive)).modify_alive session

end Steps

theorem exact_of_reach {setTaskProfiles : Nat → Bool} {r : Registry}
    (hprofiles : ∀ call, setTaskProfiles call = true)
    (hreach : Reach (registryStep setTaskProfiles) Free Registry.init r) : Exact r :=
  hreach.invariant Exact init_exact fun _ _ _ h _ hstep => step_exact hprofiles h hstep

def Registry.references (r : Registry) (t : Tid) : Nat :=
  ∑ session ∈ r.manager.sessions, (r.threadIds session).count t

theorem Exact.tidRefCountMap_eq {r : Registry} (h : Exact r) (t : Tid) :
    r.manager.tidRefCountMap t = counted (r.references t) := by
  rw [h.consistent.counts t]
  congr 1
  apply Finset.sum_congr rfl
  intro session hsession
  obtain ⟨object, hobject, -⟩ := (h.consistent.registered session).mp hsession
  rw [h.complete session object hobject t, Registry.threadIds, hobject]
  rfl

/-- Along runs in which every removed session owns its tids, no removal gives up
a tid that another registered session has added. -/
theorem no_foreign_release {setTaskProfiles : Nat → Bool} {r r' : Registry}
    {call : RegistryCall}
    (hreach : Reach (registryStep setTaskProfiles) OwnsItsTids Registry.init r)
    (howns : OwnsItsTids r call) (hstep : registryStep setTaskProfiles r call = some r') :
    ¬ReleasesForeign r r' := by
  have h : Consistent r := hreach.invariant Consistent init_consistent fun _ _ _ h howns hstep =>
    (step_consistent h howns hstep).1
  exact (step_consistent h howns hstep).2

/-- The first session could not add tid 7, the second could.  Removing the
second one is harmless. -/
theorem no_foreign_release_owner :
    ∃ r r', exec (registryStep fun call => call != 0) OwnsItsTids Registry.init
        [.create [7], .create [7]] = some r ∧
      registryStep (fun call => call != 0) r (.close 1) = some r' ∧ ¬ReleasesForeign r r' := by
  refine ⟨_, _, rfl, rfl, ?_⟩
  exact @no_foreign_release (fun call => call != 0) _ _ (.close 1)
    (reach_of_exec [.create [7], .create [7]] rfl) (by decide) rfl

/-- Removing the first one takes the tid away from the second. -/
theorem foreign_release :
    ∃ r r', exec (registryStep fun call => call != 0) Free Registry.init
        [.create [7], .create [7]] = some r ∧
      registryStep (fun call => call != 0) r (.close 0) = some r' ∧ ReleasesForeign r r' := by
  refine ⟨_, _, rfl, rfl, ⟨.remove, 0, 7, some 1, none, some .noResetUclampGrp, false⟩, ?_, rfl,
    Or.inl rfl, 1, ?_, ?_, ?_⟩
  · decide
  · decide
  · decide
  · decide

end Exynos9810.Power
