import Exynos9810.Power.PowerSessionManager
import Mathlib.Data.List.Count
import Mathlib.Tactic.Ring

namespace Exynos9810.Power

open PowerSessionManager

/-- A count in the map; zero references leave no entry. -/
def counted : Nat → Option Int
  | 0 => none
  | count + 1 => some (count + 1)

def Turn.Succeeded (turn : Turn) (session : SessionId) (tid : Tid) : Bool :=
  turn.operation = .add ∧ turn.session = session ∧ turn.tid = tid ∧ turn.after ≠ turn.before

def successes (turns : List Turn) (session : SessionId) (tid : Tid) : Nat :=
  turns.countP fun turn => turn.Succeeded session tid

/-- No error branch, and a profile is switched exactly at the first and the last
reference. -/
structure Turn.Ordinary (turn : Turn) : Prop where
  expected : turn.unexpected = false
  reset : turn.profile = some .resetUclampGrp ↔ turn.before = none ∧ turn.after = some 1
  noReset : turn.profile = some .noResetUclampGrp ↔ turn.before = some 1 ∧ turn.after = none

section Loops

variable {setTaskProfiles : Nat → Bool} {session : SessionId} {m : PowerSessionManager}

theorem successes_append (left right : List Turn) (session : SessionId) (tid : Tid) :
    successes (left ++ right) session tid =
      successes left session tid + successes right session tid :=
  List.countP_append

theorem successes_singleton (turn : Turn) (session : SessionId) (tid : Tid) :
    successes [turn] session tid = if turn.Succeeded session tid then 1 else 0 := by
  simp [successes, List.countP_cons]

theorem setCount_counted (count : Nat) {counts gain : Tid → Nat} {tid : Tid}
    (hmap : ∀ t, m.tidRefCountMap t = counted (counts t))
    (hother : ∀ t, t ≠ tid → gain t = counts t) (htid : gain tid = count) (t : Tid) :
    (m.setCount tid (counted count)).tidRefCountMap t = counted (gain t) := by
  by_cases ht : t = tid
  · rw [ht, htid]
    exact if_pos rfl
  · rw [hother t ht, ← hmap t]
    exact if_neg ht

/-- The manager has taken the turns `new` for one session. -/
structure Takes (operation : Operation) (session : SessionId) (new : List Turn)
    (m m' : PowerSessionManager) : Prop where
  turns : m'.turns = m.turns ++ new
  sessions : m'.sessions = m.sessions
  sameSession : ∀ turn ∈ new, turn.operation = operation ∧ turn.session = session

theorem Takes.append {operation : Operation} {first second : List Turn}
    {m m' m'' : PowerSessionManager} (hfirst : Takes operation session first m m')
    (hsecond : Takes operation session second m' m'') :
    Takes operation session (first ++ second) m m'' where
  turns := by rw [hsecond.turns, hfirst.turns, List.append_assoc]
  sessions := hsecond.sessions.trans hfirst.sessions
  sameSession := by
    intro turn hturn
    rcases List.mem_append.mp hturn with h | h
    · exact hfirst.sameSession turn h
    · exact hsecond.sameSession turn h

theorem Takes.singleton {operation : Operation} {turn : Turn} {m m' : PowerSessionManager}
    (hturns : m'.turns = m.turns ++ [turn]) (hsessions : m'.sessions = m.sessions)
    (hoperation : turn.operation = operation) (hsession : turn.session = session) :
    Takes operation session [turn] m m' where
  turns := hturns
  sessions := hsessions
  sameSession := by
    intro turn' h
    cases List.mem_singleton.mp h
    exact ⟨hoperation, hsession⟩

theorem addTid_spec (setTaskProfiles : Nat → Bool) (session : SessionId) {counts : Tid → Nat}
    (hmap : ∀ t, m.tidRefCountMap t = counted (counts t)) (tid : Tid) :
    ∃ turn : Turn, turn.tid = tid ∧
      Takes .add session [turn] m (addTid setTaskProfiles session m tid) ∧
      (∀ t, (addTid setTaskProfiles session m tid).tidRefCountMap t =
        counted (counts t + successes [turn] session t)) ∧
      ((∀ call, setTaskProfiles call = true) →
        turn.Ordinary ∧ successes [turn] session tid = 1) := by
  have hentry := hmap tid
  cases hcount : counts tid with
  | zero =>
    rw [hcount, counted] at hentry
    simp only [addTid, hentry]
    refine ⟨_, ?_, .singleton rfl rfl rfl rfl, ?_, ?_⟩
    · rfl
    · cases hprofile : setTaskProfiles m.profileCalls with
      | true =>
        apply setCount_counted 1 hmap
        · intro t ht
          simp [successes_singleton, Turn.Succeeded, Ne.symm ht]
        · simp [successes_singleton, Turn.Succeeded, hcount]
      | false =>
        apply setCount_counted 0 hmap
        · intro t ht
          simp [successes_singleton, Turn.Succeeded]
        · simp [successes_singleton, Turn.Succeeded, hcount]
    · intro hprofiles
      simp only [hprofiles, if_true]
      exact ⟨⟨rfl, by simp, by simp⟩, by simp [successes_singleton, Turn.Succeeded]⟩
  | succ count =>
    rw [hcount, counted] at hentry
    have hpos : ¬((count : Int) + 1 ≤ 0) := by omega
    simp only [addTid, hentry, if_neg hpos]
    refine ⟨_, ?_, .singleton rfl rfl rfl rfl, ?_, ?_⟩
    · rfl
    · apply setCount_counted (count + 2) hmap
      · intro t ht
        simp [successes_singleton, Turn.Succeeded, Ne.symm ht]
      · simp [successes_singleton, Turn.Succeeded, hcount]
    · intro _
      exact ⟨⟨rfl, by simp, by simp⟩, by simp [successes_singleton, Turn.Succeeded]⟩

theorem successes_singleton_le (turn : Turn) (session : SessionId) (tid : Tid) :
    successes [turn] session tid ≤ [turn.tid].count tid := by
  rw [successes_singleton]
  split
  · rename_i h
    simp only [Turn.Succeeded, decide_eq_true_eq] at h
    simp [h.2.2.1]
  · exact Nat.zero_le _

theorem addTids_spec (setTaskProfiles : Nat → Bool) (session : SessionId) (tids : List Tid)
    {counts : Tid → Nat} (hmap : ∀ t, m.tidRefCountMap t = counted (counts t)) :
    ∃ new : List Turn,
      Takes .add session new m (tids.foldl (addTid setTaskProfiles session) m) ∧
      (∀ t, (tids.foldl (addTid setTaskProfiles session) m).tidRefCountMap t =
        counted (counts t + successes new session t)) ∧
      (∀ t, successes new session t ≤ tids.count t) ∧
      ((∀ call, setTaskProfiles call = true) →
        (∀ turn ∈ new, turn.Ordinary) ∧ ∀ t, successes new session t = tids.count t) := by
  induction tids generalizing m counts with
  | nil =>
    refine ⟨[], ⟨by simp, rfl, by simp⟩, ?_, by simp [successes], by simp [successes]⟩
    simpa [successes] using hmap
  | cons tid tids ih =>
    obtain ⟨turn, rfl, hturn, hcounts, hgood⟩ := addTid_spec setTaskProfiles session hmap tid
    obtain ⟨new, hnew, hcounts', hle, hall⟩ := ih hcounts
    have hsplit (t : Tid) : successes ([turn] ++ new) session t =
        successes [turn] session t + successes new session t := successes_append _ _ _ _
    have hcons (t : Tid) : (turn.tid :: tids).count t = [turn.tid].count t + tids.count t := by
      rw [← List.count_append, List.singleton_append]
    refine ⟨[turn] ++ new, hturn.append hnew, ?_, ?_, ?_⟩
    · intro t
      rw [List.foldl_cons, hcounts' t, hsplit, Nat.add_assoc]
    · intro t
      rw [hsplit, hcons]
      exact Nat.add_le_add (successes_singleton_le turn session t) (hle t)
    · intro hprofiles
      obtain ⟨hordinary, hone⟩ := hgood hprofiles
      obtain ⟨hordinaries, hcount⟩ := hall hprofiles
      refine ⟨?_, ?_⟩
      · intro turn' h
        rcases List.mem_append.mp h with h | h
        · cases List.mem_singleton.mp h
          exact hordinary
        · exact hordinaries turn' h
      · intro t
        rw [hsplit, hcons, hcount t]
        by_cases ht : t = turn.tid
        · rw [ht, hone, List.count_singleton_self]
        · have hzero : successes [turn] session t = 0 := by
            have := successes_singleton_le turn session t
            simp [Ne.symm ht] at this
            exact this
          simp [hzero, Ne.symm ht]

def Turn.Releases (turn : Turn) : Prop :=
  turn.profile = some .noResetUclampGrp ∨ (turn.before ≠ none ∧ turn.after = none)

theorem removeTid_spec (session : SessionId) {counts : Tid → Nat}
    (hmap : ∀ t, m.tidRefCountMap t = counted (counts t)) (tid : Tid) :
    ∃ turn : Turn, turn.tid = tid ∧
      Takes .remove session [turn] m (removeTid session m tid) ∧
      (∀ t, (removeTid session m tid).tidRefCountMap t =
        counted (if t = tid then counts t - 1 else counts t)) ∧
      (turn.Releases → counts tid = 1) ∧ (0 < counts tid → turn.Ordinary) := by
  have hentry := hmap tid
  match hcount : counts tid with
  | 0 =>
    rw [hcount, counted] at hentry
    simp only [removeTid, hentry]
    refine ⟨_, ?_, .singleton rfl rfl rfl rfl, ?_, ?_, ?_⟩
    · rfl
    · intro t
      change m.tidRefCountMap t = _
      rw [hmap]
      split
      · rename_i ht
        rw [ht, hcount]
      · rfl
    · simp [Turn.Releases]
    · intro hpos
      omega
  | 1 =>
    rw [hcount, counted] at hentry
    have hlast : ((0 : Nat) : Int) + 1 - 1 ≤ 0 := by omega
    simp only [removeTid, hentry, if_pos hlast]
    refine ⟨_, ?_, .singleton rfl rfl rfl rfl, ?_, fun _ => trivial, ?_⟩
    · rfl
    · apply setCount_counted 0 hmap
      · intro t ht
        rw [if_neg ht]
      · rw [if_pos rfl, hcount]
    · intro _
      exact ⟨rfl, by simp, by simp⟩
  | count + 2 =>
    rw [hcount, counted] at hentry
    have hmore : ¬(((count + 1 : Nat) : Int) + 1 - 1 ≤ 0) := by omega
    have hcounted : some (((count + 1 : Nat) : Int) + 1 - 1) = counted (count + 1) := by
      simp [counted]
    simp only [removeTid, hentry, if_neg hmore]
    rw [hcounted]
    refine ⟨_, ?_, .singleton rfl rfl rfl rfl, ?_, ?_, ?_⟩
    · rfl
    · apply setCount_counted (count + 1) hmap
      · intro t ht
        rw [if_neg ht]
      · rw [if_pos rfl, hcount]
        rfl
    · simp [Turn.Releases, counted]
    · intro _
      refine ⟨rfl, by simp, by simp [counted]⟩

/-- What a session still holds after one of its turns on `tid`. -/
def spend (own : Tid → Nat) (tid : Tid) : Tid → Nat :=
  fun t => if t = tid then own t - 1 else own t

theorem spend_of_cons {P : Tid → Nat → Nat → Prop} {own : Tid → Nat} {tid : Tid}
    {tids : List Tid} (hall : ∀ t, P t (own t) ((tid :: tids).count t))
    (hself : P tid (own tid) (tids.count tid + 1) → P tid (own tid - 1) (tids.count tid))
    (t : Tid) : P t (spend own tid t) (tids.count t) := by
  by_cases ht : t = tid
  · have hheld := hall tid
    rw [List.count_cons_self] at hheld
    rw [ht, spend, if_pos rfl]
    exact hself hheld
  · rw [spend, if_neg ht, ← List.count_cons_of_ne (Ne.symm ht)]
    exact hall t

/-- The whole loop of `removePowerSession`, for a session that has `own`
references while the others have `others`. -/
theorem removeTids_spec (session : SessionId) (tids : List Tid) {own others : Tid → Nat}
    (hmap : ∀ t, m.tidRefCountMap t = counted (own t + others t))
    (hle : ∀ t, own t ≤ tids.count t)
    (hown : ∀ t, own t = tids.count t ∨ others t = 0) :
    ∃ new : List Turn, Takes .remove session new m (tids.foldl (removeTid session) m) ∧
      (∀ t, (tids.foldl (removeTid session) m).tidRefCountMap t = counted (others t)) ∧
      (∀ turn ∈ new, turn.Releases → others turn.tid = 0) ∧
      ((∀ t, own t = tids.count t) → ∀ turn ∈ new, turn.Ordinary) := by
  induction tids generalizing m own with
  | nil =>
    refine ⟨[], ⟨by simp, rfl, by simp⟩, ?_, by simp, by simp⟩
    intro t
    have hzero := hle t
    rw [List.count_nil] at hzero
    rw [List.foldl_nil, hmap, Nat.le_zero.mp hzero, Nat.zero_add]
  | cons tid tids ih =>
    obtain ⟨turn, rfl, hturn, hcounts, hrelease, hordinary⟩ := removeTid_spec session hmap tid
    have hle' := hle turn.tid
    have hown' := hown turn.tid
    rw [List.count_cons_self] at hle' hown'
    have hmap' (t : Tid) : (removeTid session m turn.tid).tidRefCountMap t =
        counted (spend own turn.tid t + others t) := by
      rw [hcounts t, spend]
      split
      · rename_i ht
        subst ht
        congr 1
        omega
      · rfl
    have hspentLe (t : Tid) : spend own turn.tid t ≤ tids.count t :=
      spend_of_cons (P := fun _ held listed => held ≤ listed) hle (fun _ => by omega) t
    have hspentOwn (t : Tid) : spend own turn.tid t = tids.count t ∨ others t = 0 :=
      spend_of_cons (P := fun t held listed => held = listed ∨ others t = 0) hown
        (fun _ => by omega) t
    obtain ⟨new, hnew, hmap'', hreleases, hordinaries⟩ := ih hmap' hspentLe hspentOwn
    refine ⟨[turn] ++ new, hturn.append hnew, hmap'', ?_, ?_⟩
    · intro turn' h hreleases'
      rcases List.mem_append.mp h with h | h
      · cases List.mem_singleton.mp h
        have := hrelease hreleases'
        omega
      · exact hreleases turn' h hreleases'
    · intro hall turn' h
      have hturnCount := hall turn.tid
      rw [List.count_cons_self] at hturnCount
      rcases List.mem_append.mp h with h | h
      · cases List.mem_singleton.mp h
        exact hordinary (by omega)
      · refine hordinaries (fun t => ?_) turn' h
        exact spend_of_cons (P := fun _ held listed => held = listed) hall
          (fun _ => by omega) t

theorem successes_eq_zero {turns : List Turn} {session : SessionId}
    (h : ∀ turn ∈ turns, turn.operation = .remove ∨ turn.session ≠ session) (tid : Tid) :
    successes turns session tid = 0 := by
  rw [successes, List.countP_eq_zero]
  intro turn hturn
  simp only [Turn.Succeeded, decide_eq_true_eq]
  rintro ⟨hoperation, hsession, -⟩
  rcases h turn hturn with hremove | hother
  · rw [hremove] at hoperation
    cases hoperation
  · exact hother hsession

theorem Takes.successes_other {operation : Operation} {session other : SessionId}
    {new : List Turn} {m m' : PowerSessionManager} (h : Takes operation session new m m')
    (hne : other ≠ session) (t : Tid) : successes m'.turns other t = successes m.turns other t := by
  have hzero : successes new other t = 0 := by
    apply successes_eq_zero
    intro turn hturn
    exact Or.inr (by rw [(h.sameSession turn hturn).2]; exact hne.symm)
  rw [h.turns, successes_append, hzero, Nat.add_zero]

theorem Takes.successes_remove {session : SessionId} {new : List Turn}
    {m m' : PowerSessionManager} (h : Takes .remove session new m m') (other : SessionId)
    (t : Tid) : successes m'.turns other t = successes m.turns other t := by
  have hzero : successes new other t = 0 := by
    apply successes_eq_zero
    intro turn hturn
    exact Or.inl (h.sameSession turn hturn).1
  rw [h.turns, successes_append, hzero, Nat.add_zero]

end Loops

end Exynos9810.Power
