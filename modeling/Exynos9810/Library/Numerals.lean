import Mathlib.Data.Nat.Digits.Defs
import Mathlib.Tactic.Ring

namespace Numerals

def IsDigit (c : Char) : Prop :=
  c ∈ "0123456789abcdef".toList

instance (c : Char) : Decidable (IsDigit c) :=
  inferInstanceAs (Decidable (_ ∈ _))

variable {base : Nat}

theorem digitChar_inj {m n : Nat} (hm : m < 16) (hn : n < 16)
    (h : m.digitChar = n.digitChar) : m = n := by
  have hall : ∀ m < 16, ∀ n < 16, Nat.digitChar m = Nat.digitChar n → m = n := by decide
  exact hall m hm n hn h

theorem isDigit_digitChar {n : Nat} (hn : n < 16) : IsDigit n.digitChar := by
  have hall : ∀ n < 16, IsDigit (Nat.digitChar n) := by decide
  exact hall n hn

theorem isDigit_of_mem_toDigits (hone : 1 < base) (hbase : base ≤ 16) (n : Nat) :
    ∀ c ∈ base.toDigits n, IsDigit c := by
  induction n using Nat.strongRecOn with
  | ind n ih =>
    intro c hc
    by_cases hlt : n < base
    · rw [Nat.toDigits_of_lt_base hlt, List.mem_singleton] at hc
      rw [hc]
      exact isDigit_digitChar (hlt.trans_le hbase)
    · have hle := Nat.le_of_not_lt hlt
      have hmod := Nat.mod_lt n (by omega : 0 < base)
      rw [Nat.toDigits_of_base_le hone hle] at hc
      rcases List.mem_append.mp hc with hc | hc
      · exact ih (n / base) (Nat.div_lt_self (by omega) hone) c hc
      · rw [List.mem_singleton.mp hc]
        exact isDigit_digitChar (hmod.trans_le hbase)

theorem length_toDigits_of_base_le (hone : 1 < base) {n : Nat} (h : base ≤ n) :
    2 ≤ (base.toDigits n).length := by
  have hpos := List.length_pos_iff.mpr (Nat.toDigits_ne_nil (b := base) (n := n / base))
  rw [Nat.toDigits_of_base_le hone h, List.length_append, List.length_singleton]
  omega

theorem toDigits_inj (hone : 1 < base) (hbase : base ≤ 16) {m n : Nat}
    (h : base.toDigits m = base.toDigits n) : m = n := by
  induction m using Nat.strongRecOn generalizing n with
  | ind m ih =>
    have hlength := congrArg List.length h
    by_cases hm : m < base <;> by_cases hn : n < base
    · rw [Nat.toDigits_of_lt_base hm, Nat.toDigits_of_lt_base hn, List.singleton_inj] at h
      exact digitChar_inj (hm.trans_le hbase) (hn.trans_le hbase) h
    · have hlong := length_toDigits_of_base_le hone (Nat.le_of_not_lt hn)
      rw [← hlength, Nat.toDigits_of_lt_base hm] at hlong
      simp at hlong
    · have hlong := length_toDigits_of_base_le hone (Nat.le_of_not_lt hm)
      rw [hlength, Nat.toDigits_of_lt_base hn] at hlong
      simp at hlong
    · rw [Nat.toDigits_of_base_le hone (Nat.le_of_not_lt hm),
        Nat.toDigits_of_base_le hone (Nat.le_of_not_lt hn)] at h
      obtain ⟨hfront, hlast⟩ := List.append_inj' h rfl
      have hdiv := ih (m / base) (Nat.div_lt_self (by omega) hone) hfront
      have hpos : 0 < base := by omega
      have hmod := digitChar_inj ((Nat.mod_lt m hpos).trans_le hbase)
        ((Nat.mod_lt n hpos).trans_le hbase) (List.singleton_inj.mp hlast)
      rw [← Nat.div_add_mod m base, ← Nat.div_add_mod n base, hdiv, hmod]

theorem repr_inj {m n : Nat} (h : m.repr = n.repr) : m = n := by
  have hdigits := congrArg String.toList h
  rw [Nat.toList_repr, Nat.toList_repr] at hdigits
  exact toDigits_inj (by decide) (by decide) hdigits

theorem minus_notMem_repr (n : Nat) : '-' ∉ n.repr.toList := by
  rw [Nat.toList_repr]
  intro hmem
  exact absurd (isDigit_of_mem_toDigits (by decide) (by decide) n _ hmem) (by decide)

theorem int_repr_inj {m n : Int} (h : m.repr = n.repr) : m = n := by
  have hmixed (m n : Nat) : m.repr ≠ "-" ++ n.repr := by
    intro heq
    refine minus_notMem_repr m ?_
    rw [heq, String.toList_append]
    exact List.mem_append_left _ (by decide)
  cases m with
  | ofNat m =>
    cases n with
    | ofNat n => rw [repr_inj h]
    | negSucc n => exact absurd h (hmixed m _)
  | negSucc m =>
    cases n with
    | ofNat n => exact absurd h.symm (hmixed n _)
    | negSucc n =>
      have hsucc := repr_inj ((String.append_right_inj "-").mp h)
      rw [Nat.succ_injective hsucc]

theorem append_cons_inj {xs ys rest rest' : List Char} {separator : Char}
    (hxs : ∀ c ∈ xs, IsDigit c) (hys : ∀ c ∈ ys, IsDigit c) (hseparator : ¬IsDigit separator)
    (h : xs ++ separator :: rest = ys ++ separator :: rest') : xs = ys ∧ rest = rest' := by
  induction xs generalizing ys with
  | nil =>
    cases ys with
    | nil => exact ⟨rfl, (List.cons.inj h).2⟩
    | cons y ys =>
      rw [List.nil_append, List.cons_append] at h
      exact absurd ((List.cons.inj h).1 ▸ hys y List.mem_cons_self) hseparator
  | cons x xs ih =>
    cases ys with
    | nil =>
      rw [List.nil_append, List.cons_append] at h
      exact absurd ((List.cons.inj h).1 ▸ hxs x List.mem_cons_self) hseparator
    | cons y ys =>
      rw [List.cons_append, List.cons_append] at h
      obtain ⟨hhead, htail⟩ := List.cons.inj h
      obtain ⟨hrest, heq⟩ := ih (fun c hc => hxs c (List.mem_cons_of_mem x hc))
        (fun c hc => hys c (List.mem_cons_of_mem y hc)) htail
      exact ⟨by rw [hhead, hrest], heq⟩

theorem toDigits_append_cons_inj (hone : 1 < base) (hbase : base ≤ 16) {m n : Nat}
    {rest rest' : List Char} {separator : Char} (hseparator : ¬IsDigit separator)
    (h : base.toDigits m ++ separator :: rest = base.toDigits n ++ separator :: rest') :
    m = n ∧ rest = rest' := by
  obtain ⟨hdigits, hrest⟩ := append_cons_inj (isDigit_of_mem_toDigits hone hbase m)
    (isDigit_of_mem_toDigits hone hbase n) hseparator h
  exact ⟨toDigits_inj hone hbase hdigits, hrest⟩

end Numerals
