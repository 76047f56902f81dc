import Exynos9810.Library.Numerals
import Mathlib.Data.List.Induction
import Mathlib.Data.List.TakeWhile
import Mathlib.Tactic.IntervalCases

/-!
# `cxa_demangle.cpp`: `parse_discriminator`

A discriminator is skipped, so the parser is a function from the text that is left to the
text behind it.  Where no discriminator stands, nothing is skipped.
-/
namespace Exynos9810.Demangle

def parseDiscriminator (text : List Char) : List Char :=
  match text with
  | [] => text
  | first :: rest =>
    if first = '_' then
      match rest with
      | [] => text
      | t1 :: behind =>
        if t1.isDigit then behind
        else if t1 = '_' then
          match behind.dropWhile Char.isDigit with
          | [] => text
          | t1 :: behind => if t1 = '_' then behind else text
        else text
    else if first.isDigit then
      if rest.dropWhile Char.isDigit = [] then [] else text
    else text

/-- The grammar above the function: the discriminators in front of `rest`.  The extension
stands at the end of the text only. -/
inductive Discriminator : List Char → List Char → Prop
  | short {n : Nat} (hn : n < 10) (rest : List Char) :
      Discriminator ('_' :: Nat.toDigits 10 n) rest
  | long {n : Nat} (hn : 10 ≤ n) (rest : List Char) :
      Discriminator ('_' :: '_' :: Nat.toDigits 10 n ++ ['_']) rest
  | final {first : Char} {digits : List Char} (hdigits : ∀ c ∈ first :: digits, c.isDigit) :
      Discriminator (first :: digits) []

/-- Digits that the grammar does not have between `__` and `_`: none, a number below ten, or
one with zeros in front. -/
def Undocumented (digits : List Char) : Prop :=
  (∀ c ∈ digits, c.isDigit) ∧ (digits.length < 2 ∨ digits.head? = some '0')

/-- What the code takes for a discriminator. -/
inductive Skipped : List Char → List Char → Prop
  | short {digit : Char} (hdigit : digit.isDigit) (rest : List Char) : Skipped ['_', digit] rest
  | long {digits : List Char} (hdigits : ∀ c ∈ digits, c.isDigit) (rest : List Char) :
      Skipped ('_' :: '_' :: digits ++ ['_']) rest
  | final {first : Char} {digits : List Char} (hdigits : ∀ c ∈ first :: digits, c.isDigit) :
      Skipped (first :: digits) []

section Numbers

variable {c : Char} {digits : List Char}

theorem exists_digitChar (h : c.isDigit = true) : ∃ n < 10, c = n.digitChar := by
  obtain ⟨hlow, hhigh⟩ : 48 ≤ c.toNat ∧ c.toNat ≤ 57 := Char.isDigit_iff_toNat.mp h
  refine ⟨c.toNat - 48, by omega, ?_⟩
  have hchar := Char.ofNat_toNat c
  generalize c.toNat = code at hchar hlow hhigh ⊢
  rw [← hchar]
  interval_cases code <;> rfl

theorem isDigit_toDigits (n : Nat) : ∀ c ∈ Nat.toDigits 10 n, c.isDigit = true :=
  fun _ hc => Nat.isDigit_of_mem_toDigits (by decide) (by decide) hc

theorem head_toDigits {n : Nat} (hn : 0 < n) : (Nat.toDigits 10 n).head? ≠ some '0' := by
  induction n using Nat.strongRecOn with
  | ind n ih =>
    by_cases hlt : n < 10
    · rw [Nat.toDigits_of_lt_base hlt]
      interval_cases n <;> decide
    · rw [Nat.toDigits_of_base_le (by decide) (by omega)]
      have hne : Nat.toDigits 10 (n / 10) ≠ [] := List.ne_nil_of_length_pos Nat.length_toDigits_pos
      rw [List.head?_append, List.head?_eq_some_head hne, Option.some_or,
        ← List.head?_eq_some_head hne]
      exact ih (n / 10) (by omega) (by omega)

theorem exists_toDigits (hdigits : ∀ c ∈ digits, c.isDigit) (hne : digits ≠ [])
    (hhead : digits.head? ≠ some '0') : ∃ n, 0 < n ∧ digits = Nat.toDigits 10 n := by
  induction digits using List.reverseRecOn with
  | nil => exact absurd rfl hne
  | append_singleton front c ih =>
    obtain ⟨d, hd, rfl⟩ := exists_digitChar (hdigits c (by simp))
    rw [← Nat.toDigits_of_lt_base hd]
    cases front with
    | nil =>
      refine ⟨d, Nat.pos_of_ne_zero ?_, rfl⟩
      rintro rfl
      exact hhead rfl
    | cons first front =>
      obtain ⟨m, hm, hfront⟩ := ih (fun c hc => hdigits c (List.mem_append_left _ hc)) nofun hhead
      rw [hfront, Nat.toDigits_append_toDigits (by decide) hm hd]
      exact ⟨_, by omega, rfl⟩

theorem undocumented_iff (hdigits : ∀ c ∈ digits, c.isDigit) :
    Undocumented digits ↔ ∀ n, 10 ≤ n → digits ≠ Nat.toDigits 10 n := by
  constructor
  · rintro ⟨-, hshort | hzero⟩ n hn rfl
    · exact absurd (Numerals.length_toDigits_of_base_le (by decide) hn) (by omega)
    · exact head_toDigits (by omega) hzero
  · intro hnot
    refine ⟨hdigits, ?_⟩
    by_contra hboth
    obtain ⟨hlong, hhead⟩ := not_or.mp hboth
    obtain ⟨n, hn, rfl⟩ := exists_toDigits hdigits (by rintro rfl; exact hlong (by decide)) hhead
    refine hnot n ?_ rfl
    by_contra hsmall
    rw [Nat.toDigits_of_lt_base (by omega)] at hlong
    exact hlong Nat.one_lt_two

end Numbers

theorem skipped_iff {text rest : List Char} :
    Skipped text rest ↔ Discriminator text rest ∨
      ∃ digits, text = '_' :: '_' :: digits ++ ['_'] ∧ Undocumented digits := by
  constructor
  · rintro (⟨hdigit, -⟩ | @⟨digits, hdigits, -⟩ | hdigits)
    · obtain ⟨n, hn, rfl⟩ := exists_digitChar hdigit
      rw [← Nat.toDigits_of_lt_base hn]
      exact .inl (.short hn rest)
    · by_cases hun : Undocumented digits
      · exact .inr ⟨_, rfl, hun⟩
      · rw [undocumented_iff hdigits] at hun
        push Not at hun
        obtain ⟨n, hn, rfl⟩ := hun
        exact .inl (.long hn rest)
    · exact .inl (.final hdigits)
  · rintro ((@⟨n, hn, -⟩ | ⟨hn, -⟩ | hdigits) | ⟨digits, rfl, hdigits, -⟩)
    · have hdigits := isDigit_toDigits n
      rw [Nat.toDigits_of_lt_base hn] at hdigits ⊢
      exact .short (hdigits _ List.mem_cons_self) rest
    · exact .long (isDigit_toDigits _) rest
    · exact .final hdigits
    · exact .long hdigits rest

theorem ne_underscore {c : Char} (h : c.isDigit = true) : c ≠ '_' := by
  rintro rfl
  exact absurd h (by decide)

theorem parseDiscriminator_append {text rest : List Char} (h : Skipped text rest) :
    parseDiscriminator (text ++ rest) = rest := by
  cases h with
  | short hdigit => simp [parseDiscriminator, hdigit]
  | @long digits hdigits =>
    have hbehind : (digits ++ '_' :: rest).dropWhile Char.isDigit = '_' :: rest :=
      List.dropWhile_append_of_pos hdigits
    simp [parseDiscriminator, hbehind]
  | @final first digits hdigits =>
    have hfirst := hdigits first List.mem_cons_self
    have hrest : digits.dropWhile Char.isDigit = [] :=
      List.dropWhile_eq_nil_iff.mpr fun c hc => hdigits c (.tail _ hc)
    simp [parseDiscriminator, ne_underscore hfirst, hfirst, hrest]

theorem skipped_of_parse (text : List Char) :
    parseDiscriminator text = text ∨
      ∃ skipped, text = skipped ++ parseDiscriminator text ∧
        Skipped skipped (parseDiscriminator text) := by
  unfold parseDiscriminator
  split
  · exact .inl rfl
  · rename_i first rest
    split_ifs with hfirst hdigit hend
    · subst hfirst
      split
      · exact .inl rfl
      · rename_i t1 behind
        split_ifs with hshort hlong
        · exact .inr ⟨['_', t1], rfl, .short hshort behind⟩
        · subst hlong
          -- The digits between the underscores are those that the loop has passed.
          have hsplit := List.takeWhile_append_dropWhile (p := Char.isDigit) (l := behind)
          have hdigits : ∀ c ∈ behind.takeWhile Char.isDigit, c.isDigit = true :=
            fun c hc => List.mem_takeWhile_imp hc
          split
          · exact .inl rfl
          · rename_i t1 rest hdrop
            split_ifs with ht1
            · subst ht1
              refine .inr ⟨'_' :: '_' :: behind.takeWhile Char.isDigit ++ ['_'], ?_,
                .long hdigits rest⟩
              rw [hdrop] at hsplit
              simp [hsplit]
            · exact .inl rfl
        · exact .inl rfl
    · have hdigits := List.dropWhile_eq_nil_iff.mp hend
      refine .inr ⟨first :: rest, by simp, .final ?_⟩
      exact List.forall_mem_cons.mpr ⟨hdigit, hdigits⟩
    · exact .inl rfl
    · exact .inl rfl

/-- **Discriminators.**  What is left is what stands behind a discriminator of the grammar,
or behind digits between `__` and `_` that the grammar does not allow there, or all of the
text if it begins with neither.  At most one of them stands in front. -/
theorem discriminator_skipped_iff :
    (∀ text rest, parseDiscriminator text = rest ↔
      (∃ skipped, text = skipped ++ rest ∧ Discriminator skipped rest) ∨
      (∃ digits, text = '_' :: '_' :: digits ++ '_' :: rest ∧ Undocumented digits) ∨
      rest = text ∧
        (∀ skipped rest, text = skipped ++ rest → ¬Discriminator skipped rest) ∧
        ∀ digits rest, text = '_' :: '_' :: digits ++ '_' :: rest → ¬Undocumented digits) ∧
    ∀ skipped skipped' rest rest', skipped ++ rest = skipped' ++ rest' →
      Discriminator skipped rest → Discriminator skipped' rest' → skipped = skipped' := by
  have hfront (text rest : List Char) :
      (∃ skipped, text = skipped ++ rest ∧ Skipped skipped rest) ↔
        (∃ skipped, text = skipped ++ rest ∧ Discriminator skipped rest) ∨
          ∃ digits, text = '_' :: '_' :: digits ++ '_' :: rest ∧ Undocumented digits := by
    simp only [skipped_iff, and_or_left, exists_or]
    refine or_congr_right ⟨?_, ?_⟩
    · rintro ⟨_, rfl, digits, rfl, hun⟩
      exact ⟨digits, by simp, hun⟩
    · rintro ⟨digits, rfl, hun⟩
      exact ⟨_, by simp, digits, rfl, hun⟩
  refine ⟨fun text rest => ?_, ?_⟩
  · rw [← or_assoc, ← hfront]
    constructor
    · rintro rfl
      by_cases hany : ∃ rest skipped, text = skipped ++ rest ∧ Skipped skipped rest
      · obtain ⟨rest, skipped, rfl, hskipped⟩ := hany
        rw [parseDiscriminator_append hskipped]
        exact .inl ⟨skipped, rfl, hskipped⟩
      · rcases skipped_of_parse text with heq | hskipped
        · refine .inr ⟨heq, fun skipped rest htext hskipped => ?_, fun digits rest htext hun => ?_⟩
          · exact hany ⟨rest, (hfront text rest).mpr (.inl ⟨skipped, htext, hskipped⟩)⟩
          · exact hany ⟨rest, (hfront text rest).mpr (.inr ⟨digits, htext, hun⟩)⟩
        · exact absurd ⟨_, hskipped⟩ hany
    · rintro (⟨skipped, rfl, hskipped⟩ | ⟨rfl, hnone, hnone'⟩)
      · exact parseDiscriminator_append hskipped
      · refine (skipped_of_parse rest).resolve_right fun hskipped => ?_
        obtain ⟨skipped, htext, hskipped⟩ | ⟨digits, htext, hun⟩ := (hfront rest _).mp hskipped
        · exact hnone skipped _ htext hskipped
        · exact hnone' digits _ htext hun
  · intro skipped skipped' rest rest' htext h h'
    have hrest := parseDiscriminator_append (skipped_iff.mpr (.inl h))
    rw [htext, parseDiscriminator_append (skipped_iff.mpr (.inl h'))] at hrest
    rw [hrest] at htext
    exact List.append_cancel_right htext

example : parseDiscriminator "___x".toList = "x".toList := by decide

example : parseDiscriminator "__7_x".toList = "x".toList := by decide

end Exynos9810.Demangle
