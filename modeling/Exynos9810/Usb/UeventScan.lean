import Exynos9810.Library.StringBuffer
import Exynos9810.Library.Separated
import Exynos9810.Usb.Uevent

/-!
# `Usb.cpp`: the pointer of `uevent_event`

The loop over a message has no count of the bytes that are left.  Two terminators behind the
message stop it, one for the last string and one for the loop.
-/
namespace Exynos9810.Usb
open StringBuffer

inductive Verdict where
  | partnerAdded
  | portChange
  | other
  deriving DecidableEq, Repr

/-- The three calls of `strncmp`; a later one is made only if the others fail. -/
def isPortChangeAt (buffer : List Char) (cp : Nat) : Except ReadFault Bool := do
  if ← startsAt buffer "DEVTYPE=typec_".toList cp then return true
  if ← startsAt buffer "CCIC=WATER".toList cp then return true
  startsAt buffer "CCIC=DRY".toList cp

/-- `while (*cp)`: the strings that were looked at and what became of them.
`regex_match` reads the whole string first. -/
def scanLoop (buffer : List Char) : Nat → Nat → Except ReadFault (List (List Char × Verdict))
  | 0, _ => .error .outOfFuel
  | fuel + 1, cp => do
    if (← readAt buffer cp) = '\x00' then return []
    let segment ← stringAt '\x00' buffer (fuel + 1) cp
    if isPartnerAdded segment then
      let next ← skipString '\x00' buffer (fuel + 1) cp
      return (segment, .partnerAdded) :: (← scanLoop buffer fuel next)
    else if ← isPortChangeAt buffer cp then
      return [(segment, .portChange)]
    else
      let next ← skipString '\x00' buffer (fuel + 1) cp
      return (segment, .other) :: (← scanLoop buffer fuel next)

/-- `uevent_event` on what was received.  Nothing behind `msg[n + 1]` may be read. -/
def ueventEvent (msg : Uevent) (fuel : Nat) : Except ReadFault (List (List Char × Verdict)) :=
  if msg.length = 0 then .ok []
  else if ueventMsgLen ≤ msg.length then .ok []
  else scanLoop (msg ++ ['\x00', '\x00']) fuel 0

def verdict (segment : List Char) : Verdict :=
  if isPartnerAdded segment then .partnerAdded
  else if isPortChange segment then .portChange
  else .other

def endsScan (segment : List Char) : Bool :=
  !isPartnerAdded segment && isPortChange segment

def examined (segments : List (List Char)) : List (List Char) :=
  segments.takeWhile (fun segment => !endsScan segment) ++
    (segments.dropWhile fun segment => !endsScan segment).take 1

theorem examined_cons (segment : List Char) (rest : List (List Char)) :
    examined (segment :: rest) =
      if endsScan segment then [segment] else segment :: examined rest := by
  cases hends : endsScan segment <;> simp [examined, hends]

section Scan

variable {buffer : List Char} {cp : Nat}

theorem isPortChangeAt_of_drop {segment rest : List Char}
    (h : buffer.drop cp = segment ++ '\x00' :: rest) :
    isPortChangeAt buffer cp = .ok (isPortChange segment) := by
  have htypec := startsAt_of_drop "DEVTYPE=typec_".toList h (by decide)
  have hwater := startsAt_of_drop "CCIC=WATER".toList h (by decide)
  have hdry := startsAt_of_drop "CCIC=DRY".toList h (by decide)
  rw [isPortChangeAt, htypec, hwater, hdry, isPortChange, startsWith, startsWith, startsWith]
  cases "DEVTYPE=typec_".toList.isPrefixOf segment
  · cases "CCIC=WATER".toList.isPrefixOf segment <;> rfl
  · rfl

theorem scanLoop_nul {rest : List Char} (h : buffer.drop cp = '\x00' :: rest) (fuel : Nat) :
    scanLoop buffer (fuel + 1) cp = .ok [] := by
  rw [scanLoop, readAt_of_drop h]
  rfl

theorem scanLoop_segment {fuel : Nat} {segment rest : List Char}
    (h : buffer.drop cp = segment ++ '\x00' :: rest) (hnul : '\x00' ∉ segment)
    (hne : segment ≠ []) (hfuel : segment.length < fuel + 1) :
    scanLoop buffer (fuel + 1) cp =
      if endsScan segment then .ok [(segment, verdict segment)]
      else (scanLoop buffer fuel (cp + (segment.length + 1))).map
        ((segment, verdict segment) :: ·) := by
  obtain ⟨c, tail, rfl⟩ := List.exists_cons_of_ne_nil hne
  have hc : c ≠ '\x00' := fun heq => hnul (heq ▸ List.mem_cons_self)
  obtain ⟨hstring, hskip⟩ := string_of_drop h hnul hfuel
  rw [scanLoop, readAt_of_drop h, hstring, hskip, isPortChangeAt_of_drop h]
  simp only [bind, Except.bind, pure, Except.pure, hc, if_false, endsScan, verdict]
  by_cases hadded : isPartnerAdded (c :: tail)
  · simp only [hadded]
    cases scanLoop buffer fuel (cp + ((c :: tail).length + 1)) <;> rfl
  · by_cases hchange : isPortChange (c :: tail)
    · simp [hadded, hchange]
    · simp only [hadded, hchange]
      cases scanLoop buffer fuel (cp + ((c :: tail).length + 1)) <;> rfl

theorem scanLoop_pieces {fuel : Nat} {pieces : List (List Char)}
    (h : buffer.drop cp = pieces.flatMap (· ++ ['\x00']) ++ ['\x00'])
    (hnul : ∀ piece ∈ pieces, '\x00' ∉ piece) (hfuel : (buffer.drop cp).length ≤ fuel) :
    scanLoop buffer fuel cp =
      .ok ((examined (pieces.takeWhile (· ≠ []))).map fun piece => (piece, verdict piece)) := by
  induction pieces generalizing cp fuel with
  | nil =>
    rw [h] at hfuel
    obtain ⟨fuel, rfl⟩ := Nat.exists_eq_add_one.mpr hfuel
    exact scanLoop_nul h fuel
  | cons piece pieces ih =>
    have hdrop : buffer.drop cp =
        piece ++ '\x00' :: (pieces.flatMap (· ++ ['\x00']) ++ ['\x00']) := by
      rw [h]
      simp
    have hroom : piece.length + 1 + (buffer.drop (cp + (piece.length + 1))).length ≤ fuel := by
      rw [drop_string hdrop]
      rw [hdrop] at hfuel
      simpa [Nat.add_assoc, Nat.add_comm 1] using hfuel
    obtain ⟨fuel, rfl⟩ := Nat.exists_eq_add_one.mpr (show 0 < fuel by omega)
    by_cases hempty : piece = []
    · rw [hempty] at hdrop
      rw [scanLoop_nul hdrop, hempty]
      rfl
    · have hleft : (buffer.drop (cp + (piece.length + 1))).length ≤ fuel := by omega
      have hrest := ih (drop_string hdrop) (fun piece hmem => hnul piece (.tail _ hmem)) hleft
      rw [scanLoop_segment hdrop (hnul piece List.mem_cons_self) hempty (by omega), hrest,
        List.takeWhile_cons_of_pos (by simpa using hempty), examined_cons]
      cases endsScan piece <;> rfl

/-- The pointer sees the strings of the message as the worker thread goes through them. -/
theorem ueventEvent_segments (msg : Uevent) {fuel : Nat} (hfuel : msg.length + 2 ≤ fuel) :
    ueventEvent msg fuel =
      .ok ((examined (segments msg)).map fun segment => (segment, verdict segment)) := by
  by_cases hempty : msg.length = 0
  · rw [ueventEvent, if_pos hempty, segments, if_pos (.inl hempty)]
    rfl
  · by_cases hlong : ueventMsgLen ≤ msg.length
    · rw [ueventEvent, if_neg hempty, if_pos hlong, segments, if_pos (.inr hlong)]
      rfl
    · rw [ueventEvent, if_neg hempty, if_neg hlong, segments, if_neg (not_or.mpr ⟨hempty, hlong⟩)]
      apply scanLoop_pieces
      · rw [Separated.flatMap_splitOn]
        simp
      · exact Separated.not_mem_of_mem_splitOn
      · simpa using hfuel

end Scan

/-- **The scan of a message.**  The loop ends, within a round for each byte of the message
and its two terminators, and reads nothing behind these.  It has looked at the strings of
the message up to the first empty one, in order, and has stopped at the first that asks for
the port status. -/
theorem uevent_scan_examines (msg : Uevent) (hreceived : 0 < msg.length)
    (hfits : msg.length < ueventMsgLen) (fuel : Nat) (hfuel : msg.length + 2 ≤ fuel) :
    ueventEvent msg fuel =
      .ok ((examined ((msg.splitOn '\x00').takeWhile (· ≠ []))).map
        fun segment => (segment, verdict segment)) := by
  have hscanned : ¬(msg.length = 0 ∨ ueventMsgLen ≤ msg.length) := by omega
  rw [ueventEvent_segments msg hfuel, segments, if_neg hscanned]

theorem uevent_scan_examines_stops :
    ueventEvent "change\x00CCIC=DRY\x00add\x00\x00".toList 23 =
      .ok [("change".toList, .other), ("CCIC=DRY".toList, .portChange)] := by
  rw [uevent_scan_examines _ (by decide) (by decide) 23 (by decide)]
  decide +kernel

end Exynos9810.Usb
