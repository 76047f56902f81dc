import Exynos9810.Library.AssocMap
import Exynos9810.Library.Separated
import Exynos9810.Usb.PortStatus
import Mathlib.Data.List.Infix

namespace Exynos9810.Usb

open AssocMap

def IsPartnerName (name : Text) : Prop :=
  "-partner".toList <:+: name

def IsPort (entries : List DirEntry) (port : Text) : Prop :=
  ∃ entry ∈ entries, entry.isLink = true ∧ ¬IsPartnerName entry.name ∧ entry.name = port

def IsPartnered (entries : List DirEntry) (port : Text) : Prop :=
  ∃ entry ∈ entries, entry.isLink = true ∧ IsPartnerName entry.name ∧
    (entry.name.splitOn '-').find? (fun token => !token.isEmpty) = some port

structure IsPortMap (entries : List DirEntry) (names : PortNames) : Prop where
  unique : UniqueKeys names
  keys : ∀ port, port ∈ names.map Prod.fst ↔ IsPort entries port ∨ IsPartnered entries port
  connected : ∀ port, (port, true) ∈ names ↔ IsPartnered entries port

theorem hasPart_iff (text part : Text) : hasPart text part = true ↔ part <:+: text := by
  simp only [hasPart, List.any_eq_true, List.mem_tails, List.isPrefixOf_iff_prefix,
    List.infix_iff_prefix_suffix, and_comm]

theorem find?_token {name : Text} (h : IsPartnerName name) :
    (name.splitOn '-').find? (fun token => !token.isEmpty) = some (strtokDash name) := by
  refine Separated.find?_splitOn ⟨'p', h.subset (by decide), by decide⟩

section Read

variable {entries : List DirEntry} {names : PortNames}

theorem isPort_concat (entries : List DirEntry) (entry : DirEntry) (port : Text) :
    IsPort (entries ++ [entry]) port ↔
      IsPort entries port ∨
        entry.isLink = true ∧ ¬IsPartnerName entry.name ∧ entry.name = port := by
  simp [IsPort, or_and_right, exists_or]

theorem isPartnered_concat (entries : List DirEntry) (entry : DirEntry) (port : Text) :
    IsPartnered (entries ++ [entry]) port ↔
      IsPartnered entries port ∨
        entry.isLink = true ∧ IsPartnerName entry.name ∧ strtokDash entry.name = port := by
  have htoken : entry.isLink = true ∧ IsPartnerName entry.name ∧
      (entry.name.splitOn '-').find? (fun token => !token.isEmpty) = some port ↔
      entry.isLink = true ∧ IsPartnerName entry.name ∧ strtokDash entry.name = port := by
    refine and_congr_right fun _ => and_congr_right fun hpartner => ?_
    rw [find?_token hpartner, Option.some_inj]
  rw [← htoken]
  simp [IsPartnered, or_and_right, exists_or]

theorem isPortMap_skip (h : IsPortMap entries names) {entry : DirEntry}
    (hlink : entry.isLink ≠ true) : IsPortMap (entries ++ [entry]) names := by
  constructor
  · exact h.unique
  · intro port
    rw [isPort_concat, isPartnered_concat, h.keys]
    simp [hlink]
  · intro port
    rw [isPartnered_concat, h.connected]
    simp [hlink]

theorem isPortMap_connect (h : IsPortMap entries names) {entry : DirEntry}
    (hlink : entry.isLink = true) (hpartner : IsPartnerName entry.name) :
    IsPortMap (entries ++ [entry]) (assign names (strtokDash entry.name) true) := by
  constructor
  · exact uniqueKeys_assign h.unique
  · intro port
    rw [mem_keys_assign, isPort_concat, isPartnered_concat, h.keys]
    simp only [hlink, hpartner, true_and, not_true_eq_false, false_and, or_false, or_assoc,
      eq_comm]
  · intro port
    rw [mem_assign, isPartnered_concat, h.connected]
    simp only [hlink, hpartner, true_and, Prod.mk.injEq, and_true]
    by_cases hport : port = strtokDash entry.name
    · simp [hport]
    · simp [hport, Ne.symm hport]

theorem isPortMap_insert (h : IsPortMap entries names) {entry : DirEntry}
    (hlink : entry.isLink = true) (hport : ¬IsPartnerName entry.name) :
    IsPortMap (entries ++ [entry]) (insertAbsent names entry.name false) := by
  constructor
  · exact uniqueKeys_insertAbsent h.unique
  · intro port
    rw [mem_keys_insertAbsent, isPort_concat, isPartnered_concat, h.keys]
    simp only [hlink, hport, true_and, not_false_eq_true, false_and, and_false, or_false]
    rw [or_right_comm, eq_comm]
  · intro port
    rw [mem_insertAbsent, isPartnered_concat, h.connected]
    simp [hport]

theorem isPortMap_readEntry (h : IsPortMap entries names) (entry : DirEntry) :
    IsPortMap (entries ++ [entry]) (readEntry names entry) := by
  unfold readEntry
  simp only [hasPart_iff]
  split_ifs with hlink hpartner
  · exact isPortMap_skip h (by simpa using hlink)
  · exact isPortMap_connect h (by simpa using hlink) hpartner
  · exact isPortMap_insert h (by simpa using hlink) hpartner

theorem isPortMap_foldl (entries : List DirEntry) :
    IsPortMap entries (entries.foldl readEntry []) := by
  induction entries using List.reverseRecOn with
  | nil => exact ⟨List.nodup_nil, fun port => by simp [IsPort, IsPartnered], fun port => by
      simp [IsPartnered]⟩
  | append_singleton entries entry ih =>
    rw [List.foldl_concat]
    exact isPortMap_readEntry ih entry

theorem IsPortMap.disconnected (h : IsPortMap entries names) (port : Text) :
    (port, false) ∈ names ↔ IsPort entries port ∧ ¬IsPartnered entries port := by
  constructor
  · intro hmem
    have hnot : ¬IsPartnered entries port := by
      rw [← h.connected]
      exact fun htrue => Bool.false_ne_true (h.unique.eq_of_mem hmem htrue)
    exact ⟨((h.keys port).mp (List.mem_map_of_mem hmem)).resolve_right hnot, hnot⟩
  · rintro ⟨hport, hnot⟩
    obtain ⟨⟨_, connected⟩, hmem, rfl⟩ := List.mem_map.mp ((h.keys port).mpr (.inl hport))
    cases connected with
    | false => exact hmem
    | true => exact absurd ((h.connected _).mp hmem) hnot

theorem perm_of_isPortMap {entries' : List DirEntry} {names' : PortNames}
    (hperm : entries.Perm entries') (h : IsPortMap entries names)
    (h' : IsPortMap entries' names') : names.Perm names' := by
  have hport (port : Text) : IsPort entries port ↔ IsPort entries' port := by
    simp only [IsPort, hperm.mem_iff]
  have hpartnered (port : Text) : IsPartnered entries port ↔ IsPartnered entries' port := by
    simp only [IsPartnered, hperm.mem_iff]
  apply perm_of_mem_iff h.unique h'.unique
  rintro ⟨port, connected⟩
  cases connected with
  | false => rw [h.disconnected, h'.disconnected, hport, hpartnered]
  | true => rw [h.connected, h'.connected, hpartnered]

end Read

/-- **The order of the listing.**  Two listings with the same entries give the same map.
Its keys are the ports and the first tokens of the partners, and exactly the latter are
mapped to true. -/
theorem port_names_order_free (fs fs' : Sysfs) (entries entries' : List DirEntry)
    (hlist : fs.typec = some entries) (hlist' : fs'.typec = some entries')
    (hperm : entries.Perm entries') :
    ∃ names names', getTypeCPortNamesHelper fs = some names ∧
      getTypeCPortNamesHelper fs' = some names' ∧ names.Perm names' ∧
      IsPortMap entries names ∧ ∀ port, IsPartnered entries port → (port, false) ∉ names := by
  have hmap := isPortMap_foldl entries
  refine ⟨entries.foldl readEntry [], entries'.foldl readEntry [], ?_, ?_, ?_, hmap, ?_⟩
  · rw [getTypeCPortNamesHelper, hlist]
    rfl
  · rw [getTypeCPortNamesHelper, hlist']
    rfl
  · exact perm_of_isPortMap hperm hmap (isPortMap_foldl entries')
  · intro port hpartnered hmem
    exact ((hmap.disconnected port).mp hmem).2 hpartnered

theorem port_names_order_free_partner :
    ∃ names names',
      getTypeCPortNamesHelper ⟨some [⟨true, "port0".toList⟩, ⟨true, "port0-partner".toList⟩],
        fun _ => none⟩ = some names ∧
      getTypeCPortNamesHelper ⟨some [⟨true, "port0-partner".toList⟩, ⟨true, "port0".toList⟩],
        fun _ => none⟩ = some names' ∧
      names.Perm names' ∧ names = [("port0".toList, true)] := by
  obtain ⟨names, names', hnames, hnames', hperm, -⟩ := port_names_order_free
    ⟨some [⟨true, "port0".toList⟩, ⟨true, "port0-partner".toList⟩], fun _ => none⟩
    ⟨some [⟨true, "port0-partner".toList⟩, ⟨true, "port0".toList⟩], fun _ => none⟩
    _ _ rfl rfl (.swap _ _ _)
  refine ⟨names, names', hnames, hnames', hperm, Option.some_inj.mp (hnames.symm.trans ?_)⟩
  decide +kernel

end Exynos9810.Usb
