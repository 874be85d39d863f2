import CameraKernel.SyncSpec

/-! What the in-place removal of duplicates leaves of an array: its distinct values in the order of
their first occurrence, in front of a part that is not written yet. -/
namespace CameraKernel.RemoveDuplicates
open SyncOps SyncTable

lemma eraseDups_append_singleton (l : List ℤ) (x : ℤ) :
    (l ++ [x]).eraseDups = if x ∈ l then l.eraseDups else l.eraseDups ++ [x] := by
  rw [List.eraseDups_append]
  by_cases hx : x ∈ l
  · rw [if_pos hx, List.removeAll, List.filter_cons_of_neg (by simpa using hx)]
    simp
  · rw [if_neg hx, List.removeAll, List.filter_cons_of_pos (by simpa using hx)]
    simp [List.eraseDups_cons]

lemma nodup_eraseDups (l : List ℤ) : l.eraseDups.Nodup := by
  induction l using List.reverseRecOn with
  | nil => simp
  | append_singleton l x ih =>
    rw [eraseDups_append_singleton]
    split_ifs with hx
    · exact ih
    · refine List.nodup_append.mpr ⟨ih, List.nodup_singleton x, ?_⟩
      rintro a ha b hb rfl
      rw [List.mem_singleton.mp hb, List.mem_eraseDups] at ha
      exact hx ha

lemma length_eraseDups (l : List ℤ) : l.eraseDups.length = l.toFinset.card := by
  rw [← List.toFinset_card_of_nodup (nodup_eraseDups l)]
  congr 1
  ext x
  simp

lemma length_eraseDups_eq_iff {l : List ℤ} : l.eraseDups.length = l.length ↔ l.Nodup := by
  rw [length_eraseDups, List.card_toFinset]
  constructor
  · exact fun h => List.dedup_eq_self.mp ((List.dedup_sublist l).eq_of_length h)
  · exact fun h => by rw [h.dedup]

/-- The array after some rounds: the distinct values of what has been read, and behind it what has
not. -/
structure Compacted (arr : List ℤ) (seen : ℕ) (r : List ℤ × ℕ) : Prop where
  length : r.1.length = arr.length
  kept : r.1.take r.2 = (arr.take seen).eraseDups
  count : r.2 = (arr.take seen).eraseDups.length
  unread : r.1.drop seen = arr.drop seen

lemma length_eraseDups_le (l : List ℤ) : l.eraseDups.length ≤ l.length := by
  rw [length_eraseDups]
  exact List.toFinset_card_le l

lemma Compacted.round {arr : List ℤ} {i : ℕ} {r : List ℤ × ℕ} (h : Compacted arr i r)
    (hi : i < arr.length) : Compacted arr (i + 1) (removeDuplicateRound r i) := by
  have hget : r.1.getD i 0 = arr[i] := by
    have h0 := congrArg (·[0]?) h.unread
    simp only [List.getElem?_drop, Nat.add_zero] at h0
    rw [List.getD_eq_getElem?_getD, h0, List.getElem?_eq_getElem hi, Option.getD_some]
  have hle : r.2 ≤ i := by
    rw [h.count]
    exact (length_eraseDups_le _).trans (List.length_take_le i arr)
  have hmem : arr[i] ∈ r.1.take r.2 ↔ arr[i] ∈ arr.take i := by rw [h.kept, List.mem_eraseDups]
  have hseen := eraseDups_append_singleton (arr.take i) arr[i]
  rw [← List.take_succ_eq_append_getElem hi] at hseen
  have hrest : arr.drop (i + 1) = r.1.drop (i + 1) := by
    rw [← List.drop_drop, ← List.drop_drop, h.unread]
  rw [removeDuplicateRound, hget]
  by_cases hx : arr[i] ∈ arr.take i
  · rw [if_pos hx] at hseen
    rw [if_pos (hmem.mpr hx)]
    exact ⟨h.length, by rw [hseen, h.kept], by rw [hseen, h.count], hrest.symm⟩
  · rw [if_neg hx] at hseen
    rw [if_neg (mt hmem.mp hx)]
    refine ⟨by simp [h.length], ?_, by simp [hseen, h.count], ?_⟩
    · have hlt : r.2 < (r.1.set r.2 arr[i]).length := by
        rw [List.length_set, h.length]
        omega
      rw [hseen, ← h.kept, List.take_succ_eq_append_getElem hlt, List.getElem_set_self,
        List.take_set_of_le le_rfl]
    · rw [List.drop_set_of_lt (by omega), hrest]

lemma compacted_removeDuplicateArr {arr : List ℤ} (hpos : arr ≠ []) :
    Compacted arr arr.length (camCommonUtilRemoveDuplicateArr arr) := by
  have hrounds : ∀ m < arr.length,
      Compacted arr (m + 1) ((List.range' 1 m).foldl removeDuplicateRound (arr, 1)) := by
    intro m hm
    induction m with
    | zero =>
      obtain ⟨x, xs, rfl⟩ := List.exists_cons_of_ne_nil hpos
      exact ⟨rfl, by simp [List.eraseDups_cons], by simp [List.eraseDups_cons], rfl⟩
    | succ m ih =>
      rw [List.range'_concat, List.foldl_append, Nat.one_mul, Nat.add_comm 1 m]
      exact (ih (by omega)).round hm
  have hlen := List.length_pos_of_ne_nil hpos
  have hall := hrounds (arr.length - 1) (by omega)
  rwa [Nat.sub_add_cancel hlen] at hall

lemma find?_map_eq_none_iff {arr : List ℤ} {dev : SyncDevice} :
    (arr.map (camSyncCheckValid dev)).find? (¬· = 0) = none ↔
      ∀ obj ∈ arr, camSyncCheckValid dev obj = 0 := by
  simp

/-- The removal of duplicates, and the merge: it refuses an array with a repeated object, and otherwise
it succeeds when its objects are valid and there is a row for them. -/
theorem removeDuplicateArr_distinct (arr : List ℤ) (hpos : arr ≠ []) (dev : SyncDevice)
    (alloc : ℕ → Bool × Bool) :
    let r := camCommonUtilRemoveDuplicateArr arr
    r.2 = arr.toFinset.card ∧ r.1.take r.2 = arr.eraseDups ∧ (r.2 = arr.length → r.1 = arr) ∧
      (¬arr.Nodup → camSyncMerge dev arr alloc = (.error (-Errno.EINVAL), dev)) ∧
      ((∃ idx, (camSyncMerge dev arr alloc).1 = .ok idx) ↔
        arr.Nodup ∧ 1 < arr.length ∧ (∀ obj ∈ arr, camSyncCheckValid dev obj = 0) ∧
          ∃ idx dev', takeBit dev = some (idx, dev') ∧
            0 ≤ (camSyncInitGroupObject dev' idx (arr.map Int.toNat) alloc).1) := by
  have h := compacted_removeDuplicateArr hpos
  have hkept := h.kept
  have hcount := h.count
  rw [List.take_length] at hkept hcount
  have hreject : ¬arr.Nodup → camSyncMerge dev arr alloc = (.error (-Errno.EINVAL), dev) := by
    intro hdup
    rw [camSyncMerge]
    split_ifs with hlen
    · rfl
    · exact if_pos fun heq => hdup (length_eraseDups_eq_iff.mp (hcount ▸ heq))
  refine ⟨hcount.trans (length_eraseDups arr), hkept, fun hk => ?_, hreject, ?_⟩
  · exact (SyncSpec.removeDuplicateArr_length (List.length_pos_of_ne_nil hpos) hk).1
  by_cases hlen : arr.length ≤ 1
  · have hshort : camSyncMerge dev arr alloc = (.error (-Errno.EINVAL), dev) := by
      rw [camSyncMerge, if_pos hlen]
    rw [hshort]
    exact ⟨fun ⟨_, h⟩ => (nomatch h), fun h => absurd h.2.1 (by omega)⟩
  by_cases hnd : arr.Nodup
  · have hk := hcount.trans (length_eraseDups_eq_iff.mpr hnd)
    have harr := (SyncSpec.removeDuplicateArr_length (List.length_pos_of_ne_nil hpos) hk).1
    simp only [camSyncMerge, if_neg hlen, hk, harr, ne_eq, not_true_eq_false, if_false]
    cases hvalid : (arr.map (camSyncCheckValid dev)).find? (¬· = 0) with
    | some rc =>
      refine ⟨fun ⟨_, h⟩ => (nomatch h), fun h => ?_⟩
      rw [find?_map_eq_none_iff.mpr h.2.2.1] at hvalid
      cases hvalid
    | none =>
      have hvalid := find?_map_eq_none_iff.mp hvalid
      cases hbit : takeBit dev with
      | none => exact ⟨fun ⟨_, h⟩ => (nomatch h), fun ⟨_, _, _, _, _, h, _⟩ => (nomatch h)⟩
      | some taken =>
        obtain ⟨idx, dev'⟩ := taken
        dsimp only
        split_ifs with hinit
        · refine ⟨fun ⟨_, h⟩ => (nomatch h), fun ⟨_, _, _, _, _, h, hle⟩ => ?_⟩
          cases h
          omega
        · exact ⟨fun _ => ⟨hnd, by omega, hvalid, idx, dev', rfl, by omega⟩, fun _ => ⟨idx, rfl⟩⟩
  · rw [hreject hnd]
    exact ⟨fun ⟨_, h⟩ => (nomatch h), fun h => absurd h.1 hnd⟩

theorem removeDuplicateArr_three :
    (camCommonUtilRemoveDuplicateArr [3, 5, 3, 7]).1.take 3 = [3, 5, 7] ∧
      camSyncMerge camSyncProbe [3, 5, 3, 7] (fun _ => (true, true)) =
        (.error (-Errno.EINVAL), camSyncProbe) := by
  have h := removeDuplicateArr_distinct [3, 5, 3, 7] (by decide) camSyncProbe fun _ => (true, true)
  exact ⟨h.2.1, h.2.2.2.1 (by decide)⟩

end CameraKernel.RemoveDuplicates
