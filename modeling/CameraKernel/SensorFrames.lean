import CameraKernel.SensorRequests

/-! The settings of every frame reach the sensor: requests are submitted in order, a bounded number
ahead of those applied, and old slots are freed by the calls that apply later ones. -/
namespace CameraKernel.SensorRequests
open RunningMax (runningMax)
variable {α : Type*}

/-- A linked sensor with the packets of its requests, all of which are updates that the parser takes
or say that there is nothing to do, and a bus that does not fail. -/
structure LinkedRun (α : Type*) extends LinkedSensor α where
  packet : ℕ → Packet α
  io : Bus α
  id : ∀ r, (packet r).requestId = r
  checks : ∀ r, (packet r).checks = none
  kind : ∀ r, (packet r).opCode = .nop ∨ ((packet r).opCode = .update ∧
    (packet r).parsed.finished = true ∧ 0 ≤ (packet r).parsed.rc ∧ (packet r).parsed.entries ≠ [])
  works : ∀ e, 0 ≤ io e

namespace LinkedRun
variable (l : LinkedRun α)

/-- The settings that request `r` brings. -/
def settings (r : ℕ) : List α := if (l.packet r).opCode = .nop then [] else (l.packet r).parsed.entries

/-- `n` requests are submitted and `a` of them applied; `log` is what was written. -/
inductive Reaches : ℕ → ℕ → List α → SensorCtrl α → Prop
  | start : Reaches 0 0 [] l.start
  | submit {n a : ℕ} {log : List α} {s : SensorCtrl α} (h : Reaches n a log s)
      (hn : n < a + BATCH_SIZE_MAX) :
      Reaches (n + 1) a log (camSensorI2cPktParse s (l.packet (n + 1))).2.2
  | apply {n a : ℕ} {log : List α} {s : SensorCtrl α} (h : Reaches n a log s) (ha : a < n) :
      Reaches n (a + 1) (log ++ (camSensorApplySettings l.io s (a + 1) .update).written)
        (camSensorApplySettings l.io s (a + 1) .update).ctrl

/-- What holds at every point of a run: an update that is submitted next finds its slot free, an
apply that is next writes the settings of its own request and deletes none that are not before it,
and what was written are the settings of the requests applied, in order. -/
structure SoundAt (n a : ℕ) (log : List α) (s : SensorCtrl α) : Prop where
  slotFree : n < a + BATCH_SIZE_MAX → (l.packet (n + 1)).opCode = .update →
    (s.perFrame ((n + 1) % MAX_PER_FRAME_ARRAY)).isSettingsValid ≠ 1
  written : a < n →
    (camSensorApplySettings l.io s (a + 1) .update).written = l.settings (a + 1)
  deleted : a < n → ∀ i < MAX_PER_FRAME_ARRAY, (s.perFrame i).isSettingsValid = 1 →
    ((camSensorApplySettings l.io s (a + 1) .update).ctrl.perFrame i).isSettingsValid ≠ 1 →
    (s.perFrame i).requestId < a + 1
  log : log = (List.range a).flatMap fun r => l.settings (r + 1)

end LinkedRun

section
variable {s : SensorCtrl α} {r : ℕ}

lemma mem_keys {k : ℕ} {is : List ℕ} : some k ∈ is.map (fun i => appliedKey r (s.perFrame i)) ↔
    ∃ i ∈ is, (s.perFrame i).requestId = k ∧ k ≤ r ∧ (s.perFrame i).isSettingsValid = 1 := by
  rw [List.mem_map]
  refine exists_congr fun i => and_congr_right fun _ => ?_
  rw [appliedKey]
  split_ifs with h
  · rw [Option.some_inj]
    exact ⟨fun he => ⟨he, he ▸ h.1, h.2⟩, fun he => he.1⟩
  · exact ⟨fun he => (nomatch he), fun he => (h ⟨he.1 ▸ he.2.1, he.2.2⟩).elim⟩

lemma ringDiff_covers (a b : ℕ) :
    BATCH_SIZE_MAX ≤ ringDiff a b ∨ ringDiff a b ≤ 2 ^ 64 - BATCH_SIZE_MAX := by
  rw [BATCH_SIZE_MAX, ringDiff, MAX_PER_FRAME_ARRAY]
  omega

lemma delReqId_of_missing (hr : 0 < r)
    (h : ∀ i < MAX_PER_FRAME_ARRAY, (s.perFrame i).isSettingsValid = 1 → (s.perFrame i).requestId ≠ r) :
    delReqId s r = r := by
  have hlt : (scanSlots s r).1 < r := by
    refine RunningMax.runningMax_lt hr fun k hk => ?_
    obtain ⟨i, hi, hid, hle, hvalid⟩ := mem_keys.1 hk
    have := h i (List.mem_range.1 hi) hvalid
    omega
  rw [delReqId, if_pos ⟨hlt, ringDiff_covers _ _⟩]

lemma delReqId_of_held {k : ℕ} (hk : k < MAX_PER_FRAME_ARRAY)
    (hheld : (s.perFrame k).requestId = r ∧ (s.perFrame k).isSettingsValid = 1)
    (hother : ∀ i < MAX_PER_FRAME_ARRAY, (s.perFrame i).isSettingsValid = 1 →
      (s.perFrame i).requestId = r → i = k) (hr : 0 < r) :
    delReqId s r < r ∧ ∀ i < k, (s.perFrame i).isSettingsValid = 1 → (s.perFrame i).requestId ≤ r →
      (s.perFrame i).requestId ≤ delReqId s r := by
  have hsplit : List.range MAX_PER_FRAME_ARRAY =
      List.range k ++ k :: List.range' (k + 1) (MAX_PER_FRAME_ARRAY - (k + 1)) := by
    have happend : List.range (k + (MAX_PER_FRAME_ARRAY - k)) = _ := List.range_add
    rw [Nat.add_sub_cancel' hk.le] at happend
    rw [happend, ← List.range'_eq_map_range, show MAX_PER_FRAME_ARRAY - k =
      MAX_PER_FRAME_ARRAY - (k + 1) + 1 by omega, List.range'_succ]
  have hbefore : ∀ j, some j ∈ (List.range k).map (fun i => appliedKey r (s.perFrame i)) → j < r := by
    intro j hj
    obtain ⟨i, hi, hid, hle, hvalid⟩ := mem_keys.1 hj
    have hik := List.mem_range.1 hi
    have := hother i (hik.trans hk) hvalid
    omega
  have hscan : scanSlots s r =
      (r, (runningMax 0 ((List.range k).map fun i => appliedKey r (s.perFrame i))).1) := by
    rw [scanSlots, hsplit, List.map_append, List.map_cons, appliedKey, hheld.1,
      if_pos ⟨le_refl r, hheld.2⟩]
    refine RunningMax.runningMax_split hr hbefore fun j hj => ?_
    obtain ⟨i, -, -, hle, -⟩ := mem_keys.1 hj
    exact hle
  have hdel : delReqId s r = (runningMax 0 ((List.range k).map fun i =>
      appliedKey r (s.perFrame i))).1 := by
    rw [delReqId, hscan, if_neg fun h => lt_irrefl r h.1]
  rw [hdel]
  exact ⟨RunningMax.runningMax_lt hr hbefore, fun i hi hvalid hle =>
    RunningMax.le_runningMax (mem_keys.2 ⟨i, List.mem_range.2 hi, rfl, hle, hvalid⟩)⟩

end

section
variable {s : SensorCtrl α}

lemma writeList_of_works {io : Bus α} (h : ∀ e, 0 ≤ io e) {rc : ℤ} (hrc : 0 ≤ rc) (es : List α) :
    0 ≤ (writeList io rc es).1 ∧ (writeList io rc es).2 = es := by
  induction es generalizing rc with
  | nil => exact ⟨hrc, rfl⟩
  | cons e es ih =>
    rw [writeList, if_neg (h e).not_gt]
    exact ⟨(ih (h e)).1, by rw [(ih (h e)).2]⟩

/-- The entries that an apply hands to the bus when nothing fails. -/
def SensorCtrl.held (s : SensorCtrl α) (r : ℕ) : List α :=
  let a := s.perFrame (r % MAX_PER_FRAME_ARRAY)
  if a.isSettingsValid = 1 ∧ a.requestId = r then a.listHead else []

lemma writeFrame_of_works {io : Bus α} (h : ∀ e, 0 ≤ io e) (s : SensorCtrl α) (r : ℕ) :
    0 ≤ (writeFrame io (s.perFrame (r % MAX_PER_FRAME_ARRAY)) r).1 ∧
      (writeFrame io (s.perFrame (r % MAX_PER_FRAME_ARRAY)) r).2 = s.held r := by
  simp only [writeFrame, SensorCtrl.held]
  split_ifs
  · exact writeList_of_works h (le_refl 0) _
  · exact ⟨le_refl 0, rfl⟩

lemma deleteBefore_zero (s : SensorCtrl α) : deleteBefore s 0 = s := by
  rw [deleteBefore]
  congr 1
  funext i
  exact if_neg fun hb => by simp [SettingsArray.before] at hb

lemma applySettings_of_works {io : Bus α} (h : ∀ e, 0 ≤ io e) {r : ℕ} (hr : 0 < r) :
    (camSensorApplySettings io s r .update).written = s.held r ∧
      (camSensorApplySettings io s r .update).ctrl = deleteBefore s (delReqId s r) := by
  obtain ⟨hrc, hw⟩ := writeFrame_of_works h s r
  simp only [camSensorApplySettings]
  rw [if_neg hr.ne', if_neg hrc.not_gt]
  by_cases hdel : delReqId s r = 0
  · rw [if_pos hdel, hdel, deleteBefore_zero]
    exact ⟨hw, rfl⟩
  · rw [if_neg hdel]
    exact ⟨hw, rfl⟩

lemma deleteBefore_perFrame (s : SensorCtrl α) (del : ℕ) {i : ℕ} (hi : i < MAX_PER_FRAME_ARRAY) :
    ((s.perFrame i).isSettingsValid = 1 ∧ (s.perFrame i).requestId < del ∧
        (deleteBefore s del).perFrame i = ⟨[], 0, 0⟩) ∨
      (¬ ((s.perFrame i).isSettingsValid = 1 ∧ (s.perFrame i).requestId < del) ∧
        (deleteBefore s del).perFrame i = s.perFrame i) := by
  simp only [deleteBefore, SettingsArray.before, Bool.and_eq_true, decide_eq_true_eq, beq_iff_eq]
  by_cases h : (s.perFrame i).requestId < del ∧ (s.perFrame i).isSettingsValid = 1
  · exact .inl ⟨h.2, h.1, if_pos ⟨hi, h⟩⟩
  · exact .inr ⟨fun hb => h hb.symm, if_neg fun hb => h hb.2⟩

end

namespace LinkedRun
variable {l : LinkedRun α} {n a : ℕ} {log : List α} {s : SensorCtrl α}

/-- The slots hold the settings of the requests submitted and not applied, of the one applied last,
and of at most two before it. -/
structure Inv (l : LinkedRun α) (n a : ℕ) (s : SensorCtrl α) : Prop where
  linked : s.sensorState = .config ∨ s.sensorState = .start
  noFlush : s.lastFlushReq = 0
  order : a ≤ n
  ahead : n ≤ a + BATCH_SIZE_MAX
  place : ∀ i < MAX_PER_FRAME_ARRAY, (s.perFrame i).isSettingsValid = 1 →
    (s.perFrame i).requestId % MAX_PER_FRAME_ARRAY = i ∧ 0 < (s.perFrame i).requestId ∧
      (s.perFrame i).requestId ≤ n ∧ (l.packet (s.perFrame i).requestId).opCode ≠ .nop
  recent : ∀ i < MAX_PER_FRAME_ARRAY, (s.perFrame i).isSettingsValid = 1 →
    a ≤ (s.perFrame i).requestId + 1 ∨
      (a % MAX_PER_FRAME_ARRAY = 0 ∧ a ≤ (s.perFrame i).requestId + 2)
  pending : ∀ r, 0 < r → a ≤ r → r ≤ n → (l.packet r).opCode ≠ .nop →
    s.perFrame (r % MAX_PER_FRAME_ARRAY) = ⟨(l.packet r).parsed.entries, 1, r⟩
  afterNop : (l.packet a).opCode = .nop → ∀ i < MAX_PER_FRAME_ARRAY,
    (s.perFrame i).isSettingsValid = 1 → a < (s.perFrame i).requestId
  free : ∀ i < MAX_PER_FRAME_ARRAY, (s.perFrame i).isSettingsValid ≠ 1 → (s.perFrame i).listHead = []

lemma inv_start (l : LinkedRun α) : Inv l 0 0 l.start where
  linked := l.linked
  noFlush := l.noFlush
  order := le_refl 0
  ahead := Nat.zero_le _
  place i _ hv := absurd hv (l.free i).1
  recent i _ hv := absurd hv (l.free i).1
  pending _ hpos _ hle _ := absurd hle hpos.not_ge
  afterNop _ i _ hv := absurd hv (l.free i).1
  free i _ _ := (l.free i).2

lemma Inv.state_ne (h : Inv l n a s) : ¬ (s.sensorState = .init ∨ s.sensorState = .acquire) := by
  rcases h.linked with hs | hs <;> rw [hs] <;> simp

lemma Inv.slotFree (h : Inv l n a s) (hn : n < a + BATCH_SIZE_MAX) :
    (s.perFrame ((n + 1) % MAX_PER_FRAME_ARRAY)).isSettingsValid ≠ 1 := by
  intro hv
  have hlt : (n + 1) % MAX_PER_FRAME_ARRAY < MAX_PER_FRAME_ARRAY := Nat.mod_lt _ (by decide)
  obtain ⟨hmod, -, hle, -⟩ := h.place _ hlt hv
  have hrec := h.recent _ hlt hv
  rw [BATCH_SIZE_MAX] at hn
  rw [MAX_PER_FRAME_ARRAY] at hmod hle hrec
  omega

lemma Inv.parse_nop (h : Inv l n a s) (hop : (l.packet (n + 1)).opCode = .nop) :
    (camSensorI2cPktParse s (l.packet (n + 1))).2.2 = { s with lastFlushReq := 0 } := by
  have hstate := h.state_ne
  simp only [camSensorI2cPktParse, l.checks, l.id, h.noFlush, hop]
  rw [if_neg fun hc => hc.2.2 rfl, if_pos n.succ_pos, if_neg hstate]

lemma Inv.parse_update (h : Inv l n a s) (hn : n < a + BATCH_SIZE_MAX)
    (hop : (l.packet (n + 1)).opCode ≠ .nop) :
    (camSensorI2cPktParse s (l.packet (n + 1))).2.2 =
      { s with lastFlushReq := 0 }.setFrame ((n + 1) % MAX_PER_FRAME_ARRAY)
        ⟨(l.packet (n + 1)).parsed.entries, 1, n + 1⟩ := by
  obtain ⟨hupdate, hfin, hrc, -⟩ := (l.kind (n + 1)).resolve_left hop
  have hfree := h.slotFree hn
  have hempty := h.free _ (Nat.mod_lt _ (by decide)) hfree
  simp only [camSensorI2cPktParse, l.checks, l.id, h.noFlush, hupdate]
  rw [if_neg fun hc => hc.2.2 rfl, if_pos n.succ_pos, parseUpdate, if_neg h.state_ne, l.id,
    if_neg hfree, if_neg hrc.not_gt]
  simp only [Parsed.store, hfin, hempty, List.nil_append, if_true]

lemma Inv.submit (h : Inv l n a s) (hn : n < a + BATCH_SIZE_MAX) :
    Inv l (n + 1) a (camSensorI2cPktParse s (l.packet (n + 1))).2.2 := by
  by_cases hop : (l.packet (n + 1)).opCode = .nop
  · rw [h.parse_nop hop]
    exact {
      linked := h.linked
      noFlush := rfl
      order := h.order.trans n.le_succ
      ahead := hn
      place := fun i hi hv => by
        obtain ⟨hmod, hpos, hle, hkind⟩ := h.place i hi hv
        exact ⟨hmod, hpos, hle.trans n.le_succ, hkind⟩
      recent := h.recent
      pending := fun r hpos har hrn hkind => by
        rcases Nat.lt_or_eq_of_le hrn with hlt | rfl
        · exact h.pending r hpos har (Nat.le_of_lt_succ hlt) hkind
        · exact absurd hop hkind
      afterNop := h.afterNop
      free := h.free }
  · rw [h.parse_update hn hop]
    have hget (i : ℕ) : ({ s with lastFlushReq := 0 }.setFrame ((n + 1) % MAX_PER_FRAME_ARRAY)
        ⟨(l.packet (n + 1)).parsed.entries, 1, n + 1⟩).perFrame i =
        if i = (n + 1) % MAX_PER_FRAME_ARRAY then ⟨(l.packet (n + 1)).parsed.entries, 1, n + 1⟩
        else s.perFrame i := by
      simp only [SensorCtrl.setFrame, Function.update_apply]
    have hord := h.order
    refine ⟨h.linked, rfl, h.order.trans n.le_succ, hn, ?place, ?recent, ?pending, ?afterNop, ?free⟩
    case place =>
      intro i hi hv
      rw [hget] at hv ⊢
      split_ifs at hv ⊢ with hni
      · exact ⟨hni.symm, n.succ_pos, le_refl _, hop⟩
      · obtain ⟨hmod, hpos, hle, hkind⟩ := h.place i hi hv
        exact ⟨hmod, hpos, hle.trans n.le_succ, hkind⟩
    case recent =>
      intro i hi hv
      rw [hget] at hv ⊢
      split_ifs at hv ⊢ with hni
      · exact .inl (by dsimp only; omega)
      · exact h.recent i hi hv
    case pending =>
      intro r hpos har hrn hkind
      rw [hget]
      split_ifs with hrn'
      · -- Two requests of one slot are a whole ring apart.
        have : r = n + 1 := by
          rw [BATCH_SIZE_MAX] at hn
          rw [MAX_PER_FRAME_ARRAY] at hrn'
          omega
        rw [this]
      · refine h.pending r hpos har ?_ hkind
        rcases Nat.lt_or_eq_of_le hrn with hlt | rfl
        · exact Nat.le_of_lt_succ hlt
        · exact absurd rfl hrn'
    case afterNop =>
      intro hnop i hi hv
      rw [hget] at hv ⊢
      split_ifs at hv ⊢ with hni
      · dsimp only
        omega
      · exact h.afterNop hnop i hi hv
    case free =>
      intro i hi hv
      rw [hget] at hv ⊢
      split_ifs at hv ⊢ with hni
      · exact absurd rfl hv
      · exact h.free i hi hv

/-- What the apply of the next request deletes is before it, and if it is an update, everything
before the last one applied, unless its slot is the first. -/
lemma Inv.delReqId_spec (h : Inv l n a s) (ha : a < n) :
    delReqId s (a + 1) ≤ a + 1 ∧
      ((l.packet (a + 1)).opCode = .nop → delReqId s (a + 1) = a + 1) ∧
      (0 < a → (l.packet a).opCode ≠ .nop → (a + 1) % MAX_PER_FRAME_ARRAY ≠ 0 →
        a ≤ delReqId s (a + 1)) := by
  by_cases hop : (l.packet (a + 1)).opCode = .nop
  · have hdel : delReqId s (a + 1) = a + 1 := by
      refine delReqId_of_missing a.succ_pos fun i hi hv hid => ?_
      have := (h.place i hi hv).2.2.2
      rw [hid] at this
      exact this hop
    exact ⟨hdel.le, fun _ => hdel, fun _ _ _ => by omega⟩
  · have hslot := h.pending (a + 1) a.succ_pos a.le_succ ha hop
    have hother : ∀ i < MAX_PER_FRAME_ARRAY, (s.perFrame i).isSettingsValid = 1 →
        (s.perFrame i).requestId = a + 1 → i = (a + 1) % MAX_PER_FRAME_ARRAY := by
      intro i hi hv hid
      rw [← (h.place i hi hv).1, hid]
    obtain ⟨hlt, hbefore⟩ := delReqId_of_held (Nat.mod_lt _ (by decide))
      ⟨by rw [hslot], by rw [hslot]⟩ hother a.succ_pos
    refine ⟨hlt.le, fun hnop => absurd hnop hop, fun hpos hkind hne => ?_⟩
    have hlast := h.pending a hpos (le_refl a) h.order hkind
    have hle := hbefore (a % MAX_PER_FRAME_ARRAY)
      (by rw [MAX_PER_FRAME_ARRAY] at hne ⊢; omega) (by rw [hlast])
      (by rw [hlast]; exact a.le_succ)
    rwa [hlast] at hle

lemma Inv.apply (h : Inv l n a s) (ha : a < n) :
    Inv l n (a + 1) (deleteBefore s (delReqId s (a + 1))) := by
  obtain ⟨hle, hnop, hlast⟩ := h.delReqId_spec ha
  generalize delReqId s (a + 1) = del at hle hnop hlast
  have hkept {i : ℕ} (hi : i < MAX_PER_FRAME_ARRAY)
      (hv : ((deleteBefore s del).perFrame i).isSettingsValid = 1) :
      (deleteBefore s del).perFrame i = s.perFrame i ∧ (s.perFrame i).isSettingsValid = 1 ∧
        del ≤ (s.perFrame i).requestId := by
    rcases deleteBefore_perFrame s del hi with ⟨-, -, heq⟩ | ⟨hnot, heq⟩
    · rw [heq] at hv
      exact absurd hv zero_ne_one
    · rw [heq] at hv
      exact ⟨heq, hv, Nat.not_lt.1 fun hlt => hnot ⟨hv, hlt⟩⟩
  refine ⟨h.linked, h.noFlush, ha, h.ahead.trans (by omega), ?place, ?recent, ?pending, ?afterNop,
    ?free⟩
  case place =>
    intro i hi hv
    obtain ⟨heq, hv', -⟩ := hkept hi hv
    rw [heq]
    exact h.place i hi hv'
  case recent =>
    intro i hi hv
    obtain ⟨heq, hv', hdel⟩ := hkept hi hv
    rw [heq]
    obtain ⟨-, hpos, -, -⟩ := h.place i hi hv'
    have hrec := h.recent i hi hv'
    by_cases hold : a ≤ (s.perFrame i).requestId
    · exact .inl (by omega)
    · have hkind : (l.packet a).opCode ≠ .nop := fun hn => hold (h.afterNop hn i hi hv').le
      by_cases hring : (a + 1) % MAX_PER_FRAME_ARRAY = 0
      · refine .inr ⟨hring, ?_⟩
        rw [MAX_PER_FRAME_ARRAY] at hring hrec
        omega
      · exact absurd ((hlast (by omega) hkind hring).trans hdel) hold
  case pending =>
    intro r hpos har hrn hkind
    have hslot := h.pending r hpos (by omega) hrn hkind
    rcases deleteBefore_perFrame s del
      (Nat.mod_lt r (show 0 < MAX_PER_FRAME_ARRAY by decide)) with ⟨-, hlt, -⟩ | ⟨-, heq⟩
    · rw [hslot] at hlt
      dsimp only at hlt
      omega
    · rw [heq, hslot]
  case afterNop =>
    intro hop i hi hv
    obtain ⟨heq, hv', hdel⟩ := hkept hi hv
    rw [heq]
    have hne : (s.perFrame i).requestId ≠ a + 1 := by
      intro hid
      have := (h.place i hi hv').2.2.2
      rw [hid] at this
      exact this hop
    have := hnop hop
    omega
  case free =>
    intro i hi hv
    rcases deleteBefore_perFrame s del hi with ⟨-, -, heq⟩ | ⟨-, heq⟩
    · rw [heq]
    · rw [heq] at hv ⊢
      exact h.free i hi hv

lemma Inv.held_eq (h : Inv l n a s) (ha : a < n) : s.held (a + 1) = l.settings (a + 1) := by
  rw [settings, SensorCtrl.held]
  by_cases hop : (l.packet (a + 1)).opCode = .nop
  · rw [if_pos hop]
    refine if_neg fun hv => ?_
    have := (h.place _ (Nat.mod_lt _ (by decide)) hv.1).2.2.2
    rw [hv.2] at this
    exact this hop
  · rw [if_neg hop, h.pending (a + 1) a.succ_pos a.le_succ ha hop]
    exact if_pos ⟨rfl, rfl⟩

lemma Reaches.inv (h : Reaches l n a log s) : Inv l n a s := by
  induction h with
  | start => exact inv_start l
  | submit _ hn ih => exact ih.submit hn
  | apply _ ha ih =>
    rw [(applySettings_of_works l.works (Nat.succ_pos _)).2]
    exact ih.apply ha

lemma Reaches.log_eq (h : Reaches l n a log s) :
    log = (List.range a).flatMap fun r => l.settings (r + 1) := by
  induction h with
  | start => rfl
  | submit _ _ ih => exact ih
  | apply h ha ih =>
    rw [(applySettings_of_works l.works (Nat.succ_pos _)).1, h.inv.held_eq ha, ih, List.range_succ,
      List.flatMap_append]
    simp

def Sound (l : LinkedRun α) : Prop := ∀ n a log s, Reaches l n a log s → SoundAt l n a log s

/-- In every run, of any length, no update finds its slot taken, and every apply writes the settings
of its own request and deletes only those of requests before it. -/
theorem frames_exact (l : LinkedRun α) : l.Sound := by
  intro n a log s h
  refine ⟨fun hn _ => h.inv.slotFree hn, fun ha => ?_, fun ha i hi hv hnv => ?_, h.log_eq⟩
  · rw [(applySettings_of_works l.works a.succ_pos).1, h.inv.held_eq ha]
  · rw [(applySettings_of_works l.works a.succ_pos).2] at hnv
    rcases deleteBefore_perFrame s (delReqId s (a + 1)) hi with ⟨-, hlt, -⟩ | ⟨-, heq⟩
    · exact hlt.trans_le (h.inv.delReqId_spec ha).1
    · rw [heq] at hnv
      exact absurd hv hnv

/-- A linked sensor whose requests bring one entry each, but every third of them says that there is
nothing to do. -/
def everyThirdNop : LinkedRun ℕ where
  start := ⟨⟨[], 0, 0⟩, ⟨[], 0, 0⟩, ⟨[], 0, 0⟩, ⟨[], 0, 0⟩, fun _ => ⟨[], 0, 0⟩, 0, 0, 0, .config⟩
  packet r := ⟨none, if r % 3 = 0 then .nop else .update, r, ⟨0, [r], true⟩⟩
  io _ := 0
  linked := .inl rfl
  noFlush := rfl
  free _ := ⟨zero_ne_one, rfl⟩
  id _ := rfl
  checks _ := rfl
  kind r := by
    dsimp only
    split_ifs
    · exact .inl rfl
    · exact .inr ⟨rfl, rfl, le_refl _, List.cons_ne_nil _ _⟩
  works _ := le_refl _

theorem frames_exact_everyThirdNop : everyThirdNop.Sound := frames_exact everyThirdNop

end LinkedRun
end CameraKernel.SensorRequests
