import CameraKernel.VfeBus

/-! The books of a VFE bus: write masters, composite groups and the secure count against the
outputs that are acquired. An acquire that is refused after it was counted, or by a master
that it took, keeps what it had, and a shared group keeps the masters of the outputs that
left it. -/
namespace CameraKernel.VfeBus
open MachineInt

def VfeOut.acquired (v : VfeOut) : Bool := v.resState == .reserved || v.resState == .streaming

def VfeOut.wms (v : VfeOut) : List ℕ := (List.range v.numWm).filterMap v.wmRes

def BusVer2.sharers (b : BusVer2) (g : Fin 12) : Finset VfeOutType :=
  Finset.univ.filter fun o => (b.vfeOut o).acquired = true ∧ (b.vfeOut o).compGrp = some g

def BusVer2.secureOuts (b : BusVer2) : Finset VfeOutType :=
  Finset.univ.filter fun o => (b.vfeOut o).acquired = true ∧ camVfeBusCanBeSecure o = true

structure ReservedExactly (b : BusVer2) : Prop where
  wm : ∀ k, (b.busClient k = .reserved ∨ b.busClient k = .streaming) ↔
    ∃! o, (b.vfeOut o).acquired = true ∧ k ∈ (b.vfeOut o).wms
  grpOnce : ∀ g, b.freeCompGrp.count g + b.freeDualCompGrp.count g + b.usedCompGrp.count g = 1
  grpUsed : ∀ g, g ∈ b.usedCompGrp ↔ 0 < (b.compGrp g).acquireDevCnt
  grpCnt : ∀ g, (b.compGrp g).acquireDevCnt = (b.sharers g).card
  grpMask : ∀ g k, (b.compGrp g).compositeMask.getLsbD k = true ↔
    ∃ o ∈ b.sharers g, k ∈ (b.vfeOut o).wms
  secCnt : b.numSecOut = b.secureOuts.card
  secMode : ∀ o ∈ b.secureOuts, (b.vfeOut o).secureMode = b.secureMode

/-- What `ReservedExactly` speaks of is the same in both states. -/
structure Unmoved (b b' : BusVer2) : Prop where
  wm : b'.busClient = b.busClient
  acquired : ∀ o, (b'.vfeOut o).acquired = (b.vfeOut o).acquired
  out : ∀ o, (b.vfeOut o).acquired = true → b'.vfeOut o = b.vfeOut o
  free : b'.freeCompGrp.Perm b.freeCompGrp
  dual : b'.freeDualCompGrp.Perm b.freeDualCompGrp
  used : b'.usedCompGrp.Perm b.usedCompGrp
  cnt : ∀ g, (b'.compGrp g).acquireDevCnt = (b.compGrp g).acquireDevCnt
  mask : ∀ g, (b'.compGrp g).compositeMask = (b.compGrp g).compositeMask
  state : ∀ g, (b'.compGrp g).resState = (b.compGrp g).resState
  secureMode : b'.secureMode = b.secureMode
  numSecOut : b'.numSecOut = b.numSecOut

section
variable (cfg : BusCfg)

def wmFree (b : BusVer2) (o : VfeOutType) (plane : ℕ) : Bool :=
  match camVfeBusGetWmIdx o plane with
  | none => false
  | some k => decide (k < cfg.numClient) && b.busClient k == .available

def wmTakes (o : VfeOutType) (format plane : ℕ) : Bool :=
  match camVfeBusGetWmIdx o plane with
  | none => false
  | some k => wmFormatOk cfg.isLite k format plane

/-- Every master is to be had and takes the format, or the first of an output that is not
counted is not to be had. -/
def wmsKept (b : BusVer2) (o : VfeOutType) (numWm format : ℕ) : Bool :=
  (List.range numWm).all (fun p => wmFree cfg b o p && wmTakes cfg o format p) ||
    (!camVfeBusCanBeSecure o && !wmFree cfg b o 0)

def reserveKept (b : BusVer2) (o : VfeOutType) (numWm : ℕ) (a : AcquireArgs) : Bool :=
  if wantsCompGrp numWm a then
    match findCompGrp cfg b a with
    | .error _ => !camVfeBusCanBeSecure o
    | .ok _ => wmsKept cfg b o numWm a.format
  else match (b.vfeOut o).compGrp with
    | none => wmsKept cfg b o numWm a.format
    -- The group of an earlier acquire that failed.
    | some g => !camVfeBusCanBeSecure o && !wmFree cfg b o 0 && (b.compGrp g).resState == .available

/-- An acquire is refused before it is counted, or what it needs is to be had; an output is
released once acquired and while it has its group to itself. -/
def kept (b : BusVer2) : Op → Bool
  | .acquire a =>
    match camVfeBusGetOutResId a.resType with
    | none => true
    | some o =>
      decide (camVfeBusGetNumWm o a.format < 1) || (b.vfeOut o).resState != .available ||
        (acquireSecure b o a.secureMode).isNone ||
        reserveKept cfg b o (camVfeBusGetNumWm o a.format).toNat a
  | .release o =>
    (b.vfeOut o).acquired && match (b.vfeOut o).compGrp with
      | none => true
      | some g => (b.compGrp g).acquireDevCnt == 1

end

lemma getWmIdx_plane_lt {o : VfeOutType} {p k : ℕ} (h : camVfeBusGetWmIdx o p = some k) : p < 2 := by
  unfold camVfeBusGetWmIdx at h
  split at h <;> cases h <;> decide

lemma getWmIdx_lt {o : VfeOutType} {p k : ℕ} (h : camVfeBusGetWmIdx o p = some k) : k < 24 := by
  unfold camVfeBusGetWmIdx at h
  split at h <;> cases h <;> decide

lemma getWmIdx_inj {o : VfeOutType} {p q k : ℕ} (hp : camVfeBusGetWmIdx o p = some k)
    (hq : camVfeBusGetWmIdx o q = some k) : p = q := by
  have key : ∀ (o : VfeOutType) (p q : Fin 2), (camVfeBusGetWmIdx o p).isSome = true →
      camVfeBusGetWmIdx o p = camVfeBusGetWmIdx o q → p = q := by decide
  have := key o ⟨p, getWmIdx_plane_lt hp⟩ ⟨q, getWmIdx_plane_lt hq⟩ (by simp [hp]) (by simp [hp, hq])
  exact congrArg Fin.val this

lemma getNumWm_le (o : VfeOutType) (format : ℕ) : camVfeBusGetNumWm o format ≤ 2 := by
  cases o <;> simp only [camVfeBusGetNumWm, Errno.EINVAL] <;> split_ifs <;> decide

lemma getNumWm_of_not_secure {o : VfeOutType} (h : camVfeBusCanBeSecure o = false) (format : ℕ) :
    camVfeBusGetNumWm o format ≤ 1 := by
  cases o <;> simp only [camVfeBusCanBeSecure, reduceCtorEq] at h <;>
    simp only [camVfeBusGetNumWm, Errno.EINVAL] <;> split <;> omega

namespace BusVer2
variable (b : BusVer2) (o : VfeOutType) (g : Fin 12)

@[simp] lemma setOut_vfeOut (f : VfeOut → VfeOut) :
    (b.setOut o f).vfeOut = Function.update b.vfeOut o (f (b.vfeOut o)) := rfl
@[simp] lemma setOut_busClient (f : VfeOut → VfeOut) : (b.setOut o f).busClient = b.busClient := rfl
@[simp] lemma setOut_compGrp (f : VfeOut → VfeOut) : (b.setOut o f).compGrp = b.compGrp := rfl
@[simp] lemma setOut_free (f : VfeOut → VfeOut) : (b.setOut o f).freeCompGrp = b.freeCompGrp := rfl
@[simp] lemma setOut_dual (f : VfeOut → VfeOut) :
    (b.setOut o f).freeDualCompGrp = b.freeDualCompGrp := rfl
@[simp] lemma setOut_used (f : VfeOut → VfeOut) : (b.setOut o f).usedCompGrp = b.usedCompGrp := rfl
@[simp] lemma setOut_secureMode (f : VfeOut → VfeOut) : (b.setOut o f).secureMode = b.secureMode := rfl
@[simp] lemma setOut_numSecOut (f : VfeOut → VfeOut) : (b.setOut o f).numSecOut = b.numSecOut := rfl

@[simp] lemma setGrp_compGrp (f : CompGrp → CompGrp) :
    (b.setGrp g f).compGrp = Function.update b.compGrp g (f (b.compGrp g)) := rfl
@[simp] lemma setGrp_busClient (f : CompGrp → CompGrp) : (b.setGrp g f).busClient = b.busClient := rfl
@[simp] lemma setGrp_vfeOut (f : CompGrp → CompGrp) : (b.setGrp g f).vfeOut = b.vfeOut := rfl
@[simp] lemma setGrp_free (f : CompGrp → CompGrp) : (b.setGrp g f).freeCompGrp = b.freeCompGrp := rfl
@[simp] lemma setGrp_dual (f : CompGrp → CompGrp) :
    (b.setGrp g f).freeDualCompGrp = b.freeDualCompGrp := rfl
@[simp] lemma setGrp_used (f : CompGrp → CompGrp) : (b.setGrp g f).usedCompGrp = b.usedCompGrp := rfl
@[simp] lemma setGrp_secureMode (f : CompGrp → CompGrp) :
    (b.setGrp g f).secureMode = b.secureMode := rfl
@[simp] lemma setGrp_numSecOut (f : CompGrp → CompGrp) : (b.setGrp g f).numSecOut = b.numSecOut := rfl

@[simp] lemma setWm_busClient (k : ℕ) (r : ResState) :
    (b.setWm k r).busClient = Function.update b.busClient k r := rfl
@[simp] lemma setWm_vfeOut (k : ℕ) (r : ResState) : (b.setWm k r).vfeOut = b.vfeOut := rfl
@[simp] lemma setWm_compGrp (k : ℕ) (r : ResState) : (b.setWm k r).compGrp = b.compGrp := rfl

end BusVer2

lemma releaseWms_eq (b : BusVer2) (l : List (Option ℕ)) :
    releaseWms b l = { b with
      busClient := fun k => if some k ∈ l then .available else b.busClient k } := by
  induction l generalizing b with
  | nil => simp [releaseWms]
  | cons w l ih =>
    rw [releaseWms, List.foldl_cons, ← releaseWms, ih]
    cases w with
    | none => simp [camVfeBusReleaseWm]
    | some wmIdx =>
      simp only [camVfeBusReleaseWm, BusVer2.setWm, BusVer2.mk.injEq, and_true, List.mem_cons,
        Option.some.injEq]
      funext k
      by_cases hk : k = wmIdx
      · simp [hk]
      · simp [hk]

structure Inv (b : BusVer2) : Prop where
  held : ∀ o k, (b.vfeOut o).acquired = true → k ∈ (b.vfeOut o).wms → b.busClient k = .reserved
  owner : ∀ o o' k, (b.vfeOut o).acquired = true → (b.vfeOut o').acquired = true →
    k ∈ (b.vfeOut o).wms → k ∈ (b.vfeOut o').wms → o = o'
  owned : ∀ k, b.busClient k = .reserved ∨ b.busClient k = .streaming →
    ∃ o, (b.vfeOut o).acquired = true ∧ k ∈ (b.vfeOut o).wms
  grpOnce : ∀ g, b.freeCompGrp.count g + b.freeDualCompGrp.count g + b.usedCompGrp.count g = 1
  grpUsed : ∀ g, g ∈ b.usedCompGrp ↔ 0 < (b.compGrp g).acquireDevCnt
  grpCnt : ∀ g, (b.compGrp g).acquireDevCnt = (b.sharers g).card
  grpMask : ∀ g k, (b.compGrp g).compositeMask.getLsbD k = true ↔
    ∃ o ∈ b.sharers g, k ∈ (b.vfeOut o).wms
  secCnt : b.numSecOut = b.secureOuts.card
  secMode : ∀ o ∈ b.secureOuts, (b.vfeOut o).secureMode = b.secureMode
  planes : ∀ o, (b.vfeOut o).acquired = true → (b.vfeOut o).resState = .reserved ∧
    0 < (b.vfeOut o).numWm ∧ ∀ p < (b.vfeOut o).numWm,
      ((b.vfeOut o).wmRes p).isSome = true ∧ (b.vfeOut o).wmRes p = camVfeBusGetWmIdx o p
  used : ∀ g ∈ b.usedCompGrp, (b.compGrp g).resState = .reserved
  free : ∀ g, g ∉ b.usedCompGrp → (b.compGrp g).resState = .available
  single : ∀ g ∈ b.freeCompGrp, ¬ 6 ≤ g.val
  dual : ∀ g ∈ b.freeDualCompGrp, 6 ≤ g.val

theorem Inv.exact {b : BusVer2} (h : Inv b) : ReservedExactly b where
  wm k := by
    constructor
    · intro hk
      obtain ⟨o, ho, hmem⟩ := h.owned k hk
      exact ⟨o, ⟨ho, hmem⟩, fun o' ho' => h.owner o' o k ho'.1 ho ho'.2 hmem⟩
    · rintro ⟨o, ⟨ho, hmem⟩, -⟩
      exact .inl (h.held o k ho hmem)
  grpOnce := h.grpOnce
  grpUsed := h.grpUsed
  grpCnt := h.grpCnt
  grpMask := h.grpMask
  secCnt := h.secCnt
  secMode := h.secMode

@[simp] lemma mem_sharers {b : BusVer2} {g : Fin 12} {o : VfeOutType} :
    o ∈ b.sharers g ↔ (b.vfeOut o).acquired = true ∧ (b.vfeOut o).compGrp = some g := by
  simp [BusVer2.sharers]

@[simp] lemma mem_secureOuts {b : BusVer2} {o : VfeOutType} :
    o ∈ b.secureOuts ↔ (b.vfeOut o).acquired = true ∧ camVfeBusCanBeSecure o = true := by
  simp [BusVer2.secureOuts]

lemma card_le (s : Finset VfeOutType) : s.card ≤ 23 :=
  (Finset.card_le_univ s).trans (by decide)

lemma u32Inc_card (s : Finset VfeOutType) : u32Inc s.card = s.card + 1 :=
  u32Inc_of_lt (by have := card_le s; rw [u32Max_eq]; omega)

lemma mem_wms {v : VfeOut} {k : ℕ} : k ∈ v.wms ↔ ∃ p < v.numWm, v.wmRes p = some k := by
  simp [VfeOut.wms]

/-- From `b` to `b'` the output takes its masters and its group. -/
structure Holds (o : VfeOutType) (b b' : BusVer2) : Prop where
  avail : (b.vfeOut o).acquired = false
  state : (b'.vfeOut o).resState = .reserved
  planes : 0 < (b'.vfeOut o).numWm ∧ ∀ p < (b'.vfeOut o).numWm,
    ((b'.vfeOut o).wmRes p).isSome = true ∧ (b'.vfeOut o).wmRes p = camVfeBusGetWmIdx o p
  rest : ∀ o' ≠ o, b'.vfeOut o' = b.vfeOut o'
  taken : ∀ k ∈ (b'.vfeOut o).wms, b.busClient k = .available ∧ b'.busClient k = .reserved
  kept : ∀ k ∉ (b'.vfeOut o).wms, b'.busClient k = b.busClient k
  grpOther : ∀ g, (b'.vfeOut o).compGrp ≠ some g → b'.compGrp g = b.compGrp g
  grp : ∀ g, (b'.vfeOut o).compGrp = some g →
    (b'.compGrp g).acquireDevCnt = u32Inc (b.compGrp g).acquireDevCnt ∧
    (b'.compGrp g).resState = .reserved ∧
    ∀ k, (b'.compGrp g).compositeMask.getLsbD k = true ↔
      (b.compGrp g).compositeMask.getLsbD k = true ∨ k ∈ (b'.vfeOut o).wms
  once : ∀ g, b'.freeCompGrp.count g + b'.freeDualCompGrp.count g + b'.usedCompGrp.count g =
    b.freeCompGrp.count g + b.freeDualCompGrp.count g + b.usedCompGrp.count g
  used : ∀ g, g ∈ b'.usedCompGrp ↔ g ∈ b.usedCompGrp ∨ (b'.vfeOut o).compGrp = some g
  single : ∀ g ∈ b'.freeCompGrp, g ∈ b.freeCompGrp
  dual : ∀ g ∈ b'.freeDualCompGrp, g ∈ b.freeDualCompGrp

/-- Besides, it takes its place in the count. -/
structure Reserves (o : VfeOutType) (b b' : BusVer2) : Prop extends Holds o b b' where
  counted : camVfeBusCanBeSecure o = true → b'.numSecOut = u32Inc b.numSecOut ∧
    (b'.vfeOut o).secureMode = b'.secureMode ∧ (b.numSecOut ≠ 0 → b'.secureMode = b.secureMode)
  uncounted : camVfeBusCanBeSecure o = false →
    b'.numSecOut = b.numSecOut ∧ b'.secureMode = b.secureMode

section
variable {b b' : BusVer2} {o : VfeOutType}

lemma acquired_of_state {v : VfeOut} (h : v.resState = .reserved) : v.acquired = true := by
  simp [VfeOut.acquired, h]

lemma Reserves.acquired (h : Reserves o b b') (o' : VfeOutType) :
    (b'.vfeOut o').acquired = true ↔ o' = o ∨ (b.vfeOut o').acquired = true := by
  by_cases ho : o' = o
  · simp [ho, acquired_of_state h.state]
  · simp [ho, h.rest o' ho]

lemma Reserves.ne (h : Reserves o b b') {o' : VfeOutType} (ho' : (b.vfeOut o').acquired = true) :
    o' ≠ o := by
  rintro rfl
  simp [h.avail] at ho'

lemma Reserves.sharers (h : Reserves o b b') (g : Fin 12) :
    b'.sharers g = if (b'.vfeOut o).compGrp = some g then insert o (b.sharers g) else b.sharers g := by
  ext o'
  by_cases ho : o' = o
  · subst ho
    by_cases hg : (b'.vfeOut o').compGrp = some g <;>
      simp [hg, h.avail, acquired_of_state h.state]
  · by_cases hg : (b'.vfeOut o).compGrp = some g <;> simp [hg, ho, h.rest o' ho]

lemma Reserves.secureOuts (h : Reserves o b b') :
    b'.secureOuts = if camVfeBusCanBeSecure o = true then insert o b.secureOuts else b.secureOuts := by
  ext o'
  by_cases ho : o' = o
  · subst ho
    by_cases hs : camVfeBusCanBeSecure o' = true <;> simp [hs, acquired_of_state h.state]
  · by_cases hs : camVfeBusCanBeSecure o = true <;> simp [hs, ho, h.rest o' ho]

theorem Reserves.inv (h : Reserves o b b') (hb : Inv b) : Inv b' where
  held o' k ho' hk := by
    rcases (h.acquired o').mp ho' with rfl | hacq
    · exact (h.taken k hk).2
    · rw [h.rest o' (h.ne hacq)] at hk
      have hres := hb.held o' k hacq hk
      by_cases hmem : k ∈ (b'.vfeOut o).wms
      · exact (h.taken k hmem).2
      · rw [h.kept k hmem, hres]
  owner o₁ o₂ k h₁ h₂ hk₁ hk₂ := by
    -- A master that the output took was free, so nobody else has it.
    have hother : ∀ o', (b.vfeOut o').acquired = true → k ∈ (b'.vfeOut o').wms →
        k ∉ (b'.vfeOut o).wms := by
      intro o' hacq hk hmem
      rw [h.rest o' (h.ne hacq)] at hk
      simpa [(h.taken k hmem).1] using hb.held o' k hacq hk
    rcases (h.acquired o₁).mp h₁ with rfl | hacq₁ <;> rcases (h.acquired o₂).mp h₂ with rfl | hacq₂
    · rfl
    · exact absurd hk₁ (hother o₂ hacq₂ hk₂)
    · exact absurd hk₂ (hother o₁ hacq₁ hk₁)
    · rw [h.rest o₁ (h.ne hacq₁)] at hk₁
      rw [h.rest o₂ (h.ne hacq₂)] at hk₂
      exact hb.owner o₁ o₂ k hacq₁ hacq₂ hk₁ hk₂
  owned k hk := by
    by_cases hmem : k ∈ (b'.vfeOut o).wms
    · exact ⟨o, acquired_of_state h.state, hmem⟩
    · rw [h.kept k hmem] at hk
      obtain ⟨o', hacq, hk'⟩ := hb.owned k hk
      exact ⟨o', (h.acquired o').mpr (.inr hacq), by rwa [h.rest o' (h.ne hacq)]⟩
  grpOnce g := by rw [h.once g, hb.grpOnce g]
  grpUsed g := by
    rw [h.used g]
    by_cases hg : (b'.vfeOut o).compGrp = some g
    · rw [(h.grp g hg).1, hb.grpCnt g, u32Inc_card]
      simp [hg]
    · rw [h.grpOther g hg, hb.grpUsed g]
      simp [hg]
  grpCnt g := by
    rw [h.sharers g]
    by_cases hg : (b'.vfeOut o).compGrp = some g
    · rw [if_pos hg, (h.grp g hg).1, hb.grpCnt g, u32Inc_card,
        Finset.card_insert_of_notMem (by simp [h.avail])]
    · rw [if_neg hg, h.grpOther g hg, hb.grpCnt g]
  grpMask g k := by
    have hrest : (∃ o' ∈ b.sharers g, k ∈ (b'.vfeOut o').wms) ↔
        ∃ o' ∈ b.sharers g, k ∈ (b.vfeOut o').wms :=
      exists_congr fun o' => and_congr_right fun hmem => by
        rw [h.rest o' (h.ne (mem_sharers.mp hmem).1)]
    rw [h.sharers g]
    by_cases hg : (b'.vfeOut o).compGrp = some g
    · rw [if_pos hg, (h.grp g hg).2.2 k, hb.grpMask g k, Finset.exists_mem_insert, hrest, or_comm]
    · rw [if_neg hg, h.grpOther g hg, hb.grpMask g k, hrest]
  secCnt := by
    rw [h.secureOuts]
    cases hs : camVfeBusCanBeSecure o with
    | true => rw [if_pos rfl, (h.counted hs).1, hb.secCnt, u32Inc_card,
        Finset.card_insert_of_notMem (by simp [h.avail])]
    | false => simp [(h.uncounted hs).1, hb.secCnt]
  secMode o' ho' := by
    rw [h.secureOuts] at ho'
    cases hs : camVfeBusCanBeSecure o with
    | true =>
      obtain ⟨-, hmode, hkeep⟩ := h.counted hs
      rw [hs, if_pos rfl] at ho'
      rcases Finset.mem_insert.mp ho' with rfl | hmem
      · exact hmode
      · have hpos : b.numSecOut ≠ 0 := by
          rw [hb.secCnt]
          exact Finset.card_ne_zero_of_mem hmem
        rw [h.rest o' (h.ne (mem_secureOuts.mp hmem).1), hkeep hpos, hb.secMode o' hmem]
    | false =>
      have hmem : o' ∈ b.secureOuts := by simpa [hs] using ho'
      rw [h.rest o' (h.ne (mem_secureOuts.mp hmem).1), (h.uncounted hs).2, hb.secMode o' hmem]
  planes o' ho' := by
    rcases (h.acquired o').mp ho' with rfl | hacq
    · exact ⟨h.state, h.planes⟩
    · rw [h.rest o' (h.ne hacq)]
      exact hb.planes o' hacq
  used g hg := by
    by_cases hgrp : (b'.vfeOut o).compGrp = some g
    · exact (h.grp g hgrp).2.1
    · rw [h.grpOther g hgrp]
      exact hb.used g (((h.used g).mp hg).resolve_right hgrp)
  free g hg := by
    have hnot := fun hor => hg ((h.used g).mpr hor)
    rw [h.grpOther g fun hgrp => hnot (.inr hgrp)]
    exact hb.free g fun hmem => hnot (.inl hmem)
  single g hg := hb.single g (h.single g hg)
  dual g hg := hb.dual g (h.dual g hg)

/-- From `b` to `b'` the output gives back its masters, its group and its place in the count. -/
structure Frees (o : VfeOutType) (b b' : BusVer2) : Prop where
  state : (b'.vfeOut o).acquired = false
  rest : ∀ o' ≠ o, b'.vfeOut o' = b.vfeOut o'
  given : ∀ k ∈ (b.vfeOut o).wms, b'.busClient k = .available
  kept : ∀ k ∉ (b.vfeOut o).wms, b'.busClient k = b.busClient k
  grpOther : ∀ g, (b.vfeOut o).compGrp ≠ some g → b'.compGrp g = b.compGrp g
  grp : ∀ g, (b.vfeOut o).compGrp = some g → (b'.compGrp g).acquireDevCnt = 0 ∧
    (b'.compGrp g).resState = .available ∧ (b'.compGrp g).compositeMask = 0
  once : ∀ g, b'.freeCompGrp.count g + b'.freeDualCompGrp.count g + b'.usedCompGrp.count g =
    b.freeCompGrp.count g + b.freeDualCompGrp.count g + b.usedCompGrp.count g
  used : ∀ g, g ∈ b'.usedCompGrp ↔ g ∈ b.usedCompGrp ∧ (b.vfeOut o).compGrp ≠ some g
  single : ∀ g ∈ b'.freeCompGrp, g ∈ b.freeCompGrp ∨ ¬ 6 ≤ g.val
  dual : ∀ g ∈ b'.freeDualCompGrp, g ∈ b.freeDualCompGrp ∨ 6 ≤ g.val
  counted : camVfeBusCanBeSecure o = true → b'.numSecOut = u32Dec b.numSecOut ∧
    (b'.numSecOut ≠ 0 → b'.secureMode = b.secureMode)
  uncounted : camVfeBusCanBeSecure o = false →
    b'.numSecOut = b.numSecOut ∧ b'.secureMode = b.secureMode

lemma Frees.acquired (h : Frees o b b') (o' : VfeOutType) :
    (b'.vfeOut o').acquired = true ↔ o' ≠ o ∧ (b.vfeOut o').acquired = true := by
  by_cases ho : o' = o
  · simp [ho, h.state]
  · simp [ho, h.rest o' ho]

lemma Frees.sharers (h : Frees o b b') (g : Fin 12) : b'.sharers g = (b.sharers g).erase o := by
  ext o'
  by_cases ho : o' = o
  · simp [ho, h.state]
  · simp [ho, h.rest o' ho]

lemma Frees.secureOuts (h : Frees o b b') : b'.secureOuts = b.secureOuts.erase o := by
  ext o'
  by_cases ho : o' = o
  · simp [ho, h.state]
  · simp [ho, h.rest o' ho]

lemma Inv.sharers_eq (hb : Inv b) (hacq : (b.vfeOut o).acquired = true) {g : Fin 12}
    (hg : (b.vfeOut o).compGrp = some g) (hone : (b.compGrp g).acquireDevCnt = 1) :
    b.sharers g = {o} := by
  rw [hb.grpCnt g, Finset.card_eq_one] at hone
  obtain ⟨o', ho'⟩ := hone
  have hmem : o ∈ b.sharers g := mem_sharers.mpr ⟨hacq, hg⟩
  rw [ho', Finset.mem_singleton] at hmem
  rw [ho', hmem]

theorem Frees.inv (h : Frees o b b') (hb : Inv b) (hacq : (b.vfeOut o).acquired = true)
    (halone : ∀ g, (b.vfeOut o).compGrp = some g → (b.compGrp g).acquireDevCnt = 1) : Inv b' where
  held o' k ho' hk := by
    obtain ⟨hne, hacq'⟩ := (h.acquired o').mp ho'
    rw [h.rest o' hne] at hk
    rw [h.kept k fun hmem => hne (hb.owner o' o k hacq' hacq hk hmem)]
    exact hb.held o' k hacq' hk
  owner o₁ o₂ k h₁ h₂ hk₁ hk₂ := by
    obtain ⟨hne₁, hacq₁⟩ := (h.acquired o₁).mp h₁
    obtain ⟨hne₂, hacq₂⟩ := (h.acquired o₂).mp h₂
    rw [h.rest o₁ hne₁] at hk₁
    rw [h.rest o₂ hne₂] at hk₂
    exact hb.owner o₁ o₂ k hacq₁ hacq₂ hk₁ hk₂
  owned k hk := by
    by_cases hmem : k ∈ (b.vfeOut o).wms
    · simp [h.given k hmem] at hk
    · rw [h.kept k hmem] at hk
      obtain ⟨o', hacq', hk'⟩ := hb.owned k hk
      have hne : o' ≠ o := by
        rintro rfl
        exact hmem hk'
      exact ⟨o', (h.acquired o').mpr ⟨hne, hacq'⟩, by rwa [h.rest o' hne]⟩
  grpOnce g := by rw [h.once g, hb.grpOnce g]
  grpUsed g := by
    rw [h.used g]
    by_cases hg : (b.vfeOut o).compGrp = some g
    · simp [hg, (h.grp g hg).1]
    · rw [h.grpOther g hg, hb.grpUsed g]
      simp [hg]
  grpCnt g := by
    rw [h.sharers g]
    by_cases hg : (b.vfeOut o).compGrp = some g
    · simp [(h.grp g hg).1, hb.sharers_eq hacq hg (halone g hg)]
    · rw [h.grpOther g hg, hb.grpCnt g, Finset.erase_eq_of_notMem (by simp [hg])]
  grpMask g k := by
    rw [h.sharers g]
    by_cases hg : (b.vfeOut o).compGrp = some g
    · simp [(h.grp g hg).2.2, hb.sharers_eq hacq hg (halone g hg)]
    · rw [h.grpOther g hg, hb.grpMask g k, Finset.erase_eq_of_notMem (by simp [hg])]
      refine exists_congr fun o' => and_congr_right fun hmem => ?_
      have hne : o' ≠ o := by
        rintro rfl
        exact hg (mem_sharers.mp hmem).2
      rw [h.rest o' hne]
  secCnt := by
    rw [h.secureOuts]
    cases hs : camVfeBusCanBeSecure o with
    | true =>
      have hmem : o ∈ b.secureOuts := mem_secureOuts.mpr ⟨hacq, hs⟩
      rw [(h.counted hs).1, hb.secCnt, u32Dec_of_pos (Finset.card_pos.mpr ⟨o, hmem⟩),
        Finset.card_erase_of_mem hmem]
    | false => rw [(h.uncounted hs).1, hb.secCnt, Finset.erase_eq_of_notMem (by simp [hs])]
  secMode o' ho' := by
    rw [h.secureOuts, Finset.mem_erase] at ho'
    obtain ⟨hne, hmem'⟩ := ho'
    rw [h.rest o' hne, hb.secMode o' hmem']
    cases hs : camVfeBusCanBeSecure o with
    | true =>
      have hmem : o ∈ b.secureOuts := mem_secureOuts.mpr ⟨hacq, hs⟩
      -- The other output is still counted.
      have htwo : 1 < b.secureOuts.card :=
        Finset.one_lt_card.mpr ⟨o', hmem', o, hmem, hne⟩
      refine ((h.counted hs).2 ?_).symm
      rw [(h.counted hs).1, hb.secCnt, u32Dec_of_pos (by omega)]
      omega
    | false => exact (h.uncounted hs).2.symm
  planes o' ho' := by
    obtain ⟨hne, hacq'⟩ := (h.acquired o').mp ho'
    rw [h.rest o' hne]
    exact hb.planes o' hacq'
  used g hg := by
    obtain ⟨hmem, hne⟩ := (h.used g).mp hg
    rw [h.grpOther g hne]
    exact hb.used g hmem
  free g hg := by
    by_cases hgrp : (b.vfeOut o).compGrp = some g
    · exact (h.grp g hgrp).2.1
    · rw [h.grpOther g hgrp]
      exact hb.free g fun hmem => hg ((h.used g).mpr ⟨hmem, hgrp⟩)
  single g hg := (h.single g hg).elim (hb.single g) id
  dual g hg := (h.dual g hg).elim (hb.dual g) id

lemma Unmoved.refl (b : BusVer2) : Unmoved b b :=
  ⟨rfl, fun _ => rfl, fun _ _ => rfl, .refl _, .refl _, .refl _, fun _ => rfl, fun _ => rfl,
    fun _ => rfl, rfl, rfl⟩

lemma Unmoved.sharers (h : Unmoved b b') (g : Fin 12) : b'.sharers g = b.sharers g := by
  ext o
  simp only [mem_sharers, h.acquired o]
  exact and_congr_right fun hacq => by rw [h.out o hacq]

lemma Unmoved.secureOuts (h : Unmoved b b') : b'.secureOuts = b.secureOuts := by
  ext o
  simp [h.acquired o]

theorem Unmoved.inv (h : Unmoved b b') (hb : Inv b) : Inv b' where
  held o k ho hk := by
    rw [h.acquired o] at ho
    rw [h.out o ho] at hk
    rw [h.wm, hb.held o k ho hk]
  owner o o' k ho ho' hk hk' := by
    rw [h.acquired o] at ho
    rw [h.acquired o'] at ho'
    rw [h.out o ho] at hk
    rw [h.out o' ho'] at hk'
    exact hb.owner o o' k ho ho' hk hk'
  owned k hk := by
    rw [h.wm] at hk
    obtain ⟨o, ho, hmem⟩ := hb.owned k hk
    exact ⟨o, by rwa [h.acquired o], by rwa [h.out o ho]⟩
  grpOnce g := by
    rw [h.free.count_eq, h.dual.count_eq, h.used.count_eq, hb.grpOnce g]
  grpUsed g := by rw [h.used.mem_iff, h.cnt, hb.grpUsed g]
  grpCnt g := by rw [h.cnt, h.sharers, hb.grpCnt g]
  grpMask g k := by
    rw [h.mask, h.sharers, hb.grpMask g k]
    exact exists_congr fun o => and_congr_right fun hmem => by rw [h.out o (mem_sharers.mp hmem).1]
  secCnt := by rw [h.numSecOut, h.secureOuts, hb.secCnt]
  secMode o ho := by
    rw [h.secureOuts] at ho
    rw [h.out o (mem_secureOuts.mp ho).1, h.secureMode, hb.secMode o ho]
  planes o ho := by
    rw [h.acquired o] at ho
    rw [h.out o ho]
    exact hb.planes o ho
  used g hg := by
    rw [h.state]
    exact hb.used g (h.used.mem_iff.mp hg)
  free g hg := by
    rw [h.state]
    exact hb.free g fun hmem => hg (h.used.mem_iff.mpr hmem)
  single g hg := hb.single g (h.free.mem_iff.mp hg)
  dual g hg := hb.dual g (h.dual.mem_iff.mp hg)

end

end CameraKernel.VfeBus
