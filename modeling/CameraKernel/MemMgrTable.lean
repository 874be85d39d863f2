import CameraKernel.MemMgr
import CameraKernel.Transition

/-! The buffer table over runs of its allocating and releasing calls. -/
namespace CameraKernel.MemMgr

inductive AllocPath
  | allocAndMap
  | map
  | requestMem
  deriving DecidableEq, Repr

/-- How a slot was filled. -/
structure Creation where
  path : AllocPath
  flags : BitVec 32
  deriving DecidableEq, Repr

/-- The table with how its slots were filled last. -/
structure State where
  tbl : MemTable
  created : ℕ → Creation

def start : State := ⟨memMgrInit, fun _ => ⟨.requestMem, 0⟩⟩

inductive Op
  | allocAndMap (cmd : MemMgrAllocCmd) (env : Answers)
  | map (cmd : MemMgrMapCmd) (env : Answers)
  | requestMem (inp : MemMgrRequestDesc) (env : Answers)
  | release (bufHandle : BitVec 32) (ans : BufAnswers)
  | releaseMem (memHandle : BitVec 32) (ans : BufAnswers)

/-- The state after an allocating call. -/
def State.allocated (s : State) (c : Creation) (r : Allocated) : State where
  tbl := r.2.2
  created := match r.2.1 with
    | some idx => Function.update s.created idx c
    | none => s.created

def step (s : State) : Op → State
  | .allocAndMap cmd env => s.allocated ⟨.allocAndMap, cmd.flags⟩ (memMgrAllocAndMap s.tbl cmd env)
  | .map cmd env => s.allocated ⟨.map, cmd.flags⟩ (memMgrMap s.tbl cmd env)
  | .requestMem inp env => s.allocated ⟨.requestMem, inp.flags⟩ (memMgrRequestMem s.tbl inp env)
  | .release bufHandle ans => { s with tbl := (memMgrRelease s.tbl bufHandle ans).2.2 }
  | .releaseMem memHandle ans => { s with tbl := (memMgrReleaseMem s.tbl memHandle ans).2.2 }

/-- Slot `i` holds a buffer. -/
def Active (tbl : MemTable) (i : ℕ) : Prop := 0 < i ∧ i < bufqMax ∧ (tbl.bufq i).active = true

instance (tbl : MemTable) (i : ℕ) : Decidable (Active tbl i) := inferInstanceAs (Decidable (_ ∧ _ ∧ _))

/-- The value is the handle of a slot that holds a buffer. -/
def IsHandle (tbl : MemTable) (hdl : BitVec 32) : Prop := ∃ i, Active tbl i ∧ (tbl.bufq i).bufHandle = hdl

/-- No access touches a buffer, and no release changes the table, but through the handle of an active slot. -/
structure Guarded (tbl : MemTable) (hdl : BitVec 32) (ans : BufAnswers) : Prop where
  ioBuf : ∀ mmuHandle, (memGetIoBuf tbl hdl mmuHandle ans).2 ≠ [] → IsHandle tbl hdl
  cpuBuf : (memGetCpuBuf tbl hdl ans).2 ≠ [] ∨ (∃ buf, (memGetCpuBuf tbl hdl ans).1 = .ok buf) →
    IsHandle tbl hdl
  putCpuBuf : (memPutCpuBuf tbl hdl ans).2 ≠ [] → IsHandle tbl hdl
  cacheOps : ∀ ops, (memMgrCacheOps tbl hdl ops ans).2 ≠ [] → IsHandle tbl hdl
  release : (memMgrRelease tbl hdl ans).2.1 ≠ [] ∨ (memMgrRelease tbl hdl ans).2.2 ≠ tbl → IsHandle tbl hdl

/-- What the table is for; `secure` says of which creations the handle is secure. -/
structure TableSound (secure : Creation → Prop) (s : State) : Prop where
  bitmap : ∀ i, 0 < i → i < bufqMax → (s.tbl.bitmap i = true ↔ (s.tbl.bufq i).active = true)
  index : ∀ i, Active s.tbl i → getHdlIdx (s.tbl.bufq i).bufHandle = i
  distinct : ∀ i j, Active s.tbl i → Active s.tbl j →
    (s.tbl.bufq i).bufHandle = (s.tbl.bufq j).bufHandle → i = j
  secure : ∀ i, Active s.tbl i → (isSecureHdl (s.tbl.bufq i).bufHandle = 1#32 ↔ secure (s.created i))
  guarded : ∀ hdl ans, Guarded s.tbl hdl ans

def Protected (c : Creation) : Prop := has c.flags .protectedMode = true

instance (c : Creation) : Decidable (Protected c) := inferInstanceAs (Decidable (_ = true))

/-- The buffers the kernel requests for itself are never secure. -/
def UserProtected (c : Creation) : Prop := Protected c ∧ c.path ≠ .requestMem

def Creation.handle (c : Creation) (idx : ℕ) (fd : BitVec 32) : BitVec 32 :=
  if c.path = .requestMem then getMemHandle idx fd else userHandle idx fd c.flags

inductive EntrySound (s : State) (i : ℕ) : Prop
  | free (hbit : s.tbl.bitmap i = false) (hactive : (s.tbl.bufq i).active = false)
  | active (hbit : s.tbl.bitmap i = true) (hactive : (s.tbl.bufq i).active = true)
      (hhandle : (s.tbl.bufq i).bufHandle = (s.created i).handle i (s.tbl.bufq i).fd)

def Inv (s : State) : Prop := ∀ i, 0 < i → i < bufqMax → EntrySound s i

lemma inv_start : Inv start := by
  intro i hpos hlt
  refine .free ?_ ?_
  · simp [start, memMgrInit, Nat.ne_of_gt hpos]
  · simp only [start, memMgrInit]
    split <;> rfl

lemma Creation.handle_idx {idx : ℕ} (c : Creation) (fd : BitVec 32) (h : idx < bufqMax) :
    getHdlIdx (c.handle idx fd) = idx := by
  have hplain := getHdlIdx_getMemHandle fd h
  unfold handle userHandle
  split
  · exact hplain
  · split
    · rw [getHdlIdx_setSecureHdl, hplain]
    · exact hplain

lemma Creation.handle_secure (c : Creation) (idx : ℕ) (fd : BitVec 32) :
    isSecureHdl (c.handle idx fd) = 1#32 ↔ UserProtected c := by
  have hplain : (getMemHandle idx fd).getLsbD secureBitPos ≠ true := by
    simp [getMemHandle_secureBit]
  rw [isSecureHdl_iff]
  unfold handle userHandle UserProtected Protected
  split
  · next hreq => exact iff_of_false hplain fun h => h.2 hreq
  · next huser =>
    split
    · next hprot => exact iff_of_true (setSecureHdl_secureBit _) ⟨hprot, huser⟩
    · next hprot => exact iff_of_false hplain fun h => hprot h.1

/-- A call writes one slot, with its bit. -/
def MemTable.write (tbl : MemTable) (idx : ℕ) (entry : BufQueue) : MemTable where
  bitmap := Function.update tbl.bitmap idx entry.active
  bufq := Function.update tbl.bufq idx entry

lemma EntrySound.write_of_ne {s : State} {idx i : ℕ} (h : EntrySound s i) (hne : i ≠ idx) (entry : BufQueue)
    {created : ℕ → Creation} (hcreated : created i = s.created i) :
    EntrySound ⟨s.tbl.write idx entry, created⟩ i := by
  cases h with
  | free hb ha => exact .free (by simpa [MemTable.write, hne] using hb) (by simpa [MemTable.write, hne] using ha)
  | active hb ha hh =>
    refine .active (by simpa [MemTable.write, hne] using hb) (by simpa [MemTable.write, hne] using ha) ?_
    simpa [MemTable.write, hne, hcreated] using hh

lemma inv_write_free {s : State} (h : Inv s) (idx : ℕ) {entry : BufQueue} (hfree : entry.active = false) :
    Inv { s with tbl := s.tbl.write idx entry } := by
  intro i hpos hlt
  by_cases hi : i = idx
  · exact .free (by simp [MemTable.write, hi, hfree]) (by simp [MemTable.write, hi, hfree])
  · exact (h i hpos hlt).write_of_ne hi entry rfl

lemma inv_write_filled {s : State} (h : Inv s) {idx : ℕ} {entry : BufQueue} {c : Creation}
    (hactive : entry.active = true) (hhandle : entry.bufHandle = c.handle idx entry.fd) :
    Inv ⟨s.tbl.write idx entry, Function.update s.created idx c⟩ := by
  intro i hpos hlt
  by_cases hi : i = idx
  · subst hi
    exact .active (by simp [MemTable.write, hactive]) (by simp [MemTable.write, hactive])
      (by simpa [MemTable.write] using hhandle)
  · exact (h i hpos hlt).write_of_ne hi entry (by simp [hi])

/-- What an allocating call can do: nothing, a slot claimed and given back, or a slot filled. -/
inductive AllocOutcome (tbl : MemTable) (c : Creation) : Allocated → Prop
  | refused (rc : ℤ) : AllocOutcome tbl c (rc, none, tbl)
  | undone (rc : ℤ) (idx : ℕ) (entry : BufQueue) (hfree : entry.active = false) :
      AllocOutcome tbl c (rc, none, tbl.write idx entry)
  | filled (rc : ℤ) (idx : ℕ) (entry : BufQueue) (hactive : entry.active = true)
      (hhandle : entry.bufHandle = c.handle idx entry.fd) :
      AllocOutcome tbl c (rc, some idx, tbl.write idx entry)

lemma allocated_inv {s : State} {c : Creation} {r : Allocated} (h : Inv s) (hr : AllocOutcome s.tbl c r) :
    Inv (s.allocated c r) := by
  cases hr with
  | refused rc => exact h
  | undone rc idx entry hfree => exact inv_write_free h idx hfree
  | filled rc idx entry hactive hhandle => exact inv_write_filled h hactive hhandle

lemma memGetSlot_cases (tbl : MemTable) :
    (∃ rc, memGetSlot tbl = (.error rc, tbl)) ∨
      ∃ idx, memGetSlot tbl = (.ok idx, tbl.write idx { tbl.bufq idx with active := true }) := by
  unfold memGetSlot
  cases Bitmap.findFirstZeroBit bufqMax tbl.bitmap with
  | none => exact .inl ⟨_, rfl⟩
  | some idx =>
    dsimp only
    split
    · exact .inl ⟨_, rfl⟩
    · exact .inr ⟨idx, rfl⟩

lemma write_self (tbl : MemTable) (idx : ℕ) (entry : BufQueue) : (tbl.write idx entry).bufq idx = entry := by
  simp [MemTable.write]

lemma write_setBufq {tbl : MemTable} {idx : ℕ} {a b : BufQueue} (h : b.active = a.active) :
    (tbl.write idx a).setBufq idx b = tbl.write idx b := by
  simp [MemTable.write, MemTable.setBufq, h]

lemma memPutSlot_write (tbl : MemTable) (idx : ℕ) (a : BufQueue) :
    memPutSlot (tbl.write idx a) idx = tbl.write idx { a with active := false } := by
  simp [MemTable.write, memPutSlot]

lemma memMgrAllocAndMap_outcome (tbl : MemTable) (cmd : MemMgrAllocCmd) (env : Answers) :
    AllocOutcome tbl ⟨.allocAndMap, cmd.flags⟩ (memMgrAllocAndMap tbl cmd env) := by
  unfold memMgrAllocAndMap
  split
  · exact .refused _
  · cases getDmaBufFd env with
    | error rc => exact .refused rc
    | ok buf =>
      obtain ⟨rc, hslot⟩ | ⟨idx, hslot⟩ := memGetSlot_cases tbl
      · simp only [hslot]
        exact .refused _
      · simp only [hslot, write_self]
        split
        · rw [memPutSlot_write]
          exact .undone _ idx _ (by rfl)
        · split
          · rw [write_setBufq (by rfl), memPutSlot_write]
            exact .undone _ idx _ (by rfl)
          · rw [write_setBufq (by rfl)]
            exact .filled 0 idx _ (by rfl) (by rfl)

lemma memMgrMap_outcome (tbl : MemTable) (cmd : MemMgrMapCmd) (env : Answers) :
    AllocOutcome tbl ⟨.map, cmd.flags⟩ (memMgrMap tbl cmd env) := by
  unfold memMgrMap
  split
  · exact .refused _
  · split
    · exact .refused _
    · split
      · exact .refused _
      · cases env.dmaBufGet with
        | none => exact .refused _
        | some dmabuf =>
          dsimp only
          split
          · exact .refused _
          · obtain ⟨rc, hslot⟩ | ⟨idx, hslot⟩ := memGetSlot_cases tbl
            · simp only [hslot]
              exact .refused _
            · simp only [hslot, write_self]
              rw [write_setBufq (by rfl)]
              exact .filled 0 idx _ (by rfl) (by rfl)

lemma memMgrRequestMem_outcome (tbl : MemTable) (inp : MemMgrRequestDesc) (env : Answers) :
    AllocOutcome tbl ⟨.requestMem, inp.flags⟩ (memMgrRequestMem tbl inp env) := by
  unfold memMgrRequestMem
  split
  · exact .refused _
  · cases env.ionAlloc with
    | none => exact .refused _
    | some buf =>
      dsimp only
      split
      · exact .refused _
      · split
        · exact .refused _
        · split
          · exact .refused _
          · obtain ⟨rc, hslot⟩ | ⟨idx, hslot⟩ := memGetSlot_cases tbl
            · simp only [hslot]
              exact .refused _
            · simp only [hslot, write_self]
              rw [write_setBufq (by rfl)]
              exact .filled _ idx _ (by rfl) (by rfl)

lemma memUtilUnmap_cases (tbl : MemTable) (idx : ℕ) (client : SmmuMappingClient) (ans : BufAnswers) :
    (memUtilUnmap tbl idx client ans).2.2 = tbl ∨
      ∃ entry : BufQueue, entry.active = false ∧ (memUtilUnmap tbl idx client ans).2.2 = tbl.write idx entry := by
  unfold memUtilUnmap
  dsimp only
  split
  · exact .inl rfl
  · split
    · exact .inl rfl
    · exact .inr ⟨releasedEntry, rfl, rfl⟩

lemma unmap_inv {s : State} (h : Inv s) (idx : ℕ) (client : SmmuMappingClient) (ans : BufAnswers) :
    Inv { s with tbl := (memUtilUnmap s.tbl idx client ans).2.2 } := by
  obtain hu | ⟨entry, hfree, hu⟩ := memUtilUnmap_cases s.tbl idx client ans
  · rw [hu]
    exact h
  · rw [hu]
    exact inv_write_free h idx hfree

lemma release_inv {s : State} (h : Inv s) (bufHandle : BitVec 32) (ans : BufAnswers) :
    Inv { s with tbl := (memMgrRelease s.tbl bufHandle ans).2.2 } := by
  unfold memMgrRelease
  dsimp only
  split
  · exact h
  · split
    · exact h
    · split
      · exact h
      · exact unmap_inv h _ .user ans

lemma releaseMem_inv {s : State} (h : Inv s) (memHandle : BitVec 32) (ans : BufAnswers) :
    Inv { s with tbl := (memMgrReleaseMem s.tbl memHandle ans).2.2 } := by
  unfold memMgrReleaseMem
  dsimp only
  split
  · exact h
  · split
    · exact h
    · split
      · exact h
      · exact unmap_inv h _ .kernel ans

lemma step_inv {s : State} (h : Inv s) (op : Op) : Inv (step s op) := by
  cases op with
  | allocAndMap cmd env => exact allocated_inv h (memMgrAllocAndMap_outcome s.tbl cmd env)
  | map cmd env => exact allocated_inv h (memMgrMap_outcome s.tbl cmd env)
  | requestMem inp env => exact allocated_inv h (memMgrRequestMem_outcome s.tbl inp env)
  | release bufHandle ans => exact release_inv h bufHandle ans
  | releaseMem memHandle ans => exact releaseMem_inv h memHandle ans

lemma isHandle_of_checks {tbl : MemTable} {hdl : BitVec 32}
    (hidx : ¬(getHdlIdx hdl ≥ bufqMax ∨ getHdlIdx hdl = 0))
    (hactive : ¬(tbl.bufq (getHdlIdx hdl)).active = false)
    (hhdl : ¬hdl ≠ (tbl.bufq (getHdlIdx hdl)).bufHandle) : IsHandle tbl hdl := by
  push Not at hidx
  exact ⟨getHdlIdx hdl, ⟨Nat.pos_of_ne_zero hidx.2, hidx.1, Bool.not_eq_false _ ▸ hactive⟩, (not_not.mp hhdl).symm⟩

lemma memGetIoBuf_reaches {tbl : MemTable} {hdl mmuHandle : BitVec 32} {ans : BufAnswers}
    (h : (memGetIoBuf tbl hdl mmuHandle ans).2 ≠ []) : IsHandle tbl hdl := by
  unfold memGetIoBuf at h
  dsimp only at h
  split at h
  · exact absurd rfl h
  · next hidx =>
    split at h
    · exact absurd rfl h
    · next hactive =>
      split at h
      · exact absurd rfl h
      · next hhdl => exact isHandle_of_checks hidx hactive hhdl

lemma memGetCpuBuf_reaches {tbl : MemTable} {hdl : BitVec 32} {ans : BufAnswers} (hno : ¬IsHandle tbl hdl) :
    (memGetCpuBuf tbl hdl ans).2 = [] ∧ ∃ rc, (memGetCpuBuf tbl hdl ans).1 = .error rc := by
  unfold memGetCpuBuf
  dsimp only
  by_cases hzero : hdl = 0
  · rw [if_pos hzero]
    exact ⟨rfl, _, rfl⟩
  rw [if_neg hzero]
  by_cases hidx : getHdlIdx hdl ≥ bufqMax ∨ getHdlIdx hdl = 0
  · rw [if_pos hidx]
    exact ⟨rfl, _, rfl⟩
  rw [if_neg hidx]
  by_cases hactive : (tbl.bufq (getHdlIdx hdl)).active = false
  · rw [if_pos hactive]
    exact ⟨rfl, _, rfl⟩
  rw [if_neg hactive]
  by_cases hhdl : hdl ≠ (tbl.bufq (getHdlIdx hdl)).bufHandle
  · rw [if_pos hhdl]
    exact ⟨rfl, _, rfl⟩
  exact absurd (isHandle_of_checks hidx hactive hhdl) hno

lemma memPutCpuBuf_reaches {tbl : MemTable} {hdl : BitVec 32} {ans : BufAnswers} (hno : ¬IsHandle tbl hdl) :
    (memPutCpuBuf tbl hdl ans).2 = [] := by
  unfold memPutCpuBuf
  dsimp only
  by_cases hzero : hdl = 0
  · rw [if_pos hzero]
  rw [if_neg hzero]
  by_cases hidx : getHdlIdx hdl ≥ bufqMax ∨ getHdlIdx hdl = 0
  · rw [if_pos hidx]
  rw [if_neg hidx]
  by_cases hactive : (tbl.bufq (getHdlIdx hdl)).active = false
  · rw [if_pos hactive]
  rw [if_neg hactive]
  by_cases hhdl : hdl ≠ (tbl.bufq (getHdlIdx hdl)).bufHandle
  · rw [if_pos hhdl]
  exact absurd (isHandle_of_checks hidx hactive hhdl) hno

lemma memMgrCacheOps_reaches {tbl : MemTable} {hdl : BitVec 32} {ops : ℕ} {ans : BufAnswers}
    (hno : ¬IsHandle tbl hdl) : (memMgrCacheOps tbl hdl ops ans).2 = [] := by
  unfold memMgrCacheOps
  dsimp only
  by_cases hidx : getHdlIdx hdl ≥ bufqMax ∨ getHdlIdx hdl = 0
  · rw [if_pos hidx]
  rw [if_neg hidx]
  by_cases hactive : (tbl.bufq (getHdlIdx hdl)).active = false
  · rw [if_pos hactive]
  rw [if_neg hactive]
  by_cases hhdl : hdl ≠ (tbl.bufq (getHdlIdx hdl)).bufHandle
  · rw [if_pos hhdl]
  exact absurd (isHandle_of_checks hidx hactive hhdl) hno

lemma memMgrRelease_reaches {tbl : MemTable} {hdl : BitVec 32} {ans : BufAnswers} (hno : ¬IsHandle tbl hdl) :
    (memMgrRelease tbl hdl ans).2 = ([], tbl) := by
  unfold memMgrRelease
  dsimp only
  split
  · rfl
  · next hidx =>
    split
    · rfl
    · next hactive =>
      split
      · rfl
      · next hhdl => exact absurd (isHandle_of_checks hidx hactive fun hne => hhdl hne.symm) hno

lemma guarded (tbl : MemTable) (hdl : BitVec 32) (ans : BufAnswers) : Guarded tbl hdl ans where
  ioBuf _ h := memGetIoBuf_reaches h
  cpuBuf h := by
    by_contra hno
    obtain ⟨hcalls, rc, hrc⟩ := @memGetCpuBuf_reaches tbl hdl ans hno
    obtain h | ⟨buf, hbuf⟩ := h
    · exact h hcalls
    · rw [hrc] at hbuf
      cases hbuf
  putCpuBuf h := by
    by_contra hno
    exact h (memPutCpuBuf_reaches hno)
  cacheOps _ h := by
    by_contra hno
    exact h (memMgrCacheOps_reaches hno)
  release h := by
    by_contra hno
    rw [memMgrRelease_reaches hno] at h
    simp at h

lemma Inv.handle {s : State} {i : ℕ} (h : Inv s) (ha : Active s.tbl i) :
    (s.tbl.bufq i).bufHandle = (s.created i).handle i (s.tbl.bufq i).fd := by
  cases h i ha.1 ha.2.1 with
  | free hb hf => exact absurd ha.2.2 (by simp [hf])
  | active hb hf hh => exact hh

lemma tableSound_of_inv {s : State} (h : Inv s) : TableSound UserProtected s := by
  have hidx : ∀ i, Active s.tbl i → getHdlIdx (s.tbl.bufq i).bufHandle = i := by
    intro i ha
    rw [h.handle ha, (s.created i).handle_idx _ ha.2.1]
  refine ⟨fun i hpos hlt => ?_, hidx, fun i j hi hj heq => ?_, fun i ha => ?_, guarded s.tbl⟩
  · cases h i hpos hlt with
    | free hb hf => simp [hb, hf]
    | active hb hf => simp [hb, hf]
  · rw [← hidx i hi, heq, hidx j hj]
  · rw [h.handle ha]
    exact (s.created i).handle_secure i _

/-- After every sequence of allocating and releasing calls, whatever ION, dma-buf and the
SMMU answer, the bitmap tells the active slots, their handles decode to them, are distinct, and are
secure where user space asked for it, and no handle but theirs reaches a buffer. -/
theorem run_bufTableSound (ops : List Op) : TableSound UserProtected (Transition.run step start ops) := by
  have h : Inv (Transition.run step start ops) :=
    Transition.run_always (fun s op (hs : Inv s) => step_inv hs op) inv_start ops
  exact tableSound_of_inv h

/-- The kernel's own request keeps the flag and gets a plain handle. -/
theorem requestMem_not_secure : ¬∀ ops, TableSound Protected (Transition.run step start ops) := by
  intro h
  obtain ⟨env, henv⟩ : ∃ env, env = (⟨some 1, 3, some 1, 0, some 1, fun _ => 0, 1, 1⟩ : Answers) := ⟨_, rfl⟩
  have hsound := (h [.requestMem ⟨4096, 1, 0x21⟩ env]).secure 1 (by subst henv; decide +kernel)
  subst henv
  revert hsound
  decide +kernel

end CameraKernel.MemMgr
