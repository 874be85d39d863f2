import CameraKernel.AisVfe

/-! FRAME_DONE messages name the accepted buffers in their order, behind the hardware, as
long as the addresses of the buffers fit the register. -/
namespace CameraKernel.AisVfe

/-- What holds of a path between two handlers. -/
structure Follows (p : Path) : Prop where
  placed : ((p.rdi.freeBufferList ++ p.rdi.bufferQ ++ p.rdi.bufferHwQ).map Buffer.obj).Perm
    (List.range maxBuf)
  numBufferHwQ : p.rdi.numBufferHwQ.toNat = p.rdi.bufferHwQ.length
  numSofInfoQ : p.rdi.numSofInfoQ.toNat = p.rdi.sofInfoQ.length
  frames : p.frames <+: p.completed
  completed : p.completed <+: p.accepted

/-- The call is refused, or the address behind the offset has 32 bits, too. -/
def addrFits (r : RdiOutput) (e : Enqueue) (lookup : Bool → Lookup) : Bool :=
  let l := lookup (mmuSecure r e)
  pathMax ≤ e.path || r.state.rank < ResourceState.reserved.rank || r.freeBufferList = [] ||
    lookupCode e l ≠ 0 || l.iova.toNat + e.offset.toNat < 2 ^ 32

def addressFits (s : ℕ → Path) : Op → Bool
  | .enqBuf e lookup _ => addrFits (s e.path).rdi e lookup
  | _ => true

structure SofOk (r : RdiOutput) : Prop where
  count : r.numSofInfoQ.toNat = r.sofInfoQ.length
  room : r.freeSofInfoList.length + r.sofInfoQ.length = maxSofInfo

/-- The SOF queue moves, the buffers stay. -/
structure SofOnly (r r' : RdiOutput) : Prop where
  state : r'.state = r.state
  bufferQ : r'.bufferQ = r.bufferQ
  numBufferHwQ : r'.numBufferHwQ = r.numBufferHwQ
  bufferHwQ : r'.bufferHwQ = r.bufferHwQ
  freeBufferList : r'.freeBufferList = r.freeBufferList
  sofOk : SofOk r → SofOk r'

variable {r r' r'' : RdiOutput}

lemma SofOnly.refl (r : RdiOutput) : SofOnly r r := ⟨rfl, rfl, rfl, rfl, rfl, id⟩

lemma SofOnly.trans (h : SofOnly r r') (h' : SofOnly r' r'') : SofOnly r r'' :=
  ⟨h'.state.trans h.state, h'.bufferQ.trans h.bufferQ, h'.numBufferHwQ.trans h.numBufferHwQ,
    h'.bufferHwQ.trans h.bufferHwQ, h'.freeBufferList.trans h.freeBufferList, h'.sofOk ∘ h.sofOk⟩

lemma SofOk.lt (h : SofOk r) : r.sofInfoQ.length ≤ 8 := by
  have := h.room
  rw [maxSofInfo] at this
  omega

lemma toNat_succ {n : UInt8} {k : ℕ} (h : n.toNat = k) (hk : k < 255) : (n + 1).toNat = k + 1 := by
  rw [UInt8.toNat_add, h, UInt8.toNat_one]
  omega

lemma toNat_pred {n : UInt8} {k : ℕ} (h : n.toNat = k + 1) : (n - 1).toNat = k := by
  have hlt := n.toNat_lt
  rw [UInt8.toNat_sub, h, UInt8.toNat_one]
  omega

lemma qSof_only (r : RdiOutput) (frameCnt sofTs cur : UInt64) :
    SofOnly r (qSof r frameCnt sofTs cur) := by
  unfold qSof
  split
  · exact .refl r
  next i free hfree =>
  refine ⟨rfl, rfl, rfl, rfl, rfl, fun h => ⟨?_, ?_⟩⟩
  · have hlt := h.lt
    rw [List.length_append]
    exact toNat_succ h.count (by omega)
  · have hroom := h.room
    rw [hfree, List.length_cons] at hroom
    simp only [List.length_append, List.length_singleton]
    omega

lemma frameCnt_only (r : RdiOutput) (n : UInt64) : SofOnly r { r with frameCnt := n } :=
  ⟨rfl, rfl, rfl, rfl, rfl, fun h => ⟨h.count, h.room⟩⟩

lemma qMissedSof_only (r : RdiOutput) (sofTs cur : UInt64) : SofOnly r (qMissedSof r sofTs cur) :=
  (frameCnt_only r _).trans (qSof_only _ _ _ _)

lemma qMissedSofs_only (sofTs prev delta : UInt64) (n : ℕ) (r : RdiOutput) :
    SofOnly r (qMissedSofs sofTs prev delta n r) := by
  induction n generalizing r with
  | zero => exact .refl r
  | succ n ih => exact (qMissedSof_only r _ _).trans (ih _)

lemma flushSofInfo_only (r : RdiOutput) : SofOnly r (flushSofInfo r) := by
  refine ⟨rfl, rfl, rfl, rfl, rfl, fun h => ⟨rfl, ?_⟩⟩
  rw [← h.room, flushSofInfo, List.length_append, List.length_nil, Nat.add_zero]

lemma matchSof_only (ts : UInt64) (q : List SofInfo) (r : RdiOutput) (hq : r.sofInfoQ = q) :
    SofOnly r (matchSof ts q r).2 := by
  induction q generalizing r with
  | nil => exact .refl r
  | cons i q ih =>
    rw [matchSof]
    have hpop : SofOnly r { r with
        sofInfoQ := q
        numSofInfoQ := r.numSofInfoQ - 1
        freeSofInfoList := r.freeSofInfoList ++ [i] } := by
      refine ⟨rfl, rfl, rfl, rfl, rfl, fun h => ⟨toNat_pred ?_, ?_⟩⟩
      · rw [h.count, hq, List.length_cons]
      · rw [← h.room, hq]
        simp only [List.length_append, List.length_cons, List.length_nil]
        omega
    split_ifs
    · exact hpop
    · exact hpop.trans (ih _ rfl)

lemma qSofs_only (r : RdiOutput) (ts cur prev : UInt64) : SofOnly r (qSofs r ts cur prev) := by
  rw [qSofs]
  split_ifs
  · exact (qMissedSof_only _ _ _).trans (qSof_only _ _ _ _)
  · exact ((qMissedSofs_only _ _ _ _ _).trans (qMissedSof_only _ _ _)).trans (qSof_only _ _ _ _)
  · exact qSof_only _ _ _ _

lemma sofInfoStep_only (r : RdiOutput) (ts cur prev : UInt64) :
    SofOnly r (sofInfoStep r ts cur prev).1 := by
  rw [sofInfoStep]
  split_ifs
  · exact qSofs_only _ _ _ _
  · exact flushSofInfo_only r
  · exact .refl r

lemma handleSofRdi_only (r : RdiOutput) (ts cur prev : UInt64) :
    SofOnly r (handleSofRdi r ts cur prev).1 := by
  have hlast : ∀ r : RdiOutput, SofOnly r { r with lastSofHwTs := cur } := fun r =>
    ⟨rfl, rfl, rfl, rfl, rfl, fun h => ⟨h.count, h.room⟩⟩
  exact ((frameCnt_only r (r.frameCnt + 1)).trans (sofInfoStep_only _ ts cur prev)).trans (hlast _)

/-- What a buffer keeps on its way to the hardware. -/
def Buffer.key (b : Buffer) : ℕ × UInt64 × UInt32 := (b.obj, b.iovaAddr, b.bufIdx)

structure Written (r r' : RdiOutput) (ws : List Buffer) : Prop where
  state : r'.state = r.state
  bufferQ : r.bufferQ.map Buffer.key = ws.map Buffer.key ++ r'.bufferQ.map Buffer.key
  bufferHwQ : r'.bufferHwQ = r.bufferHwQ ++ ws
  freeBufferList : r'.freeBufferList = r.freeBufferList
  numBufferHwQ : r.numBufferHwQ.toNat = r.bufferHwQ.length →
    r.bufferHwQ.length + r.bufferQ.length ≤ maxBuf → r'.numBufferHwQ.toNat = r'.bufferHwQ.length
  sofOk : SofOk r → SofOk r'

lemma qBufs_written (f : Answers) (k : ℕ) (q : List Buffer) (r : RdiOutput) (hq : r.bufferQ = q) :
    Written r (qBufs f k q r).1 (qBufs f k q r).2 := by
  induction q generalizing k r with
  | nil => exact ⟨rfl, by simp [qBufs], by simp [qBufs], rfl, fun h _ => h, id⟩
  | cons b q ih =>
    rw [qBufs]
    split_ifs with hfull
    · exact ⟨rfl, by simp, by simp, rfl, fun h _ => h, id⟩
    have h := ih (k + 1) { r with
      bufferQ := q
      bufferHwQ := r.bufferHwQ ++ [{ b with ts := f.ts k }]
      numBufferHwQ := r.numBufferHwQ + 1 } rfl
    refine ⟨h.state, ?_, ?_, h.freeBufferList, fun hnum hlen => h.numBufferHwQ ?_ ?_, fun hsof =>
      h.sofOk ⟨hsof.count, hsof.room⟩⟩
    · rw [hq, List.map_cons, List.map_cons, List.cons_append, ← h.bufferQ]
      rfl
    · rw [h.bufferHwQ]
      simp
    · rw [hq, maxBuf, List.length_cons] at hlen
      rw [List.length_append, List.length_singleton]
      exact toNat_succ hnum (by omega)
    · rw [hq, List.length_cons] at hlen
      simp only [List.length_append, List.length_singleton]
      omega

structure Popped (hwQ : List Buffer) (r r' : RdiOutput) (evs : List Event) (n : ℕ) : Prop where
  le : n ≤ hwQ.length
  state : r'.state = r.state
  bufferQ : r'.bufferQ = r.bufferQ
  bufferHwQ : r'.bufferHwQ = hwQ.drop n
  numBufferHwQ : r'.numBufferHwQ.toNat = hwQ.length - n
  freeBufferList : r'.freeBufferList = r.freeBufferList ++ hwQ.take n
  frames : evs.filterMap frameIdx = (hwQ.take n).map Buffer.bufIdx
  sofOk : SofOk r → SofOk r'

lemma frameIdx_frameEvent (b : Buffer) (sof : Option SofInfo) :
    frameIdx (frameEvent b sof) = some b.bufIdx := by
  cases sof <;> rfl

lemma popUntil_popped (lastAddr : UInt32) (hwQ : List Buffer) (r : RdiOutput)
    (hq : r.bufferHwQ = hwQ) (hnum : r.numBufferHwQ.toNat = hwQ.length) :
    ∃ n, Popped hwQ r (popUntil lastAddr hwQ r).2.1 (popUntil lastAddr hwQ r).2.2 n ∧
      ∀ i b, hwQ[i]? = some b → lastAddr.toUInt64 = b.iovaAddr → n ≤ i + 1 := by
  induction hwQ generalizing r with
  | nil =>
    refine ⟨0, ⟨le_rfl, rfl, rfl, hq, hnum, by simp [popUntil], rfl, id⟩, fun i b hb => ?_⟩
    simp at hb
  | cons b q ih =>
    have hne : r.numBufferHwQ ≠ 0 := by
      intro h0
      rw [h0, List.length_cons] at hnum
      exact absurd hnum (by simp)
    rw [popUntil, if_neg hne]
    have hsof := matchSof_only b.ts r.sofInfoQ { r with
      bufferHwQ := q, numBufferHwQ := r.numBufferHwQ - 1 } rfl
    simp only
    revert hsof
    generalize matchSof b.ts r.sofInfoQ { r with
      bufferHwQ := q, numBufferHwQ := r.numBufferHwQ - 1 } = m
    obtain ⟨sof, t⟩ := m
    intro hsof
    simp only at hsof ⊢
    have hpred : t.numBufferHwQ.toNat = q.length := by
      rw [hsof.numBufferHwQ]
      exact toNat_pred hnum
    split_ifs with hmatch
    · refine ⟨1, ⟨by simp, hsof.state, hsof.bufferQ, hsof.bufferHwQ, hpred, ?_, ?_, ?_⟩, fun i c _ _ => by omega⟩
      · simp [hsof.freeBufferList]
      · simp [frameIdx_frameEvent]
      · exact fun h => ⟨(hsof.sofOk ⟨h.count, h.room⟩).count, (hsof.sofOk ⟨h.count, h.room⟩).room⟩
    · obtain ⟨n, hpop, hfirst⟩ := ih { t with freeBufferList := t.freeBufferList ++ [b] }
        hsof.bufferHwQ hpred
      refine ⟨n + 1, ⟨Nat.succ_le_succ hpop.le, hpop.state.trans hsof.state,
        hpop.bufferQ.trans hsof.bufferQ, hpop.bufferHwQ, ?_, ?_, ?_, ?_⟩, ?_⟩
      · rw [hpop.numBufferHwQ, List.length_cons]
        omega
      · rw [hpop.freeBufferList, hsof.freeBufferList]
        simp
      · rw [List.filterMap_cons, frameIdx_frameEvent, List.take_succ_cons, List.map_cons, hpop.frames]
      · exact fun h => hpop.sofOk
          ⟨(hsof.sofOk ⟨h.count, h.room⟩).count, (hsof.sofOk ⟨h.count, h.room⟩).room⟩
      · intro i c hc haddr
        cases i with
        | zero =>
          rw [List.getElem?_cons_zero] at hc
          cases hc
          exact (hmatch haddr).elim
        | succ i =>
          rw [List.getElem?_cons_succ] at hc
          exact Nat.succ_le_succ (hfirst i c hc haddr)

/-! ### One path -/

/-- `late` are the completed buffers that a report passed over. -/
structure Inv (p : Path) : Prop where
  placed : ((p.rdi.freeBufferList ++ p.rdi.bufferQ ++ p.rdi.bufferHwQ).map Buffer.obj).Perm
    (List.range maxBuf)
  numBufferHwQ : p.rdi.numBufferHwQ.toNat = p.rdi.bufferHwQ.length
  sofOk : SofOk p.rdi
  fits : ∀ k ∈ p.rdi.bufferHwQ.map Buffer.key ++ p.rdi.bufferQ.map Buffer.key, k.2.1.toNat < 2 ^ 32
  accepted : p.accepted =
    p.frames ++ (p.rdi.bufferHwQ.map Buffer.bufIdx ++ p.rdi.bufferQ.map Buffer.bufIdx)
  track : ∃ late rest, p.rdi.bufferHwQ = late ++ p.done ++ rest ∧
    p.completed = p.frames ++ (late ++ p.done).map Buffer.bufIdx ∧
    (p.rdi.state ≠ .error → p.fifo = rest) ∧ (p.rdi.state = .error → p.fifo = [] ∧ p.done = [])

variable {p : Path} {f : Answers}

lemma Inv.follows (h : Inv p) : Follows p := by
  obtain ⟨late, rest, hq, hc, -, -⟩ := h.track
  refine ⟨h.placed, h.numBufferHwQ, h.sofOk.count, ?_, ?_⟩
  · rw [hc]
    exact List.prefix_append _ _
  · rw [hc, h.accepted, hq]
    simp only [List.map_append, List.append_assoc]
    exact (List.prefix_append_right_inj _).mpr ((List.prefix_append_right_inj _).mpr
      (List.prefix_append _ _))

lemma Inv.length_le (h : Inv p) : p.rdi.bufferHwQ.length + p.rdi.bufferQ.length ≤ maxBuf := by
  have hlen := h.placed.length_eq
  simp only [List.length_map, List.length_append, List.length_range] at hlen
  omega

lemma Inv.sofOnly (h : Inv p) {r : RdiOutput} (hr : SofOnly p.rdi r) : Inv { p with rdi := r } := by
  refine ⟨?_, ?_, hr.sofOk h.sofOk, ?_, ?_, ?_⟩
  · simp only [hr.freeBufferList, hr.bufferQ, hr.bufferHwQ]
    exact h.placed
  · simp only [hr.numBufferHwQ, hr.bufferHwQ]
    exact h.numBufferHwQ
  · simp only [hr.bufferQ, hr.bufferHwQ]
    exact h.fits
  · simp only [hr.bufferQ, hr.bufferHwQ]
    exact h.accepted
  · simp only [hr.state, hr.bufferHwQ]
    exact h.track

lemma Inv.written (h : Inv p) (hs : p.rdi.state ≠ .error) {r : RdiOutput} {ws : List Buffer}
    (hw : Written p.rdi r ws) : Inv { p with rdi := r, fifo := p.fifo ++ ws } := by
  have hobj : p.rdi.bufferQ.map Buffer.obj = ws.map Buffer.obj ++ r.bufferQ.map Buffer.obj := by
    have := congrArg (List.map Prod.fst) hw.bufferQ
    simpa [Function.comp_def, Buffer.key] using this
  have hidx : p.rdi.bufferQ.map Buffer.bufIdx =
      ws.map Buffer.bufIdx ++ r.bufferQ.map Buffer.bufIdx := by
    have := congrArg (List.map fun k => k.2.2) hw.bufferQ
    simpa [Function.comp_def, Buffer.key] using this
  refine ⟨?_, hw.numBufferHwQ h.numBufferHwQ h.length_le, hw.sofOk h.sofOk, ?_, ?_, ?_⟩
  · refine .trans (List.perm_iff_count.mpr fun a => ?_) h.placed
    simp only [hw.freeBufferList, hw.bufferHwQ, List.map_append, hobj, List.count_append]
    omega
  · simp only [hw.bufferHwQ, List.map_append, List.append_assoc]
    rw [← hw.bufferQ]
    exact h.fits
  · simp only [hw.bufferHwQ, List.map_append, List.append_assoc]
    rw [← hidx]
    exact h.accepted
  · obtain ⟨late, rest, hq, hc, hfifo, -⟩ := h.track
    refine ⟨late, rest ++ ws, ?_, hc, fun _ => ?_, fun he => ?_⟩
    · rw [hw.bufferHwQ, hq, List.append_assoc]
    · rw [hfifo hs]
    · rw [hw.state] at he
      exact (hs he).elim

lemma qBufsToHw_written (f : Answers) (r : RdiOutput) :
    Written r (qBufsToHw f r).1 (qBufsToHw f r).2 := qBufs_written f 0 r.bufferQ r rfl

lemma toUInt64_hwAddr {b : Buffer} (h : b.iovaAddr.toNat < 2 ^ 32) :
    b.hwAddr.toUInt64 = b.iovaAddr := by
  rw [← UInt64.toNat_inj, UInt32.toNat_toUInt64, Buffer.hwAddr, UInt64.toNat_toUInt32]
  exact Nat.mod_eq_of_lt h

lemma Inv.popped (h : Inv p) (hs : p.rdi.state ≠ .error) {k n : ℕ} {r : RdiOutput} {evs : List Event}
    (hp : Popped p.rdi.bufferHwQ p.rdi r evs n)
    (hn : ∀ i b, p.rdi.bufferHwQ[i]? = some b → p.done[k]? = some b → n ≤ i + 1)
    (hk : k < p.done.length) :
    Inv { p with rdi := r, done := p.done.drop (k + 1), frames := p.frames ++ evs.filterMap frameIdx } := by
  obtain ⟨late, rest, hq, hc, hfifo, -⟩ := h.track
  have hsplit : late ++ p.done = late ++ p.done.take (k + 1) ++ p.done.drop (k + 1) := by
    rw [List.append_assoc, List.take_append_drop]
  have hle : n ≤ (late ++ p.done.take (k + 1)).length := by
    have hget : p.rdi.bufferHwQ[late.length + k]? = some p.done[k] := by
      rw [hq, List.append_assoc, List.getElem?_append_right (by omega), Nat.add_sub_cancel_left,
        List.getElem?_append_left hk, List.getElem?_eq_getElem hk]
    have := hn (late.length + k) p.done[k] hget (List.getElem?_eq_getElem hk)
    simp only [List.length_append, List.length_take]
    omega
  have hdrop : p.rdi.bufferHwQ.drop n =
      (late ++ p.done.take (k + 1)).drop n ++ p.done.drop (k + 1) ++ rest := by
    rw [hq, hsplit, List.append_assoc _ _ rest, List.drop_append_of_le_length hle, List.append_assoc]
  have htake : p.rdi.bufferHwQ.take n = (late ++ p.done.take (k + 1)).take n := by
    rw [hq, hsplit, List.append_assoc _ _ rest, List.take_append_of_le_length hle]
  refine ⟨?_, ?_, hp.sofOk h.sofOk, ?_, ?_, ?_⟩
  · refine .trans (List.perm_iff_count.mpr fun a => ?_) h.placed
    have := congrArg (fun l => (l.map Buffer.obj).count a) (List.take_append_drop n p.rdi.bufferHwQ)
    simp only [List.map_append, List.count_append] at this
    simp only [hp.freeBufferList, hp.bufferQ, hp.bufferHwQ, List.map_append, List.count_append]
    omega
  · simp only [hp.bufferHwQ, List.length_drop]
    exact hp.numBufferHwQ
  · intro x hx
    simp only [hp.bufferHwQ, hp.bufferQ] at hx
    refine h.fits x ?_
    rcases List.mem_append.mp hx with hx | hx
    · rw [List.map_drop] at hx
      exact List.mem_append_left _ (List.mem_of_mem_drop hx)
    · exact List.mem_append_right _ hx
  · simp only [hp.bufferHwQ, hp.bufferQ, hp.frames]
    have hidx := congrArg (List.map Buffer.bufIdx) (List.take_append_drop n p.rdi.bufferHwQ)
    rw [List.map_append] at hidx
    rw [h.accepted, ← hidx]
    simp only [List.append_assoc]
  · refine ⟨(late ++ p.done.take (k + 1)).drop n, rest, ?_, ?_, fun _ => hfifo hs, fun he => ?_⟩
    · rw [hp.bufferHwQ, hdrop]
    · simp only [hp.frames]
      rw [hc, hsplit, htake, List.append_assoc p.frames, ← List.map_append, ← List.append_assoc,
        List.take_append_drop]
    · rw [hp.state] at he
      exact (hs he).elim

lemma popped_none (p : Path) (hnum : p.rdi.numBufferHwQ.toNat = p.rdi.bufferHwQ.length) :
    Popped p.rdi.bufferHwQ p.rdi p.rdi [] 0 :=
  ⟨Nat.zero_le _, rfl, rfl, rfl, hnum, by simp, rfl, id⟩

lemma handleClientFrameDone_spec {r : RdiOutput} (hnum : r.numBufferHwQ.toNat = r.bufferHwQ.length)
    {lastAddr : UInt32} (h0 : lastAddr ≠ 0) (f : Answers) : ∃ n r₁ r₂ evs,
      Popped r.bufferHwQ r r₁ evs n ∧
      (∀ (i : ℕ) (b : Buffer), r.bufferHwQ[i]? = some b → lastAddr.toUInt64 = b.iovaAddr → n ≤ i + 1) ∧
      SofOnly r₁ r₂ ∧
      Written r₂ (handleClientFrameDone r lastAddr f).1 (handleClientFrameDone r lastAddr f).2.2 ∧
      (handleClientFrameDone r lastAddr f).2.1.filterMap frameIdx = evs.filterMap frameIdx := by
  obtain ⟨n, hpop, hfirst⟩ := popUntil_popped lastAddr r.bufferHwQ r rfl hnum
  rw [handleClientFrameDone, if_neg h0]
  revert hpop
  generalize popUntil lastAddr r.bufferHwQ r = m
  obtain ⟨found, r₁, evs⟩ := m
  intro hpop
  by_cases hempty : r₁.numBufferHwQ = 0
  · refine ⟨n, r₁, flushSofInfo r₁, evs, hpop, hfirst, flushSofInfo_only r₁, ?_, ?_⟩
    · dsimp only
      rw [if_pos hempty]
      exact qBufsToHw_written f _
    · dsimp only
      rw [if_pos hempty]
      cases found <;> simp [frameIdx]
  · refine ⟨n, r₁, r₁, evs, hpop, hfirst, .refl r₁, ?_, ?_⟩
    · dsimp only
      rw [if_neg hempty]
      exact qBufsToHw_written f _
    · dsimp only
      rw [if_neg hempty]
      cases found <;> simp [frameIdx]

lemma Inv.frameDone (h : Inv p) (k : ℕ) (f : Answers) : Inv (p.frameDone k f) := by
  rw [Path.frameDone]
  split
  · exact h
  next b hb =>
  have hk : k < p.done.length := (List.getElem?_eq_some_iff.mp hb).1
  have hs : p.rdi.state ≠ .error := by
    obtain ⟨_, _, _, _, _, herr⟩ := h.track
    intro he
    rw [(herr he).2] at hk
    exact absurd hk (by simp)
  have hnone : Inv { p with done := p.done.drop (k + 1) } := by
    have := h.popped hs (popped_none p h.numBufferHwQ) (fun _ _ _ _ => Nat.zero_le _) hk
    simpa using this
  dsimp only
  by_cases hstream : p.rdi.state ≠ .streaming
  · rw [if_pos hstream]
    exact hnone
  rw [if_neg hstream]
  by_cases hzero : b.hwAddr = 0
  · simpa [handleClientFrameDone, hzero] using hnone
  obtain ⟨n, r₁, r₂, evs, hpop, hfirst, hsof, hwrite, hframes⟩ :=
    handleClientFrameDone_spec h.numBufferHwQ hzero f
  have haddr : ∀ (i : ℕ) (b' : Buffer), p.rdi.bufferHwQ[i]? = some b' → p.done[k]? = some b' →
      b.hwAddr.toUInt64 = b'.iovaAddr := by
    intro i b' hi hd
    rw [hb] at hd
    cases hd
    refine toUInt64_hwAddr (h.fits b.key (List.mem_append_left _ (List.mem_map_of_mem ?_)))
    exact List.mem_of_getElem? hi
  have hinv := (h.popped hs hpop (fun i b' hi hd => hfirst i b' hi (haddr i b' hi hd)) hk).sofOnly hsof
  have hs₂ : r₂.state ≠ .error := by rwa [hsof.state, hpop.state]
  rw [hframes]
  exact hinv.written hs₂ hwrite

lemma Inv.sof (h : Inv p) (ts cur prev : UInt64) (f : Answers) : Inv (p.sof ts cur prev f) := by
  rw [Path.sof]
  split_ifs with hs
  · exact h
  have hsof := handleSofRdi_only p.rdi ts cur prev
  have hne : (handleSofRdi p.rdi ts cur prev).1.state ≠ .error := by
    rw [hsof.state]
    intro he
    exact hs (by simp [he])
  exact (h.sofOnly hsof).written hne (qBufsToHw_written f _)

lemma Inv.returned (h : Inv p) {b b' : Buffer} {free : List Buffer}
    (hfree : p.rdi.freeBufferList = b :: free) (hobj : b'.obj = b.obj) :
    Inv { p with rdi := { p.rdi with freeBufferList := free ++ [b'] } } := by
  refine ⟨.trans (List.perm_iff_count.mpr fun a => ?_) h.placed, h.numBufferHwQ,
    ⟨h.sofOk.count, h.sofOk.room⟩, h.fits, h.accepted, h.track⟩
  simp only [hfree, List.map_append, List.map_cons, List.map_nil, List.count_append, List.count_cons,
    List.count_nil, hobj]
  omega

lemma Inv.queued (h : Inv p) {b b' : Buffer} {free : List Buffer}
    (hfree : p.rdi.freeBufferList = b :: free) (hobj : b'.obj = b.obj)
    (hfits : b'.iovaAddr.toNat < 2 ^ 32) :
    Inv { p with
      rdi := { p.rdi with freeBufferList := free, bufferQ := p.rdi.bufferQ ++ [b'] }
      accepted := p.accepted ++ [b'.bufIdx] } := by
  refine ⟨.trans (List.perm_iff_count.mpr fun a => ?_) h.placed, h.numBufferHwQ,
    ⟨h.sofOk.count, h.sofOk.room⟩, ?_, ?_, h.track⟩
  · simp only [hfree, List.map_append, List.map_cons, List.map_nil, List.count_append, List.count_cons,
      List.count_nil, hobj]
    omega
  · intro k hk
    simp only [List.map_append, List.map_cons, List.map_nil, ← List.append_assoc] at hk
    rcases List.mem_append.mp hk with hk | hk
    · exact h.fits k hk
    · rw [List.mem_singleton] at hk
      rw [hk]
      exact hfits
  · simp only [h.accepted, List.map_append, List.map_cons, List.map_nil, List.append_assoc]

lemma Inv.enqBuf (h : Inv p) {e : Enqueue} {lookup : Bool → Lookup} (f : Answers)
    (hok : addrFits p.rdi e lookup = true) : Inv (p.enqBuf e lookup f).2 := by
  simp only [Path.enqBuf, cmdEnqBuf]
  by_cases hpath : pathMax ≤ e.path
  · simpa [hpath, Errno.EINVAL] using h
  by_cases hstate : p.rdi.state.rank < ResourceState.reserved.rank
  · simpa [hpath, hstate, Errno.EINVAL] using h
  rw [if_neg hpath, if_neg hstate]
  cases hfree : p.rdi.freeBufferList with
  | nil => simpa [Errno.ENOMEM] using h
  | cons b free =>
    by_cases hrc : lookupCode e (lookup (mmuSecure p.rdi e)) ≠ 0
    · simp only [hrc, if_true, if_false, List.append_nil, ne_eq, not_false_eq_true]
      exact h.returned hfree rfl
    simp only [hrc, if_false]
    have hfits : ((lookup (mmuSecure p.rdi e)).iova + e.offset.toUInt64).toNat < 2 ^ 32 := by
      have hsum : (lookup (mmuSecure p.rdi e)).iova.toNat + e.offset.toNat < 2 ^ 32 := by
        simpa [addrFits, hpath, hstate, hfree, hrc] using hok
      rw [UInt64.toNat_add, UInt32.toNat_toUInt64]
      omega
    let q : Buffer := ⟨b.obj, e.memHandle, (lookup (mmuSecure p.rdi e)).iova + e.offset.toUInt64, e.idx, b.ts⟩
    have hq := h.queued hfree (show q.obj = b.obj from rfl) hfits
    by_cases hstream : p.rdi.state.rank < ResourceState.streaming.rank
    · rw [if_pos hstream]
      have hne : p.rdi.state ≠ .error := by
        intro he
        rw [he] at hstream
        exact absurd hstream (by decide)
      exact hq.written hne (qBufsToHw_written f _)
    · rw [if_neg hstream]
      simpa using hq

lemma Inv.complete (h : Inv p) : Inv p.complete := by
  rw [Path.complete]
  split
  · exact h
  next b fifo hfifo =>
  obtain ⟨late, rest, hq, hc, hrest, herr⟩ := h.track
  have hs : p.rdi.state ≠ .error := by
    intro he
    rw [(herr he).1] at hfifo
    cases hfifo
  have hrest := hrest hs
  rw [hfifo] at hrest
  refine ⟨h.placed, h.numBufferHwQ, h.sofOk, h.fits, h.accepted, late, fifo, ?_, ?_, fun _ => rfl,
    fun he => (hs he).elim⟩
  · rw [hq, ← hrest]
    simp
  · rw [hc]
    simp

lemma Inv.error (h : Inv p) : Inv p.error.1 := by
  rw [Path.error]
  split_ifs with hs
  · exact h
  obtain ⟨late, rest, hq, hc, -, -⟩ := h.track
  refine ⟨h.placed, h.numBufferHwQ, ⟨h.sofOk.count, h.sofOk.room⟩, h.fits, h.accepted, late ++ p.done,
    rest, ?_, ?_, fun he => (he rfl).elim, fun _ => ⟨rfl, rfl⟩⟩
  · simpa using hq
  · simpa using hc

lemma cleared_inv (r : RdiOutput) (hs : r.state ≠ .error) :
    Inv ⟨clearRdiPath r, [], [], [], [], []⟩ := by
  refine ⟨?_, rfl, ⟨rfl, rfl⟩, by simp [clearRdiPath], rfl, [], [], rfl, rfl, fun _ => rfl,
    fun he => (hs he).elim⟩
  simp [clearRdiPath, Function.comp_def]

lemma Inv.stop (h : Inv p) : Inv p.stop.2 := by
  rw [Path.stop]
  split_ifs
  · exact h
  · exact cleared_inv _ (by simp)

lemma Inv.restate (h : Inv p) (hs : p.rdi.state ≠ .error) {s : ResourceState} (hs' : s ≠ .error)
    (secure : Bool) : Inv { p with rdi := { p.rdi with secureMode := secure, state := s } } := by
  obtain ⟨late, rest, hq, hc, hfifo, -⟩ := h.track
  exact ⟨h.placed, h.numBufferHwQ, ⟨h.sofOk.count, h.sofOk.room⟩, h.fits, h.accepted, late, rest, hq, hc,
    fun _ => hfifo hs, fun he => (hs' he).elim⟩

lemma Inv.reserve (h : Inv p) (secure : Bool) : Inv (p.reserve secure).2 := by
  rw [Path.reserve]
  split_ifs with hs
  · exact h
  · refine h.restate ?_ (by simp) secure
    intro he
    rw [he] at hs
    exact hs (by decide)

lemma Inv.start (h : Inv p) : Inv p.start.2 := by
  rw [Path.start]
  split_ifs with hs
  · exact h
  · rw [ne_eq, not_not] at hs
    exact h.restate (by simp [hs]) (by simp) p.rdi.secureMode

variable {s : ℕ → Path}

lemma onPath_inv (h : ∀ i, Inv (s i)) {path : ℕ} {g : Path → Path} (hg : Inv (g (s path))) (i : ℕ) :
    Inv (onPath s path g i) := by
  rw [onPath]
  split_ifs
  · exact h i
  by_cases hi : i = path
  · subst hi
    rwa [Function.update_self]
  · rw [Function.update_of_ne hi]
    exact h i

lemma eachPath_inv (h : ∀ i, Inv (s i)) {g : ℕ → Path → Path} (hg : ∀ i, Inv (g i (s i))) (i : ℕ) :
    Inv (eachPath s g i) := by
  rw [eachPath]
  split_ifs
  · exact hg i
  · exact h i

lemma handleError_inv (h : ∀ i, Inv (s i)) (mask i : ℕ) : Inv (handleError s mask i) := by
  refine eachPath_inv h (fun i => ?_) i
  split_ifs
  · exact (h i).error
  · exact h i

lemma step_inv (h : ∀ i, Inv (s i)) (op : Op) (hok : addressFits s op = true) (i : ℕ) :
    Inv (step s op i) := by
  unfold step
  cases op with
  | reserve path secure =>
    refine onPath_inv h ?_ i
    exact (h path).reserve secure
  | start path =>
    refine onPath_inv h ?_ i
    exact (h path).start
  | stop path =>
    refine onPath_inv h ?_ i
    exact (h path).stop
  | enqBuf e lookup f =>
    refine onPath_inv h ?_ i
    exact (h e.path).enqBuf f hok
  | sof mask ts cur prev f =>
    refine eachPath_inv h (fun i => ?_) i
    split_ifs
    · exact (h i).sof _ _ _ _
    · exact h i
  | busWr reports errors f =>
    refine handleError_inv (fun i => eachPath_inv h (fun i => ?_) i) errors i
    split
    · exact (h i).frameDone _ _
    · exact h i
  | error mask => exact handleError_inv h mask i
  | complete path => exact onPath_inv h (h path).complete i

theorem run_follows (ops : List Op)
    (h : Transition.Guarded step (fun s op => addressFits s op = true) init ops) (path : ℕ) :
    Follows (Transition.run step init ops path) := by
  have hstep : ∀ s op, (∀ i, Inv (s i)) → addressFits s op = true → ∀ i, Inv (step s op i) :=
    fun _ op hs hok => step_inv hs op hok
  have hinit : ∀ i, Inv (init i) := fun _ => cleared_inv _ (by simp)
  exact (Transition.run_invariant hstep hinit h path).follows

/-- The FIFO takes two addresses. -/
def twoDeep : Answers := ⟨fun k => k = 2, fun _ => 5⟩

def mapped (iova size : UInt64) : Bool → Lookup := fun _ => ⟨0, iova, size⟩

/-- Three buffers, one refused; two are completed behind one report. -/
def coalesced : List Op :=
  [.reserve 0 false, .enqBuf ⟨0, 1, 1, 0⟩ (mapped 0x1000 0x1000) twoDeep,
    .enqBuf ⟨0, 2, 2, 0⟩ (mapped 0x2000 0x1000) twoDeep, .start 0,
    .enqBuf ⟨0, 9, 9, 0⟩ (fun _ => ⟨-Errno.EINVAL, 0, 0⟩) twoDeep,
    .enqBuf ⟨0, 3, 3, 0x10⟩ (mapped 0x3000 0x1000) twoDeep,
    .sof 1 10 (fun _ => 20) (fun _ => 10) fun _ => twoDeep, .complete 0, .complete 0,
    .busWr (fun i => if i = 0 then some 1 else none) 0 fun _ => twoDeep, .error 1, .stop 0]

theorem run_follows_coalesced : Follows (Transition.run step init coalesced 0) :=
  run_follows coalesced (by decide +kernel) 0

/-- The first buffer starts below 4 GiB and is written above. -/
def pastRegister : List Op :=
  [.reserve 0 false, .enqBuf ⟨0, 1, 1, 0x1100⟩ (mapped 0xFFFFF000 0x2000) twoDeep,
    .enqBuf ⟨0, 2, 2, 0⟩ (mapped 0x3000 0x1000) twoDeep, .start 0, .complete 0,
    .busWr (fun i => if i = 0 then some 0 else none) 0 fun _ => twoDeep]

theorem pastRegister_not_follows : ¬Follows (Transition.run step init pastRegister 0) :=
  fun h => absurd h.frames (by decide +kernel)

end CameraKernel.AisVfe
