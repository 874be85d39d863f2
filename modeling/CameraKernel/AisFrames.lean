import CameraKernel.AisBuffers

/-! The frame numbers of an AIS RDI path. Missed SOF interrupts are counted from the two
timestamps of the hardware and the one kept of the last interrupt. -/
namespace CameraKernel.AisVfe

variable {r r' r'' : RdiOutput}

/-- Frame 1 starts at `t0`; the hardware has no earlier timestamp than its own. -/
structure Stream where
  t0 : UInt64
  period : UInt64
  period_pos : 0 < period.toNat

def Stream.ts (S : Stream) (frame : ℕ) : UInt64 := S.t0 + UInt64.ofNat (frame - 1) * S.period

def Stream.prevTs (S : Stream) (frame : ℕ) : UInt64 := if frame ≤ 1 then 0 else S.ts (frame - 1)

/-- The timestamps wrap between the last two frames. -/
def Stream.wraps (S : Stream) (frame : ℕ) : Prop := S.ts frame < S.prevTs frame

instance (S : Stream) (frame : ℕ) : Decidable (S.wraps frame) :=
  inferInstanceAs (Decidable (S.ts frame < S.prevTs frame))

variable {S : Stream} {last frame k n : ℕ}

lemma ts_add (S : Stream) (hn : 1 ≤ n) (k : ℕ) :
    S.ts (n + k) = S.ts n + UInt64.ofNat k * S.period := by
  rw [Stream.ts, Stream.ts, show n + k - 1 = (n - 1) + k by omega, UInt64.ofNat_add]
  grind

lemma prevTs_succ (hn : 1 ≤ n) : S.prevTs (n + 1) = S.ts n := by
  rw [Stream.prevTs, if_neg (by omega), Nat.add_sub_cancel]

lemma tsDelta_eq (hn : 1 ≤ n) : tsDelta (S.ts (n + 1)) (S.prevTs (n + 1)) =
    if S.wraps (n + 1) then S.period - 1 else S.period := by
  have hnext : S.ts (n + 1) = S.ts n + S.period := by simpa using ts_add S hn 1
  have hprev := prevTs_succ (S := S) hn
  rw [tsDelta]
  by_cases hw : S.wraps (n + 1)
  · rw [if_pos hw, if_pos (show S.ts (n + 1) < S.prevTs (n + 1) from hw), hprev, hnext]
    grind
  · rw [if_neg hw, if_neg (show ¬ S.ts (n + 1) < S.prevTs (n + 1) from hw), hprev, hnext]
    grind

lemma getNumMissedSof_eq (prev last delta : UInt64) :
    getNumMissedSof prev last delta = ((prev - last + delta / 2) / delta).toUInt8 := by
  rw [getNumMissedSof]
  split_ifs with heq hlt
  · have hzero : (prev - last + delta / 2) / delta = 0 := by
      rw [heq, ← UInt64.toNat_inj]
      simp only [UInt64.sub_self, UInt64.zero_add, UInt64.toNat_div, UInt64.toNat_ofNat]
      rcases Nat.eq_zero_or_pos delta.toNat with h0 | hpos
      · simp [h0]
      · exact Nat.div_eq_of_lt (Nat.div_lt_self hpos (by decide))
    rw [hzero]
    rfl
  · have hsub : 0xffffffffffffffff - last + prev + 1 + delta / 2 = prev - last + delta / 2 := by
      grind
    rw [hsub]
  · rfl

lemma missed_toNat (k : ℕ) (T D : UInt64) :
    ((UInt64.ofNat k * T + D / 2) / D).toUInt8.toNat =
      (k * T.toNat + D.toNat / 2) % 2 ^ 64 / D.toNat % 256 := by
  simp [UInt64.toNat_div, UInt64.toNat_add, UInt64.toNat_mul]

/-- The rounded quotient is the number of periods while it fits in 8 bits, the sum fits in 64
and the shortfall of the divisor stays below half of it. -/
lemma missed_eq_iff {T D : ℕ} (hT : 0 < T) (hlt : T < 2 ^ 64) (hD : D = T ∨ D + 1 = T) :
    (k * T + D / 2) % 2 ^ 64 / D % 256 = k ↔
      k = 0 ∨ k ≤ 255 ∧ k * T + D / 2 < 2 ^ 64 ∧ (D + 1 = T → k < T / 2) := by
  rcases Nat.eq_zero_or_pos D with rfl | hpos
  · have hT1 : T = 1 := by omega
    simp [hT1, eq_comm]
  obtain ⟨e, he, hsplit⟩ : ∃ e, T = D + e ∧ (e = 0 ∨ e = 1) := ⟨T - D, by omega, by omega⟩
  have hsum : k * T + D / 2 = (k * e + D / 2) + D * k := by
    rw [he]
    ring
  have hshort : k * e ≤ k := by rcases hsplit with rfl | rfl <;> simp
  constructor
  · intro h
    by_cases hk0 : k = 0
    · exact .inl hk0
    have hk : k ≤ 255 := by omega
    have hq : k ≤ (k * T + D / 2) % 2 ^ 64 / D := by
      conv_lhs => rw [← h]
      exact Nat.mod_le _ _
    have hDk : D * k ≤ (k * T + D / 2) % 2 ^ 64 := by
      have := (Nat.le_div_iff_mul_le hpos).1 hq
      rwa [mul_comm]
    have hfit : k * T + D / 2 < 2 ^ 64 := by omega
    refine .inr ⟨hk, hfit, fun hDT => ?_⟩
    rw [Nat.mod_eq_of_lt hfit, hsum, Nat.add_mul_div_left _ _ hpos] at h
    have he1 : e = 1 := by omega
    have hquot : (k * e + D / 2) / D < 256 := by
      rw [Nat.div_lt_iff_lt_mul hpos]
      omega
    have hzero : (k * e + D / 2) / D = 0 := by
      generalize (k * e + D / 2) / D = q at h hquot
      omega
    rw [Nat.div_eq_zero_iff] at hzero
    subst he1
    omega
  · rintro (rfl | ⟨hk, hfit, hhalf⟩)
    · have hsmall : D / 2 < 2 ^ 64 := by omega
      rw [zero_mul, zero_add, Nat.mod_eq_of_lt hsmall, Nat.div_eq_of_lt (by omega)]
    · have hzero : (k * e + D / 2) / D = 0 := by
        rw [Nat.div_eq_zero_iff]
        right
        rcases hsplit with rfl | rfl
        · omega
        · omega
      rw [Nat.mod_eq_of_lt hfit, hsum, Nat.add_mul_div_left _ _ hpos, hzero]
      omega

def SofInfo.stamp (i : SofInfo) : UInt64 × UInt64 := (i.frameCnt, i.curSofHwTs)

/-- Records are queued while the free list has one; the rest is dropped. -/
structure Queues (r r' : RdiOutput) (stamps : List (UInt64 × UInt64)) : Prop where
  queued : ∃ new, r'.sofInfoQ = r.sofInfoQ ++ new ∧
    new.map SofInfo.stamp = stamps.take r.freeSofInfoList.length
  free : r'.freeSofInfoList.length = r.freeSofInfoList.length - stamps.length

lemma Queues.trans {es es' : List (UInt64 × UInt64)} (h : Queues r r' es) (h' : Queues r' r'' es') :
    Queues r r'' (es ++ es') := by
  obtain ⟨new, hq, hnew⟩ := h.queued
  obtain ⟨new', hq', hnew'⟩ := h'.queued
  refine ⟨⟨new ++ new', by rw [hq', hq, List.append_assoc], ?_⟩, ?_⟩
  · rw [List.map_append, hnew, hnew', h.free, List.take_append]
  · rw [h'.free, h.free, List.length_append]
    omega

lemma Queues.none (r : RdiOutput) : Queues r r [] := ⟨⟨[], by simp, by simp⟩, by simp⟩

lemma qSof_queues (r : RdiOutput) (frameCnt sofTs cur : UInt64) :
    Queues r (qSof r frameCnt sofTs cur) [(frameCnt, cur)] := by
  rw [qSof]
  cases hfree : r.freeSofInfoList with
  | nil => exact ⟨⟨[], by simp, by simp [hfree]⟩, by simp [hfree]⟩
  | cons i free => exact ⟨⟨_, rfl, by simp [hfree, SofInfo.stamp]⟩, by simp [hfree]⟩

@[simp] lemma qSof_frameCnt (r : RdiOutput) (frameCnt sofTs cur : UInt64) :
    (qSof r frameCnt sofTs cur).frameCnt = r.frameCnt := by
  rw [qSof]
  cases r.freeSofInfoList <;> rfl

lemma qMissedSof_queues (r : RdiOutput) (sofTs cur : UInt64) :
    Queues r (qMissedSof r sofTs cur) [(r.frameCnt, cur)] := by
  have h := qSof_queues { r with frameCnt := r.frameCnt + 1 } r.frameCnt sofTs cur
  exact ⟨h.queued, h.free⟩

@[simp] lemma qMissedSof_frameCnt (r : RdiOutput) (sofTs cur : UInt64) :
    (qMissedSof r sofTs cur).frameCnt = r.frameCnt + 1 := by
  simp [qMissedSof]

/-- The stamps of the missed frames, the latest last. -/
def missedStamps (frameCnt prev delta : UInt64) : ℕ → List (UInt64 × UInt64)
  | 0 => []
  | n + 1 => (frameCnt, prev - delta * UInt64.ofNat n) :: missedStamps (frameCnt + 1) prev delta n

lemma qMissedSofs_spec (sofTs prev delta : UInt64) (n : ℕ) (r : RdiOutput) :
    let r' := qMissedSof (qMissedSofs sofTs prev delta n r) sofTs prev
    r'.frameCnt = r.frameCnt + UInt64.ofNat (n + 1) ∧
      Queues r r' (missedStamps r.frameCnt prev delta (n + 1)) := by
  induction n generalizing r with
  | zero => exact ⟨by simp [qMissedSofs], by simpa [qMissedSofs, missedStamps] using qMissedSof_queues r sofTs prev⟩
  | succ n ih =>
    obtain ⟨hcnt, hq⟩ := ih (qMissedSof r sofTs (prev - delta * UInt64.ofNat (n + 1)))
    rw [qMissedSof_frameCnt] at hq
    refine ⟨?_, (qMissedSof_queues r sofTs _).trans hq⟩
    rw [qMissedSofs, hcnt, qMissedSof_frameCnt, UInt64.ofNat_add (n + 1) 1]
    grind

lemma qSofs_first (ts cur : UInt64) {prev : UInt64} (h : r.frameCnt = 1) (hprev : prev ≠ 0) :
    (qSofs r ts cur prev).frameCnt = 2 ∧ Queues r (qSofs r ts cur prev) [(1, prev), (2, cur)] := by
  have hq := (qMissedSof_queues r ts prev).trans
    (qSof_queues (qMissedSof r ts prev) (qMissedSof r ts prev).frameCnt ts cur)
  have hqs : qSofs r ts cur prev =
      qSof (qMissedSof r ts prev) (qMissedSof r ts prev).frameCnt ts cur := by
    rw [qSofs, if_pos ⟨h, hprev⟩]
  rw [hqs]
  rw [qMissedSof_frameCnt, h] at hq ⊢
  exact ⟨by simp [h], hq⟩

variable (r) in
lemma qSofs_spec (ts cur prev : UInt64) (h : ¬ (r.frameCnt = 1 ∧ prev ≠ 0)) :
    let m := (missedSof r cur prev).toNat
    (qSofs r ts cur prev).frameCnt = r.frameCnt + UInt64.ofNat m ∧
      Queues r (qSofs r ts cur prev)
        (missedStamps r.frameCnt prev (tsDelta cur prev) m ++ [(r.frameCnt + UInt64.ofNat m, cur)]) := by
  intro m
  by_cases hm : 0 < missedSof r cur prev
  · have hpos : 0 < m := UInt8.lt_iff_toNat_lt.1 hm
    obtain ⟨hcnt, hq⟩ := qMissedSofs_spec ts prev (tsDelta cur prev) (m - 1) r
    rw [Nat.sub_add_cancel hpos] at hcnt hq
    simp only [qSofs, if_neg h, if_pos hm, qSof_frameCnt]
    refine ⟨hcnt, hq.trans ?_⟩
    have hlast := qSof_queues
      (qMissedSof (qMissedSofs ts prev (tsDelta cur prev) (m - 1) r) ts prev)
      (qMissedSof (qMissedSofs ts prev (tsDelta cur prev) (m - 1) r) ts prev).frameCnt ts cur
    rwa [hcnt] at hlast ⊢
  · have hzero : m = 0 := by
      rw [UInt8.lt_iff_toNat_lt] at hm
      have : (0 : UInt8).toNat = 0 := rfl
      omega
    simp only [qSofs, if_neg h, if_neg hm, qSof_frameCnt, hzero]
    exact ⟨by simp, by simpa [missedStamps] using qSof_queues r r.frameCnt ts cur⟩

/-! ### One interrupt -/

/-- The stamps the frames after `last` should get. -/
def frameStamps (S : Stream) (last n : ℕ) : List (UInt64 × UInt64) :=
  (List.range n).map fun j => (UInt64.ofNat (last + 1 + j), S.ts (last + 1 + j))

/-- The call for `frame`, where the interrupt before was that of frame `last`. -/
structure Numbered (S : Stream) (last frame : ℕ) (r r' : RdiOutput) : Prop where
  frameCnt : r'.frameCnt.toNat = frame
  queued : ∃ new, r'.sofInfoQ = r.sofInfoQ ++ new ∧
    new.map SofInfo.stamp = (frameStamps S last (frame - last)).take r.freeSofInfoList.length

/-- What the driver kept of the last interrupt. -/
structure Synced (S : Stream) (last : ℕ) (r : RdiOutput) : Prop where
  frameCnt : r.frameCnt.toNat = last
  lastSof : 1 ≤ last → r.lastSofHwTs = S.ts last

/-- At most one frame is missed before the first interrupt. Later at most 255 are, over less
than 2^64; where the timestamps wrap between the last two frames, fewer than half a period's
units, and one alone unless no record can be queued. -/
def countable (S : Stream) (last frame : ℕ) (r : RdiOutput) : Prop :=
  if last = 0 then frame = 1 ∨ frame = 2 ∧ S.t0 ≠ 0
  else
    let missed := frame - last - 1
    frame < 2 ^ 64 ∧
    (missed = 0 ∨ missed ≤ 255 ∧
      missed * S.period.toNat + (if S.wraps frame then S.period.toNat - 1 else S.period.toNat) / 2
        < 2 ^ 64 ∧
      (S.wraps frame → missed < S.period.toNat / 2)) ∧
    (S.wraps frame → missed ≤ 1 ∨ r.freeSofInfoList = [])

lemma frameStamps_succ (S : Stream) (last n : ℕ) : frameStamps S last (n + 1) =
    (UInt64.ofNat (last + 1), S.ts (last + 1)) :: frameStamps S (last + 1) n := by
  rw [frameStamps, List.range_succ_eq_map, List.map_cons, List.map_map, frameStamps]
  refine congrArg₂ _ rfl (List.map_congr_left fun j _ => ?_)
  simp only [Function.comp_apply]
  rw [show last + 1 + j.succ = last + 1 + 1 + j by omega]

lemma missedStamps_eq (S : Stream) (delta : UInt64) (last k : ℕ)
    (h : k ≤ 1 ∨ delta = S.period) :
    missedStamps (UInt64.ofNat (last + 1)) (S.ts (last + k)) delta k ++
      [(UInt64.ofNat (last + 1) + UInt64.ofNat k, S.ts (last + k + 1))] =
    frameStamps S last (k + 1) := by
  induction k generalizing last with
  | zero => simp [missedStamps, frameStamps]
  | succ k ih =>
    have hstep : UInt64.ofNat (last + 1) + UInt64.ofNat (k + 1) =
        UInt64.ofNat (last + 1 + 1) + UInt64.ofNat k := by
      rw [UInt64.ofNat_add k 1, UInt64.ofNat_add (last + 1) 1]
      grind
    have hts : S.ts (last + (k + 1)) - delta * UInt64.ofNat k = S.ts (last + 1) := by
      rw [show last + (k + 1) = last + 1 + k by omega, ts_add S (by omega) k]
      rcases h with hk | rfl
      · have hk0 : k = 0 := by omega
        subst hk0
        simp
      · grind
    have hrest := ih (last + 1) (h.imp (fun hk => by omega) id)
    rw [frameStamps_succ, ← hrest, missedStamps, hts, hstep, List.cons_append,
      show last + (k + 1) = last + 1 + k by omega, UInt64.ofNat_add (last + 1) 1]
    rfl

/-- One less than the period, over several frames: the first stamp is wrong. -/
lemma missedStamps_ne (S : Stream) (n last k : ℕ) (hk : 2 ≤ k) (hlt : k < 2 ^ 64)
    (es : List (UInt64 × UInt64))
    (h : (missedStamps (UInt64.ofNat (last + 1)) (S.ts (last + k)) (S.period - 1) k ++ es).take n =
      (frameStamps S last (k + 1)).take n) : n = 0 := by
  by_contra hn
  obtain ⟨k, rfl⟩ : ∃ j, k = j + 1 := ⟨k - 1, by omega⟩
  obtain ⟨n, rfl⟩ : ∃ m, n = m + 1 := ⟨n - 1, by omega⟩
  rw [missedStamps, frameStamps_succ, List.cons_append, List.take_succ_cons, List.take_succ_cons] at h
  have hts := (Prod.mk.inj (List.cons.inj h).1).2
  rw [show last + (k + 1) = last + 1 + k by omega, ts_add S (by omega) k] at hts
  have hzero : UInt64.ofNat k = 0 := by grind
  have hk0 : k % 2 ^ 64 = 0 := by simpa using congrArg UInt64.toNat hzero
  omega

lemma Queues.iff {es es' : List (UInt64 × UInt64)} (h : Queues r r' es) :
    (∃ new, r'.sofInfoQ = r.sofInfoQ ++ new ∧
      new.map SofInfo.stamp = es'.take r.freeSofInfoList.length) ↔
    es.take r.freeSofInfoList.length = es'.take r.freeSofInfoList.length := by
  obtain ⟨new, hq, hnew⟩ := h.queued
  constructor
  · rintro ⟨new', hq', hnew'⟩
    rw [hq] at hq'
    rw [← hnew, List.append_cancel_left hq', hnew']
  · intro he
    exact ⟨new, hq, hnew.trans he⟩

/-- The frame is counted before anything else is read. -/
def RdiOutput.counted (r : RdiOutput) : RdiOutput := { r with frameCnt := r.frameCnt + 1 }

lemma handleSofRdi_queued (hnum : r.numBufferHwQ ≠ 0) (ts cur prev : UInt64) :
    (handleSofRdi r ts cur prev).1 = { qSofs r.counted ts cur prev with lastSofHwTs := cur } := by
  have hstep : sofInfoStep r.counted ts cur prev = (qSofs r.counted ts cur prev, []) :=
    if_pos hnum
  rw [handleSofRdi]
  change (({ (sofInfoStep r.counted ts cur prev).1 with lastSofHwTs := cur } : RdiOutput)) = _
  rw [hstep]

lemma numbered_iff_of_queues {es : List (UInt64 × UInt64)} {c : UInt64} {ts cur prev : UInt64}
    (hnum : r.numBufferHwQ ≠ 0)
    (h : (qSofs r.counted ts cur prev).frameCnt = c ∧ Queues r.counted (qSofs r.counted ts cur prev) es) :
    Numbered S last frame r (handleSofRdi r ts cur prev).1 ↔
      c.toNat = frame ∧ es.take r.freeSofInfoList.length =
        (frameStamps S last (frame - last)).take r.freeSofInfoList.length := by
  rw [handleSofRdi_queued hnum]
  have hq : Queues r { qSofs r.counted ts cur prev with lastSofHwTs := cur } es :=
    ⟨h.2.queued, h.2.free⟩
  constructor
  · intro hn
    exact ⟨h.1 ▸ hn.frameCnt, hq.iff.1 hn.queued⟩
  · intro hn
    exact ⟨by rw [← hn.1, ← h.1], hq.iff.2 hn.2⟩

lemma ofNat_toNat {x : UInt64} {n : ℕ} (h : x.toNat = n) : x = UInt64.ofNat n := by
  rw [← h, UInt64.ofNat_toNat]

lemma first_numbered_iff (hs : Synced S 0 r) (hnum : r.numBufferHwQ ≠ 0) (hpos : 0 < frame)
    (ts : UInt64) :
    Numbered S 0 frame r (handleSofRdi r ts (S.ts frame) (S.prevTs frame)).1 ↔
      frame = 1 ∨ frame = 2 ∧ S.t0 ≠ 0 := by
  have hone : r.counted.frameCnt = 1 := by
    rw [RdiOutput.counted, ofNat_toNat hs.frameCnt]
    rfl
  by_cases hprev : S.prevTs frame = 0
  · have hmiss : missedSof r.counted (S.ts frame) (S.prevTs frame) = 0 := by
      rw [missedSof, hone]
      rfl
    have hspec := qSofs_spec r.counted ts (S.ts frame) (S.prevTs frame) (fun h => h.2 hprev)
    rw [hmiss, hone] at hspec
    rw [numbered_iff_of_queues hnum hspec]
    constructor
    · intro h
      exact .inl h.1.symm
    · rintro (rfl | ⟨rfl, h0⟩)
      · exact ⟨rfl, rfl⟩
      · simp [Stream.prevTs, Stream.ts, h0] at hprev
  · have hspec := qSofs_first ts (S.ts frame) hone hprev
    rw [numbered_iff_of_queues hnum hspec]
    constructor
    · intro h
      have h2 : 2 = frame := h.1
      subst h2
      exact .inr ⟨rfl, fun h0 => hprev (by simp [Stream.prevTs, Stream.ts, h0])⟩
    · rintro (rfl | ⟨rfl, -⟩)
      · simp [Stream.prevTs] at hprev
      · exact ⟨rfl, by simp [frameStamps, Stream.prevTs, List.range_succ]⟩

lemma later_spec (hs : Synced S last r) (hlast : 1 ≤ last) (hlt : last + k + 1 < 2 ^ 64) (ts : UInt64) :
    let delta := if S.wraps (last + k + 1) then S.period - 1 else S.period
    let m := (k * S.period.toNat + delta.toNat / 2) % 2 ^ 64 / delta.toNat % 256
    let r' := qSofs r.counted ts (S.ts (last + k + 1)) (S.prevTs (last + k + 1))
    r'.frameCnt = UInt64.ofNat (last + 1) + UInt64.ofNat m ∧
      Queues r.counted r' (missedStamps (UInt64.ofNat (last + 1)) (S.ts (last + k)) delta m ++
        [(UInt64.ofNat (last + 1) + UInt64.ofNat m, S.ts (last + k + 1))]) := by
  intro delta m
  have hcnt : r.counted.frameCnt = UInt64.ofNat (last + 1) := by
    rw [RdiOutput.counted, ofNat_toNat hs.frameCnt, UInt64.ofNat_add]
    rfl
  have hgt : 1 < r.counted.frameCnt := by
    rw [hcnt, UInt64.lt_iff_toNat_lt, UInt64.toNat_ofNat_of_lt' (by rw [UInt64.size]; omega)]
    simp only [UInt64.toNat_one]
    omega
  have hprev : S.prevTs (last + k + 1) = S.ts (last + k) := prevTs_succ (by omega)
  have hdelta : tsDelta (S.ts (last + k + 1)) (S.prevTs (last + k + 1)) = delta :=
    tsDelta_eq (by omega)
  have hgap : S.prevTs (last + k + 1) - r.counted.lastSofHwTs = UInt64.ofNat k * S.period := by
    have hl : r.counted.lastSofHwTs = S.ts last := hs.lastSof hlast
    rw [hl, hprev, ts_add S hlast k]
    grind
  have hmiss : (missedSof r.counted (S.ts (last + k + 1)) (S.prevTs (last + k + 1))).toNat = m := by
    rw [missedSof, if_pos hgt, hdelta]
    split_ifs with h0
    · simp [m, h0]
    · rw [getNumMissedSof_eq, hgap, missed_toNat]
  have hspec := qSofs_spec r.counted ts (S.ts (last + k + 1)) (S.prevTs (last + k + 1))
    (fun h => by rw [h.1] at hgt; exact absurd hgt (by decide))
  rw [hmiss, hdelta, hcnt, hprev] at hspec
  rwa [hprev]

lemma stamps_iff (S : Stream) (last k n : ℕ) (hk : k ≤ 255) :
    (missedStamps (UInt64.ofNat (last + 1)) (S.ts (last + k))
        (if S.wraps (last + k + 1) then S.period - 1 else S.period) k ++
        [(UInt64.ofNat (last + 1) + UInt64.ofNat k, S.ts (last + k + 1))]).take n =
      (frameStamps S last (k + 1)).take n ↔ (S.wraps (last + k + 1) → k ≤ 1 ∨ n = 0) := by
  by_cases hw : S.wraps (last + k + 1)
  · simp only [hw, if_true, forall_const]
    constructor
    · intro h
      by_cases hk1 : k ≤ 1
      · exact .inl hk1
      · exact .inr (missedStamps_ne S n last k (by omega) (by omega) _ h)
    · rintro (hk1 | rfl)
      · rw [missedStamps_eq S _ last k (.inl hk1)]
      · simp
  · simp only [hw, if_false, false_imp_iff, iff_true]
    rw [missedStamps_eq S _ last k (.inr rfl)]

lemma later_numbered_iff (hs : Synced S last r) (hnum : r.numBufferHwQ ≠ 0) (hlast : 1 ≤ last)
    (hlt : last < frame) (ts : UInt64) :
    Numbered S last frame r (handleSofRdi r ts (S.ts frame) (S.prevTs frame)).1 ↔
      countable S last frame r := by
  obtain ⟨k, rfl⟩ : ∃ k, frame = last + k + 1 := ⟨frame - last - 1, by omega⟩
  have hmissed : last + k + 1 - last - 1 = k := by omega
  have hgap : last + k + 1 - last = k + 1 := by omega
  rw [countable, if_neg (by omega : last ≠ 0), hmissed]
  simp only
  by_cases hfit : last + k + 1 < 2 ^ 64
  swap
  · refine iff_of_false (fun h => hfit ?_) fun h => hfit h.1
    rw [← h.frameCnt]
    exact UInt64.toNat_lt _
  have hdelta : (if S.wraps (last + k + 1) then S.period - 1 else S.period).toNat =
      if S.wraps (last + k + 1) then S.period.toNat - 1 else S.period.toNat := by
    have hpos := S.period_pos
    split_ifs
    · rw [UInt64.toNat_sub_of_le _ _ (by rw [UInt64.le_iff_toNat_le]; exact hpos)]
      rfl
    · rfl
  have hspec := later_spec (k := k) hs hlast hfit ts
  simp only [hdelta] at hspec
  rw [numbered_iff_of_queues hnum hspec, hgap]
  -- The quotient is right or wrong by itself: the shorter divisor goes with the wrap.
  have hround := missed_eq_iff (k := k) (D := if S.wraps (last + k + 1) then S.period.toNat - 1
    else S.period.toNat) S.period_pos (UInt64.toNat_lt _) (by
      have hpos := S.period_pos
      split_ifs
      · omega
      · exact .inl rfl)
  have hshort : ((if S.wraps (last + k + 1) then S.period.toNat - 1 else S.period.toNat) + 1 =
      S.period.toNat) ↔ S.wraps (last + k + 1) := by
    have hpos := S.period_pos
    split_ifs with hw
    · simp only [hw, iff_true]
      omega
    · simp [hw]
  rw [hshort] at hround
  generalize hm : (k * S.period.toNat + (if S.wraps (last + k + 1) then S.period.toNat - 1
    else S.period.toNat) / 2) % 2 ^ 64 / (if S.wraps (last + k + 1) then S.period.toNat - 1
    else S.period.toNat) % 256 = m at hspec hround ⊢
  have hm255 : m ≤ 255 := by
    rw [← hm]
    omega
  have hcount : (UInt64.ofNat (last + 1) + UInt64.ofNat m).toNat = last + k + 1 ↔ m = k := by
    rw [← UInt64.ofNat_add, UInt64.toNat_ofNat']
    omega
  rw [hcount, and_iff_right hfit, ← hround]
  refine and_congr_right fun hmk => ?_
  rw [hmk, stamps_iff S last k _ (hmk ▸ hm255), List.length_eq_zero_iff]

theorem numbered_iff (hs : Synced S last r) (hnum : r.numBufferHwQ ≠ 0) (hlt : last < frame)
    (ts : UInt64) :
    Numbered S last frame r (handleSofRdi r ts (S.ts frame) (S.prevTs frame)).1 ↔
      countable S last frame r := by
  rcases Nat.eq_zero_or_pos last with rfl | hpos
  · rw [first_numbered_iff hs hnum hlt ts, countable, if_pos rfl]
  · exact later_numbered_iff hs hnum hpos hlt ts

structure Kept (r r' : RdiOutput) : Prop where
  state : r'.state = r.state
  frameCnt : r'.frameCnt = r.frameCnt
  lastSof : r'.lastSofHwTs = r.lastSofHwTs

lemma Kept.refl (r : RdiOutput) : Kept r r := ⟨rfl, rfl, rfl⟩

lemma Kept.trans (h : Kept r r') (h' : Kept r' r'') : Kept r r'' :=
  ⟨h'.state.trans h.state, h'.frameCnt.trans h.frameCnt, h'.lastSof.trans h.lastSof⟩

lemma qBufs_kept (f : Answers) (k : ℕ) (q : List Buffer) (r : RdiOutput) :
    Kept r (qBufs f k q r).1 ∧ (qBufs f k q r).1.sofInfoQ = r.sofInfoQ := by
  induction q generalizing k r with
  | nil => exact ⟨.refl r, rfl⟩
  | cons b q ih =>
    rw [qBufs]
    by_cases hfull : f.full k = true
    · rw [if_pos hfull]
      exact ⟨.refl r, rfl⟩
    · rw [if_neg hfull]
      have h := ih (k + 1) { r with
        bufferQ := q
        bufferHwQ := r.bufferHwQ ++ [{ b with ts := f.ts k }]
        numBufferHwQ := r.numBufferHwQ + 1 }
      exact ⟨⟨h.1.state, h.1.frameCnt, h.1.lastSof⟩, h.2⟩

lemma matchSof_kept (ts : UInt64) (q : List SofInfo) (r : RdiOutput) : Kept r (matchSof ts q r).2 := by
  induction q generalizing r with
  | nil => exact .refl r
  | cons i q ih =>
    rw [matchSof]
    split_ifs
    · exact ⟨rfl, rfl, rfl⟩
    · have h := ih { r with
        sofInfoQ := q
        numSofInfoQ := r.numSofInfoQ - 1
        freeSofInfoList := r.freeSofInfoList ++ [i] }
      exact ⟨h.state, h.frameCnt, h.lastSof⟩

lemma popUntil_kept (lastAddr : UInt32) (q : List Buffer) (r : RdiOutput) :
    Kept r (popUntil lastAddr q r).2.1 := by
  induction q generalizing r with
  | nil => exact .refl r
  | cons b q ih =>
    rw [popUntil]
    by_cases h0 : r.numBufferHwQ = 0
    · rw [if_pos h0]
      exact .refl r
    · rw [if_neg h0]
      have hmatch := matchSof_kept b.ts r.sofInfoQ
        { r with bufferHwQ := q, numBufferHwQ := r.numBufferHwQ - 1 }
      have hpopped : Kept r { (matchSof b.ts r.sofInfoQ
          { r with bufferHwQ := q, numBufferHwQ := r.numBufferHwQ - 1 }).2 with
          freeBufferList := (matchSof b.ts r.sofInfoQ
            { r with bufferHwQ := q, numBufferHwQ := r.numBufferHwQ - 1 }).2.freeBufferList ++ [b] } :=
        ⟨hmatch.state, hmatch.frameCnt, hmatch.lastSof⟩
      simp only
      split_ifs
      · exact hpopped
      · exact hpopped.trans (ih _)

lemma qBufsToHw_kept (f : Answers) (r : RdiOutput) : Kept r (qBufsToHw f r).1 :=
  (qBufs_kept f 0 r.bufferQ r).1

lemma handleClientFrameDone_kept (r : RdiOutput) (lastAddr : UInt32) (f : Answers) :
    Kept r (handleClientFrameDone r lastAddr f).1 := by
  rw [handleClientFrameDone]
  split_ifs
  · exact .refl r
  · have hpop := popUntil_kept lastAddr r.bufferHwQ r
    have hflush : Kept r (flushSofInfo (popUntil lastAddr r.bufferHwQ r).2.1) := hpop.trans ⟨rfl, rfl, rfl⟩
    by_cases h0 : (popUntil lastAddr r.bufferHwQ r).2.1.numBufferHwQ = 0
    · simp only [h0, if_true]
      exact hflush.trans (qBufsToHw_kept f _)
    · simp only [h0, if_false]
      exact hpop.trans (qBufsToHw_kept f _)

lemma cmdEnqBuf_kept (r : RdiOutput) (e : Enqueue) (lookup : Bool → Lookup) (f : Answers) :
    Kept r (cmdEnqBuf r e lookup f).2.1 := by
  rw [cmdEnqBuf]
  by_cases hpath : pathMax ≤ e.path
  · rw [if_pos hpath]
    exact .refl r
  rw [if_neg hpath]
  by_cases hstate : r.state.rank < ResourceState.reserved.rank
  · rw [if_pos hstate]
    exact .refl r
  rw [if_neg hstate]
  cases r.freeBufferList with
  | nil => exact .refl r
  | cons b free =>
    simp only
    split_ifs
    · exact ⟨rfl, rfl, rfl⟩
    · have hw := qBufsToHw_kept f { r with
        freeBufferList := free
        bufferQ := r.bufferQ ++ [{ b with
          bufIdx := e.idx
          memHandle := e.memHandle
          iovaAddr := (lookup (mmuSecure r e)).iova + e.offset.toUInt64 }] }
      exact ⟨hw.state, hw.frameCnt, hw.lastSof⟩
    · exact ⟨rfl, rfl, rfl⟩

variable {p : Path} {s : ℕ → Path} {i : ℕ}

lemma enqBuf_kept (p : Path) (e : Enqueue) (lookup : Bool → Lookup) (f : Answers) :
    Kept p.rdi (p.enqBuf e lookup f).2.rdi :=
  cmdEnqBuf_kept p.rdi e lookup f

lemma frameDone_kept (p : Path) (k : ℕ) (f : Answers) : Kept p.rdi (p.frameDone k f).rdi := by
  rw [Path.frameDone]
  cases p.done[k]? with
  | none => exact .refl _
  | some b =>
    simp only
    by_cases hs : p.rdi.state ≠ .streaming
    · rw [if_pos hs]
      exact .refl _
    · rw [if_neg hs]
      exact handleClientFrameDone_kept p.rdi b.hwAddr f

lemma complete_kept (p : Path) : Kept p.rdi p.complete.rdi := by
  rw [Path.complete]
  cases p.fifo <;> exact .refl _

lemma sof_rdi (hs : p.rdi.state = .streaming) (ts cur prev : UInt64) (f : Answers) :
    (p.sof ts cur prev f).rdi = (qBufsToHw f (handleSofRdi p.rdi ts cur prev).1).1 := by
  rw [Path.sof, if_neg (by simp [hs])]

/-- A path that does not stream has counted no frame. -/
def fresh (p : Path) : Prop :=
  p.rdi.state = .streaming ∨ p.rdi.state = .error ∨ p.rdi.frameCnt = 0

lemma Kept.fresh {p' : Path} (h : Kept p.rdi p'.rdi) (hp : fresh p) : fresh p' := by
  rw [AisVfe.fresh, h.state, h.frameCnt]
  exact hp

lemma fresh_sof (hp : fresh p) (ts cur prev : UInt64) (f : Answers) : fresh (p.sof ts cur prev f) := by
  by_cases hs : p.rdi.state = .streaming
  · left
    rw [sof_rdi hs, (qBufsToHw_kept f _).state, (handleSofRdi_only p.rdi ts cur prev).state, hs]
  · rw [Path.sof, if_pos hs]
    exact hp

lemma fresh_error (hp : fresh p) : fresh p.error.1 := by
  rw [Path.error]
  split_ifs
  · exact hp
  · exact .inr (.inl rfl)

lemma fresh_reserve (hp : fresh p) (secure : Bool) : fresh (p.reserve secure).2 := by
  rw [Path.reserve]
  split_ifs with hr
  · exact hp
  · rcases hp with hs | hs | h0
    · simp [hs, ResourceState.rank] at hr
    · simp [hs, ResourceState.rank] at hr
    · exact .inr (.inr h0)

lemma fresh_start (hp : fresh p) : fresh p.start.2 := by
  rw [Path.start]
  split_ifs with hs
  · exact hp
  · exact .inl rfl

lemma fresh_stop (hp : fresh p) : fresh p.stop.2 := by
  rw [Path.stop]
  split_ifs
  · exact hp
  · exact .inr (.inr rfl)

lemma start_frameCnt (p : Path) : p.start.2.rdi.frameCnt = p.rdi.frameCnt := by
  rw [Path.start]
  split_ifs <;> rfl

lemma fresh.frameCnt (hp : fresh p) (h : p.start.1 = 0) : p.rdi.frameCnt = 0 := by
  have hinit : p.rdi.state = .initHw := by
    by_contra hs
    rw [Path.start, if_pos hs, Errno.EINVAL] at h
    omega
  rcases hp with hs | hs | h0
  · rw [hinit] at hs
    cases hs
  · rw [hinit] at hs
    cases hs
  · exact h0

lemma onPath_at {P : Path → Prop} {path : ℕ} {g : Path → Path} (h : P (s i))
    (hg : path = i → P (g (s i))) : P (onPath s path g i) := by
  rw [onPath]
  split_ifs
  · exact h
  by_cases hi : i = path
  · subst hi
    rw [Function.update_self]
    exact hg rfl
  · rwa [Function.update_of_ne hi]

lemma eachPath_at {P : Path → Prop} {g : ℕ → Path → Path} (h : P (s i)) (hg : P (g i (s i))) :
    P (eachPath s g i) := by
  rw [eachPath]
  split_ifs
  · exact hg
  · exact h

lemma handleError_at {P : Path → Prop} (mask : ℕ) (h : P (s i)) (he : P (s i).error.1) :
    P (handleError s mask i) := by
  refine eachPath_at h ?_
  split_ifs
  · exact he
  · exact h

lemma step_fresh (op : Op) (h : fresh (s i)) : fresh (step s op i) := by
  cases op with
  | reserve path secure => exact onPath_at h fun _ => fresh_reserve h secure
  | start path => exact onPath_at h fun _ => fresh_start h
  | stop path => exact onPath_at h fun _ => fresh_stop h
  | enqBuf e lookup f => exact onPath_at h fun _ => (enqBuf_kept _ e lookup f).fresh h
  | sof mask ts cur prev f =>
    refine eachPath_at h ?_
    split_ifs
    · exact fresh_sof h _ _ _ _
    · exact h
  | busWr reports errors f =>
    have herror (t : ℕ → Path) (ht : fresh (t i)) : fresh (handleError t errors i) :=
      handleError_at errors ht (fresh_error ht)
    rw [step]
    refine herror _ (eachPath_at h ?_)
    cases reports i with
    | none => exact h
    | some k => exact (frameDone_kept _ k _).fresh h
  | error mask => exact handleError_at mask h (fresh_error h)
  | complete path => exact onPath_at h fun _ => (complete_kept _).fresh h

/-- The operation neither stops path `i` nor is a SOF interrupt of it. -/
def leaves (i : ℕ) : Op → Bool
  | .stop path => path ≠ i
  | .sof mask _ _ _ _ => !mask.testBit i
  | _ => true

/-- The same frame was counted last. -/
structure SameCount (p p' : Path) : Prop where
  frameCnt : p'.rdi.frameCnt = p.rdi.frameCnt
  lastSof : p'.rdi.lastSofHwTs = p.rdi.lastSofHwTs

lemma SameCount.refl (p : Path) : SameCount p p := ⟨rfl, rfl⟩

lemma Kept.sameCount {p' : Path} (h : Kept p.rdi p'.rdi) : SameCount p p' := ⟨h.frameCnt, h.lastSof⟩

lemma SameCount.error {p' : Path} (h : SameCount p p') : SameCount p p'.error.1 := by
  rw [Path.error]
  split_ifs
  · exact h
  · exact ⟨h.frameCnt, h.lastSof⟩

lemma step_sameCount {op : Op} (h : leaves i op = true) : SameCount (s i) (step s op i) := by
  have hrefl : SameCount (s i) (s i) := .refl _
  cases op with
  | reserve path secure =>
    rw [step]
    refine onPath_at hrefl fun _ => ?_
    rw [Path.reserve]
    split_ifs <;> exact ⟨rfl, rfl⟩
  | start path =>
    rw [step]
    refine onPath_at hrefl fun _ => ?_
    rw [Path.start]
    split_ifs <;> exact ⟨rfl, rfl⟩
  | stop path =>
    rw [step]
    exact onPath_at hrefl fun hi => absurd hi (by simpa [leaves] using h)
  | enqBuf e lookup f =>
    rw [step]
    exact onPath_at hrefl fun _ => (enqBuf_kept (s i) e lookup f).sameCount
  | sof mask ts cur prev f =>
    have hbit : mask.testBit i = false := by simpa [leaves] using h
    rw [step]
    refine eachPath_at hrefl ?_
    rw [if_neg (by simp [hbit])]
    exact hrefl
  | busWr reports errors f =>
    have herror (t : ℕ → Path) (ht : SameCount (s i) (t i)) :
        SameCount (s i) (handleError t errors i) :=
      handleError_at errors ht ht.error
    rw [step]
    refine herror _ (eachPath_at hrefl ?_)
    cases reports i with
    | none => exact hrefl
    | some k => exact (frameDone_kept (s i) k (f i)).sameCount
  | error mask =>
    rw [step]
    exact handleError_at mask hrefl hrefl.error
  | complete path =>
    rw [step]
    exact onPath_at hrefl fun _ => (complete_kept (s i)).sameCount

/-- The frame whose interrupt came last. -/
structure Watch where
  paths : ℕ → Path
  last : ℕ

inductive Move
  | sof (frame mask : ℕ) (ts : UInt64) (cur prev : ℕ → UInt64) (f : ℕ → Answers)
  | other (op : Op)

def Move.apply (w : Watch) : Move → Watch
  | .sof frame mask ts cur prev f => ⟨step w.paths (.sof mask ts cur prev f), frame⟩
  | .other op => ⟨step w.paths op, w.last⟩

/-- The hardware reports frames of the stream, later ones later; the path has buffers. -/
def delivered (S : Stream) (i : ℕ) (w : Watch) : Move → Prop
  | .sof frame mask _ cur prev _ =>
    i < pathMax ∧ mask.testBit i = true ∧ (w.paths i).rdi.state = .streaming ∧
      (w.paths i).rdi.numBufferHwQ ≠ 0 ∧ w.last < frame ∧ cur i = S.ts frame ∧ prev i = S.prevTs frame
  | .other op => leaves i op = true

def numbered (S : Stream) (i : ℕ) (w : Watch) : Move → Prop
  | .sof frame mask ts cur prev f => Numbered S w.last frame (w.paths i).rdi
      ((Move.sof frame mask ts cur prev f).apply w |>.paths i).rdi
  | .other _ => True

def gapCountable (S : Stream) (i : ℕ) (w : Watch) : Move → Prop
  | .sof frame _ _ _ _ _ => countable S w.last frame (w.paths i).rdi
  | .other _ => True

instance (S : Stream) (i : ℕ) (w : Watch) : ∀ m, Decidable (delivered S i w m)
  | .sof frame mask _ cur prev _ => inferInstanceAs (Decidable
      (i < pathMax ∧ mask.testBit i = true ∧ (w.paths i).rdi.state = .streaming ∧
        (w.paths i).rdi.numBufferHwQ ≠ 0 ∧ w.last < frame ∧ cur i = S.ts frame ∧
        prev i = S.prevTs frame))
  | .other op => inferInstanceAs (Decidable (leaves i op = true))

instance (S : Stream) (last frame : ℕ) (r : RdiOutput) : Decidable (countable S last frame r) := by
  unfold countable
  infer_instance

instance (S : Stream) (i : ℕ) (w : Watch) : ∀ m, Decidable (gapCountable S i w m)
  | .sof frame _ _ _ _ _ => inferInstanceAs (Decidable (countable S w.last frame (w.paths i).rdi))
  | .other _ => isTrue trivial

variable {w : Watch} {m : Move} {S : Stream}

lemma sof_path {frame mask : ℕ} {ts : UInt64} {cur prev : ℕ → UInt64} {f : ℕ → Answers}
    (h : delivered S i w (.sof frame mask ts cur prev f)) :
    (((Move.sof frame mask ts cur prev f).apply w).paths i).rdi =
      (qBufsToHw (f i) (handleSofRdi (w.paths i).rdi ts (S.ts frame) (S.prevTs frame)).1).1 := by
  obtain ⟨hi, hbit, hs, -, -, hcur, hprev⟩ := h
  rw [← sof_rdi hs, ← hcur, ← hprev]
  simp only [Move.apply, step, eachPath, if_pos hi, if_pos hbit]

lemma step_numbered_iff (hw : Synced S w.last (w.paths i).rdi) (hd : delivered S i w m) :
    numbered S i w m ↔ gapCountable S i w m := by
  cases m with
  | other op => exact Iff.rfl
  | sof frame mask ts cur prev f =>
    obtain ⟨-, -, -, hnum, hlt, -⟩ := id hd
    rw [numbered, gapCountable, ← numbered_iff hw hnum hlt ts, sof_path hd]
    obtain ⟨hkept, hq⟩ := qBufs_kept (f i) 0
      (handleSofRdi (w.paths i).rdi ts (S.ts frame) (S.prevTs frame)).1.bufferQ
      (handleSofRdi (w.paths i).rdi ts (S.ts frame) (S.prevTs frame)).1
    constructor
    · intro h
      exact ⟨hkept.frameCnt ▸ h.frameCnt, hq ▸ h.queued⟩
    · intro h
      exact ⟨by rw [qBufsToHw, hkept.frameCnt, h.frameCnt], by rw [qBufsToHw, hq]; exact h.queued⟩

lemma numbered_synced (hw : Synced S w.last (w.paths i).rdi) (hd : delivered S i w m)
    (hn : numbered S i w m) : Synced S (m.apply w).last ((m.apply w).paths i).rdi := by
  cases m with
  | other op =>
    have h := step_sameCount (s := w.paths) hd
    exact ⟨(congrArg UInt64.toNat h.frameCnt).trans hw.frameCnt,
      fun hlast => h.lastSof.trans (hw.lastSof hlast)⟩
  | sof frame mask ts cur prev f =>
    refine ⟨hn.frameCnt, fun _ => ?_⟩
    rw [sof_path hd, (qBufsToHw_kept (f i) _).lastSof]
    rfl

lemma moves_numbered_iff {moves : List Move} (hw : Synced S w.last (w.paths i).rdi)
    (hd : Transition.Guarded Move.apply (delivered S i) w moves) :
    Transition.Guarded Move.apply (numbered S i) w moves ↔
      Transition.Guarded Move.apply (gapCountable S i) w moves := by
  induction moves generalizing w with
  | nil => exact Iff.rfl
  | cons m moves ih =>
    have hhead := step_numbered_iff hw hd.1
    constructor
    · intro h
      exact ⟨hhead.1 h.1, (ih (numbered_synced hw hd.1 h.1) hd.2).1 h.2⟩
    · intro h
      have hn := hhead.2 h.1
      exact ⟨hn, (ih (numbered_synced hw hd.1 hn) hd.2).2 h.2⟩

/-- Path `i` starts to stream after any operations. -/
def started (i : ℕ) (setup : List Op) : Watch :=
  ⟨step (Transition.run step init setup) (.start i), 0⟩

theorem run_numbered_iff (S : Stream) (i : ℕ) (setup : List Op) (moves : List Move)
    (hstart : (Transition.run step init setup i).start.1 = 0)
    (hd : Transition.Guarded Move.apply (delivered S i) (started i setup) moves) :
    Transition.Guarded Move.apply (numbered S i) (started i setup) moves ↔
      Transition.Guarded Move.apply (gapCountable S i) (started i setup) moves := by
  have hfresh : fresh (Transition.run step init setup i) :=
    have hstep : ∀ (s : ℕ → Path) op, fresh (s i) → fresh (step s op i) := fun _ op h =>
      step_fresh op h
    Transition.run_always hstep (.inr (.inr rfl)) setup
  have hzero := hfresh.frameCnt hstart
  refine moves_numbered_iff ⟨?_, fun h => absurd h (by simp [started])⟩ hd
  refine onPath_at (P := fun p => p.rdi.frameCnt.toNat = 0) ?_ fun _ => ?_
  · rw [hzero]
    rfl
  · rw [start_frameCnt, hzero]
    rfl

/-- Frame 1 starts at 1000, then one every 100. -/
def every100 : Stream := ⟨1000, 100, by decide⟩

/-- The FIFO takes every address. -/
def roomy : Answers := ⟨fun _ => false, fun _ => 5⟩

def oneBuffer : List Op := [.reserve 0 false, .enqBuf ⟨0, 1, 1, 0⟩ (mapped 0x1000 0x100) roomy]

/-- The interrupt of a frame on path 0. -/
def sofOf (frame : ℕ) : Move :=
  .sof frame 1 7 (fun _ => every100.ts frame) (fun _ => every100.prevTs frame) fun _ => roomy

theorem run_numbered_twoMissed : Transition.Guarded Move.apply (numbered every100 0)
    (started 0 oneBuffer) [sofOf 1, sofOf 4, .other (.error 2), sofOf 5] :=
  (run_numbered_iff every100 0 oneBuffer _ (by decide +kernel) (by decide +kernel)).2
    (by decide +kernel)

/-- Of 256 missed frames, none is counted. -/
theorem sof258_not_numbered :
    (Transition.run step init oneBuffer 0).start.1 = 0 ∧
      Transition.Guarded Move.apply (delivered every100 0) (started 0 oneBuffer)
        [sofOf 1, sofOf 258] ∧
      ¬ Transition.Guarded Move.apply (numbered every100 0) (started 0 oneBuffer)
        [sofOf 1, sofOf 258] :=
  ⟨by decide +kernel, by decide +kernel, fun h => absurd h.2.1.frameCnt (by decide +kernel)⟩

end CameraKernel.AisVfe
