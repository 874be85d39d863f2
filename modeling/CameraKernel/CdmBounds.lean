import CameraKernel.CdmUtil

/-! Where the interpreter stays inside its buffer. The length checks of the command
routines add a header size in words to a payload size in bytes, so a command whose
payload runs past the end may be taken; the buffers that hold no such command in
reach are the ones on which the interpreter behaves. -/
namespace CameraKernel.CdmUtil
open MachineInt

def IsDmi (w : UInt32) : Prop :=
  cmdField w = CdmCommand.id .swdDmi32 ∨ cmdField w = CdmCommand.id .swdDmi64

instance (w : UInt32) : Decidable (IsDmi w) := inferInstanceAs (Decidable (_ ∨ _))

/-- A command that stands wholly in the first `n` words: it leads from a base and a
place to the base and the place after it. -/
inductive Whole (baseTable : BaseTable) (buf : Memory) (n : ℕ) : ℕ → ℕ → ℕ → ℕ → Prop
  | regCont {base q : ℕ} (hcmd : cmdField (buf q) = CdmCommand.id .regCont) (hbase : base ≠ 0)
      (hpos : 0 < countField (buf q)) (hfit : q + 2 + countField (buf q) ≤ n) :
      Whole baseTable buf n base q base (q + 2 + countField (buf q))
  | regRandom {base q : ℕ} (hcmd : cmdField (buf q) = CdmCommand.id .regRandom) (hbase : base ≠ 0)
      (hpos : 0 < countField (buf q)) (hfit : q + 1 + 2 * countField (buf q) ≤ n) :
      Whole baseTable buf n base q base (q + 1 + 2 * countField (buf q))
  | dmi {base q : ℕ} (k : ℕ) (hcmd : IsDmi (buf q)) (hbase : base ≠ 0)
      (hlen : countField (buf q) + 1 = 4 * k) (hfit : q + 3 + k ≤ n) :
      Whole baseTable buf n base q base (q + 3 + k)
  | changeBase {base base' q : ℕ} (hcmd : cmdField (buf q) = CdmCommand.id .changeBase)
      (hmap : camCdmGetIoremapFromBase baseTable (offsetField (buf q)) = some base') (hfit : q < n) :
      Whole baseTable buf n base q base' (q + 1)

/-- A place is in reach if whole commands fill the buffer up to it. -/
inductive InReach (baseTable : BaseTable) (buf : Memory) (n base : ℕ) : ℕ → ℕ → Prop
  | start : InReach baseTable buf n base base 0
  | next {b q b' q' : ℕ} (h : InReach baseTable buf n base b q)
      (hw : Whole baseTable buf n b q b' q') : InReach baseTable buf n base b' q'

/-- A command the length checks let through although its payload does not fill whole
words of the buffer: a continuous write that misses one word, or a DMI load whose bytes
fit only without its header or are no multiple of 4. -/
def Truncated (buf : Memory) (n base q : ℕ) : Prop :=
  q < n ∧ base ≠ 0 ∧
    ((cmdField (buf q) = CdmCommand.id .regCont ∧ 0 < countField (buf q) ∧
        q + 1 + countField (buf q) = n) ∨
      (IsDmi (buf q) ∧ 4 * q + countField (buf q) + 4 ≤ 4 * n ∧
        ¬(4 ∣ countField (buf q) + 1 ∧ 4 * q + countField (buf q) + 13 ≤ 4 * n)))

/-- On a buffer of `n` words the interpreter ends, every word it reads lies inside, and
each round takes from the remaining size 4 times the words it moves on. -/
structure StaysInside (baseTable : BaseTable) (buf : Memory) (base n : ℕ) : Prop where
  returns : ∃ ret s, CamCdmUtilCmdBufWrite baseTable buf base 0 (4 * n) ret s
  reads : ∀ s, WhileLoop.Reaches (cmdBody baseTable buf) ⟨base, 0, 4 * n, [], []⟩ s → s.size ≠ 0 →
    ∀ i ∈ (cmdRound baseTable buf s).2.reads, i < n
  consumed : ∀ s t, WhileLoop.Reaches (cmdBody baseTable buf) ⟨base, 0, 4 * n, [], []⟩ s →
    cmdBody baseTable buf s = .inr t → s.ptr ≤ t.ptr ∧ s.size = t.size + 4 * (t.ptr - s.ptr)

variable {baseTable : BaseTable} {buf : Memory} {n : ℕ} {s : CdmState}

lemma cmdRound_regCont (hcmd : cmdField (buf s.ptr) = CdmCommand.id .regCont) :
    cmdRound baseTable buf s = CdmState.consume { s with reads := s.reads ++ [s.ptr] }
      (camCdmUtilRegContWrite s.base buf s.ptr s.size) := by
  simp [cmdRound, hcmd]

lemma cmdRound_regRandom (hcmd : cmdField (buf s.ptr) = CdmCommand.id .regRandom) :
    cmdRound baseTable buf s = CdmState.consume { s with reads := s.reads ++ [s.ptr] }
      (camCdmUtilRegRandomWrite s.base buf s.ptr s.size) := by
  simp [cmdRound, hcmd, CdmCommand.id]

lemma cmdRound_dmi (hcmd : IsDmi (buf s.ptr)) (hbase : s.base ≠ 0) :
    cmdRound baseTable buf s = CdmState.consume { s with reads := s.reads ++ [s.ptr] }
      (camCdmUtilSwdDmiWrite (cmdField (buf s.ptr) = CdmCommand.id .swdDmi64) s.base buf s.ptr
        s.size) := by
  rcases hcmd with hcmd | hcmd <;> simp [cmdRound, hcmd, hbase, CdmCommand.id]

lemma cmdRound_changeBase (hcmd : cmdField (buf s.ptr) = CdmCommand.id .changeBase) :
    cmdRound baseTable buf s =
      match camCdmGetIoremapFromBase baseTable (offsetField (buf s.ptr)) with
      | none => (-Errno.EINVAL, { s with reads := s.reads ++ [s.ptr] })
      | some base => CdmState.consume { s with base := base, reads := s.reads ++ [s.ptr] }
        ⟨0, 4, [], []⟩ := by
  simp [cmdRound, hcmd, CdmCommand.id]
  rfl

/-- A round that takes `k` words and reads only those. -/
structure Takes (s : CdmState) (k : ℕ) (r : ℤ × CdmState) : Prop where
  ret : r.1 = 0
  ptr : r.2.ptr = s.ptr + k
  size : r.2.size = s.size - 4 * k
  reads : ∀ i ∈ r.2.reads, i ∈ s.reads ∨ (s.ptr ≤ i ∧ i < s.ptr + k)

lemma consume_takes {e : CmdEffect} {k : ℕ} (base : ℕ) (hk : 0 < k) (hret : e.ret = 0)
    (hused : e.usedBytes = 4 * k) (hle : 4 * k ≤ s.size)
    (hreads : ∀ i ∈ e.reads, s.ptr ≤ i ∧ i < s.ptr + k) :
    Takes s k (CdmState.consume { s with base := base, reads := s.reads ++ [s.ptr] } e) where
  ret := hret
  ptr := by simp [CdmState.consume, hused]
  size := by simp [CdmState.consume, hused, u32Sub_of_le hle]
  reads := by
    intro i hi
    simp only [CdmState.consume, List.mem_append, List.mem_singleton] at hi
    rcases hi with (hi | rfl) | hi
    · exact .inl hi
    · exact .inr ⟨le_rfl, by omega⟩
    · exact .inr (hreads i hi)

lemma regContWrite_accepts {base p size : ℕ} (hbase : base ≠ 0) (hpos : 0 < countField (buf p))
    (hle : 4 * countField (buf p) + 2 ≤ size) :
    ∃ writes, camCdmUtilRegContWrite base buf p size =
      ⟨0, 4 * (countField (buf p) + 2), writes,
        p :: (p + 1) :: List.range' (p + 2) (countField (buf p))⟩ := by
  have hlt := countField_lt (buf p)
  have hheader : cdmGetCmdHeaderSize .regCont = 2 := rfl
  simp only [camCdmUtilRegContWrite, hheader]
  rw [if_neg (by omega), if_neg (by omega)]
  exact ⟨_, by congr 1; omega⟩

lemma regContWrite_rejects {base p size : ℕ}
    (h : base = 0 ∨ countField (buf p) = 0 ∨ size < 4 * countField (buf p) + 2) :
    ∃ reads, camCdmUtilRegContWrite base buf p size = .fail reads ∧ ∀ i ∈ reads, i = p := by
  have hheader : cdmGetCmdHeaderSize .regCont = 2 := rfl
  simp only [camCdmUtilRegContWrite, hheader]
  by_cases hshort : size < 2 ∨ base = 0
  · exact ⟨[], if_pos hshort, by simp⟩
  · rw [if_neg hshort, if_pos (by omega)]
    exact ⟨[p], rfl, by simp⟩

lemma regRandomWrite_accepts {base p size : ℕ} (hbase : base ≠ 0) (hpos : 0 < countField (buf p))
    (hle : 8 * countField (buf p) + 1 ≤ size) :
    ∃ writes, camCdmUtilRegRandomWrite base buf p size =
      ⟨0, 4 * (2 * countField (buf p) + 1), writes,
        p :: List.range' (p + 1) (2 * countField (buf p))⟩ := by
  have hlt := countField_lt (buf p)
  have hheader : cdmGetCmdHeaderSize .regRandom = 1 := rfl
  simp only [camCdmUtilRegRandomWrite, hheader]
  rw [if_neg hbase, if_neg (by omega)]
  exact ⟨_, by congr 1; omega⟩

lemma regRandomWrite_rejects {base p size : ℕ}
    (h : base = 0 ∨ countField (buf p) = 0 ∨ size < 8 * countField (buf p) + 1) :
    ∃ reads, camCdmUtilRegRandomWrite base buf p size = .fail reads ∧ ∀ i ∈ reads, i = p := by
  have hheader : cdmGetCmdHeaderSize .regRandom = 1 := rfl
  simp only [camCdmUtilRegRandomWrite, hheader]
  by_cases hnull : base = 0
  · exact ⟨[], if_pos hnull, by simp⟩
  · rw [if_neg hnull, if_pos (by omega)]
    exact ⟨[p], rfl, by simp⟩

lemma swdDmiWrite_accepts {wide : Bool} {base p size : ℕ} (hle : countField (buf p) + 4 ≤ size) :
    ∃ writes reads, camCdmUtilSwdDmiWrite wide base buf p size =
        ⟨0, countField (buf p) + 13, writes, reads⟩ ∧
      ∀ k, countField (buf p) + 1 = 4 * k → ∀ i ∈ reads, p ≤ i ∧ i < p + 3 + k := by
  have hsize : cdmRequiredSizeDmi = 3 := rfl
  simp only [camCdmUtilSwdDmiWrite, hsize]
  rw [if_neg (by omega)]
  refine ⟨_, _, by congr 1; omega, ?_⟩
  intro k hk i hi
  by_cases hzero : (countField (buf p) + 1) / (if wide = true then 8 else 4) = 0
  · rw [if_pos hzero, List.mem_singleton] at hi
    omega
  · rw [if_neg hzero] at hi
    cases wide <;> simp [List.mem_range'_1] at hi <;> omega

lemma swdDmiWrite_rejects {wide : Bool} {base p size : ℕ} (hlt : size < countField (buf p) + 4) :
    camCdmUtilSwdDmiWrite wide base buf p size = .fail [p] := by
  have hsize : cdmRequiredSizeDmi = 3 := rfl
  simp only [camCdmUtilSwdDmiWrite, hsize]
  rw [if_pos (by omega)]

lemma cmdRound_of_whole {base' q' : ℕ} (h : Whole baseTable buf n s.base s.ptr base' q')
    (hsize : s.size = 4 * (n - s.ptr)) :
    s.ptr < q' ∧ q' ≤ n ∧ (cmdRound baseTable buf s).2.base = base' ∧
      Takes s (q' - s.ptr) (cmdRound baseTable buf s) := by
  obtain ⟨base, hs⟩ : ∃ base, s.base = base := ⟨_, rfl⟩
  obtain ⟨q, hq⟩ : ∃ q, s.ptr = q := ⟨_, rfl⟩
  rw [hs, hq] at h
  cases h with
  | regCont hcmd hbase hpos hfit =>
    subst hs hq
    obtain ⟨writes, he⟩ := regContWrite_accepts hbase hpos (by omega : _ ≤ s.size)
    rw [cmdRound_regCont hcmd, he]
    refine ⟨by omega, hfit, rfl, consume_takes s.base (by omega) rfl ?_ (by omega) ?_⟩
    · simp only
      omega
    · intro i hi
      simp only [List.mem_cons, List.mem_range'_1] at hi
      omega
  | regRandom hcmd hbase hpos hfit =>
    subst hs hq
    obtain ⟨writes, he⟩ := regRandomWrite_accepts hbase hpos (by omega : _ ≤ s.size)
    rw [cmdRound_regRandom hcmd, he]
    refine ⟨by omega, hfit, rfl, consume_takes s.base (by omega) rfl ?_ (by omega) ?_⟩
    · simp only
      omega
    · intro i hi
      simp only [List.mem_cons, List.mem_range'_1] at hi
      omega
  | dmi k hcmd hbase hlen hfit =>
    subst hs hq
    have hle : countField (buf s.ptr) + 4 ≤ s.size := by omega
    obtain ⟨writes, reads, he, hreads⟩ := swdDmiWrite_accepts hle
    rw [cmdRound_dmi hcmd hbase, he]
    refine ⟨by omega, hfit, rfl, consume_takes s.base (by omega) rfl ?_ (by omega) ?_⟩
    · simp only
      omega
    · intro i hi
      have := hreads k hlen i hi
      omega
  | changeBase hcmd hmap hfit =>
    subst hs hq
    rw [cmdRound_changeBase hcmd, hmap]
    exact ⟨by omega, hfit, rfl, consume_takes base' (by omega) rfl (by simp) (by omega) (by simp)⟩

lemma cmdRound_of_truncated (h : Truncated buf n s.base s.ptr) (hsize : s.size = 4 * (n - s.ptr)) :
    (cmdRound baseTable buf s).1 = 0 ∧
      s.size ≠ (cmdRound baseTable buf s).2.size + 4 * ((cmdRound baseTable buf s).2.ptr - s.ptr) := by
  obtain ⟨hlt, hbase, ⟨hcmd, hpos, hcount⟩ | ⟨hcmd, hle, hbad⟩⟩ := h
  · have hmax := countField_lt (buf s.ptr)
    obtain ⟨writes, he⟩ := regContWrite_accepts hbase hpos (by omega : _ ≤ s.size)
    rw [cmdRound_regCont hcmd, he]
    refine ⟨rfl, ?_⟩
    simp only [CdmState.consume, u32Sub, u32Max_eq]
    rw [if_neg (by omega)]
    omega
  · have hmax := countField_lt (buf s.ptr)
    have hle' : countField (buf s.ptr) + 4 ≤ s.size := by omega
    obtain ⟨writes, reads, he, -⟩ := swdDmiWrite_accepts hle'
    rw [cmdRound_dmi hcmd hbase, he]
    refine ⟨rfl, ?_⟩
    simp only [CdmState.consume, u32Sub, u32Max_eq]
    by_cases hfit : countField (buf s.ptr) + 13 ≤ s.size
    · rw [if_pos hfit]
      omega
    · rw [if_neg hfit]
      omega

/-- A refused round reads the header word alone. -/
def Refused (s : CdmState) (r : ℤ × CdmState) : Prop :=
  r.1 < 0 ∧ ∀ i ∈ r.2.reads, i ∈ s.reads ∨ i = s.ptr

lemma refused_einval : Refused s (-Errno.EINVAL, { s with reads := s.reads ++ [s.ptr] }) :=
  ⟨by norm_num [Errno.EINVAL], by simp⟩

lemma refused_consume_fail {reads : List ℕ} (h : ∀ i ∈ reads, i = s.ptr) :
    Refused s (CdmState.consume { s with reads := s.reads ++ [s.ptr] } (.fail reads)) := by
  refine ⟨by norm_num [CdmState.consume, CmdEffect.fail, Errno.EINVAL], ?_⟩
  intro i hi
  simp only [CdmState.consume, CmdEffect.fail, List.mem_append, List.mem_singleton] at hi
  rcases hi with (hi | hi) | hi
  · exact .inl hi
  · exact .inr hi
  · exact .inr (h i hi)

lemma cmdRound_refused (hsize : s.size = 4 * (n - s.ptr)) (hlt : s.ptr < n)
    (hw : ∀ b q, ¬Whole baseTable buf n s.base s.ptr b q) (ht : ¬Truncated buf n s.base s.ptr) :
    Refused s (cmdRound baseTable buf s) := by
  by_cases hcont : cmdField (buf s.ptr) = CdmCommand.id .regCont
  · have hrej : s.base = 0 ∨ countField (buf s.ptr) = 0 ∨ s.size < 4 * countField (buf s.ptr) + 2 := by
      by_contra hacc
      push Not at hacc
      by_cases hfit : s.ptr + 2 + countField (buf s.ptr) ≤ n
      · exact hw _ _ (.regCont hcont hacc.1 (by omega) hfit)
      · exact ht ⟨hlt, hacc.1, .inl ⟨hcont, by omega, by omega⟩⟩
    obtain ⟨reads, he, hreads⟩ := regContWrite_rejects hrej
    rw [cmdRound_regCont hcont, he]
    exact refused_consume_fail hreads
  by_cases hrandom : cmdField (buf s.ptr) = CdmCommand.id .regRandom
  · have hrej : s.base = 0 ∨ countField (buf s.ptr) = 0 ∨ s.size < 8 * countField (buf s.ptr) + 1 := by
      by_contra hacc
      push Not at hacc
      exact hw _ _ (.regRandom hrandom hacc.1 (by omega) (by omega))
    obtain ⟨reads, he, hreads⟩ := regRandomWrite_rejects hrej
    rw [cmdRound_regRandom hrandom, he]
    exact refused_consume_fail hreads
  by_cases hdmi : IsDmi (buf s.ptr)
  · by_cases hbase : s.base = 0
    · have hround : cmdRound baseTable buf s = (-Errno.EINVAL, { s with reads := s.reads ++ [s.ptr] }) := by
        rcases hdmi with hcmd | hcmd <;> simp [cmdRound, hcmd, hbase, CdmCommand.id]
      exact hround ▸ refused_einval
    · have hrej : s.size < countField (buf s.ptr) + 4 := by
        by_contra hacc
        by_cases hfit : 4 ∣ countField (buf s.ptr) + 1 ∧ 4 * s.ptr + countField (buf s.ptr) + 13 ≤ 4 * n
        · obtain ⟨⟨k, hk⟩, hle⟩ := hfit
          exact hw _ _ (.dmi k hdmi hbase hk (by omega))
        · exact ht ⟨hlt, hbase, .inr ⟨hdmi, by omega, hfit⟩⟩
      rw [cmdRound_dmi hdmi hbase, swdDmiWrite_rejects hrej]
      exact refused_consume_fail (by simp)
  by_cases hchange : cmdField (buf s.ptr) = CdmCommand.id .changeBase
  · rw [cmdRound_changeBase hchange]
    cases hmap : camCdmGetIoremapFromBase baseTable (offsetField (buf s.ptr)) with
    | none => exact refused_einval
    | some base => exact absurd (.changeBase hchange hmap hlt) (hw base _)
  · have hround : cmdRound baseTable buf s = (-Errno.EINVAL, { s with reads := s.reads ++ [s.ptr] }) := by
      simp only [IsDmi] at hdmi
      simp [cmdRound, hcont, hrandom, hdmi, hchange]
    exact hround ▸ refused_einval

lemma cmdBody_of_ok (hsize : s.size ≠ 0) (hret : (cmdRound baseTable buf s).1 = 0) :
    cmdBody baseTable buf s = .inr (cmdRound baseTable buf s).2 := by
  simp [cmdBody, hsize, hret]

/-- The loop stands at a place in reach, with the rest of the buffer left. -/
structure AtPlace (baseTable : BaseTable) (buf : Memory) (n base : ℕ) (s : CdmState) : Prop where
  inReach : InReach baseTable buf n base s.base s.ptr
  le : s.ptr ≤ n
  size : s.size = 4 * (n - s.ptr)
  reads : ∀ i ∈ s.reads, i < n

lemma atPlace_start (base : ℕ) : AtPlace baseTable buf n base ⟨base, 0, 4 * n, [], []⟩ :=
  ⟨.start, Nat.zero_le n, rfl, by simp⟩

lemma atPlace_of_whole {base b q : ℕ} (h : AtPlace baseTable buf n base s)
    (hw : Whole baseTable buf n s.base s.ptr b q) :
    ∃ t, cmdRound baseTable buf s = (0, t) ∧ cmdBody baseTable buf s = .inr t ∧ t.base = b ∧
      t.ptr = q ∧ s.ptr < q ∧ AtPlace baseTable buf n base t := by
  obtain ⟨hlt, hle, rfl, htakes⟩ := cmdRound_of_whole hw h.size
  have hsize := h.size
  have hptr := htakes.ptr
  have hsize' := htakes.size
  have hq : (cmdRound baseTable buf s).2.ptr = q := by omega
  refine ⟨(cmdRound baseTable buf s).2, Prod.ext htakes.ret rfl, cmdBody_of_ok (by omega) htakes.ret,
    rfl, hq, hlt, ?_⟩
  refine ⟨hq ▸ h.inReach.next hw, by omega, by omega, ?_⟩
  intro i hi
  rcases htakes.reads i hi with hi | hi
  · exact h.reads i hi
  · omega

lemma atPlace_cases {base : ℕ} (hok : ∀ b q, InReach baseTable buf n base b q → ¬Truncated buf n b q)
    (h : AtPlace baseTable buf n base s) (hsize : s.size ≠ 0) :
    (∃ t, cmdRound baseTable buf s = (0, t) ∧ cmdBody baseTable buf s = .inr t ∧ s.ptr < t.ptr ∧
      AtPlace baseTable buf n base t) ∨
    ((∃ r, cmdBody baseTable buf s = .inl r) ∧ Refused s (cmdRound baseTable buf s)) := by
  have hs := h.size
  by_cases hw : ∃ b q, Whole baseTable buf n s.base s.ptr b q
  · obtain ⟨b, q, hw⟩ := hw
    obtain ⟨t, ht, hbody, -, hq, hlt, hat⟩ := atPlace_of_whole h hw
    exact .inl ⟨t, ht, hbody, hq ▸ hlt, hat⟩
  · push Not at hw
    have href := cmdRound_refused hs (by omega) hw (hok _ _ h.inReach)
    refine .inr ⟨⟨cmdRound baseTable buf s, ?_⟩, href⟩
    rw [cmdBody, if_neg hsize, if_pos href.1]

lemma atPlace_of_step {base : ℕ} {t : CdmState}
    (hok : ∀ b q, InReach baseTable buf n base b q → ¬Truncated buf n b q)
    (h : AtPlace baseTable buf n base s) (hstep : cmdBody baseTable buf s = .inr t) :
    s.ptr < t.ptr ∧ AtPlace baseTable buf n base t := by
  have hsize : s.size ≠ 0 := by
    intro hzero
    rw [cmdBody, if_pos hzero] at hstep
    cases hstep
  rcases atPlace_cases hok h hsize with ⟨u, -, hbody, hlt, hat⟩ | ⟨⟨r, hbody⟩, -⟩
  · rw [hbody] at hstep
    cases hstep
    exact ⟨hlt, hat⟩
  · rw [hbody] at hstep
    cases hstep

lemma staysInside_of_noTruncated {base : ℕ}
    (hok : ∀ b q, InReach baseTable buf n base b q → ¬Truncated buf n b q) :
    StaysInside baseTable buf base n := by
  have hreach : ∀ s, WhileLoop.Reaches (cmdBody baseTable buf) ⟨base, 0, 4 * n, [], []⟩ s →
      AtPlace baseTable buf n base s := fun s hs =>
    hs.invariant (fun _ _ h hstep => (atPlace_of_step hok h hstep).2) (atPlace_start base)
  refine ⟨?_, ?_, ?_⟩
  · -- The rest of the buffer shrinks with each round.
    obtain ⟨⟨ret, s⟩, h⟩ := WhileLoop.exists_returns (fun s : CdmState => n - s.ptr)
      (fun s t h hstep => by
        obtain ⟨hlt, hat⟩ := atPlace_of_step hok h hstep
        have := hat.le
        exact ⟨hat, by omega⟩) (atPlace_start base)
    exact ⟨ret, s, h⟩
  · intro s hs hsize i hi
    have hat := hreach s hs
    rcases atPlace_cases hok hat hsize with ⟨t, ht, -, -, hnext⟩ | ⟨-, href⟩
    · rw [ht] at hi
      exact hnext.reads i hi
    · rcases href.2 i hi with hi | rfl
      · exact hat.reads i hi
      · have := hat.size
        omega
  · intro s t hs hstep
    have hat := hreach s hs
    obtain ⟨hlt, hnext⟩ := atPlace_of_step hok hat hstep
    have hsize := hat.size
    have hsize' := hnext.size
    have hle := hnext.le
    exact ⟨hlt.le, by omega⟩

lemma exists_reaches_of_inReach {base b q : ℕ} (h : InReach baseTable buf n base b q) :
    ∃ s, WhileLoop.Reaches (cmdBody baseTable buf) ⟨base, 0, 4 * n, [], []⟩ s ∧ s.base = b ∧
      s.ptr = q ∧ AtPlace baseTable buf n base s := by
  induction h with
  | start => exact ⟨_, .refl, rfl, rfl, atPlace_start base⟩
  | next _ hw ih =>
    obtain ⟨s, hs, rfl, rfl, hat⟩ := ih
    obtain ⟨t, -, hbody, hb, hq, -, hnext⟩ := atPlace_of_whole hat hw
    exact ⟨t, hs.step hbody, hb, hq, hnext⟩

/-- The interpreter stays inside a buffer of `n` words and ends exactly when no
truncated command is in reach. -/
theorem staysInside_iff (baseTable : BaseTable) (buf : Memory) (base n : ℕ) :
    StaysInside baseTable buf base n ↔
      ∀ b q, InReach baseTable buf n base b q → ¬Truncated buf n b q := by
  refine ⟨?_, staysInside_of_noTruncated⟩
  intro h b q hq htr
  obtain ⟨s, hs, rfl, rfl, hat⟩ := exists_reaches_of_inReach hq
  have hsize := hat.size
  have hlt := htr.1
  obtain ⟨hret, hne⟩ := @cmdRound_of_truncated baseTable _ _ _ htr hat.size
  exact hne (h.consumed s _ hs (cmdBody_of_ok (by omega) hret)).2

/-- A continuous write of one value whose value is missing is taken nevertheless. -/
theorem missingValue_not_staysInside :
    ¬StaysInside [] (fun _ => headerWord 1 (CdmCommand.id .regCont)) 0x1000 2 := by
  intro h
  have := h.reads _ .refl (by decide) 2 (by decide +kernel)
  exact absurd this (by decide)

end CameraKernel.CdmUtil
