import CameraKernel.Errno

/-! The two read paths of the CCI: at once, and burst by burst as the FIFO fills. Both skip
the slave id and store the bytes behind it. -/
namespace CameraKernel.CciRead

def masterMax : ℤ := 2
def readMaxRetries : ℕ := 3
def maxModes : ℤ := 4
def typeMax : ℕ := 5
def readMax : ℕ := 256
def maxRead : ℕ := 8192

/-- `cam_cci_read_bytes` has checked the number of bytes. -/
structure ReadCfg where
  numByte : ℕ
  addrType : ℕ
  dataNull : Bool
  pos : 1 ≤ numByte
  le : numByte ≤ maxRead

structure CciInfo where
  cciI2cMaster : ℤ
  i2cFreqMode : ℤ
  retries : ℕ
  deriving DecidableEq, Repr

/-- How a check of the command queue ends: there is room, or behind a report that times out
or finds the master's status. -/
inductive Validated
  | room
  | timedOut
  | reported (nack : Bool)
  deriving DecidableEq, Repr

def Validated.rc : Validated → ℤ
  | room => 0
  | timedOut => -Errno.ETIMEDOUT
  | reported nack => if nack then -Errno.EINVAL else 0

/-- What the hardware does in a call. Waits are the time left, 0 for none. `fifo` is what a
plain read finds behind `rd_done`, `reports` what a burst read finds at each threshold. -/
structure Hardware where
  validated : Validated
  written : ℕ → Validated
  rdDone : ℕ
  nack : Bool
  resetComplete : ℕ
  fifo : List UInt32
  reports : List (List UInt32)

/-- Where the loop that empties the FIFO stands, and its stores to `data[]`. -/
structure Drain where
  index : ℕ
  firstByte : Bool
  stores : List (ℕ × UInt8)
  deriving DecidableEq, Repr

def drainStart : Drain := ⟨0, false, []⟩

def wordBytes (val : UInt32) : List UInt8 :=
  (List.range 4).map fun i => (val >>> UInt32.ofNat (i * 8) &&& 0xFF).toUInt8

def takeByte (numByte : ℕ) (s : Drain) (b : UInt8) : Drain :=
  if s.index < numByte then
    if !s.firstByte then { s with firstByte := true }
    else { s with index := s.index + 1, stores := s.stores ++ [(s.index, b)] }
  else s

def takeWords (numByte : ℕ) (s : Drain) (ws : List UInt32) : Drain :=
  ws.foldl (fun s val => (wordBytes val).foldl (takeByte numByte) s) s

def expWords (numByte : ℕ) : ℕ := numByte / 4 + 1

/-- The loop over the thresholds; when no more come, the wait for one ends it. -/
def burstLoop (numByte rdDone : ℕ) : List (List UInt32) → ℕ → Drain → ℤ × Drain
  | [], _, s => (-Errno.ETIMEDOUT, s)
  | ws :: rest, totalReadWords, s =>
    if ws.length = 0 then burstLoop numByte rdDone rest totalReadWords s
    else
      let s := takeWords numByte s ws
      if totalReadWords + ws.length = expWords numByte then
        if rdDone = 0 then (-Errno.ETIMEDOUT, s) else (0, s)
      else burstLoop numByte rdDone rest (totalReadWords + ws.length) s

/-- The words written to the command queue, the first that fails ends them. -/
def writeQueue (written : ℕ → Validated) (ks : List ℕ) : ℤ :=
  ks.foldl (fun rc k => if rc < 0 then rc else (written k).rc) 0

/-- `cam_cci_burst_read`: what it returns and stores. -/
def camCciBurstRead (info : CciInfo) (cfg : ReadCfg) (hw : Hardware) : ℤ × List (ℕ × UInt8) :=
  if masterMax ≤ info.cciI2cMaster ∨ info.cciI2cMaster < 0 then (-Errno.EINVAL, [])
  else if maxModes ≤ info.i2cFreqMode ∨ info.i2cFreqMode < 0 then (-Errno.EINVAL, [])
  else
    let rc := hw.validated.rc
    if rc < 0 then (rc, [])
    else if readMaxRetries < info.retries then (rc, [])
    else if cfg.dataNull then (rc, [])
    else if typeMax ≤ cfg.addrType then (-Errno.EINVAL, [])
    else
      let rc := writeQueue hw.written [0, 1, 2, 3, 4]
      if rc < 0 then (rc, [])
      else
        let r := burstLoop cfg.numByte hw.rdDone hw.reports 0 drainStart
        (r.1, r.2.stores)

/-- `cam_cci_read`. A NACK whose reset is not acknowledged is only printed. -/
def camCciRead (info : CciInfo) (cfg : ReadCfg) (hw : Hardware) : ℤ × List (ℕ × UInt8) :=
  if masterMax ≤ info.cciI2cMaster ∨ info.cciI2cMaster < 0 then (-Errno.EINVAL, [])
  else if maxModes ≤ info.i2cFreqMode ∨ info.i2cFreqMode < 0 then (-Errno.EINVAL, [])
  else
    let rc := hw.validated.rc
    if rc < 0 then (rc, [])
    else if readMaxRetries < info.retries then (rc, [])
    else if cfg.dataNull then (rc, [])
    else
      let rc := writeQueue hw.written [0, 1]
      if rc < 0 then (rc, [])
      else if typeMax ≤ cfg.addrType then (-Errno.EINVAL, [])
      else
        let rc := writeQueue hw.written [2, 3, 4]
        if rc < 0 then (rc, [])
        else if hw.rdDone = 0 then (-Errno.ETIMEDOUT, [])
        else
          let rc : ℤ := if hw.nack then if hw.resetComplete = 0 then hw.resetComplete else 0 else 0
          if hw.fifo.length ≠ expWords cfg.numByte then
            (-Errno.EINVAL, (List.range cfg.numByte).map fun i => (i, 0))
          else (rc, (takeWords cfg.numByte drainStart hw.fifo).stores)

/-- The two paths; `cam_cci_read_bytes` chooses by the number of bytes, which one pass of its
loop covers. -/
inductive Path
  | read
  | burst
  deriving DecidableEq, Repr

def Path.run : Path → CciInfo → ReadCfg → Hardware → ℤ × List (ℕ × UInt8)
  | read => camCciRead
  | burst => camCciBurstRead

/-- The words the FIFO gave the path. -/
def Path.stream (hw : Hardware) : Path → List UInt32
  | read => hw.fifo
  | burst => hw.reports.flatten

def Path.ofNumByte (numByte : ℕ) : Path := if readMax ≤ numByte then .burst else .read

def camCciReadBytes (info : CciInfo) (cfg : ReadCfg) (hw : Hardware) : ℤ × List (ℕ × UInt8) :=
  (Path.ofNumByte cfg.numByte).run info cfg hw

/-- The bytes behind the slave id, each at its place. -/
def wanted (numByte : ℕ) (ws : List UInt32) : List (ℕ × UInt8) :=
  (List.range numByte).map fun i => (i, (ws.flatMap wordBytes).getD (i + 1) 0)

structure Delivers (path : Path) (info : CciInfo) (cfg : ReadCfg) (hw : Hardware) : Prop where
  stored : (path.run info cfg hw).1 = 0 → (path.run info cfg hw).2 = wanted cfg.numByte (path.stream hw)
  inside : ∀ s ∈ (path.run info cfg hw).2, s.1 < cfg.numByte
  fails : (path.run info cfg hw).2 = [] → (path.run info cfg hw).1 ≠ 0

/-- The call gets to the checks whose branches leave `rc` as it is. -/
def accepted (info : CciInfo) (hw : Hardware) : Prop :=
  0 ≤ info.cciI2cMaster ∧ info.cciI2cMaster < masterMax ∧ 0 ≤ info.i2cFreqMode ∧
    info.i2cFreqMode < maxModes ∧ 0 ≤ hw.validated.rc

variable {numByte : ℕ} {s : Drain} {bs : List UInt8} {ws : List UInt32}

/-- After these bytes of the FIFO. -/
structure Took (numByte : ℕ) (bs : List UInt8) (s : Drain) : Prop where
  firstByte : s.firstByte = !bs.isEmpty
  index : s.index = min numByte (bs.length - 1)
  stores : s.stores = (List.range s.index).map fun i => (i, bs.getD (i + 1) 0)

lemma drainStart_took (numByte : ℕ) :
    Took numByte (([] : List UInt32).flatMap wordBytes) drainStart := ⟨rfl, by simp [drainStart], rfl⟩

lemma getD_append_lt {i : ℕ} (h : i < bs.length) (b : UInt8) :
    (bs ++ [b]).getD i 0 = bs.getD i 0 := by
  rw [List.getD_eq_getElem?_getD, List.getD_eq_getElem?_getD, List.getElem?_append_left h]

lemma takeByte_took (hpos : 1 ≤ numByte) (h : Took numByte bs s) (b : UInt8) :
    Took numByte (bs ++ [b]) (takeByte numByte s b) := by
  have hindex := h.index
  have hkeep : s.stores = (List.range s.index).map fun i => (i, (bs ++ [b]).getD (i + 1) 0) := by
    rw [h.stores]
    refine List.map_congr_left fun i hi => ?_
    have hi := List.mem_range.1 hi
    rw [getD_append_lt (by omega)]
  cases hbs : bs with
  | nil =>
    -- The slave id.
    subst hbs
    have hi0 : s.index = 0 := by simpa using hindex
    have hfirst : s.firstByte = false := h.firstByte
    rw [takeByte, if_pos (by omega), if_pos (by simp [hfirst])]
    exact ⟨rfl, by simp [hi0], hkeep⟩
  | cons a rest =>
    rw [← hbs]
    have hlen : 1 ≤ bs.length := by simp [hbs]
    have hfirst : s.firstByte = true := by rw [h.firstByte, hbs]; rfl
    by_cases hlt : s.index < numByte
    · have hi : s.index + 1 = bs.length := by omega
      rw [takeByte, if_pos hlt, if_neg (by simp [hfirst])]
      refine ⟨by simp [hfirst], ?_, ?_⟩
      · simp only [List.length_append, List.length_singleton]
        omega
      · have hlast : (bs ++ [b]).getD (s.index + 1) 0 = b := by
          rw [hi, List.getD_eq_getElem?_getD, List.getElem?_concat_length]
          rfl
        simp only [List.range_succ, List.map_append, List.map_singleton, hlast, ← hkeep]
    · rw [takeByte, if_neg hlt]
      refine ⟨by simp [hfirst], ?_, hkeep⟩
      simp only [List.length_append, List.length_singleton]
      omega

lemma takeBytes_took (hpos : 1 ≤ numByte) (h : Took numByte bs s) (more : List UInt8) :
    Took numByte (bs ++ more) (more.foldl (takeByte numByte) s) := by
  induction more generalizing bs s with
  | nil => simpa using h
  | cons b more ih =>
    have := ih (takeByte_took hpos h b)
    rwa [List.append_assoc, List.singleton_append] at this

lemma takeWords_took (hpos : 1 ≤ numByte) (h : Took numByte (ws.flatMap wordBytes) s)
    (more : List UInt32) :
    Took numByte ((ws ++ more).flatMap wordBytes) (takeWords numByte s more) := by
  induction more generalizing ws s with
  | nil => simpa [takeWords] using h
  | cons val more ih =>
    have hval := takeBytes_took hpos h (wordBytes val)
    have hws : ws.flatMap wordBytes ++ wordBytes val = (ws ++ [val]).flatMap wordBytes := by simp
    rw [hws] at hval
    have := ih hval
    rwa [List.append_assoc, List.singleton_append] at this

lemma length_flatMap_wordBytes (ws : List UInt32) : (ws.flatMap wordBytes).length = 4 * ws.length := by
  induction ws with
  | nil => rfl
  | cons val ws ih =>
    rw [List.flatMap_cons, List.length_append, ih, wordBytes, List.length_map, List.length_range,
      List.length_cons]
    omega

lemma Took.wanted (h : Took numByte (ws.flatMap wordBytes) s) (hlen : ws.length = expWords numByte) :
    s.stores = wanted numByte ws := by
  have hindex : s.index = numByte := by
    rw [h.index, length_flatMap_wordBytes, hlen, expWords]
    omega
  rw [h.stores, hindex, CciRead.wanted]

lemma Took.inside (h : Took numByte bs s) : ∀ q ∈ s.stores, q.1 < numByte := by
  intro q hq
  rw [h.stores] at hq
  obtain ⟨i, hi, rfl⟩ := List.mem_map.1 hq
  have := List.mem_range.1 hi
  have := h.index
  simp only
  omega

lemma burstLoop_spec (hpos : 1 ≤ numByte) (rdDone : ℕ) (reports : List (List UInt32))
    (h : Took numByte (ws.flatMap wordBytes) s) :
    (∀ q ∈ (burstLoop numByte rdDone reports ws.length s).2.stores, q.1 < numByte) ∧
      ((burstLoop numByte rdDone reports ws.length s).1 = 0 → ∃ taken left, reports = taken ++ left ∧
        (ws ++ taken.flatten).length = expWords numByte ∧
        (burstLoop numByte rdDone reports ws.length s).2.stores =
          wanted numByte (ws ++ taken.flatten)) := by
  induction reports generalizing ws s with
  | nil => exact ⟨h.inside, fun h0 => absurd h0 (by simp [burstLoop, Errno.ETIMEDOUT])⟩
  | cons report rest ih =>
    rw [burstLoop]
    by_cases hempty : report.length = 0
    · rw [if_pos hempty]
      refine ⟨(ih h).1, fun h0 => ?_⟩
      obtain ⟨taken, left, hrest, hlen, hstores⟩ := (ih h).2 h0
      refine ⟨report :: taken, left, by rw [hrest]; rfl, ?_⟩
      rw [List.flatten_cons, List.length_eq_zero_iff.1 hempty, List.nil_append]
      exact ⟨hlen, hstores⟩
    · rw [if_neg hempty]
      have htook := takeWords_took hpos h report
      by_cases hall : ws.length + report.length = expWords numByte
      · simp only [if_pos hall]
        by_cases hdone : rdDone = 0
        · rw [if_pos hdone]
          exact ⟨htook.inside, fun h0 => absurd h0 (by simp [Errno.ETIMEDOUT])⟩
        · rw [if_neg hdone]
          have hlen : (ws ++ report).length = expWords numByte := by rwa [List.length_append]
          exact ⟨htook.inside, fun _ => ⟨[report], rest, rfl, by simpa using hlen,
            by simpa using htook.wanted hlen⟩⟩
      · simp only [if_neg hall]
        rw [← List.length_append]
        refine ⟨(ih htook).1, fun h0 => ?_⟩
        obtain ⟨taken, left, hrest, hlen, hstores⟩ := (ih htook).2 h0
        refine ⟨report :: taken, left, by rw [hrest]; rfl, ?_⟩
        rw [List.flatten_cons, ← List.append_assoc]
        exact ⟨hlen, hstores⟩

variable {path : Path} {info : CciInfo} {cfg : ReadCfg} {hw : Hardware}

lemma Validated.rc_cases (v : Validated) : v.rc = 0 ∨ v.rc < 0 := by
  cases v with
  | room => exact .inl rfl
  | timedOut => exact .inr (by decide)
  | reported nack =>
    cases nack with
    | true => exact .inr (by decide)
    | false => exact .inl rfl

lemma Delivers.of_failed {rc : ℤ} (h : path.run info cfg hw = (rc, [])) (hrc : rc ≠ 0) :
    Delivers path info cfg hw := by
  refine ⟨fun h0 => ?_, ?_, fun _ => ?_⟩
  · rw [h] at h0
    exact absurd h0 hrc
  · rw [h]
    simp
  · rw [h]
    exact hrc

lemma wanted_append (hlen : ws.length = expWords numByte) (more : List UInt32) :
    wanted numByte (ws ++ more) = wanted numByte ws := by
  refine List.map_congr_left fun i hi => ?_
  have hi := List.mem_range.1 hi
  have hbytes : (ws.flatMap wordBytes).length = 4 * expWords numByte := by
    rw [length_flatMap_wordBytes, hlen]
  rw [List.flatMap_append, List.getD_eq_getElem?_getD, List.getD_eq_getElem?_getD,
    List.getElem?_append_left (by rw [hbytes, expWords]; omega)]

lemma wanted_ne_nil (cfg : ReadCfg) (ws : List UInt32) : wanted cfg.numByte ws ≠ [] := by
  have := cfg.pos
  simp [wanted]
  omega

lemma Delivers.of_stored {rc : ℤ} {stores : List (ℕ × UInt8)}
    (h : path.run info cfg hw = (rc, stores)) (hstored : rc = 0 → stores = wanted cfg.numByte (path.stream hw))
    (hinside : ∀ q ∈ stores, q.1 < cfg.numByte) : Delivers path info cfg hw := by
  refine ⟨fun h0 => ?_, ?_, fun hnil h0 => ?_⟩
  · rw [h] at h0 ⊢
    exact hstored h0
  · rw [h]
    exact hinside
  · rw [h] at h0 hnil
    exact wanted_ne_nil cfg _ ((hstored h0).symm.trans hnil)

variable (path cfg) in
lemma run_of_not_accepted (h : ¬ accepted info hw) :
    ∃ rc, rc ≠ 0 ∧ path.run info cfg hw = (rc, []) := by
  have hinval : -Errno.EINVAL ≠ 0 := by decide
  by_cases hmaster : masterMax ≤ info.cciI2cMaster ∨ info.cciI2cMaster < 0
  · refine ⟨_, hinval, ?_⟩
    cases path
    · exact if_pos hmaster
    · exact if_pos hmaster
  by_cases hmode : maxModes ≤ info.i2cFreqMode ∨ info.i2cFreqMode < 0
  · refine ⟨_, hinval, ?_⟩
    cases path
    · exact (if_neg hmaster).trans (if_pos hmode)
    · exact (if_neg hmaster).trans (if_pos hmode)
  have hrc : hw.validated.rc < 0 := by
    by_contra hrc
    rw [accepted] at h
    omega
  refine ⟨hw.validated.rc, by omega, ?_⟩
  cases path
  · exact (if_neg hmaster).trans ((if_neg hmode).trans (if_pos hrc))
  · exact (if_neg hmaster).trans ((if_neg hmode).trans (if_pos hrc))

lemma accepted.master (h : accepted info hw) :
    ¬ (masterMax ≤ info.cciI2cMaster ∨ info.cciI2cMaster < 0) := by
  have := h.1
  have := h.2.1
  omega

lemma accepted.mode (h : accepted info hw) :
    ¬ (maxModes ≤ info.i2cFreqMode ∨ info.i2cFreqMode < 0) := by
  have := h.2.2.1
  have := h.2.2.2.1
  omega

lemma accepted.rc (h : accepted info hw) : hw.validated.rc = 0 := by
  rcases hw.validated.rc_cases with h0 | hneg
  · exact h0
  · have := h.2.2.2.2
    omega

lemma run_of_rejected (h : accepted info hw)
    (hrej : readMaxRetries < info.retries ∨ cfg.dataNull = true) : path.run info cfg hw = (0, []) := by
  have hrc := h.rc
  cases path <;> simp only [Path.run, camCciRead, camCciBurstRead, if_neg h.master, if_neg h.mode, hrc,
    lt_irrefl, if_false] <;>
    · by_cases hretries : readMaxRetries < info.retries
      · rw [if_pos hretries]
      · rw [if_neg hretries, if_pos (hrej.resolve_left hretries)]

lemma camCciRead_delivers (h : accepted info hw) (hretries : ¬ readMaxRetries < info.retries)
    (hdata : ¬ cfg.dataNull = true) : Delivers .read info cfg hw := by
  have hrun : Path.run .read info cfg hw =
      if writeQueue hw.written [0, 1] < 0 then (writeQueue hw.written [0, 1], [])
      else if typeMax ≤ cfg.addrType then (-Errno.EINVAL, [])
      else if writeQueue hw.written [2, 3, 4] < 0 then (writeQueue hw.written [2, 3, 4], [])
      else if hw.rdDone = 0 then (-Errno.ETIMEDOUT, [])
      else if hw.fifo.length ≠ expWords cfg.numByte then
        (-Errno.EINVAL, (List.range cfg.numByte).map fun i => (i, 0))
      else (if hw.nack then if hw.resetComplete = 0 then hw.resetComplete else 0 else 0,
        (takeWords cfg.numByte drainStart hw.fifo).stores) := by
    simp only [Path.run, camCciRead, if_neg h.master, if_neg h.mode, h.rc, lt_irrefl, if_false,
      if_neg hretries, if_neg hdata]
  by_cases hfirst : writeQueue hw.written [0, 1] < 0
  · exact .of_failed (hrun.trans (if_pos hfirst)) (by omega)
  rw [if_neg hfirst] at hrun
  by_cases htype : typeMax ≤ cfg.addrType
  · exact .of_failed (hrun.trans (if_pos htype)) (by decide)
  rw [if_neg htype] at hrun
  by_cases hrest : writeQueue hw.written [2, 3, 4] < 0
  · exact .of_failed (hrun.trans (if_pos hrest)) (by omega)
  rw [if_neg hrest] at hrun
  by_cases hdone : hw.rdDone = 0
  · exact .of_failed (hrun.trans (if_pos hdone)) (by decide)
  rw [if_neg hdone] at hrun
  by_cases hlevel : hw.fifo.length ≠ expWords cfg.numByte
  · refine .of_stored (hrun.trans (if_pos hlevel)) (fun h0 => absurd h0 (by decide)) ?_
    intro q hq
    obtain ⟨i, hi, rfl⟩ := List.mem_map.1 hq
    exact List.mem_range.1 hi
  · rw [if_neg hlevel] at hrun
    have htook := takeWords_took cfg.pos (drainStart_took cfg.numByte) hw.fifo
    exact .of_stored hrun (fun _ => htook.wanted (not_not.1 hlevel)) htook.inside

lemma camCciBurstRead_delivers (h : accepted info hw) (hretries : ¬ readMaxRetries < info.retries)
    (hdata : ¬ cfg.dataNull = true) : Delivers .burst info cfg hw := by
  have hrun : Path.run .burst info cfg hw =
      if typeMax ≤ cfg.addrType then (-Errno.EINVAL, [])
      else if writeQueue hw.written [0, 1, 2, 3, 4] < 0 then
        (writeQueue hw.written [0, 1, 2, 3, 4], [])
      else ((burstLoop cfg.numByte hw.rdDone hw.reports 0 drainStart).1,
        (burstLoop cfg.numByte hw.rdDone hw.reports 0 drainStart).2.stores) := by
    simp only [Path.run, camCciBurstRead, if_neg h.master, if_neg h.mode, h.rc, lt_irrefl, if_false,
      if_neg hretries, if_neg hdata]
  by_cases htype : typeMax ≤ cfg.addrType
  · exact .of_failed (hrun.trans (if_pos htype)) (by decide)
  rw [if_neg htype] at hrun
  by_cases hwrite : writeQueue hw.written [0, 1, 2, 3, 4] < 0
  · exact .of_failed (hrun.trans (if_pos hwrite)) (by omega)
  rw [if_neg hwrite] at hrun
  obtain ⟨hinside, hstored⟩ := burstLoop_spec cfg.pos hw.rdDone hw.reports
    (drainStart_took cfg.numByte)
  refine .of_stored hrun (fun h0 => ?_) hinside
  obtain ⟨taken, left, hreports, hlen, hstores⟩ := hstored h0
  rw [List.nil_append] at hlen hstores
  have hstream : Path.stream hw .burst = taken.flatten ++ left.flatten := by
    rw [Path.stream, hreports, List.flatten_append]
  rw [hstream, wanted_append hlen]
  exact hstores

lemma delivers_of (h : accepted info hw → info.retries ≤ readMaxRetries ∧ cfg.dataNull = false) :
    Delivers path info cfg hw := by
  by_cases hacc : accepted info hw
  · obtain ⟨hretries, hdata⟩ := h hacc
    cases path with
    | read => exact camCciRead_delivers hacc (by omega) (by simp [hdata])
    | burst => exact camCciBurstRead_delivers hacc (by omega) (by simp [hdata])
  · obtain ⟨rc, hrc, hrun⟩ := run_of_not_accepted path cfg hacc
    exact .of_failed hrun hrc

theorem delivers_iff (path : Path) (info : CciInfo) (cfg : ReadCfg) (hw : Hardware) :
    Delivers path info cfg hw ↔
      (accepted info hw → info.retries ≤ readMaxRetries ∧ cfg.dataNull = false) := by
  constructor
  · intro h hacc
    by_contra hrej
    have hrun : path.run info cfg hw = (0, []) := run_of_rejected hacc (by
      by_cases hretries : readMaxRetries < info.retries
      · exact .inl hretries
      · right
        by_contra hdata
        exact hrej ⟨by omega, by simpa using hdata⟩)
    exact h.fails (by rw [hrun]) (by rw [hrun])
  · exact delivers_of

theorem camCciReadBytes_stored (h : info.retries ≤ readMaxRetries) (hdata : cfg.dataNull = false)
    (h0 : (camCciReadBytes info cfg hw).1 = 0) : (camCciReadBytes info cfg hw).2 =
      wanted cfg.numByte ((Path.ofNumByte cfg.numByte).stream hw) := by
  exact (delivers_of fun _ => ⟨h, hdata⟩ : Delivers _ info cfg hw).stored h0

theorem Delivers.agree (hr : Delivers .read info cfg hw) (hb : Delivers .burst info cfg hw)
    (hstream : hw.fifo = hw.reports.flatten) (hr0 : (camCciRead info cfg hw).1 = 0)
    (hb0 : (camCciBurstRead info cfg hw).1 = 0) :
    (camCciRead info cfg hw).2 = (camCciBurstRead info cfg hw).2 := by
  have hread := hr.stored hr0
  have hburst := hb.stored hb0
  rw [Path.stream, hstream] at hread
  exact hread.trans hburst.symm

/-- Four bytes, more retries than allowed. -/
def fourBytes : ReadCfg := ⟨4, 2, false, by decide, by decide⟩

def idleHw : Hardware := ⟨.room, fun _ => .room, 1, false, 1, [0x04030201, 0x05], [[0x04030201, 0x05]]⟩

/-- Four retries are more than a read may ask for: it stores nothing and returns 0. -/
theorem manyRetries_not_delivers : ¬ Delivers .read ⟨0, 0, 4⟩ fourBytes idleHw := by
  intro h
  exact h.fails (by decide +kernel) (by decide +kernel)

end CameraKernel.CciRead
