import CameraKernel.SensorCommands

/-! Where the parser of sensor command buffers does what its commands say. -/
namespace CameraKernel.SensorUtil
open MachineInt
open GenericBlob (Memory readWord)

/-- A round consumes the command that stands at the next place of the buffer. -/
structure Consumes (d : CmdDesc) (s t : ParseState) (c : Command) : Prop where
  place : s.cmdBuf = d.offset.toNat + s.byteCnt
  command : commandAt d.mem s.cmdBuf = some c
  inside : s.cmdBuf + c.size ≤ d.lenOfBuff
  cmdBuf : t.cmdBuf = s.cmdBuf + c.size
  byteCnt : t.byteCnt = s.byteCnt + c.size

/-- Entry lists for the buffers in turn. -/
inductive Lists : List CmdDesc → List I2cSettings → Prop
  | nil : Lists [] []
  | cons {d : CmdDesc} {ds : List CmdDesc} {cs : List Command} {xs ys : List I2cSettings}
      (hcs : Stream d.mem (d.offset.toNat + d.length.toNat) d.offset.toNat cs)
      (hxs : settingsOf cs = some xs) (hys : Lists ds ys) : Lists (d :: ds) (xs ++ ys)

structure ParsesExactly (alloc : Allocator) (a : I2cSettingsArray) (ds : List CmdDesc) : Prop where
  terminates : ∃ ret b, CamSensorI2cCommandParser alloc 0 a ds ret b
  reads : ∀ d s, EntersLoop alloc a ds d s →
    ∀ r ∈ (afterRound (descBody alloc d s)).reads, r.1 + r.2 ≤ d.lenOfBuff
  consumes : ∀ d s t, EntersLoop alloc a ds d s → descBody alloc d s = .inr t →
    ∃ c, Consumes d s t c
  settings : ∀ b, CamSensorI2cCommandParser alloc 0 a ds 0 b →
    ∃ xs, Lists ds xs ∧ b.listHead = a.listHead ++ xs

/-- After the commands `cs` the parser takes the command `c` at place `pos`. -/
def Takes (d : CmdDesc) (cs : List Command) (pos : ℕ) (c : Command) : Prop :=
  pos < d.length.toNat ∧ commandAt d.mem (4 * (d.offset.toNat / 4) + pos) = some c ∧
    pos + c.checked ≤ d.lenOfBuff - d.offset.toNat ∧
    (∀ op addrType dataType, c ≠ .write op addrType dataType []) ∧
    (c.isWait = true → cs.any Command.isTarget = true)

/-- The command is where it should be, its size fits the half word it is kept in, it ends
inside the mapping, and the position behind it fits a word. -/
def Fits (d : CmdDesc) (pos : ℕ) (c : Command) : Prop :=
  4 ∣ d.offset.toNat ∧ c.size < 0x10000 ∧ pos + c.size ≤ d.lenOfBuff - d.offset.toNat ∧
    pos + c.size ≤ u32Max

/-- The parser comes to place `pos` after the commands `cs`, all of which fit. -/
inductive Walk (d : CmdDesc) : ℕ → List Command → Prop
  | start : Walk d 0 []
  | next {pos : ℕ} {cs : List Command} {c : Command} (h : Walk d pos cs) (ht : Takes d cs pos c)
      (hf : Fits d pos c) : Walk d (pos + c.size) (cs ++ [c])

/-- Every command taken from the buffer fits. -/
def Sound (d : CmdDesc) : Prop := ∀ pos cs c, Walk d pos cs → Takes d cs pos c → Fits d pos c

/-- The parser takes all of the buffer, and `cs` are its commands. -/
def Accepts (d : CmdDesc) (cs : List Command) : Prop :=
  (d.length = 0 ∧ cs = []) ∨
    (d.length ≠ 0 ∧ checkDesc d = none ∧ ∃ pos, Walk d pos cs ∧ d.length.toNat ≤ pos)

/-- The commands can be told by a settings list: each delay has a write of its own to go
to, and no poll has a data mask. -/
def Tellable (cs : List Command) : Prop :=
  (Listed.ofCommands cs).isSome ∧
    ∀ addrType dataType regAddr regData timeout dataMask,
      .poll addrType dataType regAddr regData timeout dataMask ∈ cs → dataMask = 0

/-- The buffers the parser comes to, when no allocation but for empty writes fails, are
sound. -/
def AllSound : List CmdDesc → Prop
  | [] => True
  | d :: ds => (d.length ≠ 0 → checkDesc d = none → Sound d) ∧
      ((∃ cs, Accepts d cs) → AllSound ds)

/-! ### The settings list -/

namespace Listed

lemma modify_append_left {α : Type*} {xs ys : List α} {f : α → α} {i : ℕ} (h : i < xs.length) :
    (xs ++ ys).modify i f = xs.modify i f ++ ys := by
  induction xs generalizing i with
  | nil => cases h
  | cons x xs ih =>
    cases i with
    | zero => rfl
    | succ i => simp [ih (Nat.lt_of_succ_lt_succ h)]

lemma modify_append_right {α : Type*} (xs ys : List α) (f : α → α) (i : ℕ) :
    (xs ++ ys).modify (xs.length + i) f = xs ++ ys.modify i f := by
  induction xs with
  | nil => simp
  | cons x xs ih => simpa [Nat.add_right_comm] using ih

/-- The entry as the parser stores it. -/
def stored (e : Listed) : I2cSettings := settings { e with cmd := e.cmd.unmasked }

/-- The entries in the order of the list. -/
def storedList (es : List Listed) : List I2cSettings := (es.map stored).reverse

/-- The entry a delay goes to, by its place in the list, and its number of registers. -/
def newest : List Listed → Option (ℕ × ℕ)
  | [] => none
  | e :: es =>
    match e.cmd with
    | .write _ _ _ regs => some (es.length, regs.length)
    | .poll .. => some (es.length, 1)
    | _ => newest es

lemma newest_lt {es : List Listed} {i n : ℕ} (h : newest es = some (i, n)) : i < es.length := by
  induction es with
  | nil => cases h
  | cons e es ih =>
    rw [newest] at h
    split at h
    · cases h
      exact Nat.lt_succ_self _
    · cases h
      exact Nat.lt_succ_self _
    · exact (ih h).trans (Nat.lt_succ_self _)

lemma length_storedList (es : List Listed) : (storedList es).length = es.length := by
  simp [storedList]

lemma storedList_cons (e : Listed) (es : List Listed) :
    storedList (e :: es) = storedList es ++ [stored e] := by
  simp [storedList]

/-- A slot fills its entry in as `f` does, which may depend on the number of registers. -/
def Fills (slot : Listed → Option Listed) (f : ℕ → I2cSettings → I2cSettings) : Prop :=
  ∀ e e' op addrType dataType regs, e.cmd = .write op addrType dataType regs → slot e = some e' →
    e'.cmd = e.cmd ∧ stored e' = f regs.length (stored e)

lemma fills_setHw (n : ℕ) : Fills (setHw n) fun k entry => entry.setHwDelay (k - 1) n := by
  rintro ⟨c, hw, sw⟩ e' op addrType dataType rs rfl h
  rw [setHw] at h
  split_ifs at h with hhw
  cases h
  cases hhw
  cases sw <;> simp [stored, Command.unmasked, settings, base, regs, I2cSettings.setHwDelay,
    I2cSettings.setSwDelay]

lemma fills_setSw (n : ℕ) : Fills (setSw n) fun _ entry => entry.setSwDelay n := by
  rintro ⟨c, hw, sw⟩ e' op addrType dataType rs rfl h
  rw [setSw] at h
  split_ifs at h with hsw
  cases h
  cases hsw
  cases hw <;> simp [stored, Command.unmasked, settings, I2cSettings.setSwDelay]

lemma attach_spec {slot : Listed → Option Listed} {f : ℕ → I2cSettings → I2cSettings}
    (hslot : Fills slot f) {es es' : List Listed} (h : attach slot es = some es') :
    ∃ i n, newest es = some (i, n) ∧ newest es' = some (i, n) ∧
      storedList es' = (storedList es).modify i (f n) ∧ es'.map cmd = es.map cmd := by
  induction es generalizing es' with
  | nil => cases h
  | cons e es ih =>
    rw [attach] at h
    cases hcmd : e.cmd with
    | write op addrType dataType regs =>
      simp only [hcmd, Option.map_eq_some_iff] at h
      obtain ⟨e', he', rfl⟩ := h
      obtain ⟨hsame, hstored⟩ := hslot e e' op addrType dataType regs hcmd he'
      refine ⟨es.length, regs.length, by simp [newest, hcmd], by simp [newest, hsame, hcmd], ?_, by simp [hsame]⟩
      have hmod := modify_append_right (storedList es) [stored e] (f regs.length) 0
      rw [Nat.add_zero, length_storedList] at hmod
      rw [storedList_cons, storedList_cons, hmod, hstored]
      rfl
    | info slaveAddr i2cFreqMode =>
      simp only [hcmd, Option.map_eq_some_iff] at h
      obtain ⟨es₁, hes₁, rfl⟩ := h
      obtain ⟨i, n, hnew, hnew', hlist, hcmds⟩ := ih hes₁
      refine ⟨i, n, by simp [newest, hcmd, hnew], by simp [newest, hcmd, hnew'], ?_, by simp [hcmds]⟩
      rw [storedList_cons, storedList_cons, hlist,
        modify_append_left (by rw [length_storedList]; exact newest_lt hnew)]
    | hwWait n => simp [hcmd] at h
    | swWait n => simp [hcmd] at h
    | poll _ _ _ _ _ _ => simp [hcmd] at h

lemma ofCommands_append (cs : List Command) (c : Command) :
    ofCommands (cs ++ [c]) = (ofCommands cs).bind (add · c) := by
  simp [ofCommands, List.foldl_append]

lemma map_cmd_ofCommands {cs : List Command} {es : List Listed} (h : ofCommands cs = some es) :
    (es.map cmd).reverse = cs.filter fun c => !c.isWait := by
  induction cs using List.reverseRecOn generalizing es with
  | nil =>
    cases h
    rfl
  | append_singleton cs c ih =>
    rw [ofCommands_append, Option.bind_eq_some_iff] at h
    obtain ⟨es₁, hes₁, hadd⟩ := h
    rw [List.filter_append, ← ih hes₁]
    cases c with
    | hwWait n =>
      obtain ⟨_, _, _, _, _, hcmds⟩ := attach_spec (fills_setHw n) hadd
      simp [hcmds, Command.isWait]
    | swWait n =>
      obtain ⟨_, _, _, _, _, hcmds⟩ := attach_spec (fills_setSw n) hadd
      simp [hcmds, Command.isWait]
    | write _ _ _ _ =>
      cases hadd
      simp [Command.isWait]
    | poll _ _ _ _ _ _ =>
      cases hadd
      simp [Command.isWait]
    | info _ _ =>
      cases hadd
      simp [Command.isWait]

end Listed

/-- The array and the place of the next delay are those of the entries `es`. -/
structure Holds (front : List I2cSettings) (es : List Listed) (s : ParseState) : Prop where
  array : s.array = front ++ Listed.storedList es
  place : ∀ i n, Listed.newest es = some (i, n) → s.list = some (front.length + i) ∧ s.j = n

variable {front : List I2cSettings} {es es' : List Listed} {c : Command} {s t : ParseState}

lemma Holds.length (h : Holds front es s) : s.array.length = front.length + es.length := by
  rw [h.array, List.length_append, Listed.length_storedList]

lemma Holds.apply (h : Holds front es s) (hadd : Listed.add es c = some es') :
    Holds front es' (c.apply s) := by
  have hlen := h.length
  cases c with
  | write op addrType dataType regs =>
    cases hadd
    refine ⟨?_, ?_⟩
    · rw [Listed.storedList_cons, ← List.append_assoc, ← h.array]
      rfl
    · rintro i n hnew
      cases hnew
      exact ⟨by simp [Command.apply, ParseState.target, ParseState.append, hlen], rfl⟩
  | poll addrType dataType regAddr regData timeout dataMask =>
    cases hadd
    refine ⟨?_, ?_⟩
    · rw [Listed.storedList_cons, ← List.append_assoc, ← h.array]
      rfl
    · rintro i n hnew
      cases hnew
      exact ⟨by simp [Command.apply, ParseState.target, ParseState.append, hlen], rfl⟩
  | info slaveAddr i2cFreqMode =>
    cases hadd
    refine ⟨?_, h.place⟩
    rw [Listed.storedList_cons, ← List.append_assoc, ← h.array]
    rfl
  | hwWait n =>
    obtain ⟨i, k, hnew, hnew', hlist, -⟩ := Listed.attach_spec (Listed.fills_setHw n) hadd
    obtain ⟨hs, hj⟩ := h.place i k hnew
    refine ⟨?_, fun i' k' h' => h.place i' k' (by rw [hnew, ← hnew', h'])⟩
    rw [hlist, ← Listed.modify_append_right, ← h.array]
    simp [Command.apply, hs, hj]
  | swWait n =>
    obtain ⟨i, k, hnew, hnew', hlist, -⟩ := Listed.attach_spec (Listed.fills_setSw n) hadd
    obtain ⟨hs, hj⟩ := h.place i k hnew
    refine ⟨?_, fun i' k' h' => h.place i' k' (by rw [hnew, ← hnew', h'])⟩
    rw [hlist, ← Listed.modify_append_right, ← h.array]
    simp [Command.apply, hs]

/-! ### Along the walk -/

/-- The loop over a buffer has taken the commands `cs`. -/
structure OnWalk (d : CmdDesc) (front : List I2cSettings) (cs : List Command) (s : ParseState) :
    Prop where
  walk : Walk d s.byteCnt cs
  rc : cs ≠ [] → s.rc = 0
  ptr : s.cmdBuf = 4 * (d.offset.toNat / 4) + s.byteCnt
  reads : ∀ r ∈ s.reads, r.1 + r.2 ≤ d.lenOfBuff
  target : s.list.isSome ∧ 0 < s.j ↔ cs.any Command.isTarget = true
  holds : ∀ es, Listed.ofCommands cs = some es → Holds front es s

variable {alloc : Allocator} {d : CmdDesc} {a : I2cSettingsArray} {cs : List Command}

lemma checkDesc_none (h : checkDesc d = none) :
    d.offset.toNat + d.length.toNat ≤ d.lenOfBuff ∧ 4 ≤ d.lenOfBuff := by
  rw [checkDesc] at h
  split_ifs at h
  omega

lemma onWalk_start (d : CmdDesc) (a : I2cSettingsArray) :
    OnWalk d a.listHead [] (parseStart d a) where
  walk := .start
  rc := fun h => absurd rfl h
  ptr := rfl
  reads := by simp [parseStart]
  target := by simp [parseStart]
  holds := by
    rintro es ⟨⟩
    refine ⟨by simp [parseStart, Listed.storedList], ?_⟩
    intro i n h
    cases h

lemma Command.size_dvd (c : Command) : 4 ∣ c.size := by
  cases c with
  | write op _ _ _ => cases op <;> simp only [size] <;> omega
  | _ => simp [size]

lemma Command.four_le_size (c : Command) : 4 ≤ c.size := by
  cases c with
  | write op _ _ _ => cases op <;> simp only [size] <;> omega
  | _ => simp [size]

lemma apply_target (c : Command) (hne : ∀ op addrType dataType, c ≠ .write op addrType dataType [])
    (s : ParseState) : (c.apply s).list.isSome ∧ 0 < (c.apply s).j ↔
      (s.list.isSome ∧ 0 < s.j) ∨ c.isTarget = true := by
  cases c with
  | write op addrType dataType regs =>
    have hpos : 0 < regs.length := by
      rw [List.length_pos_iff]
      rintro rfl
      exact hne _ _ _ rfl
    simp [Command.apply, ParseState.target, Command.isTarget, hpos]
  | poll _ _ _ _ _ _ => simp [Command.apply, ParseState.target, Command.isTarget]
  | info _ _ => simp [Command.apply, ParseState.append, Command.isTarget]
  | hwWait _ => simp [Command.apply, Command.isTarget]
  | swWait _ => simp [Command.apply, Command.isTarget]

lemma apply_place (c : Command) (s : ParseState) :
    (c.apply s).cmdBuf = s.cmdBuf ∧ (c.apply s).byteCnt = s.byteCnt := by
  cases c <;> exact ⟨rfl, rfl⟩

lemma OnWalk.step (h : OnWalk d front cs s) (hcheck : checkDesc d = none)
    (hlt : s.byteCnt < d.length.toNat) (hc : commandAt d.mem s.cmdBuf = some c)
    (ht : Takeable (d.lenOfBuff - d.offset.toNat) s c) (hf : Fits d s.byteCnt c)
    {rs : List (ℕ × ℕ)} (hreads : t.reads = s.reads ++ rs)
    (hrs : ∀ r ∈ rs, r.1 + r.2 ≤ s.cmdBuf + c.size)
    (heff : t = { (c.apply s).advance (c.size % 0x10000) with
      reads := t.reads, allocs := t.allocs }) :
    OnWalk d front (cs ++ [c]) t ∧ Consumes d s t c := by
  obtain ⟨halign, hsize, hin, hmax⟩ := hf
  have hbuf := checkDesc_none hcheck
  have hptr := h.ptr
  have hchecked := ht.checked
  have hdvd := c.size_dvd
  have hbyte : t.byteCnt = s.byteCnt + c.size := by
    rw [heff]
    simp only [ParseState.advance]
    rw [(apply_place c s).2, Nat.mod_eq_of_lt hsize, u32Add_of_le hmax]
  have hcmd : t.cmdBuf = s.cmdBuf + c.size := by
    rw [heff]
    simp only [ParseState.advance]
    rw [(apply_place c s).1, Nat.mod_eq_of_lt hsize]
    omega
  have htakes : Takes d cs s.byteCnt c :=
    ⟨hlt, hptr ▸ hc, by omega, ht.nonempty, fun hw => h.target.mp (ht.target hw)⟩
  refine ⟨⟨?_, ?_, by omega, ?_, ?_, ?_⟩, ⟨by omega, hc, by omega, hcmd, hbyte⟩⟩
  · rw [hbyte]
    exact h.walk.next htakes ⟨halign, hsize, hin, hmax⟩
  · intro _
    rw [heff]
    rfl
  · rw [hreads]
    intro r hr
    rcases List.mem_append.mp hr with hr | hr
    · exact h.reads r hr
    · exact (hrs r hr).trans (by omega)
  · rw [heff]
    simp only [ParseState.advance, List.any_append, List.any_cons, List.any_nil, Bool.or_false,
      Bool.or_eq_true]
    rw [apply_target c ht.nonempty, h.target]
  · intro es hes
    rw [Listed.ofCommands_append, Option.bind_eq_some_iff] at hes
    obtain ⟨es₁, hes₁, hadd⟩ := hes
    have happly := (h.holds es₁ hes₁).apply hadd
    rw [heff]
    exact ⟨happly.array, happly.place⟩

lemma OnWalk.cases (h : OnWalk d front cs s) (hcheck : checkDesc d = none) (hsound : Sound d)
    (alloc : Allocator) :
    (d.length.toNat ≤ s.byteCnt ∧ descBody alloc d s = .inl (.finished, s)) ∨
    (∃ e t, descBody alloc d s = .inl (.relBuf e, t) ∧ e < 0 ∧
      ∀ r ∈ t.reads, r.1 + r.2 ≤ d.lenOfBuff) ∨
    ∃ c t, descBody alloc d s = .inr t ∧ OnWalk d front (cs ++ [c]) t ∧ Consumes d s t c := by
  have hbuf := checkDesc_none hcheck
  have hptr := h.ptr
  have hround := round_parseBody alloc d.mem (d.lenOfBuff - d.offset.toNat) d.length.toNat s
  obtain ⟨r, hr⟩ : ∃ r, r = descBody alloc d s := ⟨_, rfl⟩
  rw [← descBody, ← hr] at hround
  rw [← hr]
  cases hround with
  | finished hend => exact .inl ⟨hend, rfl⟩
  | refused rs hlt he hreads hrs _ =>
    refine .inr (.inl ⟨_, _, rfl, he, ?_⟩)
    rw [hreads]
    intro r hr
    rcases List.mem_append.mp hr with hr | hr
    · exact h.reads r hr
    · exact (hrs r hr).trans (by omega)
  | took rs hlt hc ht hreads hrs heff =>
    have hchecked := ht.checked
    have htakes : Takes d cs s.byteCnt _ :=
      ⟨hlt, hptr ▸ hc, by omega, ht.nonempty, fun hw => h.target.mp (ht.target hw)⟩
    have hstep := h.step hcheck hlt hc ht (hsound _ _ _ h.walk htakes) hreads hrs heff
    exact .inr (.inr ⟨_, _, rfl, hstep⟩)

lemma OnWalk.next (h : OnWalk d front cs s) (hcheck : checkDesc d = none) (hsound : Sound d)
    (hbody : descBody alloc d s = .inr t) : ∃ c, OnWalk d front (cs ++ [c]) t ∧ Consumes d s t c := by
  rcases h.cases hcheck hsound alloc with ⟨-, hend⟩ | ⟨e, u, href, -⟩ | ⟨c, u, hnext, hat⟩
  · rw [hbody] at hend
    cases hend
  · rw [hbody] at href
    cases href
  · rw [hbody] at hnext
    cases hnext
    exact ⟨c, hat⟩

lemma OnWalk.reaches (hcheck : checkDesc d = none) (hsound : Sound d)
    (h : WhileLoop.Reaches (descBody alloc d) (parseStart d a) s) :
    ∃ cs, OnWalk d a.listHead cs s := by
  induction h with
  | refl => exact ⟨[], onWalk_start d a⟩
  | step _ hbody ih =>
    obtain ⟨cs, hat⟩ := ih
    obtain ⟨c, hat', -⟩ := hat.next hcheck hsound hbody
    exact ⟨_, hat'⟩

lemma exists_returns_descBody (hcheck : checkDesc d = none) (hsound : Sound d) (alloc : Allocator)
    (a : I2cSettingsArray) :
    ∃ r, WhileLoop.Returns (descBody alloc d) (parseStart d a) r := by
  have hstep : ∀ s t, (∃ cs, OnWalk d a.listHead cs s) → descBody alloc d s = .inr t →
      (∃ cs, OnWalk d a.listHead cs t) ∧ d.length.toNat - t.byteCnt < d.length.toNat - s.byteCnt := by
    rintro s t ⟨cs, hat⟩ hbody
    have hlt : s.byteCnt < d.length.toNat := by
      by_contra hend
      rw [descBody, parseBody, if_neg hend] at hbody
      cases hbody
    obtain ⟨c, hat', hcons⟩ := hat.next hcheck hsound hbody
    have := c.four_le_size
    have := hcons.byteCnt
    exact ⟨⟨_, hat'⟩, by omega⟩
  exact WhileLoop.exists_returns _ hstep ⟨[], onWalk_start d a⟩

lemma OnWalk.returns (hcheck : checkDesc d = none) (hsound : Sound d) {exit : LoopExit}
    (h : WhileLoop.Returns (descBody alloc d) (parseStart d a) (exit, t)) :
    (∃ e < 0, exit = .relBuf e) ∨
      (exit = .finished ∧ ∃ cs, OnWalk d a.listHead cs t ∧ d.length.toNat ≤ t.byteCnt) := by
  obtain ⟨s, hs, hbody⟩ := h.exists_break
  obtain ⟨cs, hat⟩ := OnWalk.reaches hcheck hsound hs
  rcases hat.cases hcheck hsound alloc with ⟨hend, hfin⟩ | ⟨e, u, href, he, -⟩ | ⟨c, u, hnext, -⟩
  · rw [hbody] at hfin
    cases hfin
    exact .inr ⟨rfl, cs, hat, hend⟩
  · rw [hbody] at href
    cases href
    exact .inl ⟨e, he, rfl⟩
  · rw [hbody] at hnext
    cases hnext

lemma toNat_length_pos (h : d.length ≠ 0) : 0 < d.length.toNat := by
  by_contra hle
  exact h (UInt32.toNat_inj.mp (by simpa using Nat.eq_zero_of_not_pos hle))

lemma Walk.ne_nil {pos : ℕ} (h : Walk d pos cs) (hpos : 0 < pos) : cs ≠ [] := by
  cases h with
  | start => exact absurd hpos (lt_irrefl 0)
  | next => simp

lemma Walk.aligned {pos : ℕ} (h : Walk d pos cs) (hpos : 0 < pos) : 4 ∣ d.offset.toNat := by
  cases h with
  | start => exact absurd hpos (lt_irrefl 0)
  | next _ _ hf => exact hf.1

lemma OnWalk.accepts (h : OnWalk d front cs s) (hlen : d.length ≠ 0) (hcheck : checkDesc d = none)
    (hend : d.length.toNat ≤ s.byteCnt) : Accepts d cs ∧ s.rc = 0 := by
  have hpos := toNat_length_pos hlen
  exact ⟨.inr ⟨hlen, hcheck, _, h.walk, hend⟩, h.rc (h.walk.ne_nil (by omega))⟩

variable {ds : List CmdDesc} {b : I2cSettingsArray}

lemma terminates_of_allSound (h : AllSound ds) (alloc : Allocator) (a : I2cSettingsArray) :
    ∃ ret b, CamSensorI2cCommandParser alloc 0 a ds ret b := by
  induction ds generalizing a with
  | nil => exact ⟨0, a, rfl, rfl⟩
  | cons d ds ih =>
    obtain ⟨hsound, hrest⟩ := h
    by_cases hlen : d.length = 0
    · obtain ⟨ret, b, hb⟩ := ih (hrest ⟨[], .inl ⟨hlen, rfl⟩⟩) a
      exact ⟨ret, b, by rwa [CamSensorI2cCommandParser, if_pos hlen]⟩
    simp only [CamSensorI2cCommandParser, if_neg hlen]
    cases hcheck : checkDesc d with
    | some e => exact ⟨e, a, rfl, rfl⟩
    | none =>
      obtain ⟨⟨exit, s⟩, hr⟩ := exists_returns_descBody hcheck (hsound hlen hcheck) alloc a
      rcases OnWalk.returns hcheck (hsound hlen hcheck) hr with ⟨e, -, rfl⟩ | ⟨rfl, cs, hat, hend⟩
      · exact ⟨e, _, .relBuf e, s, hr, rfl, rfl⟩
      · obtain ⟨hacc, hrc⟩ := hat.accepts hlen hcheck hend
        obtain ⟨ret, b, hb⟩ := ih (hrest ⟨cs, hacc⟩) (s.settings 1)
        exact ⟨ret, b, .finished, s, hr, by rwa [hrc]⟩

lemma EntersLoop.onWalk (h : AllSound ds) {e : CmdDesc} (hs : EntersLoop alloc a ds e s) :
    checkDesc e = none ∧ Sound e ∧ ∃ front cs, OnWalk e front cs s := by
  induction ds generalizing a with
  | nil => cases hs
  | cons d ds ih =>
    obtain ⟨hsound, hrest⟩ := h
    rw [EntersLoop] at hs
    split_ifs at hs with hlen
    · exact ih (hrest ⟨[], .inl ⟨hlen, rfl⟩⟩) hs
    obtain ⟨hcheck, ⟨rfl, hreach⟩ | ⟨t, hr, hs⟩⟩ := hs
    · obtain ⟨cs, hat⟩ := OnWalk.reaches hcheck (hsound hlen hcheck) hreach
      exact ⟨hcheck, hsound hlen hcheck, _, cs, hat⟩
    · rcases OnWalk.returns hcheck (hsound hlen hcheck) hr with ⟨_, -, h⟩ | ⟨-, cs, hat, hend⟩
      · cases h
      · exact ih (hrest ⟨cs, (hat.accepts hlen hcheck hend).1⟩) hs

lemma Walk.stream {stop pos : ℕ} {cs cs' : List Command} (h : Walk d pos cs)
    (hstop : stop = d.offset.toNat + d.length.toNat)
    (hcs' : Stream d.mem stop (d.offset.toNat + pos) cs') :
    Stream d.mem stop d.offset.toNat (cs ++ cs') := by
  induction h generalizing cs' with
  | start => exact hcs'
  | @next pos cs c _ ht hf ih =>
    obtain ⟨hlt, hc, -⟩ := ht
    rw [Nat.mul_div_cancel' hf.1] at hc
    rw [List.append_assoc]
    exact ih (.cons (by omega) hc (by rwa [Nat.add_assoc]))

lemma Stream.unique {mem : Memory} {stop p : ℕ} {cs cs' : List Command} (h : Stream mem stop p cs)
    (h' : Stream mem stop p cs') : cs = cs' := by
  induction h generalizing cs' with
  | nil hend =>
    cases h' with
    | nil => rfl
    | cons hlt => omega
  | cons hlt hc _ ih =>
    cases h' with
    | nil hend => omega
    | cons _ hc' hcs' =>
      rw [hc] at hc'
      cases hc'
      rw [ih hcs']

lemma Accepts.stream (h : Accepts d cs) :
    Stream d.mem (d.offset.toNat + d.length.toNat) d.offset.toNat cs := by
  rcases h with ⟨hlen, rfl⟩ | ⟨-, -, pos, hw, hend⟩
  · exact .nil (by simp [hlen])
  · simpa using hw.stream rfl (.nil (by omega))

lemma unmasked_eq_of_tellable (h : Tellable cs) {c : Command} (hc : c ∈ cs) : c.unmasked = c := by
  cases c with
  | poll addrType dataType regAddr regData timeout dataMask =>
    rw [Command.unmasked, h.2 _ _ _ _ _ _ hc]
  | _ => rfl

lemma cmd_mem_of_ofCommands (hes : Listed.ofCommands cs = some es) {e : Listed} (he : e ∈ es) :
    e.cmd ∈ cs := by
  have hmem : e.cmd ∈ (es.map Listed.cmd).reverse :=
    List.mem_reverse.mpr (List.mem_map_of_mem he)
  rw [Listed.map_cmd_ofCommands hes] at hmem
  exact List.mem_of_mem_filter hmem

lemma exists_cmd_of_ofCommands (hes : Listed.ofCommands cs = some es) (hc : c ∈ cs)
    (hwait : c.isWait = false) : ∃ e ∈ es, e.cmd = c := by
  have hmem : c ∈ cs.filter fun c => !c.isWait := List.mem_filter.mpr ⟨hc, by simp [hwait]⟩
  rw [← Listed.map_cmd_ofCommands hes, List.mem_reverse, List.mem_map] at hmem
  exact hmem

lemma settingsOf_of_tellable (h : Tellable cs) (hes : Listed.ofCommands cs = some es) :
    settingsOf cs = some (Listed.storedList es) := by
  rw [settingsOf, hes, Option.map_some, Listed.storedList]
  congr 2
  refine List.map_congr_left fun e he => ?_
  rw [Listed.stored, unmasked_eq_of_tellable h (cmd_mem_of_ofCommands hes he)]

lemma dataMask_eq_zero {e : Listed} {addrType dataType regAddr regData timeout dataMask : ℕ}
    (he : e.cmd = .poll addrType dataType regAddr regData timeout dataMask)
    (h : e.settings = e.stored) : dataMask = 0 := by
  obtain ⟨c, hw, sw⟩ := e
  cases he
  have hmask := congrArg (fun entry => entry.regSetting.map I2cRegArray.dataMask) h
  cases hw <;> cases sw <;>
    simpa [Listed.settings, Listed.stored, Listed.base, Command.unmasked, I2cSettings.setHwDelay,
      I2cSettings.setSwDelay] using hmask

lemma tellable_of_settingsOf (hes : Listed.ofCommands cs = some es)
    (h : settingsOf cs = some (Listed.storedList es)) : Tellable cs := by
  refine ⟨by simp [hes], ?_⟩
  intro addrType dataType regAddr regData timeout dataMask hc
  obtain ⟨e, he, hcmd⟩ := exists_cmd_of_ofCommands hes hc rfl
  rw [settingsOf, hes, Option.map_some, Option.some_inj, Listed.storedList, List.reverse_inj] at h
  exact dataMask_eq_zero hcmd (List.map_inj_left.mp h e he)

lemma lists_of_allSound (h : AllSound ds) (hp : CamSensorI2cCommandParser alloc 0 a ds 0 b) :
    ∃ css, List.Forall₂ Accepts ds css ∧ ((∀ cs ∈ css, Tellable cs) →
      ∃ xs, Lists ds xs ∧ b.listHead = a.listHead ++ xs) := by
  induction ds generalizing a with
  | nil =>
    obtain ⟨-, rfl⟩ := hp
    exact ⟨[], .nil, fun _ => ⟨[], .nil, by simp⟩⟩
  | cons d ds ih =>
    obtain ⟨hsound, hrest⟩ := h
    rw [CamSensorI2cCommandParser] at hp
    split_ifs at hp with hlen
    · have hacc : Accepts d [] := .inl ⟨hlen, rfl⟩
      obtain ⟨css, hcss, hlists⟩ := ih (hrest ⟨[], hacc⟩) hp
      refine ⟨[] :: css, .cons hacc hcss, fun htell => ?_⟩
      obtain ⟨xs, hxs, hb⟩ := hlists fun cs hcs => htell cs (.tail _ hcs)
      exact ⟨xs, .cons hacc.stream rfl hxs, hb⟩
    cases hcheck : checkDesc d with
    | some e =>
      rw [hcheck] at hp
      obtain ⟨rfl, -⟩ := hp
      rw [checkDesc] at hcheck
      split_ifs at hcheck with h₁ h₂ h₃
      · exact absurd (Option.some.inj hcheck) h₁.ne
      · exact absurd (Option.some.inj hcheck) neg_EINVAL.ne
      · exact absurd (Option.some.inj hcheck) neg_EINVAL.ne
    | none =>
      rw [hcheck] at hp
      obtain ⟨exit, s, hr, hp⟩ := hp
      rcases OnWalk.returns hcheck (hsound hlen hcheck) hr with ⟨e, he, rfl⟩ | ⟨rfl, cs, hat, hend⟩
      · obtain ⟨rfl, -⟩ := hp
        exact absurd he (lt_irrefl 0)
      obtain ⟨hacc, hrc⟩ := hat.accepts hlen hcheck hend
      rw [hrc] at hp
      obtain ⟨css, hcss, hlists⟩ := ih (hrest ⟨cs, hacc⟩) hp
      refine ⟨cs :: css, .cons hacc hcss, fun htell => ?_⟩
      obtain ⟨xs, hxs, hb⟩ := hlists fun cs hcs => htell cs (.tail _ hcs)
      have hcs := htell cs (.head _)
      obtain ⟨es, hes⟩ := Option.isSome_iff_exists.mp hcs.1
      refine ⟨Listed.storedList es ++ xs, .cons hacc.stream (settingsOf_of_tellable hcs hes) hxs, ?_⟩
      rw [hb, ← List.append_assoc, ← (hat.holds es hes).array]
      rfl

/-- An allocator that fails only where it must. -/
def Allocator.full : Allocator := ⟨fun _ n => n ≠ 0, by simp⟩

lemma OnWalk.takes (h : OnWalk d front cs s)
    (ht : Takes d cs s.byteCnt c) : ∃ t rs, descBody .full d s = .inr t ∧
      Takeable (d.lenOfBuff - d.offset.toNat) s c ∧ t.reads = s.reads ++ rs ∧
      (∀ r ∈ rs, r.1 + r.2 ≤ s.cmdBuf + c.size) ∧
      t = { (c.apply s).advance (c.size % 0x10000) with reads := t.reads, allocs := t.allocs } := by
  obtain ⟨hlt, hc, hchecked, hne, hwait⟩ := ht
  rw [← h.ptr] at hc
  have htake : Takeable (d.lenOfBuff - d.offset.toNat) s c :=
    ⟨by omega, hne, fun hw => h.target.mpr (hwait hw)⟩
  have hround := round_parseBody .full d.mem (d.lenOfBuff - d.offset.toNat) d.length.toNat s
  obtain ⟨r, hr⟩ : ∃ r, r = descBody .full d s := ⟨_, rfl⟩
  rw [← descBody, ← hr] at hround
  rw [← hr]
  cases hround with
  | finished hend => omega
  | refused rs _ _ _ _ hwhy =>
    obtain ⟨i, n, hn, hgrant⟩ := hwhy c hc htake
    simp [Allocator.full, hn.ne'] at hgrant
  | took rs _ hc' _ hreads hrs heff =>
    rw [hc] at hc'
    cases hc'
    exact ⟨_, rs, rfl, htake, hreads, hrs, heff⟩

lemma exists_reaches_of_walk {pos : ℕ} (hcheck : checkDesc d = none) (h : Walk d pos cs)
    (a : I2cSettingsArray) : ∃ s, WhileLoop.Reaches (descBody .full d) (parseStart d a) s ∧
      OnWalk d a.listHead cs s ∧ s.byteCnt = pos := by
  induction h with
  | start => exact ⟨_, .refl, onWalk_start d a, rfl⟩
  | @next pos cs c _ ht hf ih =>
    obtain ⟨s, hs, hat, rfl⟩ := ih
    obtain ⟨t, rs, hbody, htake, hreads, hrs, heff⟩ := hat.takes ht
    obtain ⟨hat', hcons⟩ := hat.step hcheck ht.1 (hat.ptr ▸ ht.2.1) htake hf hreads hrs heff
    exact ⟨t, hs.step hbody, hat', hcons.byteCnt⟩

lemma OnWalk.fits (h : OnWalk d front cs s) (hcheck : checkDesc d = none)
    (ht : Takes d cs s.byteCnt c)
    (hcons : ∀ t, descBody .full d s = .inr t → ∃ c', Consumes d s t c') : Fits d s.byteCnt c := by
  have hbuf := checkDesc_none hcheck
  have hptr := h.ptr
  obtain ⟨t, rs, hbody, -, -, -, heff⟩ := h.takes ht
  obtain ⟨c', hplace, hc', hinside, -, hbyte⟩ := hcons t hbody
  obtain ⟨hlt, hc, -⟩ := ht
  rw [← hptr, hc'] at hc
  cases hc
  rw [heff] at hbyte
  simp only [ParseState.advance] at hbyte
  rw [(apply_place c s).2, u32Add] at hbyte
  have hmod := Nat.mod_le c.size 0x10000
  split_ifs at hbyte with hmax
  · exact ⟨by omega, by omega, by omega, by omega⟩
  · omega

lemma returns_of_accepts (hlen : d.length ≠ 0) (h : Accepts d cs) (a : I2cSettingsArray) :
    ∃ s, WhileLoop.Returns (descBody .full d) (parseStart d a) (.finished, s) ∧
      OnWalk d a.listHead cs s ∧ s.rc = 0 := by
  obtain ⟨hzero, -⟩ | ⟨-, hcheck, pos, hw, hend⟩ := h
  · exact absurd hzero hlen
  obtain ⟨s, hs, hat, rfl⟩ := exists_reaches_of_walk hcheck hw a
  have hbody : descBody .full d s = .inl (.finished, s) := by
    rw [descBody, parseBody, if_neg (by omega)]
  exact ⟨s, hs.returns (WhileLoop.returns_of_break hbody), hat, (hat.accepts hlen hcheck hend).2⟩

lemma allSound_of_consumes (h : ∀ d s t, EntersLoop .full a ds d s → descBody .full d s = .inr t →
    ∃ c, Consumes d s t c) : AllSound ds := by
  induction ds generalizing a with
  | nil => trivial
  | cons d ds ih =>
    refine ⟨?_, ?_⟩
    · intro hlen hcheck pos cs c hw ht
      obtain ⟨s, hs, hat, rfl⟩ := exists_reaches_of_walk hcheck hw a
      refine hat.fits hcheck ht fun t => h d s t ?_
      rw [EntersLoop, if_neg hlen]
      exact ⟨hcheck, .inl ⟨rfl, hs⟩⟩
    · rintro ⟨cs, hacc⟩
      by_cases hlen : d.length = 0
      · refine ih (a := a) fun e s t hs => h e s t ?_
        rwa [EntersLoop, if_pos hlen]
      · obtain ⟨u, hu, -⟩ := returns_of_accepts hlen hacc a
        have hcheck : checkDesc d = none := by
          obtain ⟨hzero, -⟩ | ⟨-, hcheck, -⟩ := hacc
          · exact absurd hzero hlen
          · exact hcheck
        refine ih (a := u.settings 1) fun e s t hs => h e s t ?_
        rw [EntersLoop, if_neg hlen]
        exact ⟨hcheck, .inr ⟨u, hu, hs⟩⟩

lemma exists_list_of_accepts {css : List (List Command)} (h : List.Forall₂ Accepts ds css)
    (a : I2cSettingsArray) : ∃ b, CamSensorI2cCommandParser .full 0 a ds 0 b ∧
      ∀ xs, Lists ds xs → ∃ zs, b.listHead = a.listHead ++ zs ∧
        (zs = xs → ∀ cs ∈ css, Tellable cs) := by
  induction h generalizing a with
  | nil =>
    refine ⟨a, ⟨rfl, rfl⟩, fun xs _ => ⟨[], by simp, fun _ cs hcs => ?_⟩⟩
    cases hcs
  | @cons d cs ds css hacc _ ih =>
    by_cases hlen : d.length = 0
    · obtain ⟨b, hb, hlists⟩ := ih a
      refine ⟨b, by rwa [CamSensorI2cCommandParser, if_pos hlen], ?_⟩
      rintro _ (_ | ⟨hstream, hxs, hys⟩)
      obtain rfl := hacc.stream.unique hstream
      obtain ⟨-, rfl⟩ | ⟨hne, -⟩ := hacc
      · cases hxs
        obtain ⟨zs, hzs, htell⟩ := hlists _ hys
        refine ⟨zs, hzs, fun heq => ?_⟩
        rintro cs (_ | ⟨_, hcs⟩)
        · exact ⟨rfl, by simp⟩
        · exact htell heq cs hcs
      · exact absurd hlen hne
    · obtain ⟨s, hs, hat, hrc⟩ := returns_of_accepts hlen hacc a
      obtain ⟨b, hb, hlists⟩ := ih (s.settings 1)
      have hcheck : checkDesc d = none := by
        obtain ⟨hzero, -⟩ | ⟨-, hcheck, -⟩ := hacc
        · exact absurd hzero hlen
        · exact hcheck
      refine ⟨b, ?_, ?_⟩
      · rw [CamSensorI2cCommandParser, if_neg hlen, hcheck]
        exact ⟨.finished, s, hs, by rwa [hrc]⟩
      rintro _ (_ | ⟨hstream, hxs, hys⟩)
      obtain rfl := hacc.stream.unique hstream
      obtain ⟨es, hes, rfl⟩ := Option.map_eq_some_iff.mp hxs
      obtain ⟨zs, hzs, htell⟩ := hlists _ hys
      refine ⟨Listed.storedList es ++ zs, ?_, fun heq => ?_⟩
      · rw [hzs, ← List.append_assoc, ← (hat.holds es hes).array]
        rfl
      obtain ⟨hfront, hback⟩ := List.append_inj heq (by simp [Listed.storedList])
      rintro cs (_ | ⟨_, hcs⟩)
      · exact tellable_of_settingsOf hes (by rw [settingsOf, hes, hfront, Option.map_some])
      · exact htell hback cs hcs

/-- The parser does what the commands say, however allocations go, exactly when every
command it comes to fits and the commands of buffers it takes can be told. -/
theorem parsesExactly_iff (a : I2cSettingsArray) (ds : List CmdDesc) :
    (∀ alloc, ParsesExactly alloc a ds) ↔
      AllSound ds ∧ ∀ css, List.Forall₂ Accepts ds css → ∀ cs ∈ css, Tellable cs := by
  constructor
  · intro h
    refine ⟨allSound_of_consumes (h .full).consumes, fun css hcss => ?_⟩
    obtain ⟨b, hb, hlists⟩ := exists_list_of_accepts hcss a
    obtain ⟨xs, hxs, hlist⟩ := (h .full).settings b hb
    obtain ⟨zs, hzs, htell⟩ := hlists xs hxs
    exact htell (List.append_cancel_left (hzs.symm.trans hlist))
  · rintro ⟨hsound, htell⟩ alloc
    refine ⟨terminates_of_allSound hsound alloc a, ?_, ?_, ?_⟩
    · intro d s hs
      obtain ⟨hcheck, hd, front, cs, hat⟩ := hs.onWalk hsound
      rcases hat.cases hcheck hd alloc with ⟨-, hend⟩ | ⟨e, t, href, -, hreads⟩ | ⟨c, t, hnext, hat', -⟩
      · rw [hend]
        exact hat.reads
      · rw [href]
        exact hreads
      · rw [hnext]
        exact hat'.reads
    · intro d s t hs hbody
      obtain ⟨hcheck, hd, front, cs, hat⟩ := hs.onWalk hsound
      obtain ⟨c, -, hcons⟩ := hat.next hcheck hd hbody
      exact ⟨c, hcons⟩
    · intro b hb
      obtain ⟨css, hcss, hlists⟩ := lists_of_allSound hsound hb
      exact hlists (htell css hcss)

/-- A mapping of four bytes with a poll command in it. -/
def pollAtEnd : CmdDesc :=
  ⟨0, fun p => if p = 2 then 1 else if p = 3 then 9 else 0, 4, 0, 4⟩

theorem pollAtEnd_not_parsesExactly : ¬ParsesExactly .full ⟨[], 0, 0⟩ [pollAtEnd] := by
  intro h
  have hread := h.reads pollAtEnd (parseStart pollAtEnd ⟨[], 0, 0⟩) (by
    rw [EntersLoop, if_neg (by decide)]
    exact ⟨by decide, .inl ⟨rfl, .refl⟩⟩) (8, 4) (by decide)
  exact absurd hread (by decide)

end CameraKernel.SensorUtil
