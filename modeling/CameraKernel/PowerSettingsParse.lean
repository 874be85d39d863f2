import CameraKernel.PowerSettings

/-! The rounds of the parser of power commands: the check of a command, its entries, and the entry that
the buffer ends in. -/
namespace CameraKernel.PowerSettings
open GenericBlob (Memory readWord)
open SensorUtil (byteAt readHalf)
variable {c : Call} {pos : ℕ} {cs : List Command} {cmd : Command} {s t : ParseState}

/-- Something was read behind the buffer. -/
def Out (c : Call) (s : ParseState) : Prop := ∃ r ∈ s.reads, c.cmdLength.toNat < r.1 + r.2

def Inside (c : Call) (s : ParseState) : Prop := ∀ r ∈ s.reads, r.1 + r.2 ≤ c.cmdLength.toNat

lemma inside_read {rs : List (ℕ × ℕ)} (h : Inside c s) (hrs : ∀ r ∈ rs, r.1 + r.2 ≤ c.cmdLength.toNat) :
    Inside c (s.read rs) := by
  intro r hr
  rcases List.mem_append.1 hr with hr | hr
  · exact h r hr
  · exact hrs r hr

lemma out_of_keeps (h : Out c s) (hp : s.reads <+: t.reads) : Out c t := by
  obtain ⟨r, hr, hlt⟩ := h
  exact ⟨r, hp.subset hr, hlt⟩

lemma length_lt (c : Call) : c.cmdLength.toNat < 2 ^ 32 := c.cmdLength.toNat_lt

section
variable (dir : Dir) {base i n : ℕ}

@[simp] lemma takeSetting_last : (takeSetting c dir base i s).lastCmdType = s.lastCmdType := by
  simp only [takeSetting]
  split_ifs <;> rfl

@[simp] lemma takeSetting_size : (takeSetting c dir base i s).size = s.size := by
  simp only [takeSetting]
  split_ifs <;> rfl

@[simp] lemma takeSetting_reads :
    (takeSetting c dir base i s).reads = s.reads ++ settingReads base i := by
  simp only [takeSetting]
  split_ifs <;> rfl

@[simp] lemma takeSetting_entries : (takeSetting c dir base i s).entries =
    Function.update s.entries dir (s.entries dir ++
      [⟨(settingAt c.mem base i).1, (settingAt c.mem base i).2, 0⟩]) := by
  simp only [takeSetting]
  split_ifs <;> rfl

lemma takeSetting_ptr (c : Call) (dir : Dir) (base i : ℕ) (s : ParseState) :
    (takeSetting c dir base i s).ptr + 12 * max i 1 = s.ptr + 12 * max (i + 1) 1 := by
  simp only [takeSetting]
  split_ifs with hi
  · rw [hi]
    rfl
  · simp only [sizeofPowerSettings, ParseState.append, ParseState.read]
    omega

lemma takeSetting_tot (htot : s.totSize.toNat = base + 4 + 12 * max i 1) :
    (takeSetting c dir base i s).totSize.toNat = (base + 4 + 12 * max (i + 1) 1) % 2 ^ 32 := by
  have hlt := s.totSize.toNat_lt
  simp only [takeSetting]
  split_ifs with hi
  · rw [hi] at htot ⊢
    simp only [ParseState.append, ParseState.read]
    rw [htot]
    omega
  · simp only [ParseState.append, ParseState.read, sizeofPowerSettings, UInt32.toNat_add,
      UInt32.toNat_ofNat', htot]
    omega

lemma takeSettings_reads_keep (c : Call) (dir : Dir) (base n i : ℕ) (s : ParseState) :
    s.reads <+: (takeSettings c dir base n i s).2.reads := by
  induction n generalizing i s with
  | zero => exact List.prefix_rfl
  | succ n ih =>
    have hone : s.reads <+: (takeSetting c dir base i s).reads := by
      rw [takeSetting_reads]
      exact List.prefix_append ..
    simp only [takeSettings]
    split_ifs
    · exact hone
    · exact hone.trans (ih ..)

lemma takeSettings_fits (htot : s.totSize.toNat = base + 4 + 12 * max i 1)
    (hend : base + 4 + 12 * max (i + n) 1 ≤ c.cmdLength.toNat) :
    ∃ t, takeSettings c dir base n i s = (true, t) ∧
      t.totSize.toNat = base + 4 + 12 * max (i + n) 1 ∧
      t.ptr + 12 * max i 1 = s.ptr + 12 * max (i + n) 1 ∧
      t.lastCmdType = s.lastCmdType ∧ t.size = s.size ∧
      t.entries = Function.update s.entries dir (s.entries dir ++
        ((List.range' i n).map (settingAt c.mem base)).map fun x => ⟨x.1, x.2, 0⟩) ∧
      t.reads = s.reads ++ (List.range' i n).flatMap (settingReads base) := by
  have hlen := length_lt c
  induction n generalizing i s with
  | zero => exact ⟨s, rfl, htot, rfl, rfl, rfl, by simp, by simp⟩
  | succ n ih =>
    have htot' : (takeSetting c dir base i s).totSize.toNat = base + 4 + 12 * max (i + 1) 1 := by
      rw [takeSetting_tot dir htot, Nat.mod_eq_of_lt (by omega)]
    have hcheck : ¬ c.cmdLength < (takeSetting c dir base i s).totSize := by
      rw [UInt32.lt_iff_toNat_lt, htot']
      omega
    have hadd : i + (n + 1) = i + 1 + n := by omega
    rw [hadd] at hend ⊢
    obtain ⟨t, ht, h1, h2, h3, h4, h5, h6⟩ := ih htot' hend
    have hptr := takeSetting_ptr c dir base i s
    refine ⟨t, ?_, h1, by omega, h3.trans (takeSetting_last dir), h4.trans (takeSetting_size dir), ?_, ?_⟩
    · rw [takeSettings, if_neg hcheck, ht]
    · rw [h5, takeSetting_entries, Function.update_self, Function.update_idem, List.range'_succ,
        List.append_assoc]
      rfl
    · rw [h6, takeSetting_reads, List.range'_succ, List.flatMap_cons, List.append_assoc]

lemma settingReads_le {stop : ℕ} (h : base + 12 + 12 * i ≤ stop) :
    ∀ r ∈ settingReads base i, r.1 + r.2 ≤ stop := by
  intro r hr
  rcases List.mem_cons.1 hr with rfl | hr
  · dsimp only
    omega
  · rw [List.mem_singleton.1 hr]
    dsimp only
    omega

lemma takeSettings_length (c : Call) (dir : Dir) (base n i : ℕ) (s : ParseState) (d : Dir) :
    ((takeSettings c dir base n i s).2.entries d).length ≤
      (s.entries d).length + if d = dir then n else 0 := by
  induction n generalizing i s with
  | zero => simp [takeSettings]
  | succ n ih =>
    have hone : ((takeSetting c dir base i s).entries d).length =
        (s.entries d).length + if d = dir then 1 else 0 := by
      rw [takeSetting_entries]
      by_cases hd : d = dir
      · subst hd
        rw [Function.update_self, List.length_append, if_pos rfl]
        rfl
      · rw [Function.update_of_ne hd, if_neg hd, Nat.add_zero]
    have hrest := ih (i + 1) (takeSetting c dir base i s)
    rw [takeSettings]
    by_cases hcheck : c.cmdLength < (takeSetting c dir base i s).totSize
    · rw [if_pos hcheck]
      dsimp only
      split_ifs at hone ⊢ <;> omega
    · rw [if_neg hcheck]
      split_ifs at hone hrest ⊢ <;> omega

/-- The entry that the buffer ends in: behind `i` entries that end in it there are more. -/
structure CutEntry (c : Call) (base i n k : ℕ) : Prop where
  first : base + 4 + 12 * max i 1 ≤ c.cmdLength.toNat
  before : base + 4 + 12 * k ≤ c.cmdLength.toNat
  behind : c.cmdLength.toNat < base + 16 + 12 * k
  more : k < i + n

lemma CutEntry.le {k : ℕ} (h : CutEntry c base i n k) : i ≤ k ∧ 1 ≤ k := by
  have h1 := h.first
  have h2 := h.behind
  omega

lemma CutEntry.next {k : ℕ} (h : CutEntry c base i (n + 1) k) (hi : i < k) :
    CutEntry c base (i + 1) n k := by
  have h2 := h.before
  have h3 := h.more
  exact ⟨by omega, h.before, h.behind, by omega⟩

lemma takeSettings_cut_reads {k : ℕ} (htot : s.totSize.toNat = base + 4 + 12 * max i 1)
    (hk : CutEntry c base i n k) (hcount : base + 16 + 12 * k < 2 ^ 32) :
    ∃ t, takeSettings c dir base n i s = (false, t) ∧
      t.reads = s.reads ++ (List.range' i (k + 1 - i)).flatMap (settingReads base) := by
  have hlen := length_lt c
  induction n generalizing i s with
  | zero =>
    have h1 := hk.le
    have h2 := hk.more
    omega
  | succ n ih =>
    obtain ⟨hik, hk1⟩ := hk.le
    have htot' := takeSetting_tot (c := c) dir htot
    rw [Nat.mod_eq_of_lt (by omega)] at htot'
    rw [takeSettings]
    rcases Nat.lt_or_eq_of_le hik with hlt | rfl
    · have hcheck : ¬ c.cmdLength < (takeSetting c dir base i s).totSize := by
        have := hk.before
        rw [UInt32.lt_iff_toNat_lt, htot']
        omega
      rw [if_neg hcheck]
      obtain ⟨t, ht, hreads⟩ := ih htot' (hk.next hlt)
      have hsucc : k + 1 - i = (k + 1 - (i + 1)) + 1 := by omega
      refine ⟨t, ht, ?_⟩
      rw [hreads, takeSetting_reads, hsucc, List.range'_succ, List.flatMap_cons, List.append_assoc]
    · have hcheck : c.cmdLength < (takeSetting c dir base i s).totSize := by
        have := hk.behind
        rw [UInt32.lt_iff_toNat_lt, htot']
        omega
      rw [if_pos hcheck]
      refine ⟨_, rfl, ?_⟩
      rw [takeSetting_reads, Nat.add_sub_cancel_left]
      simp

lemma takeSettings_cut {k : ℕ} (hs : Inside c s) (htot : s.totSize.toNat = base + 4 + 12 * max i 1)
    (hk : CutEntry c base i n k) (hread : base + 12 + 12 * k ≤ c.cmdLength.toNat)
    (hcount : base + 16 + 12 * k < 2 ^ 32) :
    ∃ t, takeSettings c dir base n i s = (false, t) ∧ Inside c t := by
  obtain ⟨t, ht, hreads⟩ := takeSettings_cut_reads dir htot hk hcount
  refine ⟨t, ht, fun r hr => ?_⟩
  rw [hreads] at hr
  rcases List.mem_append.1 hr with hr | hr
  · exact hs r hr
  · obtain ⟨j, hj, hr⟩ := List.mem_flatMap.1 hr
    have hlt := (List.mem_range'_1.1 hj).2
    have hik := hk.le.1
    exact settingReads_le (by omega) r hr

/-- Behind the end of the buffer, with a count that wrapped. -/
def Wrapped (c : Call) (s : ParseState) : Prop :=
  c.cmdLength.toNat < s.ptr ∧ s.totSize.toNat < 4 ∧ 16 ≤ c.cmdLength.toNat

lemma takeSettings_out {k : ℕ} (htot : s.totSize.toNat = base + 4 + 12 * max i 1)
    (hptr : s.ptr = base + 4 + 12 * max i 1) (hk : CutEntry c base i n k)
    (hcut : ¬ (base + 12 + 12 * k ≤ c.cmdLength.toNat ∧ base + 16 + 12 * k < 2 ^ 32)) :
    Out c (takeSettings c dir base n i s).2 ∨
      ((takeSettings c dir base n i s).1 = true ∧ Wrapped c (takeSettings c dir base n i s).2) := by
  have hlen := length_lt c
  induction n generalizing i s with
  | zero =>
    have h1 := hk.le
    have h2 := hk.more
    omega
  | succ n ih =>
    obtain ⟨hik, hk1⟩ := hk.le
    have hfirst := hk.first
    have hbefore := hk.before
    have hbehind := hk.behind
    have htot' := takeSetting_tot (c := c) dir htot
    have hptr' : (takeSetting c dir base i s).ptr = base + 4 + 12 * max (i + 1) 1 := by
      have := takeSetting_ptr c dir base i s
      omega
    rcases Nat.lt_or_eq_of_le hik with hlt | rfl
    · rw [Nat.mod_eq_of_lt (by omega)] at htot'
      have hcheck : ¬ c.cmdLength < (takeSetting c dir base i s).totSize := by
        rw [UInt32.lt_iff_toNat_lt, htot']
        omega
      simp only [takeSettings, if_neg hcheck]
      exact ih htot' hptr' (hk.next hlt)
    · by_cases hread : base + 12 + 12 * i ≤ c.cmdLength.toNat
      · have hwrap : 2 ^ 32 ≤ base + 16 + 12 * i := Nat.not_lt.1 fun h => hcut ⟨hread, h⟩
        have htot4 : (takeSetting c dir base i s).totSize.toNat < 4 := by
          rw [htot']
          omega
        have hcheck : ¬ c.cmdLength < (takeSetting c dir base i s).totSize := by
          rw [UInt32.lt_iff_toNat_lt]
          omega
        simp only [takeSettings, if_neg hcheck]
        cases n with
        | zero =>
          refine .inr ⟨rfl, ?_, htot4, by omega⟩
          simp only [takeSettings, hptr']
          omega
        | succ n =>
          refine .inl (out_of_keeps (s := takeSetting c dir base (i + 1)
            (takeSetting c dir base i s)) ?_ ?_)
          · refine ⟨(base + 8 + 12 * (i + 1), 4), ?_, by dsimp only; omega⟩
            rw [takeSetting_reads]
            exact List.mem_append_right _ (List.mem_cons_of_mem _ (List.mem_cons_self ..))
          · simp only [takeSettings]
            split_ifs
            · exact List.prefix_rfl
            · exact takeSettings_reads_keep ..
      · refine .inl (out_of_keeps (s := takeSetting c dir base i s) ?_ ?_)
        · refine ⟨(base + 8 + 12 * i, 4), ?_, by dsimp only; omega⟩
          rw [takeSetting_reads]
          exact List.mem_append_right _ (List.mem_cons_of_mem _ (List.mem_cons_self ..))
        · simp only [takeSettings]
          split_ifs
          · exact List.prefix_rfl
          · exact takeSettings_reads_keep ..

def powerStart (c : Call) (dir : Dir) (s : ParseState) : ParseState :=
  { s.read [(s.ptr, 2)] with
    size := Function.update s.size dir (s.size dir + readHalf c.mem s.ptr)
    ptr := s.ptr + sizeofPower
    totSize := s.totSize + UInt32.ofNat sizeofPower
    lastCmdType := some dir }

lemma powerCommand_taken (hcount : readHalf c.mem s.ptr < SENSOR_SEQ_TYPE_MAX)
    (hsize : s.size dir + readHalf c.mem s.ptr ≤ MAX_POWER_CONFIG) :
    powerCommand c dir s =
      takeSettings c dir s.ptr (readHalf c.mem s.ptr) 0 (powerStart c dir s) := by
  simp only [SENSOR_SEQ_TYPE_MAX, MAX_POWER_CONFIG] at hcount hsize
  have hover : ¬ 0xFFFF - (s.read [(s.ptr, 2)]).size dir < readHalf c.mem s.ptr := by
    simp only [ParseState.read]
    omega
  rw [powerCommand]
  dsimp only
  rw [if_neg hover, if_neg]
  · rfl
  · simp only [ParseState.read, Function.update_self, SENSOR_SEQ_TYPE_MAX, MAX_POWER_CONFIG]
    omega

lemma powerCommand_refused
    (h : ¬ (readHalf c.mem s.ptr < SENSOR_SEQ_TYPE_MAX ∧
      s.size dir + readHalf c.mem s.ptr ≤ MAX_POWER_CONFIG)) :
    ∃ t, powerCommand c dir s = (false, t) ∧ t.reads = s.reads ++ [(s.ptr, 2)] ∧
      t.entries = s.entries := by
  rw [powerCommand]
  dsimp only
  by_cases hover : 0xFFFF - (s.read [(s.ptr, 2)]).size dir < readHalf c.mem s.ptr
  · rw [if_pos hover]
    exact ⟨_, rfl, rfl, rfl⟩
  · rw [if_neg hover, if_pos]
    · exact ⟨_, rfl, rfl, rfl⟩
    · simp only [ParseState.read, Function.update_self]
      omega

end

lemma remain_eq (htot : s.totSize.toNat = pos) (hpos : pos ≤ c.cmdLength.toNat) :
    (c.cmdLength - s.totSize).toNat = c.cmdLength.toNat - pos := by
  rw [UInt32.toNat_sub_of_le _ _ (UInt32.le_iff_toNat_le.2 (htot ▸ hpos)), htot]

/-- The reads of the check of the command that comes next. -/
def checked (c : Call) (s : ParseState) : ParseState :=
  s.read (camSensorValidate c.mem s.ptr (c.cmdLength - s.totSize).toNat).2

def refused (c : Call) (s : ParseState) : Bool :=
  (camSensorValidate c.mem s.ptr (c.cmdLength - s.totSize).toNat).1

lemma camSensorValidate_short {mem : Memory} {p n : ℕ} (h : n < 4) :
    camSensorValidate mem p n = (true, []) := if_pos h

lemma camSensorValidate_header {mem : Memory} {p n : ℕ} (h : ¬ n < 4) :
    camSensorValidate mem p n = (decide (n < validateSize (typeAt mem p)), [(p + 3, 1)]) := if_neg h

lemma refused_iff : refused c s = true ↔ (c.cmdLength - s.totSize).toNat < 4 ∨
    (c.cmdLength - s.totSize).toNat < validateSize (typeAt c.mem s.ptr) := by
  rw [refused]
  by_cases h4 : (c.cmdLength - s.totSize).toNat < 4
  · rw [camSensorValidate_short h4]
    exact ⟨fun _ => .inl h4, fun _ => rfl⟩
  · rw [camSensorValidate_header h4, decide_eq_true_iff]
    exact ⟨.inr, fun h => h.resolve_left h4⟩

lemma checked_reads (h4 : ¬ (c.cmdLength - s.totSize).toNat < 4) :
    (checked c s).reads = s.reads ++ [(s.ptr + 3, 1)] := by
  rw [checked, camSensorValidate_header h4]
  rfl

lemma checked_inside (hs : Inside c s) (htot : s.totSize.toNat = pos) (hptr : s.ptr = pos)
    (hpos : pos ≤ c.cmdLength.toNat) : Inside c (checked c s) := by
  have hrem := remain_eq htot hpos
  refine inside_read hs fun r hr => ?_
  by_cases h4 : (c.cmdLength - s.totSize).toNat < 4
  · rw [camSensorValidate_short h4] at hr
    cases hr
  · rw [camSensorValidate_header h4] at hr
    rw [List.mem_singleton.1 hr, hptr]
    dsimp only
    omega

lemma validateSize_command {p : ℕ} (hc : commandAt c.mem p = some cmd) :
    validateSize (typeAt c.mem p) = cmd.header := by
  simp only [commandAt] at hc
  simp only [validateSize]
  split_ifs at hc with hup hwait hop hdown
  · cases hc
    rw [if_pos (.inl hup)]
    rfl
  · cases hc
    rw [hwait]
    rfl
  · cases hc
    rw [hwait]
    rfl
  · cases hc
    rw [if_pos (.inr hdown)]
    rfl

lemma header_ge (cmd : Command) : 4 ≤ cmd.header := by
  cases cmd <;> simp [Command.header]

lemma not_refused_iff (htot : s.totSize.toNat = pos) (hptr : s.ptr = pos)
    (hpos : pos ≤ c.cmdLength.toNat) (hc : commandAt c.mem pos = some cmd) :
    refused c s = false ↔ pos + cmd.header ≤ c.cmdLength.toNat := by
  have hge := header_ge cmd
  rw [← Bool.not_eq_true, refused_iff, remain_eq htot hpos, hptr, validateSize_command hc]
  omega

lemma parseBody_finished (h : c.cmdLength ≤ s.totSize) : parseBody c s = .inl (.finished, s) := by
  rw [parseBody, if_neg (UInt32.not_lt.2 h)]

section
variable (hlt : s.totSize < c.cmdLength)
include hlt

lemma parseBody_refused (hr : refused c s = true) :
    parseBody c s = .inl (.freePowerSettings, checked c s) := by
  rw [parseBody, if_pos hlt]
  exact if_pos hr

variable (hr : refused c s = false)
include hr

lemma parseBody_of_checked : parseBody c s =
    if typeAt c.mem s.ptr = CAMERA_SENSOR_CMD_TYPE_PWR_UP then
      afterPower (powerCommand c .up (checked c s))
    else if typeAt c.mem s.ptr = CAMERA_SENSOR_CMD_TYPE_WAIT then waitCommand c (checked c s)
    else if typeAt c.mem s.ptr = CAMERA_SENSOR_CMD_TYPE_PWR_DOWN then
      afterPower (powerCommand c .down (checked c s))
    else .inl (.freePowerSettings, checked c s) := by
  rw [parseBody, if_pos hlt]
  exact if_neg (Bool.not_eq_true _ ▸ hr)

lemma parseBody_unknown (hc : commandAt c.mem s.ptr = none) :
    parseBody c s = .inl (.freePowerSettings, checked c s) := by
  rw [parseBody_of_checked hlt hr]
  simp only [commandAt] at hc
  split_ifs at hc ⊢
  rfl

lemma parseBody_power {dir : Dir} {settings : List (ℕ × ℕ)}
    (hc : commandAt c.mem s.ptr = some (.power dir settings)) :
    parseBody c s = afterPower (powerCommand c dir (checked c s)) ∧
      settings = settingsAt c.mem s.ptr := by
  rw [parseBody_of_checked hlt hr]
  simp only [commandAt] at hc
  split_ifs at hc ⊢ <;> cases hc <;> exact ⟨rfl, rfl⟩

lemma parseBody_wait {d : Option ℤ} (hc : commandAt c.mem s.ptr = some (.wait d)) :
    parseBody c s = waitCommand c (checked c s) ∧
      d = if byteAt c.mem (s.ptr + 2) = CAMERA_SENSOR_WAIT_OP_SW_UCND then
        some (signedHalf (readHalf c.mem s.ptr)) else none := by
  rw [parseBody_of_checked hlt hr]
  simp only [commandAt] at hc
  split_ifs at hc ⊢ <;> cases hc <;> exact ⟨rfl, rfl⟩

end
end CameraKernel.PowerSettings
