import CameraKernel.PowerSettingsParse

/-! The parser of power commands along the commands of its buffer: when it keeps to the buffer, and
its arrays are what the commands ask for. -/
namespace CameraKernel.PowerSettings
open GenericBlob (Memory readWord)
open SensorUtil (byteAt readHalf)
variable {c : Call} {pos : ℕ} {cs : List Command} {cmd : Command} {s t : ParseState}

/-! ### Along the commands -/

def Wanted.stored (w : Wanted) : PowerSetting := ⟨w.seqType, w.configVal, (w.delay % 0x10000).toNat⟩

/-- What holds behind the commands `cs` that end in the buffer. -/
structure OnWalk (c : Call) (pos : ℕ) (cs : List Command) (s : ParseState) : Prop where
  le : pos ≤ c.cmdLength.toNat
  tot : s.totSize.toNat = pos
  ptr : s.ptr = pos
  last : s.lastCmdType = (wants cs).last
  size : ∀ dir, s.size dir = (s.entries dir).length
  short : ∀ dir, (s.entries dir).length ≤ MAX_POWER_CONFIG
  entries : ∀ dir, s.entries dir = ((wants cs).lists dir).map Wanted.stored
  inside : Inside c s

/-- The arrays hold no more than they have room for, and nothing was read behind the buffer. -/
structure Safe (c : Call) (s : ParseState) : Prop where
  inside : Inside c s
  short : ∀ dir, (s.entries dir).length ≤ MAX_POWER_CONFIG

lemma u16Add_toNat (x d : ℤ) :
    u16Add (x % 0x10000).toNat d = ((x + d) % 0x10000).toNat := by
  rw [u16Add]
  omega

lemma wants_append (cs : List Command) (cmd : Command) :
    wants (cs ++ [cmd]) = (wants cs).add cmd := by
  rw [wants, List.foldl_append]
  rfl

lemma range_eq (n : ℕ) (mem : Memory) (p : ℕ) (h : n = readHalf mem p) :
    (List.range' 0 n).map (settingAt mem p) = settingsAt mem p := by
  rw [settingsAt, h, List.range_eq_range']

lemma settingsAt_length (mem : Memory) (p : ℕ) : (settingsAt mem p).length = readHalf mem p := by
  rw [settingsAt, List.length_map, List.length_range]

lemma OnWalk.lt (h : OnWalk c pos cs s) (hlt : pos < c.cmdLength.toNat) :
    s.totSize < c.cmdLength := by
  rw [UInt32.lt_iff_toNat_lt, h.tot]
  exact hlt

lemma OnWalk.checked_safe (h : OnWalk c pos cs s) : Safe c (checked c s) :=
  ⟨checked_inside h.inside h.tot h.ptr h.le, h.short⟩

lemma Takes.lt (ht : Takes c cs pos cmd) : pos < c.cmdLength.toNat := by
  have h1 := ht.header
  have h2 := header_ge cmd
  omega

lemma Takes.not_refused (ht : Takes c cs pos cmd) (h : OnWalk c pos cs s) : refused c s = false :=
  (not_refused_iff h.tot h.ptr h.le ht.command).2 ht.header

lemma OnWalk.parseBody_power {dir : Dir} {settings : List (ℕ × ℕ)} (h : OnWalk c pos cs s)
    (ht : Takes c cs pos (.power dir settings)) :
    parseBody c s = afterPower (takeSettings c dir pos settings.length 0
        (powerStart c dir (checked c s))) ∧ settings = settingsAt c.mem pos := by
  have hc := ht.command
  rw [← h.ptr] at hc
  obtain ⟨hbody, hset⟩ := PowerSettings.parseBody_power (h.lt ht.lt) (ht.not_refused h) hc
  have hptr : (checked c s).ptr = pos := h.ptr
  have hlen : settings.length = readHalf c.mem (checked c s).ptr := by
    rw [hset, settingsAt_length]
    rfl
  obtain ⟨hcount, hroom⟩ := ht.count dir settings rfl
  have hsize : (checked c s).size dir = ((wants cs).lists dir).length := by
    have : (checked c s).size dir = (s.entries dir).length := h.size dir
    rw [this, h.entries, List.length_map]
  refine ⟨?_, by rw [hset, h.ptr]⟩
  rw [hbody, powerCommand_taken _ (hlen ▸ hcount) (by omega), hptr, ← hptr, ← hlen, hptr]

lemma powerStart_tot (dir : Dir) (htot : s.totSize.toNat = pos) (hpos : pos + 16 ≤ c.cmdLength.toNat) :
    (powerStart c dir s).totSize.toNat = pos + 4 + 12 * max 0 1 := by
  have hlen := length_lt c
  simp only [powerStart, sizeofPower, ParseState.read, UInt32.toNat_add, UInt32.toNat_ofNat', htot]
  omega

lemma powerStart_inside (dir : Dir) (hs : Inside c s) (hptr : s.ptr + 16 ≤ c.cmdLength.toNat) :
    Inside c (powerStart c dir s) :=
  inside_read hs fun r hr => by
    rw [List.mem_singleton.1 hr]
    dsimp only
    omega

lemma OnWalk.takeSettings_short {dir : Dir} {settings : List (ℕ × ℕ)} (h : OnWalk c pos cs s)
    (ht : Takes c cs pos (.power dir settings)) (d : Dir) :
    ((takeSettings c dir pos settings.length 0 (powerStart c dir (checked c s))).2.entries d).length
      ≤ MAX_POWER_CONFIG := by
  have hle := takeSettings_length c dir pos settings.length 0 (powerStart c dir (checked c s)) d
  have hroom := (ht.count dir settings rfl).2
  have hentries : ((powerStart c dir (checked c s)).entries d).length =
      ((wants cs).lists d).length := by
    have : (powerStart c dir (checked c s)).entries d = s.entries d := rfl
    rw [this, h.entries, List.length_map]
  have hshort := h.short d
  rw [h.entries, List.length_map] at hshort
  split_ifs at hle with hd
  · subst hd
    omega
  · omega

lemma OnWalk.next_power {dir : Dir} {settings : List (ℕ × ℕ)} (h : OnWalk c pos cs s)
    (ht : Takes c cs pos (.power dir settings))
    (hf : pos + (Command.power dir settings).size ≤ c.cmdLength.toNat) :
    ∃ t, parseBody c s = .inr t ∧
      OnWalk c (pos + (Command.power dir settings).size) (cs ++ [Command.power dir settings]) t := by
  obtain ⟨hbody, hset⟩ := h.parseBody_power ht
  have hheader : pos + 16 ≤ c.cmdLength.toNat := ht.header
  have hstart : (powerStart c dir (checked c s)).totSize.toNat = pos + 4 + 12 * max 0 1 :=
    powerStart_tot dir h.tot hheader
  have hinside := powerStart_inside dir h.checked_safe.inside
    (show (checked c s).ptr + 16 ≤ _ by rw [show (checked c s).ptr = pos from h.ptr]; exact hheader)
  have hshort := h.takeSettings_short ht
  simp only [Command.size] at hf ⊢
  obtain ⟨t, ht', htot, hptr, hlast, hsize, hentries, hreads⟩ :=
    takeSettings_fits (c := c) dir (n := settings.length) hstart (by omega)
  have hs : s.ptr = pos := h.ptr
  have hnew : (List.range' 0 settings.length).map (settingAt c.mem pos) = settings := by
    rw [range_eq _ _ _ (by rw [hset, settingsAt_length]), ← hset]
  rw [ht'] at hshort
  refine ⟨t, by rw [hbody, ht']; rfl, ?_⟩
  constructor
  case le => exact hf
  case tot =>
    rw [htot]
    omega
  case ptr =>
    simp only [powerStart, sizeofPower, checked, ParseState.read, hs] at hptr
    omega
  case last =>
    rw [hlast, wants_append]
    rfl
  case size =>
    intro d
    have hcount : (checked c s).size dir + readHalf c.mem (checked c s).ptr =
        (s.entries dir).length + settings.length := by
      rw [show (checked c s).size dir = s.size dir from rfl, h.size, hset, settingsAt_length]
      exact congrArg _ (congrArg _ hs)
    rw [hsize, hentries, hnew]
    simp only [powerStart, ParseState.read]
    rcases eq_or_ne d dir with rfl | hd
    · rw [Function.update_self, Function.update_self, hcount, List.length_append, List.length_map]
      rfl
    · rw [Function.update_of_ne hd, Function.update_of_ne hd]
      exact h.size d
  case short => exact hshort
  case entries =>
    intro d
    rw [hentries, hnew, wants_append]
    simp only [Wants.add]
    rcases eq_or_ne d dir with rfl | hd
    · rw [Function.update_self, Function.update_self, List.map_append, ← h.entries, List.map_map]
      rfl
    · rw [Function.update_of_ne hd, Function.update_of_ne hd]
      exact h.entries d
  case inside =>
    intro r hr
    rw [hreads] at hr
    rcases List.mem_append.1 hr with hr | hr
    · exact hinside r hr
    · obtain ⟨i, hi, hr⟩ := List.mem_flatMap.1 hr
      have hlt := (List.mem_range'_1.1 hi).2
      exact settingReads_le (by omega) r hr

lemma modify_stored (l : List Wanted) (n : ℕ) (d : ℤ) :
    (l.map Wanted.stored).modify n (fun e => { e with delay := u16Add e.delay d }) =
      (l.modify n fun w => { w with delay := w.delay + d }).map Wanted.stored := by
  induction l generalizing n with
  | nil => cases n <;> rfl
  | cons w l ih =>
    cases n with
    | zero => simp [Wanted.stored, u16Add_toNat]
    | succ n => simp [ih]

@[simp] lemma waitDelay_keeps (c : Call) (s : ParseState) : (waitDelay c s).ptr = s.ptr ∧
    (waitDelay c s).totSize = s.totSize ∧ (waitDelay c s).lastCmdType = s.lastCmdType ∧
    (waitDelay c s).size = s.size := by
  rw [waitDelay]
  split
  · split_ifs <;> exact ⟨rfl, rfl, rfl, rfl⟩
  · exact ⟨rfl, rfl, rfl, rfl⟩

lemma waitDelay_reads (c : Call) (s : ParseState) :
    (waitDelay c s).reads = s.reads ∨ (waitDelay c s).reads = s.reads ++ [(s.ptr, 2)] := by
  rw [waitDelay]
  split
  · split_ifs
    · exact .inr rfl
    · exact .inl rfl
  · exact .inl rfl

lemma waitDelay_entries {w : Wants} (hlast : s.lastCmdType = w.last)
    (hentries : ∀ dir, s.entries dir = (w.lists dir).map Wanted.stored) (dir : Dir) :
    (waitDelay c s).entries dir =
      ((w.add (.wait (if byteAt c.mem (s.ptr + 2) = CAMERA_SENSOR_WAIT_OP_SW_UCND then
        some (signedHalf (readHalf c.mem s.ptr)) else none))).lists dir).map Wanted.stored := by
  rw [waitDelay, hlast]
  by_cases hop : byteAt c.mem (s.ptr + 2) = CAMERA_SENSOR_WAIT_OP_SW_UCND
  · rw [if_pos hop]
    cases hw : w.last with
    | none =>
      simp only [Wants.add, hw]
      exact hentries dir
    | some last =>
      simp only [Wants.add, hw, hop, true_and]
      split_ifs with hpos
      · simp only [ParseState.delayLast, ParseState.read]
        rcases eq_or_ne dir last with rfl | hd
        · rw [Function.update_self, Function.update_self, hentries, List.length_map, modify_stored]
        · rw [Function.update_of_ne hd, Function.update_of_ne hd]
          exact hentries dir
      · have hnil : w.lists last = [] := by
          rw [hentries, List.length_map] at hpos
          exact List.eq_nil_of_length_eq_zero (by omega)
        rcases eq_or_ne dir last with rfl | hd
        · rw [Function.update_self, hentries, hnil]
          rfl
        · rw [Function.update_of_ne hd]
          exact hentries dir
  · rw [if_neg hop]
    cases w.last with
    | none => exact hentries dir
    | some last =>
      simp only [hop, false_and, if_false]
      exact hentries dir

@[simp] lemma Wants.add_wait_last (w : Wants) (d : Option ℤ) : (w.add (.wait d)).last = w.last := by
  cases d with
  | none => rfl
  | some d =>
    simp only [Wants.add]
    split
    · rfl
    · rfl

@[simp] lemma Wants.add_wait_length (w : Wants) (d : Option ℤ) (dir : Dir) :
    ((w.add (.wait d)).lists dir).length = (w.lists dir).length := by
  cases d with
  | none => rfl
  | some d =>
    simp only [Wants.add]
    split
    case h_1 last _ =>
      dsimp only
      rcases eq_or_ne dir last with rfl | hd
      · rw [Function.update_self, List.length_modify]
      · rw [Function.update_of_ne hd]
    case h_2 => rfl

lemma OnWalk.next_wait {d : Option ℤ} (h : OnWalk c pos cs s) (ht : Takes c cs pos (.wait d)) :
    ∃ t, parseBody c s = .inr t ∧ OnWalk c (pos + 4) (cs ++ [Command.wait d]) t := by
  have hlen := length_lt c
  have hheader : pos + 4 ≤ c.cmdLength.toNat := ht.header
  have hs : s.ptr = pos := h.ptr
  have hc := ht.command
  rw [← hs] at hc
  obtain ⟨hbody, hd⟩ := parseBody_wait (h.lt ht.lt) (ht.not_refused h) hc
  set u := (checked c s).read [((checked c s).ptr + 2, 1)] with hu
  obtain ⟨kptr, ktot, klast, ksize⟩ := waitDelay_keeps c u
  have htot : ((waitDelay c u).totSize + UInt32.ofNat sizeofUnconditionalWait).toNat = pos + 4 := by
    have hu : u.totSize.toNat = pos := h.tot
    rw [ktot, UInt32.toNat_add, hu, sizeofUnconditionalWait, UInt32.toNat_ofNat']
    omega
  have hcheck : ¬ c.cmdLength < (waitDelay c u).totSize + UInt32.ofNat sizeofUnconditionalWait := by
    rw [UInt32.lt_iff_toNat_lt, htot]
    omega
  have hentries := waitDelay_entries (c := c) (s := u) h.last h.entries
  have hsize : ∀ dir, ((waitDelay c u).entries dir).length = (s.entries dir).length := by
    intro dir
    rw [hentries, List.length_map, Wants.add_wait_length, h.entries, List.length_map]
  refine ⟨_, by rw [hbody, waitCommand]; exact if_neg hcheck, ?_⟩
  constructor
  case le => exact hheader
  case tot => exact htot
  case ptr =>
    change (waitDelay c u).ptr + 4 = pos + 4
    rw [kptr]
    exact congrArg (· + 4) hs
  case last =>
    rw [wants_append, Wants.add_wait_last]
    exact klast.trans h.last
  case size =>
    intro dir
    change (waitDelay c u).size dir = ((waitDelay c u).entries dir).length
    rw [ksize, hsize]
    exact h.size dir
  case short =>
    intro dir
    change ((waitDelay c u).entries dir).length ≤ _
    rw [hsize]
    exact h.short dir
  case entries =>
    intro dir
    rw [wants_append, hd]
    exact hentries dir
  case inside =>
    have hread : Inside c u := inside_read h.checked_safe.inside fun r hr => by
      rw [List.mem_singleton.1 hr, show (checked c s).ptr = pos from hs]
      dsimp only
      omega
    intro r hr
    change r ∈ (waitDelay c u).reads at hr
    rcases waitDelay_reads c u with hu | hu
    · rw [hu] at hr
      exact hread r hr
    · rw [hu] at hr
      rcases List.mem_append.1 hr with hr | hr
      · exact hread r hr
      · rw [List.mem_singleton.1 hr, show u.ptr = pos from hs]
        dsimp only
        omega

lemma OnWalk.next (h : OnWalk c pos cs s) (ht : Takes c cs pos cmd)
    (hf : pos + cmd.size ≤ c.cmdLength.toNat) :
    ∃ t, parseBody c s = .inr t ∧ OnWalk c (pos + cmd.size) (cs ++ [cmd]) t := by
  cases cmd with
  | power dir settings => exact h.next_power ht hf
  | wait d => exact h.next_wait ht

lemma OnWalk.refused (h : OnWalk c pos cs s) (hlt : pos < c.cmdLength.toNat)
    (hno : ∀ cmd, ¬ Takes c cs pos cmd) :
    ∃ t, parseBody c s = .inl (.freePowerSettings, t) ∧ Safe c t := by
  cases hr : PowerSettings.refused c s with
  | true => exact ⟨_, parseBody_refused (h.lt hlt) hr, h.checked_safe⟩
  | false =>
    cases hc : commandAt c.mem s.ptr with
    | none => exact ⟨_, parseBody_unknown (h.lt hlt) hr hc, h.checked_safe⟩
    | some cmd =>
      have hcmd : commandAt c.mem pos = some cmd := h.ptr ▸ hc
      have hheader := (not_refused_iff h.tot h.ptr h.le hcmd).1 hr
      cases cmd with
      | wait d => exact absurd ⟨hheader, hcmd, nofun⟩ (hno (.wait d))
      | power dir settings =>
        obtain ⟨hbody, hset⟩ := PowerSettings.parseBody_power (h.lt hlt) hr hc
        have hs : s.ptr = pos := h.ptr
        have hheader' : pos + 16 ≤ c.cmdLength.toNat := hheader
        have hcount : settings.length = readHalf c.mem (checked c s).ptr := by
          rw [hset, settingsAt_length]
          rfl
        have hsize : (checked c s).size dir = ((wants cs).lists dir).length := by
          have : (checked c s).size dir = (s.entries dir).length := h.size dir
          rw [this, h.entries, List.length_map]
        obtain ⟨t, ht, hreads, hentries⟩ := powerCommand_refused (c := c) dir
          (s := checked c s) fun hall => hno (.power dir settings)
            ⟨hheader, hcmd, fun d' l hl => by
              cases hl
              exact ⟨hcount ▸ hall.1, by omega⟩⟩
        refine ⟨t, by rw [hbody, ht]; rfl, ?_, ?_⟩
        · intro r hr
          rw [hreads] at hr
          rcases List.mem_append.1 hr with hr | hr
          · exact h.checked_safe.inside r hr
          · rw [List.mem_singleton.1 hr, show (checked c s).ptr = pos from hs]
            dsimp only
            omega
        · rw [hentries]
          exact h.short

/-- The entry that a command ends in that does not end in the buffer. -/
lemma Takes.cutEntry {dir : Dir} {settings : List (ℕ × ℕ)}
    (ht : Takes c cs pos (.power dir settings))
    (hf : c.cmdLength.toNat < pos + (Command.power dir settings).size) :
    CutEntry c pos 0 settings.length ((c.cmdLength.toNat - pos - 4) / 12) := by
  have hheader : pos + 16 ≤ c.cmdLength.toNat := ht.header
  simp only [Command.size] at hf
  exact ⟨by omega, by omega, by omega, by omega⟩

lemma OnWalk.cut (h : OnWalk c pos cs s) (ht : Takes c cs pos cmd)
    (hf : c.cmdLength.toNat < pos + cmd.size) (hcut : CutAtUnused c pos) :
    ∃ t, parseBody c s = .inl (.freePowerSettings, t) ∧ Safe c t := by
  cases cmd with
  | wait d => exact absurd ht.header (Nat.not_le.2 hf)
  | power dir settings =>
    have hheader : pos + 16 ≤ c.cmdLength.toNat := ht.header
    have hs : (checked c s).ptr = pos := h.ptr
    have hinside := powerStart_inside dir h.checked_safe.inside (hs.symm ▸ hheader)
    obtain ⟨t, ht', hin⟩ := takeSettings_cut dir hinside (powerStart_tot dir h.tot hheader)
      (ht.cutEntry hf) hcut.1 hcut.2
    have hshort := h.takeSettings_short ht
    rw [ht'] at hshort
    exact ⟨t, by rw [(h.parseBody_power ht).1, ht']; rfl, hin, hshort⟩

/-- The state at the end of a round. -/
def after : (Exit × ParseState) ⊕ ParseState → ParseState
  | .inl e => e.2
  | .inr t => t

lemma OnWalk.out (h : OnWalk c pos cs s) (ht : Takes c cs pos cmd)
    (hf : c.cmdLength.toNat < pos + cmd.size) (hcut : ¬ CutAtUnused c pos) :
    Out c (after (parseBody c s)) ∨ ∃ t, parseBody c s = .inr t ∧ Wrapped c t := by
  cases cmd with
  | wait d => exact absurd ht.header (Nat.not_le.2 hf)
  | power dir settings =>
    have hheader : pos + 16 ≤ c.cmdLength.toNat := ht.header
    have hptr : (powerStart c dir (checked c s)).ptr = pos + 4 + 12 * max 0 1 :=
      congrArg (· + 16) h.ptr
    rw [(h.parseBody_power ht).1]
    rcases takeSettings_out dir (s := powerStart c dir (checked c s))
      (powerStart_tot dir h.tot hheader) hptr (ht.cutEntry hf) hcut with hout | ⟨htrue, hwrap⟩
    · refine .inl ?_
      rw [afterPower]
      split_ifs
      · exact hout
      · exact hout
    · exact .inr ⟨_, if_pos htrue, hwrap⟩

lemma powerCommand_keeps (c : Call) (dir : Dir) (s : ParseState) :
    s.reads <+: (powerCommand c dir s).2.reads := by
  rw [powerCommand]
  dsimp only
  split_ifs
  · exact List.prefix_append ..
  · exact List.prefix_append ..
  · exact (List.prefix_append s.reads [(s.ptr, 2)]).trans (takeSettings_reads_keep c dir _ _ _
      (powerStart c dir s))

lemma afterPower_keeps {r : Bool × ParseState} (h : s.reads <+: r.2.reads) :
    s.reads <+: (after (afterPower r)).reads := by
  rw [afterPower]
  split_ifs
  · exact h
  · exact h

lemma waitCommand_keeps (c : Call) (s : ParseState) :
    s.reads <+: (after (waitCommand c s)).reads := by
  have hdelay : s.reads <+: (waitDelay c (s.read [(s.ptr + 2, 1)])).reads := by
    rcases waitDelay_reads c (s.read [(s.ptr + 2, 1)]) with h | h
    · rw [h]
      exact List.prefix_append ..
    · rw [h]
      exact (List.prefix_append ..).trans (List.prefix_append ..)
  rw [waitCommand]
  dsimp only
  split_ifs
  · exact hdelay
  · exact hdelay

lemma parseBody_keeps (c : Call) (s : ParseState) :
    (s.totSize < c.cmdLength → (checked c s).reads <+: (after (parseBody c s)).reads) ∧
      s.reads <+: (after (parseBody c s)).reads := by
  have hchecked : s.reads <+: (checked c s).reads := List.prefix_append ..
  by_cases hlt : s.totSize < c.cmdLength
  · suffices (checked c s).reads <+: (after (parseBody c s)).reads from
      ⟨fun _ => this, hchecked.trans this⟩
    cases hr : refused c s with
    | true =>
      rw [parseBody_refused hlt hr]
      exact List.prefix_rfl
    | false =>
      rw [parseBody_of_checked hlt hr]
      split_ifs
      · exact afterPower_keeps (powerCommand_keeps ..)
      · exact waitCommand_keeps ..
      · exact afterPower_keeps (powerCommand_keeps ..)
      · exact List.prefix_rfl
  · refine ⟨fun h => absurd h hlt, ?_⟩
    rw [parseBody_finished (UInt32.not_lt.1 hlt)]
    exact List.prefix_rfl

lemma Out.after (h : Out c s) : Out c (after (parseBody c s)) :=
  out_of_keeps h (parseBody_keeps c s).2

lemma Out.returns {e : Exit × ParseState} (h : Out c s)
    (he : WhileLoop.Returns (parseBody c) s e) : Out c e.2 := by
  obtain ⟨t, ht, hbreak⟩ := he.exists_break
  have hout : Out c t := ht.invariant (fun u v hu hv => by
    have := hu.after
    rwa [hv] at this) h
  have := hout.after
  rwa [hbreak] at this

lemma Wrapped.out (h : Wrapped c s) : Out c (after (parseBody c s)) := by
  obtain ⟨hptr, htot, hlen⟩ := h
  have hlt : s.totSize < c.cmdLength := UInt32.lt_iff_toNat_lt.2 (by omega)
  have h4 : ¬ (c.cmdLength - s.totSize).toNat < 4 := by
    rw [remain_eq rfl (by omega)]
    omega
  refine out_of_keeps (s := checked c s) ?_ ((parseBody_keeps c s).1 hlt)
  refine ⟨(s.ptr + 3, 1), ?_, by dsimp only; omega⟩
  rw [checked_reads h4]
  exact List.mem_append_right _ (List.mem_singleton_self _)

lemma returns_out {e : Exit × ParseState} (h : Out c (after (parseBody c s)))
    (he : WhileLoop.Returns (parseBody c) s e) : Out c e.2 := by
  cases hb : parseBody c s with
  | inl e' =>
    rw [hb] at h
    exact (WhileLoop.returns_of_break hb).unique he ▸ h
  | inr t =>
    rw [hb] at h
    exact h.returns (he.tail hb)

lemma Stream.unique {mem : Memory} {stop p : ℕ} {ds : List Command} (h : Stream mem stop p cs)
    (h' : Stream mem stop p ds) : cs = ds := by
  induction h generalizing ds with
  | nil =>
    cases h' with
    | nil => rfl
    | cons hlt => exact absurd hlt (Nat.lt_irrefl _)
  | cons hlt hc _ ih =>
    cases h' with
    | nil => exact absurd hlt (Nat.lt_irrefl _)
    | cons _ hc' hcs' =>
      cases Option.some.inj (hc.symm.trans hc')
      rw [ih hcs']

lemma size_pos (cmd : Command) : 0 < cmd.size := by
  cases cmd <;> simp [Command.size]

lemma Walk.stream {stop : ℕ} {ds : List Command} (h : Walk c pos cs)
    (hds : Stream c.mem stop pos ds) (hstop : pos ≤ stop) : Stream c.mem stop 0 (cs ++ ds) := by
  induction h generalizing ds with
  | start => exact hds
  | @next pos cs cmd _ ht _ ih =>
    have hpos := size_pos cmd
    rw [List.append_assoc]
    exact ih (.cons (by omega) ht.command hds) (by omega)

lemma Walk.whole (h : Walk c c.cmdLength.toNat cs) : Stream c.mem c.cmdLength.toNat 0 cs := by
  have hnil : Stream c.mem c.cmdLength.toNat c.cmdLength.toNat [] := .nil
  have := h.stream hnil le_rfl
  rwa [List.append_nil] at this

lemma Walk.reaches (hs : OnWalk c 0 [] s) (h : Walk c pos cs) :
    ∃ t, WhileLoop.Reaches (parseBody c) s t ∧ OnWalk c pos cs t := by
  induction h with
  | start => exact ⟨s, .refl, hs⟩
  | next _ ht hf ih =>
    obtain ⟨t, hreach, ht'⟩ := ih
    obtain ⟨u, hbody, hu⟩ := ht'.next ht hf
    exact ⟨u, .step hreach hbody, hu⟩

lemma OnWalk.finished (h : OnWalk c c.cmdLength.toNat cs s) : parseBody c s = .inl (.finished, s) :=
  parseBody_finished (by rw [UInt32.le_iff_toNat_le, h.tot])

/-- Every command that is taken up ends in the buffer, or is cut at the word that is not read. -/
def CutsAtUnused (c : Call) : Prop := ∀ pos cs cmd, Walk c pos cs → Takes c cs pos cmd →
  pos + cmd.size ≤ c.cmdLength.toNat ∨ CutAtUnused c pos

lemma OnWalk.ends (hcuts : CutsAtUnused c) (hw : Walk c pos cs) (h : OnWalk c pos cs s) :
    ∃ e, WhileLoop.Returns (parseBody c) s e ∧
      ((e.1 = .freePowerSettings ∧ Safe c e.2) ∨
        e.1 = .finished ∧ ∃ ds, Walk c c.cmdLength.toNat ds ∧ OnWalk c c.cmdLength.toNat ds e.2) := by
  induction hm : c.cmdLength.toNat - pos using Nat.strong_induction_on generalizing pos cs s with
  | h m ih =>
    rcases Nat.eq_or_lt_of_le h.le with rfl | hlt
    · exact ⟨_, WhileLoop.returns_of_break h.finished, .inr ⟨rfl, cs, hw, h⟩⟩
    by_cases hex : ∃ cmd, Takes c cs pos cmd
    · obtain ⟨cmd, ht⟩ := hex
      have hpos := size_pos cmd
      by_cases hf : pos + cmd.size ≤ c.cmdLength.toNat
      · obtain ⟨t, hbody, ht'⟩ := h.next ht hf
        obtain ⟨e, he, hend⟩ := ih _ (by omega) (.next hw ht hf) ht' rfl
        exact ⟨e, he.of_step hbody, hend⟩
      · obtain ⟨t, hbody, hsafe⟩ :=
          h.cut ht (Nat.not_le.1 hf) ((hcuts _ _ _ hw ht).resolve_left hf)
        exact ⟨_, WhileLoop.returns_of_break hbody, .inl ⟨rfl, hsafe⟩⟩
    · obtain ⟨t, hbody, hsafe⟩ := h.refused hlt fun cmd ht => hex ⟨cmd, ht⟩
      exact ⟨_, WhileLoop.returns_of_break hbody, .inl ⟨rfl, hsafe⟩⟩

/-! ### The call -/

lemma argsCheck_reads (c : Call) (h0 : c.cmdLength ≠ 0) (h4 : 4 ≤ c.cmdBufLen) :
    (argsCheck c).2 = [(3, 1)] := by
  rw [argsCheck, if_neg h0, camSensorValidate_header (by omega)]

lemma argsCheck_inside (h4 : c.cmdLength ≠ 0 → 4 ≤ c.cmdBufLen → 4 ≤ c.cmdLength.toNat) :
    ∀ r ∈ (argsCheck c).2, r.1 + r.2 ≤ c.cmdLength.toNat := by
  intro r hr
  by_cases h0 : c.cmdLength = 0
  · rw [argsCheck, if_pos h0] at hr
    cases hr
  · by_cases hbuf : 4 ≤ c.cmdBufLen
    · rw [argsCheck_reads c h0 hbuf] at hr
      rw [List.mem_singleton.1 hr]
      exact h4 h0 hbuf
    · rw [argsCheck, if_neg h0, camSensorValidate_short (by omega)] at hr
      cases hr

lemma argsCheck_taken (h : ¬ (argsCheck c).1 = true) : c.cmdLength ≠ 0 ∧ 4 ≤ c.cmdBufLen := by
  rw [argsCheck] at h
  split_ifs at h with h0
  · exact absurd rfl h
  · refine ⟨h0, Nat.not_lt.1 fun h4 => h ?_⟩
    rw [camSensorValidate_short h4]

lemma PowerInfo.eq_freed {i : PowerInfo} (h : i.isFreed) : i = .freed := by
  obtain ⟨setting, size⟩ := i
  exact congrArg₂ _ (funext fun dir => (h dir).1) (funext fun dir => (h dir).2)

lemma onWalk_start (h : Inside c (parseStart (argsCheck c).2)) :
    OnWalk c 0 [] (parseStart (argsCheck c).2) where
  le := Nat.zero_le _
  tot := rfl
  ptr := rfl
  last := rfl
  size _ := rfl
  short _ := Nat.zero_le _
  entries _ := rfl
  inside := h

lemma holds_stored {w : Wanted} (h0 : 0 ≤ w.delay) (h1 : w.delay < 0x10000) :
    w.stored.holds = w := by
  obtain ⟨t, v, d⟩ := w
  simp only [Wanted.stored, PowerSetting.holds, Wanted.mk.injEq, true_and]
  dsimp only at h0 h1
  omega

lemma stored_range (w : Wanted) : 0 ≤ w.stored.holds.delay ∧ w.stored.holds.delay < 0x10000 := by
  simp only [Wanted.stored, PowerSetting.holds]
  omega

lemma error_kept {r : Result} (hrc : r.rc < 0) (hinfo : r.info = .freed)
    (hreads : ∀ x ∈ r.reads, x.1 + x.2 ≤ c.cmdLength.toNat)
    (hwritten : ∀ dir, r.written dir ≤ MAX_POWER_CONFIG) : r.Kept c :=
  ⟨hreads, hwritten, fun h => absurd hrc (h ▸ lt_irrefl _), fun _ => hinfo⟩

lemma OnWalk.kept (hw : Walk c c.cmdLength.toNat cs) (h : OnWalk c c.cmdLength.toNat cs s)
    (hdelay : ∀ dir, ∀ x ∈ (wants cs).lists dir, 0 ≤ x.delay ∧ x.delay < 0x10000) :
    (endOfLoop (.finished, s)).Kept c where
  reads := h.inside
  written := h.short
  success _ := by
    refine ⟨cs, hw.whole, fun dir => ⟨s.entries dir, rfl, ?_, h.size dir, rfl⟩⟩
    rw [h.entries, List.map_map]
    exact (List.map_congr_left fun x hx =>
      holds_stored (hdelay dir x hx).1 (hdelay dir x hx).2).trans (List.map_id _)
  error hrc := absurd hrc (lt_irrefl _)

lemma einval_lt : -Errno.EINVAL < 0 := by decide

lemma enomem_lt : -Errno.ENOMEM < 0 := by decide

@[simp] lemma endOfLoop_reads (e : Exit × ParseState) : (endOfLoop e).reads = e.2.reads := by
  obtain ⟨exit, t⟩ := e
  cases exit <;> rfl

lemma sound_of_good (h : c.Good) : c.Sound := by
  rw [Call.Good] at h
  rw [Call.Sound]
  simp only [CamSensorUpdatePowerSettings]
  by_cases hargs : (argsCheck c).1 = true
  · rw [if_pos hargs] at h
    simp only [if_pos hargs]
    exact ⟨_, rfl, error_kept einval_lt (PowerInfo.eq_freed h.1) (argsCheck_inside h.2)
      fun _ => Nat.zero_le _⟩
  rw [if_neg hargs] at h
  simp only [if_neg hargs]
  obtain ⟨h4, h⟩ := h
  have hreads := argsCheck_inside (c := c) fun _ _ => h4
  cases hup : c.grants .up with
  | false =>
    rw [hup] at h
    refine ⟨_, rfl, error_kept enomem_lt (PowerInfo.eq_freed fun dir => ?_) hreads
      fun _ => Nat.zero_le _⟩
    cases dir with
    | up => exact ⟨rfl, rfl⟩
    | down => exact h
  | true =>
    rw [hup] at h
    cases hdown : c.grants .down with
    | false => exact ⟨_, rfl, error_kept enomem_lt rfl hreads fun _ => Nat.zero_le _⟩
    | true =>
      obtain ⟨hcuts, hdelay⟩ := h hdown
      obtain ⟨⟨exit, t⟩, he, hend⟩ := (onWalk_start hreads).ends hcuts .start
      refine ⟨_, ⟨_, he, rfl⟩, ?_⟩
      rcases hend with ⟨rfl, hsafe⟩ | ⟨rfl, ds, hw, ht⟩
      · exact error_kept einval_lt rfl hsafe.inside hsafe.short
      · exact ht.kept hw (hdelay ds hw)

lemma good_of_loop {e : Exit × ParseState} (h4 : 4 ≤ c.cmdLength.toNat)
    (he : WhileLoop.Returns (parseBody c) (parseStart (argsCheck c).2) e)
    (hkept : (endOfLoop e).Kept c) :
    CutsAtUnused c ∧ ∀ cs, Walk c c.cmdLength.toNat cs → ∀ dir, ∀ x ∈ (wants cs).lists dir,
      0 ≤ x.delay ∧ x.delay < 0x10000 := by
  have hstart := onWalk_start (c := c) (argsCheck_inside fun _ _ => h4)
  have hin : ∀ r ∈ e.2.reads, r.1 + r.2 ≤ c.cmdLength.toNat := by
    have := hkept.reads
    rwa [endOfLoop_reads] at this
  refine ⟨fun pos cs cmd hw ht => ?_, fun cs hw dir x hx => ?_⟩
  · by_contra hno
    rw [not_or, Nat.not_le] at hno
    obtain ⟨s, hreach, hs⟩ := hw.reaches hstart
    have hs' := he.of_reaches hreach
    have hout : Out c e.2 := by
      rcases hs.out ht hno.1 hno.2 with hout | ⟨t, hbody, hwrap⟩
      · exact returns_out hout hs'
      · exact returns_out hwrap.out (hs'.tail hbody)
    obtain ⟨r, hr, hlt⟩ := hout
    exact absurd (hin r hr) (Nat.not_le.2 hlt)
  · obtain ⟨s, hreach, hs⟩ := hw.reaches hstart
    have hfin : e = (.finished, s) :=
      (he.of_reaches hreach).unique (WhileLoop.returns_of_break hs.finished)
    subst hfin
    obtain ⟨ds, hds, hlists⟩ := hkept.success rfl
    obtain rfl : cs = ds := hw.whole.unique hds
    obtain ⟨es, hes, hmap, -⟩ := hlists dir
    obtain rfl : s.entries dir = es := Option.some.inj hes
    rw [← hmap, hs.entries, List.map_map] at hx
    obtain ⟨w, -, rfl⟩ := List.mem_map.1 hx
    exact stored_range w

lemma good_of_sound (h : c.Sound) : c.Good := by
  obtain ⟨r, hr, hkept⟩ := h
  rw [CamSensorUpdatePowerSettings] at hr
  rw [Call.Good]
  by_cases hargs : (argsCheck c).1 = true
  · rw [if_pos hargs] at hr ⊢
    subst hr
    have hfreed : c.info = .freed := hkept.error einval_lt
    refine ⟨fun dir => by rw [hfreed]; exact ⟨rfl, rfl⟩, fun h0 hbuf => ?_⟩
    refine hkept.reads (3, 1) ?_
    exact argsCheck_reads c h0 hbuf ▸ List.mem_singleton_self _
  rw [if_neg hargs] at hr ⊢
  obtain ⟨h0, hbuf⟩ := argsCheck_taken hargs
  have hheader : (3, 1) ∈ (argsCheck c).2 := argsCheck_reads c h0 hbuf ▸ List.mem_singleton_self _
  cases hup : c.grants .up with
  | false =>
    rw [hup] at hr
    subst hr
    have hfreed := hkept.error enomem_lt
    refine ⟨hkept.reads _ hheader, ?_⟩
    exact ⟨congrFun (congrArg PowerInfo.setting hfreed) .down,
      congrFun (congrArg PowerInfo.size hfreed) .down⟩
  | true =>
    rw [hup] at hr
    cases hdown : c.grants .down with
    | false =>
      rw [hdown] at hr
      subst hr
      exact ⟨hkept.reads _ hheader, nofun⟩
    | true =>
      rw [hdown] at hr
      obtain ⟨e, he, rfl⟩ := hr
      have h4 : 4 ≤ c.cmdLength.toNat := by
        by_contra h4
        have hout : Out c (parseStart (argsCheck c).2) := ⟨_, hheader, Nat.not_le.1 h4⟩
        obtain ⟨r, hr, hlt⟩ := hout.returns he
        exact absurd (hkept.reads r (by rwa [endOfLoop_reads])) (Nat.not_le.2 hlt)
      exact ⟨h4, fun _ => good_of_loop h4 he hkept⟩

/-- The call keeps what it promises where it is good, and nowhere else. -/
theorem power_sound_iff_good (c : Call) : c.Sound ↔ c.Good := ⟨good_of_sound, sound_of_good⟩

/-- One command with two settings up, of which the buffer holds one and four bytes of the other. -/
def cutSetting : Call where
  mem p := if p = 0 ∨ p = 3 then 2 else 0
  cmdLength := 20
  cmdBufLen := 20
  inside := by decide
  info := .freed
  grants _ := true

theorem power_not_sound : ¬ ∀ c : Call, c.Sound := by
  intro h
  obtain ⟨r, hr, hkept⟩ := h cutSetting
  obtain ⟨e, he, rfl⟩ : ∃ e, WhileLoop.Returns (parseBody cutSetting)
    (parseStart (argsCheck cutSetting).2) e ∧ r = endOfLoop e := hr
  -- The value of the second setting is read before its end is counted.
  have hread : Out cutSetting (after (parseBody cutSetting (parseStart (argsCheck cutSetting).2))) :=
    ⟨(20, 4), by decide, by decide⟩
  obtain ⟨x, hx, hlt⟩ := returns_out hread he
  exact absurd (hkept.reads x (by rwa [endOfLoop_reads])) (Nat.not_le.2 hlt)

end CameraKernel.PowerSettings
