import CameraKernel.PowerSettingsWalk

/-! The parser of power commands as a function, for commands of less than 64 KiB, and how far it reads. -/
namespace CameraKernel.PowerSettings
open GenericBlob (Memory readWord)
open SensorUtil (byteAt readHalf)
variable {c : Call} {pos stop : ℕ} {cs : List Command} {cmd : Command} {s t : ParseState}

/-- The call's result; every round of the loop takes a header of four bytes at least. -/
def updatePowerSettings (c : Call) : Option Result :=
  if (argsCheck c).1 then some ⟨-Errno.EINVAL, c.info, fun _ => 0, (argsCheck c).2⟩
  else if !c.grants .up then
    some ⟨-Errno.ENOMEM, ⟨Function.update c.info.setting .up none, Function.update c.info.size .up 0⟩,
      fun _ => 0, (argsCheck c).2⟩
  else if !c.grants .down then some ⟨-Errno.ENOMEM, .freed, fun _ => 0, (argsCheck c).2⟩
  else (WhileLoop.run (parseBody c) (c.cmdLength.toNat + 1) (parseStart (argsCheck c).2)).map endOfLoop

/-- The entries of a command at `pos` that are looked at: those whose place starts in the buffer. -/
def takenEntries (c : Call) (pos count : ℕ) : ℕ := min count ((c.cmdLength.toNat - pos - 4) / 12 + 1)

/-- The bytes the parser looks at lie before `stop`: the header of each command it comes to, and the
settings of a power command up to the one that the buffer ends in. -/
def ReadsTo (c : Call) (stop : ℕ) : Prop := ∀ pos cs, Walk c pos cs → pos + 4 ≤ c.cmdLength.toNat →
  pos + 4 ≤ stop ∧ ∀ dir settings, Takes c cs pos (.power dir settings) →
    pos + 12 * takenEntries c pos settings.length ≤ stop

def Upto (rs : List (ℕ × ℕ)) (stop : ℕ) : Prop := ∀ r ∈ rs, r.1 + r.2 ≤ stop

@[simp] lemma upto_append (rs qs : List (ℕ × ℕ)) :
    Upto (rs ++ qs) stop ↔ Upto rs stop ∧ Upto qs stop := by
  simp only [Upto, List.mem_append, or_imp, forall_and]

@[simp] lemma upto_cons (r : ℕ × ℕ) (rs : List (ℕ × ℕ)) :
    Upto (r :: rs) stop ↔ r.1 + r.2 ≤ stop ∧ Upto rs stop := List.forall_mem_cons

@[simp] lemma upto_nil : Upto [] stop := fun _ h => nomatch h

lemma upto_settings (base m : ℕ) :
    Upto ((List.range' 0 m).flatMap (settingReads base)) stop ↔ (0 < m → base + 12 * m ≤ stop) := by
  constructor
  · intro h hm
    have hlast := h (base + 8 + 12 * (m - 1), 4) (List.mem_flatMap.2 ⟨m - 1,
      List.mem_range'_1.2 ⟨Nat.zero_le _, by omega⟩,
      List.mem_cons_of_mem _ (List.mem_singleton_self _)⟩)
    dsimp only at hlast
    omega
  · intro h r hr
    obtain ⟨i, hi, hr⟩ := List.mem_flatMap.1 hr
    have hlt := (List.mem_range'_1.1 hi).2
    have hle := h (by omega)
    exact settingReads_le (by omega) r hr

lemma OnWalk.upto_checked (h : OnWalk c pos cs s) (h4 : pos + 4 ≤ c.cmdLength.toNat) :
    Upto (checked c s).reads stop ↔ Upto s.reads stop ∧ pos + 4 ≤ stop := by
  rw [checked_reads (by rw [remain_eq h.tot h.le]; omega), h.ptr]
  simp [Nat.add_assoc]

lemma OnWalk.upto_power {dir : Dir} {settings : List (ℕ × ℕ)} (hshort : c.cmdLength.toNat < 2 ^ 16)
    (h : OnWalk c pos cs s) (ht : Takes c cs pos (.power dir settings)) :
    Upto (after (parseBody c s)).reads stop ↔ Upto s.reads stop ∧ pos + 4 ≤ stop ∧
      pos + 12 * takenEntries c pos settings.length ≤ stop := by
  have hheader : pos + 16 ≤ c.cmdLength.toNat := ht.header
  have hs : (checked c s).ptr = pos := h.ptr
  have hstart := powerStart_tot (c := c) (s := checked c s) dir h.tot hheader
  have hreads : (after (parseBody c s)).reads = (checked c s).reads ++ [(pos, 2)] ++
      (List.range' 0 (takenEntries c pos settings.length)).flatMap (settingReads pos) := by
    have hpower : (powerStart c dir (checked c s)).reads = (checked c s).reads ++ [(pos, 2)] := by
      rw [← hs]
      rfl
    rw [(h.parseBody_power ht).1]
    by_cases hf : pos + (Command.power dir settings).size ≤ c.cmdLength.toNat
    · simp only [Command.size] at hf
      obtain ⟨t, ht', -, -, -, -, -, hreads⟩ :=
        takeSettings_fits (c := c) dir (n := settings.length) hstart (by omega)
      have hall : takenEntries c pos settings.length = settings.length := by
        rw [takenEntries]
        omega
      rw [ht', hall, ← hpower, ← hreads]
      rfl
    · have hcut := ht.cutEntry (Nat.not_le.1 hf)
      obtain ⟨t, ht', hreads⟩ := takeSettings_cut_reads dir hstart hcut (by omega)
      have hmore := hcut.more
      have hall : takenEntries c pos settings.length = (c.cmdLength.toNat - pos - 4) / 12 + 1 - 0 := by
        rw [takenEntries]
        omega
      rw [ht', hall, ← hpower, ← hreads]
      rfl
  rw [hreads, upto_append, upto_append, h.upto_checked (by omega), upto_settings]
  simp only [upto_cons, upto_nil, and_true]
  constructor
  · rintro ⟨⟨⟨hs, h4⟩, -⟩, hall⟩
    exact ⟨hs, h4, by omega⟩
  · rintro ⟨hs, h4, hall⟩
    exact ⟨⟨⟨hs, h4⟩, by omega⟩, fun _ => hall⟩

lemma OnWalk.upto_other (h : OnWalk c pos cs s) (h4 : pos + 4 ≤ c.cmdLength.toNat)
    (hno : ∀ dir settings, ¬ Takes c cs pos (.power dir settings)) :
    Upto (after (parseBody c s)).reads stop ↔ Upto s.reads stop ∧ pos + 4 ≤ stop := by
  have hlt := h.lt (c := c) (by omega)
  have hchecked : Upto (checked c s).reads stop ↔ _ := h.upto_checked h4
  cases hr : PowerSettings.refused c s with
  | true =>
    rw [parseBody_refused hlt hr]
    exact hchecked
  | false =>
    cases hc : commandAt c.mem s.ptr with
    | none =>
      rw [parseBody_unknown hlt hr hc]
      exact hchecked
    | some cmd =>
      have hcmd : commandAt c.mem pos = some cmd := h.ptr ▸ hc
      have hheader := (not_refused_iff h.tot h.ptr h.le hcmd).1 hr
      have hs : (checked c s).ptr = pos := h.ptr
      cases cmd with
      | wait d =>
        rw [(parseBody_wait hlt hr hc).1]
        have hreads : (after (waitCommand c (checked c s))).reads =
            (waitDelay c ((checked c s).read [((checked c s).ptr + 2, 1)])).reads := by
          rw [waitCommand]
          dsimp only
          split_ifs
          · rfl
          · rfl
        rw [hreads, hs]
        rcases waitDelay_reads c ((checked c s).read [(pos + 2, 1)]) with hu | hu
        · rw [hu]
          simp only [ParseState.read, upto_append, upto_cons, upto_nil, hchecked, and_true]
          exact and_iff_left_of_imp fun h => by omega
        · rw [hu]
          simp only [ParseState.read, upto_append, upto_cons, upto_nil, hchecked, hs, and_true]
          rw [and_assoc (b := pos + 2 + 1 ≤ stop)]
          exact and_iff_left_of_imp fun h => by omega
      | power dir settings =>
        obtain ⟨hbody, hset⟩ := PowerSettings.parseBody_power hlt hr hc
        have hcount : settings.length = readHalf c.mem (checked c s).ptr := by
          rw [hset, settingsAt_length]
          rfl
        have hsize : (checked c s).size dir = ((wants cs).lists dir).length := by
          have : (checked c s).size dir = (s.entries dir).length := h.size dir
          rw [this, h.entries, List.length_map]
        obtain ⟨t, ht, hreads, -⟩ := powerCommand_refused (c := c) dir
          (s := checked c s) fun hall => hno dir settings
            ⟨hheader, hcmd, fun d' l hl => by
              cases hl
              exact ⟨hcount ▸ hall.1, by omega⟩⟩
        rw [hbody, ht]
        change Upto t.reads stop ↔ _
        rw [hreads, hs]
        simp only [upto_append, upto_cons, upto_nil, hchecked, and_true]
        exact and_iff_left_of_imp fun h => by omega

lemma OnWalk.short_header (h : OnWalk c pos cs s) (hlt : pos < c.cmdLength.toNat)
    (h4 : c.cmdLength.toNat < pos + 4) :
    parseBody c s = .inl (.freePowerSettings, checked c s) ∧ (checked c s).reads = s.reads := by
  have hrem : (c.cmdLength - s.totSize).toNat < 4 := by
    rw [remain_eq h.tot h.le]
    omega
  refine ⟨parseBody_refused (h.lt hlt) (refused_iff.2 (.inl hrem)), ?_⟩
  rw [checked, camSensorValidate_short hrem]
  exact List.append_nil _

lemma OnWalk.upto_step (hshort : c.cmdLength.toNat < 2 ^ 16) (hto : ReadsTo c stop) (hw : Walk c pos cs)
    (h : OnWalk c pos cs s) (hlt : pos < c.cmdLength.toNat) (hs : Upto s.reads stop) :
    Upto (after (parseBody c s)).reads stop := by
  by_cases h4 : pos + 4 ≤ c.cmdLength.toNat
  · obtain ⟨hheader, hsettings⟩ := hto pos cs hw h4
    by_cases hex : ∃ dir settings, Takes c cs pos (.power dir settings)
    · obtain ⟨dir, settings, ht⟩ := hex
      exact (h.upto_power hshort ht).2 ⟨hs, hheader, hsettings dir settings ht⟩
    · exact (h.upto_other h4 fun dir settings ht => hex ⟨dir, settings, ht⟩).2 ⟨hs, hheader⟩
  · obtain ⟨hbody, hreads⟩ := h.short_header hlt (Nat.not_le.1 h4)
    rw [hbody]
    change Upto (checked c s).reads stop
    rwa [hreads]

lemma OnWalk.cut_short (hshort : c.cmdLength.toNat < 2 ^ 16) (h : OnWalk c pos cs s)
    (ht : Takes c cs pos cmd) (hf : c.cmdLength.toNat < pos + cmd.size) :
    ∃ t, parseBody c s = .inl (.freePowerSettings, t) := by
  cases cmd with
  | wait d => exact absurd ht.header (Nat.not_le.2 hf)
  | power dir settings =>
    have hheader : pos + 16 ≤ c.cmdLength.toNat := ht.header
    obtain ⟨t, ht', -⟩ := takeSettings_cut_reads dir
      (powerStart_tot (c := c) (s := checked c s) dir h.tot hheader) (ht.cutEntry hf) (by omega)
    exact ⟨t, by rw [(h.parseBody_power ht).1, ht']; rfl⟩

lemma size_ge (cmd : Command) : 4 ≤ cmd.size := by
  cases cmd <;> simp [Command.size]

lemma OnWalk.run_short (hshort : c.cmdLength.toNat < 2 ^ 16) (hw : Walk c pos cs)
    (h : OnWalk c pos cs s) :
    ∃ e, WhileLoop.run (parseBody c) (c.cmdLength.toNat - pos + 1) s = some e ∧
      ∀ stop, ReadsTo c stop → Upto s.reads stop → Upto e.2.reads stop := by
  have hbreak {n : ℕ} {e : Exit × ParseState} (he : parseBody c s = .inl e) :
      WhileLoop.run (parseBody c) (n + 1) s = some e := by
    rw [WhileLoop.run, he]
  induction hm : c.cmdLength.toNat - pos using Nat.strong_induction_on generalizing pos cs s with
  | h m ih =>
    subst hm
    rcases Nat.eq_or_lt_of_le h.le with rfl | hlt
    · exact ⟨_, hbreak h.finished, fun _ _ hs => hs⟩
    have hstep : ∀ stop, ReadsTo c stop → Upto s.reads stop →
        Upto (after (parseBody c s)).reads stop :=
      fun stop hto hs => h.upto_step hshort hto hw hlt hs
    by_cases hex : ∃ cmd, Takes c cs pos cmd
    · obtain ⟨cmd, ht⟩ := hex
      have hsize := size_ge cmd
      by_cases hf : pos + cmd.size ≤ c.cmdLength.toNat
      · obtain ⟨t, hbody, ht'⟩ := h.next ht hf
        obtain ⟨e, he, hend⟩ := ih _ (by omega) (.next hw ht hf) ht'
          (fun he => by rw [WhileLoop.run, he]) rfl
        refine ⟨e, ?_, fun stop hto hs => hend stop hto ?_⟩
        · rw [WhileLoop.run_of_step hbody]
          exact WhileLoop.run_mono he (by omega)
        · have := hstep stop hto hs
          rwa [hbody] at this
      · obtain ⟨t, hbody⟩ := h.cut_short hshort ht (Nat.not_le.1 hf)
        refine ⟨_, hbreak hbody, fun stop hto hs => ?_⟩
        have := hstep stop hto hs
        rwa [hbody] at this
    · obtain ⟨t, hbody, -⟩ := h.refused hlt fun cmd ht => hex ⟨cmd, ht⟩
      refine ⟨_, hbreak hbody, fun stop hto hs => ?_⟩
      have := hstep stop hto hs
      rwa [hbody] at this

lemma parseStart_short (h0 : c.cmdLength ≠ 0) (h4 : c.cmdLength.toNat < 4) (reads : List (ℕ × ℕ)) :
    ∃ t, parseBody c (parseStart reads) = .inl (.freePowerSettings, t) ∧ t.reads = reads := by
  have hpos : c.cmdLength.toNat ≠ 0 := fun h => h0 (UInt32.toNat_inj.1 h)
  have hlt : (parseStart reads).totSize < c.cmdLength := by
    rw [UInt32.lt_iff_toNat_lt]
    exact Nat.pos_of_ne_zero hpos
  have hrem : (c.cmdLength - (parseStart reads).totSize).toNat < 4 := by
    rw [remain_eq (show (parseStart reads).totSize.toNat = 0 from rfl) (Nat.zero_le _)]
    omega
  refine ⟨_, parseBody_refused hlt (refused_iff.2 (.inl hrem)), ?_⟩
  rw [checked, camSensorValidate_short hrem]
  exact List.append_nil _

lemma run_parseStart (hshort : c.cmdLength.toNat < 2 ^ 16) (hargs : ¬ (argsCheck c).1 = true) :
    ∃ e, WhileLoop.run (parseBody c) (c.cmdLength.toNat + 1) (parseStart (argsCheck c).2) = some e ∧
      (e.1 = .finished → 4 ≤ c.cmdLength.toNat) ∧
      ∀ stop, ReadsTo c stop → Upto (argsCheck c).2 stop → Upto e.2.reads stop := by
  obtain ⟨h0, hbuf⟩ := argsCheck_taken hargs
  by_cases h4 : 4 ≤ c.cmdLength.toNat
  · obtain ⟨e, he, hto⟩ := OnWalk.run_short hshort .start
      (onWalk_start (argsCheck_inside fun _ _ => h4))
    exact ⟨e, he, fun _ => h4, hto⟩
  · obtain ⟨t, hbody, hreads⟩ := parseStart_short h0 (Nat.not_le.1 h4) (argsCheck c).2
    refine ⟨(.freePowerSettings, t), ?_, nofun, fun stop _ hs => ?_⟩
    · rw [WhileLoop.run, hbody]
    · change Upto t.reads stop
      rwa [hreads]

theorem updatePowerSettings_returns {r : Result} (h : updatePowerSettings c = some r) :
    CamSensorUpdatePowerSettings c r := by
  rw [updatePowerSettings] at h
  rw [CamSensorUpdatePowerSettings]
  split_ifs at h ⊢ with hargs hup hdown
  · exact (Option.some.inj h).symm
  · exact (Option.some.inj h).symm
  · exact (Option.some.inj h).symm
  · obtain ⟨e, he, rfl⟩ := Option.map_eq_some_iff.1 h
    exact ⟨e, ⟨_, he⟩, rfl⟩

theorem exists_updatePowerSettings (hshort : c.cmdLength.toNat < 2 ^ 16) :
    ∃ r, updatePowerSettings c = some r := by
  rw [updatePowerSettings]
  split_ifs with hargs
  · exact ⟨_, rfl⟩
  · exact ⟨_, rfl⟩
  · exact ⟨_, rfl⟩
  · obtain ⟨e, he, -⟩ := run_parseStart hshort hargs
    exact ⟨_, by rw [he]; rfl⟩

lemma Upto.mono {rs qs : List (ℕ × ℕ)} (h : Upto qs stop) (hp : rs <+: qs) : Upto rs stop :=
  fun r hr => h r (hp.subset hr)

lemma readsTo_of_upto {e : Exit × ParseState} (hshort : c.cmdLength.toNat < 2 ^ 16)
    (he : WhileLoop.Returns (parseBody c) (parseStart (argsCheck c).2) e) (hto : Upto e.2.reads stop) :
    ReadsTo c stop := by
  intro pos cs hw h4
  have hstart := onWalk_start (c := c) (argsCheck_inside fun _ _ => by omega)
  obtain ⟨s, hreach, hs⟩ := hw.reaches hstart
  have hs' := he.of_reaches hreach
  have hafter : Upto (after (parseBody c s)).reads stop := by
    cases hb : parseBody c s with
    | inl e' => exact (hs'.unique (WhileLoop.returns_of_break hb)) ▸ hto
    | inr t =>
      obtain ⟨u, hu, hbreak⟩ := (hs'.tail hb).exists_break
      have hround (v w : ParseState) (hv : t.reads <+: v.reads) (hw : parseBody c v = .inr w) :
          t.reads <+: w.reads := hv.trans (by
        have := (parseBody_keeps c v).2
        rwa [hw] at this)
      have hkeep : t.reads <+: u.reads := @WhileLoop.Reaches.invariant _ _ (parseBody c) t u
        (fun v => t.reads <+: v.reads) hround List.prefix_rfl hu
      have hlast := (parseBody_keeps c u).2
      rw [hbreak] at hlast
      exact hto.mono (hkeep.trans hlast)
  refine ⟨?_, fun dir settings ht => ((hs.upto_power hshort ht).1 hafter).2.2⟩
  by_cases hex : ∃ dir settings, Takes c cs pos (.power dir settings)
  · obtain ⟨dir, settings, ht⟩ := hex
    exact ((hs.upto_power hshort ht).1 hafter).2.1
  · exact ((hs.upto_other h4 fun dir settings ht => hex ⟨dir, settings, ht⟩).1 hafter).2

/-- The bytes read lie before `stop` where the commands allow it. -/
theorem upto_updatePowerSettings {r : Result} (hshort : c.cmdLength.toNat < 2 ^ 16) (h4 : 4 ≤ stop)
    (h : updatePowerSettings c = some r) : Upto r.reads stop ↔
      ((argsCheck c).1 = false → c.grants .up = true → c.grants .down = true → ReadsTo c stop) := by
  have hargs4 : Upto (argsCheck c).2 stop := by
    by_cases h0 : c.cmdLength = 0
    · rw [argsCheck, if_pos h0]
      exact upto_nil
    · by_cases hbuf : 4 ≤ c.cmdBufLen
      · rw [argsCheck_reads c h0 hbuf]
        simpa using h4
      · rw [argsCheck, if_neg h0, camSensorValidate_short (by omega)]
        exact upto_nil
  rw [updatePowerSettings] at h
  split_ifs at h with hargs hup hdown
  · rw [← Option.some.inj h]
    exact iff_of_true hargs4 fun hno => absurd hargs (Bool.not_eq_true _ ▸ hno)
  · rw [← Option.some.inj h]
    exact iff_of_true hargs4 fun _ hyes => absurd hup (by simp [hyes])
  · rw [← Option.some.inj h]
    exact iff_of_true hargs4 fun _ _ hyes => absurd hdown (by simp [hyes])
  · obtain ⟨e, he, rfl⟩ := Option.map_eq_some_iff.1 h
    rw [endOfLoop_reads]
    constructor
    · exact fun hto _ _ _ => readsTo_of_upto hshort ⟨_, he⟩ hto
    · intro hto
      obtain ⟨e', he', -, hall⟩ := run_parseStart hshort hargs
      cases Option.some.inj (he.symm.trans he')
      exact hall stop (hto (Bool.eq_false_of_not_eq_true hargs) (by simpa using hup)
        (by simpa using hdown)) hargs4

lemma cutSetting_runs : (updatePowerSettings cutSetting).isSome = true := by decide +kernel

theorem upto_updatePowerSettings_cutSetting :
    Upto ((updatePowerSettings cutSetting).get cutSetting_runs).reads 20 ↔
      ((argsCheck cutSetting).1 = false → cutSetting.grants .up = true →
        cutSetting.grants .down = true → ReadsTo cutSetting 20) :=
  upto_updatePowerSettings (by decide) (by decide) (Option.some_get _).symm

lemma updatePowerSettings_success {r : Result} (hshort : c.cmdLength.toNat < 2 ^ 16)
    (h : updatePowerSettings c = some r) (hrc : r.rc = 0) : 4 ≤ c.cmdLength.toNat := by
  rw [updatePowerSettings] at h
  split_ifs at h with hargs hup hdown
  · rw [← Option.some.inj h] at hrc
    exact absurd hrc einval_lt.ne
  · rw [← Option.some.inj h] at hrc
    exact absurd hrc enomem_lt.ne
  · rw [← Option.some.inj h] at hrc
    exact absurd hrc enomem_lt.ne
  · obtain ⟨e, he, rfl⟩ := Option.map_eq_some_iff.1 h
    obtain ⟨e', he', hfin, -⟩ := run_parseStart hshort hargs
    cases Option.some.inj (he.symm.trans he')
    refine hfin ?_
    obtain ⟨exit, t⟩ := e
    cases exit with
    | finished => rfl
    | freePowerSettings => exact absurd hrc einval_lt.ne
    | returned => exact absurd hrc einval_lt.ne

end CameraKernel.PowerSettings
