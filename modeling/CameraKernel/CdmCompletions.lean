import CameraKernel.CdmHw

/-! In every run callbacks are made once and in order. They are true as long as each work
item that reports a tag finds an executed entry with it, or no entry that is not executed. -/
namespace CameraKernel.CdmHw

def pending (s : State) : List ℕ := s.fifo.filterMap Bl.genIrq

/-- The gen-irq BLs, executed or not, and the entries, called back or not, are in the order
of submission, and every listed entry has its gen-irq BL. -/
structure Ordered (s : State) : Prop where
  hardware : (s.executed ++ pending s).Pairwise (· < ·)
  issued : ∀ k ∈ s.executed ++ pending s, k < s.submitted
  entries : ((s.log ++ s.blRequestList).map (·.submission)).Pairwise (· < ·)
  known : ∀ n ∈ s.log ++ s.blRequestList, n.submission < s.submitted
  inHardware : ∀ n ∈ s.blRequestList, n.submission ∈ s.executed ++ pending s

/-- What holds of the callbacks made so far. -/
structure Completions (s : State) : Prop where
  executed : ∀ n ∈ s.log, n.submission ∈ s.executed
  once : (s.log.map (·.submission)).Nodup
  inOrder : (s.log.map (·.submission)).Pairwise (· < ·)

/-- No executed entry with the reported tag is missing, unless nothing waits for the hardware. -/
def reported (s : State) (irqData : UInt32) : Bool :=
  s.blRequestList.any (fun n => n.blTag.toNat = irqData.toNat && s.executed.contains n.submission) ||
    s.blRequestList.all fun n => s.executed.contains n.submission

def tagReported (s : State) : Op → Bool
  | .work k _ =>
    match s.works[k]? with
    | none => true
    | some payload => !payload.inlineIrq || reported s payload.irqData
  | _ => true

/-- A step that keeps the order and makes no callback. -/
structure Quiet (s s' : State) : Prop where
  ordered : Ordered s → Ordered s'
  log : s'.log = s.log
  executed : s.executed ⊆ s'.executed

lemma Quiet.refl (s : State) : Quiet s s := ⟨id, rfl, List.Subset.refl _⟩

lemma Quiet.trans {s t u : State} (h : Quiet s t) (h' : Quiet t u) : Quiet s u :=
  ⟨h'.ordered ∘ h.ordered, h'.log.trans h.log, List.Subset.trans h.executed h'.executed⟩

lemma executeBl_quiet (s : State) : Quiet s (executeBl s) := by
  unfold executeBl
  split
  case h_1 => exact .refl s
  case h_2 tag fifo hf =>
    refine ⟨fun h => ?_, rfl, List.Subset.refl _⟩
    have hp : pending { s with fifo } = pending s := by simp [pending, hf]
    exact ⟨hp ▸ h.hardware, hp ▸ h.issued, h.entries, h.known, hp ▸ h.inHardware⟩
  case h_3 tag k fifo hf =>
    refine ⟨fun h => ?_, rfl, List.subset_append_left _ _⟩
    have hp : s.executed ++ [k] ++ fifo.filterMap Bl.genIrq = s.executed ++ pending s := by
      simp [pending, hf]
    have hpending : ∀ s' : State, s'.fifo = fifo → pending s' = fifo.filterMap Bl.genIrq :=
      fun s' hs => by rw [pending, hs]
    constructor
    · rw [hpending _ rfl, hp]
      exact h.hardware
    · rw [hpending _ rfl, hp]
      exact h.issued
    · exact h.entries
    · exact h.known
    · rw [hpending _ rfl, hp]
      exact h.inHardware

lemma irq_quiet (alloc status inlineIrq dataRead queued : Bool) (s : State) :
    Quiet s (irq alloc status inlineIrq dataRead queued s) := by
  unfold irq
  split
  · exact ⟨fun h => ⟨h.hardware, h.issued, h.entries, h.known, h.inHardware⟩, rfl,
      List.Subset.refl _⟩
  · exact .refl s

lemma hwEvent_quiet (s : State) (e : HwEvent) : Quiet s (hwEvent s e) := by
  cases e with
  | execute => exact executeBl_quiet s
  | irq alloc status inlineIrq dataRead queued => exact irq_quiet _ _ _ _ _ s

lemma hwEvents_quiet (hw : List HwEvent) (s : State) : Quiet s (hw.foldl hwEvent s) := by
  induction hw generalizing s with
  | nil => exact .refl s
  | cons e hw ih => exact (hwEvent_quiet s e).trans (ih _)

lemma setTag_quiet (tag : UInt8) (s : State) : Quiet s { s with blTag := tag } :=
  ⟨fun h => ⟨h.hardware, h.issued, h.entries, h.known, h.inHardware⟩, rfl, List.Subset.refl _⟩

lemma commit_none_quiet (s : State) : Quiet s (commit none s) := by
  refine ⟨fun h => ?_, rfl, List.Subset.refl _⟩
  have hp : pending (commit none s) = pending s := by simp [pending, commit]
  exact ⟨hp ▸ h.hardware, hp ▸ h.issued, h.entries, h.known, hp ▸ h.inHardware⟩

lemma pairwise_concat {l : List ℕ} {k : ℕ} (h : l.Pairwise (· < ·)) (hk : ∀ i ∈ l, i < k) :
    (l ++ [k]).Pairwise (· < ·) := by
  rw [List.pairwise_append]
  exact ⟨h, List.pairwise_singleton _ _, fun i hi j hj => List.mem_singleton.1 hj ▸ hk i hi⟩

lemma skipNumber_quiet (s : State) : Quiet s { s with submitted := s.submitted + 1 } :=
  ⟨fun h => ⟨h.hardware, fun k hk => Nat.lt_succ_of_lt (h.issued k hk), h.entries,
    fun n hn => Nat.lt_succ_of_lt (h.known n hn), h.inHardware⟩, rfl, List.Subset.refl _⟩

lemma Ordered.enter {s s' : State} {node : BlCbRequestEntry} (h : Ordered s)
    (hnode : node.submission = s.submitted) (hexecuted : s'.executed = s.executed)
    (hpending : pending s' = pending s ++ [s.submitted]) (hlog : s'.log = s.log)
    (hlist : s'.blRequestList = s.blRequestList ++ [node])
    (hsubmitted : s'.submitted = s.submitted + 1) : Ordered s' := by
  have hbls : s'.executed ++ pending s' = s.executed ++ pending s ++ [s.submitted] := by
    rw [hexecuted, hpending, List.append_assoc]
  have hentries : s'.log ++ s'.blRequestList = s.log ++ s.blRequestList ++ [node] := by
    rw [hlog, hlist, List.append_assoc]
  constructor
  · rw [hbls]
    exact pairwise_concat h.hardware h.issued
  · intro k hk
    rw [hsubmitted]
    rcases List.mem_append.1 (hbls ▸ hk) with hk | hk
    · exact Nat.lt_succ_of_lt (h.issued k hk)
    · exact List.mem_singleton.1 hk ▸ Nat.lt_succ_self _
  · rw [hentries, List.map_append, List.map_singleton, hnode]
    refine pairwise_concat h.entries fun i hi => ?_
    obtain ⟨n, hn, rfl⟩ := List.mem_map.1 hi
    exact h.known n hn
  · intro n hn
    rw [hsubmitted]
    rcases List.mem_append.1 (hentries ▸ hn) with hn | hn
    · exact Nat.lt_succ_of_lt (h.known n hn)
    · rw [List.mem_singleton.1 hn, hnode]
      exact Nat.lt_succ_self _
  · intro n hn
    rw [hbls]
    rcases List.mem_append.1 (hlist ▸ hn) with hn | hn
    · exact List.mem_append_left _ (h.inHardware n hn)
    · rw [List.mem_singleton.1 hn, hnode]
      exact List.mem_append_right _ (List.mem_singleton_self _)

lemma unlisted_quiet {s : State} {node : BlCbRequestEntry} (hnode : node.submission = s.submitted) :
    Quiet s { s with blRequestList := (s.blRequestList ++ [node]).erase node,
                     submitted := s.submitted + 1 } := by
  refine ⟨fun h => ?_, rfl, List.Subset.refl _⟩
  have hnew : node ∉ s.blRequestList := fun hmem => by
    have hlt := h.known node (List.mem_append_right _ hmem)
    omega
  rw [List.erase_append_right _ hnew, List.erase_cons_head, List.append_nil]
  exact (skipNumber_quiet s).ordered h

lemma submitGenIrq_quiet (a : GenIrqAnswers) (req : SubmitBl) (s : State) :
    Quiet s (submitGenIrq a req s).1 := by
  unfold submitGenIrq
  obtain ⟨t, ht⟩ : ∃ t, t = a.hw.foldl hwEvent s := ⟨_, rfl⟩
  have hhw : Quiet s t := ht ▸ hwEvents_quiet a.hw s
  simp only [← ht]
  split
  · exact hhw
  · split
    · exact hhw
    · split
      · exact hhw.trans (unlisted_quiet rfl)
      · split
        · exact hhw.trans (unlisted_quiet rfl)
        · refine hhw.trans ⟨fun h => h.enter rfl rfl ?_ rfl rfl rfl, rfl, List.Subset.refl _⟩
          simp [pending, commit]

lemma resetTag_quiet (s : State) :
    Quiet s (if s.blTag.toNat ≥ CAM_CDM_HWFIFO_SIZE - 1 then { s with blTag := 0 } else s) := by
  split
  · exact setTag_quiet 0 s
  · exact .refl s

lemma writeBl_quiet (a : BlAnswers) (req : SubmitBl) (i : ℕ) (writeCount : Int) (s : State) :
    Quiet s (writeBl a req i writeCount s).s := by
  have hreset := resetTag_quiet s
  unfold writeBl
  revert hreset
  generalize (if s.blTag.toNat ≥ CAM_CDM_HWFIFO_SIZE - 1 then { s with blTag := 0 } else s) = u
  intro hreset
  have hcommit : Quiet s { commit none u with blTag := (commit none u).blTag + 1 } :=
    hreset.trans ((commit_none_quiet u).trans (setTag_quiet _ _))
  simp only
  split
  · exact hreset
  · split
    · exact hreset
    · split
      · have hirq := hcommit.trans (submitGenIrq_quiet a.genIrq req _)
        split
        · exact hirq.trans (setTag_quiet _ _)
        · exact hirq
      · exact hcommit

lemma submitOne_quiet (a : BlAnswers) (req : SubmitBl) (i : ℕ) (cmd : BlCmd) (writeCount : Int)
    (s : State) : Quiet s (submitOne a req i cmd writeCount s).s := by
  have hhw := hwEvents_quiet a.hw s
  unfold submitOne
  revert hhw
  generalize a.hw.foldl hwEvent s = t
  generalize (if writeCount = 0 then a.wait else writeCount - 1) = left
  intro hhw
  simp only
  split
  · exact hhw
  · split
    · exact hhw
    · split
      · exact hhw
      · split
        · exact hhw
        · split
          · split
            · exact hhw
            · exact hhw.trans (writeBl_quiet a req i _ t)
          · exact hhw

lemma submitAll_quiet (answers : ℕ → BlAnswers) (req : SubmitBl) (cmds : List BlCmd) (i : ℕ)
    (o : Outcome) : Quiet o.s (submitAll answers req cmds i o).1 := by
  induction cmds generalizing i o with
  | nil => exact .refl o.s
  | cons cmd cmds ih =>
    have hone := submitOne_quiet (answers i) req i cmd o.writeCount o.s
    unfold submitAll
    simp only
    split
    · exact hone.trans (ih _ _)
    · exact hone

lemma submitBl_quiet (a : SubmitAnswers) (req : SubmitBl) (s : State) :
    Quiet s (submitBl a req s).1 := by
  unfold submitBl
  split
  · exact .refl s
  · split
    · exact .refl s
    · exact submitAll_quiet a.at req req.data.cmd 0 ⟨s, 0, 0, true⟩

/-- What the handler takes from the list: up to the first entry with the tag. -/
def taken (irqData : UInt32) : List BlCbRequestEntry → List BlCbRequestEntry
  | [] => []
  | n :: list => if n.blTag.toNat = irqData.toNat then [n] else n :: taken irqData list

def remaining (irqData : UInt32) : List BlCbRequestEntry → List BlCbRequestEntry
  | [] => []
  | n :: list => if n.blTag.toNat = irqData.toNat then list else remaining irqData list

lemma taken_append_remaining (irqData : UInt32) (list : List BlCbRequestEntry) :
    taken irqData list ++ remaining irqData list = list := by
  induction list with
  | nil => rfl
  | cons n list ih =>
    unfold taken remaining
    split
    · rfl
    · rw [List.cons_append, ih]

lemma taken_le {irqData : UInt32} {list : List BlCbRequestEntry}
    (hlist : (list.map (·.submission)).Pairwise (· < ·)) {n m : BlCbRequestEntry}
    (hn : n ∈ taken irqData list) (hm : m ∈ list) (htag : m.blTag.toNat = irqData.toNat) :
    n.submission ≤ m.submission := by
  induction list with
  | nil => simp at hm
  | cons a list ih =>
    rw [List.map_cons, List.pairwise_cons] at hlist
    have hlater : ∀ x ∈ list, a.submission < x.submission := fun x hx =>
      hlist.1 _ (List.mem_map_of_mem hx)
    unfold taken at hn
    by_cases ha : a.blTag.toNat = irqData.toNat
    · rw [if_pos ha, List.mem_singleton] at hn
      subst hn
      rcases List.mem_cons.1 hm with rfl | hm
      · exact le_rfl
      · exact (hlater m hm).le
    · rw [if_neg ha] at hn
      have hml : m ∈ list := (List.mem_cons.1 hm).resolve_left fun hma => ha (hma ▸ htag)
      rcases List.mem_cons.1 hn with rfl | hn
      · exact (hlater m hml).le
      · exact ih hlist.2 hn hml

lemma drain_eq (clients : List (Option Client)) (irqData : UInt32) (list : List BlCbRequestEntry)
    (s : State) :
    drain clients irqData list s =
      { s with blRequestList := remaining irqData list,
               log := s.log ++ (taken irqData list).filter (notified clients) } := by
  induction list generalizing s with
  | nil => simp [drain, taken, remaining]
  | cons n list ih =>
    unfold drain taken remaining
    by_cases hn : n.blTag.toNat = irqData.toNat
    · by_cases hc : notified clients n = true <;> simp [hn, hc, notifyClients]
    · by_cases hc : notified clients n = true <;> simp [hn, hc, notifyClients, ih]

lemma drain_ordered {s : State} (h : Ordered s) (clients : List (Option Client)) (irqData : UInt32) :
    Ordered (drain clients irqData s.blRequestList s) := by
  rw [drain_eq]
  have hsub : (s.log ++ (taken irqData s.blRequestList).filter (notified clients) ++
      remaining irqData s.blRequestList).Sublist (s.log ++ s.blRequestList) := by
    rw [List.append_assoc]
    refine (List.Sublist.refl _).append ?_
    conv_rhs => rw [← taken_append_remaining irqData s.blRequestList]
    exact List.filter_sublist.append (List.Sublist.refl _)
  have hrest : remaining irqData s.blRequestList ⊆ s.blRequestList := fun n hn => by
    rw [← taken_append_remaining irqData s.blRequestList]
    exact List.mem_append_right _ hn
  exact ⟨h.hardware, h.issued, h.entries.sublist (hsub.map _), fun n hn => h.known n (hsub.subset hn),
    fun n hn => h.inHardware n (hrest hn)⟩

lemma Ordered.executed_of_le {s : State} (h : Ordered s) {n m : BlCbRequestEntry}
    (hn : n ∈ s.blRequestList) (hm : m.submission ∈ s.executed)
    (hle : n.submission ≤ m.submission) : n.submission ∈ s.executed := by
  refine (List.mem_append.1 (h.inHardware n hn)).resolve_right fun hpending => ?_
  have hlt : m.submission < n.submission := (List.pairwise_append.1 h.hardware).2.2 _ hm _ hpending
  omega

lemma taken_executed {s : State} (h : Ordered s) {irqData : UInt32}
    (hreported : reported s irqData = true) {n : BlCbRequestEntry}
    (hn : n ∈ taken irqData s.blRequestList) : n.submission ∈ s.executed := by
  have hlist : n ∈ s.blRequestList := by
    rw [← taken_append_remaining irqData s.blRequestList]
    exact List.mem_append_left _ hn
  rcases Bool.or_eq_true_iff.1 hreported with hany | hall
  · obtain ⟨m, hm, hcond⟩ := List.any_eq_true.1 hany
    obtain ⟨htag, hexec⟩ := Bool.and_eq_true_iff.1 hcond
    have hsorted : (s.blRequestList.map (·.submission)).Pairwise (· < ·) := by
      have hentries := h.entries
      rw [List.map_append] at hentries
      exact (List.pairwise_append.1 hentries).2.1
    have hle := taken_le hsorted hn hm (of_decide_eq_true htag)
    exact h.executed_of_le hlist (List.contains_iff_mem.1 hexec) hle
  · exact List.contains_iff_mem.1 (List.all_eq_true.1 hall n hlist)

lemma Ordered.step {s : State} (h : Ordered s) (op : Op) : Ordered (step s op) := by
  cases op with
  | submitBl a req => exact (submitBl_quiet a req s).ordered h
  | hw e => exact (hwEvent_quiet s e).ordered h
  | work k clients =>
    simp only [CdmHw.step]
    split
    · exact h
    · have hpop : ∀ works, Ordered { s with works } := fun works =>
        ⟨h.hardware, h.issued, h.entries, h.known, h.inHardware⟩
      unfold work
      split
      · exact drain_ordered (hpop _) clients _
      · exact hpop _

lemma init_ordered : Ordered init := by
  constructor <;> simp [init, pending]

/-- Tags or no tags, no callback is made twice or before an older one. -/
theorem run_ordered (ops : List Op) : Ordered (Transition.run step init ops) :=
  Transition.run_always (fun _ op h => h.step op) init_ordered ops

lemma log_executed_step {s : State} (h : Ordered s) (hlog : ∀ n ∈ s.log, n.submission ∈ s.executed)
    {op : Op} (hop : tagReported s op = true) :
    ∀ n ∈ (step s op).log, n.submission ∈ (step s op).executed := by
  cases op with
  | submitBl a req =>
    have hquiet := submitBl_quiet a req s
    exact fun n hn => hquiet.executed (hlog n (hquiet.log ▸ hn))
  | hw e =>
    have hquiet := hwEvent_quiet s e
    exact fun n hn => hquiet.executed (hlog n (hquiet.log ▸ hn))
  | work k clients =>
    simp only [tagReported] at hop
    simp only [step]
    split
    · exact hlog
    · rename_i payload hpayload
      rw [hpayload] at hop
      unfold work
      split
      · rename_i hinline
        simp only [hinline, Bool.not_true, Bool.false_or] at hop
        rw [drain_eq]
        intro n hn
        rcases List.mem_append.1 hn with hn | hn
        · exact hlog n hn
        · exact taken_executed h hop (List.mem_of_mem_filter hn)
      · exact hlog

/-- Every callback is for an executed submission, made once and in the order of submission. -/
theorem completions_true_once_in_order {ops : List Op}
    (h : Transition.Guarded step (fun s op => tagReported s op = true) init ops) :
    Completions (Transition.run step init ops) := by
  have hstep : ∀ s op, (Ordered s ∧ ∀ n ∈ s.log, n.submission ∈ s.executed) →
      tagReported s op = true →
      Ordered (step s op) ∧ ∀ n ∈ (step s op).log, n.submission ∈ (step s op).executed :=
    fun s op hs hop => ⟨hs.1.step op, log_executed_step hs.1 hs.2 hop⟩
  have hinit : Ordered init ∧ ∀ n ∈ init.log, n.submission ∈ init.executed :=
    ⟨init_ordered, by simp [init]⟩
  obtain ⟨hordered, hlog⟩ := Transition.run_invariant hstep hinit h
  have hentries := hordered.entries
  rw [List.map_append] at hentries
  have hinOrder := (List.pairwise_append.1 hentries).1
  exact ⟨hlog, hinOrder.imp ne_of_lt, hinOrder⟩

def oneBl (cookie : UInt64) : SubmitBl := ⟨0, ⟨1, 7, cookie, .hwIova, [⟨0x1000, 0, 4⟩]⟩⟩

def noFailure : SubmitAnswers :=
  ⟨false, 0, [⟨[], false, 1, (0, 0, 0), false, false, ⟨[], false, false, false⟩⟩]⟩

def goodIrq : Op := .hw (.irq true true true true true)

theorem completions_true_one_client :
    Completions (Transition.run step init
      [.submitBl noFailure (oneBl 1), .hw .execute, .hw .execute, goodIrq, goodIrq,
        .work 0 [some ⟨0, true⟩], .work 0 [some ⟨0, true⟩]]) :=
  completions_true_once_in_order (by decide +kernel)

/-- Two interrupts report the tag of the first submission, and the second one's work item
runs when only the second submission, which was not executed, is listed. -/
theorem repeated_tag_false_completion :
    ¬ ∀ ops, Completions (Transition.run step init ops) := by
  intro h
  have hlog := (h [.submitBl noFailure (oneBl 1), .hw .execute, .hw .execute, goodIrq, goodIrq,
    .work 0 [some ⟨0, true⟩], .submitBl noFailure (oneBl 2),
    .work 0 [some ⟨0, true⟩]]).executed ⟨3, 0, 7, 2, 1⟩ (by decide +kernel)
  exact absurd hlog (by decide +kernel)

end CameraKernel.CdmHw
