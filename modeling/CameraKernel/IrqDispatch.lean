import CameraKernel.IrqController

/-! The dispatch of one interrupt. The status registers are read once, the priorities that have a bit
of theirs set are noted, and for each of these the handlers are matched again, in the order of their
list. What the bottom half and the top halves answer is an argument. -/
namespace CameraKernel.IrqDispatch
open IrqController
variable {n : ℕ}

/-- The values of the status registers. -/
abbrev Status (n : ℕ) := Fin n → BitVec 32

/-- Whether a handler has a bottom half, what its `get_bh_payload_func` returns, with the command
where it gives one, and what its top half returns on a payload. -/
structure Answers (n : ℕ) where
  bottomHalfHandler : EvtHandler n → Bool
  getBhPayload : EvtHandler n → ℤ × Option ℕ
  topHalf : EvtHandler n → Status n → ℤ

/-- What the dispatch does: the top half run on its part of the status, and commands obtained,
enqueued and put back. -/
inductive Event (n : ℕ)
  | topHalf (evtHandler : EvtHandler n) (evtStatusArr : Status n)
  | getBh (evtHandler : EvtHandler n) (bhCmd : ℕ)
  | enqueueBh (evtHandler : EvtHandler n) (bhCmd : ℕ)
  | putBh (evtHandler : EvtHandler n) (bhCmd : ℕ)

/-- `cam_irq_controller_match_bit_mask`. -/
def matchBitMask (status : Status n) (evtHandler : EvtHandler n) : Bool :=
  (List.finRange n).any fun i => evtHandler.evtBitMaskArr i &&& status i ≠ 0

/-- The status the top half is given. -/
def evtStatus (status : Status n) (evtHandler : EvtHandler n) : Status n :=
  fun i => status i &&& evtHandler.evtBitMaskArr i

/-- The command of the bottom half: `none` where the handler is passed over for want of one,
`some none` where it has no bottom half. -/
def Answers.command (env : Answers n) (evtHandler : EvtHandler n) : Option (Option ℕ) :=
  if env.bottomHalfHandler evtHandler then
    match env.getBhPayload evtHandler with
    | (rc, bhCmd) => if rc ≠ 0 then none else bhCmd.map some
  else some none

/-- One turn of the loop of `cam_irq_controller_th_processing`. A subscription has a top half. -/
def processHandler (status : Status n) (env : Answers n) (evtHandler : EvtHandler n) :
    List (Event n) :=
  if !matchBitMask status evtHandler then []
  else
    match env.command evtHandler with
    | none => []
    | some bhCmd =>
      let evtStatusArr := evtStatus status evtHandler
      let rc := env.topHalf evtHandler evtStatusArr
      match bhCmd with
      | none => [Event.topHalf evtHandler evtStatusArr]
      | some bhCmd =>
        [Event.getBh evtHandler bhCmd, Event.topHalf evtHandler evtStatusArr,
          if rc ≠ 0 then Event.putBh evtHandler bhCmd else Event.enqueueBh evtHandler bhCmd]

/-- `cam_irq_controller_th_processing` on the handlers of one priority. -/
def thProcessing (status : Status n) (env : Answers n) (thList : List (EvtHandler n)) :
    List (Event n) := thList.flatMap (processHandler status env)

/-- The handlers of one priority, in the order of their subscriptions. -/
def thList (c : Controller n) (p : Fin priorityMax) : List (EvtHandler n) :=
  c.evtHandlerList.filter fun evtHandler => evtHandler.priority = p

def needThProcessing (c : Controller n) (status : Status n) (p : Fin priorityMax) : Bool :=
  (List.finRange n).any fun i => (c.irqRegisterArr i).topHalfEnableMask p &&& status i ≠ 0

/-- `cam_irq_controller_handle_irq`, given what the status registers read. -/
def handleIrq (c : Controller n) (status : Status n) (env : Answers n) : List (Event n) :=
  (List.finRange priorityMax).flatMap fun p =>
    if needThProcessing c status p then thProcessing status env (thList c p) else []

/-- The top halves that were run, with the status they were given. -/
def topHalves (events : List (Event n)) : List (EvtHandler n × Status n) :=
  events.filterMap fun
    | .topHalf evtHandler evtStatusArr => some (evtHandler, evtStatusArr)
    | _ => none

/-- The mask of the handler meets the status in some register. -/
def Hit (status : Status n) (evtHandler : EvtHandler n) : Prop :=
  ∃ i, evtHandler.evtBitMaskArr i &&& status i ≠ 0

instance (status : Status n) (evtHandler : EvtHandler n) : Decidable (Hit status evtHandler) :=
  inferInstanceAs (Decidable (∃ _, _))

/-- The enabled handlers that are hit, by priority, each with its part of the status. -/
def due (c : Controller n) (status : Status n) : List (EvtHandler n × Status n) :=
  (List.finRange priorityMax).flatMap fun p =>
    ((thList c p).filter fun evtHandler => evtHandler.enabled ∧ Hit status evtHandler).map
      fun evtHandler => (evtHandler, evtStatus status evtHandler)

/-- The command the event is about, with its handler, where it is of that kind. -/
def obtained : Event n → Option (EvtHandler n × ℕ)
  | .getBh evtHandler bhCmd => some (evtHandler, bhCmd)
  | _ => none

def disposed : Event n → Option (EvtHandler n × ℕ)
  | .enqueueBh evtHandler bhCmd => some (evtHandler, bhCmd)
  | .putBh evtHandler bhCmd => some (evtHandler, bhCmd)
  | _ => none

/-- The commands obtained are, in this order, those enqueued or put back. -/
def Settled (events : List (Event n)) : Prop :=
  events.filterMap obtained = events.filterMap disposed

/-- The dispatch is exact. -/
def Dispatches (c : Controller n) (status : Status n) (env : Answers n) : Prop :=
  topHalves (handleIrq c status env) = due c status ∧ Settled (handleIrq c status env)

/-- Every enabled handler that is hit gets its command, and shares a bit of the status with the enable
mask of its priority; a disabled one that is hit is refused its command, or the enable mask of its
priority has no bit of the status. -/
structure Ready (c : Controller n) (status : Status n) (env : Answers n) : Prop where
  enabled : ∀ evtHandler ∈ c.evtHandlerList, Hit status evtHandler → evtHandler.enabled →
    (∃ i, (c.irqRegisterArr i).topHalfEnableMask evtHandler.priority &&& status i ≠ 0) ∧
      (env.bottomHalfHandler evtHandler → ∃ bhCmd, env.getBhPayload evtHandler = (0, some bhCmd))
  disabled : ∀ evtHandler ∈ c.evtHandlerList, Hit status evtHandler → evtHandler.enabled = false →
    (∀ i, (c.irqRegisterArr i).topHalfEnableMask evtHandler.priority &&& status i = 0) ∨
      env.bottomHalfHandler evtHandler ∧ ∀ bhCmd, env.getBhPayload evtHandler ≠ (0, some bhCmd)

/-- The handler is reached and served. -/
def ran (c : Controller n) (status : Status n) (env : Answers n) (evtHandler : EvtHandler n) : Bool :=
  needThProcessing c status evtHandler.priority && matchBitMask status evtHandler &&
    (env.command evtHandler).isSome

lemma matchBitMask_iff (status : Status n) (evtHandler : EvtHandler n) :
    matchBitMask status evtHandler = true ↔ Hit status evtHandler := by
  simp [matchBitMask, Hit]

lemma needThProcessing_iff (c : Controller n) (status : Status n) (p : Fin priorityMax) :
    needThProcessing c status p = true ↔
      ∃ i, (c.irqRegisterArr i).topHalfEnableMask p &&& status i ≠ 0 := by
  simp [needThProcessing]

lemma command_isSome_iff (env : Answers n) (evtHandler : EvtHandler n) :
    (env.command evtHandler).isSome = true ↔
      (env.bottomHalfHandler evtHandler → ∃ bhCmd, env.getBhPayload evtHandler = (0, some bhCmd)) := by
  obtain ⟨rc, bhCmd, hget⟩ : ∃ rc bhCmd, env.getBhPayload evtHandler = (rc, bhCmd) := ⟨_, _, rfl⟩
  cases hbh : env.bottomHalfHandler evtHandler with
  | false => simp [Answers.command, hbh]
  | true =>
    by_cases hrc : rc = 0
    · cases bhCmd with
      | none => simp [Answers.command, hbh, hget]
      | some bhCmd => simp [Answers.command, hbh, hget, hrc]
    · simp [Answers.command, hbh, hget, hrc]

lemma topHalves_processHandler (status : Status n) (env : Answers n) (evtHandler : EvtHandler n) :
    topHalves (processHandler status env evtHandler) =
      if matchBitMask status evtHandler && (env.command evtHandler).isSome then
        [(evtHandler, evtStatus status evtHandler)] else [] := by
  cases hmatch : matchBitMask status evtHandler with
  | false => simp [processHandler, hmatch, topHalves]
  | true =>
    cases hcommand : env.command evtHandler with
    | none => simp [processHandler, hmatch, hcommand, topHalves]
    | some bhCmd =>
      cases bhCmd with
      | none => simp [processHandler, hmatch, hcommand, topHalves]
      | some bhCmd =>
        by_cases hrc : env.topHalf evtHandler (evtStatus status evtHandler) = 0
        · simp [processHandler, hmatch, hcommand, topHalves, hrc]
        · simp [processHandler, hmatch, hcommand, topHalves, hrc]

lemma settled_processHandler (status : Status n) (env : Answers n) (evtHandler : EvtHandler n) :
    Settled (processHandler status env evtHandler) := by
  unfold processHandler
  split_ifs
  · rfl
  · cases env.command evtHandler with
    | none => rfl
    | some bhCmd =>
      cases bhCmd with
      | none => rfl
      | some bhCmd =>
        dsimp only
        split_ifs
        · rfl
        · rfl

lemma Settled.append {xs ys : List (Event n)} (hx : Settled xs) (hy : Settled ys) :
    Settled (xs ++ ys) := by
  rw [Settled, List.filterMap_append, List.filterMap_append, hx, hy]

lemma Settled.flatMap {α : Type} {f : α → List (Event n)} (l : List α)
    (h : ∀ a ∈ l, Settled (f a)) : Settled (l.flatMap f) := by
  induction l with
  | nil => rfl
  | cons a l ih =>
    rw [List.forall_mem_cons] at h
    exact h.1.append (ih h.2)

theorem settled_handleIrq (c : Controller n) (status : Status n) (env : Answers n) :
    Settled (handleIrq c status env) := by
  refine Settled.flatMap _ fun p _ => ?_
  split_ifs
  · exact Settled.flatMap _ fun evtHandler _ => settled_processHandler status env evtHandler
  · rfl

lemma topHalves_flatMap {α : Type} (f : α → List (Event n)) (l : List α) :
    topHalves (l.flatMap f) = l.flatMap fun a => topHalves (f a) := by
  simp only [topHalves, List.filterMap_flatMap]

lemma topHalves_thProcessing (status : Status n) (env : Answers n) (l : List (EvtHandler n)) :
    topHalves (thProcessing status env l) =
      (l.filter fun evtHandler => matchBitMask status evtHandler &&
        (env.command evtHandler).isSome).map
          fun evtHandler => (evtHandler, evtStatus status evtHandler) := by
  induction l with
  | nil => rfl
  | cons evtHandler l ih =>
    rw [thProcessing, List.flatMap_cons, topHalves, List.filterMap_append]
    have hhead := topHalves_processHandler status env evtHandler
    rw [topHalves] at hhead
    rw [hhead]
    change _ ++ topHalves (thProcessing status env l) = _
    rw [ih, List.filter_cons]
    split_ifs
    · rfl
    · rfl

lemma topHalves_handleIrq (c : Controller n) (status : Status n) (env : Answers n) :
    topHalves (handleIrq c status env) =
      (List.finRange priorityMax).flatMap fun p =>
        ((thList c p).filter (ran c status env)).map
          fun evtHandler => (evtHandler, evtStatus status evtHandler) := by
  rw [handleIrq, topHalves_flatMap]
  refine List.flatMap_congr fun p _ => ?_
  have hpriority : ∀ evtHandler ∈ thList c p, evtHandler.priority = p := fun evtHandler h => by
    simpa using (List.mem_filter.mp h).2
  split_ifs with hneed
  · rw [topHalves_thProcessing]
    congr 1
    refine List.filter_congr fun evtHandler h => ?_
    rw [ran, hpriority evtHandler h, hneed, Bool.true_and]
  · have hnone : (thList c p).filter (ran c status env) = [] := by
      refine List.filter_eq_nil_iff.mpr fun evtHandler h => ?_
      rw [ran, hpriority evtHandler h]
      simp [hneed]
    rw [hnone]
    rfl

/-- The handlers of the list that satisfy a predicate, priority by priority. -/
def sorted (c : Controller n) (status : Status n) (keep : EvtHandler n → Bool) :
    List (EvtHandler n × Status n) :=
  (List.finRange priorityMax).flatMap fun p =>
    ((thList c p).filter keep).map fun evtHandler => (evtHandler, evtStatus status evtHandler)

lemma mem_sorted {c : Controller n} {status : Status n} {keep : EvtHandler n → Bool}
    {evtHandler : EvtHandler n} :
    (evtHandler, evtStatus status evtHandler) ∈ sorted c status keep ↔
      evtHandler ∈ c.evtHandlerList ∧ keep evtHandler = true := by
  simp only [sorted, List.mem_flatMap, List.mem_map, List.mem_filter, thList, List.mem_finRange,
    true_and, Prod.mk.injEq, decide_eq_true_eq]
  constructor
  · rintro ⟨p, g, ⟨⟨hmem, -⟩, hkeep⟩, rfl, -⟩
    exact ⟨hmem, hkeep⟩
  · rintro ⟨hmem, hkeep⟩
    exact ⟨evtHandler.priority, evtHandler, ⟨⟨hmem, rfl⟩, hkeep⟩, rfl, rfl⟩

lemma sorted_eq_iff {c : Controller n} {status : Status n} {keep keep' : EvtHandler n → Bool} :
    sorted c status keep = sorted c status keep' ↔
      ∀ evtHandler ∈ c.evtHandlerList, keep evtHandler = keep' evtHandler := by
  constructor
  · intro h evtHandler hmem
    have hiff := @mem_sorted _ c status keep evtHandler
    rw [h, mem_sorted] at hiff
    rw [Bool.eq_iff_iff]
    exact ⟨fun hk => (hiff.mpr ⟨hmem, hk⟩).2, fun hk => (hiff.mp ⟨hmem, hk⟩).2⟩
  · intro h
    refine List.flatMap_congr fun p _ => ?_
    congr 1
    exact List.filter_congr fun evtHandler hmem => h evtHandler (List.mem_filter.mp hmem).1

lemma ready_iff (c : Controller n) (status : Status n) (env : Answers n) :
    Ready c status env ↔ ∀ evtHandler ∈ c.evtHandlerList,
      ran c status env evtHandler = decide (evtHandler.enabled ∧ Hit status evtHandler) := by
  have hran : ∀ evtHandler, ran c status env evtHandler = true ↔
      (∃ i, (c.irqRegisterArr i).topHalfEnableMask evtHandler.priority &&& status i ≠ 0) ∧
        Hit status evtHandler ∧ (env.bottomHalfHandler evtHandler →
          ∃ bhCmd, env.getBhPayload evtHandler = (0, some bhCmd)) := by
    intro evtHandler
    rw [ran, Bool.and_eq_true, Bool.and_eq_true, needThProcessing_iff, matchBitMask_iff,
      command_isSome_iff, and_assoc]
  constructor
  · intro h evtHandler hmem
    rw [Bool.eq_iff_iff, hran, decide_eq_true_iff]
    constructor
    · rintro ⟨⟨i, hi⟩, hhit, hserved⟩
      refine ⟨?_, hhit⟩
      by_contra hdisabled
      rcases h.disabled evtHandler hmem hhit (by simpa using hdisabled) with hmask | ⟨hbh, hrefused⟩
      · exact hi (hmask i)
      · obtain ⟨bhCmd, hget⟩ := hserved hbh
        exact hrefused bhCmd hget
    · rintro ⟨henabled, hhit⟩
      obtain ⟨hmask, hserved⟩ := h.enabled evtHandler hmem hhit henabled
      exact ⟨hmask, hhit, hserved⟩
  · intro h
    constructor
    · intro evtHandler hmem hhit henabled
      have hrun : ran c status env evtHandler = true := by
        rw [h evtHandler hmem, decide_eq_true_iff]
        exact ⟨henabled, hhit⟩
      obtain ⟨hmask, -, hserved⟩ := (hran evtHandler).mp hrun
      exact ⟨hmask, hserved⟩
    · intro evtHandler hmem hhit hdisabled
      have hnot : ¬ ran c status env evtHandler = true := by
        rw [h evtHandler hmem, decide_eq_true_iff, hdisabled]
        simp
      rw [hran] at hnot
      by_contra hneither
      push Not at hneither
      obtain ⟨hmask, hserved⟩ := hneither
      exact hnot ⟨hmask, hhit, hserved⟩

/-- One interrupt runs exactly the top halves that are due, and settles its commands, exactly when
the enable masks tell the enabled handlers that are hit from the disabled ones, and the enabled ones
get their commands. -/
theorem handleIrq_dispatches_iff (c : Controller n) (status : Status n) (env : Answers n) :
    Dispatches c status env ↔ Ready c status env := by
  rw [Dispatches, and_iff_left (settled_handleIrq c status env), topHalves_handleIrq, ready_iff]
  exact sorted_eq_iff

lemma Ready.dispatches {c : Controller n} {status : Status n} {env : Answers n}
    (h : Ready c status env) : Dispatches c status env := by
  refine ⟨?_, settled_handleIrq c status env⟩
  rw [topHalves_handleIrq]
  exact sorted_eq_iff.mpr ((ready_iff c status env).mp h)

/-- With exact enable masks and no disabled handler hit, it only takes the commands. -/
theorem dispatches_of_masksExact {c : Controller n} (h : MasksExact c) {status : Status n}
    {env : Answers n}
    (hdisabled : ∀ g ∈ c.evtHandlerList, g.enabled = false → ¬ Hit status g)
    (hserved : ∀ g ∈ c.evtHandlerList, Hit status g →
      env.bottomHalfHandler g → ∃ bhCmd, env.getBhPayload g = (0, some bhCmd)) :
    Dispatches c status env := by
  refine Ready.dispatches ⟨fun g hmem hhit henabled => ⟨?_, hserved g hmem hhit⟩,
    fun g hmem hhit hdis => absurd hhit (hdisabled g hmem hdis)⟩
  obtain ⟨i, hi⟩ := hhit
  refine ⟨i, fun hzero => hi ?_⟩
  rw [(h i).2 g.priority] at hzero
  obtain ⟨l₁, l₂, hsplit⟩ := List.append_of_mem hmem
  have hlive : liveAt g.priority g = true := by simp [liveAt, henabled]
  rw [hsplit, unionOf_middle, hlive, if_pos rfl] at hzero
  ext k hk
  have hbit : ((g.evtBitMaskArr i ||| unionOf (liveAt g.priority) (l₁ ++ l₂) i) &&&
      status i)[k] = false := by
    rw [hzero]
    simp
  simp only [BitVec.getElem_and, BitVec.getElem_or, Bool.and_eq_false_iff,
    Bool.or_eq_false_iff] at hbit ⊢
  rcases hbit with hbit | hbit
  · simp [hbit.1]
  · simp [hbit]

theorem dispatches_subscribed :
    Dispatches (Transition.run step (init 1)
        [.subscribe ⟨0, fun _ => 1, true, true, true, true, some ⟨true, true, true⟩⟩ true,
          .subscribe (topHalfOnly 2) true, .subscribe (topHalfOnly 4) true, .disable 3])
      (fun _ => 3)
      ⟨fun g => g.index = 1, fun g => if g.index = 1 then (0, some 7) else (-Errno.ENOMEM, none),
        fun _ _ => 0⟩ :=
  dispatches_of_masksExact (run_masksExact _ (by decide +kernel)) (by decide +kernel)
    fun g _ _ h => ⟨7, if_pos (of_decide_eq_true h)⟩

/-- Two handlers of one priority, the second one disabled: the interrupt runs both. -/
theorem disabled_handler_run :
    ¬ Dispatches (Transition.run step (init 1)
        [.subscribe (topHalfOnly 1) true, .subscribe (topHalfOnly 2) true, .disable 2])
      (fun _ => 3) ⟨fun _ => false, fun _ => (0, none), fun _ _ => 0⟩ := by
  intro hdispatches
  have hlength := congrArg List.length hdispatches.1
  revert hlength
  decide +kernel

end CameraKernel.IrqDispatch
