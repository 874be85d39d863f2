import CameraKernel.ResMgr

/-! A shared GPIO is requested while a device uses it, as long as devices free what they hold
and no record is missing. -/
namespace CameraKernel.ResMgr

variable {dt : Dt} {s : State}

/-- The entry, the kernel and the users of one GPIO agree. -/
structure Agrees (shared : Bool) (l : Option (List ℕ)) (r : Option ℕ) (users : Finset ℕ) : Prop where
  list : ∀ devs, l = some devs → shared = true ∧ devs ≠ [] ∧ devs.Nodup
  requested : shared = true → (r.isSome = true ↔ l.isSome = true)
  holders : shared = true → ∀ dev, dev ∈ l.getD [] ↔ dev ∈ users
  granted : shared = false → ∀ dev ∈ users, r = some dev

structure Inv (dt : Dt) (s : State) : Prop where
  agrees : ∀ gpio, Agrees (isShared dt gpio) (s.devList gpio) (s.requested gpio) (s.holders gpio)
  once : ∀ gpio, requests s gpio = frees s gpio + if (s.requested gpio).isSome then 1 else 0
  alone : ∀ dev gpio holders, KernelCall.free dev gpio holders ∈ s.log → ∀ d ∈ holders, d = dev

lemma Inv.held (h : Inv dt s) : HeldWhileUsed dt s := by
  refine ⟨fun gpio hg => ((h.agrees gpio).requested hg).trans ?_, fun gpio => (h.agrees gpio).holders,
    h.once, h.alone⟩
  cases hl : s.devList gpio with
  | none => simp
  | some l => simpa using List.exists_mem_of_ne_nil l ((h.agrees gpio).list l hl).2.1

/-- What one operation on one GPIO changes: nothing elsewhere, and the kernel at most once. -/
structure Moves (dev gpio : ℕ) (s t : State) : Prop where
  other : ∀ g, g ≠ gpio →
    t.devList g = s.devList g ∧ t.requested g = s.requested g ∧ t.holders g = s.holders g
  log : (t.log = s.log ∧ t.requested gpio = s.requested gpio) ∨
    (t.log = s.log ++ [KernelCall.request dev gpio] ∧ s.requested gpio = none ∧ t.requested gpio = some dev) ∨
    (t.log = s.log ++ [KernelCall.free dev gpio (s.holders gpio)] ∧ (s.requested gpio).isSome = true ∧
      t.requested gpio = none ∧ ∀ d ∈ s.holders gpio, d = dev)

lemma Inv.moves (dev gpio : ℕ) (h : Inv dt s) {t : State} (hm : Moves dev gpio s t)
    (ha : Agrees (isShared dt gpio) (t.devList gpio) (t.requested gpio) (t.holders gpio)) : Inv dt t := by
  refine ⟨fun g => ?_, fun g => ?_, ?_⟩
  · by_cases hg : g = gpio
    · exact hg ▸ ha
    · obtain ⟨hl, hr, hh⟩ := hm.other g hg
      rw [hl, hr, hh]
      exact h.agrees g
  · have honce := h.once g
    simp only [requests, frees] at honce ⊢
    rcases hm.log with ⟨hlog, hreq⟩ | ⟨hlog, hnone, hsome⟩ | ⟨hlog, hsome, hnone, -⟩
    · by_cases hg : g = gpio
      · rw [hlog, honce, hg, hreq]
      · rw [hlog, honce, (hm.other g hg).2.1]
    · by_cases hg : g = gpio
      · subst hg
        rw [hlog, hsome]
        simp [honce, hnone]
      · rw [hlog, (hm.other g hg).2.1]
        simp [honce, Ne.symm hg]
    · by_cases hg : g = gpio
      · subst hg
        rw [hlog, hnone]
        simp [honce, hsome]
      · rw [hlog, (hm.other g hg).2.1]
        simp [honce, Ne.symm hg]
  · intro d g holders hmem
    rcases hm.log with ⟨hlog, -⟩ | ⟨hlog, -, -⟩ | ⟨hlog, -, -, honly⟩
    · exact h.alone d g holders (hlog ▸ hmem)
    · rw [hlog] at hmem
      exact h.alone d g holders (by simpa using hmem)
    · rw [hlog, List.mem_append, List.mem_singleton] at hmem
      rcases hmem with hmem | hmem
      · exact h.alone d g holders hmem
      · cases hmem
        exact honly

lemma Inv.findRes (h : Inv dt s) (gpio : ℕ) : findRes dt s gpio = s.devList gpio := by
  rw [ResMgr.findRes]
  split_ifs with he
  · rfl
  · cases hl : s.devList gpio with
    | none => rfl
    | some l =>
      have := ((h.agrees gpio).list l hl).1
      simp [isShared, he] at this

variable {dev gpio : ℕ} {l : List ℕ}

@[simp] lemma setHolders_devList (s : State) (gpio : ℕ) (H : Finset ℕ) :
    (s.setHolders gpio H).devList = s.devList := rfl

@[simp] lemma setHolders_requested (s : State) (gpio : ℕ) (H : Finset ℕ) :
    (s.setHolders gpio H).requested = s.requested := rfl

@[simp] lemma setHolders_holders (s : State) (gpio : ℕ) (H : Finset ℕ) :
    (s.setHolders gpio H).holders = Function.update s.holders gpio H := rfl

@[simp] lemma setHolders_log (s : State) (gpio : ℕ) (H : Finset ℕ) :
    (s.setHolders gpio H).log = s.log := rfl

@[simp] lemma setDevList_devList (s : State) (gpio : ℕ) (l : Option (List ℕ)) :
    (s.setDevList gpio l).devList = Function.update s.devList gpio l := rfl

@[simp] lemma setDevList_requested (s : State) (gpio : ℕ) (l : Option (List ℕ)) :
    (s.setDevList gpio l).requested = s.requested := rfl

@[simp] lemma setDevList_holders (s : State) (gpio : ℕ) (l : Option (List ℕ)) :
    (s.setDevList gpio l).holders = s.holders := rfl

@[simp] lemma setDevList_log (s : State) (gpio : ℕ) (l : Option (List ℕ)) :
    (s.setDevList gpio l).log = s.log := rfl

lemma setDevList_self {l : Option (List ℕ)} (hl : s.devList gpio = l) : s.setDevList gpio l = s := by
  rw [State.setDevList, ← hl, Function.update_eq_self]

@[simp] lemma gpioFree_devList (s : State) (dev gpio : ℕ) :
    (gpioFree s dev gpio).devList = s.devList := rfl

@[simp] lemma gpioFree_requested (s : State) (dev gpio : ℕ) :
    (gpioFree s dev gpio).requested = Function.update s.requested gpio none := rfl

@[simp] lemma gpioFree_holders (s : State) (dev gpio : ℕ) :
    (gpioFree s dev gpio).holders = s.holders := rfl

@[simp] lemma gpioFree_log (s : State) (dev gpio : ℕ) :
    (gpioFree s dev gpio).log = s.log ++ [KernelCall.free dev gpio (s.holders gpio)] := rfl

lemma Inv.refused (dev : ℕ) (h : Inv dt s) (hl : dev ∉ (s.devList gpio).getD []) :
    Inv dt (s.setHolders gpio ((s.holders gpio).erase dev)) := by
  have hg := h.agrees gpio
  refine h.moves dev gpio
    ⟨fun g hne => ⟨rfl, rfl, Function.update_of_ne hne _ _⟩, .inl ⟨rfl, rfl⟩⟩
    ⟨hg.list, hg.requested, fun hs d => ?_, fun hs d hd => ?_⟩
  · rw [setHolders_holders, Function.update_self, Finset.mem_erase, ← hg.holders hs]
    exact ⟨fun hd => ⟨fun heq => hl (heq ▸ hd), hd⟩, And.right⟩
  · rw [setHolders_holders, Function.update_self] at hd
    exact hg.granted hs d (Finset.mem_of_mem_erase hd)

lemma Inv.joined (dev : ℕ) (h : Inv dt s) (hl : s.devList gpio = some l) {m : List ℕ}
    (hmem : ∀ d, d ∈ m ↔ d = dev ∨ d ∈ l) (hm : m.Nodup) :
    Inv dt ((s.setDevList gpio (some m)).setHolders gpio (insert dev (s.holders gpio))) := by
  have hg := h.agrees gpio
  have hs := (hg.list l hl).1
  refine h.moves dev gpio
    ⟨fun g hne => ⟨Function.update_of_ne hne _ _, rfl, Function.update_of_ne hne _ _⟩, .inl ⟨rfl, rfl⟩⟩ ?_
  simp only [setHolders_devList, setHolders_requested, setHolders_holders, setDevList_devList,
    setDevList_requested, setDevList_holders, Function.update_self]
  refine ⟨?_, fun _ => ?_, fun _ d => ?_, fun hf => ?_⟩
  · rintro _ ⟨⟩
    exact ⟨hs, List.ne_nil_of_mem ((hmem dev).mpr (.inl rfl)), hm⟩
  · simpa [hl] using hg.requested hs
  · rw [Finset.mem_insert, ← hg.holders hs, hl]
    exact hmem d
  · rw [hs] at hf
    cases hf

lemma Inv.granted (dev : ℕ) (h : Inv dt s) (hl : s.devList gpio = none) (hreq : s.requested gpio = none)
    {m : Option (List ℕ)} (hm : m = if isShared dt gpio then some [dev] else none) :
    Inv dt ((State.setDevList { s with
      requested := Function.update s.requested gpio (some dev)
      log := s.log ++ [KernelCall.request dev gpio] } gpio m).setHolders gpio (insert dev (s.holders gpio))) := by
  have hg := h.agrees gpio
  have hempty : ∀ d, d ∉ s.holders gpio := by
    intro d hd
    cases hs : isShared dt gpio with
    | true => simpa [hl] using (hg.holders hs d).mpr hd
    | false => simpa [hreq] using hg.granted hs d hd
  refine h.moves dev gpio ⟨fun g hne => ⟨Function.update_of_ne hne _ _,
    Function.update_of_ne hne _ _, Function.update_of_ne hne _ _⟩,
    .inr (.inl ⟨rfl, hreq, Function.update_self _ _ _⟩)⟩ ?_
  simp only [setHolders_devList, setHolders_requested, setHolders_holders, setDevList_devList,
    setDevList_requested, setDevList_holders, Function.update_self]
  cases hs : isShared dt gpio with
  | true =>
    rw [hs, if_pos rfl] at hm
    subst hm
    exact ⟨by rintro _ ⟨⟩; simp, by simp, by simp [hempty], by simp⟩
  | false =>
    rw [hs, if_neg (by simp)] at hm
    subst hm
    exact ⟨by simp, by simp, by simp, by simp [hempty]⟩

lemma request_inv (h : Inv dt s) {a : Answers} (hok : recorded dt s gpio a = true) :
    Inv dt (request dt s dev gpio a).2 := by
  have hg := h.agrees gpio
  simp only [request, camResMgrGpioRequest, h.findRes]
  cases hl : s.devList gpio with
  | none =>
    have hnot : dev ∉ (s.devList gpio).getD [] := by simp [hl]
    simp only [gpioRequestOne]
    by_cases hreq : (s.requested gpio).isSome = true
    · simpa [hreq, Errno.EBUSY] using h.refused dev hnot
    by_cases hrc : a.rc = 0
    · have hfree : s.requested gpio = none := by simpa using hreq
      cases hs : isShared dt gpio with
      | true =>
        obtain ⟨hres, hdev⟩ : a.allocRes = true ∧ a.allocDev = true := by
          simpa [recorded, hs, hl, hfree, hrc] using hok
        simpa [hfree, hrc, hres, hdev] using h.granted dev hl hfree (by rw [hs, if_pos rfl])
      | false =>
        have := h.granted dev hl hfree (m := none) (by simp [hs])
        rw [setDevList_self (by exact hl)] at this
        simpa [hfree, hrc] using this
    · simpa [hreq, hrc] using h.refused dev hnot
  | some l =>
    by_cases hmem : dev ∈ l
    · have := h.joined dev hl (fun d => ⟨.inr, fun hd => hd.elim (· ▸ hmem) id⟩) (hg.list l hl).2.2
      rw [setDevList_self hl] at this
      simpa [hmem] using this
    cases hdev : a.allocDev with
    | true =>
      have := h.joined dev hl (m := l ++ [dev]) (by simp [or_comm])
        (List.nodup_append.mpr ⟨(hg.list l hl).2.2, List.nodup_singleton dev, by
          rintro a ha b hb rfl
          exact hmem (List.mem_singleton.mp hb ▸ ha)⟩)
      simpa [hmem, hdev] using this
    | false => simpa [hmem, hdev, Errno.ENOMEM] using h.refused dev (by simpa [hl] using hmem)

lemma Inv.released (h : Inv dt s) (hreq : (s.requested gpio).isSome = true)
    (honly : ∀ d ∈ s.holders gpio, d = dev) {m : Option (List ℕ)} (hm : m = none) :
    Inv dt ((gpioFree (s.setDevList gpio m) dev gpio).setHolders gpio ((s.holders gpio).erase dev)) := by
  subst hm
  have hnone : (s.holders gpio).erase dev = ∅ := by
    refine Finset.eq_empty_of_forall_notMem fun d hd => ?_
    exact Finset.ne_of_mem_erase hd (honly d (Finset.mem_of_mem_erase hd))
  refine h.moves dev gpio ⟨fun g hne => ⟨Function.update_of_ne hne _ _,
    Function.update_of_ne hne _ _, Function.update_of_ne hne _ _⟩,
    .inr (.inr ⟨rfl, hreq, Function.update_self _ _ _, honly⟩)⟩ ?_
  simp only [setHolders_devList, setHolders_requested, setHolders_holders, setDevList_devList,
    gpioFree_devList, gpioFree_requested, Function.update_self, hnone]
  exact ⟨by simp, by simp, by simp, by simp⟩

lemma free_inv (h : Inv dt s) (hok : holds dt s dev gpio = true) : Inv dt (free dt s dev gpio) := by
  have hg := h.agrees gpio
  simp only [free, camResMgrGpioFree, h.findRes]
  cases hl : s.devList gpio with
  | none =>
    have hs : isShared dt gpio = false := by
      rw [← Bool.not_eq_true]
      intro hs
      simp [holds, hs, hl] at hok
    have hreq : s.requested gpio = some dev := by simpa [holds, hs] using hok
    have honly : ∀ d ∈ s.holders gpio, d = dev := fun d hd =>
      (Option.some.inj (hreq.symm.trans (hg.granted hs d hd))).symm
    have := h.released (by simp [hreq]) honly rfl
    rwa [setDevList_self hl] at this
  | some l =>
    obtain ⟨hs, hne, hnodup⟩ := hg.list l hl
    have hmem : dev ∈ l := by simpa [holds, hs, hl] using hok
    have husers : ∀ d, d ∈ s.holders gpio ↔ d ∈ l := fun d => by simp [← hg.holders hs, hl]
    by_cases hlen : l.length = 1
    · simp only [hlen, if_true]
      obtain ⟨d, rfl⟩ := List.length_eq_one_iff.mp hlen
      refine h.released ((hg.requested hs).mpr (by simp [hl])) (fun d' hd' => ?_) rfl
      rw [husers, List.mem_singleton] at hd'
      rw [hd', List.mem_singleton.mp hmem]
    · simp only [hlen, if_false, List.contains_iff_mem.mpr hmem, if_true, setDevList_holders]
      refine h.moves dev gpio ⟨fun g hne => ⟨Function.update_of_ne hne _ _, rfl,
        Function.update_of_ne hne _ _⟩, .inl ⟨rfl, rfl⟩⟩ ?_
      simp only [setHolders_devList, setHolders_requested, setHolders_holders, setDevList_devList,
        setDevList_requested, setDevList_holders, Function.update_self]
      refine ⟨?_, fun _ => ?_, fun _ d => ?_, fun hf => ?_⟩
      · rintro _ ⟨⟩
        refine ⟨hs, fun hnil => hlen ?_, hnodup.erase dev⟩
        have := List.length_erase_of_mem hmem
        rw [hnil, List.length_nil] at this
        have := List.length_pos_of_mem hmem
        omega
      · simpa [hl] using hg.requested hs
      · rw [Finset.mem_erase, husers]
        exact hnodup.mem_erase_iff
      · rw [hs] at hf
        cases hf

lemma foldl_free_inv (h : Inv dt s) {array : List ℕ} (hok : freesHeld dt dev s array = true) :
    Inv dt (array.foldl (fun s gpio => free dt s dev gpio) s) := by
  induction array generalizing s with
  | nil => exact h
  | cons gpio rest ih =>
    rw [freesHeld, Bool.and_eq_true] at hok
    exact ih (free_inv h hok.1) hok.2

lemma requestArry_inv (h : Inv dt s) {tbl : List (ℕ × Answers)} (rc : ℤ)
    (hok : requestsRecorded dt dev s tbl = true) :
    Inv dt (tbl.foldl (fun r e => request dt r.2 dev e.1 e.2) (rc, s)).2 := by
  induction tbl generalizing s rc with
  | nil => exact h
  | cons e rest ih =>
    rw [requestsRecorded, Bool.and_eq_true] at hok
    exact ih (request_inv h hok.1) _ hok.2

lemma step_inv (h : Inv dt s) (op : Op) (hok : heldAndRecorded dt s op = true) : Inv dt (step dt s op) := by
  cases op with
  | request dev gpio a => exact request_inv h hok
  | freeArry dev array => exact foldl_free_inv h hok
  | requestGpioTable dev conf gpioEn =>
    cases conf with
    | none => exact h
    | some conf =>
      simp only [step, camSensorUtilRequestGpioTable]
      split_ifs with hsize htbl hen
      · exact h
      · exact h
      · exact requestArry_inv h 0 (by simpa [heldAndRecorded, hsize, htbl, hen] using hok)
      · exact foldl_free_inv h (by simpa [heldAndRecorded, hsize, htbl, hen] using hok)

lemma init_inv (dt : Dt) : Inv dt init :=
  ⟨fun _ => ⟨by simp [init], by simp [init], by simp [init], by simp [init]⟩, fun _ => rfl,
    fun _ _ _ hmem => by simp [init] at hmem⟩

theorem run_heldWhileUsed (dt : Dt) (ops : List Op)
    (h : Transition.Guarded (step dt) (fun s op => heldAndRecorded dt s op = true) init ops) :
    HeldWhileUsed dt (Transition.run (step dt) init ops) := by
  have hstep : ∀ s op, Inv dt s → heldAndRecorded dt s op = true → Inv dt (step dt s op) :=
    fun _ op hs hok => step_inv hs op hok
  exact (Transition.run_invariant hstep (init_inv dt) h).held

/-- GPIO 5 is shared, GPIO 6 is not. -/
def oneShared : Dt := ⟨true, [5]⟩

def granted : Answers := ⟨0, true, true⟩

/-- Two users of the shared GPIO, one of them refused the private one. -/
def takeTurns : List Op :=
  [.requestGpioTable 1 (some ⟨2, [(5, granted), (6, granted)]⟩) true, .request 2 5 granted,
    .request 2 6 granted, .requestGpioTable 1 (some ⟨2, [(5, granted), (6, granted)]⟩) false,
    .request 3 5 ⟨0, false, false⟩, .freeArry 2 [5]]

theorem run_heldWhileUsed_takeTurns :
    HeldWhileUsed oneShared (Transition.run (step oneShared) init takeTurns) :=
  run_heldWhileUsed oneShared takeTurns (by decide +kernel)

/-- A device whose request failed frees the GPIO it does not hold. -/
def strayFree : List Op :=
  [.request 1 5 granted, .request 2 5 ⟨0, true, false⟩, .freeArry 2 [5]]

theorem strayFree_not_heldWhileUsed :
    ¬HeldWhileUsed oneShared (Transition.run (step oneShared) init strayFree) := by
  intro h
  exact absurd (h.alone 2 5 {1} (by decide +kernel) 1 (by decide)) (by decide)

end CameraKernel.ResMgr
