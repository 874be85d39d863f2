import CameraKernel.IspComplete

/-! Conservation over whole runs: the operations of user space and of the request manager
keep the books as well. -/
namespace CameraKernel.Isp

lemma takeFreeReq_inBooks {c : Ctx} (h : InBooks c) (hlinked : Linked c) (hheld : c.held = none) :
    InBooks (takeFreeReq c).2 := by
  unfold takeFreeReq
  cases hfree : c.free with
  | nil => exact h
  | cons i rest =>
    have hapart : Apart rest c.pending c.wait c.active [] [i] := by
      intro j
      have hone := hlinked j
      simp only [places, hfree, hheld, Option.toList_none, List.count_cons, List.count_nil] at hone ⊢
      omega
    have hbooks : Books c.req rest c.pending c.wait c.active [] :=
      { h with
        free := fun j hj => h.free j (hfree ▸ List.mem_cons_of_mem i hj)
        held := by simp }
    have hupdate := hbooks.update hapart { c.req i with accepted := false }
    exact {
      free := hupdate.free
      pending := hupdate.pending
      wait := hupdate.wait
      active := hupdate.active
      held := by simp [setReq] }

lemma fillReq_sound {p : Packet} (h : RefsTaken p) (r : Req) : (fillReq r p).Sound := by
  intro f hf
  obtain ⟨m, hm, rfl⟩ := List.mem_map.mp hf
  have hlive : m.2 ≠ -1 := by
    intro heq
    have href := h m hm
    rw [heq] at href
    simp [syncGetObjRef, syncMaxObjs, Errno.EINVAL] at href
  simp [FenceMapOut.Sound, hlive]

lemma acceptReq_filled_req (c : Ctx) (i : ℕ) (p : Packet) :
    (acceptReq (filled c i p) i).req =
      Function.update c.req i { fillReq (c.req i) p with accepted := true } := by
  simp [acceptReq, filled, setReq]

lemma mem_insertInOrder {c : Ctx} {i j : ℕ} (h : j ∈ insertInOrder c i) : j ∈ c.pending ∨ j = i := by
  have hcount := count_insertInOrder c i j
  have hpos := List.count_pos_iff.mpr h
  by_cases hj : j = i
  · exact .inr hj
  · left
    have hzero : [i].count j = 0 := List.count_eq_zero.mpr (by simpa using hj)
    exact List.count_pos_iff.mp (by omega)

/-- The first INIT packet takes over the fences of the second, having none of its own. -/
lemma mergeInit_inBooks {c : Ctx} {i old : ℕ} {rest : List ℕ} {p : Packet}
    (h : Books c.req c.free c.pending c.wait c.active []) (hheld : (c.req i).accepted = false)
    (hlinked : Apart c.free c.pending c.wait c.active [] [i]) (hrefs : RefsTaken p)
    (hpending : c.pending = old :: rest) (hfences : ((filled c i p).req old).fenceMapOut = []) :
    InBooks (mergeInit (filled c i p) old i) := by
  have hfilled : Books (filled c i p).req c.free c.pending c.wait c.active [] :=
    h.update hlinked (fillReq (c.req i) p)
  have hold : ((filled c i p).req old).Steady := hfilled.pending old (hpending ▸ List.mem_cons_self)
  have hreq : (filled c i p).req i = fillReq (c.req i) p := Function.update_self ..
  have hne : i ≠ old := by
    rintro rfl
    have hone := hlinked i
    simp only [hpending, List.count_cons_self, List.count_nil] at hone
    omega
  have hapart : Apart c.free rest c.wait c.active [] [old] := by
    intro j
    have hone := hlinked j
    simp only [hpending, List.count_cons, List.count_nil] at hone ⊢
    omega
  have hrest : rest ⊆ c.pending := hpending ▸ List.subset_cons_self old rest
  have hbooks := (hfilled.sublist hrest (List.Subset.refl _) (List.Subset.refl _)).update hapart
    { (filled c i p).req old with
      fenceMapOut := ((filled c i p).req i).fenceMapOut
      numFenceMapIn := ((filled c i p).req i).numFenceMapIn
      numCfg := ((filled c i p).req old).numCfg + ((filled c i p).req i).numCfg
      requestId := ((filled c i p).req i).requestId }
  have hacked : ((filled c i p).req old).numAcked = 0 := by
    have hle := hold.acked
    rw [Req.signalled, hfences] at hle
    simpa using hle
  have hmerged := Books.addPending (l := [old]) hbooks (by
    intro j hj
    rw [List.mem_singleton.mp hj, Function.update_self]
    refine ⟨?_, ?_⟩
    · rw [hreq]
      exact fillReq_sound hrefs (c.req i)
    · exact hacked.le.trans (Nat.zero_le _))
  have hdone := Books.addFree (l := [i]) hmerged (by
    intro j hj haccept
    rw [List.mem_singleton.mp hj, Function.update_of_ne hne, hreq] at haccept
    rw [show (fillReq (c.req i) p).accepted = (c.req i).accepted from rfl, hheld] at haccept
    cases haccept)
  rw [List.singleton_append, ← hpending] at hdone
  exact hdone

lemma configured_inBooks {c d : Ctx} {i : ℕ} {p : Packet} (h : InBooks c) (hlinked : Linked c)
    (hheld : c.held = some i) (hd : Configured c i p d) : InBooks d := by
  have hi : (c.req i).accepted = false := h.held i (by simp [hheld])
  have hapart : Apart c.free c.pending c.wait c.active [] [i] := by
    intro j
    have hone := hlinked j
    simp only [places, hheld, Option.toList_some, List.count_nil] at hone ⊢
    omega
  have hbooks : Books c.req c.free c.pending c.wait c.active [] := { h with held := by simp }
  have hnew (hrefs : RefsTaken p) :
      Books (acceptReq (filled c i p) i).req c.free ([i] ++ c.pending) c.wait c.active [] := by
    rw [acceptReq_filled_req]
    refine Books.addPending (hbooks.update hapart _) ?_
    intro j hj
    rw [List.mem_singleton.mp hj, Function.update_self]
    exact ⟨fillReq_sound hrefs (c.req i), Nat.zero_le _⟩
  cases hd with
  | rejected r b haccepted =>
    refine Books.addFree (hbooks.update hapart r) ?_
    intro j hj haccept
    rw [List.mem_singleton.mp hj, Function.update_self, haccepted, hi] at haccept
    cases haccept
  | initAdded hrefs hpending =>
    have hadded := hnew hrefs
    rw [hpending] at hadded
    exact hadded
  | initMerged hrefs hmerges old rest hpending hfences =>
    exact mergeInit_inBooks hbooks hi hapart hrefs hpending hfences
  | queued hrefs =>
    have hadded := hnew hrefs
    have hsubset : insertInOrder (acceptReq (filled c i p) i) i ⊆ [i] ++ c.pending := by
      intro j hj
      rcases mem_insertInOrder hj with hmem | rfl
      · exact List.mem_append_right _ hmem
      · exact List.mem_append_left _ (List.mem_singleton_self j)
    exact hadded.sublist hsubset (List.Subset.refl _) (List.Subset.refl _)

lemma configDev_inBooks {c : Ctx} {i : ℕ} (h : InBooks c) (hlinked : Linked c) (hheld : c.held = some i)
    (p : Packet) : InBooks (configDev c i p).2 := by
  have hd := configured_inBooks h hlinked hheld (configDevInTopState_configured c i p)
  unfold configDev
  dsimp only
  split
  · exact hd
  · exact hd

lemma applyReq_inBooks {c : Ctx} (h : InBooks c) (hlinked : Linked c) (a : ApplyReq) :
    InBooks (applyReq c a).2 := by
  have happly (next : Substate) : InBooks (applyReqInActivatedState c a next).2 := by
    unfold applyReqInActivatedState
    cases hpending : c.pending with
    | nil => exact h
    | cons i rest =>
      have hrest : rest ⊆ c.pending := hpending ▸ List.subset_cons_self i rest
      have hi : (c.req i).Steady := h.pending i (hpending ▸ List.mem_cons_self)
      have hapart : Apart c.free rest c.wait c.active c.held.toList [i] := by
        intro j
        have hone := hlinked j
        simp only [places, hpending, List.count_cons, List.count_nil] at hone ⊢
        omega
      have hbooks := (h.sublist hrest (List.Subset.refl _) (List.Subset.refl _)).update hapart
        { c.req i with bubbleReport := a.reportIfBubble }
      have hsteady : (Function.update c.req i { c.req i with bubbleReport := a.reportIfBubble } i).Steady := by
        rw [Function.update_self]
        exact ⟨hi.sound, hi.acked⟩
      dsimp only
      split_ifs
      · exact h
      · exact h.sublist (by rw [hpending]; exact List.Subset.refl _) (List.Subset.refl _) (List.Subset.refl _)
      · exact h
      · have hback := hbooks.addPending (l := [i]) (by simpa using hsteady)
        rw [List.singleton_append, ← hpending] at hback
        exact hback
      · exact hbooks.addWait hsteady
  unfold applyReq
  split
  · exact happly _
  · exact happly _
  · exact happly _
  · exact happly _
  · exact h

lemma flushed_subset (c : Ctx) (f : FlushReq) (l : List ℕ) : flushed c f l ⊆ l := by
  intro i hi
  have hcount := count_flushed c f l i
  have hpos := List.count_pos_iff.mpr hi
  exact List.count_pos_iff.mp (by omega)

lemma unflushed_subset (c : Ctx) (f : FlushReq) (l : List ℕ) : unflushed c f l ⊆ l := by
  intro i hi
  have hcount := count_flushed c f l i
  have hpos := List.count_pos_iff.mpr hi
  exact List.count_pos_iff.mp (by omega)

lemma flushPending_inBooks {c : Ctx} (h : InBooks c) (hlinked : Linked c) (f : FlushReq) :
    InBooks (flushPending c f) := by
  have hapart : Apart c.free (unflushed c f c.pending) c.wait c.active c.held.toList (flushed c f c.pending) := by
    intro j
    have hone := hlinked j
    have hcount := count_flushed c f c.pending j
    simp only [places] at hone
    omega
  exact freeEach_books h (unflushed_subset c f c.pending) (List.Subset.refl _) (List.Subset.refl _) hapart
    (fun i hi => (h.pending i (flushed_subset c f c.pending hi)).sound) fun r hr => hr.flush_complete

lemma flushApplied_inBooks {c : Ctx} (h : InBooks c) (hlinked : Linked c) (f : FlushReq) :
    InBooks (flushApplied c f) := by
  have hapart : Apart c.free c.pending (unflushed c f c.wait) (unflushed c f c.active) c.held.toList
      (flushed c f c.wait ++ flushed c f c.active) := by
    intro j
    have hone := hlinked j
    have hwait := count_flushed c f c.wait j
    have hactive := count_flushed c f c.active j
    simp only [places] at hone
    simp only [List.count_append]
    omega
  refine freeEach_books h (List.Subset.refl _) (unflushed_subset c f c.wait) (unflushed_subset c f c.active)
    hapart ?_ fun r hr => hr.flush_complete
  intro i hi
  rcases List.mem_append.mp hi with hwait | hactive
  · exact (h.wait i (flushed_subset c f c.wait hwait)).sound
  · exact (h.active i (flushed_subset c f c.active hactive)).sound

lemma flushReq_inBooks {c : Ctx} (h : InBooks c) (hlinked : Linked c) (f : FlushReq) :
    InBooks (flushReq c f).2 := by
  have hpending : InBooks { flushPending (recordFlush c f) f with processBubble := false } :=
    flushPending_inBooks (c := recordFlush c f) h hlinked f
  have hpendingLinked : Linked { flushPending (recordFlush c f) f with processBubble := false } := by
    intro j
    exact (congrFun (flushPending_places (recordFlush c f) f) j).le.trans (hlinked j)
  have htop : InBooks (flushReqInTopState c f).2 := by
    unfold flushReqInTopState
    dsimp only
    split_ifs
    · exact hpending
    · exact hpending
    · exact flushApplied_inBooks hpending hpendingLinked f
  unfold flushReq
  split
  · exact h
  · exact flushPending_inBooks h hlinked f
  · exact htop
  · exact htop

lemma startDevInReady_inBooks {c : Ctx} (h : InBooks c) (cmd : StartCmd) :
    InBooks (startDevInReady c cmd).2 := by
  unfold startDevInReady
  split
  · exact h
  · cases hpending : c.pending with
    | nil => exact h
    | cons i rest =>
      have hrest : rest ⊆ c.pending := hpending ▸ List.subset_cons_self i rest
      have hi : (c.req i).Steady := h.pending i (hpending ▸ List.mem_cons_self)
      have hbooks := h.sublist hrest (List.Subset.refl _) (List.Subset.refl _)
      dsimp only
      split_ifs
      · exact h
      · exact h.sublist (by rw [hpending]; exact List.Subset.refl _) (List.Subset.refl _) (List.Subset.refl _)
      · exact hbooks.addActive hi.running
      · exact hbooks.addWait hi

lemma stopDevInActivatedUnlock_inBooks {c : Ctx} (h : InBooks c) (hlinked : Linked c) (cmd : Bool) :
    InBooks (stopDevInActivatedUnlock c cmd) := by
  have hapart : Apart c.free [] [] [] c.held.toList (c.pending ++ c.wait ++ c.active) := by
    intro j
    have hone := hlinked j
    simp only [places] at hone
    simp only [List.count_append, List.count_nil]
    omega
  have hsound : ∀ i ∈ c.pending ++ c.wait ++ c.active, (c.req i).Sound := by
    intro i hi
    rcases List.mem_append.mp hi with hearly | hactive
    · rcases List.mem_append.mp hearly with hpending | hwait
      · exact (h.pending i hpending).sound
      · exact (h.wait i hwait).sound
    · exact (h.active i hactive).sound
  have hbooks := freeEach_books (c := c) h (List.nil_subset _) (List.nil_subset _) (List.nil_subset _) hapart
    hsound fun r hr => hr.cutOff_complete
  unfold stopDevInActivatedUnlock
  dsimp only
  split
  · exact hbooks
  · exact hbooks

/-! ### The top state and the lists -/

/-- Nothing is applied outside the activated state, and an available context has no request. -/
structure TopInv (c : Ctx) : Prop where
  idle : c.state ≠ .activated → c.wait = [] ∧ c.active = []
  available : c.state = .available → c.pending = [] ∧ c.held = none

lemma TopInv.frame {c d : Ctx} (h : TopInv c) (hstate : d.state = c.state) (hwait : d.wait = c.wait)
    (hactive : d.active = c.active) (hpending : c.pending = [] → d.pending = []) (hheld : d.held = c.held) :
    TopInv d where
  idle hd := by
    rw [hwait, hactive]
    exact h.idle (hstate ▸ hd)
  available hd := by
    obtain ⟨hnone, hfree⟩ := h.available (hstate ▸ hd)
    exact ⟨hpending hnone, hheld.trans hfree⟩

lemma topInv_of_activated {c : Ctx} (h : c.state = .activated) : TopInv c :=
  ⟨fun hc => absurd h hc, fun hc => by rw [h] at hc; cases hc⟩

lemma topInv_of_idle {c : Ctx} (hstate : c.state ≠ .available) (hwait : c.wait = []) (hactive : c.active = []) :
    TopInv c :=
  ⟨fun _ => ⟨hwait, hactive⟩, fun hc => absurd hc hstate⟩

lemma beginConfigDev_topInv {c : Ctx} (h : TopInv c) : TopInv (beginConfigDev c).2 := by
  have htake (hstate : c.state ≠ .available) : TopInv (takeFreeReq c).2 := by
    unfold takeFreeReq
    split
    · exact h
    · exact ⟨h.idle, fun hc => absurd hc hstate⟩
  unfold beginConfigDev
  cases hstate : c.state with
  | available => exact h
  | acquired =>
    dsimp only
    split
    · exact h
    · exact htake (by simp [hstate])
  | ready => exact htake (by simp [hstate])
  | activated => exact htake (by simp [hstate])

lemma configDev_topInv {c : Ctx} {i : ℕ} (h : TopInv c) (hheld : c.held = some i) (p : Packet) :
    TopInv (configDev c i p).2 := by
  have hnot : c.state ≠ .available := by
    intro hstate
    have hnone := (h.available hstate).2
    rw [hheld] at hnone
    cases hnone
  obtain ⟨hactive, hwait, -, hstate⟩ := configured_active (configDevInTopState_configured c i p)
  unfold configDev
  dsimp only
  split
  · rename_i hready
    obtain ⟨hw, ha⟩ := h.idle (by simp [hready.1])
    exact topInv_of_idle (by simp) (hwait.trans hw) (hactive.trans ha)
  · refine ⟨fun hd => ?_, fun hd => absurd (hstate ▸ hd) hnot⟩
    rw [hwait, hactive]
    exact h.idle (hstate ▸ hd)

lemma flushPending_nil {c : Ctx} (h : c.pending = []) (f : FlushReq) : (flushPending c f).pending = [] := by
  have hsubset := unflushed_subset c f c.pending
  rw [h] at hsubset
  exact (congrArg (unflushed c f) h).trans (List.subset_nil.mp hsubset)

lemma flushApplied_topInv {c : Ctx} (h : TopInv c) (f : FlushReq) : TopInv (flushApplied c f) := by
  refine ⟨fun hc => ?_, h.available⟩
  obtain ⟨hw, ha⟩ := h.idle hc
  exact ⟨List.subset_nil.mp (hw ▸ unflushed_subset _ f c.wait),
    List.subset_nil.mp (ha ▸ unflushed_subset _ f c.active)⟩

lemma flushReqInTopState_topInv {c : Ctx} (h : TopInv c) (f : FlushReq) :
    TopInv (flushReqInTopState c f).2 := by
  have hflushed : TopInv { flushPending (recordFlush c f) f with processBubble := false } :=
    h.frame rfl rfl rfl (fun hnone => flushPending_nil (c := recordFlush c f) hnone f) rfl
  rw [flushReqInTopState]
  generalize ({ flushPending (recordFlush c f) f with processBubble := false } : Ctx) = d at hflushed ⊢
  have happlied := flushApplied_topInv hflushed f
  generalize flushApplied d f = e at happlied ⊢
  dsimp only
  split_ifs
  · exact ⟨hflushed.idle, hflushed.available⟩
  · exact ⟨hflushed.idle, hflushed.available⟩
  · exact ⟨happlied.idle, happlied.available⟩

lemma flushReq_topInv {c : Ctx} (h : TopInv c) (f : FlushReq) : TopInv (flushReq c f).2 := by
  unfold flushReq
  cases hstate : c.state with
  | available => exact h
  | acquired => exact flushReqInTopState_topInv h f
  | ready =>
    obtain ⟨hw, ha⟩ := h.idle (by simp [hstate])
    refine topInv_of_idle ?_ hw ha
    change (if (flushPending c f).pending = [] then CtxState.acquired else c.state) ≠ _
    split_ifs <;> simp [hstate]
  | activated => exact flushReqInTopState_topInv h f

lemma startDevInReady_topInv {c : Ctx} (h : TopInv c) (hready : c.state = .ready) (cmd : StartCmd) :
    TopInv (startDevInReady c cmd).2 := by
  obtain ⟨hw, ha⟩ := h.idle (by simp [hready])
  unfold startDevInReady
  split
  · exact h
  · split
    · exact h
    · dsimp only
      split_ifs
      · exact h
      · exact topInv_of_idle (by simp [hready]) hw ha
      · exact topInv_of_activated rfl
      · exact topInv_of_activated rfl

lemma stopDevInActivatedUnlock_lists (c : Ctx) (cmd : Bool) :
    (stopDevInActivatedUnlock c cmd).wait = [] ∧ (stopDevInActivatedUnlock c cmd).active = [] ∧
      (stopDevInActivatedUnlock c cmd).held = c.held := by
  unfold stopDevInActivatedUnlock
  cases cmd with
  | false => exact ⟨rfl, rfl, rfl⟩
  | true => exact ⟨rfl, rfl, rfl⟩

lemma releaseHwInTopState_topInv {c : Ctx} (hwait : c.wait = []) (hactive : c.active = []) :
    TopInv (releaseHwInTopState c) :=
  topInv_of_idle (by simp [releaseHwInTopState, flushPending, freeEach]) hwait hactive

lemma releaseDevInTopState_topInv {c : Ctx} (hwait : c.wait = []) (hactive : c.active = [])
    (hheld : c.held = none) : TopInv (releaseDevInTopState c) := by
  have hlists : (releaseDevInTopState c).wait = c.wait ∧ (releaseDevInTopState c).active = c.active ∧
      (releaseDevInTopState c).held = c.held := by
    unfold releaseDevInTopState
    dsimp only
    split <;> exact ⟨rfl, rfl, rfl⟩
  refine ⟨fun _ => ⟨hlists.1.trans hwait, hlists.2.1.trans hactive⟩, fun _ => ⟨?_, hlists.2.2.trans hheld⟩⟩
  simp [releaseDevInTopState, flushPending, unflushed, flushAll]

lemma acquireDev_topInv {c : Ctx} (h : TopInv c) (hheld : c.held = none) (cmd : AcquireCmd) :
    TopInv (acquireDev c cmd).2 := by
  have hkeep := acquireDev_held c cmd
  revert hkeep
  unfold acquireDev
  split
  · intro hkeep
    exact ⟨fun _ => ⟨rfl, rfl⟩, fun _ => ⟨rfl, hkeep.trans hheld⟩⟩
  · intro hkeep
    exact h

lemma applyReq_frame (c : Ctx) (a : ApplyReq) :
    (applyReq c a).2.state = c.state ∧ (applyReq c a).2.stray = c.stray := by
  have happly (next : Substate) : (applyReqInActivatedState c a next).2.state = c.state ∧
      (applyReqInActivatedState c a next).2.stray = c.stray := by
    unfold applyReqInActivatedState
    split
    · exact ⟨rfl, rfl⟩
    · dsimp only
      split_ifs <;> exact ⟨rfl, rfl⟩
  unfold applyReq
  split
  · exact happly _
  · exact happly _
  · exact happly _
  · exact happly _
  · exact ⟨rfl, rfl⟩

lemma call_topInv {c : Ctx} (h : TopInv c) (hheld : c.held = none) (op : Op) : TopInv (call c op) := by
  have hstop := stopDevInActivatedUnlock_lists c
  cases op with
  | acquireDev cmd => exact acquireDev_topInv h hheld cmd
  | acquireHw cmd =>
    simp only [call]
    split
    · unfold acquireHwInAcquired
      split_ifs
      · exact h
      · exact h
      · exact h.frame rfl rfl rfl id rfl
      · exact h.frame rfl rfl rfl id rfl
    · exact h
  | releaseHw =>
    simp only [call]
    cases hc : c.state with
    | available => exact h
    | acquired =>
      obtain ⟨hw, ha⟩ := h.idle (by simp [hc])
      exact releaseHwInTopState_topInv hw ha
    | ready =>
      obtain ⟨hw, ha⟩ := h.idle (by simp [hc])
      exact releaseHwInTopState_topInv hw ha
    | activated => exact releaseHwInTopState_topInv (hstop false).1 (hstop false).2.1
  | releaseDev =>
    simp only [call]
    cases hc : c.state with
    | available => exact h
    | acquired =>
      obtain ⟨hw, ha⟩ := h.idle (by simp [hc])
      exact releaseDevInTopState_topInv hw ha hheld
    | ready =>
      obtain ⟨hw, ha⟩ := h.idle (by simp [hc])
      exact releaseDevInTopState_topInv hw ha hheld
    | activated =>
      exact releaseDevInTopState_topInv (hstop false).1 (hstop false).2.1 ((hstop false).2.2.trans hheld)
  | link linkHdl =>
    simp only [call]
    split
    · rename_i hc
      obtain ⟨hw, ha⟩ := h.idle (by simp [hc])
      refine topInv_of_idle ?_ hw ha
      dsimp only
      split_ifs <;> simp
    · exact h
  | unlink =>
    simp only [call]
    cases hc : c.state with
    | available => exact h
    | acquired => exact h.frame hc.symm rfl rfl id rfl
    | ready =>
      obtain ⟨hw, ha⟩ := h.idle (by simp [hc])
      exact topInv_of_idle (by simp [unlinkInReady]) hw ha
    | activated => exact topInv_of_idle (by simp [unlinkInReady]) (hstop false).1 (hstop false).2.1
  | beginConfig => exact beginConfigDev_topInv h
  | config p => exact h
  | startDev cmd =>
    simp only [call]
    split
    · rename_i hc
      exact startDevInReady_topInv h hc cmd
    · exact h
  | stopDev =>
    simp only [call]
    split
    · exact topInv_of_idle (by simp [stopDevInActivated]) (hstop true).1 (hstop true).2.1
    · exact h
  | apply a =>
    simp only [call]
    split
    · rename_i hc
      exact topInv_of_activated ((applyReq_frame c a).1.trans hc)
    · exact h
  | flush f => exact flushReq_topInv h f
  | irq e => exact h

lemma acquireDev_inBooks {c : Ctx} (h : InBooks c) (hplaces : places c = (List.range ctxReqMax).count)
    (htop : TopInv c) (cmd : AcquireCmd) : InBooks (acquireDev c cmd).2 := by
  have hkeeps := acquireDevInAvailable_keeps c cmd
  unfold acquireDev
  cases hc : c.state with
  | available =>
    obtain ⟨hw, ha⟩ := htop.idle (by simp [hc])
    obtain ⟨hp, hheld⟩ := htop.available hc
    have hfree : ∀ i ∈ List.range ctxReqMax, (c.req i).Done := by
      intro i hi
      have hcount := congrFun hplaces i
      simp only [places, hp, hw, ha, hheld, Option.toList_none, List.count_nil, add_zero] at hcount
      have hpos := List.count_pos_iff.mpr hi
      exact h.free i (List.count_pos_iff.mp (by omega))
    exact {
      free := by
        intro i hi
        rw [hkeeps.req]
        exact hfree i hi
      pending := by simp
      wait := by simp
      active := by simp
      held := by simp [hkeeps.held, hheld] }
  | acquired => exact h
  | ready => exact h
  | activated => exact h

lemma call_inBooks {c : Ctx} (h : InBooks c) (hplaces : places c = (List.range ctxReqMax).count)
    (htop : TopInv c) (hheld : c.held = none) (op : Op) : InBooks (call c op) := by
  have hlinked : Linked c := by
    intro i
    rw [hplaces]
    exact List.nodup_iff_count_le_one.mp List.nodup_range i
  have hstop := stopDevInActivatedUnlock_inBooks h hlinked false
  have hstopLinked : Linked (stopDevInActivatedUnlock c false) := by
    intro i
    rw [stopDevInActivatedUnlock_places]
    exact hlinked i
  have hhw {d : Ctx} (hd : InBooks d) (hl : Linked d) : InBooks (releaseHwInTopState d) :=
    flushPending_inBooks hd hl flushAll
  have hdev {d : Ctx} (hd : InBooks d) (hl : Linked d) : InBooks (releaseDevInTopState d) := by
    unfold releaseDevInTopState
    dsimp only
    split
    · have hl' : Linked (releaseHwInTopState d) := by
        intro i
        rw [releaseHwInTopState_places]
        exact hl i
      exact flushPending_inBooks (hhw hd hl) hl' flushAll
    · exact flushPending_inBooks hd hl flushAll
  cases op with
  | acquireDev cmd => exact acquireDev_inBooks h hplaces htop cmd
  | acquireHw cmd =>
    simp only [call]
    split
    · unfold acquireHwInAcquired
      split_ifs <;> exact h
    · exact h
  | releaseHw =>
    simp only [call]
    split
    · exact h
    · exact hhw h hlinked
    · exact hhw h hlinked
    · exact hhw hstop hstopLinked
  | releaseDev =>
    simp only [call]
    split
    · exact h
    · exact hdev h hlinked
    · exact hdev h hlinked
    · exact hdev hstop hstopLinked
  | link linkHdl =>
    simp only [call]
    split <;> exact h
  | unlink =>
    simp only [call]
    split
    · exact h
    · exact h
    · exact h
    · exact hstop
  | beginConfig =>
    simp only [call]
    unfold beginConfigDev
    split
    · exact h
    · split
      · exact h
      · exact takeFreeReq_inBooks h hlinked hheld
    · exact takeFreeReq_inBooks h hlinked hheld
    · exact takeFreeReq_inBooks h hlinked hheld
  | config p => exact h
  | startDev cmd =>
    simp only [call]
    split
    · exact startDevInReady_inBooks h cmd
    · exact h
  | stopDev =>
    simp only [call]
    split
    · exact stopDevInActivatedUnlock_inBooks h hlinked true
    · exact h
  | apply a =>
    simp only [call]
    split
    · exact applyReq_inBooks h hlinked a
    · exact h
  | flush f => exact flushReq_inBooks h hlinked f
  | irq e => exact h

lemma flushReq_stray (c : Ctx) (f : FlushReq) : (flushReq c f).2.stray = c.stray := by
  have htop : (flushReqInTopState c f).2.stray = c.stray := by
    have hflushed : ({ flushPending (recordFlush c f) f with processBubble := false } : Ctx).stray =
      c.stray := rfl
    rw [flushReqInTopState]
    generalize ({ flushPending (recordFlush c f) f with processBubble := false } : Ctx) = d at hflushed ⊢
    rw [← hflushed]
    have happlied : (flushApplied d f).stray = d.stray := rfl
    generalize flushApplied d f = e at happlied ⊢
    dsimp only
    split_ifs
    · rfl
    · rfl
    · exact happlied
  unfold flushReq
  split
  · rfl
  · rfl
  · exact htop
  · exact htop

lemma call_stray (c : Ctx) (op : Op) : (call c op).stray = c.stray := by
  have hstop (cmd : Bool) : (stopDevInActivatedUnlock c cmd).stray = c.stray := by
    cases cmd <;> rfl
  have hdev (d : Ctx) : (releaseDevInTopState d).stray = d.stray := by
    unfold releaseDevInTopState
    dsimp only
    split <;> rfl
  cases op with
  | acquireDev cmd =>
    simp only [call]
    unfold acquireDev
    split
    · exact (acquireDevInAvailable_keeps c cmd).stray
    · rfl
  | acquireHw cmd =>
    simp only [call]
    unfold acquireHwInAcquired
    split_ifs <;> rfl
  | releaseHw =>
    simp only [call]
    split
    · rfl
    · rfl
    · rfl
    · exact hstop false
  | releaseDev =>
    simp only [call]
    split
    · rfl
    · exact hdev c
    · exact hdev c
    · exact (hdev _).trans (hstop false)
  | link linkHdl =>
    simp only [call]
    split <;> rfl
  | unlink =>
    simp only [call]
    split
    · rfl
    · rfl
    · rfl
    · exact hstop false
  | beginConfig =>
    simp only [call]
    unfold beginConfigDev takeFreeReq
    split
    · rfl
    · split
      · rfl
      · split <;> rfl
    · split <;> rfl
    · split <;> rfl
  | config p => rfl
  | startDev cmd =>
    simp only [call]
    unfold startDevInReady
    split
    · split
      · rfl
      · split
        · rfl
        · dsimp only
          split_ifs <;> rfl
    · rfl
  | stopDev =>
    simp only [call]
    split
    · exact hstop true
    · rfl
  | apply a =>
    simp only [call]
    split
    · exact (applyReq_frame c a).2
    · rfl
  | flush f => exact flushReq_stray c f
  | irq e => rfl

structure ConserveInv (c : Ctx) : Prop where
  places : places c = (List.range ctxReqMax).count
  books : InBooks c
  top : TopInv c
  stray : c.stray = false

lemma contextInit_conserveInv : ConserveInv contextInit where
  places := by
    funext i
    simp [Isp.places, contextInit]
  books := {
    free := by simp [contextInit, Req.Done]
    pending := by simp [contextInit]
    wait := by simp [contextInit]
    active := by simp [contextInit]
    held := by simp [contextInit] }
  top := ⟨fun _ => ⟨rfl, rfl⟩, fun _ => ⟨rfl, rfl⟩⟩
  stray := rfl

lemma ConserveInv.linked {c : Ctx} (h : ConserveInv c) : Linked c := by
  intro i
  rw [h.places]
  exact List.nodup_iff_count_le_one.mp List.nodup_range i

lemma handled_conserveInv {c d : Ctx} {e : Event} (h : ConserveInv c) (hactivated : c.state = .activated)
    (hd : Handled c e d) (hsafe : conserveSafe c (.irq e) = true) : ConserveInv d where
  places := by
    rcases handled_places hd with heq | ⟨hsub, ⟨t, s, rfl⟩, heq⟩
    · exact heq.trans h.places
    · have hkeeps : keepsWaiting c = true := by
        simpa [conserveSafe, hactivated, hsub] using hsafe
      exact heq.trans ((dropWaiting_places hkeeps).trans h.places)
  books := handled_inBooks h.books h.linked hactivated hd hsafe
  top := topInv_of_activated ((handled_state hd).trans hactivated)
  stray := (handled_stray hactivated hd hsafe).trans h.stray

lemma configDev_stray (c : Ctx) (i : ℕ) (p : Packet) : (configDev c i p).2.stray = c.stray := by
  have hd : (configDevInTopState c i p).2.stray = c.stray := by
    obtain ⟨d, hd⟩ : ∃ d, d = (configDevInTopState c i p).2 := ⟨_, rfl⟩
    have hconf := configDevInTopState_configured c i p
    rw [← hd] at hconf ⊢
    cases hconf with
    | rejected | initAdded | initMerged | queued => rfl
  unfold configDev
  dsimp only
  split
  · exact hd
  · exact hd

lemma step_conserveInv {c : Ctx} (h : ConserveInv c) (op : Op) (hsafe : conserveSafe c op = true) :
    ConserveInv (step c op) := by
  unfold step
  split
  · split
    · rename_i hactivated
      exact handled_conserveInv h hactivated (handleIrqInActivated_handled c _) hsafe
    · exact h
  · rename_i p i hheld
    exact {
      places := (configDev_places hheld p).trans h.places
      books := configDev_inBooks h.books h.linked hheld p
      top := configDev_topInv h.top hheld p
      stray := (configDev_stray c i p).trans h.stray }
  · exact h
  · exact h
  · rename_i hheld
    refine ⟨?_, call_inBooks h.books h.places h.top hheld _, call_topInv h.top hheld _, ?_⟩
    · rcases call_places hheld _ with heq | ⟨-, heq⟩
      · exact heq.trans h.places
      · exact heq
    · exact (call_stray c _).trans h.stray

/-- Every object is on one list, or held by config_dev; no access went astray; and a request
that was accepted is freed with each fence passed once. -/
structure Conserved (c : Ctx) : Prop where
  onePlace : ∀ i < ctxReqMax, places c i = 1
  noStray : c.stray = false
  complete : ∀ i ∈ c.free, (c.req i).accepted = true → ∀ f ∈ (c.req i).fenceMapOut, f.passed = 1

/-- The context after every run that meets the side condition. -/
theorem run_conserved (ops : List Op)
    (hsafe : Transition.Guarded step (fun c op => conserveSafe c op = true) contextInit ops) :
    Conserved (Transition.run step contextInit ops) := by
  have hinv : ConserveInv (Transition.run step contextInit ops) :=
    Transition.run_invariant (fun c op (hc : ConserveInv c) hop => step_conserveInv hc op hop)
      contextInit_conserveInv hsafe
  refine ⟨fun i hi => ?_, hinv.stray, fun i hi haccepted => hinv.books.free i hi haccepted⟩
  rw [hinv.places]
  exact List.count_eq_one_of_mem List.nodup_range (List.mem_range.mpr hi)

/-- Request 2 completes, request 3 is recovered from a bubble, request 4 is cancelled, and
the rest is flushed. -/
def fullSession : List Op :=
  startUp .pix ++ update 2 11 ++ update 3 12 ++ update 4 13 ++ firstFrame ++
    [Op.apply ⟨2, false, 0⟩, .irq (.regUpdate 0 0), .irq (.done 0 [(1, 0)]), .irq (.sof 0),
      .apply ⟨3, true, 0⟩, .irq (.epoch 0), .irq (.done 0 [(1, 0)]), .flush ⟨.cancelReq, 4, 0, 0⟩,
      .apply ⟨3, false, 0⟩, .flush ⟨.all, 4, 0, 0⟩]

theorem fullSession_conserved :
    Transition.Guarded step (fun c op => conserveSafe c op = true) contextInit fullSession ∧
      Conserved (Transition.run step contextInit fullSession) ∧
      (Transition.run step contextInit fullSession).free.length = ctxReqMax := by
  have hsafe : Transition.Guarded step (fun c op => conserveSafe c op = true) contextInit fullSession := by
    decide +kernel
  exact ⟨hsafe, run_conserved fullSession hsafe, by decide +kernel⟩

/-- Cancelling a request that is not there resets the substate while request 2 waits. -/
def cancelWhileWaiting : List Op :=
  startUp .pix ++ update 2 11 ++ firstFrame ++
    [Op.apply ⟨2, false, 0⟩, .flush ⟨.cancelReq, 9, 0, 0⟩, .irq (.regUpdate 0 0)]

theorem cancelWhileWaiting_lost :
    (Transition.run step contextInit cancelWhileWaiting).state = .activated ∧
      places (Transition.run step contextInit cancelWhileWaiting) 1 = 0 ∧
      ((Transition.run step contextInit cancelWhileWaiting).req 1).fenceMapOut = [⟨1, 11, 0⟩] ∧
      ¬ Conserved (Transition.run step contextInit cancelWhileWaiting) := by
  have hlost : places (Transition.run step contextInit cancelWhileWaiting) 1 = 0 := by decide +kernel
  refine ⟨by decide +kernel, hlost, by decide +kernel, ?_⟩
  intro h
  have hone := h.onePlace 1 (by decide)
  rw [hlost] at hone
  cases hone

end CameraKernel.Isp
