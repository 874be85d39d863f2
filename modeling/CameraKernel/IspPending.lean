import CameraKernel.IspPlaces

/-! The order of the pending list. Requests enter it from config_dev in order, and at its
head when they are put back by bubble recovery and by errors. -/
namespace CameraKernel.Isp

def requestIdOf (c : Ctx) (i : ℕ) : ℕ := (c.req i).requestId

/-- Oldest first, without repetition. -/
def Increasing (c : Ctx) (l : List ℕ) : Prop := l.Pairwise fun i j => requestIdOf c i < requestIdOf c j

def Older (c : Ctx) (l m : List ℕ) : Prop := ∀ i ∈ l, ∀ j ∈ m, requestIdOf c i < requestIdOf c j

instance (c : Ctx) (l : List ℕ) : Decidable (Increasing c l) :=
  inferInstanceAs (Decidable (l.Pairwise fun i j => requestIdOf c i < requestIdOf c j))

instance (c : Ctx) (l m : List ℕ) : Decidable (Older c l m) :=
  inferInstanceAs (Decidable (∀ i ∈ l, ∀ j ∈ m, requestIdOf c i < requestIdOf c j))

lemma increasing_append {c : Ctx} {l m : List ℕ} :
    Increasing c (l ++ m) ↔ Increasing c l ∧ Increasing c m ∧ Older c l m := List.pairwise_append

lemma increasing_cons {c : Ctx} {i : ℕ} {l : List ℕ} :
    Increasing c (i :: l) ↔ Older c [i] l ∧ Increasing c l := by
  simp [Increasing, Older]

lemma Increasing.congr {c d : Ctx} {l : List ℕ} (h : Increasing c l)
    (hid : ∀ i ∈ l, requestIdOf d i = requestIdOf c i) : Increasing d l := by
  refine List.Pairwise.imp_of_mem ?_ h
  intro i j hi hj hij
  rw [hid i hi, hid j hj]
  exact hij

lemma insertInOrder_increasing {c : Ctx} {i : ℕ} (h : Increasing c c.pending)
    (hnew : ∀ j ∈ c.pending, requestIdOf c j ≠ requestIdOf c i) : Increasing c (insertInOrder c i) := by
  let younger := fun j => decide ((c.req i).requestId < (c.req j).requestId)
  have hpre : c.pending.rdropWhile younger <+: c.pending := List.rdropWhile_prefix younger c.pending
  have hsuffix : c.pending.rtakeWhile younger <:+ c.pending := List.rtakeWhile_suffix younger c.pending
  have hfront := List.Pairwise.sublist hpre.sublist h
  have holder : ∀ j ∈ c.pending.rdropWhile younger, requestIdOf c j < requestIdOf c i := by
    intro j hj
    have hne : c.pending.rdropWhile younger ≠ [] := List.ne_nil_of_mem hj
    have hlast := List.rdropWhile_last_not younger c.pending hne
    have hle : requestIdOf c j ≤ requestIdOf c ((c.pending.rdropWhile younger).getLast hne) :=
      (hfront.imp fun hlt => hlt.le).rel_getLast hj
    have hnot := hnew _ (hpre.mem (List.getLast_mem hne))
    simp only [younger, decide_eq_true_eq, not_lt] at hlast
    exact lt_of_le_of_lt hle (lt_of_le_of_ne hlast hnot)
  have hyounger : ∀ j ∈ c.pending.rtakeWhile younger, requestIdOf c i < requestIdOf c j := by
    intro j hj
    simpa [younger, requestIdOf] using List.mem_rtakeWhile_imp hj
  have hsplit : c.pending.rdropWhile younger ++ c.pending.rtakeWhile younger = c.pending :=
    List.rdropWhile_append_rtakeWhile
  rw [← hsplit, increasing_append] at h
  have hcons : Increasing c (i :: c.pending.rtakeWhile younger) := by
    rw [increasing_cons]
    exact ⟨fun k hk j hj => by rw [List.mem_singleton.mp hk]; exact hyounger j hj, h.2.1⟩
  refine increasing_append.mpr ⟨h.1, hcons, ?_⟩
  intro j hj k hk
  rcases List.mem_cons.mp hk with rfl | hk
  · exact holder j hj
  · exact h.2.2 j hj k hk

/-! ### What every handler keeps -/

/-- Ids stay, the free list only grows, and config_dev keeps its object. -/
structure Keeps (c d : Ctx) : Prop where
  id : ∀ i, requestIdOf d i = requestIdOf c i
  free : c.free <+: d.free
  held : d.held = c.held

lemma Keeps.refl (c : Ctx) : Keeps c c := ⟨fun _ => rfl, List.prefix_rfl, rfl⟩

lemma Keeps.trans {c d e : Ctx} (h : Keeps c d) (h' : Keeps d e) : Keeps c e where
  id i := (h'.id i).trans (h.id i)
  free := h.free.trans h'.free
  held := h'.held.trans h.held

/-- Requests on the way through the context. -/
def flight (c : Ctx) (i : ℕ) : ℕ := c.pending.count i + c.wait.count i + c.active.count i

lemma flight_le {c d : Ctx} (h : Keeps c d) {i : ℕ} (hplaces : places d i ≤ places c i) :
    flight d i ≤ flight c i := by
  have hfree := h.free.sublist.count_le i
  simp only [places, h.held] at hplaces
  simp only [flight]
  omega

lemma freeEach_keeps (finish : Req → Req) (hfinish : ∀ r, (finish r).requestId = r.requestId) (c : Ctx)
    (l : List ℕ) : Keeps c (freeEach finish c l) where
  id i := by
    simp only [requestIdOf, freeEach]
    split
    · exact hfinish (c.req i)
    · rfl
  free := List.prefix_append c.free l
  held := rfl

lemma setReq_keeps {c : Ctx} {i : ℕ} {r : Req} (h : r.requestId = (c.req i).requestId) :
    Keeps c (setReq c i r) where
  id j := by
    simp only [requestIdOf, setReq]
    by_cases hj : j = i
    · rw [hj, Function.update_self, h]
    · rw [Function.update_of_ne hj]
  free := List.prefix_rfl
  held := rfl

lemma Keeps.of_eq {c d : Ctx} (hreq : d.req = c.req) (hfree : c.free <+: d.free) (hheld : d.held = c.held) :
    Keeps c d := ⟨fun i => by rw [requestIdOf, requestIdOf, hreq], hfree, hheld⟩

lemma report_keeps (c : Ctx) : Keeps c (report c) := by
  unfold report
  split
  · exact Keeps.refl c
  · exact .of_eq rfl List.prefix_rfl rfl

lemma stampIrq_keeps (c : Ctx) (t : ℕ) : Keeps c (stampIrq c t) := .of_eq rfl List.prefix_rfl rfl

lemma refreshed_keeps (c : Ctx) (fps id : ℕ) (substate : Substate) :
    Keeps c { updateFps c fps with substate := substate, reportedReqId := id } :=
  .of_eq rfl List.prefix_rfl rfl

lemma takeUp_keeps (c : Ctx) (i : ℕ) (rest : List ℕ) : Keeps c (takeUp c i rest) := by
  unfold takeUp
  split
  · exact .of_eq rfl List.prefix_rfl rfl
  · exact .of_eq rfl (List.prefix_append _ _) rfl

lemma bubble_keeps (c : Ctx) (i : ℕ) (rest : List ℕ) : Keeps c (bubble c i rest) := by
  have h := setReq_keeps (c := c) (i := i) (r := { c.req i with
    bubbleDetected := true, reapply := true, bubbleReport := (c.req i).bubbleReport && c.crmIntf }) rfl
  exact ⟨h.id, h.free, h.held⟩

lemma bubbleAgain_keeps (c : Ctx) (i : ℕ) (rest : List ℕ) : Keeps c (bubbleAgain c i rest) := by
  have h := bubble_keeps c i rest
  unfold bubbleAgain
  split
  · exact h
  · exact ⟨h.id, h.free, h.held⟩

lemma ackPort_requestId (r : Req) (ack : ℕ × ℤ) : (ackPort r ack).requestId = r.requestId := by
  unfold ackPort
  split
  · rfl
  · split_ifs <;> rfl

lemma ackPorts_requestId (r : Req) (acks : List (ℕ × ℤ)) : (ackPorts r acks).requestId = r.requestId := by
  induction acks generalizing r with
  | nil => rfl
  | cons ack acks ih => exact (ih (ackPort r ack)).trans (ackPort_requestId r ack)

lemma finishFirst_keeps (c : Ctx) (i : ℕ) (rest : List ℕ) : Keeps c (finishFirst c i rest) := by
  unfold finishFirst
  split
  · have h := setReq_keeps (c := c) (i := i) (r := { c.req i with numAcked := 0, bubbleDetected := false }) rfl
    exact ⟨h.id, h.free, h.held⟩
  · have h := setReq_keeps (c := c) (i := i) (r := { c.req i with reapply := false }) rfl
    exact ⟨h.id, List.prefix_append _ _, h.held⟩

lemma dropDelayed_keeps (c : Ctx) : Keeps c (dropDelayed c) := by
  unfold dropDelayed
  split
  · split
    · exact .of_eq rfl List.prefix_rfl rfl
    · rename_i i rest hactive
      have h := freeEach_keeps Req.fail (fun _ => rfl) c [i]
      exact ⟨h.id, h.free, h.held⟩
  · exact .of_eq rfl List.prefix_rfl rfl

lemma handleBufDone_keeps (c : Ctx) (t : ℕ) (acks : List (ℕ × ℤ)) :
    Keeps c (handleBufDoneInActivatedState c t acks) := by
  unfold handleBufDoneInActivatedState
  split
  · exact Keeps.refl c
  · rename_i i rest hactive
    have hstamp : Keeps c (stampIrq c t) := .of_eq rfl List.prefix_rfl rfl
    have hset := hstamp.trans (setReq_keeps (i := i) (ackPorts_requestId (c.req i) acks))
    dsimp only
    split
    · exact hset
    · exact hset.trans ((finishFirst_keeps _ i rest).trans (dropDelayed_keeps _))

lemma fs2BufDone_keeps (c : Ctx) (t : ℕ) (acks : List (ℕ × ℤ)) : Keeps c (fs2BufDone c t acks) := by
  have h := handleBufDone_keeps c t acks
  unfold fs2BufDone
  split
  · exact Keeps.refl c
  · dsimp only
    split
    · exact ⟨h.id, h.free, h.held⟩
    · exact h

lemma failActive_keeps (c : Ctx) : Keeps c (failActive c) := by
  have h := freeEach_keeps Req.fail (fun _ => rfl) c (unrecoverable c c.active)
  exact ⟨h.id, h.free, h.held⟩

lemma failWait_keeps (c : Ctx) : Keeps c (failWait c) := by
  have h := freeEach_keeps Req.fail (fun _ => rfl) c (unrecoverable c c.wait)
  exact ⟨h.id, h.free, h.held⟩

lemma failPending_keeps (c : Ctx) (l : List ℕ) : Keeps c (failPending c l) := by
  induction l generalizing c with
  | nil => exact .of_eq rfl List.prefix_rfl rfl
  | cons i rest ih =>
    have h := freeEach_keeps Req.fail (fun _ => rfl) c [i]
    unfold failPending
    split
    · exact .of_eq rfl List.prefix_rfl rfl
    · split
      · exact h.trans (ih _)
      · exact ⟨h.id, h.free, h.held⟩

lemma failApplied_keeps (c : Ctx) : Keeps c (failApplied c) := by
  have hactive := failActive_keeps c
  have hwait := hactive.trans (failWait_keeps (failActive c))
  unfold failApplied
  split
  · exact Keeps.refl c
  · dsimp only
    split
    · exact ⟨hactive.id, hactive.free, hactive.held⟩
    · split
      · exact ⟨hwait.id, hwait.free, hwait.held⟩
      · exact hwait

lemma handleError_keeps (c : Ctx) : Keeps c (handleError c) := by
  have h := (failApplied_keeps c).trans (failPending_keeps (failApplied c) (failApplied c).pending)
  exact ⟨h.id, h.free, h.held⟩

lemma dropWaiting_keeps (c : Ctx) : Keeps c (dropWaiting c) := by
  unfold dropWaiting
  split
  · exact Keeps.refl c
  · exact .of_eq rfl (List.prefix_append _ _) rfl

lemma notifySof_keeps (c : Ctx) : Keeps c (notifySofInActivatedState c) := by
  unfold notifySofInActivatedState
  split
  · split
    · exact Keeps.refl c
    · dsimp only
      split
      · exact .of_eq rfl (List.prefix_append _ _) rfl
      · exact .of_eq rfl List.prefix_rfl rfl
  · exact Keeps.refl c

lemma handled_keeps {c d : Ctx} {e : Event} (h : Handled c e d) : Keeps c d := by
  cases h with
  | ignored | sof | sofInEpoch | sofInTop | sofInApplied | regUpdInEpoch | regUpdInHwError =>
    exact .of_eq rfl List.prefix_rfl rfl
  | error => exact handleError_keeps c
  | sofInBubble =>
    have hfree := freeEach_keeps Req.cutOff (fun _ => rfl) c c.active
    exact ⟨hfree.id, hfree.free, hfree.held⟩
  | sofInBubbleApplied =>
    unfold rdiOnlySofInBubbleApplied
    dsimp only
    split
    · exact .of_eq rfl List.prefix_rfl rfl
    · refine Keeps.trans ?_ (bubbleAgain_keeps _ _ _)
      exact .of_eq rfl List.prefix_rfl rfl
  | sofInSof | epochInSof =>
    unfold fs2SofInSofState
    dsimp only
    split
    · refine Keeps.trans ?_ (report_keeps _)
      exact .of_eq rfl List.prefix_rfl rfl
    · exact .of_eq rfl List.prefix_rfl rfl
  | notifySof => exact notifySof_keeps c
  | epochInApplied t =>
    unfold epochInApplied
    split
    · exact .of_eq rfl List.prefix_rfl rfl
    · rename_i i rest hwait
      have hraised (d : Ctx) (bubble : Bool) (id : ℕ) :
          Keeps d (stampIrq (raiseReported { d with processBubble := bubble } id) t) :=
        .of_eq rfl List.prefix_rfl rfl
      exact (bubble_keeps c i rest).trans (hraised _ _ _)
  | epochInBubbleApplied =>
    unfold epochInBubbleApplied
    split
    · exact .of_eq rfl List.prefix_rfl rfl
    · exact bubbleAgain_keeps c _ _
  | regUpdInSof t =>
    have hdrop := dropWaiting_keeps c
    unfold regUpdInSof
    split
    · exact Keeps.refl c
    · exact hdrop.trans (stampIrq_keeps _ t)
  | fs2RegUpdInSof =>
    unfold fs2RegUpdInSof
    split
    · exact Keeps.refl c
    · exact dropWaiting_keeps c
  | regUpd t =>
    unfold regUpdInActivatedState
    split
    · exact Keeps.refl c
    · rename_i i rest hwait
      exact ((takeUp_keeps c i rest).trans (refreshed_keeps _ _ _ _)).trans (stampIrq_keeps _ t)
  | fs2RegUpd =>
    unfold fs2RegUpdInAppliedState
    split
    · exact Keeps.refl c
    · rename_i i rest hwait
      have htake := (takeUp_keeps c i rest).trans (refreshed_keeps _ (c.req i).fps
        (updateFps (takeUp c i rest) (c.req i).fps).reportedReqId .epoch)
      dsimp only
      split
      · exact htake.trans (report_keeps _)
      · exact htake
  | rdiOnlyRegUpd =>
    unfold rdiOnlyRegUpdInBubbleAppliedState
    split
    · split
      · exact .of_eq rfl List.prefix_rfl rfl
      · rename_i i rest hwait
        exact (takeUp_keeps c i rest).trans (refreshed_keeps _ _ _ _)
    · exact .of_eq rfl List.prefix_rfl rfl
  | done t acks => exact handleBufDone_keeps c t acks
  | fs2Done t acks => exact fs2BufDone_keeps c t acks

@[simp] lemma report_pending (c : Ctx) : (report c).pending = c.pending := by
  unfold report
  split <;> rfl

@[simp] lemma takeUp_pending (c : Ctx) (i : ℕ) (rest : List ℕ) : (takeUp c i rest).pending = c.pending := by
  unfold takeUp
  split <;> rfl

@[simp] lemma bubbleAgain_pending (c : Ctx) (i : ℕ) (rest : List ℕ) :
    (bubbleAgain c i rest).pending = c.pending := by
  unfold bubbleAgain
  split <;> rfl

@[simp] lemma dropWaiting_pending (c : Ctx) : (dropWaiting c).pending = c.pending := by
  unfold dropWaiting
  split <;> rfl

@[simp] lemma dropDelayed_pending (c : Ctx) : (dropDelayed c).pending = c.pending := by
  unfold dropDelayed
  split
  · split <;> rfl
  · rfl

/-- The first active request goes back when its ports are all done under recovery. -/
def doneRecovers (c : Ctx) (acks : List (ℕ × ℤ)) : Bool :=
  c.active.head?.any fun i =>
    let r := ackPorts (c.req i) acks
    r.recovering && r.numAcked == r.fenceMapOut.length

lemma handleBufDone_pending (c : Ctx) (t : ℕ) (acks : List (ℕ × ℤ)) :
    (handleBufDoneInActivatedState c t acks).pending =
      (if doneRecovers c acks then c.active.take 1 else []) ++ c.pending := by
  unfold handleBufDoneInActivatedState doneRecovers
  cases hactive : c.active with
  | nil => rfl
  | cons i rest =>
    simp only [List.head?_cons, Option.any_some, List.take_succ_cons, List.take_zero]
    split
    · rename_i hacked
      simp [hacked, setReq, stampIrq]
    · rename_i hacked
      push Not at hacked
      rw [dropDelayed_pending]
      unfold finishFirst
      simp only [setReq, Function.update_self, hacked]
      cases (ackPorts (c.req i) acks).recovering with
      | true => simp [stampIrq]
      | false => simp [stampIrq]

lemma fs2BufDone_pending (c : Ctx) (t : ℕ) (acks : List (ℕ × ℤ)) :
    (fs2BufDone c t acks).pending = (handleBufDoneInActivatedState c t acks).pending := by
  unfold fs2BufDone
  split
  · rename_i hactive
    rw [handleBufDoneInActivatedState, hactive]
  · dsimp only
    split <;> rfl

/-- The waiting requests that an error puts back. -/
def waitPutBack (c : Ctx) : List ℕ :=
  if recoverable c c.active = [] then recoverable c c.wait else c.wait

lemma failPending_pending (c : Ctx) (l : List ℕ) : (failPending c l).pending <:+ l := by
  induction l generalizing c with
  | nil => exact List.suffix_rfl
  | cons i rest ih =>
    unfold failPending
    split
    · exact List.suffix_rfl
    · split
      · exact (ih _).trans (List.suffix_cons i rest)
      · exact List.suffix_cons i rest

lemma recoverable_failActive (c : Ctx) (l : List ℕ) : recoverable (failActive c) l = recoverable c l := by
  have hreport (i : ℕ) : ((failActive c).req i).bubbleReport = (c.req i).bubbleReport := by
    simp only [failActive, freeEach]
    split <;> rfl
  simp only [recoverable, hreport]

lemma failApplied_pending (c : Ctx) :
    (failApplied c).pending = waitPutBack c ++ (recoverable c c.active ++ c.pending) := by
  have hactive : (failActive c).active = recoverable c c.active := rfl
  have hwait : (failWait (failActive c)).wait = recoverable c c.wait := recoverable_failActive c c.wait
  unfold failApplied waitPutBack
  split
  · rename_i hempty
    simp [hempty.1, hempty.2, recoverable]
  · dsimp only
    rw [hactive, hwait]
    split
    · rfl
    · rename_i hnone
      push Not at hnone
      rw [if_pos hnone, hnone]
      split
      · simp only [moveToPending, hwait]
        rw [show (failWait (failActive c)).active = recoverable c c.active from rfl, hnone]
        rfl
      · rename_i hgone
        push Not at hgone
        rw [hgone]
        rfl

lemma handled_pending {c d : Ctx} {e : Event} (h : Handled c e d) (herror : e ≠ .error)
    (hdone : ∀ t acks, e ≠ .done t acks) : d.pending = c.pending := by
  cases h with
  | ignored | sof | sofInEpoch | sofInTop | sofInApplied | sofInBubble | regUpdInEpoch
  | regUpdInHwError => rfl
  | error => exact absurd rfl herror
  | sofInBubbleApplied =>
    unfold rdiOnlySofInBubbleApplied
    dsimp only
    split
    · rfl
    · simp
  | sofInSof | epochInSof =>
    unfold fs2SofInSofState
    dsimp only
    split
    · simp
    · rfl
  | notifySof =>
    unfold notifySofInActivatedState
    split
    · split
      · rfl
      · dsimp only
        split <;> rfl
    · rfl
  | epochInApplied t =>
    unfold epochInApplied
    split <;> rfl
  | epochInBubbleApplied =>
    unfold epochInBubbleApplied
    split
    · rfl
    · simp
  | regUpdInSof t =>
    unfold regUpdInSof
    split
    · rfl
    · simp [stampIrq]
  | fs2RegUpdInSof =>
    unfold fs2RegUpdInSof
    split
    · rfl
    · simp
  | regUpd t =>
    unfold regUpdInActivatedState
    split
    · rfl
    · simp [stampIrq, updateFps]
  | fs2RegUpd =>
    unfold fs2RegUpdInAppliedState
    split
    · rfl
    · dsimp only
      split <;> simp [updateFps]
  | rdiOnlyRegUpd =>
    unfold rdiOnlyRegUpdInBubbleAppliedState
    split
    · split
      · rfl
      · simp [updateFps]
    · rfl
  | done t acks => exact absurd rfl (hdone t acks)
  | fs2Done t acks => exact absurd rfl (hdone t acks)

/-! ### The pending list after an operation -/

/-- An operation moves requests on, or ends them. -/
structure MovesOn (c d : Ctx) : Prop where
  keeps : Keeps c d
  pending : d.pending.Sublist c.pending

lemma MovesOn.refl (c : Ctx) : MovesOn c c := ⟨Keeps.refl c, List.Sublist.refl _⟩

lemma MovesOn.trans {c d e : Ctx} (h : MovesOn c d) (h' : MovesOn d e) : MovesOn c e :=
  ⟨h.keeps.trans h'.keeps, h'.pending.trans h.pending⟩

lemma MovesOn.of_eq {c d : Ctx} (hreq : d.req = c.req) (hfree : d.free = c.free) (hheld : d.held = c.held)
    (hpending : d.pending = c.pending) : MovesOn c d :=
  ⟨.of_eq hreq (hfree ▸ List.prefix_rfl) hheld, hpending ▸ List.Sublist.refl _⟩

lemma applyReq_movesOn (c : Ctx) (a : ApplyReq) : MovesOn c (applyReq c a).2 := by
  have happly (next : Substate) : MovesOn c (applyReqInActivatedState c a next).2 := by
    unfold applyReqInActivatedState
    split
    · exact MovesOn.refl c
    · rename_i i rest hpending
      have hset := setReq_keeps (c := c) (i := i) (r := { c.req i with bubbleReport := a.reportIfBubble }) rfl
      dsimp only
      split_ifs
      · exact MovesOn.refl c
      · exact .of_eq rfl rfl rfl rfl
      · exact MovesOn.refl c
      · exact ⟨hset, List.Sublist.refl _⟩
      · exact ⟨⟨hset.id, hset.free, hset.held⟩, hpending ▸ List.sublist_cons_self i rest⟩
  unfold applyReq
  split
  · exact happly _
  · exact happly _
  · exact happly _
  · exact happly _
  · exact MovesOn.refl c

lemma unflushed_sublist (c : Ctx) (f : FlushReq) (l : List ℕ) : (unflushed c f l).Sublist l := by
  unfold unflushed
  cases f.type with
  | all => exact List.nil_sublist l
  | cancelReq => exact List.eraseP_sublist

lemma flushPending_movesOn (c : Ctx) (f : FlushReq) : MovesOn c (flushPending c f) := by
  have hfree := freeEach_keeps Req.flush (fun _ => rfl) c (flushed c f c.pending)
  exact ⟨⟨hfree.id, hfree.free, hfree.held⟩, unflushed_sublist c f c.pending⟩

lemma flushApplied_movesOn (c : Ctx) (f : FlushReq) : MovesOn c (flushApplied c f) := by
  have hfree := freeEach_keeps Req.flush (fun _ => rfl) c (flushed c f c.wait ++ flushed c f c.active)
  exact ⟨⟨hfree.id, hfree.free, hfree.held⟩, List.Sublist.refl _⟩

lemma flushReq_movesOn (c : Ctx) (f : FlushReq) : MovesOn c (flushReq c f).2 := by
  have hrecord : MovesOn c (recordFlush c f) := .of_eq rfl rfl rfl rfl
  have hpending : MovesOn c { flushPending (recordFlush c f) f with processBubble := false } :=
    (hrecord.trans (flushPending_movesOn (recordFlush c f) f)).trans (.of_eq rfl rfl rfl rfl)
  have htop : MovesOn c (flushReqInTopState c f).2 := by
    unfold flushReqInTopState
    dsimp only
    split_ifs
    · exact hpending.trans (.of_eq rfl rfl rfl rfl)
    · exact hpending.trans (.of_eq rfl rfl rfl rfl)
    · exact (hpending.trans (flushApplied_movesOn _ f)).trans (.of_eq rfl rfl rfl rfl)
  unfold flushReq
  split
  · exact MovesOn.refl c
  · exact (flushPending_movesOn c f).trans (.of_eq rfl rfl rfl rfl)
  · exact htop
  · exact htop

lemma startDevInReady_movesOn (c : Ctx) (cmd : StartCmd) : MovesOn c (startDevInReady c cmd).2 := by
  unfold startDevInReady
  split
  · exact MovesOn.refl c
  · split
    · exact MovesOn.refl c
    · rename_i i rest hpending
      have htail : rest.Sublist c.pending := hpending ▸ List.sublist_cons_self i rest
      dsimp only
      split_ifs
      · exact MovesOn.refl c
      · exact .of_eq rfl rfl rfl rfl
      · exact ⟨.of_eq rfl List.prefix_rfl rfl, htail⟩
      · exact ⟨.of_eq rfl List.prefix_rfl rfl, htail⟩

lemma stopDevInActivatedUnlock_movesOn (c : Ctx) (cmd : Bool) : MovesOn c (stopDevInActivatedUnlock c cmd) := by
  have hfree := freeEach_keeps Req.cutOff (fun _ => rfl) c (c.pending ++ c.wait ++ c.active)
  unfold stopDevInActivatedUnlock
  dsimp only
  split
  · exact ⟨⟨hfree.id, hfree.free, hfree.held⟩, List.nil_sublist _⟩
  · exact ⟨⟨hfree.id, hfree.free, hfree.held⟩, List.nil_sublist _⟩

lemma releaseHwInTopState_movesOn (c : Ctx) : MovesOn c (releaseHwInTopState c) := by
  refine MovesOn.trans ?_ (flushPending_movesOn _ flushAll)
  exact .of_eq rfl rfl rfl rfl

lemma releaseDevInTopState_movesOn (c : Ctx) : MovesOn c (releaseDevInTopState c) := by
  have hhw : MovesOn c (if c.hwCtx then releaseHwInTopState c else c) := by
    split
    · exact releaseHwInTopState_movesOn c
    · exact MovesOn.refl c
  refine MovesOn.trans (hhw.trans ?_) (flushPending_movesOn _ flushAll)
  exact .of_eq rfl rfl rfl rfl

lemma acquireHwInAcquired_movesOn (c : Ctx) (cmd : AcquireCmd) : MovesOn c (acquireHwInAcquired c cmd).2 := by
  unfold acquireHwInAcquired
  split_ifs
  · exact MovesOn.refl c
  · exact MovesOn.refl c
  · exact .of_eq rfl rfl rfl rfl
  · exact .of_eq rfl rfl rfl rfl

/-- Ids in the lists stay, and nothing new comes in. -/
structure NothingNew (c d : Ctx) : Prop where
  id : ∀ i, requestIdOf d i = requestIdOf c i
  flight : ∀ i, flight d i ≤ flight c i
  pending : d.pending.Sublist c.pending

lemma MovesOn.nothingNew {c d : Ctx} (h : MovesOn c d) (hplaces : places d = places c) : NothingNew c d :=
  ⟨h.keeps.id, fun i => flight_le h.keeps (congrFun hplaces i).le, h.pending⟩

lemma takeFreeReq_nothingNew (c : Ctx) : NothingNew c (takeFreeReq c).2 := by
  unfold takeFreeReq
  split
  · exact ⟨fun _ => rfl, fun _ => le_rfl, List.Sublist.refl _⟩
  · rename_i i rest hfree
    have hset := setReq_keeps (c := { c with free := rest, held := some i }) (i := i)
      (r := { c.req i with accepted := false }) rfl
    exact ⟨hset.id, fun _ => le_rfl, List.Sublist.refl _⟩

lemma acquireDev_nothingNew (c : Ctx) (cmd : AcquireCmd) : NothingNew c (acquireDev c cmd).2 := by
  have hreq : (acquireDev c cmd).2.req = c.req := by
    unfold acquireDev
    split
    · exact (acquireDevInAvailable_keeps c cmd).req
    · rfl
  have hid (i : ℕ) : requestIdOf (acquireDev c cmd).2 i = requestIdOf c i := by
    rw [requestIdOf, requestIdOf, hreq]
  revert hid
  unfold acquireDev
  split
  · intro hid
    exact ⟨hid, fun i => by simp [flight], List.nil_sublist _⟩
  · intro hid
    exact ⟨hid, fun _ => le_rfl, List.Sublist.refl _⟩

lemma call_nothingNew {c : Ctx} (op : Op) : NothingNew c (call c op) := by
  have hrefl : NothingNew c c := ⟨fun _ => rfl, fun _ => le_rfl, List.Sublist.refl _⟩
  cases op with
  | acquireDev cmd => exact acquireDev_nothingNew c cmd
  | acquireHw cmd =>
    simp only [call]
    split
    · exact (acquireHwInAcquired_movesOn c cmd).nothingNew (acquireHwInAcquired_places c cmd)
    · exact hrefl
  | releaseHw =>
    simp only [call]
    split
    · exact hrefl
    · exact (releaseHwInTopState_movesOn c).nothingNew (releaseHwInTopState_places c)
    · exact (releaseHwInTopState_movesOn c).nothingNew (releaseHwInTopState_places c)
    · exact ((stopDevInActivatedUnlock_movesOn c false).trans (releaseHwInTopState_movesOn _)).nothingNew
        ((releaseHwInTopState_places _).trans (stopDevInActivatedUnlock_places c false))
  | releaseDev =>
    simp only [call]
    split
    · exact hrefl
    · exact (releaseDevInTopState_movesOn c).nothingNew (releaseDevInTopState_places c)
    · exact (releaseDevInTopState_movesOn c).nothingNew (releaseDevInTopState_places c)
    · exact ((stopDevInActivatedUnlock_movesOn c false).trans (releaseDevInTopState_movesOn _)).nothingNew
        ((releaseDevInTopState_places _).trans (stopDevInActivatedUnlock_places c false))
  | link linkHdl =>
    simp only [call]
    split
    · exact ⟨fun _ => rfl, fun _ => le_rfl, List.Sublist.refl _⟩
    · exact hrefl
  | unlink =>
    simp only [call]
    split
    · exact hrefl
    · exact ⟨fun _ => rfl, fun _ => le_rfl, List.Sublist.refl _⟩
    · exact ⟨fun _ => rfl, fun _ => le_rfl, List.Sublist.refl _⟩
    · exact ((stopDevInActivatedUnlock_movesOn c false).trans (.of_eq rfl rfl rfl rfl)).nothingNew
        (stopDevInActivatedUnlock_places c false)
  | beginConfig =>
    simp only [call]
    unfold beginConfigDev
    split
    · exact hrefl
    · split
      · exact hrefl
      · exact takeFreeReq_nothingNew c
    · exact takeFreeReq_nothingNew c
    · exact takeFreeReq_nothingNew c
  | config p => exact hrefl
  | startDev cmd =>
    simp only [call]
    split
    · exact (startDevInReady_movesOn c cmd).nothingNew (startDevInReady_places c cmd)
    · exact hrefl
  | stopDev =>
    simp only [call]
    split
    · refine MovesOn.nothingNew ((stopDevInActivatedUnlock_movesOn c true).trans ?_)
        (stopDevInActivatedUnlock_places c true)
      exact .of_eq rfl rfl rfl rfl
    · exact hrefl
  | apply a =>
    simp only [call]
    split
    · exact (applyReq_movesOn c a).nothingNew (applyReq_places c a)
    · exact hrefl
  | flush f => exact (flushReq_movesOn c f).nothingNew (flushReq_places c f)
  | irq e => exact hrefl

/-! ### Runs -/

/-- What an error puts back is in order: the waiting requests come before the active ones,
and both before the pending ones. -/
def ErrorInOrder (c : Ctx) : Prop :=
  Increasing c (waitPutBack c) ∧ Increasing c (recoverable c c.active) ∧
    Older c (waitPutBack c) (recoverable c c.active ++ c.pending) ∧ Older c (recoverable c c.active) c.pending

instance (c : Ctx) : Decidable (ErrorInOrder c) :=
  inferInstanceAs (Decidable (_ ∧ _ ∧ _ ∧ _))

/-- A merged INIT packet is older than the requests behind the one that takes it over. -/
def mergeInOrder (c : Ctx) (p : Packet) : Bool :=
  c.held.all fun i =>
    !mergesInit c i p || c.pending.tail.all fun j => decide (p.requestId < requestIdOf c j)

/-- What keeps the pending list in order: all that comes to its head is older than what is
on it, and the counter of a done event points at a request. -/
def orderSafe (c : Ctx) : Op → Bool
  | .irq .error => !(c.state == .activated && handlesError c) || decide (ErrorInOrder c)
  | .irq (.done t acks) =>
    !(c.state == .activated && handlesDone c) ||
      (!doneRecovers c acks || decide (Older c (c.active.take 1) c.pending)) &&
        !(doneCompletes c acks && straysAfter c t)
  | .config p => mergeInOrder c p
  | _ => true

/-- The ids of the packets of a run. -/
def configIds (ops : List Op) : List ℕ :=
  ops.filterMap fun op => match op with
    | .config p => some p.requestId
    | _ => none

/-- `next` are ids that are still to come. -/
structure OrderInv (c : Ctx) (next : List ℕ) : Prop where
  linked : Linked c
  increasing : Increasing c c.pending
  fresh : ∀ i, 0 < flight c i → requestIdOf c i ∉ next

lemma OrderInv.nothingNew {c d : Ctx} {next : List ℕ} (h : OrderInv c next) (hd : NothingNew c d)
    (hlinked : Linked d) : OrderInv d next where
  linked := hlinked
  increasing := Increasing.congr (List.Pairwise.sublist hd.pending h.increasing) fun i _ => hd.id i
  fresh i hi := by
    rw [hd.id]
    exact h.fresh i (lt_of_lt_of_le hi (hd.flight i))

lemma mem_pending_flight {c : Ctx} {i : ℕ} (h : i ∈ c.pending) : 0 < flight c i := by
  have hpos : 0 < c.pending.count i := List.count_pos_iff.mpr h
  rw [flight]
  omega

lemma held_not_flight {c : Ctx} (h : Linked c) {i : ℕ} (hheld : c.held = some i) : flight c i = 0 := by
  have hone := h i
  simp only [places, hheld, Option.toList_some, List.count_singleton_self] at hone
  rw [flight]
  omega

lemma handleError_increasing {c : Ctx} (h : Increasing c c.pending) (hsafe : ErrorInOrder c) :
    Increasing (handleError c) (handleError c).pending := by
  obtain ⟨hwait, hactive, holder, holder'⟩ := hsafe
  have happlied : Increasing c (failApplied c).pending := by
    rw [failApplied_pending]
    exact increasing_append.mpr ⟨hwait, increasing_append.mpr ⟨hactive, h, holder'⟩, holder⟩
  have hsuffix : (handleError c).pending <:+ (failApplied c).pending := failPending_pending _ _
  exact Increasing.congr (List.Pairwise.sublist hsuffix.sublist happlied) fun i _ => (handleError_keeps c).id i

lemma handleBufDone_increasing {c : Ctx} (h : Increasing c c.pending) {acks : List (ℕ × ℤ)}
    (hsafe : doneRecovers c acks = true → Older c (c.active.take 1) c.pending) (t : ℕ) :
    Increasing c (handleBufDoneInActivatedState c t acks).pending := by
  rw [handleBufDone_pending]
  split
  · rename_i hrecovers
    refine increasing_append.mpr ⟨?_, h, hsafe hrecovers⟩
    cases c.active with
    | nil => exact List.Pairwise.nil
    | cons i rest => exact List.pairwise_singleton _ i
  · exact h

lemma handled_orderInv {c d : Ctx} {e : Event} {next : List ℕ} (h : OrderInv c next)
    (hactivated : c.state = .activated) (hd : Handled c e d) (hsafe : orderSafe c (.irq e) = true) :
    OrderInv d next := by
  have hkeeps := handled_keeps hd
  have hplaces := handled_places_le hd
  have hsorted : Increasing d d.pending := by
    cases e with
    | error =>
      cases hd with
      | ignored => exact h.increasing
      | error hinst =>
        refine handleError_increasing h.increasing ?_
        simpa [orderSafe, hactivated, hinst] using hsafe
    | done t acks =>
      have hdone (hinst : handlesDone c = true) (hrecovers : doneRecovers c acks = true) :
          Older c (c.active.take 1) c.pending := by
        have hboth := hsafe
        simp only [orderSafe, hactivated, hinst, hrecovers, beq_self_eq_true, Bool.and_self, Bool.not_true,
          Bool.false_or, Bool.and_eq_true, decide_eq_true_eq] at hboth
        exact hboth.1
      cases hd with
      | ignored => exact h.increasing
      | done t acks hinst =>
        exact (handleBufDone_increasing h.increasing (hdone hinst) t).congr fun i _ => hkeeps.id i
      | fs2Done t acks hinst =>
        rw [fs2BufDone_pending]
        exact (handleBufDone_increasing h.increasing (hdone hinst) t).congr fun i _ => hkeeps.id i
    | sof | regUpdate | epoch | eof =>
      rw [handled_pending hd (by simp) (by simp)]
      exact h.increasing.congr fun i _ => hkeeps.id i
  exact {
    linked := fun i => (hplaces i).trans (h.linked i)
    increasing := hsorted
    fresh := fun i hi => by
      rw [hkeeps.id]
      exact h.fresh i (lt_of_lt_of_le hi (flight_le hkeeps (hplaces i))) }

lemma filled_requestIdOf (c : Ctx) (i : ℕ) (p : Packet) (j : ℕ) :
    requestIdOf (filled c i p) j = if j = i then p.requestId else requestIdOf c j := by
  simp only [requestIdOf, filled, setReq, Function.update_apply]
  split
  · rfl
  · rfl

lemma acceptReq_requestIdOf (c : Ctx) (i j : ℕ) : requestIdOf (acceptReq c i) j = requestIdOf c j :=
  (setReq_keeps (c := c) (i := i) (r := { c.req i with accepted := true }) rfl).id j

/-- The new request, or the one that an INIT packet is merged into, is `k`; the rest stays. -/
lemma orderInv_of_new {c d : Ctx} {p : Packet} {next : List ℕ} {k : ℕ} (h : OrderInv c (p.requestId :: next))
    (hnext : p.requestId ∉ next) (hlinked : Linked d) (hsorted : Increasing d d.pending)
    (hk : requestIdOf d k = p.requestId)
    (hother : ∀ j, j ≠ k → 0 < flight d j → 0 < flight c j ∧ requestIdOf d j = requestIdOf c j) :
    OrderInv d next where
  linked := hlinked
  increasing := hsorted
  fresh j hj := by
    by_cases hjk : j = k
    · rw [hjk, hk]
      exact hnext
    · obtain ⟨hflight, hid⟩ := hother j hjk hj
      rw [hid]
      exact fun hmem => h.fresh j hflight (List.mem_cons_of_mem _ hmem)

lemma configured_orderInv {c d : Ctx} {i : ℕ} {p : Packet} {next : List ℕ}
    (h : OrderInv c (p.requestId :: next)) (hnext : p.requestId ∉ next) (hheld : c.held = some i)
    (hsafe : mergeInOrder c p = true) (hd : Configured c i p d) : OrderInv d next := by
  have hlinked : Linked d := by
    intro j
    rw [configured_places hheld hd]
    exact h.linked j
  have hidle := held_not_flight h.linked hheld
  have hne : ∀ j, 0 < flight c j → j ≠ i := by
    rintro j hj rfl
    omega
  have hfilled (j : ℕ) (hj : 0 < flight c j) : requestIdOf (filled c i p) j = requestIdOf c j := by
    rw [filled_requestIdOf, if_neg (hne j hj)]
  have hpending : Increasing (filled c i p) c.pending :=
    h.increasing.congr fun j hj => hfilled j (mem_pending_flight hj)
  cases hd with
  | rejected r b haccepted =>
    have hid (j : ℕ) (hj : 0 < flight c j) :
        requestIdOf (setReq { c with held := none } i r) j = requestIdOf c j := by
      simp only [requestIdOf, setReq, Function.update_of_ne (hne j hj)]
    exact {
      linked := hlinked
      increasing := h.increasing.congr fun j hj => hid j (mem_pending_flight hj)
      fresh := fun j hj hmem => by
        replace hmem : requestIdOf (setReq { c with held := none } i r) j ∈ next := hmem
        rw [hid j hj] at hmem
        exact h.fresh j hj (List.mem_cons_of_mem _ hmem) }
  | initAdded hrefs hempty =>
    refine orderInv_of_new (k := i) h hnext hlinked (List.pairwise_singleton _ i) ?_ ?_
    · exact (acceptReq_requestIdOf _ i i).trans ((filled_requestIdOf c i p i).trans (if_pos rfl))
    · intro j hj hflight
      have hflight' : 0 < flight c j := by
        have hnot : [i].count j = 0 := List.count_eq_zero.mpr (by simpa using hj)
        simp only [flight, acceptReq, filled, setReq, hnot] at hflight
        rw [flight]
        omega
      exact ⟨hflight', (acceptReq_requestIdOf _ i j).trans (hfilled j hflight')⟩
  | initMerged hrefs hmerges old rest hlist hfences =>
    have holdmem : 0 < flight c old := mem_pending_flight (by rw [hlist]; exact List.mem_cons_self)
    have hid (j : ℕ) : requestIdOf (mergeInit (filled c i p) old i) j =
        if j = old then p.requestId else requestIdOf (filled c i p) j := by
      simp only [requestIdOf, mergeInit, setReq, Function.update_apply]
      split
      · simp [filled, setReq, fillReq]
      · rfl
    have hsorted := h.increasing
    rw [hlist] at hsorted
    obtain ⟨holder, hrest⟩ := increasing_cons.mp hsorted
    have hyounger : ∀ j ∈ rest, p.requestId < requestIdOf c j := by
      simpa [mergeInOrder, hheld, hmerges, hlist] using hsafe
    have hkept (j : ℕ) (hj : j ∈ rest) :
        requestIdOf (mergeInit (filled c i p) old i) j = requestIdOf c j := by
      have hlt := holder old (List.mem_singleton_self old) j hj
      have hjold : j ≠ old := by
        rintro rfl
        exact lt_irrefl _ hlt
      have hmem : j ∈ c.pending := by
        rw [hlist]
        exact List.mem_cons_of_mem old hj
      rw [hid, if_neg hjold, hfilled j (mem_pending_flight hmem)]
    have hmerged : Increasing (mergeInit (filled c i p) old i) (old :: rest) := by
      refine increasing_cons.mpr ⟨?_, hrest.congr hkept⟩
      intro k hk j hj
      rw [List.mem_singleton.mp hk, hid, if_pos rfl, hkept j hj]
      exact hyounger j hj
    refine orderInv_of_new (k := old) h hnext hlinked ?_ ?_ ?_
    · rw [← hlist] at hmerged
      exact hmerged
    · exact (hid old).trans (if_pos rfl)
    · intro j hj hflight
      have hflight' : 0 < flight c j := hflight
      exact ⟨hflight', (hid j).trans ((if_neg hj).trans (hfilled j hflight'))⟩
  | queued hrefs =>
    have hidi : requestIdOf (acceptReq (filled c i p) i) i = p.requestId :=
      (acceptReq_requestIdOf _ i i).trans ((filled_requestIdOf c i p i).trans (if_pos rfl))
    have hsorted : Increasing (acceptReq (filled c i p) i) (acceptReq (filled c i p) i).pending :=
      hpending.congr fun j _ => acceptReq_requestIdOf _ i j
    have hnew : ∀ j ∈ (acceptReq (filled c i p) i).pending,
        requestIdOf (acceptReq (filled c i p) i) j ≠ requestIdOf (acceptReq (filled c i p) i) i := by
      intro j hj heq
      have hflight := mem_pending_flight (c := c) hj
      rw [hidi, acceptReq_requestIdOf, hfilled j hflight] at heq
      exact h.fresh j hflight (heq ▸ List.mem_cons_self)
    refine orderInv_of_new (k := i) h hnext hlinked ?_ hidi ?_
    · exact insertInOrder_increasing hsorted hnew
    · intro j hj hflight
      have hflight' : 0 < flight c j := by
        have hnot : [i].count j = 0 := List.count_eq_zero.mpr (by simpa using hj)
        simp only [flight, enqueueRequestInOrder, count_insertInOrder, hnot] at hflight
        exact hflight
      exact ⟨hflight', (acceptReq_requestIdOf _ i j).trans (hfilled j hflight')⟩

lemma configDev_orderInv {c : Ctx} {i : ℕ} {p : Packet} {next : List ℕ}
    (h : OrderInv c (p.requestId :: next)) (hnext : p.requestId ∉ next) (hheld : c.held = some i)
    (hsafe : mergeInOrder c p = true) : OrderInv (configDev c i p).2 next := by
  have hd := configured_orderInv h hnext hheld hsafe (configDevInTopState_configured c i p)
  unfold configDev
  dsimp only
  split
  · exact ⟨hd.linked, hd.increasing, hd.fresh⟩
  · exact hd

lemma OrderInv.weaken {c : Ctx} {id : ℕ} {next : List ℕ} (h : OrderInv c (id :: next)) : OrderInv c next :=
  ⟨h.linked, h.increasing, fun i hi hmem => h.fresh i hi (List.mem_cons_of_mem id hmem)⟩

lemma step_orderInv {c : Ctx} {op : Op} {ops : List Op} (h : OrderInv c (configIds (op :: ops)))
    (hnodup : (configIds (op :: ops)).Nodup) (hsafe : orderSafe c op = true) :
    OrderInv (step c op) (configIds ops) := by
  have hlinked := step_linked h.linked op
  cases op with
  | irq e =>
    by_cases hc : c.state = .activated
    · have hd := handled_orderInv h hc (handleIrqInActivated_handled c e) hsafe
      simp only [step, if_pos hc]
      exact hd
    · simp only [step, if_neg hc]
      exact h
  | config p =>
    have hcons : configIds (.config p :: ops) = p.requestId :: configIds ops := rfl
    rw [hcons] at h hnodup
    cases hheld : c.held with
    | none => simpa only [step, hheld] using h.weaken
    | some i =>
      simpa only [step, hheld] using configDev_orderInv h (List.nodup_cons.mp hnodup).1 hheld hsafe
  | acquireDev | acquireHw | releaseHw | releaseDev | link | unlink | beginConfig | startDev | stopDev
  | apply | flush =>
    refine OrderInv.nothingNew h ?_ hlinked
    cases hheld : c.held with
    | none =>
      simp only [step, hheld]
      exact call_nothingNew _
    | some i =>
      simp only [step, hheld]
      exact ⟨fun _ => rfl, fun _ => le_rfl, List.Sublist.refl _⟩

lemma run_orderInv {c : Ctx} {ops : List Op} (h : OrderInv c (configIds ops)) (hnodup : (configIds ops).Nodup)
    (hsafe : Transition.Guarded step (fun c op => orderSafe c op = true) c ops) :
    OrderInv (Transition.run step c ops) [] := by
  induction ops generalizing c with
  | nil => exact h
  | cons op ops ih =>
    have hsub : (configIds ops).Nodup := by
      refine hnodup.sublist ?_
      cases op with
      | config p => exact List.sublist_cons_self _ _
      | _ => exact List.Sublist.refl _
    exact ih (step_orderInv h hnodup hsafe.1) hsub hsafe.2

/-- In every run with distinct ids in which what comes to the head of the pending list is
older than what is on it, the list is strictly increasing after every step. -/
theorem run_pending_increasing (ops : List Op) (hnodup : (configIds ops).Nodup)
    (hsafe : Transition.Guarded step (fun c op => orderSafe c op = true) contextInit ops) :
    Increasing (Transition.run step contextInit ops) (Transition.run step contextInit ops).pending := by
  have hstart : OrderInv contextInit (configIds ops) :=
    ⟨contextInit_linked, List.Pairwise.nil, fun i hi => absurd hi (by simp [flight, contextInit])⟩
  exact (run_orderInv hstart hnodup hsafe).increasing

/-- Request 2 comes back from a bubble, is applied again, and comes back from an error. -/
def recoveredTwice : List Op :=
  startUp .pix ++ update 3 12 ++ update 2 11 ++ update 4 13 ++ firstFrame ++
    [Op.apply ⟨2, true, 0⟩, .irq (.epoch 0), .irq (.done 0 [(1, 0)]), .apply ⟨2, true, 0⟩,
      .irq (.regUpdate 0 0), .irq .error]

theorem recoveredTwice_increasing :
    (configIds recoveredTwice).Nodup ∧
      Transition.Guarded step (fun c op => orderSafe c op = true) contextInit recoveredTwice ∧
      Increasing (Transition.run step contextInit recoveredTwice)
        (Transition.run step contextInit recoveredTwice).pending ∧
      (Transition.run step contextInit recoveredTwice).pending.map
        (requestIdOf (Transition.run step contextInit recoveredTwice)) = [2, 3, 4] := by
  have hnodup : (configIds recoveredTwice).Nodup := by decide +kernel
  have hsafe : Transition.Guarded step (fun c op => orderSafe c op = true) contextInit recoveredTwice := by
    decide +kernel
  exact ⟨hnodup, hsafe, run_pending_increasing recoveredTwice hnodup hsafe, by decide +kernel⟩

/-- Request 2 is active and request 3 waits when the error comes; both are to recover. -/
def errorBehindApply : List Op :=
  startUp .pix ++ update 2 11 ++ update 3 12 ++ update 4 13 ++ firstFrame ++
    [Op.apply ⟨2, true, 0⟩, .irq (.regUpdate 0 0), .apply ⟨3, true, 0⟩, .irq .error]

theorem errorBehindApply_not_increasing :
    (configIds errorBehindApply).Nodup ∧
      (Transition.run step contextInit errorBehindApply).machine = .pix ∧
      (Transition.run step contextInit errorBehindApply).pending.map
        (requestIdOf (Transition.run step contextInit errorBehindApply)) = [3, 2, 4] ∧
      ¬ Increasing (Transition.run step contextInit errorBehindApply)
        (Transition.run step contextInit errorBehindApply).pending := by
  decide +kernel

end CameraKernel.Isp
