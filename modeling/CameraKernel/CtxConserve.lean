import CameraKernel.CtxViews

/-! Every request object of a fence-driven context is in one place. Each step of the system
is a `Move` for every object, so that every object stays in a `Phase` of its life. -/
namespace CameraKernel.CtxUtils
open Errno

section InMapEntries
variable (c : Context) (o r : ℕ)

lemma Context.setReq_inMapEntries {q : CtxRequest} (hq : q.inMapEntries = (c.req o).inMapEntries) :
    ((c.setReq o q).req r).inMapEntries = (c.req r).inMapEntries := by
  by_cases hr : r = o
  · subst hr
    simpa [Context.setReq] using hq
  · simp [Context.setReq, Function.update_of_ne hr]

lemma Context.setFlushed_inMapEntries (b : Bool) :
    ((c.setFlushed o b).req r).inMapEntries = (c.req r).inMapEntries := c.setReq_inMapEntries o r rfl

lemma Context.clearCtx_inMapEntries : ((c.clearCtx o).req r).inMapEntries = (c.req r).inMapEntries :=
  c.setReq_inMapEntries o r rfl

lemma Context.incAcked_inMapEntries : ((c.incAcked o).req r).inMapEntries = (c.req r).inMapEntries :=
  c.setReq_inMapEntries o r rfl

lemma Flush.step_inMapEntries (rc : ℤ) (f : Flush) :
    ((f.step c rc).1.req r).inMapEntries = (c.req r).inMapEntries := by
  cases f with
  | pending id =>
    by_cases hm : c.syncMutex = true
    · simp only [Flush.step, hm, if_true]
    simp only [Flush.step, hm]
    cases c.findReq c.pendingReqList id with
    | none => rfl
    | some o => exact (c.listDel o).setFlushed_inMapEntries o r true
  | active id =>
    simp only [Flush.step]
    split <;> rfl
  | deregister o i freeReq =>
    simp only [Flush.step]
    split <;> rfl
  | count o i freeReq => exact c.incAcked_inMapEntries o r
  | signal o i freeReq =>
    simp only [Flush.step]
    split
    · rfl
    · split_ifs <;> rfl
  | free o => exact c.clearCtx_inMapEntries o r
  | finished => rfl

lemma Callback.step_inMapEntries (rc : ℤ) (t : Callback) :
    ((t.step c rc).1.req r).inMapEntries = (c.req r).inMapEntries := by
  obtain ⟨o, status, pc⟩ := t
  cases pc with
  | enter => rfl
  | ack => exact c.incAcked_inMapEntries o r
  | flush f =>
    have := Flush.step_inMapEntries c r rc f
    cases f <;> exact this
  | lock =>
    simp only [Callback.step]
    split_ifs
    · rfl
    · exact ((c.setFlushed o false).clearCtx_inMapEntries o r).trans (c.setFlushed_inMapEntries o r false)
    · rfl
  | config =>
    simp only [Callback.step, Context.configReturned]
    split_ifs <;> rfl
  | free => rfl

end InMapEntries

namespace System

/-- The packet is turned down before its request object is on a list. -/
def refuses (s : System) (p : Packet) : Bool :=
  !p.mapped || p.requestId ≤ s.ctx.lastFlushReq || p.prepareRc ≠ 0 ||
    p.outMapEntries.any (fun sync => p.syncGetObjRef sync ≠ 0)

/-- The steps after which every object is still in one place: an object that a flush works
on is not handed out again, an accepted request has an input fence, the input fences pass
their check, a registration fails only for the first of them and not after a flush, and the
flushes and callbacks are as above. -/
def safe (s : System) : Op → Bool
  | .takeReq =>
    match s.ctx.freeReqList with
    | r :: _ => s.jobs (Flush.refers r) = 0
    | [] => true
  | .prepareUpdate p => !p.inMapEntries.isEmpty || s.refuses p
  | .checkValid rc => rc = 0
  | .registerCallback (.failed _) =>
    match s.ioctl with
    | .register r j => j = 0 && !(s.ctx.req r).flushed
    | _ => true
  | .flush _ =>
    match s.ioctl with
    | .flushReq f => f.safe s.ctx
    | .flushPending f => f.safe s.ctx
    | .flushActive f => f.safe s.ctx
    | _ => true
  | .callback t rc => t.safe s.ctx rc
  | _ => true

/-- The lists of `cam_context_flush_ctx_to_hw` are empty outside their loops. -/
structure TempsClear (s : System) : Prop where
  pending : (∀ f, s.ioctl ≠ .flushPending f) → s.ctx.tempPending = []
  active : (∀ f, s.ioctl ≠ .flushActive f) → s.ctx.tempActive = []

variable {s : System}

lemma takeReq_move (hs : s.safe .takeReq = true) (r : ℕ) : Move (s.view r) (s.takeReq.view r) := by
  rw [takeReq]
  split
  · next hi _ => exact .stay (by simp [view, hands, return_, jobs, hi, Ioctl.prepares, Ioctl.todo, Ioctl.job])
  · next o l hi hl =>
    have hfree : 1 ≤ s.ctx.freeReqList.count o := by simp [hl]
    simp only [safe, hl, decide_eq_true_eq] at hs
    by_cases hr : o = r
    · subst hr
      refine .take hfree hs ?_ ?_ ?_
      · simp [view, Context.view, hands, hi, Ioctl.todo]
      · simp [view, Context.view, hands, hi, Ioctl.prepares]
      · rw [view, setIoctl, setCtx, Context.view_setStory, Context.view_setReq_self,
          Context.view_listDel_self]
        simp [view, Context.view, View.unlink, hands, jobs, hi, Ioctl.prepares, Ioctl.todo, Ioctl.job]
    · refine .stay ?_
      rw [view, setIoctl, setCtx, Context.view_setStory, Context.view_setReq_ne _ _ _ _ _ hr,
        Context.view_listDel_ne _ _ _ _ hr]
      simp [view, hands, jobs, hi, Ioctl.prepares, Ioctl.todo, Ioctl.job, is_of_ne hr]
  · exact .stay rfl

lemma prepareUpdate_move (p : Packet) (hs : s.safe (.prepareUpdate p) = true) (r : ℕ) :
    Move (s.view r) ((s.prepareUpdate p).view r) := by
  rw [prepareUpdate]
  split
  · next o hi =>
    have hone : (s.view o).prepares = 1 := by simp [view, Context.view, hands, hi, Ioctl.prepares]
    have hturned : ∀ rc (t : System), t = s.setIoctl (.freeReq o rc) → Move (s.view r) (t.view r) := by
      rintro rc t rfl
      exact .stay (by simp [view, hands, jobs, setIoctl, hi, Ioctl.prepares, Ioctl.todo, Ioctl.job])
    split_ifs with h1 h2 h3 h4 h5
    · exact hturned _ _ rfl
    · exact hturned _ _ rfl
    · exact .stay (by
        simp [view, Context.view, hands, jobs, setIoctl, setCtx, hi, Ioctl.prepares, Ioctl.todo,
          Ioctl.job])
    · by_cases hr : o = r
      · subst hr
        refine .fill p.inMapEntries.length hone ?_
        rw [view, setIoctl, setCtx, Context.fillReq, Context.view_setReq_self]
        simp [view, Context.view, hands, jobs, hi, Ioctl.prepares, Ioctl.todo, Ioctl.job]
      · refine .stay ?_
        rw [view, setIoctl, setCtx, Context.fillReq, Context.view_setReq_ne _ _ _ _ _ hr]
        simp [view, Context.view, hands, jobs, hi, Ioctl.prepares, Ioctl.todo, Ioctl.job]
    · by_cases hr : o = r
      · subst hr
        refine .submit p.inMapEntries.length hone h5 ?_
        rw [view, setIoctl, setCtx, Context.view_addPending, Context.submitReq, Context.view_setStory,
          Context.fillReq, Context.view_setReq_self]
        simp [view, Context.view, Context.setReq, Context.setStory, Context.addPending, hands, jobs, hi,
          Ioctl.prepares, Ioctl.todo, Ioctl.job]
      · refine .stay ?_
        rw [view, setIoctl, setCtx, Context.view_addPending, Context.submitReq, Context.view_setStory,
          Context.fillReq, Context.view_setReq_ne _ _ _ _ _ hr]
        simp [view, Context.view, Context.setReq, Context.setStory, Context.addPending, hands, jobs, hi,
          Ioctl.prepares, Ioctl.todo, Ioctl.job, is_of_ne hr]
    · have hins : p.inMapEntries = [] := List.length_eq_zero_iff.1 (by omega)
      have hno : s.refuses p = true := by simpa [safe, hins] using hs
      simp only [refuses, Bool.or_eq_true, Bool.not_eq_true', decide_eq_true_eq] at hno
      exact (hno.elim (fun h => h.elim (fun h => h.elim h1 h2) h3) h4).elim
  · exact .stay rfl

lemma checkValid_move {rc : ℤ} (hs : s.safe (.checkValid rc) = true) (r : ℕ) :
    Move (s.view r) ((s.checkValid rc).view r) := by
  simp only [safe, decide_eq_true_eq] at hs
  rw [checkValid]
  split
  · next o hi =>
    refine .stay ?_
    simp [hs, view, hands, jobs, setIoctl, hi, Ioctl.prepares, Ioctl.todo, Ioctl.job]
  · exact .stay rfl

lemma hands_registered {o j : ℕ} (hi : s.ioctl = .register o j)
    (hj : j < (s.ctx.req o).inMapEntries.length) (r : ℕ) :
    (s.registered o j).hands r = { s.hands r with todo := (s.hands r).todo - is r o } := by
  rw [registered]
  by_cases hr : o = r
  · subst hr
    split_ifs with h
    · ext <;> simp [hands, jobs, setIoctl, hi, Ioctl.prepares, Ioctl.todo, Ioctl.job]
      omega
    · ext <;> simp [hands, jobs, return_, hi, Ioctl.prepares, Ioctl.todo, Ioctl.job]
      omega
  · split_ifs with h
    · ext <;> simp [hands, jobs, setIoctl, hi, Ioctl.prepares, Ioctl.todo, Ioctl.job, is_of_ne hr]
    · ext <;> simp [hands, jobs, return_, hi, Ioctl.prepares, Ioctl.todo, Ioctl.job, is_of_ne hr]

lemma view_registered {o j : ℕ} (hi : s.ioctl = .register o j)
    (hj : j < (s.ctx.req o).inMapEntries.length) (r : ℕ) :
    (s.registered o j).view r = s.ctx.view r { s.hands r with todo := (s.hands r).todo - is r o } := by
  have hctx : (s.registered o j).ctx = s.ctx := by
    rw [registered]
    split_ifs <;> rfl
  rw [view, hctx, hands_registered hi hj]

lemma registerCallback_move {o : Registration} (hs : s.safe (.registerCallback o) = true) (r : ℕ) :
    Move (s.view r) ((s.registerCallback o).view r) := by
  rw [registerCallback]
  split
  · next q j hi =>
    cases hq : (s.ctx.req q).inMapEntries[j]? with
    | none =>
      have hj : (s.ctx.req q).inMapEntries.length ≤ j := List.getElem?_eq_none_iff.1 hq
      refine .stay ?_
      by_cases hr : q = r
      · subst hr
        simp [view, hands, jobs, return_, hi, Ioctl.prepares, Ioctl.todo, Ioctl.job,
          Nat.sub_eq_zero_of_le hj]
      · simp [view, hands, jobs, return_, hi, Ioctl.prepares, Ioctl.todo, Ioctl.job, is_of_ne hr]
    | some sync =>
      have hj : j < (s.ctx.req q).inMapEntries.length := (List.getElem?_eq_some_iff.1 hq).1
      have htodo : q = r → 1 ≤ (s.view r).todo := by
        rintro rfl
        simp [view, Context.view, hands, hi, Ioctl.todo]
        omega
      cases o with
      | failed rc =>
        simp only [safe, hi, Bool.and_eq_true, decide_eq_true_eq, Bool.not_eq_eq_eq_not,
          Bool.not_true] at hs
        obtain ⟨rfl, hf⟩ := hs
        by_cases hr : q = r
        · subst hr
          refine .refuse ?_ hj ?_ ?_ ?_
          · simp [view, Context.view, hands, hi, Ioctl.todo]
          · simp [view, Context.view, hands, hi, Ioctl.prepares]
          · simp [view, Context.view, hf]
          · simp only [setCtx, setIoctl, view]
            rw [Context.view_listDel_self]
            simp [Context.view, View.unlink, hands, jobs, hi, Ioctl.prepares, Ioctl.todo, Ioctl.job]
        · refine .stay ?_
          simp only [setCtx, setIoctl, view]
          rw [Context.view_listDel_ne _ _ _ _ hr]
          simp [Context.view, hands, jobs, hi, Ioctl.prepares, Ioctl.todo, Ioctl.job, is_of_ne hr]
      | kept =>
        simp only
        rw [view_registered (by exact hi) (by exact hj)]
        by_cases hr : q = r
        · refine .keep (htodo hr) ?_
          subst hr
          simp [view, Context.view, setCtx, hands, jobs]
        · refine .stay ?_
          simp [view, Context.view, setCtx, hands, jobs, is_of_ne hr]
      | dispatched status =>
        simp only
        rw [view_registered (by exact hi) (by exact hj)]
        by_cases hr : q = r
        · refine .dispatch (htodo hr) ?_
          subst hr
          simp [view, Context.view, hands, jobs, Callback.early, Callback.late, Callback.frees,
            Callback.job, Nat.add_comm]
        · refine .stay ?_
          simp [view, Context.view, hands, jobs, Callback.early, Callback.late, Callback.frees,
            Callback.job, is_of_ne hr]
  · exact .stay rfl

lemma freeReq_move (r : ℕ) : Move (s.view r) (s.freeReq.view r) := by
  rw [freeReq]
  split
  · next o rc hi =>
    by_cases hr : o = r
    · subst hr
      refine .refused (by simp [view, Context.view, hands, hi, Ioctl.prepares]) ?_
      simp only [view, return_, setCtx]
      rw [Context.view_setStory, Context.view_clearCtx_addFree]
      simp [Context.view, hands, jobs, hi, Ioctl.prepares, Ioctl.todo, Ioctl.job]
    · refine .stay ?_
      simp only [view, return_, setCtx]
      rw [Context.view_setStory, Context.view_addFree, Context.clearCtx,
        Context.view_setReq_ne _ _ _ _ _ hr]
      simp [Context.view, Context.setReq, hands, jobs, hi, Ioctl.prepares,
        Ioctl.todo, Ioctl.job, is_of_ne hr]
  · exact .stay rfl

lemma flushReq_move (id r : ℕ) : Move (s.view r) ((s.flushReq id).view r) := by
  rw [flushReq]
  split
  · next hi =>
    refine .stay ?_
    simp [view, hands, jobs, setIoctl, hi, Ioctl.prepares, Ioctl.todo, Ioctl.job, Flush.counting,
      Flush.holds, Flush.refers]
  · exact .stay rfl

lemma flushCtx_move (ht : s.TempsClear) (id : Option ℕ) (r : ℕ) :
    Move (s.view r) ((s.flushCtx id).view r) := by
  rw [flushCtx]
  split
  · next hi =>
    split_ifs
    · exact .stay rfl
    · have htemp : s.ctx.tempPending = [] := ht.pending (by simp [hi])
      refine .splicePending (by simp [view, Context.view, htemp]) ?_
      simp [view, Context.view, hands, jobs, setIoctl, setCtx, hi, Ioctl.prepares, Ioctl.todo, Ioctl.job,
        Flush.counting, Flush.holds, Flush.refers]
  · exact .stay rfl

/-- The ioctl thread is in a flush. -/
def Flushes (i : Ioctl) (f : Flush) : Prop := i = .flushReq f ∨ i = .flushPending f ∨ i = .flushActive f

lemma view_setIoctl_job {i : Ioctl} {f : Flush} (hi : Flushes i f) (c : Context) (r : ℕ) :
    ((s.setCtx c).setIoctl i).view r = c.view r (((s.setIoctl .idle).hands r).withJob r f) := by
  rcases hi with rfl | rfl | rfl <;>
    simp [view, hands, Hands.withJob, jobs, setIoctl, setCtx, Ioctl.prepares, Ioctl.todo, Ioctl.job]

lemma view_job {f : Flush} (hi : Flushes s.ioctl f) (r : ℕ) :
    s.view r = s.ctx.view r (((s.setIoctl .idle).hands r).withJob r f) :=
  view_setIoctl_job (s := s) hi s.ctx r

lemma job_move {f : Flush} {rc : ℤ} {i : Ioctl} (hs : f.safe s.ctx = true) (hi : Flushes s.ioctl f)
    (hi' : Flushes i (f.step s.ctx rc).2) (r : ℕ) :
    Move (s.view r) (((s.setCtx (f.step s.ctx rc).1).setIoctl i).view r) := by
  rw [view_job hi, view_setIoctl_job hi']
  exact Flush.step_move s.ctx rc f hs r _

lemma flush_move {rc : ℤ} (ht : s.TempsClear) (hs : s.safe (.flush rc) = true) (r : ℕ) :
    Move (s.view r) ((s.flush rc).view r) := by
  rw [flush]
  split
  · next hi =>
    refine .stay ?_
    simp [view, hands, jobs, return_, hi, Ioctl.prepares, Ioctl.todo, Ioctl.job, Flush.counting,
      Flush.holds, Flush.refers]
  · next f hne hi =>
    simp only [safe, hi] at hs
    exact job_move hs (.inl hi) (.inl rfl) r
  · next hi =>
    split
    · refine .stay ?_
      simp only [view, setIoctl, setCtx, Context.view_setMutex]
      simp [hands, jobs, hi, Ioctl.prepares, Ioctl.todo, Ioctl.job, Flush.counting,
        Flush.holds, Flush.refers]
    · next o l hl =>
      have ho : 1 ≤ s.ctx.pendingReqList.count o + s.ctx.tempPending.count o := by
        simp only [hl, List.count_cons_self]
        omega
      rw [view_job (.inr (.inl hi)), view_setIoctl_job (.inr (.inl rfl))]
      exact Flush.unlinkPending_move s.ctx 0 _ ho
  · next f hne hi =>
    simp only [safe, hi] at hs
    exact job_move hs (.inr (.inl hi)) (.inr (.inl rfl)) r
  · next hi =>
    have htemp : s.ctx.tempActive = [] := ht.active (by simp [hi])
    refine .spliceActive (by simp [view, Context.view, htemp]) ?_
    simp [view, Context.view, hands, jobs, setIoctl, setCtx, hi, Ioctl.prepares, Ioctl.todo, Ioctl.job,
      Flush.counting, Flush.holds, Flush.refers]
  · next hi =>
    split
    · refine .stay ?_
      simp [view, hands, jobs, return_, hi, Ioctl.prepares, Ioctl.todo, Ioctl.job, Flush.counting,
        Flush.holds, Flush.refers]
    · next o l hl =>
      have ho : 1 ≤ s.ctx.activeReqList.count o + s.ctx.tempActive.count o := by
        simp only [hl, List.count_cons_self]
        omega
      rw [view_job (.inr (.inr hi)), view_setIoctl_job (.inr (.inr rfl))]
      exact Flush.unlinkActive_move s.ctx 0 _ ho
  · next f hne hi =>
    simp only [safe, hi] at hs
    exact job_move hs (.inr (.inr hi)) (.inr (.inr rfl)) r
  · exact .stay rfl

lemma tally_fire (l : List (ℤ × ℕ)) (sync : ℤ) (r : ℕ) :
    tally (fun x => is r x.2) (l.filter (fun x => x.1 = sync)) +
      tally (fun x => is r x.2) (l.filter (fun x => x.1 ≠ sync)) = tally (fun x => is r x.2) l := by
  induction l with
  | nil => rfl
  | cons x l ih =>
    by_cases h : x.1 = sync
    · simp only [h, decide_true, List.filter_cons_of_pos, ne_eq, not_true_eq_false, decide_false,
        Bool.false_eq_true, not_false_eq_true, List.filter_cons_of_neg, tally_cons] at ih ⊢
      omega
    · simp only [h, decide_false, Bool.false_eq_true, not_false_eq_true, List.filter_cons_of_neg, ne_eq,
        decide_true, List.filter_cons_of_pos, tally_cons] at ih ⊢
      omega

lemma fence_move (sync : ℤ) (status : Signaled) (r : ℕ) :
    Move (s.view r) ((s.fence sync status).view r) := by
  have hsum := tally_fire s.ctx.registered sync r
  have hmap : ∀ (w : Callback → ℕ) (l : List (ℤ × ℕ)),
      tally w (l.map (fun x => ⟨x.2, status, .enter⟩)) = tally (fun x => w ⟨x.2, status, .enter⟩) l := by
    intro w l
    simp [tally, Function.comp_def]
  have hzero : ∀ l : List (ℤ × ℕ), tally (fun _ => 0) l = 0 := by
    intro l
    simp [tally]
  refine .fire (tally (fun x => is r x.2) (s.ctx.registered.filter (fun x => x.1 = sync))) ?_ ?_
  · change _ ≤ tally _ _
    omega
  · simp only [view, fence, Context.view, hands, jobs, tally_append, hmap, Callback.early, Callback.late,
      Callback.frees, Callback.job, hzero, Nat.zero_add]
    congr 1
    · rw [Nat.add_comm]
    · omega

lemma callback_move {t : Callback} {rc : ℤ} (hs : s.safe (.callback t rc) = true) (r : ℕ) :
    Move (s.view r) ((s.callback t rc).view r) := by
  rw [callback]
  split_ifs with ht
  · have hmove := Callback.step_move s.ctx rc t hs r ({ s with callbacks := s.callbacks.erase t }.hands r)
    have hold : s.hands r = ({ s with callbacks := s.callbacks.erase t }.hands r).withCallback r (some t) := by
      simp only [hands, Hands.withCallback, jobs, ← tally_erase _ _ ht, Hands.mk.injEq]
      refine ⟨trivial, trivial, ?_, ?_, ?_, ?_, trivial, ?_, ?_⟩ <;> omega
    have hnew : { s with
        ctx := (t.step s.ctx rc).1
        callbacks := (t.step s.ctx rc).2.toList ++ s.callbacks.erase t }.hands r =
        ({ s with callbacks := s.callbacks.erase t }.hands r).withCallback r (t.step s.ctx rc).2 := by
      cases (t.step s.ctx rc).2 with
      | none => simp [hands, Hands.withCallback, jobs, Callback.step_inMapEntries]
      | some t' =>
        simp only [hands, Hands.withCallback, jobs, Callback.step_inMapEntries, Option.toList_some,
          List.singleton_append, tally_cons, Hands.mk.injEq]
        refine ⟨trivial, trivial, ?_, ?_, ?_, ?_, trivial, ?_, ?_⟩ <;> omega
    rw [view, view, hold, hnew]
    exact hmove
  · exact .stay rfl

lemma bufDone_move (id : ℕ) (bubble : Bool) (r : ℕ) : Move (s.view r) ((s.bufDone id bubble).view r) := by
  rw [bufDone]
  split
  · exact .stay rfl
  · next o l hl =>
    split_ifs
    · exact .stay rfl
    · exact .stay rfl
    all_goals
      by_cases hr : o = r
      · subst hr
        refine .bufDone (by simp [view, Context.view, hl]) ?_
        simp only [view]
        rw [Context.view_listDel_self]
        simp [Context.view, Context.listDel, View.unlink, hands, jobs, Nat.add_comm]
      · refine .stay ?_
        simp only [view]
        rw [Context.view_listDel_ne _ _ _ _ hr]
        simp [Context.view, Context.listDel, hands, jobs, is_of_ne hr]

lemma done_move (d : Done) (r : ℕ) : Move (s.view r) ((s.done d).view r) := by
  rw [done]
  split_ifs with hd
  · have hnext : is r d.req + tally (fun x : Done => is r x.req) (s.dones.erase d) =
        tally (fun x : Done => is r x.req) s.dones := tally_erase (fun x : Done => is r x.req) s.dones hd
    split
    · refine .stay ?_
      by_cases hr : d.req = r
      · subst hr
        rw [is_self] at hnext
        simp only [view]
        rw [Context.doneSignal, Context.view_setReq_self]
        simp [Context.view, Context.syncSignal, Context.setStory, Context.setReq, hands, jobs, hnext]
      · simp only [view]
        rw [Context.doneSignal, Context.view_setReq_ne _ _ _ _ _ hr]
        simp [Context.view, Context.syncSignal, Context.setStory, Context.setReq, hands, jobs, hnext,
          Function.update_of_ne (Ne.symm hr)]
    · by_cases hr : d.req = r
      · subst hr
        rw [is_self] at hnext
        refine .done ?_ ?_
        · change 1 ≤ tally _ _
          omega
        · simp only [view]
          rw [Context.clearCtx, Context.view_setReq_self, Context.view_addFree]
          simp only [Context.view, Context.addFree, Context.setReq, hands, jobs, Function.update_self]
          simp
          omega
      · rw [is_of_ne hr, Nat.zero_add] at hnext
        refine .stay ?_
        simp only [view]
        rw [Context.clearCtx, Context.view_setReq_ne _ _ _ _ _ hr, Context.view_addFree]
        simp [Context.view, Context.addFree, Context.setReq, hands, jobs, hnext, is_of_ne hr,
          Function.update_of_ne (Ne.symm hr)]
  · exact .stay rfl

lemma step_move {op : Op} (ht : s.TempsClear) (hs : s.safe op = true) (r : ℕ) :
    Move (s.view r) ((s.step op).view r) := by
  cases op with
  | takeReq => exact takeReq_move hs r
  | prepareUpdate p => exact prepareUpdate_move p hs r
  | checkValid rc => exact checkValid_move hs r
  | registerCallback o => exact registerCallback_move hs r
  | freeReq => exact freeReq_move r
  | flushReq id => exact flushReq_move id r
  | flushCtx id => exact flushCtx_move ht id r
  | flush rc => exact flush_move ht hs r
  | fence sync status => exact fence_move sync status r
  | callback t rc => exact callback_move hs r
  | bufDone id bubble => exact bufDone_move id bubble r
  | done d => exact done_move d r

end System

/-- A step that leaves the local lists of a flush as they are, or takes an object off. -/
def Context.TempsShrink (c d : Context) : Prop :=
  (c.tempPending = [] → d.tempPending = []) ∧ (c.tempActive = [] → d.tempActive = [])

lemma Context.TempsShrink.of_eq {c d : Context} (h : d.tempPending = c.tempPending)
    (h' : d.tempActive = c.tempActive) : c.TempsShrink d :=
  ⟨fun he => h.trans he, fun he => h'.trans he⟩

lemma Context.TempsShrink.of_erase {c d : Context} (o : ℕ) (h : d.tempPending = c.tempPending.erase o)
    (h' : d.tempActive = c.tempActive.erase o) : c.TempsShrink d :=
  ⟨fun he => by rw [h, he, List.erase_nil], fun he => by rw [h', he, List.erase_nil]⟩

lemma Flush.step_temps (c : Context) (rc : ℤ) (f : Flush) : c.TempsShrink (f.step c rc).1 := by
  cases f with
  | pending id =>
    by_cases hm : c.syncMutex = true
    · simp only [Flush.step, hm, if_true]
      exact .of_eq rfl rfl
    simp only [Flush.step, hm]
    cases c.findReq c.pendingReqList id with
    | none => exact .of_eq rfl rfl
    | some o => exact .of_erase o rfl rfl
  | active id =>
    simp only [Flush.step]
    split
    · next o _ => exact .of_erase o rfl rfl
    · exact .of_eq rfl rfl
  | deregister o i freeReq =>
    simp only [Flush.step]
    split <;> exact .of_eq rfl rfl
  | count o i freeReq => exact .of_eq rfl rfl
  | signal o i freeReq =>
    simp only [Flush.step]
    split
    · exact .of_eq rfl rfl
    · split_ifs <;> exact .of_eq rfl rfl
  | free o => exact .of_eq rfl rfl
  | finished => exact .of_eq rfl rfl

lemma Callback.step_temps (c : Context) (rc : ℤ) (t : Callback) : c.TempsShrink (t.step c rc).1 := by
  obtain ⟨o, status, pc⟩ := t
  cases pc with
  | enter => exact .of_eq rfl rfl
  | ack => exact .of_eq rfl rfl
  | flush f =>
    have := Flush.step_temps c rc f
    cases f <;> exact this
  | lock =>
    simp only [Callback.step]
    split_ifs
    · exact .of_eq rfl rfl
    · exact .of_eq rfl rfl
    · exact .of_erase o rfl rfl
  | config =>
    simp only [Callback.step, Context.configReturned]
    split_ifs
    · exact .of_erase o rfl rfl
    · exact .of_eq rfl rfl
  | free => exact .of_erase o rfl rfl

namespace System
variable {s : System}

lemma TempsClear.of_shrink {t : System} (h : s.TempsClear) (hc : s.ctx.TempsShrink t.ctx)
    (hp : (∀ f, t.ioctl ≠ .flushPending f) → ∀ f, s.ioctl ≠ .flushPending f)
    (ha : (∀ f, t.ioctl ≠ .flushActive f) → ∀ f, s.ioctl ≠ .flushActive f) : t.TempsClear :=
  ⟨fun ht => hc.1 (h.pending (hp ht)), fun ht => hc.2 (h.active (ha ht))⟩

lemma TempsClear.of_none {t : System} (h : s.TempsClear) (hc : s.ctx.TempsShrink t.ctx)
    (hp : ∀ f, s.ioctl ≠ .flushPending f) (ha : ∀ f, s.ioctl ≠ .flushActive f) : t.TempsClear :=
  h.of_shrink hc (fun _ => hp) (fun _ => ha)

lemma flush_tempsClear {rc : ℤ} (ht : s.TempsClear) : (s.flush rc).TempsClear := by
  rw [flush]
  split
  · next hi => exact ht.of_none (.of_eq rfl rfl) (by simp [hi]) (by simp [hi])
  · next f hne hi => exact ht.of_none (f.step_temps s.ctx rc) (by simp [hi]) (by simp [hi])
  · next hi =>
    split
    · next hl => exact ⟨fun _ => hl, fun _ => ht.active (by simp [hi])⟩
    · next o l hl => exact ht.of_shrink (.of_erase o rfl rfl) (fun h => absurd rfl (h _)) (by simp [hi])
  · next f hne hi =>
    exact ht.of_shrink (f.step_temps s.ctx rc) (fun h => absurd rfl (h _)) (by simp [hi])
  · next hi => exact ⟨fun _ => ht.pending (by simp [hi]), fun h => absurd rfl (h _)⟩
  · next hi =>
    split
    · next hl => exact ⟨fun _ => ht.pending (by simp [hi]), fun _ => hl⟩
    · next o l hl => exact ht.of_shrink (.of_erase o rfl rfl) (by simp [hi]) (fun h => absurd rfl (h _))
  · next f hne hi =>
    exact ht.of_shrink (f.step_temps s.ctx rc) (by simp [hi]) (fun h => absurd rfl (h _))
  · exact ht

lemma step_tempsClear (op : Op) (ht : s.TempsClear) : (s.step op).TempsClear := by
  cases op with
  | takeReq =>
    simp only [step, takeReq]
    split
    · next hi _ => exact ht.of_none (.of_eq rfl rfl) (by simp [hi]) (by simp [hi])
    · next o l hi _ => exact ht.of_none (.of_erase o rfl rfl) (by simp [hi]) (by simp [hi])
    · exact ht
  | prepareUpdate p =>
    simp only [step, prepareUpdate]
    split
    · next o hi =>
      split_ifs <;> exact ht.of_none (.of_eq rfl rfl) (by simp [hi]) (by simp [hi])
    · exact ht
  | checkValid rc =>
    simp only [step, checkValid]
    split
    · next o hi => exact ht.of_none (.of_eq rfl rfl) (by simp [hi]) (by simp [hi])
    · exact ht
  | registerCallback o =>
    simp only [step, registerCallback]
    split
    · next q j hi =>
      split
      · exact ht.of_none (.of_eq rfl rfl) (by simp [hi]) (by simp [hi])
      · split
        · exact ht.of_none (.of_erase q rfl rfl) (by simp [hi]) (by simp [hi])
        all_goals
          simp only [registered]
          split_ifs <;> exact ht.of_none (.of_eq rfl rfl) (by simp [hi]) (by simp [hi])
    · exact ht
  | freeReq =>
    simp only [step, freeReq]
    split
    · next o rc hi => exact ht.of_none (.of_eq rfl rfl) (by simp [hi]) (by simp [hi])
    · exact ht
  | flushReq id =>
    simp only [step, flushReq]
    split
    · next hi => exact ht.of_none (.of_eq rfl rfl) (by simp [hi]) (by simp [hi])
    · exact ht
  | flushCtx id =>
    simp only [step, flushCtx]
    split
    · next hi =>
      split_ifs
      · exact ht
      · exact ⟨fun h => absurd rfl (h _), fun _ => ht.active (by simp [hi])⟩
    · exact ht
  | flush rc => exact flush_tempsClear ht
  | fence sync status => exact ht.of_shrink (.of_eq rfl rfl) (fun h => h) (fun h => h)
  | callback t rc =>
    simp only [step, callback]
    split_ifs
    · exact ht.of_shrink (t.step_temps s.ctx rc) (fun h => h) (fun h => h)
    · exact ht
  | bufDone id bubble =>
    simp only [step, bufDone]
    split
    · exact ht.of_shrink (.of_eq rfl rfl) (fun h => h) (fun h => h)
    · next o l _ =>
      split_ifs
      · exact ht.of_shrink (.of_eq rfl rfl) (fun h => h) (fun h => h)
      · exact ht.of_shrink (.of_eq rfl rfl) (fun h => h) (fun h => h)
      all_goals exact ht.of_shrink (.of_erase o rfl rfl) (fun h => h) (fun h => h)
  | done d =>
    simp only [step, done]
    split_ifs
    · split <;> exact ht.of_shrink (.of_eq rfl rfl) (fun h => h) (fun h => h)
    · exact ht

/-- No callback is outstanding and no operation is in progress. -/
def Quiet (s : System) : Prop :=
  s.ctx.registered = [] ∧ s.callbacks = [] ∧ s.dones = [] ∧ s.ioctl = .idle

/-- Each of the objects is on one list, or held by one operation, or flushed and left to a
callback; and it is on a list of the context once all fences are signalled and their
callbacks have run. -/
structure Conserved (s : System) (reqSize : ℕ) : Prop where
  place : ∀ r < reqSize, (s.view r).lists + (s.view r).held + (s.view r).awaits = 1
  reachable : s.Quiet → ∀ r < reqSize,
    s.ctx.freeReqList.count r + s.ctx.pendingReqList.count r + s.ctx.activeReqList.count r = 1

structure Inv (s : System) (reqSize : ℕ) : Prop where
  phase : ∀ r < reqSize, Phase (s.view r)
  temps : s.TempsClear

lemma init_inv (reqSize : ℕ) (hwFlush : Bool) : (init reqSize hwFlush).Inv reqSize := by
  refine ⟨fun r hr => ?_, ⟨fun _ => rfl, fun _ => rfl⟩⟩
  have hcount : (List.range reqSize).count r = 1 :=
    List.count_eq_one_of_mem (List.nodup_range) (List.mem_range.2 hr)
  apply Phase.free <;>
    simp [init, view, Context.view, hands, jobs, hcount, View.total, View.lists, View.held, View.tokens,
      Ioctl.prepares, Ioctl.todo, Ioctl.job]

lemma step_inv {reqSize : ℕ} {op : Op} (h : s.Inv reqSize) (hs : s.safe op = true) :
    (s.step op).Inv reqSize :=
  ⟨fun r hr => (step_move h.temps hs r).phase (h.phase r hr), step_tempsClear op h.temps⟩

lemma Inv.conserved {reqSize : ℕ} (h : s.Inv reqSize) : s.Conserved reqSize := by
  refine ⟨fun r hr => (h.phase r hr).place, ?_⟩
  rintro ⟨hreg, hcb, hdone, hi⟩ r hr
  have hp : s.ctx.tempPending = [] := h.temps.pending (by simp [hi])
  have ha : s.ctx.tempActive = [] := h.temps.active (by simp [hi])
  have hphase := h.phase r hr
  have hview : s.view r = s.ctx.view r ⟨0, 0, 0, 0, 0, 0, 0, 0, 0⟩ := by
    simp [view, hands, jobs, hcb, hdone, hi, Ioctl.prepares, Ioctl.todo, Ioctl.job]
  rw [hview] at hphase
  cases hphase <;>
    simp only [Context.view, View.total, View.lists, View.held, View.tokens, hreg, hp, ha, tally_nil,
      List.count_nil] at * <;> omega

/-- Along every run whose steps are safe the request objects are conserved. -/
theorem run_requestsConserved (reqSize : ℕ) (hwFlush : Bool) (ops : List Op)
    (hsafe : Transition.Guarded step (fun s op => s.safe op = true) (init reqSize hwFlush) ops) :
    (Transition.run step (init reqSize hwFlush) ops).Conserved reqSize := by
  have hstep : ∀ (s : System) (op : Op), s.Inv reqSize → s.safe op = true → (s.step op).Inv reqSize :=
    fun _ _ h hop => step_inv h hop
  exact (Transition.run_invariant hstep (init_inv reqSize hwFlush) hsafe).conserved

/-- A request with two input fences and one output fence. -/
def twoFences : Packet := ⟨true, 1, 0, [5, 6], [7], [7]⟩

/-- Its submission: fence `6` is signalled already. -/
def submitTwoFences : List Op :=
  [.takeReq, .prepareUpdate twoFences, .checkValid 0, .registerCallback .kept,
    .registerCallback (.dispatched .success)]

theorem flushedBetween_conserved :
    (Transition.run step (init 2 true)
      (submitTwoFences ++
        [Op.callback ⟨0, .success, .enter⟩ 0, .callback ⟨0, .success, .ack⟩ 0, .fence 5 .error,
          .flushReq 1, .flush 0, .flush 0, .flush 0, .flush 0, .callback ⟨0, .error, .enter⟩ 0,
          .flush 0, .flush 0, .flush 0, .callback ⟨0, .error, .ack⟩ 0])).Conserved 2 :=
  run_requestsConserved 2 true _ (by decide +kernel)

/-- An input fence that is not valid: the object is put on the free list while it is still
linked into the pending list. -/
theorem invalidInput_linkedTwice :
    ¬ (Transition.run step (init 2 true)
      [.takeReq, .prepareUpdate twoFences, .checkValid (-EINVAL), .freeReq]).Conserved 2 := by
  intro h
  have hplace := h.place 0 (by decide)
  revert hplace
  decide +kernel

end System

end CameraKernel.CtxUtils
