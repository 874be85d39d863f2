import CameraKernel.CtxConserve

/-! The output fences of the requests of a fence-driven context. The invariant says for each
object how many of its fences have been passed to `cam_sync_signal`: none while it is on a
list and not free, as many as a flush or a buf-done handler that has it in hand has come to,
all of them once it is back on the free list. -/
namespace CameraKernel.CtxUtils

namespace Context

/-- The fences of the object that were passed to `cam_sync_signal`. -/
def sent (c : Context) (r : ℕ) : List ℤ := (c.story r).sent.map Prod.fst

def asked (c : Context) (r : ℕ) : List ℤ := (c.story r).asked

def outs (c : Context) (r : ℕ) : List ℤ := (c.req r).outMapEntries

def Sent (c : Context) (r : ℕ) : Prop := c.sent r = c.asked r

def Unsent (c : Context) (r : ℕ) : Prop := c.sent r = [] ∧ c.outs r = c.asked r

/-- On a list, and not free. -/
def Listed (c : Context) (r : ℕ) : Prop :=
  r ∈ c.pendingReqList ∨ r ∈ c.tempPending ∨ r ∈ c.activeReqList ∨ r ∈ c.tempActive

end Context

/-- The object that a flush works on. -/
def Flush.object : Flush → Option ℕ
  | .deregister r _ _ => some r
  | .count r _ _ => some r
  | .signal r _ _ => some r
  | .free r => some r
  | _ => none

/-- How far the flush has come. -/
def Flush.Progress (c : Context) : Flush → Prop
  | .deregister r _ _ => c.Unsent r
  | .count r _ _ => c.Unsent r
  | .signal r i _ => c.sent r = (c.asked r).take i ∧ c.outs r = c.asked r
  | .free r => c.Sent r
  | _ => True

def Done.Progress (c : Context) (d : Done) : Prop :=
  c.sent d.req = (c.asked d.req).take d.i ∧ (c.outs d.req).drop d.i = (c.asked d.req).drop d.i ∧
    (c.outs d.req).length = (c.asked d.req).length

/-- The flush that a callback or the ioctl thread is in. -/
def Callback.flush? (t : Callback) : Option Flush :=
  match t.pc with
  | .flush f => some f
  | _ => none

def Ioctl.flush? : Ioctl → Option Flush
  | .flushReq f => some f
  | .flushPending f => some f
  | .flushActive f => some f
  | _ => none

namespace System

/-- The flushes in progress. -/
def flushes (s : System) : List Flush := s.ioctl.flush?.toList ++ s.callbacks.filterMap Callback.flush?

/-- What is known of the fences of one object. -/
structure Fired (s : System) (r : ℕ) : Prop where
  valid : ∀ x ∈ s.ctx.asked r, x ≠ -1
  prepared : 0 < s.ioctl.prepares r → s.ctx.sent r = []
  listed : s.ctx.Listed r → s.ctx.Unsent r
  free : r ∈ s.ctx.freeReqList → s.ctx.Sent r
  frees : ∀ t ∈ s.callbacks, t.req = r → t.pc = .free → s.ctx.Sent r
  flushed : (s.ctx.req r).flushed = true → s.ctx.Sent r ∨ ∃ f ∈ s.flushes, f.object = some r
  flushes : ∀ f ∈ s.flushes, f.object = some r → f.Progress s.ctx
  dones : ∀ d ∈ s.dones, d.req = r → d.Progress s.ctx

/-- Each output fence was passed to `cam_sync_signal` once when the object is back on the
free list, and never twice before. -/
def FiredOnce (s : System) (reqSize : ℕ) : Prop :=
  ∀ r < reqSize, (r ∈ s.ctx.freeReqList → s.ctx.sent r = s.ctx.asked r) ∧
    s.ctx.sent r <+: s.ctx.asked r

end System

lemma Flush.weight_of_object {r : ℕ} {f : Flush} (h : f.object = some r) : f.refers r + f.holds r = 1 := by
  cases f with
  | deregister o i b | count o i b | signal o i b =>
    obtain rfl : o = r := by simpa [Flush.object] using h
    cases b <;> simp [Flush.refers, Flush.holds]
  | free o =>
    obtain rfl : o = r := by simpa [Flush.object] using h
    simp [Flush.refers, Flush.holds]
  | pending | active | finished => simp [Flush.object] at h

lemma System.jobs_eq (s : System) (w : Flush → ℕ) : s.jobs w = tally w s.flushes := by
  have hcb : ∀ l : List Callback, tally (Callback.job w) l = tally w (l.filterMap Callback.flush?) := by
    intro l
    induction l with
    | nil => rfl
    | cons t l ih =>
      obtain ⟨o, status, pc⟩ := t
      cases pc <;> simp [List.filterMap_cons, Callback.job, Callback.flush?, ih]
  have hi : s.ioctl.job w = tally w s.ioctl.flush?.toList := by
    cases s.ioctl <;> simp [Ioctl.job, Ioctl.flush?]
  rw [System.jobs, System.flushes, tally_append, hcb, hi, Nat.add_comm]

lemma tally_le_of_mem {α : Type} {w : α → ℕ} {l : List α} {a : α} (h : a ∈ l) : w a ≤ tally w l :=
  List.single_le_sum (by simp) _ (List.mem_map_of_mem h)

section Exclusive
variable {s : System} {r : ℕ}

lemma Flush.le_view {f : Flush} (hf : f ∈ s.flushes) (ho : f.object = some r) :
    1 ≤ (s.view r).refers + (s.view r).holds := by
  have hr : f.refers r ≤ s.jobs (Flush.refers r) := by
    rw [s.jobs_eq]
    exact tally_le_of_mem hf
  have hh : f.holds r ≤ s.jobs (Flush.holds r) := by
    rw [s.jobs_eq]
    exact tally_le_of_mem hf
  have := Flush.weight_of_object ho
  change 1 ≤ s.jobs (Flush.refers r) + s.jobs (Flush.holds r)
  omega

lemma Done.le_view {d : Done} (hd : d ∈ s.dones) (ho : d.req = r) : 1 ≤ (s.view r).dones := by
  have := tally_le_of_mem (w := fun x : Done => is r x.req) hd
  subst ho
  simpa [System.view, Context.view, System.hands] using this

lemma Context.Listed.le_view (h : s.ctx.Listed r) :
    1 ≤ (s.view r).pending + (s.view r).tempPending + (s.view r).active + (s.view r).tempActive := by
  change 1 ≤ s.ctx.pendingReqList.count r + s.ctx.tempPending.count r + s.ctx.activeReqList.count r +
    s.ctx.tempActive.count r
  rcases h with h | h | h | h <;> have := List.count_pos_iff.2 h <;> omega

lemma Phase.of_flush {f : Flush} (hv : Phase (s.view r)) (hf : f ∈ s.flushes) (ho : f.object = some r) :
    ¬ s.ctx.Listed r ∧ (∀ d ∈ s.dones, d.req ≠ r) ∧ s.ioctl.prepares r = 0 ∧
      (s.view r).refers + (s.view r).holds = 1 := by
  have hle := Flush.le_view hf ho
  have hbusy := hv.busy_le
  have hprep : (s.view r).prepares = s.ioctl.prepares r := rfl
  refine ⟨fun h => ?_, fun d hd hr => ?_, ?_, ?_⟩
  · have := h.le_view
    omega
  · have := Done.le_view hd hr
    omega
  all_goals omega

end Exclusive

/-! ### Steps that tell the fences of an object nothing -/

/-- What a step from `s` to `t` may do to an object whose fences it does not touch. -/
structure Frame (s t : System) (r : ℕ) : Prop where
  sent : t.ctx.sent r = s.ctx.sent r
  asked : t.ctx.asked r = s.ctx.asked r
  outs : t.ctx.outs r = s.ctx.outs r
  prepared : 0 < t.ioctl.prepares r → 0 < s.ioctl.prepares r ∨ s.ctx.Listed r
  listed : t.ctx.Listed r → s.ctx.Listed r
  free : r ∈ t.ctx.freeReqList → r ∈ s.ctx.freeReqList ∨ s.ctx.Sent r
  frees : ∀ x ∈ t.callbacks, x.req = r → x.pc = .free → x ∈ s.callbacks ∨ s.ctx.Sent r
  flushed : (t.ctx.req r).flushed = true →
    (s.ctx.req r).flushed = true ∨ ∃ f ∈ t.flushes, f.object = some r
  kept : ∀ f ∈ s.flushes, f.object = some r → s.ctx.Sent r ∨ ∃ g ∈ t.flushes, g.object = some r
  flushes : ∀ f ∈ t.flushes, f.object = some r → f ∈ s.flushes ∨ f.Progress s.ctx
  dones : ∀ d ∈ t.dones, d.req = r → d ∈ s.dones ∨ d.Progress s.ctx

section Frame
variable {s t : System} {r : ℕ}

lemma Flush.Progress.of_told {c d : Context} {f : Flush} (hf : f.Progress c) (ho : f.object = some r)
    (hsent : d.sent r = c.sent r) (hasked : d.asked r = c.asked r) (houts : d.outs r = c.outs r) :
    f.Progress d := by
  cases f with
  | deregister o i b | count o i b =>
    obtain rfl : o = r := by simpa [Flush.object] using ho
    exact ⟨hsent.trans hf.1, houts.trans (hf.2.trans hasked.symm)⟩
  | signal o i b =>
    obtain rfl : o = r := by simpa [Flush.object] using ho
    exact ⟨hsent.trans (hf.1.trans (by rw [hasked])), houts.trans (hf.2.trans hasked.symm)⟩
  | free o =>
    obtain rfl : o = r := by simpa [Flush.object] using ho
    exact hsent.trans (Eq.trans hf hasked.symm)
  | pending | active | finished => trivial

lemma Frame.fired (hf : Frame s t r) (h : s.Fired r) : t.Fired r := by
  have hsent := hf.sent
  have hasked := hf.asked
  have hSent : s.ctx.Sent r → t.ctx.Sent r := fun hs => hsent.trans (Eq.trans hs hasked.symm)
  refine ⟨?_, ?_, ?_, ?_, ?_, ?_, ?_, ?_⟩
  · rw [hasked]
    exact h.valid
  · intro hp
    rw [hsent]
    exact (hf.prepared hp).elim h.prepared (fun hl => (h.listed hl).1)
  · intro hl
    obtain ⟨h1, h2⟩ := h.listed (hf.listed hl)
    exact ⟨hsent.trans h1, hf.outs.trans (h2.trans hasked.symm)⟩
  · intro hr
    exact hSent ((hf.free hr).elim h.free id)
  · intro x hx hxr hpc
    exact hSent ((hf.frees x hx hxr hpc).elim (fun hx => h.frees x hx hxr hpc) id)
  · intro hfl
    rcases hf.flushed hfl with hfl | hjob
    · rcases h.flushed hfl with hs | ⟨f, hmem, ho⟩
      · exact .inl (hSent hs)
      · exact (hf.kept f hmem ho).imp hSent id
    · exact .inr hjob
  · intro f hmem ho
    exact ((hf.flushes f hmem ho).elim (fun hm => h.flushes f hm ho) id).of_told ho hsent hasked hf.outs
  · intro d hd hr
    obtain ⟨h1, h2, h3⟩ := (hf.dones d hd hr).elim (fun hd => h.dones d hd hr) id
    subst hr
    rw [Done.Progress, hsent, hasked, hf.outs]
    exact ⟨h1, h2, h3⟩

lemma Frame.refl (s : System) (r : ℕ) : Frame s s r :=
  ⟨rfl, rfl, rfl, .inl, id, .inl, fun _ hx _ _ => .inl hx, .inl, fun f hf ho => .inr ⟨f, hf, ho⟩,
    fun _ hf _ => .inl hf, fun _ hd _ => .inl hd⟩

lemma Context.Listed.of_listDel {c : Context} {o : ℕ} (h : (c.listDel o).Listed r) : c.Listed r :=
  h.imp List.mem_of_mem_erase (Or.imp List.mem_of_mem_erase (Or.imp List.mem_of_mem_erase
    List.mem_of_mem_erase))

end Frame

/-- A failed `cam_sync_signal` is that of the last output fence. -/
def Flush.signalsAll (c : Context) (rc : ℤ) : Flush → Bool
  | .signal r i _ => rc ≠ -Errno.EALREADY || (c.req r).outMapEntries.length ≤ i + 1
  | _ => true

section FlushStep
variable {s t : System} {f g : Flush} {c : Context} {r : ℕ} {others : List Flush}

/-- A flush goes on from `f` to `g` and leaves the context `c`. -/
structure FlushStep (s t : System) (f : Flush) (c : Context) (g : Flush) (others : List Flush) : Prop where
  before : s.flushes.Perm (f :: others)
  after : t.flushes.Perm (g :: others)
  ctx : t.ctx = c
  prepares : ∀ r, t.ioctl.prepares r ≤ s.ioctl.prepares r
  frees : ∀ x ∈ t.callbacks, x.pc = .free → x ∈ s.callbacks
  dones : t.dones = s.dones

lemma FlushStep.mem_before (h : FlushStep s t f c g others) {x : Flush} :
    x ∈ s.flushes ↔ x = f ∨ x ∈ others := by
  rw [h.before.mem_iff, List.mem_cons]

lemma FlushStep.mem_after (h : FlushStep s t f c g others) {x : Flush} :
    x ∈ t.flushes ↔ x = g ∨ x ∈ others := by
  rw [h.after.mem_iff, List.mem_cons]

lemma FlushStep.frame (h : FlushStep s t f c g others) (sent : c.sent r = s.ctx.sent r)
    (asked : c.asked r = s.ctx.asked r) (outs : c.outs r = s.ctx.outs r) (listed : c.Listed r → s.ctx.Listed r)
    (free : r ∈ c.freeReqList → r ∈ s.ctx.freeReqList ∨ s.ctx.Sent r)
    (flushed : (c.req r).flushed = true → (s.ctx.req r).flushed = true ∨ g.object = some r)
    (kept : f.object = some r → s.ctx.Sent r ∨ g.object = some r)
    (progress : g.object = some r → g.Progress s.ctx) : Frame s t r := by
  rw [← h.ctx] at sent asked outs listed free flushed
  refine ⟨sent, asked, outs, fun hp => .inl (lt_of_lt_of_le hp (h.prepares r)), listed, free,
    fun x hx _ hpc => .inl (h.frees x hx hpc), ?_, ?_, ?_, fun d hd _ => .inl (h.dones ▸ hd)⟩
  · intro hfl
    exact (flushed hfl).imp id fun ho => ⟨g, h.mem_after.2 (.inl rfl), ho⟩
  · intro x hx ho
    rcases h.mem_before.1 hx with rfl | hx
    · exact (kept ho).imp id fun ho => ⟨g, h.mem_after.2 (.inl rfl), ho⟩
    · exact .inr ⟨x, h.mem_after.2 (.inr hx), ho⟩
  · intro x hx ho
    rcases h.mem_after.1 hx with rfl | hx
    · exact .inr (progress ho)
    · exact .inl (h.mem_before.2 (.inr hx))

lemma Context.outs_setReq {q : CtxRequest} (o : ℕ) (hq : q.outMapEntries = (c.req o).outMapEntries) :
    (c.setReq o q).outs r = c.outs r := by
  by_cases hr : r = o
  · subst hr
    simpa [Context.outs, Context.setReq] using hq
  · simp [Context.outs, Context.setReq, Function.update_of_ne hr]

lemma Context.outs_setFlushed (o : ℕ) (b : Bool) : (c.setFlushed o b).outs r = c.outs r :=
  Context.outs_setReq o rfl

lemma Context.outs_clearCtx (o : ℕ) : (c.clearCtx o).outs r = c.outs r := Context.outs_setReq o rfl

lemma FlushStep.unlinkPending_frame {o : ℕ}
    (h : FlushStep s t f ((s.ctx.listDel o).setFlushed o true) (.deregister o 0 false) others)
    (hf : f.object = none) (ho : s.ctx.Listed o) (hs : s.Fired r) : Frame s t r := by
  refine h.frame rfl rfl (Context.outs_setReq o rfl) Context.Listed.of_listDel
    (fun hr => .inl (List.mem_of_mem_erase hr)) ?_ (by simp [hf]) ?_
  · intro hfl
    by_cases hr : r = o
    · exact .inr (by rw [hr]; rfl)
    · left
      simpa [Context.setFlushed, Context.setReq, Function.update_of_ne hr, Context.listDel] using hfl
  · intro hobj
    obtain rfl : o = r := by simpa [Flush.object] using hobj
    exact hs.listed ho

lemma FlushStep.unlinkActive_frame {o : ℕ} (h : FlushStep s t f (s.ctx.listDel o) (.signal o 0 true) others)
    (hf : f.object = none) (ho : s.ctx.Listed o) (hs : s.Fired r) : Frame s t r := by
  refine h.frame rfl rfl rfl Context.Listed.of_listDel (fun hr => .inl (List.mem_of_mem_erase hr)) .inl
    (by simp [hf]) ?_
  intro hobj
  obtain rfl : o = r := by simpa [Flush.object] using hobj
  exact hs.listed ho

lemma FlushStep.same_frame (h : FlushStep s t f s.ctx g others)
    (kept : f.object = some r → s.ctx.Sent r ∨ g.object = some r)
    (progress : g.object = some r → g.Progress s.ctx) : Frame s t r :=
  h.frame rfl rfl rfl id .inl .inl kept progress

lemma FlushStep.afterSignals_frame {o i : ℕ} {b : Bool}
    (h : FlushStep s t (.signal o i b) s.ctx (.afterSignals o b) others)
    (hs : s.Fired r) (hi : (s.ctx.outs o).length ≤ i) : Frame s t r := by
  have hsent : o = r → s.ctx.Sent r := by
    rintro rfl
    obtain ⟨h1, h2⟩ := hs.flushes _ (h.mem_before.2 (.inl rfl)) rfl
    rw [Context.Sent, h1, List.take_of_length_le]
    rwa [← h2]
  refine h.same_frame (fun ho => .inl (hsent (by simpa [Flush.object] using ho))) ?_
  intro ho
  cases b with
  | true =>
    obtain rfl : o = r := by simpa [Flush.afterSignals, Flush.object] using ho
    exact hsent rfl
  | false => simp [Flush.afterSignals, Flush.object] at ho

lemma FlushStep.not_other {x : Flush} (h : FlushStep s t f c g others) (hv : Phase (s.view r))
    (hf : f.object = some r) (hx : x ∈ others) : x.object ≠ some r := by
  intro ho
  have hone := (hv.of_flush (h.mem_before.2 (.inl rfl)) hf).2.2.2
  have hsum : ∀ w : Flush → ℕ, s.jobs w = w f + tally w others := fun w => by
    rw [s.jobs_eq, ← tally_cons]
    exact (h.before.map w).sum_eq
  have h1 : (s.view r).refers = f.refers r + tally (Flush.refers r) others := hsum _
  have h2 : (s.view r).holds = f.holds r + tally (Flush.holds r) others := hsum _
  have h3 := tally_le_of_mem (w := Flush.refers r) hx
  have h4 := tally_le_of_mem (w := Flush.holds r) hx
  have h5 := Flush.weight_of_object hf
  have h6 := Flush.weight_of_object ho
  omega

lemma FlushStep.signal_fired {o i : ℕ} {b : Bool} {sync : ℤ} {rc : ℤ}
    (h : FlushStep s t (.signal o i b) (s.ctx.syncSignal o sync .error) g others)
    (hg : g = if rc = -Errno.EALREADY then Flush.afterSignals o b else .signal o (i + 1) b)
    (hsync : (s.ctx.outs o)[i]? = some sync)
    (hstop : rc ≠ -Errno.EALREADY ∨ (s.ctx.outs o).length ≤ i + 1)
    (hv : Phase (s.view r)) (hs : s.Fired r) : t.Fired r := by
  by_cases hr : o = r
  · subst hr
    obtain ⟨hsent, houts⟩ := hs.flushes _ (h.mem_before.2 (.inl rfl)) rfl
    have hi : i < (s.ctx.asked o).length := by
      rw [← houts]
      exact (List.getElem?_eq_some_iff.1 hsync).1
    obtain ⟨hlist, hdone, hprep, -⟩ := hv.of_flush (h.mem_before.2 (.inl rfl)) rfl
    have hnot : ¬ s.ctx.Sent o := by
      intro he
      have := congrArg List.length (hsent.symm.trans he)
      rw [List.length_take] at this
      omega
    have hasked' : t.ctx.asked o = s.ctx.asked o := by
      simp [h.ctx, Context.asked, Context.syncSignal, Context.setStory]
    have houts' : t.ctx.outs o = s.ctx.outs o := by rw [h.ctx]; rfl
    have hsent' : t.ctx.sent o = (s.ctx.asked o).take (i + 1) := by
      have hget : (s.ctx.asked o)[i]? = some sync := houts ▸ hsync
      have : t.ctx.sent o = s.ctx.sent o ++ [sync] := by
        simp [h.ctx, Context.sent, Context.syncSignal, Context.setStory]
      rw [this, hsent, List.take_add_one, hget, Option.toList_some]
    have hend : (s.ctx.asked o).length ≤ i + 1 → t.ctx.Sent o := fun hle => by
      rw [Context.Sent, hsent', hasked', List.take_of_length_le hle]
    refine ⟨?_, ?_, ?_, ?_, ?_, ?_, ?_, ?_⟩
    · rw [hasked']
      exact hs.valid
    · intro hp
      have := h.prepares o
      omega
    · intro hl
      rw [h.ctx] at hl
      exact absurd hl hlist
    · intro hfree
      rw [h.ctx] at hfree
      exact absurd (hs.free hfree) hnot
    · intro x hx hxo hpc
      exact absurd (hs.frees x (h.frees x hx hpc) hxo hpc) hnot
    · intro _
      by_cases hrc : rc = -Errno.EALREADY
      · exact .inl (hend (houts ▸ hstop.resolve_left (fun hne => hne hrc)))
      · exact .inr ⟨g, h.mem_after.2 (.inl rfl), by rw [hg, if_neg hrc]; rfl⟩
    · intro x hx ho
      rcases h.mem_after.1 hx with rfl | hx
      · by_cases hrc : rc = -Errno.EALREADY
        · have hle := houts ▸ hstop.resolve_left (fun hne => hne hrc)
          rw [hg, if_pos hrc]
          cases b with
          | true => exact hend hle
          | false => trivial
        · rw [hg, if_neg hrc]
          exact ⟨by rw [hsent', hasked'], by rw [houts', hasked', houts]⟩
      · exact absurd ho (h.not_other hv rfl hx)
    · intro d hd hdo
      exact absurd hdo (hdone d (h.dones ▸ hd))
  · refine (h.frame ?_ ?_ rfl id .inl .inl (fun ho => absurd (by simpa [Flush.object] using ho) hr) ?_).fired hs
    · simp [Context.sent, Context.syncSignal, Context.setStory, Function.update_of_ne (Ne.symm hr)]
    · simp [Context.asked, Context.syncSignal, Context.setStory, Function.update_of_ne (Ne.symm hr)]
    · intro ho
      refine absurd ?_ hr
      rw [hg] at ho
      split_ifs at ho
      · cases b with
        | true => simpa [Flush.afterSignals, Flush.object] using ho
        | false => simp [Flush.afterSignals, Flush.object] at ho
      · simpa [Flush.object] using ho

lemma FlushStep.fired {rc : ℤ} (h : FlushStep s t f (f.step s.ctx rc).1 (f.step s.ctx rc).2 others)
    (hstop : f.signalsAll s.ctx rc = true) (hv : Phase (s.view r)) (hs : s.Fired r) : t.Fired r := by
  cases f with
  | pending id =>
    by_cases hm : s.ctx.syncMutex = true
    · simp only [Flush.step, hm, if_true] at h
      exact (h.same_frame (by simp [Flush.object]) (by simp [Flush.object])).fired hs
    · cases ho : s.ctx.findReq s.ctx.pendingReqList id with
      | none =>
        simp only [Flush.step, hm, ho] at h
        refine (h.same_frame (by simp [Flush.object]) ?_).fired hs
        cases s.ctx.hwFlush <;> simp [Flush.object]
      | some o =>
        simp only [Flush.step, hm, ho] at h
        exact (h.unlinkPending_frame rfl (.inl (List.mem_of_find?_eq_some ho)) hs).fired hs
  | active id =>
    cases ho : s.ctx.findReq s.ctx.activeReqList id with
    | none =>
      simp only [Flush.step, ho] at h
      exact (h.same_frame (by simp [Flush.object]) (by simp [Flush.object])).fired hs
    | some o =>
      simp only [Flush.step, ho] at h
      exact (h.unlinkActive_frame rfl (.inr (.inr (.inl (List.mem_of_find?_eq_some ho)))) hs).fired hs
  | deregister o i b =>
    have hf : o = r → s.ctx.Unsent r := by
      rintro rfl
      exact hs.flushes _ (h.mem_before.2 (.inl rfl)) rfl
    cases hi : (s.ctx.req o).inMapEntries[i]? with
    | none =>
      simp only [Flush.step, hi] at h
      refine (h.same_frame .inr ?_).fired hs
      intro ho
      obtain rfl : o = r := by simpa [Flush.object] using ho
      exact hf rfl
    | some sync =>
      simp only [Flush.step, hi] at h
      refine (h.frame rfl rfl rfl id .inl .inl ?_ ?_).fired hs
      · intro ho
        split_ifs <;> exact .inr ho
      · intro ho
        split_ifs at ho ⊢
        all_goals
          obtain rfl : o = r := by simpa [Flush.object] using ho
          exact hf rfl
  | count o i b =>
    simp only [Flush.step] at h
    refine (h.frame rfl rfl (Context.outs_setReq o rfl) id .inl ?_ .inr ?_).fired hs
    · intro hfl
      left
      by_cases hr : r = o
      · subst hr
        simpa [Context.incAcked, Context.setReq] using hfl
      · simpa [Context.incAcked, Context.setReq, Function.update_of_ne hr] using hfl
    · intro ho
      obtain rfl : o = r := by simpa [Flush.object] using ho
      exact hs.flushes (.count o i b) (h.mem_before.2 (.inl rfl)) rfl
  | signal o i b =>
    cases hi : (s.ctx.req o).outMapEntries[i]? with
    | none =>
      simp only [Flush.step, hi] at h
      exact (h.afterSignals_frame hs (List.getElem?_eq_none_iff.1 hi)).fired hs
    | some sync =>
      simp only [Flush.signalsAll, Bool.or_eq_true, decide_eq_true_eq] at hstop
      by_cases hr : o = r
      · subst hr
        obtain ⟨-, houts⟩ := hs.flushes _ (h.mem_before.2 (.inl rfl)) rfl
        have hne : sync ≠ -1 := hs.valid _ (houts ▸ List.mem_of_getElem? hi)
        simp only [Flush.step, hi, hne, if_false] at h
        exact h.signal_fired rfl hi hstop hv hs
      · by_cases hne : sync = -1
        · simp only [Flush.step, hi, hne, if_true] at h
          refine (h.same_frame .inr ?_).fired hs
          intro ho
          exact absurd (by simpa [Flush.object] using ho) hr
        · simp only [Flush.step, hi, hne, if_false] at h
          exact h.signal_fired rfl hi hstop hv hs
  | free o =>
    have hsent : o = r → s.ctx.Sent r := by
      rintro rfl
      exact hs.flushes _ (h.mem_before.2 (.inl rfl)) rfl
    simp only [Flush.step] at h
    refine (h.frame rfl rfl (Context.outs_setReq o rfl) id ?_ ?_ ?_ (by simp [Flush.object])).fired hs
    · intro hr
      simp only [Context.addFree, List.mem_append, List.mem_singleton] at hr
      exact hr.imp id fun he => hsent he.symm
    · intro hfl
      left
      by_cases hr : r = o
      · subst hr
        simpa [Context.clearCtx, Context.addFree, Context.setReq] using hfl
      · simpa [Context.clearCtx, Context.addFree, Context.setReq, Function.update_of_ne hr] using hfl
    · intro ho
      exact .inl (hsent (by simpa [Flush.object] using ho))
  | finished =>
    simp only [Flush.step] at h
    exact (h.same_frame (by simp [Flush.object]) (by simp [Flush.object])).fired hs

end FlushStep

/-! ### Callbacks -/

namespace System
variable {s : System} {r : ℕ}

/-- The flushes of the other threads. -/
def otherFlushes (s : System) (t : Callback) : List Flush :=
  s.ioctl.flush?.toList ++ (s.callbacks.erase t).filterMap Callback.flush?

lemma flushes_callback {t : Callback} (ht : t ∈ s.callbacks) :
    s.flushes.Perm (t.flush?.toList ++ s.otherFlushes t) := by
  have hperm := (List.perm_cons_erase ht).filterMap Callback.flush?
  have hcons : (t :: s.callbacks.erase t).filterMap Callback.flush? =
      t.flush?.toList ++ (s.callbacks.erase t).filterMap Callback.flush? := by
    rw [List.filterMap_cons]
    cases t.flush? <;> rfl
  rw [hcons] at hperm
  exact (hperm.append_left _).trans
    ((List.perm_append_comm_assoc _ _ _))

lemma flushes_callbacks {t : Callback} {c : Context} (o : Option Callback) :
    { s with ctx := c, callbacks := o.toList ++ s.callbacks.erase t }.flushes.Perm
      ((o.bind Callback.flush?).toList ++ s.otherFlushes t) := by
  cases o with
  | none => exact .refl _
  | some x =>
    simp only [flushes, otherFlushes, Option.toList_some, List.singleton_append, List.filterMap_cons,
      Option.bind_some]
    cases hx : x.flush? with
    | none => exact .refl _
    | some f => exact List.perm_middle

lemma Frame.of_callback {t : Callback} {c : Context} {o : Option Callback} (ht : t ∈ s.callbacks)
    (before : ∀ f, t.flush? = some f → f.object = none)
    (after : ∀ f, o.bind Callback.flush? = some f → f.object = none)
    (sent : c.sent r = s.ctx.sent r) (asked : c.asked r = s.ctx.asked r) (outs : c.outs r = s.ctx.outs r)
    (listed : c.Listed r → s.ctx.Listed r)
    (free : r ∈ c.freeReqList → r ∈ s.ctx.freeReqList ∨ s.ctx.Sent r)
    (frees : ∀ x, o = some x → x.req = r → x.pc = .free → s.ctx.Sent r)
    (flushed : (c.req r).flushed = true → (s.ctx.req r).flushed = true) :
    Frame s { s with ctx := c, callbacks := o.toList ++ s.callbacks.erase t } r := by
  have hmem : ∀ f, f ∈ s.flushes → f.object = some r → f ∈ s.otherFlushes t := fun f hf ho => by
    rcases List.mem_append.1 ((flushes_callback ht).mem_iff.1 hf) with h | h
    · rw [before f (Option.mem_toList.1 h)] at ho
      cases ho
    · exact h
  refine ⟨sent, asked, outs, .inl, listed, free, ?_, fun h => .inl (flushed h), ?_, ?_,
    fun _ hd _ => .inl hd⟩
  · intro x hx hxr hpc
    rcases List.mem_append.1 hx with h | h
    · exact .inr (frees x (Option.mem_toList.1 h) hxr hpc)
    · exact .inl (List.mem_of_mem_erase h)
  · intro f hf ho
    exact .inr ⟨f, (flushes_callbacks o).mem_iff.2 (List.mem_append_right _ (hmem f hf ho)), ho⟩
  · intro f hf ho
    rcases List.mem_append.1 ((flushes_callbacks o).mem_iff.1 hf) with h | h
    · rw [after f (Option.mem_toList.1 h)] at ho
      cases ho
    · exact .inl ((flushes_callback ht).mem_iff.2 (List.mem_append_right _ h))

/-- The steps after which each output fence is still signalled once: `safe` steps, in which
a flush is stopped by a signalled fence only at the last one, the last callback of a flushed
request returns it after the flush that took it, and `hw_config` succeeds unless there is no
output fence. -/
def fires (s : System) (op : Op) : Bool :=
  s.safe op &&
    match op with
    | .flush rc =>
      match s.ioctl.flush? with
      | some f => f.signalsAll s.ctx rc
      | none => true
    | .callback t rc =>
      match t.pc with
      | .flush f => f.signalsAll s.ctx rc
      | .lock => !(s.ctx.req t.req).flushed || s.jobs (Flush.refers t.req) = 0
      | .config => rc = 0 || (s.ctx.req t.req).outMapEntries = []
      | _ => true
    | _ => true

lemma callback_late {t : Callback} (ht : t ∈ s.callbacks) (hpc : t.pc = .lock) :
    1 ≤ (s.view t.req).late := by
  have := tally_le_of_mem (w := Callback.late t.req) ht
  rwa [Callback.late, hpc, is_self] at this

lemma callback_fired {t : Callback} {rc : ℤ} (hv : Phase (s.view r)) (hs : s.Fired r)
    (hop : s.fires (.callback t rc) = true) : (s.callback t rc).Fired r := by
  rw [callback]
  split_ifs with ht
  swap
  · exact hs
  obtain ⟨hsafe, hfires⟩ := Bool.and_eq_true_iff.1 hop
  obtain ⟨o, status, pc⟩ := t
  cases pc with
  | enter =>
    refine (Frame.of_callback ht (by simp [Callback.flush?]) ?_ rfl rfl rfl id .inl ?_ id).fired hs
    · simp only [Callback.step]
      split_ifs <;> simp [Callback.flush?]
    · simp only [Callback.step]
      split_ifs <;> simp
  | ack =>
    refine (Frame.of_callback (c := s.ctx.incAcked o) ht (by simp [Callback.flush?]) ?_ rfl rfl
      (Context.outs_setReq o rfl) id .inl ?_ ?_).fired hs
    · simp only [Callback.step]
      split_ifs
      · cases status <;> simp [Callback.flush?, Flush.object]
      · simp
    · simp only [Callback.step]
      split_ifs
      · cases status <;> simp
      · simp
    · intro hfl
      by_cases hr : r = o
      · subst hr
        simpa [Callback.step, Context.incAcked, Context.setReq] using hfl
      · simpa [Callback.step, Context.incAcked, Context.setReq, Function.update_of_ne hr] using hfl
  | flush f =>
    by_cases hfin : f = .finished
    · subst hfin
      refine (Frame.of_callback ht (by simp [Callback.flush?, Flush.object]) ?_ rfl rfl rfl id .inl ?_
        id).fired hs
      · simp [Callback.step, Callback.flush?]
      · simp only [Callback.step, Option.some.injEq]
        rintro x rfl - h
        cases h
    · have hstep : Callback.step s.ctx rc ⟨o, status, .flush f⟩ =
          ((f.step s.ctx rc).1, some ⟨o, status, .flush (f.step s.ctx rc).2⟩) := by
        cases f <;> first | rfl | exact absurd rfl hfin
      rw [hstep]
      suffices hflush : FlushStep s _ f (f.step s.ctx rc).1 (f.step s.ctx rc).2
          (s.otherFlushes ⟨o, status, .flush f⟩) from hflush.fired hfires hv hs
      refine ⟨?_, ?_, rfl, fun _ => le_rfl, ?_, rfl⟩
      · exact flushes_callback ht
      · exact flushes_callbacks (some ⟨o, status, .flush (f.step s.ctx rc).2⟩)
      · intro x hx hpc
        simp only [Option.toList_some, List.singleton_append, List.mem_cons] at hx
        rcases hx with rfl | hx
        · cases hpc
        · exact List.mem_of_mem_erase hx
  | lock =>
    have hlate : o = r → 1 ≤ (s.view r).late := by
      rintro rfl
      exact callback_late ht rfl
    by_cases hm : s.ctx.syncMutex = true
    · have hstep : Callback.step s.ctx rc ⟨o, status, .lock⟩ = (s.ctx, some ⟨o, status, .lock⟩) := by
        simp [Callback.step, hm]
      rw [hstep]
      refine (Frame.of_callback ht (by simp [Callback.flush?]) (by simp [Callback.flush?]) rfl rfl rfl id
        .inl ?_ id).fired hs
      rintro x hx - h
      cases hx
      cases h
    by_cases hfl : (s.ctx.req o).flushed = true
    · have hstep : Callback.step s.ctx rc ⟨o, status, .lock⟩ =
          ((s.ctx.setFlushed o false).clearCtx o, some ⟨o, status, .free⟩) := by
        simp [Callback.step, hm, hfl]
      have hsent : o = r → s.ctx.Sent r := by
        rintro rfl
        rcases hs.flushed hfl with h | ⟨f, hf, ho⟩
        · exact h
        · have h1 := Flush.le_view hf ho
          have h2 : s.jobs (Flush.refers o) = 0 := by simpa [hfl] using hfires
          have h3 := hlate rfl
          change 1 ≤ s.jobs (Flush.refers o) + _ at h1
          cases hv <;> simp only [View.total, View.lists, View.held] at * <;> omega
      rw [hstep]
      refine (Frame.of_callback (c := (s.ctx.setFlushed o false).clearCtx o) ht (by simp [Callback.flush?])
        (by simp [Callback.flush?]) rfl rfl ?_ id .inl ?_ ?_).fired hs
      · rw [Context.outs_clearCtx, Context.outs_setFlushed]
      · rintro x hx hxr -
        cases hx
        exact hsent hxr
      · intro h
        by_cases hr : r = o
        · subst hr
          simp [Context.clearCtx, Context.setFlushed, Context.setReq] at h
        · simpa [Context.clearCtx, Context.setFlushed, Context.setReq, Function.update_of_ne hr] using h
    · have hstep : Callback.step s.ctx rc ⟨o, status, .lock⟩ =
          ((s.ctx.applyReqToHw o).setMutex true, some ⟨o, status, .config⟩) := by
        simp [Callback.step, hm, hfl]
      have hlisted : o = r → s.ctx.Listed r := by
        rintro rfl
        have h3 := hlate rfl
        have hflush : (s.view o).flushed = 0 := by
          simpa [view, Context.view] using hfl
        have hcount : (s.view o).pending + (s.view o).tempPending = 1 := by
          cases hv <;> simp only [View.total, View.lists, View.held] at * <;> omega
        change s.ctx.pendingReqList.count o + s.ctx.tempPending.count o = 1 at hcount
        by_cases hp : o ∈ s.ctx.pendingReqList
        · exact .inl hp
        · rw [List.count_eq_zero_of_not_mem hp, Nat.zero_add] at hcount
          exact .inr (.inl (List.count_pos_iff.1 (by omega)))
      rw [hstep]
      refine (Frame.of_callback (c := (s.ctx.applyReqToHw o).setMutex true) ht (by simp [Callback.flush?])
        (by simp [Callback.flush?]) ?_ ?_ rfl ?_ (fun h => .inl (List.mem_of_mem_erase h)) ?_ id).fired hs
      · by_cases hr : r = o
        · subst hr
          simp [Context.sent, Context.applyReqToHw, Context.setStory, Context.setMutex, Context.listDel,
            Context.addActive]
        · simp [Context.sent, Context.applyReqToHw, Context.setStory, Context.setMutex, Context.listDel,
            Context.addActive, Function.update_of_ne hr]
      · by_cases hr : r = o
        · subst hr
          simp [Context.asked, Context.applyReqToHw, Context.setStory, Context.setMutex, Context.listDel,
            Context.addActive]
        · simp [Context.asked, Context.applyReqToHw, Context.setStory, Context.setMutex, Context.listDel,
            Context.addActive, Function.update_of_ne hr]
      · rintro (h | h | h | h)
        · exact .inl (List.mem_of_mem_erase h)
        · exact .inr (.inl (List.mem_of_mem_erase h))
        · rcases List.mem_append.1 h with h | h
          · exact .inr (.inr (.inl (List.mem_of_mem_erase h)))
          · exact hlisted (List.mem_singleton.1 h).symm
        · exact .inr (.inr (.inr (List.mem_of_mem_erase h)))
      · rintro x hx - h
        cases hx
        cases h
  | config =>
    refine (Frame.of_callback (o := none) ht (by simp [Callback.flush?]) (by simp) ?_ ?_ ?_ ?_ ?_ (by simp)
      ?_).fired hs
    all_goals simp only [Callback.step, Context.configReturned, Context.setMutex]
    all_goals split_ifs with hrc
    any_goals rfl
    any_goals exact id
    any_goals exact .inl
    · exact Context.Listed.of_listDel
    · intro h
      rcases List.mem_append.1 h with h | h
      · exact .inl (List.mem_of_mem_erase h)
      · obtain rfl := List.mem_singleton.1 h
        have hlist : s.ctx.Listed r := by
          have : r ∈ s.ctx.activeReqList ∨ r ∈ s.ctx.tempActive := by
            simpa [safe, Callback.safe, hrc] using hsafe
          exact this.elim (fun h => .inr (.inr (.inl h))) fun h => .inr (.inr (.inr h))
        have houts : s.ctx.outs r = [] := by simpa [hrc, Context.outs] using hfires
        obtain ⟨h1, h2⟩ := hs.listed hlist
        exact .inr (h1.trans (houts.symm.trans h2))
  | free =>
    refine (Frame.of_callback (c := (s.ctx.listDel o).addFree o) (o := none) ht (by simp [Callback.flush?])
      (by simp) rfl rfl rfl Context.Listed.of_listDel ?_ (by simp) id).fired hs
    intro h
    rcases List.mem_append.1 h with h | h
    · exact .inl (List.mem_of_mem_erase h)
    · exact .inr (hs.frees _ ht (List.mem_singleton.1 h).symm rfl)

/-! ### The ioctl thread -/

lemma Frame.of_ioctl {c : Context} {i : Ioctl} {ret : ℤ}
    (before : ∀ f, s.ioctl.flush? = some f → f.object = none)
    (after : ∀ f, i.flush? = some f → f.object = none)
    (sent : c.sent r = s.ctx.sent r) (asked : c.asked r = s.ctx.asked r) (outs : c.outs r = s.ctx.outs r)
    (prepared : 0 < i.prepares r → 0 < s.ioctl.prepares r ∨ s.ctx.Listed r)
    (listed : c.Listed r → s.ctx.Listed r)
    (free : r ∈ c.freeReqList → r ∈ s.ctx.freeReqList ∨ s.ctx.Sent r)
    (flushed : (c.req r).flushed = true → (s.ctx.req r).flushed = true) :
    Frame s ⟨c, i, s.callbacks, s.dones, ret⟩ r := by
  refine ⟨sent, asked, outs, prepared, listed, free, fun x hx _ _ => .inl hx,
    fun h => .inl (flushed h), ?_, ?_, fun d h _ => .inl h⟩
  · intro f hf ho
    rcases List.mem_append.1 hf with h | h
    · rw [before f (Option.mem_toList.1 h)] at ho
      cases ho
    · exact .inr ⟨f, List.mem_append_right _ h, ho⟩
  · intro f hf ho
    rcases List.mem_append.1 hf with h | h
    · rw [after f (Option.mem_toList.1 h)] at ho
      cases ho
    · exact .inl (List.mem_append_right _ h)

end System

lemma Phase.of_free {s : System} {r : ℕ} (hv : Phase (s.view r)) (hr : r ∈ s.ctx.freeReqList) :
    ¬ s.ctx.Listed r ∧ (∀ d ∈ s.dones, d.req ≠ r) ∧ (s.view r).frees = 0 ∧ (s.view r).holds = 0 := by
  have htotal := hv.total_le
  rw [View.total_eq] at htotal
  have hfree : 1 ≤ (s.view r).free := List.count_pos_iff.2 hr
  refine ⟨fun h => ?_, fun d hd ho => ?_, ?_⟩
  · have := h.le_view
    omega
  · have := Done.le_view hd ho
    omega
  · omega

namespace System
variable {s : System} {r : ℕ}

lemma frees_le_view {t : Callback} (ht : t ∈ s.callbacks) (hr : t.req = r) (hpc : t.pc = .free) :
    1 ≤ (s.view r).frees := by
  have := tally_le_of_mem (w := Callback.frees r) ht
  rwa [Callback.frees, hpc, hr, is_self] at this

lemma takeReq_fired (hv : Phase (s.view r)) (hs : s.Fired r) (hsafe : s.safe .takeReq = true) :
    s.takeReq.Fired r := by
  rw [takeReq]
  split
  · next hi _ =>
    exact (Frame.of_ioctl (c := s.ctx) (i := .idle) (by simp [hi, Ioctl.flush?]) (by simp [Ioctl.flush?]) rfl rfl
      rfl (by simp [Ioctl.prepares]) id .inl id).fired hs
  · next o l hi hl =>
    by_cases hr : o = r
    · subst hr
      have hmem : o ∈ s.ctx.freeReqList := by simp [hl]
      obtain ⟨hlist, hdone, hfrees, hholds⟩ := hv.of_free hmem
      have hrefers : s.jobs (Flush.refers o) = 0 := by simpa [safe, hl] using hsafe
      have hnone : ∀ f ∈ s.flushes, f.object ≠ some o := fun f hf ho => by
        have := Flush.le_view hf ho
        change 1 ≤ s.jobs (Flush.refers o) + (s.view o).holds at this
        omega
      have hflushes : ((s.setCtx (((s.ctx.listDel o).setReq o ⟨true, 0, [], [], 0, false⟩).setStory o
          .blank)).setIoctl (.prepare o)).flushes = s.flushes := by
        simp [System.flushes, setIoctl, setCtx, hi, Ioctl.flush?]
      refine ⟨?_, ?_, ?_, ?_, ?_, ?_, ?_, ?_⟩
      · simp [setIoctl, setCtx, Context.asked, Context.setStory, Story.blank]
      · intro _
        simp [setIoctl, setCtx, Context.sent, Context.setStory, Story.blank]
      · intro h
        exact absurd (Context.Listed.of_listDel h) hlist
      · intro _
        simp [setIoctl, setCtx, Context.Sent, Context.sent, Context.asked, Context.setStory, Story.blank]
      · intro x hx hxr hpc
        have := frees_le_view (s := s) hx hxr hpc
        omega
      · intro h
        simp [setIoctl, setCtx, Context.setStory, Context.setReq] at h
      · intro f hf ho
        rw [hflushes] at hf
        exact absurd ho (hnone f hf)
      · intro d hd ho
        exact absurd ho (hdone d hd)
    · refine (Frame.of_ioctl (c := ((s.ctx.listDel o).setReq o ⟨true, 0, [], [], 0, false⟩).setStory o .blank)
        (i := .prepare o) (by simp [hi, Ioctl.flush?]) (by simp [Ioctl.flush?]) ?_ ?_ ?_ ?_
        Context.Listed.of_listDel (fun h => .inl (List.mem_of_mem_erase h)) ?_).fired hs
      · simp [Context.sent, Context.setStory, Context.setReq, Context.listDel,
          Function.update_of_ne (Ne.symm hr)]
      · simp [Context.asked, Context.setStory, Context.setReq, Context.listDel,
          Function.update_of_ne (Ne.symm hr)]
      · simp [Context.outs, Context.setStory, Context.setReq, Context.listDel,
          Function.update_of_ne (Ne.symm hr)]
      · simp [Ioctl.prepares, is_of_ne hr]
      · simp [Context.setStory, Context.setReq, Context.listDel, Function.update_of_ne (Ne.symm hr)]
  · exact hs

lemma Frame.of_dispatch {c : Context} {l : List Callback} (hl : ∀ x ∈ l, x.pc = .enter)
    (sent : c.sent r = s.ctx.sent r) (asked : c.asked r = s.ctx.asked r) (outs : c.outs r = s.ctx.outs r)
    (listed : c.Listed r → s.ctx.Listed r)
    (free : r ∈ c.freeReqList → r ∈ s.ctx.freeReqList ∨ s.ctx.Sent r)
    (flushed : (c.req r).flushed = true → (s.ctx.req r).flushed = true) :
    Frame s { s with ctx := c, callbacks := l ++ s.callbacks } r := by
  have hnone : l.filterMap Callback.flush? = [] := by
    refine List.filterMap_eq_nil_iff.2 fun x hx => ?_
    rw [Callback.flush?, hl x hx]
  have hflushes : { s with ctx := c, callbacks := l ++ s.callbacks }.flushes = s.flushes := by
    rw [System.flushes, System.flushes, List.filterMap_append, hnone, List.nil_append]
  refine ⟨sent, asked, outs, .inl, listed, free, ?_, fun h => .inl (flushed h), ?_, ?_,
    fun _ hd _ => .inl hd⟩
  · intro x hx _ hpc
    rcases List.mem_append.1 hx with h | h
    · rw [hl x h] at hpc
      cases hpc
    · exact .inl h
  · intro f hf ho
    exact .inr ⟨f, hflushes ▸ hf, ho⟩
  · intro f hf ho
    exact .inl (hflushes ▸ hf)

lemma alone_of_prepares (hv : Phase (s.view r)) (hp : s.ioctl.prepares r = 1) :
    ¬ s.ctx.Listed r ∧ r ∉ s.ctx.freeReqList ∧ (∀ d ∈ s.dones, d.req ≠ r) ∧
      (∀ x ∈ s.callbacks, x.req = r → x.pc ≠ .free) ∧ (∀ f ∈ s.flushes, f.object ≠ some r) ∧
      (s.ctx.req r).flushed = false := by
  have hbusy := hv.busy_le
  have htotal := hv.total_le
  rw [View.total_eq] at htotal
  have hp' : (s.view r).prepares = 1 := hp
  refine ⟨fun h => ?_, fun h => ?_, fun d hd ho => ?_, fun x hx hxr hpc => ?_, fun f hf ho => ?_, ?_⟩
  · have := h.le_view
    omega
  · have : 1 ≤ (s.view r).free := List.count_pos_iff.2 h
    omega
  · have := Done.le_view hd ho
    omega
  · have := frees_le_view hx hxr hpc
    omega
  · have := Flush.le_view hf ho
    omega
  · have hfl : (s.view r).flushed = 0 := by
      have := (s.view r).total_eq
      cases hv <;> omega
    exact Bool.toNat_eq_zero.1 hfl

lemma prepared_fired {c : Context} {i : Ioctl} {ret : ℤ} (hv : Phase (s.view r))
    (hp : s.ioctl.prepares r = 1) (hi : i.flush? = none) (valid : ∀ x ∈ c.asked r, x ≠ -1)
    (sent : c.sent r = []) (listed : c.Listed r → c.outs r = c.asked r)
    (free : r ∈ c.freeReqList → r ∈ s.ctx.freeReqList ∨ c.Sent r)
    (flushed : (c.req r).flushed = (s.ctx.req r).flushed) :
    System.Fired ⟨c, i, s.callbacks, s.dones, ret⟩ r := by
  obtain ⟨-, hfree, hdone, hfrees, hflush, hfl⟩ := alone_of_prepares hv hp
  refine ⟨valid, fun _ => sent, fun h => ⟨sent, listed h⟩, fun h => (free h).resolve_left hfree,
    fun x hx hxr hpc => absurd hpc (hfrees x hx hxr), ?_, ?_, fun d hd ho => absurd ho (hdone d hd)⟩
  · intro h
    rw [flushed, hfl] at h
    cases h
  · intro f hf ho
    rcases List.mem_append.1 hf with h | h
    · rw [hi] at h
      cases h
    · exact absurd ho (hflush f (List.mem_append_right _ h))

lemma Packet.valid_of_refs {p : Packet} (h : ¬ p.outMapEntries.any (fun sync => p.syncGetObjRef sync ≠ 0) = true) :
    ∀ x ∈ p.outMapEntries, x ≠ -1 := by
  rintro x hx rfl
  refine h (List.any_eq_true.2 ⟨-1, hx, ?_⟩)
  simp [Packet.syncGetObjRef, Errno.EINVAL]

lemma fillReq_req_ne {c : Context} {o : ℕ} {p : Packet} (hr : o ≠ r) : (c.fillReq o p).req r = c.req r := by
  simp [Context.fillReq, Context.setReq, Function.update_of_ne (Ne.symm hr)]

lemma prepareUpdate_fired (p : Packet) (hv : Phase (s.view r)) (hs : s.Fired r) :
    (s.prepareUpdate p).Fired r := by
  rw [prepareUpdate]
  split
  swap
  · exact hs
  next o hi =>
  have hbefore : ∀ f, s.ioctl.flush? = some f → f.object = none := by simp [hi, Ioctl.flush?]
  have hp : o = r → s.ioctl.prepares r = 1 := by
    rintro rfl
    simp [hi, Ioctl.prepares]
  have hkept : 0 < (Ioctl.prepare o).prepares r → 0 < s.ioctl.prepares r ∨ s.ctx.Listed r := by
    rw [hi]
    exact .inl
  split_ifs with h1 h2 h3 h4 h5
  · exact (Frame.of_ioctl (c := s.ctx) (i := .freeReq o _) hbefore (by simp [Ioctl.flush?]) rfl rfl rfl hkept
      id .inl id).fired hs
  · exact (Frame.of_ioctl (c := s.ctx) (i := .freeReq o _) hbefore (by simp [Ioctl.flush?]) rfl rfl rfl hkept
      id .inl id).fired hs
  · exact (Frame.of_ioctl (c := { s.ctx with lastFlushReq := 0 }) (i := .freeReq o _) hbefore
      (by simp [Ioctl.flush?]) rfl rfl rfl hkept id .inl id).fired hs
  all_goals by_cases hr : o = r
  · subst hr
    obtain ⟨hlist, -⟩ := alone_of_prepares hv (hp rfl)
    exact prepared_fired (s := s) (c := s.ctx.fillReq o p) (i := .freeReq o _) hv (hp rfl) rfl hs.valid
      (hs.prepared (by rw [hp rfl]; exact one_pos)) (fun h => absurd h hlist) .inl
      (by simp [Context.fillReq, Context.setReq])
  · refine (Frame.of_ioctl (c := s.ctx.fillReq o p) (i := .freeReq o _) hbefore (by simp [Ioctl.flush?]) rfl
      rfl (congrArg CtxRequest.outMapEntries (fillReq_req_ne hr)) hkept id .inl fun h => ?_).fired hs
    rwa [fillReq_req_ne hr] at h
  · subst hr
    refine prepared_fired (s := s) (c := (s.ctx.submitReq o p).addPending o) (i := .checkValid o) hv (hp rfl)
      rfl ?_ ?_ (fun _ => ?_) .inl ?_
    · simpa [Context.asked, Context.addPending, Context.submitReq, Context.setStory] using
        Packet.valid_of_refs h4
    · simp [Context.sent, Context.addPending, Context.submitReq, Context.setStory]
    · simp [Context.outs, Context.asked, Context.addPending, Context.submitReq, Context.setStory,
        Context.fillReq, Context.setReq]
    · simp [Context.addPending, Context.submitReq, Context.setStory, Context.fillReq, Context.setReq]
  · refine (Frame.of_ioctl (c := (s.ctx.submitReq o p).addPending o) (i := .checkValid o) hbefore
      (by simp [Ioctl.flush?]) ?_ ?_ (congrArg CtxRequest.outMapEntries (fillReq_req_ne hr))
      (by simp [Ioctl.prepares]) ?_ .inl fun h => ?_).fired hs
    · simp [Context.sent, Context.addPending, Context.submitReq, Context.setStory, Context.fillReq,
        Context.setReq, Function.update_of_ne (Ne.symm hr)]
    · simp [Context.asked, Context.addPending, Context.submitReq, Context.setStory, Context.fillReq,
        Context.setReq, Function.update_of_ne (Ne.symm hr)]
    · rintro (h | h)
      · rcases List.mem_append.1 h with h | h
        · exact .inl h
        · exact absurd (List.mem_singleton.1 h).symm hr
      · exact .inr h
    · have := congrArg CtxRequest.flushed (fillReq_req_ne (c := s.ctx) (p := p) hr)
      exact this ▸ h
  · subst hr
    obtain ⟨hlist, -⟩ := alone_of_prepares hv (hp rfl)
    refine prepared_fired (s := s) (c := s.ctx.submitReq o p) (i := .idle) hv (hp rfl) rfl ?_ ?_
      (fun h => absurd h hlist) .inl ?_
    · simpa [Context.asked, Context.submitReq, Context.setStory] using Packet.valid_of_refs h4
    · simp [Context.sent, Context.submitReq, Context.setStory]
    · simp [Context.submitReq, Context.setStory, Context.fillReq, Context.setReq]
  · refine (Frame.of_ioctl (c := s.ctx.submitReq o p) (i := .idle) hbefore (by simp [Ioctl.flush?]) ?_ ?_
      (congrArg CtxRequest.outMapEntries (fillReq_req_ne hr)) (by simp [Ioctl.prepares]) id .inl
      fun h => ?_).fired hs
    · simp [Context.sent, Context.submitReq, Context.setStory, Context.fillReq, Context.setReq,
        Function.update_of_ne (Ne.symm hr)]
    · simp [Context.asked, Context.submitReq, Context.setStory, Context.fillReq, Context.setReq,
        Function.update_of_ne (Ne.symm hr)]
    · have := congrArg CtxRequest.flushed (fillReq_req_ne (c := s.ctx) (p := p) hr)
      exact this ▸ h

lemma registerCallback_fired (o : Registration) (hv : Phase (s.view r)) (hs : s.Fired r)
    (hsafe : s.safe (.registerCallback o) = true) : (s.registerCallback o).Fired r := by
  rw [registerCallback]
  split
  swap
  · exact hs
  next q j hi =>
  have hbefore : ∀ f, s.ioctl.flush? = some f → f.object = none := by simp [hi, Ioctl.flush?]
  have hnext : ∀ (t : System), t.ioctl = s.ioctl → t.Fired r → (t.registered q j).Fired r := by
    intro t ht h
    have hb : ∀ f, t.ioctl.flush? = some f → f.object = none := by simp [ht, hi, Ioctl.flush?]
    rw [registered]
    split_ifs
    · exact (Frame.of_ioctl (c := t.ctx) (i := .register q (j + 1)) hb (by simp [Ioctl.flush?]) rfl rfl rfl
        (by simp [Ioctl.prepares]) id .inl id).fired h
    · exact (Frame.of_ioctl (c := t.ctx) (i := .idle) hb (by simp [Ioctl.flush?]) rfl rfl rfl
        (by simp [Ioctl.prepares]) id .inl id).fired h
  cases hq : (s.ctx.req q).inMapEntries[j]? with
  | none =>
    exact (Frame.of_ioctl (c := s.ctx) (i := .idle) hbefore (by simp [Ioctl.flush?]) rfl rfl rfl
      (by simp [Ioctl.prepares]) id .inl id).fired hs
  | some sync =>
    cases o with
    | failed rc =>
      refine (Frame.of_ioctl (c := s.ctx.listDel q) (i := .freeReq q rc) hbefore (by simp [Ioctl.flush?]) rfl
        rfl rfl ?_ Context.Listed.of_listDel (fun h => .inl (List.mem_of_mem_erase h)) id).fired hs
      intro hp
      have hqr : q = r := by
        by_contra hne
        simp [Ioctl.prepares, is_of_ne hne] at hp
      subst hqr
      have hj : j < (s.ctx.req q).inMapEntries.length := (List.getElem?_eq_some_iff.1 hq).1
      obtain ⟨rfl, hfl⟩ : j = 0 ∧ (s.ctx.req q).flushed = false := by simpa [safe, hi] using hsafe
      have htodo : (s.view q).todo = (s.ctx.req q).inMapEntries.length := by
        simp [view, Context.view, hands, hi, Ioctl.todo]
      have hflushed : (s.view q).flushed = 0 := by simp [view, Context.view, hfl]
      have hcount : (s.view q).pending + (s.view q).tempPending = 1 := by
        cases hv <;> simp only [View.total, View.lists, View.held, View.tokens] at * <;> omega
      change s.ctx.pendingReqList.count q + s.ctx.tempPending.count q = 1 at hcount
      by_cases hpend : q ∈ s.ctx.pendingReqList
      · exact .inr (.inl hpend)
      · rw [List.count_eq_zero_of_not_mem hpend, Nat.zero_add] at hcount
        exact .inr (.inr (.inl (List.count_pos_iff.1 (by omega))))
    | kept =>
      refine hnext _ rfl ?_
      exact (Frame.of_ioctl (c := { s.ctx with registered := s.ctx.registered ++ [(sync, q)] }) (i := s.ioctl)
        hbefore hbefore rfl rfl rfl .inl id .inl id).fired hs
    | dispatched status =>
      refine hnext { s with callbacks := ⟨q, status, .enter⟩ :: s.callbacks } rfl ?_
      exact (Frame.of_dispatch (c := s.ctx) (l := [⟨q, status, .enter⟩]) (by simp) rfl rfl rfl id .inl id).fired hs

lemma freeReq_fired (hv : Phase (s.view r)) (hs : s.Fired r) : s.freeReq.Fired r := by
  rw [freeReq]
  split
  swap
  · exact hs
  next o rc hi =>
  by_cases hr : o = r
  · subst hr
    have hp : s.ioctl.prepares o = 1 := by simp [hi, Ioctl.prepares]
    obtain ⟨hlist, -⟩ := alone_of_prepares hv hp
    refine prepared_fired (s := s) (c := ((s.ctx.clearCtx o).addFree o).setStory o .blank) (i := .idle) hv hp
      rfl ?_ ?_ (fun h => absurd h hlist) (fun _ => .inr ?_) ?_
    · simp [Context.asked, Context.setStory, Story.blank]
    · simp [Context.sent, Context.setStory, Story.blank]
    · simp [Context.Sent, Context.sent, Context.asked, Context.setStory, Story.blank]
    · simp [Context.setStory, Context.addFree, Context.clearCtx, Context.setReq]
  · refine (Frame.of_ioctl (c := ((s.ctx.clearCtx o).addFree o).setStory o .blank) (i := .idle)
      (by simp [hi, Ioctl.flush?]) (by simp [Ioctl.flush?]) ?_ ?_ (Context.outs_clearCtx o)
      (by simp [Ioctl.prepares]) id ?_ ?_).fired hs
    · simp [Context.sent, Context.setStory, Context.addFree, Context.clearCtx, Context.setReq,
        Function.update_of_ne (Ne.symm hr)]
    · simp [Context.asked, Context.setStory, Context.addFree, Context.clearCtx, Context.setReq,
        Function.update_of_ne (Ne.symm hr)]
    · intro h
      rcases List.mem_append.1 h with h | h
      · exact .inl h
      · exact absurd (List.mem_singleton.1 h).symm hr
    · simp [Context.setStory, Context.addFree, Context.clearCtx, Context.setReq,
        Function.update_of_ne (Ne.symm hr)]

lemma FlushStep.of_ioctl {f g : Flush} {c : Context} {i : Ioctl} {ret : ℤ} (hi : s.ioctl.flush? = some f)
    (hg : i.flush? = some g) :
    FlushStep s ⟨c, i, s.callbacks, s.dones, ret⟩ f c g (s.callbacks.filterMap Callback.flush?) := by
  refine ⟨?_, ?_, rfl, fun r => ?_, fun _ hx _ => hx, rfl⟩
  · simp only [System.flushes, hi, Option.toList_some, List.singleton_append]
    exact .refl _
  · simp only [System.flushes, hg, Option.toList_some, List.singleton_append]
    exact .refl _
  · have : i.prepares r = 0 := by cases i <;> simp [Ioctl.flush?] at hg <;> rfl
    exact this.le.trans (Nat.zero_le _)

lemma flush_fired {rc : ℤ} (hv : Phase (s.view r)) (hs : s.Fired r)
    (hop : s.fires (.flush rc) = true) : (s.flush rc).Fired r := by
  obtain ⟨-, hstop⟩ := Bool.and_eq_true_iff.1 hop
  rw [flush]
  split
  · next hi =>
    exact (Frame.of_ioctl (c := s.ctx) (i := .idle) (by simp [hi, Ioctl.flush?, Flush.object])
      (by simp [Ioctl.flush?]) rfl rfl rfl (by simp [Ioctl.prepares]) id .inl id).fired hs
  · next f _ hi =>
    exact FlushStep.fired (FlushStep.of_ioctl (by rw [hi]; rfl) rfl) (by simpa [hi, Ioctl.flush?] using hstop)
      hv hs
  · next hi =>
    split
    · exact (Frame.of_ioctl (c := s.ctx.setMutex false) (i := .flushSplice)
        (by simp [hi, Ioctl.flush?, Flush.object]) (by simp [Ioctl.flush?]) rfl rfl rfl
        (by simp [Ioctl.prepares]) id .inl id).fired hs
    · next o l hl =>
      have hstep : FlushStep s ⟨(s.ctx.listDel o).setFlushed o true, .flushPending (.deregister o 0 false),
          s.callbacks, s.dones, s.ret⟩ .finished _ _ _ := FlushStep.of_ioctl (by rw [hi]; rfl) rfl
      exact (hstep.unlinkPending_frame rfl (.inr (.inl (by simp [hl]))) hs).fired hs
  · next f _ hi =>
    exact FlushStep.fired (FlushStep.of_ioctl (by rw [hi]; rfl) rfl) (by simpa [hi, Ioctl.flush?] using hstop)
      hv hs
  · next hi =>
    refine (Frame.of_ioctl (c := { s.ctx with tempActive := s.ctx.activeReqList, activeReqList := [] })
      (i := .flushActive .finished) (by simp [hi, Ioctl.flush?]) (by simp [Ioctl.flush?, Flush.object]) rfl rfl
      rfl (by simp [Ioctl.prepares]) ?_ .inl id).fired hs
    rintro (h | h | h | h)
    · exact .inl h
    · exact .inr (.inl h)
    · cases h
    · exact .inr (.inr (.inl h))
  · next hi =>
    split
    · exact (Frame.of_ioctl (c := s.ctx) (i := .idle) (by simp [hi, Ioctl.flush?, Flush.object])
        (by simp [Ioctl.flush?]) rfl rfl rfl (by simp [Ioctl.prepares]) id .inl id).fired hs
    · next o l hl =>
      have hstep : FlushStep s ⟨s.ctx.listDel o, .flushActive (.signal o 0 true), s.callbacks, s.dones,
          s.ret⟩ .finished _ _ _ := FlushStep.of_ioctl (by rw [hi]; rfl) rfl
      exact (hstep.unlinkActive_frame rfl (.inr (.inr (.inr (by simp [hl])))) hs).fired hs
  · next f _ hi =>
    exact FlushStep.fired (FlushStep.of_ioctl (by rw [hi]; rfl) rfl) (by simpa [hi, Ioctl.flush?] using hstop)
      hv hs
  · exact hs

lemma Frame.of_dones {c : Context} {l : List Done} (sent : c.sent r = s.ctx.sent r)
    (asked : c.asked r = s.ctx.asked r) (outs : c.outs r = s.ctx.outs r)
    (listed : c.Listed r → s.ctx.Listed r)
    (free : r ∈ c.freeReqList → r ∈ s.ctx.freeReqList ∨ s.ctx.Sent r)
    (flushed : (c.req r).flushed = true → (s.ctx.req r).flushed = true)
    (dones : ∀ d ∈ l, d.req = r → d ∈ s.dones ∨ d.Progress s.ctx) (ret : ℤ) :
    Frame s ⟨c, s.ioctl, s.callbacks, l, ret⟩ r :=
  ⟨sent, asked, outs, .inl, listed, free, fun _ hx _ _ => .inl hx, fun h => .inl (flushed h),
    fun f hf ho => .inr ⟨f, hf, ho⟩, fun _ hf _ => .inl hf, dones⟩

lemma bufDone_fired (id : ℕ) (bubble : Bool) (hs : s.Fired r) : (s.bufDone id bubble).Fired r := by
  have hret : ∀ ret, System.Fired ⟨s.ctx, s.ioctl, s.callbacks, s.dones, ret⟩ r := fun ret =>
    (Frame.of_dones rfl rfl rfl (fun h => h) .inl (fun h => h) (fun _ h _ => .inl h) ret).fired hs
  rw [bufDone]
  split
  · exact hret _
  · next o l hl =>
    split_ifs
    · exact hret _
    · exact hret _
    all_goals
      refine (Frame.of_dones (c := s.ctx.listDel o) rfl rfl rfl Context.Listed.of_listDel
        (fun h => .inl (List.mem_of_mem_erase h)) (fun h => h) (fun d hd ho => ?_) s.ret).fired hs
      rcases List.mem_cons.1 hd with rfl | hd
      · have hlist : s.ctx.Listed r := .inr (.inr (.inl (by rw [hl]; exact List.mem_cons.2 (.inl ho.symm))))
        obtain ⟨h1, h2⟩ := hs.listed hlist
        obtain rfl : o = r := ho
        exact .inr ⟨h1, by rw [List.drop_zero, List.drop_zero, h2], by rw [h2]⟩
      · exact .inl hd

lemma alone_of_done {d : Done} (hv : Phase (s.view r)) (hd : d ∈ s.dones) (ho : d.req = r) :
    ¬ s.ctx.Listed r ∧ r ∉ s.ctx.freeReqList ∧ s.ioctl.prepares r = 0 ∧
      (∀ x ∈ s.callbacks, x.req = r → x.pc ≠ .free) ∧ (∀ f ∈ s.flushes, f.object ≠ some r) ∧
      ∀ e ∈ s.dones.erase d, e.req ≠ r := by
  have hp : (s.view r).prepares = s.ioctl.prepares r := rfl
  have hle := Done.le_view hd ho
  have hbusy := hv.busy_le
  have htotal := hv.total_le
  rw [View.total_eq] at htotal
  refine ⟨fun h => ?_, fun h => ?_, ?_, fun x hx hxr hpc => ?_, fun f hf ho => ?_, fun e he heo => ?_⟩
  · have := h.le_view
    omega
  · have : 1 ≤ (s.view r).free := List.count_pos_iff.2 h
    omega
  · omega
  · have := frees_le_view hx hxr hpc
    omega
  · exact absurd ho (fun ho => (hv.of_flush hf ho).2.1 d hd (by assumption))
  · have hsum := tally_erase (fun x : Done => is r x.req) s.dones hd
    have hother := tally_le_of_mem (w := fun x : Done => is r x.req) he
    rw [ho, is_self] at hsum
    rw [heo, is_self] at hother
    have htwo : 2 ≤ (s.view r).dones := by
      change 2 ≤ tally _ _
      omega
    omega

lemma done_fired (d : Done) (hv : Phase (s.view r)) (hs : s.Fired r) : (s.done d).Fired r := by
  rw [done]
  split_ifs with hd
  swap
  · exact hs
  have hothers : ∀ e ∈ s.dones.erase d, e.req = r → e ∈ s.dones ∨ e.Progress s.ctx :=
    fun e he _ => .inl (List.mem_of_mem_erase he)
  split
  · next sync hsync =>
    by_cases hr : d.req = r
    · obtain ⟨hlist, hfree, hprep, hfrees, hflush, hdones⟩ := alone_of_done hv hd hr
      obtain ⟨hsent, hdrop, hlen⟩ := hs.dones d hd hr
      rw [hr] at hsync hsent hdrop hlen
      have hi : d.i < (s.ctx.outs r).length := (List.getElem?_eq_some_iff.1 hsync).1
      have hget : (s.ctx.asked r)[d.i]? = some sync := by
        have h0 := congrArg (fun l : List ℤ => l[0]?) hdrop
        simp only [List.getElem?_drop, Nat.add_zero] at h0
        exact h0.symm.trans hsync
      have hasked' : (s.ctx.doneSignal d sync).asked r = s.ctx.asked r := by
        simp [hr, Context.asked, Context.doneSignal, Context.setReq, Context.syncSignal, Context.setStory]
      have hsent' : (s.ctx.doneSignal d sync).sent r = (s.ctx.asked r).take (d.i + 1) := by
        rw [List.take_add_one, hget, Option.toList_some, ← hsent]
        simp [hr, Context.sent, Context.doneSignal, Context.setReq, Context.syncSignal, Context.setStory]
      have houts' : (s.ctx.doneSignal d sync).outs r = (s.ctx.outs r).set d.i (-1) := by
        simp [hr, Context.outs, Context.doneSignal, Context.setReq]
      refine ⟨?_, ?_, ?_, ?_, ?_, ?_, ?_, ?_⟩
      · rw [hasked']
        exact hs.valid
      · intro hp
        exact absurd hprep (Nat.pos_iff_ne_zero.1 hp)
      · intro h
        exact absurd h hlist
      · intro h
        exact absurd h hfree
      · intro x hx hxr hpc
        exact absurd hpc (hfrees x hx hxr)
      · intro h
        have hfl : (s.ctx.req r).flushed = true := by
          simpa [hr, Context.doneSignal, Context.setReq] using h
        rcases hs.flushed hfl with he | ⟨f, hf, ho⟩
        · have := congrArg List.length (hsent.symm.trans he)
          rw [List.length_take] at this
          omega
        · exact absurd ho (hflush f hf)
      · intro f hf ho
        exact absurd ho (hflush f hf)
      · intro e he heo
        rcases List.mem_cons.1 he with rfl | he
        · rw [Done.Progress, hr, hsent', houts', hasked']
          refine ⟨rfl, ?_, ?_⟩
          · have := congrArg (List.drop 1) hdrop
            rw [List.drop_set_of_lt (Nat.lt_succ_self _)]
            simpa [List.drop_drop, Nat.add_comm] using this
          · rw [List.length_set, hlen]
        · exact absurd heo (hdones e he)
    · refine (Frame.of_dones (c := s.ctx.doneSignal d sync) ?_ ?_ ?_ (fun h => h) .inl ?_ ?_ s.ret).fired hs
      · simp [Context.sent, Context.doneSignal, Context.setReq, Context.syncSignal, Context.setStory,
          Function.update_of_ne (Ne.symm hr)]
      · simp [Context.asked, Context.doneSignal, Context.setReq, Context.syncSignal, Context.setStory,
          Function.update_of_ne (Ne.symm hr)]
      · simp [Context.outs, Context.doneSignal, Context.setReq, Context.syncSignal, Context.setStory,
          Function.update_of_ne (Ne.symm hr)]
      · simp [Context.doneSignal, Context.setReq, Context.syncSignal, Context.setStory,
          Function.update_of_ne (Ne.symm hr)]
      · intro e he heo
        rcases List.mem_cons.1 he with rfl | he
        · exact absurd heo hr
        · exact hothers e he heo
  · next hnone =>
    refine (Frame.of_dones (c := (s.ctx.addFree d.req).clearCtx d.req) rfl rfl (Context.outs_clearCtx _)
      (fun h => h) ?_ ?_ hothers 0).fired hs
    · intro h
      rcases List.mem_append.1 h with h | h
      · exact .inl h
      · have hr := List.mem_singleton.1 h
        obtain ⟨hsent, -, hlen⟩ := hs.dones d hd hr.symm
        rw [← hr] at hsent hlen
        refine .inr (hsent.trans (List.take_of_length_le ?_))
        rw [← hlen]
        exact hr ▸ List.getElem?_eq_none_iff.1 hnone
    · intro h
      by_cases hr : r = d.req
      · subst hr
        simpa [Context.clearCtx, Context.addFree, Context.setReq] using h
      · simpa [Context.clearCtx, Context.addFree, Context.setReq, Function.update_of_ne hr] using h

/-! ### All steps -/

lemma step_fired {op : Op} (hv : Phase (s.view r)) (hs : s.Fired r) (hop : s.fires op = true) :
    (s.step op).Fired r := by
  have hsafe := (Bool.and_eq_true_iff.1 hop).1
  cases op with
  | takeReq => exact takeReq_fired hv hs hsafe
  | prepareUpdate p => exact prepareUpdate_fired p hv hs
  | checkValid rc =>
    have hrc : rc = 0 := by simpa [safe] using hsafe
    subst hrc
    simp only [step, checkValid]
    split
    · next o hi =>
      exact (Frame.of_ioctl (c := s.ctx) (i := .register o 0) (by simp [hi, Ioctl.flush?])
        (by simp [Ioctl.flush?]) rfl rfl rfl (by simp [Ioctl.prepares]) id .inl id).fired hs
    · exact hs
  | registerCallback o => exact registerCallback_fired o hv hs hsafe
  | freeReq => exact freeReq_fired hv hs
  | flushReq id =>
    simp only [step, flushReq]
    split
    · next hi =>
      exact (Frame.of_ioctl (c := s.ctx) (i := .flushReq (.pending id)) (by simp [hi, Ioctl.flush?])
        (by simp [Ioctl.flush?, Flush.object]) rfl rfl rfl (by simp [Ioctl.prepares]) (fun h => h) .inl
        (fun h => h)).fired hs
    · exact hs
  | flushCtx id =>
    simp only [step, flushCtx]
    split
    swap
    · exact hs
    next hi =>
    split_ifs
    · exact hs
    · refine (Frame.of_ioctl
        (c := { s.ctx with
          lastFlushReq := id.getD s.ctx.lastFlushReq
          syncMutex := true
          tempPending := s.ctx.pendingReqList
          pendingReqList := [] })
        (i := .flushPending .finished) (by simp [hi, Ioctl.flush?])
        (by simp [Ioctl.flush?, Flush.object]) rfl rfl rfl (by simp [Ioctl.prepares]) ?_ .inl
        (fun h => h)).fired hs
      rintro (h | h | h | h)
      · cases h
      · exact .inl h
      · exact .inr (.inr (.inl h))
      · exact .inr (.inr (.inr h))
  | flush rc => exact flush_fired hv hs hop
  | fence sync status =>
    refine (Frame.of_dispatch
      (c := { s.ctx with registered := s.ctx.registered.filter (fun x => x.1 ≠ sync) })
      (l := (s.ctx.registered.filter (fun x => x.1 = sync)).map (fun x => ⟨x.2, status, .enter⟩))
      ?_ rfl rfl rfl (fun h => h) .inl (fun h => h)).fired hs
    intro x hx
    obtain ⟨y, -, rfl⟩ := List.mem_map.1 hx
    rfl
  | callback t rc => exact callback_fired hv hs hop
  | bufDone id bubble => exact bufDone_fired id bubble hs
  | done d => exact done_fired d hv hs

lemma init_fired (reqSize : ℕ) (hwFlush : Bool) (r : ℕ) : (init reqSize hwFlush).Fired r := by
  refine ⟨?_, ?_, ?_, ?_, ?_, ?_, ?_, ?_⟩ <;>
    simp [init, Context.asked, Context.Listed, Context.Sent, Context.sent, Story.blank, System.flushes,
      Ioctl.flush?]

lemma exists_of_tally_pos {α : Type} {w : α → ℕ} {l : List α} (h : 1 ≤ tally w l) : ∃ a ∈ l, 1 ≤ w a := by
  induction l with
  | nil => simp at h
  | cons a l ih =>
    rw [tally_cons] at h
    by_cases ha : 1 ≤ w a
    · exact ⟨a, List.mem_cons_self, ha⟩
    · obtain ⟨b, hb, hw⟩ := ih (by omega)
      exact ⟨b, List.mem_cons_of_mem _ hb, hw⟩

lemma Fired.prefix_asked (hv : Phase (s.view r)) (hs : s.Fired r) : s.ctx.sent r <+: s.ctx.asked r := by
  have hnil : s.ctx.sent r = [] → s.ctx.sent r <+: s.ctx.asked r := fun h => h ▸ List.nil_prefix
  have hall : s.ctx.Sent r → s.ctx.sent r <+: s.ctx.asked r := fun h => h ▸ List.prefix_refl _
  have hjob : ∀ f ∈ s.flushes, f.object = some r → s.ctx.sent r <+: s.ctx.asked r := by
    intro f hf ho
    have hprog := hs.flushes f hf ho
    cases f with
    | deregister o i b | count o i b =>
      obtain rfl : o = r := by simpa [Flush.object] using ho
      exact hnil hprog.1
    | signal o i b =>
      obtain rfl : o = r := by simpa [Flush.object] using ho
      exact hprog.1 ▸ List.take_prefix _ _
    | free o =>
      obtain rfl : o = r := by simpa [Flush.object] using ho
      exact hall hprog
    | pending | active | finished => simp [Flush.object] at ho
  cases hv with
  | free h => exact hall (hs.free (List.count_pos_iff.1 (by change 1 ≤ (s.view r).free; omega)))
  | preparing h => exact hnil (hs.prepared (by change 1 ≤ (s.view r).prepares; omega))
  | waiting h =>
    refine hnil (hs.listed ?_).1
    by_cases hp : r ∈ s.ctx.pendingReqList
    · exact .inl hp
    · have h0 : (s.view r).pending = 0 := List.count_eq_zero_of_not_mem hp
      exact .inr (.inl (List.count_pos_iff.1 (by change 1 ≤ (s.view r).tempPending; omega)))
  | flushed _ _ _ hf =>
    have hfl : (s.ctx.req r).flushed = true := Bool.toNat_eq_one.1 hf
    rcases hs.flushed hfl with h | ⟨f, hf, ho⟩
    · exact hall h
    · exact hjob f hf ho
  | freeing h =>
    obtain ⟨t, ht, hw⟩ := exists_of_tally_pos (w := Callback.frees r) (l := s.callbacks)
      (by change 1 ≤ (s.view r).frees; omega)
    obtain ⟨o, status, pc⟩ := t
    cases pc <;> simp only [Callback.frees, nonpos_iff_eq_zero, one_ne_zero] at hw
    by_cases hr : o = r
    · exact hall (hs.frees _ ht hr rfl)
    · rw [is_of_ne hr] at hw
      omega
  | closed h =>
    by_cases hd : 1 ≤ (s.view r).dones
    · obtain ⟨d, hmem, hw⟩ := exists_of_tally_pos (w := fun d : Done => is r d.req) (l := s.dones) hd
      have hr : d.req = r := by
        by_contra hne
        rw [is_of_ne hne] at hw
        omega
      subst hr
      exact (hs.dones d hmem rfl).1 ▸ List.take_prefix _ _
    by_cases hh : 1 ≤ (s.view r).holds
    · change 1 ≤ s.jobs _ at hh
      rw [s.jobs_eq] at hh
      obtain ⟨f, hf, hw⟩ := exists_of_tally_pos hh
      refine hjob f hf ?_
      by_contra hne
      have : f.holds r = 0 := by
        cases f with
        | deregister o i b | count o i b | signal o i b =>
          cases b
          · rfl
          · exact is_of_ne fun he => hne (by rw [← he]; rfl)
        | free o => exact is_of_ne fun he => hne (by rw [← he]; rfl)
        | pending | active | finished => rfl
      omega
    · refine hnil (hs.listed ?_).1
      by_cases ha : r ∈ s.ctx.activeReqList
      · exact .inr (.inr (.inl ha))
      · have h0 : (s.view r).active = 0 := List.count_eq_zero_of_not_mem ha
        exact .inr (.inr (.inr (List.count_pos_iff.1 (by change 1 ≤ (s.view r).tempActive; omega))))

/-- Along every run of such steps each output fence of each request is signalled once before
its object is back on the free list. -/
theorem run_firedOnce (reqSize : ℕ) (hwFlush : Bool) (ops : List Op)
    (hfires : Transition.Guarded step (fun s op => s.fires op = true) (init reqSize hwFlush) ops) :
    (Transition.run step (init reqSize hwFlush) ops).FiredOnce reqSize := by
  have hstep : ∀ (s : System) (op : Op), (s.Inv reqSize ∧ ∀ r < reqSize, s.Fired r) → s.fires op = true →
      (s.step op).Inv reqSize ∧ ∀ r < reqSize, (s.step op).Fired r := by
    intro s op h hop
    exact ⟨step_inv h.1 (Bool.and_eq_true_iff.1 hop).1,
      fun r hr => step_fired (h.1.phase r hr) (h.2 r hr) hop⟩
  obtain ⟨hinv, hfired⟩ := Transition.run_invariant hstep
    ⟨init_inv reqSize hwFlush, fun r _ => init_fired reqSize hwFlush r⟩ hfires
  exact fun r hr => ⟨(hfired r hr).free, (hfired r hr).prefix_asked (hinv.phase r hr)⟩

/-- A request with one input and two output fences. -/
def twoOutputs : Packet := ⟨true, 1, 0, [5], [7, 8], [7, 8]⟩

def submitTwoOutputs : List Op :=
  [.takeReq, .prepareUpdate twoOutputs, .checkValid 0, .registerCallback (.dispatched .success),
    .callback ⟨0, .success, .enter⟩ 0, .callback ⟨0, .success, .ack⟩ 0, .callback ⟨0, .success, .lock⟩ 0]

theorem done_firedOnce :
    (Transition.run step (init 1 true)
      (submitTwoOutputs ++ [Op.callback ⟨0, .success, .config⟩ 0, .bufDone 1 false, .done ⟨0, 0, .success⟩,
        .done ⟨0, 1, .success⟩, .done ⟨0, 2, .success⟩])).FiredOnce 1 :=
  run_firedOnce 1 true _ (by decide +kernel)

/-- `hw_config` fails: the object goes back to the free list with no fence signalled. -/
theorem configFailed_notFired :
    ¬ (Transition.run step (init 1 true)
      (submitTwoOutputs ++ [Op.callback ⟨0, .success, .config⟩ (-Errno.EINVAL)])).FiredOnce 1 := by
  intro h
  have hsent := (h 0 one_pos).1
  revert hsent
  decide +kernel

end System

end CameraKernel.CtxUtils
