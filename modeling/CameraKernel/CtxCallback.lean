import CameraKernel.CtxUtils
import CameraKernel.WhileLoop

/-! What the input-fence callbacks of one request make of their statuses. The callbacks run
one after the other, as the work queue of the sync driver runs them, and nobody else works
on the context meanwhile. -/
namespace CameraKernel.CtxUtils
open WhileLoop

/-- What the functions called by a callback return: `cam_sync_signal` for output fence `i`,
and `hw_config`. -/
structure CallbackEnv where
  signalRc : ℕ → ℤ
  configRc : ℤ

def CallbackEnv.rc (env : CallbackEnv) : CallbackPc → ℤ
  | .flush (.signal _ i _) => env.signalRc i
  | .config => env.configRc
  | _ => 0

/-- One step of a callback that runs alone. -/
def aloneBody (env : CallbackEnv) (x : Context × Callback) : Context ⊕ (Context × Callback) :=
  match x.2.step x.1 (env.rc x.2.pc) with
  | (c, none) => .inl c
  | (c, some t) => .inr (c, t)

/-- The sync object takes the callback off its list before it is run. -/
def Context.dispatch (c : Context) (r : ℕ) (sync : ℤ) : Context :=
  { c with registered := c.registered.erase (sync, r) }

/-- The callbacks of an object are run in the order of the list. -/
inductive Delivered (env : CallbackEnv) (r : ℕ) : Context → List (ℤ × Signaled) → Context → Prop
  | nil (c : Context) : Delivered env r c [] c
  | cons {c c' c'' : Context} {sync : ℤ} {status : Signaled} {ds : List (ℤ × Signaled)}
    (h : Returns (aloneBody env) (c.dispatch r sync, ⟨r, status, .enter⟩) c')
    (hds : Delivered env r c' ds c'') : Delivered env r c ((sync, status) :: ds) c''

/-- A request as `cam_context_prepare_dev_to_hw` leaves it, and the deliveries of its
callbacks in some order. -/
structure Submitted (c : Context) (r : ℕ) (ds : List (ℤ × Signaled)) : Prop where
  pending : r ∈ c.pendingReqList
  ctx : (c.req r).ctx = true
  flushed : (c.req r).flushed = false
  acked : (c.req r).numInAcked = 0
  outs : ∀ x ∈ (c.req r).outMapEntries, x ≠ -1
  story : (c.story r).sent = [] ∧ (c.story r).configured = 0
  registered : ∀ sync, c.registered.count (sync, r) = (c.req r).inMapEntries.count sync
  mutex : c.syncMutex = false
  some_ : ds ≠ []
  deliveries : (ds.map Prod.fst).Perm (c.req r).inMapEntries

/-- The hardware is configured only after all fences succeeded; after an error each output
fence is signalled with an error and the object is free. -/
def ErrorsRespected (c c' : Context) (r : ℕ) (ds : List (ℤ × Signaled)) : Prop :=
  ((c'.story r).configured ≠ 0 → ∀ d ∈ ds, d.2 = .success) ∧
    ((∃ d ∈ ds, d.2 = .error) →
      (c'.story r).sent = (c.req r).outMapEntries.map (fun x => (x, Signaled.error)) ∧ r ∈ c'.freeReqList)

/-- No fence failed; or the one delivered last did, the request is the first pending one with
its id, and no output fence but the last was signalled before. -/
def ErrorIsLast (env : CallbackEnv) (c : Context) (r : ℕ) (ds : List (ℤ × Signaled)) : Prop :=
  (∀ d ∈ ds, d.2 = .success) ∨
    (ds.getLast?.map Prod.snd = some .error ∧ c.findReq c.pendingReqList (c.req r).requestId = some r ∧
      ∀ i, i + 1 < (c.req r).outMapEntries.length → env.signalRc i ≠ -Errno.EALREADY)

theorem Alone.run {env : CallbackEnv} {c c' : Context} {t : Callback} (h : Returns (aloneBody env) (c, t) c')
    (s : System) (rest : List Callback) :
    ∃ ops, Transition.run System.step { s with ctx := c, callbacks := t :: rest } ops =
      { s with ctx := c', callbacks := rest } := by
  obtain ⟨n, hn⟩ := h
  induction n generalizing c t with
  | zero => cases hn
  | succ n ih =>
    have hstep : System.step { s with ctx := c, callbacks := t :: rest } (.callback t (env.rc t.pc)) =
        { s with
          ctx := (t.step c (env.rc t.pc)).1
          callbacks := (t.step c (env.rc t.pc)).2.toList ++ rest } := by
      simp [System.step, System.callback]
    rw [WhileLoop.run, aloneBody] at hn
    cases ht : t.step c (env.rc t.pc) with
    | mk d o =>
      rw [ht] at hstep
      simp only [ht] at hn
      cases o with
      | none =>
        obtain rfl := Option.some.inj hn
        exact ⟨[.callback t (env.rc t.pc)], by simp [hstep]⟩
      | some t' =>
        obtain ⟨ops, hops⟩ := ih hn
        exact ⟨.callback t (env.rc t.pc) :: ops, by simpa [hstep] using hops⟩

section Callbacks
variable (env : CallbackEnv) {c : Context} {r : ℕ} (status : Signaled)

lemma aloneBody_enter (hctx : (c.req r).ctx = true) :
    aloneBody env (c, ⟨r, status, .enter⟩) = .inr (c, ⟨r, status, .ack⟩) := by
  simp [aloneBody, Callback.step, hctx]

lemma alone_notLast (hctx : (c.req r).ctx = true)
    (hn : (c.req r).numInAcked + 1 ≠ (c.req r).inMapEntries.length) :
    Returns (aloneBody env) (c, ⟨r, status, .enter⟩) (c.incAcked r) := by
  refine .of_step (aloneBody_enter env status hctx) (returns_of_break ?_)
  have hl : (c.incAcked r).allAcked r = false := by
    simpa [Context.allAcked, Context.incAcked, Context.setReq] using hn
  simp [aloneBody, Callback.step, hl]

lemma alone_last (hctx : (c.req r).ctx = true)
    (hn : (c.req r).numInAcked + 1 = (c.req r).inMapEntries.length) :
    Reaches (aloneBody env) (c, ⟨r, status, .enter⟩)
      (c.incAcked r, ⟨r, status, match status with
        | .error => .flush (.pending (c.req r).requestId)
        | .success => .lock⟩) := by
  refine .trans (.one (aloneBody_enter env status hctx)) (.one ?_)
  have hl : (c.incAcked r).allAcked r = true := by
    simpa [Context.allAcked, Context.incAcked, Context.setReq] using hn
  have hid : ((c.incAcked r).req r).requestId = (c.req r).requestId := by
    simp [Context.incAcked, Context.setReq]
  cases status <;> simp [aloneBody, Callback.step, hl, hid]

lemma alone_apply (hm : c.syncMutex = false) (hf : (c.req r).flushed = false) :
    ∃ c', Returns (aloneBody env) (c, ⟨r, status, .lock⟩) c' ∧
      (c'.story r).configured = (c.story r).configured + 1 := by
  refine ⟨_, .of_step (t := ((c.applyReqToHw r).setMutex true, ⟨r, status, .config⟩)) ?_
    (returns_of_break rfl), ?_⟩
  · simp [aloneBody, Callback.step, hm, hf]
  · simp only [Context.configReturned]
    split_ifs <;>
      simp [Context.setMutex, Context.addFree, Context.addActive, Context.listDel, Context.applyReqToHw,
        Context.setStory]

lemma alone_release (hm : c.syncMutex = false) (hf : (c.req r).flushed = true) :
    ∃ c', Returns (aloneBody env) (c, ⟨r, status, .lock⟩) c' ∧ c'.story = c.story ∧ r ∈ c'.freeReqList := by
  refine ⟨_, .of_step (t := ((c.setFlushed r false).clearCtx r, ⟨r, status, .free⟩)) ?_
    (returns_of_break rfl), ?_, ?_⟩
  · simp [aloneBody, Callback.step, hm, hf]
  · rfl
  · simp [Context.addFree]

/-! ### The flush of a failed request -/

/-- The steps of the flush of another object leave this one as it is. -/
structure Untouched (c c' : Context) (r : ℕ) : Prop where
  req : c'.req r = c.req r
  story : c'.story r = c.story r
  mutex : c'.syncMutex = c.syncMutex

lemma Untouched.trans {c c' c'' : Context} (h : Untouched c c' r) (h' : Untouched c' c'' r) :
    Untouched c c'' r :=
  ⟨h'.req.trans h.req, h'.story.trans h.story, h'.mutex.trans h.mutex⟩

lemma aloneBody_flush {f : Flush} (hf : f ≠ .finished) :
    aloneBody env (c, ⟨r, status, .flush f⟩) =
      .inr ((f.step c (env.rc (.flush f))).1, ⟨r, status, .flush (f.step c (env.rc (.flush f))).2⟩) := by
  cases f <;> first | rfl | exact absurd rfl hf

lemma Context.req_setReq_ne {o : ℕ} (q : CtxRequest) (hr : o ≠ r) : (c.setReq o q).req r = c.req r := by
  simp [Context.setReq, Function.update_of_ne (Ne.symm hr)]

lemma Untouched.setReq {o : ℕ} (q : CtxRequest) (hr : o ≠ r) : Untouched c (c.setReq o q) r :=
  ⟨Context.req_setReq_ne q hr, rfl, rfl⟩

lemma deregister_reaches {o : ℕ} (hr : o ≠ r) (t : ℕ) (i : ℕ) (b : Bool) :
    ∃ c' b', Reaches (aloneBody env) (c, ⟨t, status, .flush (.deregister o i b)⟩)
      (c', ⟨t, status, .flush (.signal o 0 b')⟩) ∧ Untouched c c' r := by
  induction hk : (c.req o).inMapEntries.length - i generalizing c i b with
  | zero =>
    have hnone : (c.req o).inMapEntries[i]? = none := List.getElem?_eq_none_iff.2 (by omega)
    refine ⟨c, b, .one ?_, ⟨rfl, rfl, rfl⟩⟩
    rw [aloneBody_flush env status (by simp)]
    simp [Flush.step, hnone]
  | succ k ih =>
    obtain ⟨sync, hsome⟩ : ∃ sync, (c.req o).inMapEntries[i]? = some sync :=
      ⟨_, List.getElem?_eq_getElem (by omega)⟩
    have hdrop : Untouched c (c.deregisterCallback o sync).1 r := ⟨rfl, rfl, rfl⟩
    by_cases hmem : (sync, o) ∈ c.registered
    · have hlen : (((c.deregisterCallback o sync).1.incAcked o).req o).inMapEntries.length - (i + 1) = k := by
        simp only [Context.deregisterCallback, Context.incAcked, Context.setReq, Function.update_self]
        omega
      obtain ⟨c', b', hreach, hun⟩ := ih (c := (c.deregisterCallback o sync).1.incAcked o) (i + 1)
        (b || ((c.deregisterCallback o sync).1.incAcked o).allAcked o) hlen
      refine ⟨c', b', .trans (.one (t := ((c.deregisterCallback o sync).1, ⟨t, status, .flush (.count o i b)⟩)) ?_)
        (.trans (.one ?_) hreach), hdrop.trans (.trans (.setReq _ hr) hun)⟩
      · rw [aloneBody_flush env status (by simp)]
        simp [Flush.step, hsome, Context.deregisterCallback, hmem]
      · rw [aloneBody_flush env status (by simp)]
        rfl
    · have hlen : ((c.deregisterCallback o sync).1.req o).inMapEntries.length - (i + 1) = k := by
        simp only [Context.deregisterCallback]
        omega
      obtain ⟨c', b', hreach, hun⟩ := ih (c := (c.deregisterCallback o sync).1) (i + 1) b hlen
      refine ⟨c', b', .trans (.one ?_) hreach, hdrop.trans hun⟩
      rw [aloneBody_flush env status (by simp)]
      simp [Flush.step, hsome, Context.deregisterCallback, hmem]

lemma signal_reaches {o : ℕ} (hr : o ≠ r) (t : ℕ) (i : ℕ) (b : Bool) :
    ∃ c', Reaches (aloneBody env) (c, ⟨t, status, .flush (.signal o i b)⟩)
      (c', ⟨t, status, .flush .finished⟩) ∧ Untouched c c' r := by
  have hafter : ∀ d : Context, ∃ c', Reaches (aloneBody env) (d, ⟨t, status, .flush (.afterSignals o b)⟩)
      (c', ⟨t, status, .flush .finished⟩) ∧ Untouched d c' r := by
    intro d
    cases b with
    | true =>
      have hun : Untouched d ((d.clearCtx o).addFree o) r := ⟨Context.req_setReq_ne _ hr, rfl, rfl⟩
      exact ⟨_, .one (aloneBody_flush env status (by simp [Flush.afterSignals])), hun⟩
    | false => exact ⟨d, .refl, ⟨rfl, rfl, rfl⟩⟩
  induction hk : (c.req o).outMapEntries.length - i generalizing c i with
  | zero =>
    have hnone : (c.req o).outMapEntries[i]? = none := List.getElem?_eq_none_iff.2 (by omega)
    obtain ⟨c', hreach, hun⟩ := hafter c
    refine ⟨c', .trans (.one ?_) hreach, hun⟩
    rw [aloneBody_flush env status (by simp)]
    simp [Flush.step, hnone]
  | succ k ih =>
    obtain ⟨sync, hsome⟩ : ∃ sync, (c.req o).outMapEntries[i]? = some sync :=
      ⟨_, List.getElem?_eq_getElem (by omega)⟩
    by_cases hne : sync = -1
    · obtain ⟨c', hreach, hun⟩ := ih (c := c) (i + 1) (by omega)
      refine ⟨c', .trans (.one ?_) hreach, hun⟩
      rw [aloneBody_flush env status (by simp)]
      simp [Flush.step, hsome, hne]
    have htold : Untouched c (c.syncSignal o sync .error) r :=
      ⟨rfl, by simp [Context.syncSignal, Context.setStory, Function.update_of_ne (Ne.symm hr)], rfl⟩
    by_cases hrc : env.signalRc i = -Errno.EALREADY
    · obtain ⟨c', hreach, hun⟩ := hafter (c.syncSignal o sync .error)
      refine ⟨c', .trans (.one ?_) hreach, htold.trans hun⟩
      rw [aloneBody_flush env status (by simp)]
      simp [Flush.step, hsome, hne, CallbackEnv.rc, hrc]
    · obtain ⟨c', hreach, hun⟩ := ih (c := c.syncSignal o sync .error) (i + 1) (by
        change (c.req o).outMapEntries.length - _ = _
        omega)
      refine ⟨c', .trans (.one ?_) hreach, htold.trans hun⟩
      rw [aloneBody_flush env status (by simp)]
      simp [Flush.step, hsome, hne, CallbackEnv.rc, hrc]

lemma deregister_reaches_self (hnone : ∀ sync, (sync, r) ∉ c.registered) (i : ℕ) :
    Reaches (aloneBody env) (c, ⟨r, status, .flush (.deregister r i false)⟩)
      (c, ⟨r, status, .flush (.signal r 0 false)⟩) := by
  induction hk : (c.req r).inMapEntries.length - i generalizing i with
  | zero =>
    have hend : (c.req r).inMapEntries[i]? = none := List.getElem?_eq_none_iff.2 (by omega)
    refine .one ?_
    rw [aloneBody_flush env status (by simp)]
    simp [Flush.step, hend]
  | succ k ih =>
    obtain ⟨sync, hsome⟩ : ∃ sync, (c.req r).inMapEntries[i]? = some sync :=
      ⟨_, List.getElem?_eq_getElem (by omega)⟩
    have hfilter : c.registered.filter (· ≠ (sync, r)) = c.registered := by
      refine List.filter_eq_self.2 fun x hx => ?_
      simpa using fun he : x = (sync, r) => hnone sync (he ▸ hx)
    refine .trans (.one ?_) (ih (i + 1) (by omega))
    rw [aloneBody_flush env status (by simp)]
    simp only [Flush.step, hsome, Context.deregisterCallback, hfilter]
    simp [hnone sync]

/-- The output fences from entry `i` on that the flush comes to. -/
def toldErrors (env : CallbackEnv) : ℕ → List ℤ → List ℤ
  | _, [] => []
  | i, x :: l => x :: if env.signalRc i = -Errno.EALREADY then [] else toldErrors env (i + 1) l

lemma toldErrors_eq_iff (i : ℕ) (l : List ℤ) :
    toldErrors env i l = l ↔ ∀ j, j + 1 < l.length → env.signalRc (i + j) ≠ -Errno.EALREADY := by
  induction l generalizing i with
  | nil => simp [toldErrors]
  | cons x l ih =>
    rw [toldErrors, List.cons.injEq]
    by_cases hrc : env.signalRc i = -Errno.EALREADY
    · rw [if_pos hrc]
      refine ⟨fun h => ?_, fun h => ⟨rfl, ?_⟩⟩
      · rintro j hj
        rw [← h.2, List.length_singleton] at hj
        omega
      · cases l with
        | nil => rfl
        | cons y l => exact absurd hrc (h 0 (by simp))
    · rw [if_neg hrc, ih]
      refine ⟨fun h j hj => ?_, fun h => ⟨rfl, fun j hj => ?_⟩⟩
      · cases j with
        | zero => exact hrc
        | succ j =>
          have := h.2 j (by simpa using hj)
          rwa [Nat.add_right_comm] at this
      · have := h (j + 1) (by simpa using hj)
        rwa [Nat.add_right_comm]

lemma signal_reaches_self {i : ℕ} {l : List ℤ} (hl : (c.req r).outMapEntries.drop i = l)
    (hne : ∀ x ∈ l, x ≠ -1) :
    ∃ c', Reaches (aloneBody env) (c, ⟨r, status, .flush (.signal r i false)⟩)
      (c', ⟨r, status, .flush .finished⟩) ∧ c'.req = c.req ∧ c'.syncMutex = c.syncMutex ∧
      (c'.story r).configured = (c.story r).configured ∧
      (c'.story r).sent = (c.story r).sent ++ (toldErrors env i l).map (fun x => (x, Signaled.error)) := by
  induction l generalizing c i with
  | nil =>
    have hnone : (c.req r).outMapEntries[i]? = none :=
      List.getElem?_eq_none_iff.2 (List.drop_eq_nil_iff.1 hl)
    refine ⟨c, .one ?_, rfl, rfl, rfl, by simp [toldErrors]⟩
    rw [aloneBody_flush env status (by simp)]
    simp [Flush.step, hnone, Flush.afterSignals]
  | cons x l ih =>
    have hsome : (c.req r).outMapEntries[i]? = some x := by
      have h0 := congrArg (fun k : List ℤ => k[0]?) hl
      simpa using h0
    have hnext : (c.req r).outMapEntries.drop (i + 1) = l := by
      have h1 := congrArg (List.drop 1) hl
      simpa [List.drop_drop, Nat.add_comm] using h1
    have hx : x ≠ -1 := hne x List.mem_cons_self
    by_cases hrc : env.signalRc i = -Errno.EALREADY
    · refine ⟨c.syncSignal r x .error, .one ?_, rfl, rfl, ?_, ?_⟩
      · rw [aloneBody_flush env status (by simp)]
        simp [Flush.step, hsome, hx, CallbackEnv.rc, hrc, Flush.afterSignals]
      · simp [Context.syncSignal, Context.setStory]
      · simp [Context.syncSignal, Context.setStory, toldErrors, hrc]
    · obtain ⟨c', hreach, hreq, hm, hconf, hsent⟩ := ih (c := c.syncSignal r x .error) (i := i + 1) hnext
        (fun y hy => hne y (List.mem_cons_of_mem _ hy))
      refine ⟨c', .trans (.one ?_) hreach, hreq, hm, hconf.trans ?_, hsent.trans ?_⟩
      · rw [aloneBody_flush env status (by simp)]
        simp [Flush.step, hsome, hx, CallbackEnv.rc, hrc]
      · simp [Context.syncSignal, Context.setStory]
      · simp [Context.syncSignal, Context.setStory, toldErrors, hrc]

lemma Context.findReq_of_requestId {c c' : Context} (h : ∀ q, (c'.req q).requestId = (c.req q).requestId)
    (l : List ℕ) (id : ℕ) : c'.findReq l id = c.findReq l id := by
  simp only [Context.findReq, h]

lemma lastError_flushed {id : ℕ} (hm : c.syncMutex = false) (hfind : c.findReq c.pendingReqList id = some r)
    (hnone : ∀ sync, (sync, r) ∉ c.registered) (houts : ∀ x ∈ (c.req r).outMapEntries, x ≠ -1) :
    ∃ c', Returns (aloneBody env) (c, ⟨r, status, .flush (.pending id)⟩) c' ∧
      (c'.story r).configured = (c.story r).configured ∧ r ∈ c'.freeReqList ∧
      (c'.story r).sent =
        (c.story r).sent ++ (toldErrors env 0 (c.req r).outMapEntries).map (fun x => (x, Signaled.error)) := by
  have hstart : aloneBody env (c, ⟨r, status, .flush (.pending id)⟩) =
      .inr ((c.listDel r).setFlushed r true, ⟨r, status, .flush (.deregister r 0 false)⟩) := by
    rw [aloneBody_flush env status (by simp)]
    simp [Flush.step, hm, hfind]
  have hreq : ((c.listDel r).setFlushed r true).req r = { c.req r with flushed := true } := by
    simp [Context.setFlushed, Context.setReq, Context.listDel]
  obtain ⟨d, hreach, hdreq, hdm, hconf, hsent⟩ := signal_reaches_self env status
    (c := (c.listDel r).setFlushed r true) (r := r) (i := 0) (l := (c.req r).outMapEntries) (by rw [hreq]; rfl)
    houts
  obtain ⟨c', hret, hstory, hfree⟩ := alone_release env status (c := d) (r := r)
    (hdm.trans hm) (by rw [hdreq, hreq])
  refine ⟨c', ?_, ?_, hfree, ?_⟩
  · refine .of_step hstart (Reaches.returns (deregister_reaches_self env status (by exact hnone) 0) (hreach.returns ?_))
    exact .of_step (t := (d, ⟨r, status, .lock⟩)) rfl hret
  · rw [hstory, hconf]
    rfl
  · rw [hstory, hsent]
    rfl

lemma lastError_applied {id o : ℕ} (hm : c.syncMutex = false) (hf : (c.req r).flushed = false)
    (hfind : c.findReq c.pendingReqList id = some o) (hr : o ≠ r) :
    ∃ c', Returns (aloneBody env) (c, ⟨r, status, .flush (.pending id)⟩) c' ∧
      (c'.story r).configured = (c.story r).configured + 1 := by
  have hstart : aloneBody env (c, ⟨r, status, .flush (.pending id)⟩) =
      .inr ((c.listDel o).setFlushed o true, ⟨r, status, .flush (.deregister o 0 false)⟩) := by
    rw [aloneBody_flush env status (by simp)]
    simp [Flush.step, hm, hfind]
  have hun : Untouched c ((c.listDel o).setFlushed o true) r :=
    ⟨Context.req_setReq_ne (c := c.listDel o) _ hr, rfl, rfl⟩
  obtain ⟨d, b, hreach, hun'⟩ := deregister_reaches env status hr r 0 false
  obtain ⟨e, hreach', hun''⟩ := signal_reaches env status (c := d) hr r 0 b
  have hall := hun.trans (hun'.trans hun'')
  obtain ⟨c', hret, hconf⟩ := alone_apply env status (c := e) (r := r)
    (hall.mutex.trans hm) (by rw [hall.req, hf])
  refine ⟨c', .of_step hstart (hreach.returns (hreach'.returns ?_)), by rw [hconf, hall.story]⟩
  exact .of_step (t := (e, ⟨r, status, .lock⟩)) rfl hret

end Callbacks

/-! ### All callbacks of a request -/

section Deliveries
variable {c : Context} {r : ℕ} {status : Signaled}

/-- A request some of whose callbacks have been delivered; those of `ds` are still to come. -/
structure Awaiting (c : Context) (r : ℕ) (ds : List (ℤ × Signaled)) : Prop where
  pending : r ∈ c.pendingReqList
  ctx : (c.req r).ctx = true
  flushed : (c.req r).flushed = false
  acked : (c.req r).numInAcked + ds.length = (c.req r).inMapEntries.length
  outs : ∀ x ∈ (c.req r).outMapEntries, x ≠ -1
  registered : ∀ sync, c.registered.count (sync, r) = (ds.map Prod.fst).count sync
  mutex : c.syncMutex = false

lemma Submitted.awaiting {ds : List (ℤ × Signaled)} (h : Submitted c r ds) : Awaiting c r ds := by
  refine ⟨h.pending, h.ctx, h.flushed, ?_, h.outs, fun sync => ?_, h.mutex⟩
  · rw [h.acked, Nat.zero_add, ← h.deliveries.length_eq, List.length_map]
  · rw [h.registered, h.deliveries.count_eq]

/-- What becomes of a request depends on the status delivered last. -/
structure Outcome (env : CallbackEnv) (c c' : Context) (r : ℕ) (last : Signaled) : Prop where
  success : last = .success → (c'.story r).configured = (c.story r).configured + 1
  other : last = .error → c.findReq c.pendingReqList (c.req r).requestId ≠ some r →
    (c'.story r).configured = (c.story r).configured + 1
  error : last = .error → c.findReq c.pendingReqList (c.req r).requestId = some r →
    (c'.story r).configured = (c.story r).configured ∧ r ∈ c'.freeReqList ∧
      (c'.story r).sent =
        (c.story r).sent ++ (toldErrors env 0 (c.req r).outMapEntries).map (fun x => (x, Signaled.error))

lemma Awaiting.last (env : CallbackEnv) {sync : ℤ} (h : Awaiting c r [(sync, status)]) :
    ∃ c', Returns (aloneBody env) (c.dispatch r sync, ⟨r, status, .enter⟩) c' ∧ Outcome env c c' r status := by
  have hreach := alone_last env status (c := c.dispatch r sync) (r := r) h.ctx h.acked
  have hreq : ((c.dispatch r sync).incAcked r).req r =
      { c.req r with numInAcked := (c.req r).numInAcked + 1 } := by
    simp [Context.dispatch, Context.incAcked, Context.setReq]
  have hfind : ((c.dispatch r sync).incAcked r).findReq c.pendingReqList (c.req r).requestId =
      c.findReq c.pendingReqList (c.req r).requestId := by
    refine Context.findReq_of_requestId (fun q => ?_) _ _
    by_cases hq : q = r
    · rw [hq, hreq]
    · rw [Context.incAcked, Context.req_setReq_ne _ (Ne.symm hq)]
      rfl
  have hnone : ∀ x, (x, r) ∉ (c.dispatch r sync).registered := by
    intro x hx
    have hcount := List.count_pos_iff.2 hx
    have hreg := h.registered x
    simp only [List.map_cons, List.map_nil, List.count_singleton] at hreg
    by_cases hxs : sync = x
    · subst hxs
      simp only [Context.dispatch, List.count_erase_self, beq_self_eq_true, if_true] at hcount hreg
      omega
    · have hpair : (x, r) ≠ (sync, r) := fun he => hxs (congrArg Prod.fst he).symm
      simp only [Context.dispatch, List.count_erase_of_ne hpair] at hcount
      simp [hxs] at hreg
      omega
  cases status with
  | success =>
    obtain ⟨c', hret, hconf⟩ := alone_apply env .success (c := (c.dispatch r sync).incAcked r) (r := r)
      h.mutex (by rw [hreq]; exact h.flushed)
    exact ⟨c', hreach.returns hret, fun _ => hconf, nofun, nofun⟩
  | error =>
    by_cases hself : c.findReq c.pendingReqList (c.req r).requestId = some r
    · obtain ⟨c', hret, hconf, hfree, hsent⟩ := lastError_flushed env .error
        (c := (c.dispatch r sync).incAcked r) (r := r) h.mutex (hfind.trans hself) hnone
        (by rw [hreq]; exact h.outs)
      rw [hreq] at hsent
      exact ⟨c', hreach.returns hret, nofun, fun _ hne => absurd hself hne, fun _ _ => ⟨hconf, hfree, hsent⟩⟩
    · obtain ⟨o, ho⟩ : ∃ o, c.findReq c.pendingReqList (c.req r).requestId = some o := by
        refine Option.isSome_iff_exists.1 (List.find?_isSome.2 ⟨r, h.pending, ?_⟩)
        exact beq_self_eq_true _
      have hne : o ≠ r := fun he => hself (he ▸ ho)
      obtain ⟨c', hret, hconf⟩ := lastError_applied env .error
        (c := (c.dispatch r sync).incAcked r) (r := r) h.mutex (by rw [hreq]; exact h.flushed)
        (hfind.trans ho) hne
      exact ⟨c', hreach.returns hret, nofun, fun _ _ => hconf, fun _ he => absurd he hself⟩

lemma Awaiting.next (env : CallbackEnv) {sync : ℤ} {ds : List (ℤ × Signaled)} (h : Awaiting c r ((sync, status) :: ds))
    (hds : ds ≠ []) :
    Returns (aloneBody env) (c.dispatch r sync, ⟨r, status, .enter⟩) ((c.dispatch r sync).incAcked r) ∧
      Awaiting ((c.dispatch r sync).incAcked r) r ds := by
  have hlen : 1 ≤ ds.length := List.length_pos_iff.2 hds
  have hacked := h.acked
  rw [List.length_cons] at hacked
  have hreq : ((c.dispatch r sync).incAcked r).req r =
      { c.req r with numInAcked := (c.req r).numInAcked + 1 } := by
    simp [Context.dispatch, Context.incAcked, Context.setReq]
  refine ⟨alone_notLast env status h.ctx ?_, h.pending, ?_, ?_, ?_, ?_, ?_, h.mutex⟩
  · change (c.req r).numInAcked + 1 ≠ (c.req r).inMapEntries.length
    omega
  · rw [hreq]
    exact h.ctx
  · rw [hreq]
    exact h.flushed
  · rw [hreq]
    change (c.req r).numInAcked + 1 + ds.length = (c.req r).inMapEntries.length
    omega
  · rw [hreq]
    exact h.outs
  · intro x
    have hreg := h.registered x
    rw [List.map_cons, List.count_cons] at hreg
    change (c.registered.erase (sync, r)).count (x, r) = _
    by_cases hxs : sync = x
    · subst hxs
      rw [beq_self_eq_true, if_pos rfl] at hreg
      rw [List.count_erase_self]
      omega
    · have hpair : (x, r) ≠ (sync, r) := fun he => hxs (congrArg Prod.fst he).symm
      rw [List.count_erase_of_ne hpair, hreg]
      simp [hxs]

lemma Outcome.of_acked {env : CallbackEnv} {sync : ℤ} {c' : Context} (h : Outcome env ((c.dispatch r sync).incAcked r) c' r status) :
    Outcome env c c' r status := by
  have hreq : ((c.dispatch r sync).incAcked r).req r =
      { c.req r with numInAcked := (c.req r).numInAcked + 1 } := by
    simp [Context.dispatch, Context.incAcked, Context.setReq]
  have hfind : ((c.dispatch r sync).incAcked r).findReq c.pendingReqList (c.req r).requestId =
      c.findReq c.pendingReqList (c.req r).requestId := by
    refine Context.findReq_of_requestId (fun q => ?_) _ _
    by_cases hq : q = r
    · rw [hq, hreq]
    · rw [Context.incAcked, Context.req_setReq_ne _ (Ne.symm hq)]
      rfl
  obtain ⟨h1, h2, h3⟩ := h
  rw [hreq] at h2 h3
  exact ⟨h1, fun he hne => h2 he (fun hs => hne (hfind.symm.trans hs)),
    fun he hs => h3 he (hfind.trans hs)⟩

lemma Awaiting.delivered (env : CallbackEnv) {ds : List (ℤ × Signaled)} (h : Awaiting c r ds) (hds : ds ≠ []) :
    ∃ c', Delivered env r c ds c' ∧ Outcome env c c' r (ds.getLast hds).2 := by
  induction ds generalizing c with
  | nil => exact absurd rfl hds
  | cons d ds ih =>
    obtain ⟨sync, status⟩ := d
    by_cases hnil : ds = []
    · subst hnil
      obtain ⟨c', hret, hout⟩ := h.last env
      exact ⟨c', .cons hret (.nil c'), hout⟩
    · obtain ⟨hret, hnext⟩ := h.next env hnil
      obtain ⟨c', hdel, hout⟩ := ih hnext hnil
      refine ⟨c', .cons hret hdel, ?_⟩
      rw [List.getLast_cons hnil]
      exact hout.of_acked

lemma Delivered.unique {env : CallbackEnv} {ds : List (ℤ × Signaled)} {c₁ c₂ : Context} (h₁ : Delivered env r c ds c₁)
    (h₂ : Delivered env r c ds c₂) : c₁ = c₂ := by
  induction h₁ with
  | nil => cases h₂; rfl
  | cons h _ ih =>
    cases h₂ with
    | cons h' hds =>
      obtain rfl := h.unique h'
      exact ih hds

/-- The callbacks of a submitted request always return, and they respect its failed fences
exactly if no fence failed or `ErrorIsLast` holds for the one that did. -/
theorem delivered_errorsRespected_iff (env : CallbackEnv) (c : Context) (r : ℕ) (ds : List (ℤ × Signaled))
    (h : Submitted c r ds) :
    (∃ c', Delivered env r c ds c') ∧
      ∀ c', Delivered env r c ds c' → (ErrorsRespected c c' r ds ↔ ErrorIsLast env c r ds) := by
  obtain ⟨d, hdel, hout⟩ := h.awaiting.delivered env h.some_
  refine ⟨⟨d, hdel⟩, fun c' hc' => ?_⟩
  obtain rfl := hdel.unique hc'
  have hlast : ds.getLast?.map Prod.snd = some (ds.getLast h.some_).2 := by
    rw [List.getLast?_eq_some_getLast h.some_]
    rfl
  have hmem := List.getLast_mem h.some_
  rw [ErrorIsLast, hlast, Option.some.injEq]
  cases hst : (ds.getLast h.some_).2 with
  | success =>
    have hconf := hout.success hst
    rw [h.story.2] at hconf
    refine ⟨fun hr => .inl (hr.1 (by omega)), fun hr => ?_⟩
    have hall := hr.resolve_right (fun he => by cases he.1)
    exact ⟨fun _ => hall, fun ⟨x, hx, he⟩ => by rw [hall x hx] at he; cases he⟩
  | error =>
    have hsome : ∃ x ∈ ds, x.2 = Signaled.error := ⟨_, hmem, hst⟩
    have hnotall : ¬ ∀ x ∈ ds, x.2 = Signaled.success := fun hall => by
      rw [hall _ hmem] at hst
      cases hst
    by_cases hself : c.findReq c.pendingReqList (c.req r).requestId = some r
    · obtain ⟨hconf, hfree, hsent⟩ := hout.error hst hself
      have hinj : Function.Injective (fun x : ℤ => (x, Signaled.error)) := fun x y he => congrArg Prod.fst he
      have htold : (d.story r).sent = (c.req r).outMapEntries.map (fun x => (x, Signaled.error)) ↔
          ∀ i, i + 1 < (c.req r).outMapEntries.length → env.signalRc i ≠ -Errno.EALREADY := by
        rw [hsent, h.story.1, List.nil_append, (List.map_injective_iff.2 hinj).eq_iff, toldErrors_eq_iff]
        simp only [Nat.zero_add]
      rw [h.story.2] at hconf
      refine ⟨fun hr => .inr ⟨rfl, hself, htold.1 (hr.2 hsome).1⟩, fun hr => ?_⟩
      obtain ⟨-, -, hrc⟩ := hr.resolve_left hnotall
      exact ⟨fun hne => absurd hconf hne, fun _ => ⟨htold.2 hrc, hfree⟩⟩
    · have hconf := hout.other hst hself
      rw [h.story.2] at hconf
      refine ⟨fun hr => absurd (hr.1 (by omega)) hnotall, fun hr => ?_⟩
      exact absurd (hr.resolve_left hnotall).2.1 hself

end Deliveries

/-- A request with two input fences, alone on the pending list. -/
def twoInputs : Context where
  req := fun _ => ⟨true, 1, [5, 6], [7], 0, false⟩
  freeReqList := []
  pendingReqList := [0]
  activeReqList := []
  tempPending := []
  tempActive := []
  lastFlushReq := 0
  hwFlush := true
  syncMutex := false
  registered := [(5, 0), (6, 0)]
  story := fun _ => ⟨[7], [], 0⟩

lemma twoInputs_registered (sync : ℤ) : twoInputs.registered.count (sync, 0) = [5, 6].count sync := by
  simp [twoInputs, List.count_cons, Prod.ext_iff]

theorem errorSecond_respected :
    (∃ c', Delivered ⟨fun _ => 0, 0⟩ 0 twoInputs [(5, .success), (6, .error)] c') ∧
      ∀ c', Delivered ⟨fun _ => 0, 0⟩ 0 twoInputs [(5, .success), (6, .error)] c' →
        (ErrorsRespected twoInputs c' 0 [(5, .success), (6, .error)] ↔
          ErrorIsLast ⟨fun _ => 0, 0⟩ twoInputs 0 [(5, .success), (6, .error)]) :=
  delivered_errorsRespected_iff _ _ _ _ ⟨by decide, rfl, rfl, rfl, by decide, ⟨rfl, rfl⟩,
    twoInputs_registered, rfl, by decide, by decide⟩

/-- The failed fence first: the second callback sends the request to the hardware. -/
theorem errorFirst_configured :
    ∃ c', Delivered ⟨fun _ => 0, 0⟩ 0 twoInputs [(5, .error), (6, .success)] c' ∧
      ¬ ErrorsRespected twoInputs c' 0 [(5, .error), (6, .success)] := by
  have hwait : Awaiting twoInputs 0 [(5, .error), (6, .success)] :=
    ⟨by decide, rfl, rfl, rfl, by decide, twoInputs_registered, rfl⟩
  obtain ⟨c', hdel, hout⟩ := hwait.delivered ⟨fun _ => 0, 0⟩ (by decide)
  refine ⟨c', hdel, fun h => ?_⟩
  have hconf := hout.success rfl
  have hall := h.1 (by rw [hconf]; exact Nat.succ_ne_zero _) (5, .error) (by decide)
  cases hall

end CameraKernel.CtxUtils
