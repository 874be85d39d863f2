import CameraKernel.CtxUtils

/-! A fence-driven context looked at from one request object. `View` counts what the lists
and the threads have of the object, a step of a flush or of a callback changes these counts
in one of a few ways (`Move`), and each of them leads from one `Phase` of the object's life
to the next. -/
namespace CameraKernel.CtxUtils

/-- `1` if the two names are of one object. -/
def is (r o : ℕ) : ℕ := if o = r then 1 else 0

@[simp] lemma is_self (r : ℕ) : is r r = 1 := if_pos rfl

lemma is_of_ne {r o : ℕ} (h : o ≠ r) : is r o = 0 := if_neg h

@[simp] lemma count_singleton_is (r o : ℕ) : [o].count r = is r o := by
  by_cases h : o = r <;> simp [is, h]

lemma count_erase_is (l : List ℕ) (r o : ℕ) : (l.erase o).count r = l.count r - is r o := by
  by_cases h : o = r
  · subst h
    simp
  · rw [is_of_ne h, List.count_erase_of_ne (Ne.symm h), Nat.sub_zero]

namespace Flush

/-- The flush has the object in hand and will put it on the free list. -/
def holds (r : ℕ) : Flush → ℕ
  | .deregister o _ true => is r o
  | .count o _ true => is r o
  | .signal o _ true => is r o
  | .free o => is r o
  | _ => 0

/-- The flush works on the object and leaves it to its last callback. -/
def refers (r : ℕ) : Flush → ℕ
  | .deregister o _ false => is r o
  | .count o _ false => is r o
  | .signal o _ false => is r o
  | _ => 0

/-- A deregistered callback that is not yet counted. -/
def counting (r : ℕ) : Flush → ℕ
  | .count o _ _ => is r o
  | _ => 0

end Flush

namespace Callback

def early (r : ℕ) (t : Callback) : ℕ :=
  match t.pc with
  | .enter => is r t.req
  | .ack => is r t.req
  | _ => 0

/-- The callback has brought the count to the number of input fences. -/
def late (r : ℕ) (t : Callback) : ℕ :=
  match t.pc with
  | .flush _ => is r t.req
  | .lock => is r t.req
  | _ => 0

def frees (r : ℕ) (t : Callback) : ℕ :=
  match t.pc with
  | .free => is r t.req
  | _ => 0

def job (w : Flush → ℕ) (t : Callback) : ℕ :=
  match t.pc with
  | .flush f => w f
  | _ => 0

end Callback

namespace Ioctl

def prepares (r : ℕ) : Ioctl → ℕ
  | .prepare o => is r o
  | .freeReq o _ => is r o
  | _ => 0

/-- Callbacks that are still to be registered. -/
def todo (r n : ℕ) : Ioctl → ℕ
  | .checkValid o => is r o * n
  | .register o j => is r o * (n - j)
  | _ => 0

def job (w : Flush → ℕ) : Ioctl → ℕ
  | .flushReq f => w f
  | .flushPending f => w f
  | .flushActive f => w f
  | _ => 0

end Ioctl

/-- The sum of a weight over the threads of a kind. -/
def tally {α : Type} (w : α → ℕ) (l : List α) : ℕ := (l.map w).sum

section Tally
variable {α : Type} (w : α → ℕ) (l : List α)

@[simp] lemma tally_nil : tally w [] = 0 := rfl

@[simp] lemma tally_cons (a : α) : tally w (a :: l) = w a + tally w l := by simp [tally]

@[simp] lemma tally_append (k : List α) : tally w (k ++ l) = tally w k + tally w l := by
  simp [tally]

lemma tally_erase [DecidableEq α] {a : α} (h : a ∈ l) : w a + tally w (l.erase a) = tally w l := by
  have := ((List.perm_cons_erase h).map w).sum_eq
  simpa [tally] using this.symm

end Tally

/-! ### One object -/

/-- What the threads have of one object. -/
@[ext] structure Hands where
  prepares : ℕ
  todo : ℕ
  early : ℕ
  counting : ℕ
  late : ℕ
  frees : ℕ
  dones : ℕ
  holds : ℕ
  refers : ℕ

/-- One more flush. -/
def Hands.withJob (h : Hands) (r : ℕ) (f : Flush) : Hands :=
  { h with
    counting := h.counting + f.counting r
    holds := h.holds + f.holds r
    refers := h.refers + f.refers r }

/-- The object as the threads and the lists see it, with the fields that decide its way.
`kept` counts its callbacks on fences that are not yet signalled. -/
@[ext] structure View extends Hands where
  free : ℕ
  pending : ℕ
  active : ℕ
  tempPending : ℕ
  tempActive : ℕ
  kept : ℕ
  n : ℕ
  acked : ℕ
  flushed : ℕ
  ctx : ℕ

def Context.view (c : Context) (r : ℕ) (h : Hands) : View where
  toHands := h
  free := c.freeReqList.count r
  pending := c.pendingReqList.count r
  active := c.activeReqList.count r
  tempPending := c.tempPending.count r
  tempActive := c.tempActive.count r
  kept := tally (fun x => is r x.2) c.registered
  n := (c.req r).inMapEntries.length
  acked := (c.req r).numInAcked
  flushed := (c.req r).flushed.toNat
  ctx := (c.req r).ctx.toNat

namespace System

/-- What the flushes in progress have of an object. -/
def jobs (s : System) (w : Flush → ℕ) : ℕ := tally (Callback.job w) s.callbacks + s.ioctl.job w

def hands (s : System) (r : ℕ) : Hands where
  prepares := s.ioctl.prepares r
  todo := s.ioctl.todo r (s.ctx.req r).inMapEntries.length
  early := tally (Callback.early r) s.callbacks
  counting := s.jobs (Flush.counting r)
  late := tally (Callback.late r) s.callbacks
  frees := tally (Callback.frees r) s.callbacks
  dones := tally (fun d => is r d.req) s.dones
  holds := s.jobs (Flush.holds r)
  refers := s.jobs (Flush.refers r)

def view (s : System) (r : ℕ) : View := s.ctx.view r (s.hands r)

end System

namespace View

/-- On which of the lists. -/
def lists (v : View) : ℕ := v.free + v.pending + v.active + v.tempPending + v.tempActive

/-- Held by an operation that will put it on a list. -/
def held (v : View) : ℕ := v.prepares + v.frees + v.dones + v.holds

/-- Flushed, and left to a callback that is still to come or has not finished. -/
def awaits (v : View) : ℕ := if v.flushed = 1 ∧ (v.acked < v.n ∨ 0 < v.late) then 1 else 0

lemma awaits_spec (v : View) :
    (v.awaits = 1 ∧ v.flushed = 1 ∧ (v.acked < v.n ∨ 0 < v.late)) ∨
      (v.awaits = 0 ∧ ¬ (v.flushed = 1 ∧ (v.acked < v.n ∨ 0 < v.late))) := by
  by_cases h : v.flushed = 1 ∧ (v.acked < v.n ∨ 0 < v.late)
  · exact .inl ⟨if_pos h, h⟩
  · exact .inr ⟨if_neg h, h⟩

/-- Callbacks that are not yet counted. -/
def tokens (v : View) : ℕ := v.todo + v.kept + v.early + v.counting

/-- The lists the object is on and the operations that hold it. -/
def total (v : View) : ℕ := v.lists + v.held

lemma total_eq (v : View) : v.total = v.free + v.pending + v.active + v.tempPending + v.tempActive +
    (v.prepares + v.frees + v.dones + v.holds) := rfl

/-- The object taken off every list. -/
def unlink (v : View) : View :=
  { v with
    free := v.free - 1
    pending := v.pending - 1
    active := v.active - 1
    tempPending := v.tempPending - 1
    tempActive := v.tempActive - 1 }

lemma unlink_eq (v : View) (h : v.total ≤ 1) :
    v.unlink =
      { v with free := 0, pending := 0, active := 0, tempPending := 0, tempActive := 0 } := by
  rw [total_eq] at h
  simp only [unlink]
  congr 1 <;> omega

end View

/-- What one step can do to one object. -/
inductive Move (v w : View) : Prop
  | stay (hw : w = v)
  | take (h : 1 ≤ v.free) (hr : v.refers = 0) (ht : v.todo = 0) (hp : v.prepares = 0)
    (hw : w = { v.unlink with prepares := 1, n := 0, acked := 0, flushed := 0, ctx := 1 })
  | fill (n : ℕ) (h : v.prepares = 1) (hw : w = { v with n := n, acked := 0 })
  | submit (n : ℕ) (h : v.prepares = 1) (hn : 1 ≤ n)
    (hw : w = { v with prepares := 0, n := n, acked := 0, pending := v.pending + 1, todo := n })
  | keep (h : 1 ≤ v.todo) (hw : w = { v with todo := v.todo - 1, kept := v.kept + 1 })
  | dispatch (h : 1 ≤ v.todo) (hw : w = { v with todo := v.todo - 1, early := v.early + 1 })
  | refuse (h : v.todo = v.n) (hn : 1 ≤ v.n) (hp : v.prepares = 0) (hf : v.flushed = 0)
    (hw : w = { v.unlink with todo := 0, prepares := 1 })
  | refused (h : v.prepares = 1) (hw : w = { v with prepares := 0, free := v.free + 1, ctx := 0 })
  | splicePending (h : v.tempPending = 0) (hw : w = { v with tempPending := v.pending, pending := 0 })
  | spliceActive (h : v.tempActive = 0) (hw : w = { v with tempActive := v.active, active := 0 })
  | fire (k : ℕ) (h : k ≤ v.kept) (hw : w = { v with kept := v.kept - k, early := v.early + k })
  | drop (h : 1 ≤ v.early) (hc : v.ctx = 0) (hw : w = { v with early := v.early - 1 })
  | ack (h : 1 ≤ v.early) (hn : v.acked + 1 ≠ v.n)
    (hw : w = { v with early := v.early - 1, acked := v.acked + 1 })
  | ackLast (h : 1 ≤ v.early) (hn : v.acked + 1 = v.n)
    (hw : w = { v with early := v.early - 1, acked := v.acked + 1, late := v.late + 1 })
  | flushPending (h : 1 ≤ v.pending + v.tempPending)
    (hw : w = { v.unlink with flushed := 1, refers := v.refers + 1 })
  | flushActive (h : 1 ≤ v.active + v.tempActive) (hw : w = { v.unlink with holds := v.holds + 1 })
  | deregister (h : 1 ≤ v.kept) (hj : 1 ≤ v.refers + v.holds)
    (hw : w = { v with kept := v.kept - 1, counting := v.counting + 1 })
  | counted (h : 1 ≤ v.counting) (hn : v.acked + 1 ≠ v.n ∨ 1 ≤ v.holds) (hj : 1 ≤ v.refers + v.holds)
    (hw : w = { v with counting := v.counting - 1, acked := v.acked + 1 })
  | countedLast (h : 1 ≤ v.counting) (hn : v.acked + 1 = v.n) (hj : 1 ≤ v.refers)
    (hw : w = { v with
      counting := v.counting - 1
      acked := v.acked + 1
      refers := v.refers - 1
      holds := v.holds + 1 })
  | leave (h : 1 ≤ v.refers) (hw : w = { v with refers := v.refers - 1 })
  | free (h : 1 ≤ v.holds) (hw : w = { v with holds := v.holds - 1, free := v.free + 1, ctx := 0 })
  | release (h : 1 ≤ v.late) (hf : v.flushed = 1)
    (hw : w = { v with late := v.late - 1, frees := v.frees + 1, flushed := 0, ctx := 0 })
  | apply (h : 1 ≤ v.late) (hf : v.flushed = 0)
    (hw : w = { v.unlink with late := v.late - 1, active := v.active - 1 + 1 })
  | configFailed (h : 1 ≤ v.active + v.tempActive) (hw : w = { v.unlink with free := v.free - 1 + 1 })
  | freed (h : 1 ≤ v.frees) (hw : w = { v.unlink with frees := v.frees - 1, free := v.free - 1 + 1 })
  | bufDone (h : 1 ≤ v.active) (hw : w = { v.unlink with dones := v.dones + 1 })
  | done (h : 1 ≤ v.dones) (hw : w = { v with dones := v.dones - 1, free := v.free + 1, ctx := 0 })

/-- The life of an object. In `waiting` and `flushed` it is owed the callbacks that are not
yet counted, and has a `late` one once all are. -/
inductive Phase (v : View) : Prop
  | free (h : v.free = 1) (ht : v.total = 1) (hk : v.tokens = 0) (hl : v.late = 0)
    (hf : v.flushed = 1 → v.n ≤ v.acked) (hr : v.refers ≤ 1)
  | preparing (h : v.prepares = 1) (ht : v.total = 1) (hk : v.tokens = 0) (hl : v.late = 0)
    (hf : v.flushed = 0) (hr : v.refers = 0) (hc : v.ctx = 1)
  | waiting (h : v.pending + v.tempPending = 1) (ht : v.total = 1) (hk : v.acked + v.tokens = v.n)
    (hl : v.late ≤ 1 ∧ (v.late = 1 ↔ v.acked = v.n)) (hf : v.flushed = 0) (hr : v.refers = 0)
    (hc : v.ctx = 1)
  | flushed (ht : v.total = 0) (hk : v.acked + v.tokens = v.n)
    (hl : v.late ≤ 1 ∧ (v.late = 1 ↔ v.acked = v.n)) (hf : v.flushed = 1) (hr : v.refers ≤ 1)
    (hc : v.ctx = 1)
  | freeing (h : v.frees = 1) (ht : v.total = 1) (hk : v.tokens = 0) (hl : v.late = 0)
    (hf : v.flushed = 0) (hr : v.refers ≤ 1)
  | closed (h : v.active + v.tempActive + v.dones + v.holds = 1) (ht : v.total = 1)
    (hk : v.tokens = 0) (hl : v.late = 0) (hf : v.acked = v.n) (hr : v.refers = 0)

/-- The view with the callbacks put together that are not yet counted, and with them the two ends of
a spliced list. -/
def View.shape (v : View) : View :=
  { v with
    todo := 0
    kept := v.tokens
    early := 0
    counting := 0
    pending := v.pending + v.tempPending
    tempPending := 0
    active := v.active + v.tempActive
    tempActive := 0 }

lemma View.total_shape (v : View) : v.shape.total = v.total := by
  simp only [View.shape, View.total, View.lists, View.held]
  omega

lemma View.tokens_shape (v : View) : v.shape.tokens = v.tokens := by
  simp [View.shape, View.tokens]

lemma Phase.congr {v w : View} (hv : Phase v) (hs : w.shape = v.shape) : Phase w := by
  have htotal : w.total = v.total := by rw [← w.total_shape, hs, v.total_shape]
  have htokens : w.tokens = v.tokens := by rw [← w.tokens_shape, hs, v.tokens_shape]
  simp only [View.shape, View.mk.injEq, Hands.mk.injEq] at hs
  cases hv
  case free => apply Phase.free <;> omega
  case preparing => apply Phase.preparing <;> omega
  case waiting => apply Phase.waiting <;> omega
  case flushed => apply Phase.flushed <;> omega
  case freeing => apply Phase.freeing <;> omega
  case closed => apply Phase.closed <;> omega

lemma Phase.total_le {v : View} (hv : Phase v) : v.total ≤ 1 := by
  cases hv <;> omega

lemma Phase.busy_le {v : View} (hv : Phase v) :
    v.prepares + v.pending + v.tempPending + v.active + v.tempActive + v.dones +
      (v.refers + v.holds) ≤ 1 := by
  have := v.total_eq
  cases hv <;> omega

theorem Move.phase {v w : View} (hm : Move v w) (hv : Phase v) : Phase w := by
  have hunlink := v.unlink_eq hv.total_le
  have htotal := v.total_eq
  have htokens : v.tokens = v.todo + v.kept + v.early + v.counting := rfl
  cases hm
  case stay hw => exact hw ▸ hv
  case splicePending hw | spliceActive hw | keep hw | dispatch hw | fire hw | deregister hw =>
    refine hv.congr ?_
    subst hw
    simp only [View.shape, View.tokens]
    congr 1
    omega
  all_goals
    rename_i hw
    try rw [hunlink] at hw
    subst hw
    cases hv
  -- a move needs the object where it takes it from; what is left are the ways of its life
  all_goals try omega
  case take.free | fill.preparing | refuse.waiting =>
    apply Phase.preparing <;>
      dsimp only [View.total, View.lists, View.held, View.tokens] <;> first | assumption | omega
  case submit.preparing | ack.waiting | ackLast.waiting =>
    apply Phase.waiting <;>
      dsimp only [View.total, View.lists, View.held, View.tokens] <;> first | assumption | omega
  case flushPending.waiting | ack.flushed | ackLast.flushed | counted.flushed | leave.flushed =>
    apply Phase.flushed <;>
      dsimp only [View.total, View.lists, View.held, View.tokens] <;> first | assumption | omega
  case release.flushed | leave.freeing =>
    apply Phase.freeing <;>
      dsimp only [View.total, View.lists, View.held, View.tokens] <;> first | assumption | omega
  case apply.waiting | countedLast.flushed | flushActive.closed | bufDone.closed =>
    apply Phase.closed <;>
      dsimp only [View.total, View.lists, View.held, View.tokens] <;> first | assumption | omega
  all_goals
    apply Phase.free <;>
      dsimp only [View.total, View.lists, View.held, View.tokens] <;> first | assumption | omega

lemma Phase.place {v : View} (hv : Phase v) : v.total + v.awaits = 1 := by
  have := v.awaits_spec
  cases hv <;> omega

/-! ### The steps as moves -/

section Primitives
variable (c : Context) (r o : ℕ) (h : Hands)

lemma Context.view_setReq_ne (q : CtxRequest) (hne : o ≠ r) : (c.setReq o q).view r h = c.view r h := by
  simp [Context.view, Context.setReq, Function.update_of_ne (Ne.symm hne)]

lemma Context.view_setReq_self (q : CtxRequest) :
    (c.setReq r q).view r h =
      { c.view r h with
        n := q.inMapEntries.length
        acked := q.numInAcked
        flushed := q.flushed.toNat
        ctx := q.ctx.toNat } := by
  simp [Context.view, Context.setReq]

@[simp] lemma Context.view_setStory (x : Story) : (c.setStory o x).view r h = c.view r h := rfl

@[simp] lemma Context.view_setMutex (b : Bool) : (c.setMutex b).view r h = c.view r h := rfl

lemma Context.view_listDel_ne (hne : o ≠ r) : (c.listDel o).view r h = c.view r h := by
  simp [Context.view, Context.listDel, count_erase_is, is_of_ne hne]

lemma Context.view_listDel_self : (c.listDel r).view r h = (c.view r h).unlink := by
  simp [Context.view, Context.listDel, View.unlink]

lemma Context.view_addFree :
    (c.addFree o).view r h = { c.view r h with free := c.freeReqList.count r + is r o } := by
  simp [Context.view, Context.addFree]

lemma Context.view_addActive :
    (c.addActive o).view r h = { c.view r h with active := c.activeReqList.count r + is r o } := by
  simp [Context.view, Context.addActive]

lemma Context.view_addPending :
    (c.addPending o).view r h = { c.view r h with pending := c.pendingReqList.count r + is r o } := by
  simp [Context.view, Context.addPending]

end Primitives

/-- A deregistration finds at most one callback of the object on a fence. -/
def Flush.safe (c : Context) : Flush → Bool
  | .deregister r i _ =>
    match (c.req r).inMapEntries[i]? with
    | some sync => c.registered.count (sync, r) ≤ 1
    | none => true
  | _ => true

lemma tally_filter_ne (l : List (ℤ × ℕ)) (sync : ℤ) (r o : ℕ) :
    tally (fun x => is r x.2) (l.filter (· ≠ (sync, o))) + is r o * l.count (sync, o) =
      tally (fun x => is r x.2) l := by
  induction l with
  | nil => simp
  | cons x l ih =>
    by_cases h : x = (sync, o)
    · subst h
      simp only [ne_eq, not_true_eq_false, decide_false, Bool.false_eq_true, not_false_eq_true,
        List.filter_cons_of_neg, List.count_cons_self, tally_cons] at ih ⊢
      rw [Nat.mul_add, Nat.mul_one]
      omega
    · simp only [ne_eq, h, not_false_eq_true, decide_true, List.filter_cons_of_pos,
        List.count_cons_of_ne, tally_cons] at ih ⊢
      omega

lemma Hands.withJob_congr (h : Hands) (r : ℕ) {f g : Flush} (hc : f.counting r = g.counting r)
    (hh : f.holds r = g.holds r) (hr : f.refers r = g.refers r) : h.withJob r f = h.withJob r g := by
  simp only [Hands.withJob, hc, hh, hr]

lemma Flush.afterSignals_move (c : Context) (r o i : ℕ) (freeReq : Bool) (h : Hands) :
    Move (c.view r (h.withJob r (.signal o i freeReq)))
      (c.view r (h.withJob r (.afterSignals o freeReq))) := by
  cases freeReq with
  | true => exact .stay (congrArg (c.view r) (h.withJob_congr r rfl rfl rfl))
  | false =>
    by_cases hr : o = r
    · subst hr
      refine .leave ?_ ?_ <;>
        simp [Context.view, Hands.withJob, Flush.afterSignals, Flush.counting, Flush.holds, Flush.refers]
    · refine .stay (congrArg (c.view r) (h.withJob_congr r rfl rfl ?_))
      simp [Flush.afterSignals, Flush.refers, is_of_ne hr]

lemma Flush.unlinkPending_move (c : Context) {r o : ℕ} (id : ℕ) (h : Hands)
    (ho : 1 ≤ c.pendingReqList.count o + c.tempPending.count o) :
    Move (c.view r (h.withJob r (.pending id)))
      (((c.listDel o).setFlushed o true).view r (h.withJob r (.deregister o 0 false))) := by
  by_cases hr : o = r
  · subst hr
    refine .flushPending ho ?_
    rw [Context.setFlushed, Context.view_setReq_self, Context.view_listDel_self]
    simp [Context.view, Context.listDel, View.unlink, Hands.withJob, Flush.counting, Flush.holds,
      Flush.refers]
  · refine .stay ?_
    rw [Context.setFlushed, Context.view_setReq_ne _ _ _ _ _ hr, Context.view_listDel_ne _ _ _ _ hr]
    exact congrArg (c.view r) (h.withJob_congr r rfl rfl (is_of_ne hr))

lemma Flush.unlinkActive_move (c : Context) {r o : ℕ} (id : ℕ) (h : Hands)
    (ho : 1 ≤ c.activeReqList.count o + c.tempActive.count o) :
    Move (c.view r (h.withJob r (.active id))) ((c.listDel o).view r (h.withJob r (.signal o 0 true))) := by
  by_cases hr : o = r
  · subst hr
    refine .flushActive ho ?_
    rw [Context.view_listDel_self]
    simp [Context.view, View.unlink, Hands.withJob, Flush.counting, Flush.holds, Flush.refers]
  · refine .stay ?_
    rw [Context.view_listDel_ne _ _ _ _ hr]
    exact congrArg (c.view r) (h.withJob_congr r rfl (is_of_ne hr) rfl)

lemma Flush.one_le_job (o i : ℕ) (freeReq : Bool) :
    1 ≤ (Flush.deregister o i freeReq).refers o + (Flush.deregister o i freeReq).holds o := by
  cases freeReq <;> simp [Flush.refers, Flush.holds]

lemma Context.view_deregister (c : Context) (r o : ℕ) (sync : ℤ) (h : Hands) :
    (c.deregisterCallback o sync).1.view r h = { c.view r h with
      kept := tally (fun x => is r x.2) (c.registered.filter (· ≠ (sync, o))) } := rfl

lemma Hands.withJob_count (h : Hands) (r o i : ℕ) (freeReq : Bool) :
    h.withJob r (.count o i freeReq) = { h.withJob r (.deregister o i freeReq) with
      counting := (h.withJob r (.deregister o i freeReq)).counting + is r o } := by
  cases freeReq <;> rfl

lemma Flush.deregister_move (c : Context) (r o i : ℕ) (sync : ℤ) (freeReq : Bool) (h : Hands)
    (ho : c.registered.count (sync, o) = 1) :
    Move (c.view r (h.withJob r (.deregister o i freeReq)))
      ((c.deregisterCallback o sync).1.view r (h.withJob r (.count o i freeReq))) := by
  have hk := tally_filter_ne c.registered sync r o
  by_cases hr : o = r
  · subst hr
    rw [ho, is_self] at hk
    refine .deregister ?_ ?_ ?_
    · change 1 ≤ tally _ _
      omega
    · have := Flush.one_le_job o i freeReq
      change 1 ≤ (h.refers + _) + (h.holds + _)
      omega
    · rw [c.view_deregister, h.withJob_count, is_self, Nat.eq_sub_of_add_eq hk]
      rfl
  · rw [is_of_ne hr, Nat.zero_mul, Nat.add_zero] at hk
    refine .stay ?_
    rw [c.view_deregister, h.withJob_count, is_of_ne hr, hk]
    rfl

lemma Context.view_incAcked_self (c : Context) (r : ℕ) (h : Hands) :
    (c.incAcked r).view r h = { c.view r h with acked := (c.req r).numInAcked + 1 } := by
  rw [Context.incAcked, Context.view_setReq_self]
  rfl

lemma Context.allAcked_incAcked (c : Context) (r : ℕ) :
    (c.incAcked r).allAcked r = true ↔ (c.req r).numInAcked + 1 = (c.req r).inMapEntries.length := by
  simp [Context.allAcked, Context.incAcked, Context.setReq]

lemma Flush.count_move (c : Context) (r o i : ℕ) (freeReq : Bool) (h : Hands) :
    Move (c.view r (h.withJob r (.count o i freeReq)))
      ((c.incAcked o).view r
        (h.withJob r (.deregister o (i + 1) (freeReq || (c.incAcked o).allAcked o)))) := by
  by_cases hr : o = r
  · subst hr
    rw [Context.view_incAcked_self]
    cases hl : (c.incAcked o).allAcked o with
    | false =>
      have hn : (c.req o).numInAcked + 1 ≠ (c.req o).inMapEntries.length := by
        intro he
        rw [(Context.allAcked_incAcked c o).2 he] at hl
        cases hl
      refine .counted ?_ (.inl hn) ?_ ?_ <;> cases freeReq <;>
        simp [Context.view, Hands.withJob, Flush.counting, Flush.holds, Flush.refers] <;> omega
    | true =>
      have hn := (Context.allAcked_incAcked c o).1 hl
      cases freeReq with
      | false =>
        refine .countedLast ?_ hn ?_ ?_ <;>
          simp [Context.view, Hands.withJob, Flush.counting, Flush.holds, Flush.refers]
      | true =>
        refine .counted ?_ (.inr ?_) ?_ ?_ <;>
          simp [Context.view, Hands.withJob, Flush.counting, Flush.holds, Flush.refers]
        omega
  · refine .stay ?_
    generalize (freeReq || (c.incAcked o).allAcked o) = b
    rw [Context.incAcked, Context.view_setReq_ne _ _ _ _ _ hr]
    refine congrArg (c.view r) (h.withJob_congr r ?_ ?_ ?_)
    all_goals
      cases freeReq <;> cases b <;> simp [Flush.counting, Flush.holds, Flush.refers, is_of_ne hr]

lemma Context.view_clearCtx_addFree (c : Context) (r : ℕ) (h : Hands) :
    ((c.clearCtx r).addFree r).view r h =
      { c.view r h with free := c.freeReqList.count r + 1, ctx := 0 } := by
  rw [Context.view_addFree, Context.clearCtx, Context.view_setReq_self]
  simp [Context.view, Context.setReq]

lemma Flush.free_move (c : Context) (r o : ℕ) (h : Hands) :
    Move (c.view r (h.withJob r (.free o)))
      (((c.clearCtx o).addFree o).view r (h.withJob r .finished)) := by
  by_cases hr : o = r
  · subst hr
    refine .free ?_ ?_
    · simp [Context.view, Hands.withJob, Flush.holds]
    · rw [Context.view_clearCtx_addFree]
      simp [Context.view, Hands.withJob, Flush.counting, Flush.holds, Flush.refers]
  · refine .stay ?_
    rw [Context.view_addFree, Context.clearCtx, Context.view_setReq_ne _ _ _ _ _ hr]
    simp [Context.view, Context.setReq, Hands.withJob, Flush.counting, Flush.holds, Flush.refers,
      is_of_ne hr]

lemma Flush.step_move (c : Context) (rc : ℤ) (f : Flush) (hs : f.safe c = true) (r : ℕ) (h : Hands) :
    Move (c.view r (h.withJob r f)) ((f.step c rc).1.view r (h.withJob r (f.step c rc).2)) := by
  cases f with
  | pending id =>
    by_cases hm : c.syncMutex = true
    · simp only [Flush.step, hm, if_true]
      exact .stay rfl
    simp only [Flush.step, hm]
    cases ho : c.findReq c.pendingReqList id with
    | none =>
      refine .stay (congrArg (c.view r) (h.withJob_congr r ?_ ?_ ?_))
      all_goals cases c.hwFlush <;> rfl
    | some o =>
      have := List.count_pos_iff.2 (List.mem_of_find?_eq_some ho)
      exact Flush.unlinkPending_move c id h (by omega)
  | active id =>
    simp only [Flush.step]
    cases ho : c.findReq c.activeReqList id with
    | none => exact .stay (congrArg (c.view r) (h.withJob_congr r rfl rfl rfl))
    | some o =>
      have := List.count_pos_iff.2 (List.mem_of_find?_eq_some ho)
      exact Flush.unlinkActive_move c id h (by omega)
  | deregister o i freeReq =>
    simp only [Flush.step]
    simp only [Flush.safe] at hs
    cases ho : (c.req o).inMapEntries[i]? with
    | none =>
      refine .stay (congrArg (c.view r) (h.withJob_congr r rfl ?_ ?_))
      all_goals cases freeReq <;> rfl
    | some sync =>
      simp only [ho, decide_eq_true_eq] at hs
      by_cases hmem : (sync, o) ∈ c.registered
      · have hone : c.registered.count (sync, o) = 1 := by
          have := List.count_pos_iff.2 hmem
          omega
        simpa [Context.deregisterCallback, hmem] using
          Flush.deregister_move c r o i sync freeReq h hone
      · have hf : c.registered.filter (· ≠ (sync, o)) = c.registered := by
          refine List.filter_eq_self.2 fun x hx => ?_
          simpa using fun he : x = (sync, o) => hmem (he ▸ hx)
        refine .stay ?_
        have hc : (c.deregisterCallback o sync).1 = c := by
          simp only [Context.deregisterCallback, hf]
        simp only [hc]
        simp only [Context.deregisterCallback, List.contains_iff_mem, hmem, if_false]
        refine congrArg (c.view r) (h.withJob_congr r rfl ?_ ?_)
        all_goals cases freeReq <;> rfl
  | count o i freeReq => exact Flush.count_move c r o i freeReq h
  | signal o i freeReq =>
    simp only [Flush.step]
    cases ho : (c.req o).outMapEntries[i]? with
    | none => exact Flush.afterSignals_move c r o i freeReq h
    | some sync =>
      have hnext : h.withJob r (.signal o (i + 1) freeReq) = h.withJob r (.signal o i freeReq) := by
        refine h.withJob_congr r rfl ?_ ?_
        all_goals cases freeReq <;> rfl
      simp only
      split_ifs with h1 h2
      · exact .stay (congrArg (c.view r) hnext)
      · exact Flush.afterSignals_move c r o i freeReq h
      · exact .stay (congrArg (c.view r) hnext)
  | free o => exact Flush.free_move c r o h
  | finished => exact .stay rfl

/-- One more callback, or none. -/
def Hands.withCallback (h : Hands) (r : ℕ) : Option Callback → Hands
  | none => h
  | some t =>
    { h with
      early := h.early + t.early r
      late := h.late + t.late r
      frees := h.frees + t.frees r
      counting := h.counting + t.job (Flush.counting r)
      holds := h.holds + t.job (Flush.holds r)
      refers := h.refers + t.job (Flush.refers r) }

/-- A flush as above; a failed `hw_config` finds its request where it was put. -/
def Callback.safe (c : Context) (rc : ℤ) (t : Callback) : Bool :=
  match t.pc with
  | .flush f => f.safe c
  | .config => rc = 0 || t.req ∈ c.activeReqList || t.req ∈ c.tempActive
  | _ => true

lemma Hands.withCallback_ne_none (h : Hands) {r o : ℕ} {status : Signaled} {pc : CallbackPc}
    (hne : o ≠ r) (hpc : ∀ f, pc ≠ .flush f) : h.withCallback r (some ⟨o, status, pc⟩) = h := by
  cases pc <;>
    simp_all [Hands.withCallback, Callback.early, Callback.late, Callback.frees, Callback.job, is_of_ne]

lemma Hands.withCallback_flush (h : Hands) (r o : ℕ) (status : Signaled) (f : Flush) :
    h.withCallback r (some ⟨o, status, .flush f⟩) = { h with late := h.late + is r o }.withJob r f := by
  simp [Hands.withCallback, Hands.withJob, Callback.early, Callback.late, Callback.frees, Callback.job]

lemma Callback.ack_move (c : Context) (rc : ℤ) (r o : ℕ) (status : Signaled) (h : Hands) :
    Move (c.view r (h.withCallback r (some ⟨o, status, .ack⟩)))
      ((Callback.step c rc ⟨o, status, .ack⟩).1.view r
        (h.withCallback r (Callback.step c rc ⟨o, status, .ack⟩).2)) := by
  by_cases hr : o = r
  · subst hr
    simp only [Callback.step]
    rw [Context.view_incAcked_self]
    by_cases hl : (c.incAcked o).allAcked o = true
    · refine .ackLast ?_ ((Context.allAcked_incAcked c o).1 hl) ?_
      · simp [Context.view, Hands.withCallback, Callback.early]
      · cases status <;>
          simp [hl, Context.view, Hands.withCallback, Callback.early, Callback.late, Callback.frees,
            Callback.job, Flush.counting, Flush.holds, Flush.refers]
    · refine .ack ?_ (fun he => hl ((Context.allAcked_incAcked c o).2 he)) ?_
      · simp [Context.view, Hands.withCallback, Callback.early]
      · simp [hl, Context.view, Hands.withCallback, Callback.early, Callback.late, Callback.frees,
          Callback.job]
  · have hview : ∀ k, (c.incAcked o).view r k = c.view r k := fun k => by
      rw [Context.incAcked, Context.view_setReq_ne _ _ _ _ _ hr]
    refine .stay ?_
    simp only [Callback.step]
    rw [hview, h.withCallback_ne_none hr (by simp)]
    refine congrArg (c.view r) ?_
    by_cases hl : (c.incAcked o).allAcked o = true
    · cases status <;>
        simp [hl, Hands.withCallback, Callback.early, Callback.late, Callback.frees, Callback.job,
          is_of_ne hr, Flush.counting, Flush.holds, Flush.refers]
    · simp [hl, Hands.withCallback]

lemma Callback.lock_move (c : Context) (rc : ℤ) (r o : ℕ) (status : Signaled) (h : Hands) :
    Move (c.view r (h.withCallback r (some ⟨o, status, .lock⟩)))
      ((Callback.step c rc ⟨o, status, .lock⟩).1.view r
        (h.withCallback r (Callback.step c rc ⟨o, status, .lock⟩).2)) := by
  simp only [Callback.step]
  split_ifs with hm hf
  · exact .stay rfl
  · by_cases hr : o = r
    · subst hr
      refine .release ?_ ?_ ?_
      · simp [Context.view, Hands.withCallback, Callback.late]
      · simp [Context.view, hf]
      · rw [Context.clearCtx, Context.view_setReq_self, Context.setFlushed, Context.view_setReq_self]
        simp [Context.view, Context.setReq, Hands.withCallback, Callback.early, Callback.late,
          Callback.frees, Callback.job]
    · refine .stay ?_
      rw [Context.clearCtx, Context.view_setReq_ne _ _ _ _ _ hr, Context.setFlushed,
        Context.view_setReq_ne _ _ _ _ _ hr, h.withCallback_ne_none hr (by simp),
        h.withCallback_ne_none hr (by simp)]
  · by_cases hr : o = r
    · subst hr
      refine .apply ?_ ?_ ?_
      · simp [Context.view, Hands.withCallback, Callback.late]
      · simp [Context.view, hf]
      · rw [Context.view_setMutex, Context.applyReqToHw, Context.view_setStory, Context.view_addActive,
          Context.view_listDel_self]
        simp [Context.view, Context.listDel, View.unlink, Hands.withCallback, Callback.early,
          Callback.late, Callback.frees, Callback.job]
    · refine .stay ?_
      rw [Context.view_setMutex, Context.applyReqToHw, Context.view_setStory, Context.view_addActive,
        Context.view_listDel_ne _ _ _ _ hr, h.withCallback_ne_none hr (by simp),
        h.withCallback_ne_none hr (by simp)]
      simp [Context.view, Context.listDel, count_erase_is, is_of_ne hr]

lemma Context.view_listDel_addFree_self (c : Context) (r : ℕ) (h : Hands) :
    ((c.listDel r).addFree r).view r h =
      { (c.view r h).unlink with free := c.freeReqList.count r - 1 + 1 } := by
  rw [Context.view_addFree, Context.view_listDel_self]
  simp [Context.listDel]

lemma Context.view_listDel_addFree_ne (c : Context) {r o : ℕ} (h : Hands) (hr : o ≠ r) :
    ((c.listDel o).addFree o).view r h = c.view r h := by
  rw [Context.view_addFree, Context.view_listDel_ne _ _ _ _ hr]
  simp [Context.view, Context.listDel, count_erase_is, is_of_ne hr]

lemma Callback.step_move (c : Context) (rc : ℤ) (t : Callback) (hs : t.safe c rc = true) (r : ℕ)
    (h : Hands) :
    Move (c.view r (h.withCallback r (some t)))
      ((t.step c rc).1.view r (h.withCallback r (t.step c rc).2)) := by
  obtain ⟨o, status, pc⟩ := t
  cases pc with
  | enter =>
    simp only [Callback.step]
    by_cases hr : o = r
    · subst hr
      split_ifs with hc
      · exact .stay rfl
      · refine .drop ?_ ?_ ?_
        · simp [Context.view, Hands.withCallback, Callback.early]
        · simp [Context.view, hc]
        · simp [Context.view, Hands.withCallback, Callback.early, Callback.late, Callback.frees,
            Callback.job]
    · refine .stay (congrArg (c.view r) ?_)
      rw [h.withCallback_ne_none hr (by simp)]
      split_ifs
      · exact h.withCallback_ne_none hr (by simp)
      · rfl
  | ack => exact Callback.ack_move c rc r o status h
  | flush f =>
    have hstep := Flush.step_move c rc f hs r { h with late := h.late + is r o }
    cases f with
    | finished =>
      refine .stay (congrArg (c.view r) ?_)
      simp [Callback.step, Hands.withCallback, Callback.early, Callback.late, Callback.frees,
        Callback.job, Flush.counting, Flush.holds, Flush.refers]
    | pending | active | deregister | count | signal | free =>
      simpa only [Callback.step, Hands.withCallback_flush] using hstep
  | lock => exact Callback.lock_move c rc r o status h
  | config =>
    have hnone : h.withCallback r (some ⟨o, status, .config⟩) = h := by
      simp [Hands.withCallback, Callback.early, Callback.late, Callback.frees, Callback.job]
    simp only [Callback.step, Context.view_setMutex, Context.configReturned]
    rw [hnone]
    split_ifs with hrc
    · by_cases hr : o = r
      · subst hr
        refine .configFailed ?_ (Context.view_listDel_addFree_self c o h)
        simp only [Callback.safe, hrc, decide_false, Bool.false_or, Bool.or_eq_true,
          decide_eq_true_eq] at hs
        rcases hs with hs | hs
        · have := List.count_pos_iff.2 hs
          change 1 ≤ c.activeReqList.count o + _
          omega
        · have := List.count_pos_iff.2 hs
          change 1 ≤ _ + c.tempActive.count o
          omega
      · exact .stay (c.view_listDel_addFree_ne h hr)
    · exact .stay rfl
  | free =>
    simp only [Callback.step]
    by_cases hr : o = r
    · subst hr
      refine .freed ?_ ?_
      · simp [Context.view, Hands.withCallback, Callback.frees]
      · rw [Context.view_listDel_addFree_self]
        simp [Context.view, View.unlink, Hands.withCallback, Callback.early, Callback.late,
          Callback.frees, Callback.job]
    · refine .stay ?_
      rw [c.view_listDel_addFree_ne _ hr, h.withCallback_ne_none hr (by simp)]
      rfl

end CameraKernel.CtxUtils
