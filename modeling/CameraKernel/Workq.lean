import CameraKernel.Errno
import CameraKernel.Transition

/-! The task pool and the work queues of the request manager. What a function does
under `lock_bh` is one step; between the steps of the worker any caller may act. -/
namespace CameraKernel.Workq

/-- `enum crm_task_priority`. -/
inductive TaskPriority
  | priority0
  | priority1
  deriving DecidableEq, Repr

def TaskPriority.next : TaskPriority → Option TaskPriority
  | .priority0 => some .priority1
  | .priority1 => none

structure Task where
  priority : TaskPriority
  processCb : Option ℕ
  cancel : ℕ
  priv : ℕ
  deriving DecidableEq, Repr

/-- A task is named by its index in the pool; `armed` says that the work item is pending. -/
structure CoreWorkq where
  job : Bool
  armed : Bool
  pendingCnt : ℤ
  freeCnt : ℤ
  processHead : TaskPriority → List ℕ
  emptyHead : List ℕ
  pool : ℕ → Task
  numTask : ℕ

def workqGetTask (workq : CoreWorkq) : Option ℕ × CoreWorkq :=
  match workq.emptyHead with
  | [] => (none, workq)
  | task :: rest => (some task, { workq with freeCnt := workq.freeCnt - 1, emptyHead := rest })

def workqPutTask (workq : CoreWorkq) (task : ℕ) : CoreWorkq :=
  { workq with
    pool := Function.update workq.pool task
      { workq.pool task with cancel := 0, processCb := none, priv := 0 }
    emptyHead := workq.emptyHead ++ [task]
    freeCnt := workq.freeCnt + 1 }

def taskPriority (prio : ℤ) : TaskPriority :=
  if prio < 2 ∧ prio ≥ 0 then (if prio = 0 then .priority0 else .priority1) else .priority0

def workqEnqueueTask (workq : CoreWorkq) (task priv : ℕ) (prio : ℤ) : ℤ × CoreWorkq :=
  if (workq.pool task).cancel = 1 then (0, workqPutTask workq task)
  else
    let entry := { workq.pool task with priv := priv, priority := taskPriority prio }
    let workq := { workq with pool := Function.update workq.pool task entry }
    if workq.job = false then (-Errno.EINVAL, workq)
    else
      let head := workq.processHead entry.priority ++ [task]
      (0, { workq with
            processHead := Function.update workq.processHead entry.priority head
            pendingCnt := workq.pendingCnt + 1
            armed := true })

/-- The worker takes the first task of a priority. -/
def workqTakeTask (workq : CoreWorkq) (i : TaskPriority) : Option ℕ × CoreWorkq :=
  match workq.processHead i with
  | [] => (none, workq)
  | task :: rest =>
    (some task, { workq with
                  pendingCnt := workq.pendingCnt - 1
                  processHead := Function.update workq.processHead i rest })

/-- The pool is zeroed, then every task is put. -/
def workqCreate (numTasks : ℕ) : CoreWorkq :=
  (List.range numTasks).foldl workqPutTask
    { job := true
      armed := false
      pendingCnt := 0
      freeCnt := 0
      processHead := fun _ => []
      emptyHead := []
      pool := fun _ => ⟨.priority0, none, 0, 0⟩
      numTask := numTasks }

/-- Where `cam_req_mgr_process_workq` stands: about to take the lock in the loop of
priority `i`, about to call the callback of a task, or about to put it back. -/
inductive Worker
  | idle
  | scan (i : TaskPriority)
  | process (i : TaskPriority) (task : ℕ)
  | put (i : TaskPriority) (task : ℕ)
  deriving DecidableEq, Repr

def Worker.priority : Worker → Option TaskPriority
  | .idle => none
  | .scan i => some i
  | .process i _ => some i
  | .put i _ => some i

def Worker.task : Worker → Option ℕ
  | .idle => none
  | .scan _ => none
  | .process _ task => some task
  | .put _ task => some task

/-- One enqueued piece of work. -/
structure Job where
  task : ℕ
  processCb : Option ℕ
  priv : ℕ
  deriving DecidableEq, Repr

structure State where
  workq : CoreWorkq
  held : List (ℕ × ℕ)
  worker : Worker
  enqueued : TaskPriority → List Job
  processed : TaskPriority → List Job

def start (numTasks : ℕ) : State := ⟨workqCreate numTasks, [], .idle, fun _ => [], fun _ => []⟩

def job (workq : CoreWorkq) (task : ℕ) : Job := ⟨task, (workq.pool task).processCb, (workq.pool task).priv⟩

namespace State

def getTask (s : State) (caller : ℕ) : State :=
  match workqGetTask s.workq with
  | (none, _) => s
  | (some task, workq) => { s with workq := workq, held := (caller, task) :: s.held }

/-- The holder of a task fills it in. -/
def setCb (s : State) (caller task : ℕ) (cb : Option ℕ) : State :=
  if (caller, task) ∈ s.held then
    let entry := { s.workq.pool task with processCb := cb }
    { s with workq := { s.workq with pool := Function.update s.workq.pool task entry } }
  else s

/-- The holder of a task enqueues it, and keeps it only if that fails. -/
def enqueueTask (s : State) (caller task priv : ℕ) (prio : ℤ) : State :=
  if (caller, task) ∈ s.held then
    let r := workqEnqueueTask s.workq task priv prio
    if r.1 = 0 then
      let p := taskPriority prio
      { s with
        workq := r.2
        held := s.held.erase (caller, task)
        enqueued := Function.update s.enqueued p
          (s.enqueued p ++ [⟨task, (s.workq.pool task).processCb, priv⟩]) }
    else { s with workq := r.2 }
  else s

/-- The workqueue starts the pending work item unless it is running. -/
def startWork (s : State) : State :=
  if s.workq.armed = true ∧ s.worker = .idle then
    { s with workq := { s.workq with armed := false }, worker := .scan .priority0 }
  else s

def workerStep (s : State) : State :=
  match s.worker with
  | .idle => s
  | .scan i =>
    match workqTakeTask s.workq i with
    | (some task, workq) => { s with workq := workq, worker := .process i task }
    | (none, _) => { s with worker := (i.next.map .scan).getD .idle }
  | .process i task =>
    { s with
      processed := Function.update s.processed i (s.processed i ++ [job s.workq task])
      worker := .put i task }
  | .put i task => { s with workq := workqPutTask s.workq task, worker := .scan i }

end State

inductive Op
  | getTask (caller : ℕ)
  | setCb (caller task : ℕ) (cb : Option ℕ)
  | enqueueTask (caller task priv : ℕ) (prio : ℤ)
  | startWork
  | workerStep
  deriving DecidableEq

def step (s : State) : Op → State
  | .getTask caller => s.getTask caller
  | .setCb caller task cb => s.setCb caller task cb
  | .enqueueTask caller task priv prio => s.enqueueTask caller task priv prio
  | .startWork => s.startWork
  | .workerStep => s.workerStep

inductive Place
  | empty
  | queued (i : TaskPriority)
  | held (caller : ℕ)
  | processing
  deriving DecidableEq, Repr

/-- Every place of a task, with the task that is there. -/
def located (s : State) : List (Place × ℕ) :=
  s.workq.emptyHead.map (Prod.mk Place.empty) ++
    (s.workq.processHead .priority0).map (Prod.mk (Place.queued .priority0)) ++
    (s.workq.processHead .priority1).map (Prod.mk (Place.queued .priority1)) ++
    s.held.map (fun h => (Place.held h.1, h.2)) ++
    s.worker.task.toList.map (Prod.mk Place.processing)

/-- The task taken off the list of priority `i` whose callback is still to be called. -/
def current (s : State) (i : TaskPriority) : List Job :=
  match s.worker with
  | .process j task => if j = i then [job s.workq task] else []
  | _ => []

/-- The running worker still comes to priority `i`. -/
def Covers (worker : Worker) (i : TaskPriority) : Prop :=
  worker.priority = some .priority0 ∨ worker.priority = some i

structure WorkqSound (s : State) : Prop where
  place : ∀ task < s.workq.numTask, ∃! place, (place, task) ∈ located s
  nodup : (located s).Nodup
  pool : ∀ place task, (place, task) ∈ located s → task < s.workq.numTask
  freeCnt : s.workq.freeCnt = s.workq.emptyHead.length
  pendingCnt : s.workq.pendingCnt =
    (s.workq.processHead .priority0).length + (s.workq.processHead .priority1).length
  order : ∀ i, s.enqueued i = s.processed i ++ current s i ++ (s.workq.processHead i).map (job s.workq)
  armed : ∀ i, s.workq.processHead i ≠ [] → s.workq.armed = true ∨ Covers s.worker i

def tasks (s : State) : List ℕ :=
  s.workq.emptyHead ++ s.workq.processHead .priority0 ++ s.workq.processHead .priority1 ++
    s.held.map Prod.snd ++ s.worker.task.toList

lemma located_snd (s : State) : (located s).map Prod.snd = tasks s := by
  simp [located, tasks, Function.comp_def]

structure Inv (s : State) : Prop where
  tasks : (tasks s).Perm (List.range s.workq.numTask)
  job : s.workq.job = true
  cancel : ∀ task, (s.workq.pool task).cancel = 0
  freeCnt : s.workq.freeCnt = s.workq.emptyHead.length
  pendingCnt : s.workq.pendingCnt =
    (s.workq.processHead .priority0).length + (s.workq.processHead .priority1).length
  order : ∀ i, s.enqueued i = s.processed i ++ current s i ++ (s.workq.processHead i).map (Workq.job s.workq)
  armed : ∀ i, s.workq.processHead i ≠ [] → s.workq.armed = true ∨ Covers s.worker i

lemma Inv.nodup {s : State} (h : Inv s) : (Workq.tasks s).Nodup := h.tasks.nodup_iff.mpr List.nodup_range

lemma Inv.held_apart {s : State} {caller task : ℕ} (h : Inv s) (hm : (caller, task) ∈ s.held) :
    (∀ i, task ∉ s.workq.processHead i) ∧ s.worker.task ≠ some task := by
  have hheld : task ∈ s.held.map Prod.snd := List.mem_map.mpr ⟨_, hm, rfl⟩
  have hn := h.nodup
  simp only [Workq.tasks, List.nodup_append] at hn
  obtain ⟨⟨-, -, hlists⟩, -, hworker⟩ := hn
  refine ⟨fun i hi => ?_, fun hw => ?_⟩
  · cases i with
    | priority0 => exact hlists task (by simp [hi]) task hheld rfl
    | priority1 => exact hlists task (by simp [hi]) task hheld rfl
  · exact hworker task (List.mem_append_right _ hheld) task (by simp [hw]) rfl

lemma Inv.worker_apart {s : State} {task : ℕ} (h : Inv s) (hw : s.worker.task = some task)
    (i : TaskPriority) : task ∉ s.workq.processHead i := by
  intro hi
  have hn := h.nodup
  simp only [Workq.tasks, List.nodup_append] at hn
  obtain ⟨-, -, hworker⟩ := hn
  refine hworker task ?_ task (by simp [hw]) rfl
  cases i with
  | priority0 => simp [hi]
  | priority1 => simp [hi]

lemma job_map_update (workq workq' : CoreWorkq) {task : ℕ} {entry : Task} {l : List ℕ}
    (hpool : workq'.pool = Function.update workq.pool task entry) (hl : task ∉ l) :
    l.map (job workq') = l.map (job workq) := by
  refine List.map_congr_left fun t ht => ?_
  have hne : t ≠ task := fun heq => hl (heq ▸ ht)
  simp [job, hpool, hne]

lemma current_update (s s' : State) {task : ℕ} {entry : Task} (hworker : s'.worker = s.worker)
    (hpool : s'.workq.pool = Function.update s.workq.pool task entry) (hne : s.worker.task ≠ some task)
    (i : TaskPriority) : current s' i = current s i := by
  unfold current
  rw [hworker]
  cases hw : s.worker with
  | idle => rfl
  | scan j => rfl
  | put j t => rfl
  | process j t =>
    have ht : t ≠ task := by
      rintro rfl
      exact hne (by rw [hw]; rfl)
    simp [job, hpool, ht]

lemma Inv.order_update {s s' : State} {task : ℕ} {entry : Task} (h : Inv s)
    (hpool : s'.workq.pool = Function.update s.workq.pool task entry) (hworker : s'.worker = s.worker)
    (hne : s.worker.task ≠ some task) (i : TaskPriority) (hqueued : task ∉ s.workq.processHead i) :
    s.enqueued i = s.processed i ++ current s' i ++ (s.workq.processHead i).map (Workq.job s'.workq) := by
  rw [current_update s s' hworker hpool hne, job_map_update s.workq s'.workq hpool hqueued]
  exact h.order i

lemma foldl_putTask (l : List ℕ) (workq : CoreWorkq) (hcancel : ∀ t, (workq.pool t).cancel = 0) :
    let r := l.foldl workqPutTask workq
    r.emptyHead = workq.emptyHead ++ l ∧ r.freeCnt = workq.freeCnt + l.length ∧ r.job = workq.job ∧
      r.armed = workq.armed ∧ r.pendingCnt = workq.pendingCnt ∧ r.processHead = workq.processHead ∧
      r.numTask = workq.numTask ∧ ∀ t, (r.pool t).cancel = 0 := by
  induction l generalizing workq with
  | nil => simpa using hcancel
  | cons t l ih =>
    have hput : ∀ t', ((workqPutTask workq t).pool t').cancel = 0 := by
      intro t'
      by_cases ht : t' = t
      · simp [workqPutTask, ht]
      · simpa [workqPutTask, ht] using hcancel t'
    obtain ⟨he, hf, hj, ha, hp, hh, hn, hc⟩ := ih (workqPutTask workq t) hput
    refine ⟨?_, ?_, hj, ha, hp, hh, hn, hc⟩
    · simpa [workqPutTask] using he
    · rw [List.foldl_cons, hf, List.length_cons]
      simp only [workqPutTask]
      push_cast
      ring

lemma inv_start (numTasks : ℕ) : Inv (start numTasks) := by
  obtain ⟨he, hf, hj, ha, hp, hh, hn, hc⟩ := foldl_putTask (List.range numTasks)
    ⟨true, false, 0, 0, fun _ => [], [], fun _ => ⟨.priority0, none, 0, 0⟩, numTasks⟩ (fun _ => rfl)
  have hq : ∀ i, (start numTasks).workq.processHead i = [] := fun i => congrFun hh i
  have hempty : (start numTasks).workq.emptyHead = List.range numTasks := he
  have hnum : (start numTasks).workq.numTask = numTasks := hn
  refine ⟨?_, hj, hc, ?_, ?_, fun i => ?_, fun i hi => absurd (hq i) hi⟩
  · unfold tasks
    rw [hnum, hempty, hq, hq]
    simp [start, Worker.task]
  · rw [hempty]
    exact hf.trans (zero_add _)
  · rw [hq, hq]
    exact hp
  · rw [hq]
    rfl

/-! ### Steps -/

lemma getTask_inv {s : State} (h : Inv s) (caller : ℕ) : Inv (s.getTask caller) := by
  unfold State.getTask workqGetTask
  cases he : s.workq.emptyHead with
  | nil => exact h
  | cons task rest =>
    refine ⟨?_, h.job, h.cancel, ?_, h.pendingCnt, h.order, h.armed⟩
    · refine List.Perm.trans ?_ h.tasks
      refine List.perm_iff_count.mpr fun t => ?_
      simp only [tasks, he, List.count_append, List.map_cons, List.count_cons]
      omega
    · have hf := h.freeCnt
      rw [he, List.length_cons] at hf
      change s.workq.freeCnt - 1 = rest.length
      push_cast at hf
      omega

lemma setCb_inv {s : State} (h : Inv s) (caller task : ℕ) (cb : Option ℕ) : Inv (s.setCb caller task cb) := by
  unfold State.setCb
  split
  · next hm =>
    obtain ⟨hqueued, hworker⟩ := h.held_apart hm
    refine ⟨h.tasks, h.job, fun t => ?_, h.freeCnt, h.pendingCnt, fun i => ?_, h.armed⟩
    · by_cases ht : t = task
      · simpa [ht] using h.cancel task
      · simpa [ht] using h.cancel t
    · obtain ⟨s', hs', hpool, hsame⟩ : ∃ s', s' = s.setCb caller task cb ∧
          s'.workq.pool = Function.update s.workq.pool task { s.workq.pool task with processCb := cb } ∧
          s'.worker = s.worker := ⟨_, rfl, by rw [State.setCb, if_pos hm], by rw [State.setCb, if_pos hm]⟩
      have ho := h.order_update hpool hsame hworker i (hqueued i)
      rw [State.setCb, if_pos hm] at hs'
      rw [hs'] at ho
      exact ho
  · exact h

lemma taskHead_length (head : TaskPriority → List ℕ) (i : TaskPriority) (l : List ℕ) (n : ℤ)
    (hn : (l.length : ℤ) = (head i).length + n) :
    ((Function.update head i l .priority0).length : ℤ) + (Function.update head i l .priority1).length =
      (head .priority0).length + (head .priority1).length + n := by
  cases i with
  | priority0 =>
    simp only [Function.update_self, ne_eq, reduceCtorEq, not_false_eq_true, Function.update_of_ne]
    omega
  | priority1 =>
    simp only [Function.update_self, ne_eq, reduceCtorEq, not_false_eq_true, Function.update_of_ne]
    omega

lemma enqueueTask_eq {s : State} {caller task : ℕ} (h : Inv s) (hm : (caller, task) ∈ s.held) (priv : ℕ)
    (prio : ℤ) : s.enqueueTask caller task priv prio =
      { s with
        workq := { s.workq with
          pool := Function.update s.workq.pool task
            { s.workq.pool task with priv := priv, priority := taskPriority prio }
          processHead := Function.update s.workq.processHead (taskPriority prio)
            (s.workq.processHead (taskPriority prio) ++ [task])
          pendingCnt := s.workq.pendingCnt + 1
          armed := true }
        held := s.held.erase (caller, task)
        enqueued := Function.update s.enqueued (taskPriority prio)
          (s.enqueued (taskPriority prio) ++ [⟨task, (s.workq.pool task).processCb, priv⟩]) } := by
  simp [State.enqueueTask, hm, workqEnqueueTask, h.cancel task, h.job]

lemma enqueueTask_inv {s : State} (h : Inv s) (caller task priv : ℕ) (prio : ℤ) :
    Inv (s.enqueueTask caller task priv prio) := by
  by_cases hm : (caller, task) ∈ s.held
  · obtain ⟨hqueued, hworker⟩ := h.held_apart hm
    obtain ⟨p, hp⟩ : ∃ p, p = taskPriority prio := ⟨_, rfl⟩
    rw [enqueueTask_eq h hm, ← hp]
    refine ⟨?_, h.job, fun t => ?_, h.freeCnt, ?_, fun i => ?_, fun i _ => .inl rfl⟩
    · refine List.Perm.trans (List.perm_iff_count.mpr fun t => ?_) h.tasks
      have herase := ((List.perm_cons_erase hm).map Prod.snd).count_eq t
      simp only [List.map_cons, List.count_cons, beq_iff_eq] at herase
      simp only [tasks, List.count_append]
      cases p with
      | priority0 => simp [List.count_append, List.count_cons]; omega
      | priority1 => simp [List.count_append, List.count_cons]; omega
    · by_cases ht : t = task
      · simpa [ht] using h.cancel task
      · simpa [ht] using h.cancel t
    · have hc := h.pendingCnt
      have hl := taskHead_length s.workq.processHead p (s.workq.processHead p ++ [task]) 1 (by simp)
      change s.workq.pendingCnt + 1 = _
      rw [hl]
      omega
    · obtain ⟨s', hs', hpool, hsame⟩ : ∃ s', s' = s.enqueueTask caller task priv prio ∧
          s'.workq.pool = Function.update s.workq.pool task
            { s.workq.pool task with priv := priv, priority := taskPriority prio } ∧
          s'.worker = s.worker := ⟨_, rfl, by rw [enqueueTask_eq h hm], by rw [enqueueTask_eq h hm]⟩
      have ho := h.order_update hpool hsame hworker i (hqueued i)
      rw [enqueueTask_eq h hm, ← hp] at hs'
      rw [← hs']
      by_cases hi : i = p
      · have henq : s'.enqueued i = s.enqueued i ++ [job s'.workq task] := by
          subst hi
          simp [hs', job]
        have hhead : s'.workq.processHead i = s.workq.processHead i ++ [task] := by
          subst hi
          simp [hs']
        rw [henq, hhead, ho, List.map_append, ← List.append_assoc, hs']
        rfl
      · have henq : s'.enqueued i = s.enqueued i := by simp [hs', hi]
        have hhead : s'.workq.processHead i = s.workq.processHead i := by simp [hs', hi]
        rw [henq, hhead, ho, hs']
  · rw [State.enqueueTask, if_neg hm]
    exact h

lemma startWork_inv {s : State} (h : Inv s) : Inv s.startWork := by
  unfold State.startWork
  split
  · next hidle =>
    refine ⟨?_, h.job, h.cancel, h.freeCnt, h.pendingCnt, fun i => ?_, fun i _ => .inr (.inl rfl)⟩
    · have ht := h.tasks
      simp only [tasks, hidle.2] at ht
      exact ht
    · have ho := h.order i
      rw [current, hidle.2] at ho
      exact ho
  · exact h

lemma scanEmpty_inv {s : State} {i : TaskPriority} (h : Inv s) (hw : s.worker = .scan i)
    (hempty : s.workq.processHead i = []) : Inv { s with worker := (i.next.map .scan).getD .idle } := by
  have htask : ((i.next.map Worker.scan).getD .idle).task = none := by cases i <;> rfl
  refine ⟨?_, h.job, h.cancel, h.freeCnt, h.pendingCnt, fun j => ?_, fun j hj => ?_⟩
  · have ht := h.tasks
    simp only [tasks, hw] at ht
    simp only [tasks, htask]
    exact ht
  · have ho := h.order j
    rw [current, hw] at ho
    have hcur : current { s with worker := (i.next.map .scan).getD .idle } j = [] := by cases i <;> rfl
    rw [hcur]
    exact ho
  · obtain ha | hc := h.armed j hj
    · exact .inl ha
    · rw [hw] at hc
      have hne : i ≠ j := by
        rintro rfl
        exact hj hempty
      cases i with
      | priority0 =>
        cases j with
        | priority0 => exact absurd rfl hne
        | priority1 => exact .inr (.inr rfl)
      | priority1 =>
        obtain hc | hc := hc
        · cases hc
        · exact absurd (Option.some.inj hc) hne

lemma scanTake_inv {s : State} {i : TaskPriority} {task : ℕ} {rest : List ℕ} (h : Inv s)
    (hw : s.worker = .scan i) (hhead : s.workq.processHead i = task :: rest) :
    Inv { s with
      workq := { s.workq with
        pendingCnt := s.workq.pendingCnt - 1
        processHead := Function.update s.workq.processHead i rest }
      worker := .process i task } := by
  refine ⟨?_, h.job, h.cancel, h.freeCnt, ?_, fun j => ?_, fun j hj => ?_⟩
  · have ht := h.tasks
    refine List.Perm.trans (List.perm_iff_count.mpr fun t => ?_) ht
    simp only [tasks, hw, Worker.task, List.count_append]
    cases i with
    | priority0 => simp [hhead, List.count_cons]; omega
    | priority1 => simp [hhead, List.count_cons]; omega
  · have hc := h.pendingCnt
    have hl := taskHead_length s.workq.processHead i rest (-1) (by rw [hhead]; simp)
    change s.workq.pendingCnt - 1 = _
    rw [hl]
    omega
  · have ho := h.order j
    rw [current, hw] at ho
    change _ = s.processed j ++ (if i = j then [job s.workq task] else []) ++
      (Function.update s.workq.processHead i rest j).map (job s.workq)
    by_cases hj : i = j
    · subst hj
      rw [hhead] at ho
      simpa using ho
    · have hji : j ≠ i := fun heq => hj heq.symm
      rw [if_neg hj, Function.update_of_ne hji]
      exact ho
  · have hj' : s.workq.processHead j ≠ [] := by
      by_cases hji : j = i
      · subst hji
        rw [hhead]
        exact List.cons_ne_nil _ _
      · simpa [Function.update_of_ne hji] using hj
    obtain ha | hc := h.armed j hj'
    · exact .inl ha
    · rw [hw] at hc
      exact .inr hc

lemma workerStep_inv {s : State} (h : Inv s) : Inv s.workerStep := by
  unfold State.workerStep
  cases hw : s.worker with
  | idle => exact h
  | scan i =>
    simp only [workqTakeTask]
    cases hhead : s.workq.processHead i with
    | nil => exact scanEmpty_inv h hw hhead
    | cons task rest => exact scanTake_inv h hw hhead
  | process i task =>
    refine ⟨?_, h.job, h.cancel, h.freeCnt, h.pendingCnt, fun j => ?_, fun j hj => ?_⟩
    · have ht := h.tasks
      simp only [tasks, hw] at ht
      exact ht
    · have ho := h.order j
      rw [current, hw] at ho
      by_cases hj : i = j
      · subst hj
        simpa [current] using ho
      · have hji : j ≠ i := fun heq => hj heq.symm
        simpa [current, hj, hji] using ho
    · have ha := h.armed j hj
      rw [hw] at ha
      exact ha
  | put i task =>
    have hqueued := h.worker_apart (show s.worker.task = some task by rw [hw]; rfl)
    refine ⟨?_, h.job, fun t => ?_, ?_, h.pendingCnt, fun j => ?_, fun j hj => ?_⟩
    · have ht := h.tasks
      refine List.Perm.trans (List.perm_iff_count.mpr fun t => ?_) ht
      simp only [tasks, hw, Worker.task, workqPutTask, List.count_append, Option.toList_none,
        Option.toList_some, List.count_nil]
      omega
    · by_cases ht : t = task
      · simp [workqPutTask, ht]
      · simpa [workqPutTask, ht] using h.cancel t
    · have hf := h.freeCnt
      simp only [workqPutTask, List.length_append, List.length_singleton]
      push_cast
      omega
    · have ho := h.order j
      rw [current, hw] at ho
      have hmap := job_map_update s.workq (workqPutTask s.workq task) rfl (hqueued j)
      change _ = s.processed j ++ [] ++ (s.workq.processHead j).map (job (workqPutTask s.workq task))
      rw [hmap]
      exact ho
    · have ha := h.armed j hj
      rw [hw] at ha
      exact ha

lemma step_inv {s : State} (h : Inv s) (op : Op) : Inv (step s op) := by
  cases op with
  | getTask caller => exact getTask_inv h caller
  | setCb caller task cb => exact setCb_inv h caller task cb
  | enqueueTask caller task priv prio => exact enqueueTask_inv h caller task priv prio
  | startWork => exact startWork_inv h
  | workerStep => exact workerStep_inv h

lemma workqSound_of_inv {s : State} (h : Inv s) : WorkqSound s := by
  have hnodup : ((located s).map Prod.snd).Nodup := by
    rw [located_snd]
    exact h.nodup
  have hmem : ∀ task, task ∈ (located s).map Prod.snd ↔ task < s.workq.numTask := by
    intro task
    rw [located_snd, h.tasks.mem_iff, List.mem_range]
  refine ⟨fun task hlt => ?_, hnodup.of_map _, fun place task hm => ?_, h.freeCnt, h.pendingCnt, h.order, h.armed⟩
  · obtain ⟨⟨place, t⟩, hm, rfl⟩ := List.mem_map.mp ((hmem task).mpr hlt)
    refine ⟨place, hm, fun other hother => ?_⟩
    have heq := List.inj_on_of_nodup_map hnodup hother hm rfl
    exact congrArg Prod.fst heq
  · exact (hmem task).mp (List.mem_map.mpr ⟨_, hm, rfl⟩)

/-- Through every interleaving of callers and worker, each task of the pool is in one place,
the counters are exact, the tasks of a priority are processed in the order in which they were
enqueued, once each, and a queued task is seen by the running worker or by the armed work item. -/
theorem run_workqSound (numTasks : ℕ) (ops : List Op) :
    WorkqSound (Transition.run step (start numTasks) ops) := by
  have h : Inv (Transition.run step (start numTasks) ops) :=
    Transition.run_always (fun s op (hs : Inv s) => step_inv hs op) (inv_start numTasks) ops
  exact workqSound_of_inv h

end CameraKernel.Workq
