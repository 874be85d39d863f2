import CameraKernel.Transition

/-! A mutex and the threads that use it. A program that takes and gives back the mutex logs its
operations; a thread is the list of the operations it is going to do. -/
namespace CameraKernel.LockDiscipline

inductive LockOp
  | lock
  | unlock
  deriving DecidableEq, Repr

/-- Whether the mutex is held after an operation: `none` where it is given back without being held
or taken twice. -/
def holdStep : Bool → LockOp → Option Bool
  | false, .lock => some true
  | true, .unlock => some false
  | _, _ => none

def holdAfter (held : Bool) (ops : List LockOp) : Option Bool := ops.foldlM holdStep held

/-- The mutex is given back only while it is held, and is not held at the end. -/
def Disciplined (held : Bool) (ops : List LockOp) : Prop := holdAfter held ops = some false

instance (held : Bool) (ops : List LockOp) : Decidable (Disciplined held ops) :=
  inferInstanceAs (Decidable (_ = _))

lemma disciplined_cons {held : Bool} {op : LockOp} {ops : List LockOp} :
    Disciplined held (op :: ops) ↔ ∃ held', holdStep held op = some held' ∧ Disciplined held' ops := by
  simp [Disciplined, holdAfter, Option.bind_eq_some_iff]

lemma Disciplined.append {held : Bool} {xs ys : List LockOp} (hx : Disciplined held xs)
    (hy : Disciplined false ys) : Disciplined held (xs ++ ys) := by
  simp only [Disciplined, holdAfter] at hx hy ⊢
  rw [List.foldlM_append, hx]
  exact hy

lemma Disciplined.flatten {parts : List (List LockOp)}
    (h : ∀ ops ∈ parts, Disciplined false ops) : Disciplined false parts.flatten := by
  induction parts with
  | nil => rfl
  | cons ops parts ih =>
    rw [List.forall_mem_cons] at h
    exact h.1.append (ih h.2)

/-- A program with the log of its operations on the mutex. -/
abbrev LockM := StateM (List LockOp)

def lock : LockM Unit := modify (· ++ [LockOp.lock])

def unlock : LockM Unit := modify (· ++ [LockOp.unlock])

def lockOps {α : Type} (prog : LockM α) : List LockOp := (prog.run []).2

/-- Started with the mutex held or not, the program keeps the discipline on every path. -/
def Obeys {α : Type} (held : Bool) (prog : LockM α) : Prop :=
  ∀ log, ∃ ops, (prog.run log).2 = log ++ ops ∧ Disciplined held ops

variable {α : Type} {held : Bool}

lemma Obeys.disciplined {prog : LockM α} (h : Obeys held prog) : Disciplined held (lockOps prog) := by
  obtain ⟨ops, heq, hops⟩ := h []
  rw [lockOps, heq]
  exact hops

lemma obeys_return (a : α) : Obeys false (pure a : LockM α) := fun log =>
  ⟨[], (List.append_nil log).symm, rfl⟩

lemma obeys_unlock (a : α) : Obeys true (do unlock; return a) := fun _ => ⟨[.unlock], rfl, rfl⟩

lemma Obeys.lock {prog : LockM α} (h : Obeys true prog) : Obeys false (do lock; prog) := by
  intro log
  obtain ⟨ops, heq, hops⟩ := h (log ++ [LockOp.lock])
  refine ⟨.lock :: ops, ?_, hops⟩
  change (prog.run (log ++ [LockOp.lock])).2 = log ++ LockOp.lock :: ops
  rw [heq, List.append_assoc, List.singleton_append]

lemma Obeys.ite {cond : Prop} [Decidable cond] {prog other : LockM α} (h : Obeys held prog)
    (hother : Obeys held other) : Obeys held (if cond then prog else other) := by
  split
  · exact h
  · exact hother

variable {ι : Type*} [DecidableEq ι]

/-- The owner of the mutex, the threads between their lock and their unlock, and what is left for
each thread to do. -/
structure Threads (ι : Type*) where
  owner : Option ι
  inside : ι → Bool
  todo : ι → List LockOp

def Threads.start (todo : ι → List LockOp) : Threads ι := ⟨none, fun _ => false, todo⟩

/-- The next operation of a thread. To lock it waits for the mutex to be free; to unlock frees the
mutex, whoever owns it. -/
def Threads.step (s : Threads ι) (t : ι) : Threads ι :=
  match s.todo t with
  | [] => s
  | .lock :: rest =>
    if s.owner = none then
      ⟨some t, Function.update s.inside t true, Function.update s.todo t rest⟩
    else s
  | .unlock :: rest => ⟨none, Function.update s.inside t false, Function.update s.todo t rest⟩

structure Threads.Exclusive (s : Threads ι) : Prop where
  owner : ∀ t, s.inside t = true ↔ s.owner = some t
  todo : ∀ t, Disciplined (s.inside t) (s.todo t)

omit [DecidableEq ι] in
lemma Threads.exclusive_start {todo : ι → List LockOp} (h : ∀ t, Disciplined false (todo t)) :
    (Threads.start todo).Exclusive := ⟨fun t => by simp [Threads.start], h⟩

lemma Threads.Exclusive.step {s : Threads ι} (h : s.Exclusive) (t : ι) : (s.step t).Exclusive := by
  have htodo := h.todo t
  unfold Threads.step
  split
  case h_1 => exact h
  case h_2 rest heq =>
    split
    case isFalse => exact h
    case isTrue howner =>
      have hout : s.inside t = false := by simpa [howner] using (h.owner t).not
      rw [heq, hout, disciplined_cons] at htodo
      obtain ⟨held, hheld, hrest⟩ := htodo
      cases hheld
      constructor
      · intro u
        by_cases hu : u = t
        · simp [hu]
        · have hinside := h.owner u
          simp only [howner, reduceCtorEq, iff_false] at hinside
          simp [hu, hinside, Ne.symm hu]
      · intro u
        by_cases hu : u = t
        · subst hu
          simpa using hrest
        · simpa [hu] using h.todo u
  case h_3 rest heq =>
    rw [heq, disciplined_cons] at htodo
    obtain ⟨held, hheld, hrest⟩ := htodo
    cases hin : s.inside t with
    | false => simp [hin, holdStep] at hheld
    | true =>
      rw [hin] at hheld
      cases hheld
      have howner := (h.owner t).mp hin
      constructor
      · intro u
        by_cases hu : u = t
        · simp [hu]
        · have hinside := h.owner u
          rw [howner, Option.some.injEq] at hinside
          simpa [hu] using mt hinside.mp (Ne.symm hu)
      · intro u
        by_cases hu : u = t
        · subst hu
          simpa using hrest
        · simpa [hu] using h.todo u

theorem Threads.exclusive_run {todo : ι → List LockOp} (h : ∀ t, Disciplined false (todo t))
    (ts : List ι) {t u : ι} (ht : (Transition.run Threads.step (Threads.start todo) ts).inside t = true)
    (hu : (Transition.run Threads.step (Threads.start todo) ts).inside u = true) : t = u := by
  have hrun : (Transition.run Threads.step (Threads.start todo) ts).Exclusive :=
    Transition.run_always (fun s t hs => hs.step t) (Threads.exclusive_start h) ts
  exact Option.some.inj (((hrun.owner t).mp ht).symm.trans ((hrun.owner u).mp hu))

end CameraKernel.LockDiscipline
