import CameraKernel.Errno
import CameraKernel.Transition

/-! The command slots of a tasklet. Interrupt handlers take a slot, fill it in and queue it;
the tasklet, or the flush of `cam_tasklet_stop`, runs the queued commands. What a function
does under `tasklet_lock`, and every access to `tasklet_active`, is one step. -/
namespace CameraKernel.Tasklet

/-- `CAM_TASKLETQ_SIZE`. -/
def taskletqSize : ℕ := 256

structure QueueCmd where
  payload : ℕ
  bottomHalfHandler : ℕ
  deriving DecidableEq, Repr

/-- A slot is named by its index in `cmd_queue`. -/
structure TaskletInfo where
  taskletActive : Bool
  freeCmdList : List ℕ
  usedCmdList : List ℕ
  cmdQueue : ℕ → QueueCmd

namespace TaskletInfo

/-- `list_del_init` of a slot, wherever it is linked. -/
def unlink (t : TaskletInfo) (slot : ℕ) : TaskletInfo :=
  { t with freeCmdList := t.freeCmdList.erase slot, usedCmdList := t.usedCmdList.erase slot }

def addFree (t : TaskletInfo) (slot : ℕ) : TaskletInfo :=
  { t with freeCmdList := t.freeCmdList ++ [slot] }

/-- The locked part of `cam_tasklet_get_cmd`. -/
def getCmd (t : TaskletInfo) : Option (ℕ × TaskletInfo) :=
  match t.freeCmdList with
  | [] => none
  | slot :: rest => some (slot, { t with freeCmdList := rest })

def putCmd (t : TaskletInfo) (slot : ℕ) : TaskletInfo := (t.unlink slot).addFree slot

def dequeueCmd (t : TaskletInfo) : Option (ℕ × TaskletInfo) :=
  match t.usedCmdList with
  | [] => none
  | slot :: rest => some (slot, { t with usedCmdList := rest })

def setCmd (t : TaskletInfo) (slot : ℕ) (cmd : QueueCmd) : TaskletInfo :=
  { t with cmdQueue := Function.update t.cmdQueue slot cmd }

/-- The locked part of `cam_tasklet_enqueue_cmd`. -/
def addUsed (t : TaskletInfo) (slot : ℕ) : TaskletInfo :=
  { t with usedCmdList := t.usedCmdList ++ [slot] }

def setActive (t : TaskletInfo) (b : Bool) : TaskletInfo := { t with taskletActive := b }

end TaskletInfo

/-- `cam_tasklet_init`. -/
def init : TaskletInfo := ⟨false, List.range taskletqSize, [], fun _ => ⟨0, 0⟩⟩

/-! ### The threads -/

/-- An interrupt handler holds a slot; `ready` once its enqueue has seen the tasklet active
and has written the command into the slot. -/
structure Hold where
  caller : ℕ
  slot : ℕ
  ready : Bool
  deriving DecidableEq, Repr

/-- Where a call of `cam_tasklet_start` (cleaning slot `i`, then enabling the tasklet) or
of `cam_tasklet_stop` stands. -/
inductive Phase
  | starting (i : ℕ)
  | enabling
  | clearing
  | killing
  | disabling
  | flushing
  deriving DecidableEq, Repr

/-- Who runs `cam_tasklet_action`: the tasklet itself, or the flush of a stop. -/
inductive Runner
  | tasklet
  | stop (m : ℕ)
  deriving DecidableEq, Repr

/-- A dequeued slot, before or after the call of its handler. -/
structure Hand where
  runner : Runner
  slot : ℕ
  called : Bool
  deriving DecidableEq, Repr

/-- `count`, `scheduled` and `running` are the disable count and the two state bits of the
kernel's tasklet; `schedulers` counts the enqueues that have not yet scheduled it. -/
structure State where
  info : TaskletInfo
  count : ℕ
  scheduled : Bool
  running : Bool
  getters : List ℕ
  held : List Hold
  schedulers : ℕ
  calls : List (ℕ × Phase)
  hands : List Hand
  enqueued : List QueueCmd
  executed : List QueueCmd

def State.init : State := ⟨Tasklet.init, 1, false, false, [], [], 0, [], [], [], []⟩

inductive Op
  | getCheck (caller : ℕ)
  | getTake (caller : ℕ)
  | put (caller slot : ℕ)
  | enqueueCheck (caller slot : ℕ) (cmd : QueueCmd)
  | enqueueAdd (caller slot : ℕ)
  | schedule
  | begin
  | dequeue (runner : Runner)
  | call (runner : Runner) (slot : ℕ)
  | putBack (runner : Runner) (slot : ℕ)
  | start (m : ℕ)
  | stop (m : ℕ)
  | advance (m : ℕ) (phase : Phase)
  deriving DecidableEq

namespace State

def getCheck (s : State) (caller : ℕ) : State :=
  if s.info.taskletActive = true then { s with getters := caller :: s.getters } else s

def getTake (s : State) (caller : ℕ) : State :=
  if caller ∈ s.getters then
    match s.info.getCmd with
    | none => { s with getters := s.getters.erase caller }
    | some (slot, info) =>
      { s with info := info, getters := s.getters.erase caller, held := ⟨caller, slot, false⟩ :: s.held }
  else s

def put (s : State) (caller slot : ℕ) : State :=
  if ⟨caller, slot, false⟩ ∈ s.held then
    { s with info := s.info.putCmd slot, held := s.held.erase ⟨caller, slot, false⟩ }
  else s

/-- With the tasklet inactive the call returns, and its caller has nothing left to do with the slot. -/
def enqueueCheck (s : State) (caller slot : ℕ) (cmd : QueueCmd) : State :=
  if ⟨caller, slot, false⟩ ∈ s.held then
    if s.info.taskletActive = true then
      { s with
        info := s.info.setCmd slot cmd
        held := ⟨caller, slot, true⟩ :: s.held.erase ⟨caller, slot, false⟩ }
    else { s with held := s.held.erase ⟨caller, slot, false⟩ }
  else s

def enqueueAdd (s : State) (caller slot : ℕ) : State :=
  if ⟨caller, slot, true⟩ ∈ s.held then
    { s with
      info := s.info.addUsed slot
      held := s.held.erase ⟨caller, slot, true⟩
      schedulers := s.schedulers + 1
      enqueued := s.enqueued ++ [s.info.cmdQueue slot] }
  else s

/-- `tasklet_hi_schedule`. -/
def schedule (s : State) : State :=
  if 0 < s.schedulers then { s with schedulers := s.schedulers - 1, scheduled := true } else s

/-- The kernel runs a scheduled tasklet that is not disabled and not running. -/
def begin (s : State) : State :=
  if s.scheduled = true ∧ s.count = 0 ∧ s.running = false then
    { s with scheduled := false, running := true }
  else s

def runs (s : State) : Runner → Bool
  | .tasklet => s.running
  | .stop m => (m, .flushing) ∈ s.calls

/-- The end of the loop of `cam_tasklet_action`. -/
def finish (s : State) : Runner → State
  | .tasklet => { s with running := false }
  | .stop m => { s with calls := s.calls.erase (m, .flushing) }

def dequeue (s : State) (runner : Runner) : State :=
  if s.runs runner = true ∧ ∀ hand ∈ s.hands, hand.runner ≠ runner then
    match s.info.dequeueCmd with
    | none => s.finish runner
    | some (slot, info) => { s with info := info, hands := ⟨runner, slot, false⟩ :: s.hands }
  else s

def call (s : State) (runner : Runner) (slot : ℕ) : State :=
  if ⟨runner, slot, false⟩ ∈ s.hands then
    { s with
      hands := ⟨runner, slot, true⟩ :: s.hands.erase ⟨runner, slot, false⟩
      executed := s.executed ++ [s.info.cmdQueue slot] }
  else s

def putBack (s : State) (runner : Runner) (slot : ℕ) : State :=
  if ⟨runner, slot, true⟩ ∈ s.hands then
    { s with info := s.info.putCmd slot, hands := s.hands.erase ⟨runner, slot, true⟩ }
  else s

def start (s : State) (m : ℕ) : State :=
  if s.info.taskletActive = true then s else { s with calls := (m, .starting 0) :: s.calls }

def stop (s : State) (m : ℕ) : State :=
  if s.info.taskletActive = true then { s with calls := (m, .clearing) :: s.calls } else s

/-- The next step of a start or a stop. `tasklet_kill` and `tasklet_disable` wait for the
tasklet; the flush itself is a run of `cam_tasklet_action`. -/
def advance (s : State) (m : ℕ) (phase : Phase) : State :=
  if (m, phase) ∈ s.calls then
    let rest := s.calls.erase (m, phase)
    match phase with
    | .starting i =>
      if i < taskletqSize then
        { s with info := s.info.putCmd i, calls := (m, .starting (i + 1)) :: rest }
      else { s with info := s.info.setActive true, calls := (m, .enabling) :: rest }
    | .enabling => { s with count := s.count - 1, calls := rest }
    | .clearing => { s with info := s.info.setActive false, calls := (m, .killing) :: rest }
    | .killing =>
      if s.scheduled = false ∧ s.running = false then { s with calls := (m, .disabling) :: rest }
      else s
    | .disabling =>
      if s.running = false then { s with count := s.count + 1, calls := (m, .flushing) :: rest }
      else s
    | .flushing => s
  else s

end State

def step (s : State) : Op → State
  | .getCheck caller => s.getCheck caller
  | .getTake caller => s.getTake caller
  | .put caller slot => s.put caller slot
  | .enqueueCheck caller slot cmd => s.enqueueCheck caller slot cmd
  | .enqueueAdd caller slot => s.enqueueAdd caller slot
  | .schedule => s.schedule
  | .begin => s.begin
  | .dequeue runner => s.dequeue runner
  | .call runner slot => s.call runner slot
  | .putBack runner slot => s.putBack runner slot
  | .start m => s.start m
  | .stop m => s.stop m
  | .advance m phase => s.advance m phase

inductive Place
  | free
  | used
  | held (caller : ℕ)
  | executing (runner : Runner)
  deriving DecidableEq, Repr

/-- Every place of a slot, with the slot that is there. -/
def located (s : State) : List (Place × ℕ) :=
  s.info.freeCmdList.map (Prod.mk Place.free) ++ s.info.usedCmdList.map (Prod.mk Place.used) ++
    s.held.map (fun h => (Place.held h.caller, h.slot)) ++
    s.hands.map (fun h => (Place.executing h.runner, h.slot))

/-- The dequeued commands whose handler is still to be called. -/
def waiting (s : State) : List QueueCmd :=
  (s.hands.filter (fun h => !h.called)).map (fun h => s.info.cmdQueue h.slot)

/-- A stop whose flush has still to find the queue empty. -/
def Phase.flushes : Phase → Bool
  | .killing | .disabling | .flushing => true
  | .starting _ | .enabling | .clearing => false

def Flushes (s : State) : Prop := ∃ c ∈ s.calls, c.2.flushes = true

/-- Each slot is in one place; the commands run in the order of their enqueues. A queued command of an
active tasklet is bound to be run, and one of an inactive tasklet is run by the flush of a stop. -/
structure Conserved (s : State) : Prop where
  place : ∀ slot < taskletqSize, ∃! place, (place, slot) ∈ located s
  nodup : (located s).Nodup
  order : s.enqueued = s.executed ++ waiting s ++ s.info.usedCmdList.map s.info.cmdQueue
  bound : s.info.taskletActive = true → s.info.usedCmdList ≠ [] →
    s.scheduled = true ∨ s.running = true ∨ 0 < s.schedulers
  flushed : s.info.taskletActive = false → s.info.usedCmdList ≠ [] → Flushes s

/-- What a call may not meet: an enqueue that finds the tasklet stopped, or that links its command after
the flush of the stop; a start that finds the slot it cleans elsewhere than on the free list; two
overlapping starts or stops. -/
def slotSafe (s : State) : Op → Bool
  | .enqueueCheck _ _ _ => s.info.taskletActive
  | .enqueueAdd _ _ => s.info.taskletActive || s.calls.any fun c => c.2.flushes
  | .start _ => s.calls = []
  | .stop _ => s.calls = []
  | .advance _ (.starting i) => i ≥ taskletqSize || i ∈ s.info.freeCmdList
  | _ => true

def slots (s : State) : List ℕ :=
  s.info.freeCmdList ++ s.info.usedCmdList ++ s.held.map Hold.slot ++ s.hands.map Hand.slot

lemma located_snd (s : State) : (located s).map Prod.snd = slots s := by
  simp [located, slots, Function.comp_def]

/-- What a start or a stop has reached. -/
def Reached (s : State) : Phase → Prop
  | .starting _ => s.info.taskletActive = false ∧ s.count = 1
  | .enabling => s.info.taskletActive = true ∧ s.count = 1
  | .clearing => s.info.taskletActive = true ∧ s.count = 0
  | .killing => s.info.taskletActive = false ∧ s.count = 0
  | .disabling => s.info.taskletActive = false ∧ s.count = 0
  | .flushing => s.info.taskletActive = false ∧ s.count = 1

/-- At most one start or stop is going on; between them the tasklet is enabled when active. -/
def CallsSound (s : State) : Prop :=
  (s.calls = [] ∧ s.count = if s.info.taskletActive then 0 else 1) ∨
    ∃ m phase, s.calls = [(m, phase)] ∧ Reached s phase

structure Inv (s : State) : Prop where
  slots : (slots s).Perm (List.range taskletqSize)
  order : s.enqueued = s.executed ++ waiting s ++ s.info.usedCmdList.map s.info.cmdQueue
  bound : s.info.taskletActive = true → s.info.usedCmdList ≠ [] →
    s.scheduled = true ∨ s.running = true ∨ 0 < s.schedulers
  flushed : s.info.taskletActive = false → s.info.usedCmdList ≠ [] → Flushes s
  calls : CallsSound s
  running : s.running = true → s.count = 0
  hands : s.hands.length ≤ 1
  runs : ∀ hand ∈ s.hands, s.runs hand.runner = true

lemma Inv.nodup {s : State} (h : Inv s) : (Tasklet.slots s).Nodup :=
  h.slots.nodup_iff.mpr List.nodup_range

lemma Inv.held_apart {s : State} (h : Inv s) {x : Hold} (hx : x ∈ s.held) :
    x.slot ∉ s.info.freeCmdList ∧ x.slot ∉ s.info.usedCmdList ∧ ∀ hand ∈ s.hands, hand.slot ≠ x.slot := by
  have hslot : x.slot ∈ s.held.map Hold.slot := List.mem_map.mpr ⟨x, hx, rfl⟩
  have hn := h.nodup
  simp only [Tasklet.slots, List.nodup_append] at hn
  obtain ⟨⟨-, -, hlists⟩, -, hhands⟩ := hn
  refine ⟨fun hf => ?_, fun hu => ?_, fun hand hm heq => ?_⟩
  · exact hlists _ (List.mem_append_left _ hf) _ hslot rfl
  · exact hlists _ (List.mem_append_right _ hu) _ hslot rfl
  · exact hhands _ (List.mem_append_right _ hslot) _ (List.mem_map.mpr ⟨hand, hm, rfl⟩) heq.symm

lemma Inv.hand_apart {s : State} (h : Inv s) {hand : Hand} (hm : hand ∈ s.hands) :
    hand.slot ∉ s.info.freeCmdList ∧ hand.slot ∉ s.info.usedCmdList := by
  have hslot : hand.slot ∈ s.hands.map Hand.slot := List.mem_map.mpr ⟨hand, hm, rfl⟩
  have hn := h.nodup
  simp only [Tasklet.slots, List.nodup_append] at hn
  obtain ⟨-, -, hhands⟩ := hn
  refine ⟨fun hf => ?_, fun hu => ?_⟩
  · exact hhands _ (by simp [hf]) _ hslot rfl
  · exact hhands _ (by simp [hu]) _ hslot rfl

lemma Inv.free_notMem_used {s : State} (h : Inv s) {slot : ℕ} (hf : slot ∈ s.info.freeCmdList) :
    slot ∉ s.info.usedCmdList := by
  have hn := h.nodup
  simp only [Tasklet.slots, List.nodup_append] at hn
  obtain ⟨⟨⟨-, -, hlists⟩, -⟩, -⟩ := hn
  exact fun hu => hlists _ hf _ hu rfl

lemma putCmd_of_notMem {t : TaskletInfo} {slot : ℕ} (hf : slot ∉ t.freeCmdList)
    (hu : slot ∉ t.usedCmdList) : t.putCmd slot = t.addFree slot := by
  simp [TaskletInfo.putCmd, TaskletInfo.unlink, List.erase_of_not_mem hf, List.erase_of_not_mem hu]

lemma inv_init : Inv State.init where
  slots := by simp [slots, State.init, init]
  order := rfl
  bound h := absurd h (by simp [State.init, init])
  flushed _ h := absurd rfl h
  calls := .inl ⟨rfl, rfl⟩
  running h := absurd h (by simp [State.init])
  hands := Nat.zero_le _
  runs hand h := absurd h (by simp [State.init])

lemma runs_congr {s s' : State} (hrunning : s'.running = s.running) (hcalls : s'.calls = s.calls)
    (r : Runner) : s'.runs r = s.runs r := by
  cases r with
  | tasklet => exact hrunning
  | stop m => simp [State.runs, hcalls]

lemma Inv.runner_unique {s : State} (h : Inv s) {r r' : Runner} (hr : s.runs r = true)
    (hr' : s.runs r' = true) : r = r' := by
  have hstop : ∀ m, (m, Phase.flushing) ∈ s.calls → s.calls = [(m, .flushing)] ∧ s.running = false := by
    intro m hm
    rcases h.calls with ⟨hnil, -⟩ | ⟨m', phase, hone, hreach⟩
    · simp [hnil] at hm
    · rw [hone, List.mem_singleton] at hm
      cases hm
      refine ⟨hone, ?_⟩
      cases hrun : s.running with
      | false => rfl
      | true =>
        have h0 := h.running hrun
        have h1 := hreach.2
        omega
  cases r with
  | tasklet =>
    cases r' with
    | tasklet => rfl
    | stop m =>
      have := (hstop m (by simpa [State.runs] using hr')).2
      simp [State.runs, this] at hr
  | stop m =>
    have hm := hstop m (by simpa [State.runs] using hr)
    cases r' with
    | tasklet => simp [State.runs, hm.2] at hr'
    | stop m' =>
      have hm' : (m', Phase.flushing) ∈ s.calls := by simpa [State.runs] using hr'
      rw [hm.1, List.mem_singleton] at hm'
      cases hm'
      rfl

lemma getCheck_inv {s : State} (h : Inv s) (caller : ℕ) : Inv (s.getCheck caller) := by
  unfold State.getCheck
  split
  · exact ⟨h.slots, h.order, h.bound, h.flushed, h.calls, h.running, h.hands, h.runs⟩
  · exact h

lemma CallsSound.congr {s s' : State} (h : CallsSound s) (hcalls : s'.calls = s.calls)
    (hcount : s'.count = s.count) (hactive : s'.info.taskletActive = s.info.taskletActive) : CallsSound s' := by
  rcases h with ⟨hnil, hc⟩ | ⟨m, phase, hone, hreach⟩
  · exact .inl ⟨hcalls.trans hnil, by rw [hcount, hactive, hc]⟩
  · refine .inr ⟨m, phase, hcalls.trans hone, ?_⟩
    cases phase with
    | _ =>
      unfold Reached at hreach ⊢
      rw [hactive, hcount]
      exact hreach

/-- Nothing is queued in an inactive tasklet unless a stop is about to flush it. -/
lemma Inv.used_nil {s : State} (h : Inv s) (hactive : s.info.taskletActive = false) (hidle : ¬Flushes s) :
    s.info.usedCmdList = [] := by
  by_contra hne
  exact hidle (h.flushed hactive hne)

lemma getTake_inv {s : State} (h : Inv s) (caller : ℕ) : Inv (s.getTake caller) := by
  unfold State.getTake TaskletInfo.getCmd
  split
  · cases hf : s.info.freeCmdList with
    | nil => exact ⟨h.slots, h.order, h.bound, h.flushed, h.calls, h.running, h.hands, h.runs⟩
    | cons slot rest =>
      refine ⟨?_, h.order, h.bound, h.flushed, ?_, h.running, h.hands, h.runs⟩
      · refine List.Perm.trans (List.perm_iff_count.mpr fun t => ?_) h.slots
        simp only [slots, hf, List.count_append, List.map_cons, List.count_cons]
        omega
      · exact h.calls.congr rfl rfl rfl
  · exact h

lemma count_slot_erase {l : List Hold} {x : Hold} (hx : x ∈ l) (t : ℕ) :
    (l.map Hold.slot).count t = ((l.erase x).map Hold.slot).count t + if x.slot = t then 1 else 0 := by
  have hperm := ((List.perm_cons_erase hx).map Hold.slot).count_eq t
  simpa [List.count_cons] using hperm

lemma put_inv {s : State} (h : Inv s) (caller slot : ℕ) : Inv (s.put caller slot) := by
  unfold State.put
  split
  · next hm =>
    obtain ⟨hf, hu, -⟩ := h.held_apart hm
    rw [putCmd_of_notMem hf hu]
    refine ⟨?_, h.order, h.bound, h.flushed, ?_, h.running, h.hands, h.runs⟩
    · refine List.Perm.trans (List.perm_iff_count.mpr fun t => ?_) h.slots
      have herase := count_slot_erase hm t
      dsimp only at herase
      simp only [slots, TaskletInfo.addFree, List.count_append, List.count_singleton, beq_iff_eq]
      omega
    · exact h.calls.congr rfl rfl rfl
  · exact h

lemma Inv.setCmd_order {s : State} (h : Inv s) {x : Hold} (hx : x ∈ s.held) (cmd : QueueCmd) :
    s.enqueued = s.executed ++
      (s.hands.filter (fun y => !y.called)).map (fun y => (s.info.setCmd x.slot cmd).cmdQueue y.slot) ++
      s.info.usedCmdList.map (s.info.setCmd x.slot cmd).cmdQueue := by
  obtain ⟨-, hu, hhand⟩ := h.held_apart hx
  have hqueued : s.info.usedCmdList.map (s.info.setCmd x.slot cmd).cmdQueue =
      s.info.usedCmdList.map s.info.cmdQueue := by
    refine List.map_congr_left fun t ht => ?_
    have hne : t ≠ x.slot := fun heq => hu (heq ▸ ht)
    simp [TaskletInfo.setCmd, hne]
  have hwait : (s.hands.filter (fun y => !y.called)).map (fun y => (s.info.setCmd x.slot cmd).cmdQueue y.slot) =
      waiting s := by
    refine List.map_congr_left fun y hy => ?_
    have hne : y.slot ≠ x.slot := hhand y (List.mem_of_mem_filter hy)
    simp [TaskletInfo.setCmd, hne]
  rw [hqueued, hwait]
  exact h.order

lemma enqueueCheck_inv {s : State} (h : Inv s) (caller slot : ℕ) (cmd : QueueCmd)
    (hactive : s.info.taskletActive = true) : Inv (s.enqueueCheck caller slot cmd) := by
  unfold State.enqueueCheck
  split
  · next hm =>
    refine ⟨?_, h.setCmd_order hm cmd, h.bound, h.flushed, ?_, h.running, h.hands, h.runs⟩
    · refine List.Perm.trans (List.perm_iff_count.mpr fun t => ?_) h.slots
      have herase := count_slot_erase hm t
      dsimp only at herase
      simp only [slots, TaskletInfo.setCmd, List.count_append, List.map_cons, List.count_cons, beq_iff_eq]
      omega
    · exact h.calls.congr rfl rfl rfl
  · exact h

lemma enqueueAdd_inv {s : State} (h : Inv s) (caller slot : ℕ)
    (hsafe : slotSafe s (.enqueueAdd caller slot) = true) : Inv (s.enqueueAdd caller slot) := by
  unfold State.enqueueAdd
  split
  · next hm =>
    refine ⟨?_, ?_, fun _ _ => .inr (.inr (Nat.succ_pos _)), fun hact _ => ?_, ?_, h.running, h.hands, h.runs⟩
    · refine List.Perm.trans (List.perm_iff_count.mpr fun t => ?_) h.slots
      have herase := count_slot_erase hm t
      dsimp only at herase
      simp only [slots, TaskletInfo.addUsed, List.count_append, List.count_singleton, beq_iff_eq]
      omega
    · have ho := h.order
      simp only [waiting, TaskletInfo.addUsed, List.map_append, List.map_singleton] at ho ⊢
      rw [ho]
      simp only [List.append_assoc]
    · have hactive : s.info.taskletActive = false := hact
      simpa [slotSafe, hactive, Flushes] using hsafe
    · exact h.calls.congr rfl rfl rfl
  · exact h

lemma schedule_inv {s : State} (h : Inv s) : Inv s.schedule := by
  unfold State.schedule
  split
  · exact ⟨h.slots, h.order, fun _ _ => .inl rfl, h.flushed, h.calls, h.running, h.hands, h.runs⟩
  · exact h

lemma begin_inv {s : State} (h : Inv s) : Inv s.begin := by
  unfold State.begin
  split
  · next hgo =>
    refine ⟨h.slots, h.order, fun _ _ => .inr (.inl rfl), h.flushed, h.calls, fun _ => hgo.2.1, h.hands, ?_⟩
    intro hand hm
    have hrun := h.runs hand hm
    cases hr : hand.runner with
    | tasklet => rfl
    | stop m => simpa [State.runs, hr] using hrun
  · exact h

lemma finish_inv {s : State} (h : Inv s) {runner : Runner} (hrun : s.runs runner = true)
    (hnone : ∀ hand ∈ s.hands, hand.runner ≠ runner) (hempty : s.info.usedCmdList = []) :
    Inv (s.finish runner) := by
  have hhands : s.hands = [] := by
    refine List.eq_nil_iff_forall_not_mem.mpr fun hand hm => ?_
    exact hnone hand hm (h.runner_unique (h.runs hand hm) hrun)
  have hnohand : ∀ hand ∈ s.hands, (s.finish runner).runs hand.runner = true := by simp [hhands]
  cases runner with
  | tasklet =>
    exact ⟨h.slots, h.order, fun _ hne => absurd hempty hne, fun _ hne => absurd hempty hne, h.calls,
      fun hr => absurd hr (by simp [State.finish]), h.hands, hnohand⟩
  | stop m =>
    refine ⟨h.slots, h.order, fun _ hne => absurd hempty hne, fun _ hne => absurd hempty hne, .inl ?_, h.running,
      h.hands, hnohand⟩
    have hm : (m, Phase.flushing) ∈ s.calls := by simpa [State.runs] using hrun
    rcases h.calls with ⟨hnil, -⟩ | ⟨m', phase, hone, hreach⟩
    · simp [hnil] at hm
    · rw [hone, List.mem_singleton] at hm
      cases hm
      refine ⟨by simp [State.finish, hone], ?_⟩
      simp [State.finish, hreach.1, hreach.2]

lemma dequeue_inv {s : State} (h : Inv s) (runner : Runner) : Inv (s.dequeue runner) := by
  unfold State.dequeue TaskletInfo.dequeueCmd
  split
  · next hgo =>
    obtain ⟨hrun, hnone⟩ := hgo
    cases hu : s.info.usedCmdList with
    | nil => exact finish_inv h hrun hnone hu
    | cons slot rest =>
      have hhands : s.hands = [] := by
        refine List.eq_nil_iff_forall_not_mem.mpr fun hand hm => ?_
        exact hnone hand hm (h.runner_unique (h.runs hand hm) hrun)
      refine ⟨?_, ?_, ?_, ?_, ?_, h.running, by simp [hhands], ?_⟩
      · refine List.Perm.trans (List.perm_iff_count.mpr fun t => ?_) h.slots
        simp only [slots, hu, List.count_append, List.map_cons, List.count_cons]
        omega
      · have ho := h.order
        simpa [waiting, hhands, hu] using ho
      · intro hact _
        exact h.bound hact (by simp [hu])
      · intro hact _
        exact h.flushed hact (by simp [hu])
      · exact h.calls.congr rfl rfl rfl
      · intro hand hm
        rw [hhands, List.mem_singleton] at hm
        rw [hm]
        exact (runs_congr (by rfl) (by rfl) _).trans hrun
  · exact h

lemma call_inv {s : State} (h : Inv s) (runner : Runner) (slot : ℕ) : Inv (s.call runner slot) := by
  unfold State.call
  split
  · next hm =>
    have hone : s.hands = [⟨runner, slot, false⟩] := by
      obtain ⟨hand, hhand⟩ := List.length_eq_one_iff.mp
        (Nat.le_antisymm h.hands (List.length_pos_of_mem hm))
      rw [hhand, List.mem_singleton] at hm
      rw [hhand, hm]
    have hrun := h.runs _ hm
    refine ⟨?_, ?_, h.bound, h.flushed, h.calls, h.running, by simp [hone], fun hand hmem => ?_⟩
    · have hs := h.slots
      simpa [slots, hone] using hs
    · have ho := h.order
      simpa [waiting, hone] using ho
    · simp only [hone, List.erase_cons_head, List.mem_singleton] at hmem
      rw [hmem]
      exact (runs_congr (by rfl) (by rfl) _).trans hrun
  · exact h

lemma putBack_inv {s : State} (h : Inv s) (runner : Runner) (slot : ℕ) : Inv (s.putBack runner slot) := by
  unfold State.putBack
  split
  · next hm =>
    obtain ⟨hf, hu⟩ := h.hand_apart hm
    have hone : s.hands = [⟨runner, slot, true⟩] := by
      obtain ⟨hand, hhand⟩ := List.length_eq_one_iff.mp
        (Nat.le_antisymm h.hands (List.length_pos_of_mem hm))
      rw [hhand, List.mem_singleton] at hm
      rw [hhand, hm]
    rw [putCmd_of_notMem hf hu]
    refine ⟨?_, ?_, h.bound, h.flushed, ?_, h.running, by simp [hone], by simp [hone]⟩
    · refine List.Perm.trans (List.perm_iff_count.mpr fun t => ?_) h.slots
      simp only [slots, TaskletInfo.addFree, hone, List.count_append, List.map_cons, List.map_nil, List.erase_cons_head,
        List.count_nil]
      omega
    · have ho := h.order
      simpa [waiting, hone, TaskletInfo.addFree] using ho
    · exact h.calls.congr rfl rfl rfl
  · exact h

/-! ### Start and stop -/

lemma start_inv {s : State} (h : Inv s) (m : ℕ) (hidle : s.calls = []) : Inv (s.start m) := by
  unfold State.start
  split
  · exact h
  · next hactive =>
    rw [Bool.not_eq_true] at hactive
    have hcount : s.count = 1 := by
      rcases h.calls with ⟨-, hc⟩ | ⟨m', phase, hone, -⟩
      · simpa [hactive] using hc
      · simp [hidle] at hone
    have hempty := h.used_nil hactive (by simp [Flushes, hidle])
    refine ⟨h.slots, h.order, h.bound, fun _ hne => absurd hempty hne,
      .inr ⟨m, .starting 0, by simp [hidle], hactive, hcount⟩, h.running, h.hands, fun hand hm => ?_⟩
    have hrun := h.runs hand hm
    cases hr : hand.runner with
    | tasklet => simpa [State.runs, hr] using hrun
    | stop m' => simp [State.runs, hr, hidle] at hrun

lemma stop_inv {s : State} (h : Inv s) (m : ℕ) (hidle : s.calls = []) : Inv (s.stop m) := by
  unfold State.stop
  split
  · next hactive =>
    have hcount : s.count = 0 := by
      rcases h.calls with ⟨-, hc⟩ | ⟨m', phase, hone, -⟩
      · simpa [hactive] using hc
      · simp [hidle] at hone
    refine ⟨h.slots, h.order, h.bound, fun hact => ?_, .inr ⟨m, .clearing, by simp [hidle], hactive, hcount⟩,
      h.running, h.hands, ?_⟩
    · exact absurd (hactive.symm.trans hact) (by simp)
    · intro hand hm
      have hrun := h.runs hand hm
      cases hr : hand.runner with
      | tasklet => simpa [State.runs, hr] using hrun
      | stop m' => simp [State.runs, hr, hidle] at hrun
  · exact h

lemma Inv.hand_tasklet {s : State} (h : Inv s) {m : ℕ} {phase : Phase} (hone : s.calls = [(m, phase)])
    (hphase : phase ≠ .flushing) {hand : Hand} (hm : hand ∈ s.hands) :
    hand.runner = .tasklet ∧ s.running = true := by
  have hrun := h.runs hand hm
  cases hr : hand.runner with
  | tasklet => exact ⟨rfl, by simpa [State.runs, hr] using hrun⟩
  | stop m' =>
    simp only [State.runs, hr, hone, List.mem_singleton, decide_eq_true_eq, Prod.mk.injEq] at hrun
    exact absurd hrun.2.symm hphase

lemma startClean_inv {s : State} (h : Inv s) {m i : ℕ} (hone : s.calls = [(m, .starting i)])
    (hreach : Reached s (.starting i)) (hfree : i ∈ s.info.freeCmdList) :
    Inv { s with info := s.info.putCmd i, calls := [(m, .starting (i + 1))] } := by
  obtain ⟨hactive, hcount⟩ := hreach
  have hused : (s.info.putCmd i).usedCmdList = s.info.usedCmdList :=
    List.erase_of_not_mem (h.free_notMem_used hfree)
  have hempty := h.used_nil hactive (by simp [Flushes, hone, Phase.flushes])
  refine ⟨?_, ?_, ?_, fun _ hne => absurd (hused.trans hempty) hne, .inr ⟨m, _, rfl, hactive, hcount⟩, h.running,
    h.hands, fun hand hm => ?_⟩
  · refine List.Perm.trans (List.perm_iff_count.mpr fun t => ?_) h.slots
    have herase := (List.perm_cons_erase hfree).count_eq t
    rw [List.count_cons] at herase
    simp only [slots, hused, List.count_append]
    simp only [TaskletInfo.putCmd, TaskletInfo.unlink, TaskletInfo.addFree, List.count_append,
      List.count_singleton]
    omega
  · have hcmd : (s.info.putCmd i).cmdQueue = s.info.cmdQueue := rfl
    simpa [waiting, hused, hcmd] using h.order
  · intro hact
    exact absurd hact (by simp [TaskletInfo.putCmd, TaskletInfo.unlink, TaskletInfo.addFree, hactive])
  · obtain ⟨hr, hrun⟩ := h.hand_tasklet hone (by simp) hm
    rw [hr]
    exact hrun

/-- Nothing is queued while a start cleans up, so the tasklet becomes active with an empty queue. -/
lemma startEnable_inv {s : State} (h : Inv s) {m i : ℕ} (hone : s.calls = [(m, .starting i)])
    (hreach : Reached s (.starting i)) :
    Inv { s with info := s.info.setActive true, calls := [(m, .enabling)] } := by
  obtain ⟨hactive, hcount⟩ := hreach
  have hempty := h.used_nil hactive (by simp [Flushes, hone, Phase.flushes])
  refine ⟨h.slots, h.order, fun _ hne => absurd hempty hne, fun _ hne => absurd hempty hne,
    .inr ⟨m, _, rfl, rfl, hcount⟩, h.running, h.hands, fun hand hm => ?_⟩
  obtain ⟨hr, hrun⟩ := h.hand_tasklet hone (by simp) hm
  rw [hr]
  exact hrun

lemma advance_inv {s : State} (h : Inv s) (m : ℕ) (phase : Phase)
    (hsafe : slotSafe s (.advance m phase) = true) : Inv (s.advance m phase) := by
  unfold State.advance
  split
  · next hm =>
    obtain ⟨hone, hreach⟩ : s.calls = [(m, phase)] ∧ Reached s phase := by
      rcases h.calls with ⟨hnil, -⟩ | ⟨m', phase', hone, hreach⟩
      · simp [hnil] at hm
      · rw [hone, List.mem_singleton] at hm
        cases hm
        exact ⟨hone, hreach⟩
    -- Every phase but the flush leaves the runner of a dequeued slot alone.
    have hruns : ∀ s' : State, phase ≠ .flushing → s'.running = s.running → ∀ hand ∈ s.hands,
        s'.runs hand.runner = true := by
      intro s' hphase hrunning hand hmem
      obtain ⟨hr, hrun⟩ := h.hand_tasklet hone hphase hmem
      rw [hr]
      exact hrunning.trans hrun
    simp only [hone, List.erase_cons_head]
    cases phase with
    | starting i =>
      by_cases hi : i < taskletqSize
      · simp only [if_pos hi]
        refine startClean_inv h hone hreach ?_
        have hnot : ¬ taskletqSize ≤ i := by omega
        simpa [slotSafe, hnot] using hsafe
      · simp only [if_neg hi]
        exact startEnable_inv h hone hreach
    | enabling =>
      obtain ⟨hactive, hcount⟩ := hreach
      refine ⟨h.slots, h.order, h.bound, fun hact => ?_, .inl ⟨rfl, ?_⟩, fun hr => ?_, h.hands,
        hruns _ (by simp) rfl⟩
      · exact absurd (hactive.symm.trans hact) (by simp)
      · simp [hactive, hcount]
      · have := h.running hr
        omega
    | clearing =>
      obtain ⟨-, hcount⟩ := hreach
      exact ⟨h.slots, h.order, fun hact => absurd hact (by simp [TaskletInfo.setActive]),
        fun _ _ => ⟨_, List.mem_singleton_self _, rfl⟩, .inr ⟨m, _, rfl, rfl, hcount⟩, h.running, h.hands,
        hruns _ (by simp) rfl⟩
    | killing =>
      dsimp only
      split
      · exact ⟨h.slots, h.order, h.bound, fun _ _ => ⟨_, List.mem_singleton_self _, rfl⟩,
          .inr ⟨m, _, rfl, hreach⟩, h.running, h.hands, hruns _ (by simp) rfl⟩
      · exact h
    | disabling =>
      obtain ⟨hactive, hcount⟩ := hreach
      dsimp only
      split
      · next hidle =>
        refine ⟨h.slots, h.order, h.bound, fun _ _ => ⟨_, List.mem_singleton_self _, rfl⟩,
          .inr ⟨m, _, rfl, hactive, by simp [hcount]⟩, fun hr => ?_, h.hands, hruns _ (by simp) rfl⟩
        simp [hidle] at hr
      · exact h
    | flushing => exact h
  · exact h

lemma step_inv {s : State} (h : Inv s) (op : Op) (hsafe : slotSafe s op = true) : Inv (step s op) := by
  cases op with
  | getCheck caller => exact getCheck_inv h caller
  | getTake caller => exact getTake_inv h caller
  | put caller slot => exact put_inv h caller slot
  | enqueueCheck caller slot cmd => exact enqueueCheck_inv h caller slot cmd hsafe
  | enqueueAdd caller slot => exact enqueueAdd_inv h caller slot hsafe
  | schedule => exact schedule_inv h
  | begin => exact begin_inv h
  | dequeue runner => exact dequeue_inv h runner
  | call runner slot => exact call_inv h runner slot
  | putBack runner slot => exact putBack_inv h runner slot
  | start m => exact start_inv h m (by simpa [slotSafe] using hsafe)
  | stop m => exact stop_inv h m (by simpa [slotSafe] using hsafe)
  | advance m phase => exact advance_inv h m phase hsafe

lemma conserved_of_inv {s : State} (h : Inv s) : Conserved s := by
  have hnodup : ((located s).map Prod.snd).Nodup := by
    rw [located_snd]
    exact h.nodup
  refine ⟨fun slot hslot => ?_, hnodup.of_map _, h.order, h.bound, h.flushed⟩
  have hmem : slot ∈ (located s).map Prod.snd := by
    rw [located_snd]
    exact h.slots.symm.subset (List.mem_range.mpr hslot)
  obtain ⟨⟨place, _⟩, hplace, rfl⟩ := List.mem_map.mp hmem
  refine ⟨place, hplace, fun place' hplace' => ?_⟩
  have heq := List.inj_on_of_nodup_map hnodup hplace' hplace rfl
  exact congrArg Prod.fst heq

/-- The slots are conserved, and the commands run in order, along every run that meets `slotSafe`. -/
theorem run_slotsConserved (ops : List Op)
    (hsafe : Transition.Guarded step (fun s op => slotSafe s op = true) State.init ops) :
    Conserved (Transition.run step State.init ops) :=
  conserved_of_inv
    (Transition.run_invariant (fun s op (h : Inv s) hop => step_inv h op hop) inv_init hsafe)

/-- A whole call of `cam_tasklet_start`, and one of `cam_tasklet_stop` with nothing queued. -/
def startOps (m : ℕ) : List Op :=
  Op.start m :: (List.range (taskletqSize + 1)).map (fun i => Op.advance m (.starting i)) ++ [Op.advance m .enabling]

def stopOps (m : ℕ) : List Op :=
  [.stop m, .advance m .clearing, .advance m .killing, .advance m .disabling, .dequeue (.stop m)]

/-- A start that has cleaned the slots below `k` of a fresh tasklet. -/
def cleaned (m k : ℕ) : State :=
  { State.init with
    info := { init with freeCmdList := List.range' k (taskletqSize - k) ++ List.range k }
    calls := [(m, .starting k)] }

lemma advance_cleaned {m k : ℕ} (hk : k < taskletqSize) :
    step (cleaned m k) (.advance m (.starting k)) = cleaned m (k + 1) := by
  have hsub : taskletqSize - k = (taskletqSize - (k + 1)) + 1 := by omega
  have hfree : (List.range' k (taskletqSize - k) ++ List.range k).erase k ++ [k] =
      List.range' (k + 1) (taskletqSize - (k + 1)) ++ List.range (k + 1) := by
    rw [hsub, List.range'_succ, List.cons_append, List.erase_cons_head, List.range_succ,
      List.append_assoc]
  simp only [step, State.advance, cleaned, List.mem_singleton, if_true, if_pos hk,
    TaskletInfo.putCmd, TaskletInfo.unlink, TaskletInfo.addFree, List.erase_cons_head, hfree]
  rfl

lemma run_cleaning (m k : ℕ) (hk : k ≤ taskletqSize) :
    Transition.Guarded step (fun s op => slotSafe s op = true) (cleaned m 0)
        ((List.range k).map fun i => Op.advance m (.starting i)) ∧
      Transition.run step (cleaned m 0) ((List.range k).map fun i => Op.advance m (.starting i)) =
        cleaned m k := by
  induction k with
  | zero => exact ⟨trivial, rfl⟩
  | succ k ih =>
    obtain ⟨hguard, hrun⟩ := ih (by omega)
    have hsafe : slotSafe (cleaned m k) (.advance m (.starting k)) = true := by
      have hmem : k ∈ List.range' k (taskletqSize - k) := List.mem_range'_1.2 (by omega)
      simp [slotSafe, cleaned, hmem]
    rw [List.range_succ, List.map_append, Transition.guarded_append, Transition.run_append, hrun]
    exact ⟨⟨hguard, hsafe, trivial⟩, advance_cleaned hk⟩

/-- A fresh tasklet, started. -/
def started : State := { State.init with info := init.setActive true, count := 0 }

lemma run_startOps (m : ℕ) :
    Transition.Guarded step (fun s op => slotSafe s op = true) State.init (startOps m) ∧
      Transition.run step State.init (startOps m) = started := by
  obtain ⟨hguard, hrun⟩ := run_cleaning m taskletqSize le_rfl
  have hlast : Transition.run step (cleaned m taskletqSize)
      [.advance m (.starting taskletqSize), .advance m .enabling] = started := by
    simp [step, State.advance, cleaned, started, State.init, TaskletInfo.setActive, init]
  have hstart : step State.init (.start m) = cleaned m 0 := by
    simp [step, State.start, State.init, cleaned, init, List.range_eq_range']
  rw [startOps, List.range_succ, List.map_append, List.cons_append, List.append_assoc]
  refine ⟨⟨rfl, ?_⟩, ?_⟩
  · rw [hstart, Transition.guarded_append, hrun]
    refine ⟨hguard, ?_, rfl, trivial⟩
    simp [slotSafe]
  · rw [Transition.run_cons, hstart, Transition.run_append, hrun]
    exact hlast

lemma startOps_guarded {s : State} (m : ℕ) (hcalls : s.calls = [])
    (hfree : s.info.freeCmdList.Perm (List.range taskletqSize)) :
    Transition.Guarded step (fun s op => slotSafe s op = true) s (startOps m) := by
  have hclean : ∀ (is : List ℕ) (t : State), t.info.freeCmdList.Perm (List.range taskletqSize) →
      Transition.Guarded step (fun s op => slotSafe s op = true) t
        (is.map (fun i => Op.advance m (.starting i)) ++ [Op.advance m .enabling]) := by
    intro is
    induction is with
    | nil => exact fun t _ => ⟨rfl, trivial⟩
    | cons i is ih =>
      intro t ht
      refine ⟨?_, ih _ ?_⟩
      · by_cases hi : taskletqSize ≤ i
        · simp [slotSafe, hi]
        · have hmem : i ∈ t.info.freeCmdList := ht.mem_iff.2 (List.mem_range.2 (by omega))
          simp [slotSafe, hmem]
      · simp only [step, State.advance]
        split_ifs with hm hi
        · have hmem : i ∈ t.info.freeCmdList := ht.mem_iff.2 (List.mem_range.2 hi)
          exact (List.perm_append_singleton i _).trans ((List.perm_cons_erase hmem).symm.trans ht)
        · exact ht
        · exact ht
  refine ⟨by simp [slotSafe, hcalls], hclean _ _ ?_⟩
  simp only [step, State.start]
  split_ifs
  · exact hfree
  · exact hfree

/-- One command from its slot to the end of its handler, and a stop. -/
def oneCommand : List Op :=
  [Op.getCheck 1, .getTake 1, .enqueueCheck 1 0 ⟨7, 8⟩, .enqueueAdd 1 0, .schedule, .begin,
    .dequeue .tasklet, .call .tasklet 0, .putBack .tasklet 0, .dequeue .tasklet] ++ stopOps 0

lemma oneCommand_guarded :
    Transition.Guarded step (fun s op => slotSafe s op = true) started oneCommand := by
  decide +kernel

lemma oneCommand_safe : Transition.Guarded step (fun s op => slotSafe s op = true) State.init
    (startOps 0 ++ oneCommand ++ startOps 0) := by
  obtain ⟨hguard, hrun⟩ := run_startOps 0
  have hfirst := Transition.guarded_append.2 ⟨hguard, hrun.symm ▸ oneCommand_guarded⟩
  have hinv := Transition.run_invariant (fun s op (h : Inv s) hop => step_inv h op hop) inv_init hfirst
  have hend : Transition.run step State.init (startOps 0 ++ oneCommand) =
      Transition.run step started oneCommand := by
    rw [Transition.run_append, hrun]
  refine Transition.guarded_append.2 ⟨hfirst, startOps_guarded 0 ?_ ?_⟩
  · rw [hend]
    rfl
  · have hslots : slots (Transition.run step State.init (startOps 0 ++ oneCommand)) =
        (Transition.run step State.init (startOps 0 ++ oneCommand)).info.freeCmdList := by
      have hidle : (Transition.run step started oneCommand).info.usedCmdList = [] ∧
          (Transition.run step started oneCommand).held = [] ∧
          (Transition.run step started oneCommand).hands = [] := by decide +kernel
      rw [hend, slots, hidle.1, hidle.2.1, hidle.2.2]
      simp
    exact hslots ▸ hinv.slots

theorem oneCommand_slotsConserved :
    Conserved (Transition.run step State.init
      (startOps 0 ++ [Op.getCheck 1, .getTake 1, .enqueueCheck 1 0 ⟨7, 8⟩, .enqueueAdd 1 0, .schedule, .begin,
        .dequeue .tasklet, .call .tasklet 0, .putBack .tasklet 0, .dequeue .tasklet] ++ stopOps 0 ++ startOps 0)) :=
  run_slotsConserved _ (by simpa only [oneCommand, List.append_assoc] using oneCommand_safe)

/-- The tasklet is stopped while a handler holds a slot; its enqueue drops the slot. -/
theorem stoppedBeforeEnqueue_slotLost :
    ¬ Conserved (Transition.run step State.init
      (startOps 0 ++ [Op.getCheck 1, .getTake 1] ++ stopOps 0 ++ [Op.enqueueCheck 1 0 ⟨7, 8⟩])) := by
  intro h
  rw [List.append_assoc, List.append_assoc, Transition.run_append, (run_startOps 0).2] at h
  obtain ⟨place, hplace, -⟩ := h.place 0 (by decide)
  have hlost : ∀ p ∈ located (Transition.run step started
      ([Op.getCheck 1, .getTake 1] ++ (stopOps 0 ++ [Op.enqueueCheck 1 0 ⟨7, 8⟩]))), p.2 ≠ 0 := by
    decide +kernel
  exact hlost _ hplace rfl

end CameraKernel.Tasklet
