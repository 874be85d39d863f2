import CameraKernel.Hfi
import CameraKernel.Transition

/-! The command queue as a FIFO, with a firmware that reads at any moment, also
while a command is being written. -/
namespace CameraKernel.Hfi

/-- Where the holder of `hfi_cmd_q_mutex` stands. -/
inductive WritePc
  | idle
  | checked (words : List Word)
  | copied (words : List Word)

/-- The queues with what has been accepted, and how many words of it the firmware has read. -/
structure CmdRun where
  hfi : HfiInfo
  pc : WritePc
  accepted : List (List Word)
  consumed : ℕ

namespace CmdRun

def start (mem : QId → ℕ → Word) : CmdRun := ⟨camHfiInit mem, .idle, [], 0⟩

def queue (s : CmdRun) : Queue := s.hfi.q .cmd

@[simp] lemma queue_setQ (hfi : HfiInfo) (q : Queue) (pc : WritePc) (accepted : List (List Word))
    (consumed : ℕ) : queue ⟨hfi.setQ .cmd q, pc, accepted, consumed⟩ = q := HfiInfo.setQ_self _ _ _

/-- A call starts only when no other holds the mutex. -/
def begin (s : CmdRun) (cmd : ℕ → Word) : CmdRun :=
  match s.pc, writeCheck s.hfi cmd with
  | .idle, .ok words => { s with pc := .checked words }
  | _, _ => s

def copy (s : CmdRun) : CmdRun :=
  match s.pc with
  | .checked words => ⟨s.hfi.setQ .cmd (writeCopy s.queue words), .copied words, s.accepted, s.consumed⟩
  | _ => s

def publish (s : CmdRun) : CmdRun :=
  match s.pc with
  | .copied words =>
    ⟨s.hfi.setQ .cmd (writePublish s.queue words), .idle, s.accepted ++ [words], s.consumed⟩
  | _ => s

/-- The firmware never reads past the write index. -/
def fwRead (s : CmdRun) (n : ℕ) : CmdRun :=
  let n := min n s.queue.pending.length
  ⟨s.hfi.setQ .cmd (s.queue.advanceRead n), s.pc, s.accepted, s.consumed + n⟩

end CmdRun

inductive CmdOp
  | write (cmd : ℕ → Word)
  | copy
  | publish
  | fwRead (n : ℕ)

def CmdRun.step (s : CmdRun) : CmdOp → CmdRun
  | .write cmd => s.begin cmd
  | .copy => s.copy
  | .publish => s.publish
  | .fwRead n => s.fwRead n

/-- A command is accepted exactly when it has words and leaves a word free. -/
def Fits (q : Queue) (cmd : ℕ → Word) : Prop :=
  sizeInWords cmd ≠ 0 ∧ sizeInWords cmd < q.qSize - q.pending.length

/-- A whole call on a queue at rest. -/
structure CallSound (s : CmdRun) (cmd : ℕ → Word) : Prop where
  accepted : (hfiWriteCmd s.hfi cmd).1 = 0 ↔ Fits s.queue cmd
  stages : (hfiWriteCmd s.hfi cmd).2 = (Transition.run CmdRun.step s [.write cmd, .copy, .publish]).hfi
  enqueued : Fits s.queue cmd →
    ((hfiWriteCmd s.hfi cmd).2.q .cmd).pending = s.queue.pending ++ Ring.load cmd 0 (sizeInWords cmd)
  refused : ¬Fits s.queue cmd → (hfiWriteCmd s.hfi cmd).2 = s.hfi

/-- What the command queue is for. -/
structure FifoSound (s : CmdRun) : Prop where
  inRing : s.queue.InRing
  content : s.queue.pending = s.accepted.flatten.drop s.consumed
  consumed : s.consumed ≤ s.accepted.flatten.length
  checked : ∀ cmd, s.pc = .idle → ((s.begin cmd).pc = .checked (Ring.load cmd 0 (sizeInWords cmd)) ↔
    Fits s.queue cmd)
  kept : ∀ op, ∀ k < s.queue.pending.length,
    (s.step op).queue.mem ((s.queue.readIdx + k) % s.queue.qSize) =
      s.queue.mem ((s.queue.readIdx + k) % s.queue.qSize)
  call : ∀ cmd, s.pc = .idle → CallSound s cmd

/-- What a started call has established. -/
def PcSound (q : Queue) : WritePc → Prop
  | .idle => True
  | .checked words => q.pending.length + words.length < q.qSize
  | .copied words => q.pending.length + words.length < q.qSize ∧
      Ring.window q.mem q.qSize q.writeIdx words.length = words

structure CmdInv (s : CmdRun) : Prop where
  up : s.hfi.hfiState = .ready ∧ s.hfi.cmdQState = true
  inRing : s.queue.InRing
  content : s.queue.pending = s.accepted.flatten.drop s.consumed
  consumed : s.consumed ≤ s.accepted.flatten.length
  pc : PcSound s.queue s.pc

lemma cmdInv_start (mem : QId → ℕ → Word) : CmdInv (CmdRun.start mem) where
  up := ⟨rfl, rfl⟩
  inRing :=
    have hsize : 0 < icpCmdQSizeInBytes >>> byteWordShift := by decide
    ⟨hsize, hsize⟩
  content := rfl
  consumed := le_rfl
  pc := trivial

lemma CmdInv.writeCheck_eq {s : CmdRun} (h : CmdInv s) (cmd : ℕ → Word) :
    (Fits s.queue cmd ∧ writeCheck s.hfi cmd = .ok (Ring.load cmd 0 (sizeInWords cmd))) ∨
      (¬Fits s.queue cmd ∧ ∃ rc : ℤ, rc ≠ 0 ∧ writeCheck s.hfi cmd = .error rc) := by
  have hup : ¬(s.hfi.hfiState ≠ .ready ∨ s.hfi.cmdQState = false) := by simp [h.up.1, h.up.2]
  have hspace : emptySpace (s.hfi.q .cmd) = s.queue.qSize - s.queue.pending.length := emptySpace_eq h.inRing
  rw [writeCheck, if_neg hup, hspace]
  split
  · next hzero => exact .inr ⟨fun hf => hf.1 hzero, _, by decide, rfl⟩
  · next hsize =>
    split
    · next hfull => exact .inr ⟨fun hf => Nat.not_lt.mpr hfull hf.2, _, by decide, rfl⟩
    · next hroom => exact .inl ⟨⟨hsize, Nat.not_le.mp hroom⟩, rfl⟩

lemma begin_inv {s : CmdRun} (h : CmdInv s) (cmd : ℕ → Word) : CmdInv (s.begin cmd) := by
  unfold CmdRun.begin
  split
  · next words hidle hok =>
    refine ⟨h.up, h.inRing, h.content, h.consumed, ?_⟩
    obtain ⟨hfits, hck⟩ | ⟨-, rc, -, hck⟩ := h.writeCheck_eq cmd
    · rw [hck] at hok
      cases hok
      have hroom := hfits.2
      change s.queue.pending.length + _ < s.queue.qSize
      rw [Ring.load_length]
      omega
    · rw [hck] at hok
      cases hok
  · exact h

lemma copy_inv {s : CmdRun} (h : CmdInv s) : CmdInv s.copy := by
  unfold CmdRun.copy
  split
  · next words hpc =>
    have hroom : s.queue.pending.length + words.length < s.queue.qSize := by
      simpa only [hpc, PcSound] using h.pc
    have hpend := Queue.pending_fill h.inRing hroom.le
    rw [writeCopy_eq_fill h.inRing (by omega)]
    refine ⟨h.up, ?_, ?_, h.consumed, ?_⟩
    · rw [CmdRun.queue_setQ]
      exact ⟨h.inRing.read, h.inRing.write⟩
    · rw [CmdRun.queue_setQ, hpend]
      exact h.content
    · rw [CmdRun.queue_setQ]
      refine ⟨?_, Ring.window_put h.inRing.write (by omega)⟩
      rw [hpend]
      exact hroom
  · exact h

lemma publish_inv {s : CmdRun} (h : CmdInv s) : CmdInv s.publish := by
  unfold CmdRun.publish
  split
  · next words hpc =>
    obtain ⟨hroom, hwords⟩ : PcSound s.queue (.copied words) := by
      simpa only [hpc] using h.pc
    rw [writePublish_eq_advanceWrite h.inRing (by omega)]
    refine ⟨h.up, ?_, ?_, ?_, trivial⟩
    · rw [CmdRun.queue_setQ]
      exact h.inRing.advanceWrite words.length
    · rw [CmdRun.queue_setQ, Queue.pending_advanceWrite h.inRing hroom, hwords, h.content,
        List.flatten_append, List.drop_append_of_le_length h.consumed]
      simp
    · rw [List.flatten_append, List.length_append]
      exact h.consumed.trans (Nat.le_add_right _ _)
  · exact h

lemma PcSound.advanceRead {q : Queue} {pc : WritePc} {n : ℕ} (h : PcSound q pc) (hq : q.InRing)
    (hn : n ≤ q.pending.length) : PcSound (q.advanceRead n) pc := by
  have hless : (q.advanceRead n).pending.length ≤ q.pending.length := by
    rw [Queue.pending_advanceRead hq hn, List.length_drop]
    omega
  cases pc with
  | idle => trivial
  | checked words => exact (Nat.add_le_add_right hless _).trans_lt h
  | copied words => exact ⟨(Nat.add_le_add_right hless _).trans_lt h.1, h.2⟩

lemma fwRead_inv {s : CmdRun} (h : CmdInv s) (n : ℕ) : CmdInv (s.fwRead n) := by
  obtain ⟨m, hm⟩ : ∃ m, m = min n s.queue.pending.length := ⟨_, rfl⟩
  have hle : m ≤ s.queue.pending.length := hm ▸ min_le_right _ _
  simp only [CmdRun.fwRead, ← hm]
  refine ⟨h.up, ?_, ?_, ?_, ?_⟩
  · rw [CmdRun.queue_setQ]
    exact h.inRing.advanceRead m
  · rw [CmdRun.queue_setQ, Queue.pending_advanceRead h.inRing hle, h.content, List.drop_drop]
  · have hlen : s.queue.pending.length = s.accepted.flatten.length - s.consumed := by
      rw [h.content, List.length_drop]
    have hc := h.consumed
    change s.consumed + m ≤ s.accepted.flatten.length
    omega
  · rw [CmdRun.queue_setQ]
    exact h.pc.advanceRead h.inRing hle

lemma step_cmdInv {s : CmdRun} (h : CmdInv s) (op : CmdOp) : CmdInv (s.step op) := by
  cases op with
  | write cmd => exact begin_inv h cmd
  | copy => exact copy_inv h
  | publish => exact publish_inv h
  | fwRead n => exact fwRead_inv h n

lemma CmdInv.checked {s : CmdRun} (h : CmdInv s) {cmd : ℕ → Word} (hpc : s.pc = .idle) :
    (s.begin cmd).pc = .checked (Ring.load cmd 0 (sizeInWords cmd)) ↔ Fits s.queue cmd := by
  obtain ⟨hfits, hck⟩ | ⟨hnot, rc, -, hck⟩ := h.writeCheck_eq cmd
  · simp [CmdRun.begin, hpc, hck, hfits]
  · simp [CmdRun.begin, hpc, hck, hnot]

lemma CmdInv.kept {s : CmdRun} (h : CmdInv s) (op : CmdOp) {k : ℕ} (hk : k < s.queue.pending.length) :
    (s.step op).queue.mem ((s.queue.readIdx + k) % s.queue.qSize) =
      s.queue.mem ((s.queue.readIdx + k) % s.queue.qSize) := by
  cases op with
  | write cmd =>
    simp only [CmdRun.step, CmdRun.begin]
    split <;> rfl
  | copy =>
    simp only [CmdRun.step, CmdRun.copy]
    split
    · next words hpc =>
      have hroom : s.queue.pending.length + words.length < s.queue.qSize := by
        simpa only [hpc, PcSound] using h.pc
      rw [CmdRun.queue_setQ, writeCopy_eq_fill h.inRing (by omega)]
      rw [Queue.pending_length] at hk hroom
      exact Ring.put_of_lt h.inRing.read h.inRing.write hk hroom.le
    · rfl
  | publish =>
    simp only [CmdRun.step, CmdRun.publish]
    split
    · rw [CmdRun.queue_setQ]
      rfl
    · rfl
  | fwRead n =>
    simp only [CmdRun.step, CmdRun.fwRead, CmdRun.queue_setQ]
    rfl

lemma CmdInv.callSound {s : CmdRun} (h : CmdInv s) (cmd : ℕ → Word) (hpc : s.pc = .idle) : CallSound s cmd := by
  obtain ⟨hfits, hck⟩ | ⟨hnot, rc, hrc, hck⟩ := h.writeCheck_eq cmd
  · obtain ⟨words, hwords⟩ : ∃ words, words = Ring.load cmd 0 (sizeInWords cmd) := ⟨_, rfl⟩
    rw [← hwords] at hck
    have hcall : hfiWriteCmd s.hfi cmd =
        (0, s.hfi.setQ .cmd (writePublish (writeCopy s.queue words) words)) := by
      simp only [hfiWriteCmd, hck]
      rfl
    have hrun : Transition.run CmdRun.step s [.write cmd, .copy, .publish] =
        ⟨s.hfi.setQ .cmd (writePublish (writeCopy s.queue words) words), .idle, s.accepted ++ [words],
          s.consumed⟩ := by
      simp [CmdRun.step, CmdRun.begin, CmdRun.copy, CmdRun.publish, hpc, hck, CmdRun.queue, HfiInfo.setQ]
    refine ⟨by simp [hcall, hfits], by rw [hcall, hrun], fun _ => ?_, fun hnot => absurd hfits hnot⟩
    have hlen : words.length = sizeInWords cmd := by rw [hwords, Ring.load_length]
    have hroom : s.queue.pending.length + words.length < s.queue.qSize := by
      have hlt := hfits.2
      omega
    have hring : (s.queue.fill words).InRing := ⟨h.inRing.read, h.inRing.write⟩
    rw [hcall, ← hwords, HfiInfo.setQ_self, writeCopy_eq_fill h.inRing (by omega),
      writePublish_eq_advanceWrite hring (by change _ ≤ s.queue.qSize; omega),
      Queue.pending_append h.inRing hroom]
  · have hcall : hfiWriteCmd s.hfi cmd = (rc, s.hfi) := by simp only [hfiWriteCmd, hck]
    have hrun : Transition.run CmdRun.step s [.write cmd, .copy, .publish] = s := by
      simp [CmdRun.step, CmdRun.begin, CmdRun.copy, CmdRun.publish, hpc, hck]
    exact ⟨by simp [hcall, hrc, hnot], by rw [hcall, hrun], fun hfits => absurd hfits hnot, fun _ => by rw [hcall]⟩

/-- From the initialised queue on, through any interleaving of the stages of
commands of any size with firmware reads, the queue is a FIFO. -/
theorem run_fifoSound (mem : QId → ℕ → Word) (ops : List CmdOp) :
    FifoSound (Transition.run CmdRun.step (CmdRun.start mem) ops) := by
  have h : CmdInv (Transition.run CmdRun.step (CmdRun.start mem) ops) :=
    Transition.run_always (fun s op (hs : CmdInv s) => step_cmdInv hs op) (cmdInv_start mem) ops
  exact ⟨h.inRing, h.content, h.consumed, fun _ hpc => h.checked hpc, fun op _ hk => h.kept op hk,
    fun cmd hpc => h.callSound cmd hpc⟩

end CameraKernel.Hfi
