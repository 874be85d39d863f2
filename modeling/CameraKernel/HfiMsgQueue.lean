import CameraKernel.Hfi
import CameraKernel.Transition

/-! The queues from the firmware to the host. The firmware appends at any moment, also
while a message is being read, and never overtakes the read index. -/
namespace CameraKernel.Hfi

/-- Where the holder of `hfi_msg_q_mutex` stands. -/
inductive ReadPc
  | idle
  | checked
  | sized (n : ℕ)
  | copied (n : ℕ) (words : List Word)
  | invalid

/-- What one call took out of the queue. -/
inductive Taken
  | returned (words : List Word)
  | dropped (words : List Word)
  deriving DecidableEq

def Taken.words : Taken → List Word
  | .returned words => words
  | .dropped words => words

def Taken.returnedWords : Taken → List Word
  | .returned words => words
  | .dropped _ => []

structure MsgRun where
  hfi : HfiInfo
  pc : ReadPc
  appended : List Word
  taken : List Taken

namespace MsgRun

def start (mem : QId → ℕ → Word) : MsgRun := ⟨camHfiInit mem, .idle, [], []⟩

def queue (s : MsgRun) (id : QId) : Queue := s.hfi.q id

@[simp] lemma queue_setQ (hfi : HfiInfo) (id : QId) (q : Queue) (pc : ReadPc) (appended : List Word)
    (taken : List Taken) : queue ⟨hfi.setQ id q, pc, appended, taken⟩ id = q := HfiInfo.setQ_self _ _ _

def begin (s : MsgRun) (id : QId) : MsgRun :=
  match s.pc, readCheck s.hfi id with
  | .idle, .ok () => { s with pc := .checked }
  | _, _ => s

def size (s : MsgRun) (id : QId) : MsgRun :=
  match s.pc with
  | .checked =>
    let n := readSize (s.queue id) id
    if n = 0 ∨ n > sizeUpperBound id then { s with pc := .invalid } else { s with pc := .sized n }
  | _ => s

def copy (s : MsgRun) (id : QId) : MsgRun :=
  match s.pc with
  | .sized n => { s with pc := .copied n (readCopy (s.queue id) n) }
  | _ => s

def publish (s : MsgRun) (id : QId) : MsgRun :=
  match s.pc with
  | .copied n words =>
    ⟨s.hfi.setQ id (readPublish (s.queue id) n), .idle, s.appended, s.taken ++ [Taken.returned words]⟩
  | _ => s

def discard (s : MsgRun) (id : QId) : MsgRun :=
  match s.pc with
  | .invalid =>
    ⟨s.hfi.setQ id (readDiscard (s.queue id)), .idle, s.appended,
      s.taken ++ [Taken.dropped (s.queue id).pending]⟩
  | _ => s

/-- The firmware waits until the words fit. -/
def fwAppend (s : MsgRun) (id : QId) (words : List Word) : MsgRun :=
  let q := s.queue id
  if q.pending.length + words.length < q.qSize then
    ⟨s.hfi.setQ id ((q.fill words).advanceWrite words.length), s.pc, s.appended ++ words, s.taken⟩
  else s

end MsgRun

inductive MsgOp
  | read
  | size
  | copy
  | publish
  | discard
  | fwAppend (words : List Word)
  deriving DecidableEq

def MsgRun.step (id : QId) (s : MsgRun) : MsgOp → MsgRun
  | .read => s.begin id
  | .size => s.size id
  | .copy => s.copy id
  | .publish => s.publish id
  | .discard => s.discard id
  | .fwAppend words => s.fwAppend id words

/-- No word is lost: what the successful reads returned and what is pending is what was appended. -/
def LosesNothing (id : QId) (s : MsgRun) : Prop :=
  s.taken.flatMap Taken.returnedWords ++ (s.queue id).pending = s.appended

instance (id : QId) (s : MsgRun) : Decidable (LosesNothing id s) :=
  inferInstanceAs (Decidable (_ = s.appended))

/-- A whole call on a queue at rest: it takes all that is pending, and returns it up to the packet limit. -/
structure ReadSound (id : QId) (s : MsgRun) : Prop where
  empty : (s.queue id).pending = [] → hfiReadMessage s.hfi id = (-Errno.EIO, [], s.hfi)
  returned : (s.queue id).pending ≠ [] → (s.queue id).pending.length ≤ sizeUpperBound id →
    (hfiReadMessage s.hfi id).1 = 0 ∧ (hfiReadMessage s.hfi id).2.1 = (s.queue id).pending ∧
      ((hfiReadMessage s.hfi id).2.2.q id).pending = []
  dropped : sizeUpperBound id < (s.queue id).pending.length →
    (hfiReadMessage s.hfi id).1 = -Errno.EIO ∧ ((hfiReadMessage s.hfi id).2.2.q id).pending = []
  stages : (hfiReadMessage s.hfi id).2.2 =
    (Transition.run (MsgRun.step id) s [.read, .size, .copy, .publish, .discard]).hfi

/-- Nothing leaves the queue but by a call, in order; only a call that finds more than
the packet limit drops, and it drops all that is pending. -/
structure MsgSound (id : QId) (s : MsgRun) : Prop where
  inRing : (s.queue id).InRing
  conserved : s.taken.flatMap Taken.words ++ (s.queue id).pending = s.appended
  returned : ∀ words, .returned words ∈ s.taken → words ≠ [] ∧ words.length ≤ sizeUpperBound id
  dropped : ∀ words, .dropped words ∈ s.taken → id = .msg ∧ sizeUpperBound id < words.length
  losesNothing : (∀ words, .dropped words ∉ s.taken) → LosesNothing id s
  call : s.pc = .idle → ReadSound id s

def ReadPcSound (id : QId) (q : Queue) : ReadPc → Prop
  | .idle => True
  | .checked => 0 < q.pending.length
  | .sized n => 0 < n ∧ n ≤ sizeUpperBound id ∧ n ≤ q.pending.length
  | .copied n words => n = words.length ∧ 0 < n ∧ n ≤ sizeUpperBound id ∧ words <+: q.pending
  | .invalid => sizeUpperBound id < q.pending.length

structure MsgInv (id : QId) (s : MsgRun) : Prop where
  up : s.hfi.hfiState = .ready ∧ s.hfi.msgQState = true
  qSize : (s.queue id).qSize = qSizeInBytes id >>> byteWordShift
  inRing : (s.queue id).InRing
  conserved : s.taken.flatMap Taken.words ++ (s.queue id).pending = s.appended
  returned : ∀ words, .returned words ∈ s.taken → words ≠ [] ∧ words.length ≤ sizeUpperBound id
  dropped : ∀ words, .dropped words ∈ s.taken → sizeUpperBound id < words.length ∧
    words.length < qSizeInBytes id >>> byteWordShift
  pc : ReadPcSound id (s.queue id) s.pc

lemma msgInv_start (id : QId) (mem : QId → ℕ → Word) : MsgInv id (MsgRun.start mem) where
  up := ⟨rfl, rfl⟩
  qSize := rfl
  inRing :=
    have hsize : 0 < qSizeInBytes id >>> byteWordShift := by cases id <;> decide
    ⟨hsize, hsize⟩
  conserved := rfl
  returned _ hm := absurd hm (List.not_mem_nil)
  dropped _ hm := absurd hm (List.not_mem_nil)
  pc := trivial

lemma Queue.InRing.pending_pos_iff {q : Queue} (h : q.InRing) : 0 < q.pending.length ↔ q.readIdx ≠ q.writeIdx := by
  rw [Queue.pending_length]
  refine ⟨fun hpos heq => ?_, fun hne => Ring.dist_pos h.read hne⟩
  rw [heq, Ring.dist_self] at hpos
  exact lt_irrefl _ hpos

lemma MsgInv.readCheck_eq {id : QId} {s : MsgRun} (h : MsgInv id s) :
    ((s.queue id).pending = [] ∧ readCheck s.hfi id = .error (-Errno.EIO)) ∨
      (0 < (s.queue id).pending.length ∧ readCheck s.hfi id = .ok ()) := by
  have hup : ¬(s.hfi.hfiState ≠ .ready ∨ s.hfi.msgQState = false) := by simp [h.up.1, h.up.2]
  rw [h.inRing.pending_pos_iff, readCheck, if_neg hup]
  by_cases heq : (s.queue id).readIdx = (s.queue id).writeIdx
  · refine .inl ⟨?_, if_pos heq⟩
    rw [← List.length_eq_zero_iff, Queue.pending_length, heq, Ring.dist_self]
  · exact .inr ⟨heq, if_neg heq⟩

lemma begin_msgInv {id : QId} {s : MsgRun} (h : MsgInv id s) : MsgInv id (s.begin id) := by
  unfold MsgRun.begin
  split
  · next hidle hok =>
    refine ⟨h.up, h.qSize, h.inRing, h.conserved, h.returned, h.dropped, ?_⟩
    obtain ⟨-, hck⟩ | ⟨hpos, -⟩ := h.readCheck_eq
    · rw [hck] at hok
      cases hok
    · exact hpos
  · exact h

lemma size_msgInv {id : QId} {s : MsgRun} (hid : id ≠ .cmd) (h : MsgInv id s) : MsgInv id (s.size id) := by
  unfold MsgRun.size
  split
  · next hpc =>
    have hpos : 0 < (s.queue id).pending.length := by simpa only [hpc, ReadPcSound] using h.pc
    rw [readSize_eq h.inRing (h.inRing.pending_pos_iff.mp hpos) hid h.qSize]
    dsimp only
    split
    · next hbad =>
      refine ⟨h.up, h.qSize, h.inRing, h.conserved, h.returned, h.dropped, ?_⟩
      exact hbad.resolve_left hpos.ne'
    · next hgood =>
      push Not at hgood
      exact ⟨h.up, h.qSize, h.inRing, h.conserved, h.returned, h.dropped, hpos, hgood.2, le_rfl⟩
  · exact h

lemma copy_msgInv {id : QId} {s : MsgRun} (h : MsgInv id s) : MsgInv id (s.copy id) := by
  unfold MsgRun.copy
  split
  · next n hpc =>
    obtain ⟨hpos, hbound, hle⟩ : ReadPcSound id (s.queue id) (.sized n) := by simpa only [hpc] using h.pc
    have hlt := h.inRing.pending_lt
    refine ⟨h.up, h.qSize, h.inRing, h.conserved, h.returned, h.dropped, ?_⟩
    change ReadPcSound id (s.queue id) (.copied n (readCopy (s.queue id) n))
    rw [readCopy_eq_window h.inRing (by omega)]
    exact ⟨(Ring.window_length n).symm, hpos, hbound, Queue.window_prefix_pending hle⟩
  · exact h

lemma publish_msgInv {id : QId} {s : MsgRun} (h : MsgInv id s) : MsgInv id (s.publish id) := by
  unfold MsgRun.publish
  split
  · next n words hpc =>
    obtain ⟨rfl, hpos, hbound, hpre⟩ : ReadPcSound id (s.queue id) (.copied n words) := by
      simpa only [hpc] using h.pc
    have hlt := h.inRing.pending_lt
    have hle := hpre.length_le
    rw [readPublish_eq_advanceRead h.inRing (by omega)]
    refine ⟨h.up, ?_, ?_, ?_, ?_, ?_, trivial⟩
    · rw [MsgRun.queue_setQ]
      exact h.qSize
    · rw [MsgRun.queue_setQ]
      exact h.inRing.advanceRead _
    · rw [MsgRun.queue_setQ, Queue.pending_advanceRead h.inRing hle, ← h.conserved, List.flatMap_append,
        List.append_assoc]
      congr 1
      obtain ⟨rest, hrest⟩ := hpre
      rw [← hrest]
      simp [Taken.words]
    · intro ws hm
      obtain hm | hm := List.mem_append.mp hm
      · exact h.returned ws hm
      · cases List.mem_singleton.mp hm
        exact ⟨List.ne_nil_of_length_pos hpos, hbound⟩
    · intro ws hm
      obtain hm | hm := List.mem_append.mp hm
      · exact h.dropped ws hm
      · cases List.mem_singleton.mp hm
  · exact h

lemma readDiscard_pending (q : Queue) : (readDiscard q).pending = [] := by
  simp [Queue.pending, readDiscard, Ring.dist_self]

lemma discard_msgInv {id : QId} {s : MsgRun} (h : MsgInv id s) : MsgInv id (s.discard id) := by
  unfold MsgRun.discard
  split
  · next hpc =>
    have hlarge : sizeUpperBound id < (s.queue id).pending.length := by
      simpa only [hpc, ReadPcSound] using h.pc
    have hlt := h.inRing.pending_lt
    refine ⟨h.up, ?_, ?_, ?_, ?_, ?_, trivial⟩
    · rw [MsgRun.queue_setQ]
      exact h.qSize
    · rw [MsgRun.queue_setQ]
      exact ⟨h.inRing.write, h.inRing.write⟩
    · rw [MsgRun.queue_setQ, readDiscard_pending, ← h.conserved, List.flatMap_append]
      simp [Taken.words]
    · intro ws hm
      obtain hm | hm := List.mem_append.mp hm
      · exact h.returned ws hm
      · cases List.mem_singleton.mp hm
    · intro ws hm
      obtain hm | hm := List.mem_append.mp hm
      · exact h.dropped ws hm
      · cases List.mem_singleton.mp hm
        exact ⟨hlarge, h.qSize ▸ hlt⟩
  · exact h

lemma ReadPcSound.append {id : QId} {q q' : Queue} {pc : ReadPc} {words : List Word}
    (h : ReadPcSound id q pc) (hq : q'.pending = q.pending ++ words) : ReadPcSound id q' pc := by
  have hlen : q.pending.length ≤ q'.pending.length := by simp [hq]
  cases pc with
  | idle => trivial
  | checked => exact lt_of_lt_of_le h hlen
  | sized n => exact ⟨h.1, h.2.1, h.2.2.trans hlen⟩
  | copied n ws => exact ⟨h.1, h.2.1, h.2.2.1, h.2.2.2.trans (hq ▸ List.prefix_append _ _)⟩
  | invalid => exact lt_of_lt_of_le h hlen

lemma fwAppend_msgInv {id : QId} {s : MsgRun} (h : MsgInv id s) (words : List Word) :
    MsgInv id (s.fwAppend id words) := by
  unfold MsgRun.fwAppend
  dsimp only
  split
  · next hroom =>
    have happ := Queue.pending_append h.inRing hroom
    refine ⟨h.up, ?_, ?_, ?_, h.returned, h.dropped, ?_⟩
    · rw [MsgRun.queue_setQ]
      exact h.qSize
    · rw [MsgRun.queue_setQ]
      have hring : ((s.queue id).fill words).InRing := ⟨h.inRing.read, h.inRing.write⟩
      exact hring.advanceWrite words.length
    · rw [MsgRun.queue_setQ, happ, ← h.conserved, List.append_assoc]
    · rw [MsgRun.queue_setQ]
      exact h.pc.append happ
  · exact h

lemma step_msgInv {id : QId} {s : MsgRun} (hid : id ≠ .cmd) (h : MsgInv id s) (op : MsgOp) :
    MsgInv id (s.step id op) := by
  cases op with
  | read => exact begin_msgInv h
  | size => exact size_msgInv hid h
  | copy => exact copy_msgInv h
  | publish => exact publish_msgInv h
  | discard => exact discard_msgInv h
  | fwAppend words => exact fwAppend_msgInv h words

lemma MsgInv.readSize_eq {id : QId} {s : MsgRun} (hid : id ≠ .cmd) (h : MsgInv id s)
    (hpos : 0 < (s.queue id).pending.length) :
    readSize (s.hfi.q id) id = (s.queue id).pending.length :=
  Hfi.readSize_eq h.inRing (h.inRing.pending_pos_iff.mp hpos) hid h.qSize

lemma MsgInv.readSound {id : QId} {s : MsgRun} (hid : id ≠ .cmd) (h : MsgInv id s) (hpc : s.pc = .idle) :
    ReadSound id s := by
  obtain ⟨hempty, hck⟩ | ⟨hpos, hck⟩ := h.readCheck_eq
  · have hcall : hfiReadMessage s.hfi id = (-Errno.EIO, [], s.hfi) := by simp only [hfiReadMessage, hck]
    have hrun : Transition.run (MsgRun.step id) s [.read, .size, .copy, .publish, .discard] = s := by
      simp [MsgRun.step, MsgRun.begin, MsgRun.size, MsgRun.copy, MsgRun.publish, MsgRun.discard, hpc, hck]
    refine ⟨fun _ => hcall, fun hne => absurd hempty hne, fun hlarge => ?_, by rw [hcall, hrun]⟩
    rw [hempty] at hlarge
    exact absurd hlarge (Nat.not_lt_zero _)
  · have hsize := h.readSize_eq hid hpos
    have hlt := h.inRing.pending_lt
    have hne : (s.queue id).pending ≠ [] := List.ne_nil_of_length_pos hpos
    by_cases hlarge : sizeUpperBound id < (s.queue id).pending.length
    · have hbad : readSize (s.hfi.q id) id = 0 ∨ readSize (s.hfi.q id) id > sizeUpperBound id := by
        rw [hsize]
        exact .inr hlarge
      have hcall : hfiReadMessage s.hfi id =
          (-Errno.EIO, [], s.hfi.setQ id (readDiscard (s.queue id))) := by
        simp only [hfiReadMessage, hck, if_pos hbad]
        rfl
      have hrun : Transition.run (MsgRun.step id) s [.read, .size, .copy, .publish, .discard] =
          ⟨s.hfi.setQ id (readDiscard (s.queue id)), .idle, s.appended,
            s.taken ++ [Taken.dropped (s.queue id).pending]⟩ := by
        simp [MsgRun.step, MsgRun.begin, MsgRun.size, MsgRun.copy, MsgRun.publish, MsgRun.discard, hpc, hck,
          MsgRun.queue, hbad]
      refine ⟨fun hempty => absurd hempty hne, fun _ hle => absurd hlarge (Nat.not_lt.mpr hle), fun _ => ?_, ?_⟩
      · rw [hcall, HfiInfo.setQ_self]
        exact ⟨rfl, readDiscard_pending _⟩
      · rw [hcall, hrun]
    · have hgood : ¬(readSize (s.hfi.q id) id = 0 ∨ readSize (s.hfi.q id) id > sizeUpperBound id) := by
        rw [hsize]
        omega
      have hcall : hfiReadMessage s.hfi id = (0, readCopy (s.queue id) (s.queue id).pending.length,
          s.hfi.setQ id (readPublish (s.queue id) (s.queue id).pending.length)) := by
        simp only [hfiReadMessage, hck, if_neg hgood]
        rw [hsize]
        rfl
      have hrun : (Transition.run (MsgRun.step id) s [.read, .size, .copy, .publish, .discard]).hfi =
          s.hfi.setQ id (readPublish (s.queue id) (s.queue id).pending.length) := by
        rw [← hsize]
        simp [MsgRun.step, MsgRun.begin, MsgRun.size, MsgRun.copy, MsgRun.publish, MsgRun.discard, hpc, hck,
          MsgRun.queue, hgood]
      refine ⟨fun hempty => absurd hempty hne, fun _ _ => ?_, fun hl => absurd hl hlarge, by rw [hcall, hrun]⟩
      rw [hcall, HfiInfo.setQ_self, readCopy_eq_window h.inRing hlt.le,
        readPublish_eq_advanceRead h.inRing hlt.le, Queue.pending_advanceRead h.inRing le_rfl]
      refine ⟨rfl, ?_, List.drop_length⟩
      rw [Queue.pending_length]
      rfl

lemma MsgInv.losesNothing {id : QId} {s : MsgRun} (h : MsgInv id s) (hnone : ∀ words, .dropped words ∉ s.taken) :
    LosesNothing id s := by
  have hsame : s.taken.flatMap Taken.returnedWords = s.taken.flatMap Taken.words := by
    refine List.flatMap_congr fun t ht => ?_
    cases t with
    | returned words => rfl
    | dropped words => exact absurd ht (hnone words)
  rw [LosesNothing, hsame]
  exact h.conserved

/-- In every run of the message or the debug queue, through any interleaving of appends
with the stages of reads, the words taken out followed by the pending ones are those appended. -/
theorem run_msgSound (mem : QId → ℕ → Word) (id : QId) (hid : id ≠ .cmd) (ops : List MsgOp) :
    MsgSound id (Transition.run (MsgRun.step id) (MsgRun.start mem) ops) := by
  have h : MsgInv id (Transition.run (MsgRun.step id) (MsgRun.start mem) ops) :=
    Transition.run_always (fun s op (hs : MsgInv id s) => step_msgInv hid hs op) (msgInv_start id mem) ops
  refine ⟨h.inRing, h.conserved, h.returned, fun words hm => ?_, h.losesNothing, h.readSound hid⟩
  obtain ⟨hlarge, hlt⟩ := h.dropped words hm
  refine ⟨?_, hlarge⟩
  -- the debug queue holds fewer words than its limit
  cases id with
  | cmd => exact absurd rfl hid
  | msg => rfl
  | dbg => exact absurd (hlarge.trans hlt) (by decide)

theorem dbgMessage_msgSound : QId.dbg ≠ .cmd ∧
    MsgSound .dbg (Transition.run (MsgRun.step .dbg) (MsgRun.start fun _ _ => 0)
      [.fwAppend [1, 2], .read, .fwAppend [3], .size, .copy, .publish]) :=
  ⟨by decide, run_msgSound _ .dbg (by decide) _⟩

/-- A burst over the packet limit of the message queue is dropped whole. -/
theorem longBurst_lost : ¬∀ ops, LosesNothing .msg (Transition.run (MsgRun.step .msg)
    (MsgRun.start fun _ _ => 0) ops) := by
  intro h
  exact absurd (h [.fwAppend (List.replicate 257 1), .read, .size, .discard]) (by decide +kernel)

end CameraKernel.Hfi
