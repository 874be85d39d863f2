import CameraKernel.Errno
import CameraKernel.Ring

/-! The queues the host and the ICP firmware share. All indices count words. -/
namespace CameraKernel.Hfi

abbrev Word : Type := BitVec 32

inductive HfiState
  | deinit
  | init
  | ready
  deriving DecidableEq, Repr

inductive QId
  | cmd
  | msg
  | dbg
  deriving DecidableEq, Repr

def icpCmdQSizeInBytes : ℕ := 4096
def icpMsgQSizeInBytes : ℕ := 4096
def icpDbgQSizeInBytes : ℕ := 102400
def icpHfiMaxPktSizeInWords : ℕ := 25600
def icpHfiMaxPktSizeMsgqInWords : ℕ := 256
def byteWordShift : ℕ := 2

/-- The header of a queue with the memory it lies in. -/
structure Queue where
  qSize : ℕ
  readIdx : ℕ
  writeIdx : ℕ
  mem : ℕ → Word

structure HfiInfo where
  hfiState : HfiState
  cmdQState : Bool
  msgQState : Bool
  q : QId → Queue

def HfiInfo.setQ (hfi : HfiInfo) (id : QId) (q : Queue) : HfiInfo :=
  { hfi with q := Function.update hfi.q id q }

@[simp] lemma HfiInfo.setQ_self (hfi : HfiInfo) (id : QId) (q : Queue) : (hfi.setQ id q).q id = q := by
  simp [setQ]

def qSizeInBytes : QId → ℕ
  | .cmd => icpCmdQSizeInBytes
  | .msg => icpMsgQSizeInBytes
  | .dbg => icpDbgQSizeInBytes

/-- A successful initialisation; `mem` is what the buffers hold. -/
def camHfiInit (mem : QId → ℕ → Word) : HfiInfo where
  hfiState := .ready
  cmdQState := true
  msgQState := true
  q id := ⟨qSizeInBytes id >>> byteWordShift, 0, 0, mem id⟩

/-- The words from the read index up to the write index. -/
def Queue.pending (q : Queue) : List Word :=
  Ring.window q.mem q.qSize q.readIdx (Ring.dist q.qSize q.readIdx q.writeIdx)

/-- Both indices lie in the ring. -/
structure Queue.InRing (q : Queue) : Prop where
  read : q.readIdx < q.qSize
  write : q.writeIdx < q.qSize

lemma Queue.pending_length (q : Queue) : q.pending.length = Ring.dist q.qSize q.readIdx q.writeIdx := by
  simp [pending]

lemma Queue.InRing.pending_lt {q : Queue} (h : q.InRing) : q.pending.length < q.qSize := by
  rw [pending_length]
  exact Ring.dist_lt h.read h.write

/-- The consumer takes the first `n` pending words. -/
def Queue.advanceRead (q : Queue) (n : ℕ) : Queue := { q with readIdx := (q.readIdx + n) % q.qSize }

lemma Queue.InRing.advanceRead {q : Queue} (h : q.InRing) (n : ℕ) : (q.advanceRead n).InRing :=
  ⟨Nat.mod_lt _ (by have := h.read; change 0 < q.qSize; omega), h.write⟩

lemma Queue.pending_advanceRead {q : Queue} {n : ℕ} (h : q.InRing) (hn : n ≤ q.pending.length) :
    (q.advanceRead n).pending = q.pending.drop n := by
  rw [pending_length] at hn
  simp only [pending, Queue.advanceRead]
  rw [Ring.dist_add_left h.read h.write hn, Ring.window_drop hn]

/-- The producer copies a block behind the pending words, then shows it. -/
def Queue.fill (q : Queue) (words : List Word) : Queue :=
  { q with mem := Ring.put q.mem q.qSize q.writeIdx words }

def Queue.advanceWrite (q : Queue) (n : ℕ) : Queue := { q with writeIdx := (q.writeIdx + n) % q.qSize }

lemma Queue.InRing.advanceWrite {q : Queue} (h : q.InRing) (n : ℕ) : (q.advanceWrite n).InRing :=
  ⟨h.read, Nat.mod_lt _ (by have := h.read; change 0 < q.qSize; omega)⟩

lemma Queue.pending_fill {q : Queue} {words : List Word} (h : q.InRing)
    (hlen : q.pending.length + words.length ≤ q.qSize) : (q.fill words).pending = q.pending := by
  rw [pending_length] at hlen
  exact Ring.window_put_of_le h.read h.write le_rfl hlen

lemma Queue.pending_advanceWrite {q : Queue} {n : ℕ} (h : q.InRing) (hn : q.pending.length + n < q.qSize) :
    (q.advanceWrite n).pending = q.pending ++ Ring.window q.mem q.qSize q.writeIdx n := by
  rw [pending_length] at hn
  simp only [pending, Queue.advanceWrite]
  rw [Ring.dist_add_right h.read h.write hn, Ring.window_add, Ring.add_dist_mod h.read h.write]

lemma Queue.pending_append {q : Queue} {words : List Word} (h : q.InRing)
    (hlen : q.pending.length + words.length < q.qSize) :
    ((q.fill words).advanceWrite words.length).pending = q.pending ++ words := by
  have hpend := Queue.pending_fill h hlen.le
  have hring : (q.fill words).InRing := ⟨h.read, h.write⟩
  rw [Queue.pending_advanceWrite hring (by rw [hpend]; exact hlen), hpend]
  congr 1
  exact Ring.window_put h.write (by omega)

lemma Queue.window_prefix_pending {q : Queue} {n : ℕ} (hn : n ≤ q.pending.length) :
    Ring.window q.mem q.qSize q.readIdx n <+: q.pending := by
  rw [Queue.pending_length] at hn
  obtain ⟨m, hm⟩ := Nat.exists_eq_add_of_le hn
  rw [Queue.pending, hm, Ring.window_add]
  exact List.prefix_append _ _

/-- The size field of a command, its first word. -/
def sizeInWords (cmd : ℕ → Word) : ℕ := BitVec.toNat (cmd 0) >>> byteWordShift

def emptySpace (q : Queue) : ℕ :=
  if q.writeIdx ≥ q.readIdx then q.qSize - (q.writeIdx - q.readIdx) else q.readIdx - q.writeIdx

/-- The checks, and the words the call then copies. -/
def writeCheck (hfi : HfiInfo) (cmd : ℕ → Word) : Except ℤ (List Word) :=
  if hfi.hfiState ≠ .ready ∨ hfi.cmdQState = false then .error (-Errno.ENODEV)
  else if sizeInWords cmd = 0 then .error (-Errno.EINVAL)
  else if emptySpace (hfi.q .cmd) ≤ sizeInWords cmd then .error (-Errno.EIO)
  else .ok (Ring.load cmd 0 (sizeInWords cmd))

def writeCopy (q : Queue) (words : List Word) : Queue :=
  let newWriteIdx := q.writeIdx + words.length
  if newWriteIdx < q.qSize then { q with mem := Ring.store q.mem q.writeIdx words }
  else
    let newWriteIdx := newWriteIdx - q.qSize
    let temp := words.length - newWriteIdx
    { q with mem := Ring.store (Ring.store q.mem q.writeIdx (words.take temp)) 0 (words.drop temp) }

def writePublish (q : Queue) (words : List Word) : Queue :=
  let newWriteIdx := q.writeIdx + words.length
  { q with writeIdx := if newWriteIdx < q.qSize then newWriteIdx else newWriteIdx - q.qSize }

def hfiWriteCmd (hfi : HfiInfo) (cmd : ℕ → Word) : ℤ × HfiInfo :=
  match writeCheck hfi cmd with
  | .error rc => (rc, hfi)
  | .ok words => (0, hfi.setQ .cmd (writePublish (writeCopy (hfi.q .cmd) words) words))

/-- The entry checks. -/
def readCheck (hfi : HfiInfo) (id : QId) : Except ℤ Unit :=
  if hfi.hfiState ≠ .ready ∨ hfi.msgQState = false then .error (-Errno.ENODEV)
  else if (hfi.q id).readIdx = (hfi.q id).writeIdx then .error (-Errno.EIO)
  else .ok ()

def sizeUpperBound (id : QId) : ℕ :=
  if id = .msg then icpHfiMaxPktSizeMsgqInWords else icpHfiMaxPktSizeInWords

/-- The words found in the queue. -/
def readSize (q : Queue) (id : QId) : ℕ :=
  if q.writeIdx > q.readIdx then q.writeIdx - q.readIdx
  else
    let wordDiff := q.readIdx - q.writeIdx
    if id = .msg then icpMsgQSizeInBytes >>> byteWordShift - wordDiff
    else icpDbgQSizeInBytes >>> byteWordShift - wordDiff

def readCopy (q : Queue) (n : ℕ) : List Word :=
  let newReadIdx := q.readIdx + n
  if newReadIdx < q.qSize then Ring.load q.mem q.readIdx n
  else
    let newReadIdx := newReadIdx - q.qSize
    Ring.load q.mem q.readIdx (n - newReadIdx) ++ Ring.load q.mem 0 newReadIdx

def readPublish (q : Queue) (n : ℕ) : Queue :=
  let newReadIdx := q.readIdx + n
  { q with readIdx := if newReadIdx < q.qSize then newReadIdx else newReadIdx - q.qSize }

/-- What a packet of an invalid size leads to. -/
def readDiscard (q : Queue) : Queue := { q with readIdx := q.writeIdx }

/-- The call without anything in between: its code, the words it returns, and the state. -/
def hfiReadMessage (hfi : HfiInfo) (id : QId) : ℤ × List Word × HfiInfo :=
  match readCheck hfi id with
  | .error rc => (rc, [], hfi)
  | .ok () =>
    let n := readSize (hfi.q id) id
    if n = 0 ∨ n > sizeUpperBound id then (-Errno.EIO, [], hfi.setQ id (readDiscard (hfi.q id)))
    else (0, readCopy (hfi.q id) n, hfi.setQ id (readPublish (hfi.q id) n))

lemma emptySpace_eq {q : Queue} (h : q.InRing) : emptySpace q = q.qSize - q.pending.length := by
  have hr := h.read
  rw [Queue.pending_length, emptySpace, Ring.dist]
  split_ifs <;> omega

lemma writeCopy_eq_fill {q : Queue} {words : List Word} (h : q.InRing) (hlen : words.length ≤ q.qSize) :
    writeCopy q words = q.fill words := by
  have hw := h.write
  simp only [writeCopy, Queue.fill]
  split
  · next hfits => rw [Ring.store_eq_put hfits]
  · next hwrap =>
    rw [show words.length - (q.writeIdx + words.length - q.qSize) = q.qSize - q.writeIdx by omega,
      Ring.store_store_eq_put hw hlen]

lemma writePublish_eq_advanceWrite {q : Queue} {words : List Word} (h : q.InRing)
    (hlen : words.length ≤ q.qSize) : writePublish q words = q.advanceWrite words.length := by
  have hw := h.write
  rw [Queue.advanceWrite, Ring.mod_of_lt_two_mul (by omega), writePublish]

lemma readSize_eq {q : Queue} {id : QId} (h : q.InRing) (hne : q.readIdx ≠ q.writeIdx)
    (hid : id ≠ .cmd) (hsize : q.qSize = qSizeInBytes id >>> byteWordShift) :
    readSize q id = q.pending.length := by
  have hr := h.read
  rw [Queue.pending_length, readSize, Ring.dist, hsize]
  cases id with
  | cmd => exact absurd rfl hid
  | msg =>
    simp only [qSizeInBytes]
    split_ifs <;> omega
  | dbg =>
    simp only [qSizeInBytes]
    split_ifs <;> first | omega | contradiction

lemma readCopy_eq_window {q : Queue} {n : ℕ} (h : q.InRing) (hn : n ≤ q.qSize) :
    readCopy q n = Ring.window q.mem q.qSize q.readIdx n := by
  have hr := h.read
  simp only [readCopy]
  split
  · next hfits => rw [Ring.window_eq_load hfits]
  · next hwrap =>
    rw [Ring.window_eq_load_load hr (by omega) hn,
      show n - (q.readIdx + n - q.qSize) = q.qSize - q.readIdx by omega]

lemma readPublish_eq_advanceRead {q : Queue} {n : ℕ} (h : q.InRing) (hn : n ≤ q.qSize) :
    readPublish q n = q.advanceRead n := by
  have hr := h.read
  rw [Queue.advanceRead, Ring.mod_of_lt_two_mul (by omega), readPublish]

end CameraKernel.Hfi
