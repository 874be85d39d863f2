import CameraKernel.HfiMsgQueue
import CameraKernel.PacketWalk

/-! The packets of the firmware. Both loops step through what one read of a queue has delivered: the
messages by the length that their handling returns, the debug packets by their size. The handling of
an event is taken to return, which it does not on a fatal error of the system. -/
namespace CameraKernel.IcpMessages
open Hfi (QId Word sizeUpperBound)
open PacketWalk (Layout Safe Good)

/-- What a read has delivered, and what the buffer holds behind it. -/
structure Delivered (id : QId) where
  words : List Word
  behind : ℕ → Word
  nonempty : words ≠ []
  bounded : words.length ≤ sizeUpperBound id

/-- What the reads of a queue return. -/
def Delivered.ofTaken {id : QId} {s : Hfi.MsgRun} (h : Hfi.MsgInv id s) {words : List Word}
    (hw : .returned words ∈ s.taken) (behind : ℕ → Word) : Delivered id :=
  ⟨words, behind, (h.returned words hw).1, (h.returned words hw).2⟩

inductive PktType
  | sysInitDone
  | sysPcPrepDone
  | sysDebug
  | sysPingAck
  | eventNotify
  | createHandleAck
  | asyncCommandDirectAck
  | asyncCommandIndirectAck
  deriving DecidableEq, Repr

def PktType.ofWord (w : Word) : Option PktType :=
  if w = 0x20001 then some .sysInitDone
  else if w = 0x20002 then some .sysPcPrepDone
  else if w = 0x20003 then some .sysDebug
  else if w = 0x20006 then some .sysPingAck
  else if w = 0x20008 then some .eventNotify
  else if w = 0x1020008 then some .createHandleAck
  else if w = 0x102000a then some .asyncCommandDirectAck
  else if w = 0x102000e then some .asyncCommandIndirectAck
  else none

namespace Delivered
variable {id : QId} (d : Delivered id)

def len : ℕ := d.words.length

def word (i : ℕ) : Word := d.words.getD i (d.behind i)

def size (ptr : ℕ) : Word := d.word ptr

def pktType (ptr : ℕ) : Option PktType := PktType.ofWord (d.word (ptr + 1))

/-- The length that `cam_icp_process_msg_pkt_type` returns for a message. -/
def msgProcessedLen (ptr : ℕ) : Word :=
  match d.pktType ptr with
  | some .sysInitDone => d.size ptr
  | some .sysPcPrepDone => 12
  | some .sysPingAck => 16
  | some .createHandleAck => 32
  | some .asyncCommandIndirectAck => d.size ptr
  | some .asyncCommandDirectAck => d.size ptr
  | some .eventNotify => d.size ptr
  | some .sysDebug => 0
  | none => 0

structure MsgState where
  ptr : ℕ
  readLen : Word
  deriving DecidableEq, Repr

/-- A round of the loop of `cam_icp_mgr_process_msg`. -/
def msgBody (s : MsgState) : ℤ ⊕ MsgState :=
  if d.msgProcessedLen s.ptr = 0 then .inl (-Errno.EINVAL)
  else if s.readLen - d.msgProcessedLen s.ptr > 0 then
    .inr ⟨s.ptr + (d.msgProcessedLen s.ptr >>> 2).toNat, s.readLen - d.msgProcessedLen s.ptr⟩
  else .inl 0

def msgStart : MsgState := ⟨0, BitVec.ofNat 32 d.len <<< 2⟩

/-- The words that a round reads. -/
def msgReads (ptr : ℕ) : List ℕ :=
  match d.pktType ptr with
  | some .sysInitDone => [ptr + 1, ptr]
  | some .asyncCommandIndirectAck => [ptr + 1, ptr]
  | some .asyncCommandDirectAck => [ptr + 1, ptr]
  | some .eventNotify => [ptr + 1, ptr]
  | _ => [ptr + 1]

structure DbgState where
  ptr : ℕ
  sizeProcessed : Word
  deriving DecidableEq, Repr

/-- A round of the loop of `cam_icp_mgr_process_dbg_buf`. -/
def dbgBody (s : DbgState) : Unit ⊕ DbgState :=
  if s.sizeProcessed + d.size s.ptr >>> 2 ≥ BitVec.ofNat 32 d.len then .inl ()
  else .inr ⟨s.ptr + (d.size s.ptr >>> 2).toNat, s.sizeProcessed + d.size s.ptr >>> 2⟩

def dbgStart : DbgState := ⟨0, 0⟩

/-- The type, the two words of the timestamp of a debug message, and the size. -/
def dbgReads (ptr : ℕ) : List ℕ :=
  if d.pktType ptr = some .sysDebug then [ptr + 1, ptr + 4, ptr + 5, ptr] else [ptr + 1, ptr]

/-- Header and payload, in whole words, and not beyond what was delivered. -/
def complete (ptr : ℕ) : Bool :=
  8 ≤ (d.size ptr).toNat && (d.size ptr).toNat % 4 = 0 && ptr + (d.size ptr).toNat / 4 ≤ d.len

def layout : Layout where
  len := d.len
  complete := d.complete
  width ptr := (d.size ptr).toNat / 4
  width_pos ptr h := by
    simp only [complete, Bool.and_eq_true, decide_eq_true_eq] at h
    omega
  inside ptr h := by
    simp only [complete, Bool.and_eq_true, decide_eq_true_eq] at h
    exact h.2

def msgFits (ptr : ℕ) : Prop := ∀ i ∈ d.msgReads ptr, i < d.len

def dbgFits (ptr : ℕ) : Prop := ∀ i ∈ d.dbgReads ptr, i < d.len

def MsgSafe : Prop := Safe d.layout d.msgBody (·.ptr) d.msgFits d.msgStart

def DbgSafe : Prop := Safe d.layout d.dbgBody (·.ptr) d.dbgFits dbgStart

/-- The length is zero, or all that is left. -/
def msgStops (ptr : ℕ) : Prop :=
  d.msgProcessedLen ptr = 0 ∨ (d.msgProcessedLen ptr).toNat = 4 * (d.len - ptr)

def msgNext (ptr : ℕ) : ℕ := ptr + (d.msgProcessedLen ptr).toNat / 4

/-- The size goes to the end or behind it. -/
def dbgStops (ptr : ℕ) : Prop := d.len ≤ ptr + (d.size ptr).toNat / 4

def dbgNext (ptr : ℕ) : ℕ := ptr + (d.size ptr).toNat / 4

def MsgGood : Prop := Good d.layout d.msgFits d.msgStops d.msgNext 0

def DbgGood : Prop := Good d.layout d.dbgFits d.dbgStops d.dbgNext 0

structure MsgInv (s : MsgState) : Prop where
  ptr : s.ptr < d.len
  readLen : s.readLen.toNat = 4 * (d.len - s.ptr)

variable {d}

lemma len_pos : 0 < d.len := List.length_pos_iff.mpr d.nonempty

lemma len_le : d.len ≤ 25600 := by
  refine le_trans d.bounded ?_
  rw [sizeUpperBound]
  split_ifs <;> decide

lemma msgInv_start : d.MsgInv d.msgStart := by
  refine ⟨len_pos, ?_⟩
  have hlen := d.len_le
  rw [msgStart, BitVec.toNat_shiftLeft, BitVec.toNat_ofNat, Nat.shiftLeft_eq,
    Nat.mod_eq_of_lt (by omega : d.len < 2 ^ 32), Nat.mod_eq_of_lt (by omega)]
  exact Nat.mul_comm _ _

lemma toNat_shiftRight_two (w : Word) : (w >>> 2).toNat = w.toNat / 4 := by
  rw [BitVec.toNat_ushiftRight, Nat.shiftRight_eq_div_pow]

lemma MsgInv.stops_iff {s : MsgState} (h : d.MsgInv s) :
    d.msgStops s.ptr ↔ ∃ r, d.msgBody s = .inl r := by
  have hread := h.readLen
  rw [msgStops, ← hread, BitVec.toNat_inj, msgBody]
  split_ifs with hzero hleft
  · simp [hzero]
  · simp
    grind
  · simp
    grind

lemma next_of_msgBody {s t : MsgState} (h : d.msgBody s = .inr t) : t.ptr = d.msgNext s.ptr := by
  rw [msgBody] at h
  split_ifs at h
  cases h
  rw [msgNext, toNat_shiftRight_two]

lemma msgProcessedLen_mod {ptr : ℕ} (h : d.layout.complete ptr) :
    (d.msgProcessedLen ptr).toNat % 4 = 0 := by
  have hsize : (d.size ptr).toNat % 4 = 0 := by
    simp only [layout, complete, Bool.and_eq_true, decide_eq_true_eq] at h
    exact h.1.2
  rw [msgProcessedLen]
  split
  all_goals first | exact hsize | rfl

lemma MsgInv.step {s t : MsgState} (h : d.MsgInv s) (hb : d.msgBody s = .inr t)
    (hc : d.layout.complete s.ptr) (ht : t.ptr = s.ptr + d.layout.width s.ptr) : d.MsgInv t := by
  have hin := d.layout.inside _ hc
  have hmod := msgProcessedLen_mod hc
  have hnext := next_of_msgBody hb
  have hread := h.readLen
  have hptr := h.ptr
  rw [msgNext] at hnext
  rw [msgBody] at hb
  split_ifs at hb with hzero hleft
  have hlen : d.layout.len = d.len := rfl
  have hle : (d.msgProcessedLen s.ptr).toNat ≤ s.readLen.toNat := by omega
  have hsub := BitVec.toNat_sub_of_le (BitVec.le_def.mpr hle)
  have hpos : 0 < (s.readLen - d.msgProcessedLen s.ptr).toNat := hleft
  have ht' : t.readLen = s.readLen - d.msgProcessedLen s.ptr := by cases hb; rfl
  constructor
  · omega
  · rw [ht', hsub]
    omega

theorem msgSafe_iff : d.MsgSafe ↔ d.MsgGood :=
  PacketWalk.safe_iff_walk (fun _ hs _ => hs.stops_iff) (fun _ _ _ => next_of_msgBody)
    (fun _ _ hs => hs.step) msgInv_start

variable (d) in
structure DbgInv (s : DbgState) : Prop where
  ptr : s.ptr < d.len
  sizeProcessed : s.sizeProcessed.toNat = s.ptr

lemma dbgInv_start : d.DbgInv dbgStart := ⟨len_pos, rfl⟩

lemma DbgInv.toNat_processed {s : DbgState} (h : d.DbgInv s) :
    (s.sizeProcessed + d.size s.ptr >>> 2).toNat = s.ptr + (d.size s.ptr).toNat / 4 := by
  have hptr := h.ptr
  have hlen := d.len_le
  have hsize := (d.size s.ptr).isLt
  rw [BitVec.toNat_add, h.sizeProcessed, toNat_shiftRight_two, Nat.mod_eq_of_lt (by omega)]

lemma DbgInv.le_iff {s : DbgState} (h : d.DbgInv s) :
    s.sizeProcessed + d.size s.ptr >>> 2 ≥ BitVec.ofNat 32 d.len ↔ d.dbgStops s.ptr := by
  have hlen := d.len_le
  rw [ge_iff_le, BitVec.le_def, h.toNat_processed, BitVec.toNat_ofNat, Nat.mod_eq_of_lt (by omega),
    dbgStops]

lemma DbgInv.stops_iff {s : DbgState} (h : d.DbgInv s) :
    d.dbgStops s.ptr ↔ ∃ r, d.dbgBody s = .inl r := by
  rw [dbgBody, ← h.le_iff]
  split_ifs with hstop <;> simp [hstop]

lemma next_of_dbgBody {s t : DbgState} (h : d.dbgBody s = .inr t) : t.ptr = d.dbgNext s.ptr := by
  rw [dbgBody] at h
  split_ifs at h
  cases h
  rw [dbgNext, toNat_shiftRight_two]

lemma DbgInv.step {s t : DbgState} (h : d.DbgInv s) (hb : d.dbgBody s = .inr t) : d.DbgInv t := by
  have hnext := next_of_dbgBody hb
  rw [dbgBody] at hb
  split_ifs at hb with hstop
  rw [h.le_iff, dbgStops, not_le] at hstop
  have ht : t.sizeProcessed = s.sizeProcessed + d.size s.ptr >>> 2 := by cases hb; rfl
  exact ⟨hnext ▸ hstop, by rw [ht, h.toNat_processed, hnext, dbgNext]⟩

theorem dbgSafe_iff : d.DbgSafe ↔ d.DbgGood :=
  PacketWalk.safe_iff_walk (fun _ hs _ => hs.stops_iff) (fun _ _ _ => next_of_dbgBody)
    (fun _ _ hs hb _ _ => hs.step hb) dbgInv_start

end Delivered

theorem streams_safe_iff (msg : Delivered .msg) (dbg : Delivered .dbg) :
    msg.MsgSafe ∧ dbg.DbgSafe ↔ msg.MsgGood ∧ dbg.DbgGood :=
  and_congr Delivered.msgSafe_iff Delivered.dbgSafe_iff

/-- A debug packet of size zero. -/
def zeroSize : Delivered .dbg := ⟨[0, 0x20003], fun _ => 0, by decide, by decide⟩

theorem zeroSize_unsafe : zeroSize.dbgBody Delivered.dbgStart = .inr Delivered.dbgStart ∧
    ¬∀ (msg : Delivered .msg) (dbg : Delivered .dbg), msg.MsgSafe ∧ dbg.DbgSafe := by
  refine ⟨by decide, fun h => ?_⟩
  have hgood := Delivered.dbgSafe_iff.mp (h ⟨[0], fun _ => 0, by decide, by decide⟩ zeroSize).2
  rw [Delivered.DbgGood, PacketWalk.good_of_not_complete (by decide)] at hgood
  exact absurd hgood.2 (by unfold Delivered.dbgStops; decide)

end CameraKernel.IcpMessages
