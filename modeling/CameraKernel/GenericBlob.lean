import CameraKernel.Errno
import CameraKernel.MachineInt
import CameraKernel.WhileLoop

/-! The parser of generic blob command buffers. A buffer is a memory of bytes, a
pointer into it a byte index; the handler and its user data are parameters. The
parser logs the blobs it hands out and the places of the words it reads. -/
namespace CameraKernel.GenericBlob
open MachineInt

abbrev Memory := ℕ → UInt8

def slice (mem : Memory) (p n : ℕ) : List UInt8 := (List.range' p n).map mem

/-- The fields of `struct cam_cmd_buf_desc` the parser reads. -/
structure CmdBufDesc where
  offset : UInt32
  size : UInt32
  length : UInt32
  deriving DecidableEq, Repr

/-- What `cam_mem_get_cpu_buf` returns and stores. -/
structure CpuBuf where
  rc : ℤ
  cpuAddr : ℕ
  bufSize : ℕ
  deriving DecidableEq, Repr

/-- What the handler is called with: the type, and the bytes of the size it is given. -/
structure Blob where
  blobType : ℕ
  blobData : List UInt8
  deriving DecidableEq, Repr

variable {σ : Type*}

abbrev BlobHandler (σ : Type*) := σ → Blob → ℤ × σ

structure BlobState (σ : Type*) where
  rc : ℤ
  lenRead : ℕ
  blobPtr : ℕ
  userData : σ
  calls : List Blob
  reads : List ℕ

/-- A little-endian word. -/
def readWord (mem : Memory) (p : ℕ) : ℕ :=
  (mem p).toNat + 0x100 * (mem (p + 1)).toNat + 0x10000 * (mem (p + 2)).toNat +
    0x1000000 * (mem (p + 3)).toNat

def blobTypeAt (mem : Memory) (p : ℕ) : ℕ := readWord mem p % 0x100

def blobSizeAt (mem : Memory) (p : ℕ) : ℕ := readWord mem p / 0x100

/-- Header and payload, the payload rounded up to words. -/
def blobBlockSize (blobSize : ℕ) : ℕ := 4 + (blobSize + 4 - 1) / 4 * 4

def blobAt (mem : Memory) (p : ℕ) : Blob :=
  ⟨blobTypeAt mem p, slice mem (p + 4) (blobSizeAt mem p)⟩

/-- The loop of `cam_packet_util_process_generic_cmd_buffer`. -/
def blobBody (mem : Memory) (handler : BlobHandler σ) (length : ℕ) (s : BlobState σ) :
    (ℤ × BlobState σ) ⊕ BlobState σ :=
  if s.lenRead < length then
    let s := { s with reads := s.reads ++ [s.blobPtr] }
    let block := blobBlockSize (blobSizeAt mem s.blobPtr)
    if u32Add s.lenRead block > length then .inl (-Errno.EINVAL, s)
    else
      let blob := blobAt mem s.blobPtr
      let r := handler s.userData blob
      let s := { s with
        rc := r.1
        lenRead := u32Add s.lenRead block
        userData := r.2
        calls := s.calls ++ [blob] }
      if r.1 ≠ 0 then .inl (r.1, s) else .inr { s with blobPtr := s.blobPtr + 4 * (block / 4) }
  else .inl (s.rc, s)

def afterRound : (ℤ × BlobState σ) ⊕ BlobState σ → BlobState σ
  | .inl r => r.2
  | .inr s => s

/-- The checks before the loop, with the code returned when one of them fails. -/
def checkCmdBuf (cmdBuf : CmdBufDesc) (cpu : CpuBuf) : Option ℤ :=
  if cmdBuf.length = 0 ∨ cmdBuf.size = 0 then some (-Errno.EINVAL)
  else if cpu.rc ≠ 0 ∨ cpu.cpuAddr = 0 ∨ cpu.bufSize = 0 then some cpu.rc
  else if cpu.bufSize < 4 ∨ cmdBuf.offset.toNat > cpu.bufSize - 4 then some cpu.rc
  else if cpu.bufSize - cmdBuf.offset.toNat < cmdBuf.length.toNat then some cpu.rc
  else none

def blobStart (cmdBuf : CmdBufDesc) (cpu : CpuBuf) (userData : σ) : BlobState σ :=
  ⟨cpu.rc, 0, cmdBuf.offset.toNat, userData, [], []⟩

/-- The call returns `ret` and leaves the final state `s`. -/
def CamPacketUtilProcessGenericCmdBuffer (cmdBuf : CmdBufDesc) (cpu : CpuBuf) (mem : Memory)
    (handler : BlobHandler σ) (userData : σ) (ret : ℤ) (s : BlobState σ) : Prop :=
  match checkCmdBuf cmdBuf cpu with
  | some rc => ret = rc ∧ s = blobStart cmdBuf cpu userData
  | none => WhileLoop.Returns (blobBody mem handler cmdBuf.length.toNat)
      (blobStart cmdBuf cpu userData) (ret, s)

/-- The call comes to the head of its loop in state `s`. -/
def EntersLoop (cmdBuf : CmdBufDesc) (cpu : CpuBuf) (mem : Memory) (handler : BlobHandler σ)
    (userData : σ) (s : BlobState σ) : Prop :=
  checkCmdBuf cmdBuf cpu = none ∧
    WhileLoop.Reaches (blobBody mem handler cmdBuf.length.toNat) (blobStart cmdBuf cpu userData) s

/-- The bytes are a concatenation of blobs: a type byte and three size bytes, the payload,
and padding to a multiple of 4. -/
inductive BlobSeq : List UInt8 → List Blob → Prop
  | nil : BlobSeq [] []
  | cons (t s₀ s₁ s₂ : UInt8) (data pad : List UInt8) {rest : List UInt8} {bs : List Blob}
      (hsize : data.length = s₀.toNat + 0x100 * s₁.toNat + 0x10000 * s₂.toNat)
      (hpad : pad.length < 4) (halign : 4 ∣ data.length + pad.length) (hrest : BlobSeq rest bs) :
      BlobSeq (t :: s₀ :: s₁ :: s₂ :: (data ++ pad ++ rest)) (⟨t.toNat, data⟩ :: bs)

/-- The handler returns 0 for each blob in turn. -/
def AllHandled (handler : BlobHandler σ) : σ → List Blob → Prop
  | _, [] => True
  | u, b :: bs => (handler u b).1 = 0 ∧ AllHandled handler (handler u b).2 bs

/-- A buffer was asked for and given. -/
def Obtained (cmdBuf : CmdBufDesc) (cpu : CpuBuf) : Prop :=
  cmdBuf.length ≠ 0 ∧ cmdBuf.size ≠ 0 ∧ cpu.rc = 0 ∧ cpu.cpuAddr ≠ 0 ∧ cpu.bufSize ≠ 0

def Accepted (cmdBuf : CmdBufDesc) (cpu : CpuBuf) (mem : Memory) (handler : BlobHandler σ)
    (userData : σ) : Prop :=
  Obtained cmdBuf cpu ∧ cmdBuf.offset.toNat + cmdBuf.length.toNat ≤ cpu.bufSize ∧
    ∃ bs, BlobSeq (slice mem cmdBuf.offset.toNat cmdBuf.length.toNat) bs ∧
      AllHandled handler userData bs

/-- The parser returns 0 exactly on the buffers of the grammar whose blobs are all handled,
hands out exactly their blobs, and reads no word outside the region. -/
structure ParsesGrammar (cmdBuf : CmdBufDesc) (cpu : CpuBuf) (mem : Memory)
    (handler : BlobHandler σ) (userData : σ) : Prop where
  accepts : (∃ s, CamPacketUtilProcessGenericCmdBuffer cmdBuf cpu mem handler userData 0 s) ↔
    Accepted cmdBuf cpu mem handler userData
  calls : ∀ s, CamPacketUtilProcessGenericCmdBuffer cmdBuf cpu mem handler userData 0 s →
    BlobSeq (slice mem cmdBuf.offset.toNat cmdBuf.length.toNat) s.calls
  reads : ∀ s, EntersLoop cmdBuf cpu mem handler userData s →
    ∀ p ∈ (afterRound (blobBody mem handler cmdBuf.length.toNat s)).reads,
      cmdBuf.offset.toNat ≤ p ∧ p + 4 ≤ cmdBuf.offset.toNat + cmdBuf.length.toNat

/-- The parser comes to place `pos` of the region after handing out `bs`, each of them a
blob that ends inside the region and was handled. -/
inductive Walk (mem : Memory) (handler : BlobHandler σ) (offset length : ℕ) (userData : σ) :
    σ → ℕ → List Blob → Prop
  | start : Walk mem handler offset length userData userData 0 []
  | next {u : σ} {pos : ℕ} {bs : List Blob} (h : Walk mem handler offset length userData u pos bs)
      (hle : pos + blobBlockSize (blobSizeAt mem (offset + pos)) ≤ length)
      (hok : (handler u (blobAt mem (offset + pos))).1 = 0) :
      Walk mem handler offset length userData (handler u (blobAt mem (offset + pos))).2
        (pos + blobBlockSize (blobSizeAt mem (offset + pos))) (bs ++ [blobAt mem (offset + pos)])

/-- The header at `pos` is cut off by the end of the region, or the blob ends past the
range of the 32-bit position and the handler takes it. -/
def Derails (mem : Memory) (handler : BlobHandler σ) (offset length : ℕ) (u : σ) (pos : ℕ) : Prop :=
  pos < length ∧ (length < pos + 4 ∨
    (u32Max < pos + blobBlockSize (blobSizeAt mem (offset + pos)) ∧
      (handler u (blobAt mem (offset + pos))).1 = 0))

/-- The calls on which the parser does what the grammar says. -/
def Parsable (cmdBuf : CmdBufDesc) (cpu : CpuBuf) (mem : Memory) (handler : BlobHandler σ)
    (userData : σ) : Prop :=
  cmdBuf.length = 0 ∨ cmdBuf.size = 0 ∨ cpu.rc ≠ 0 ∨
    (Obtained cmdBuf cpu ∧ cmdBuf.offset.toNat + cmdBuf.length.toNat ≤ cpu.bufSize ∧
      ∀ u pos bs,
        Walk mem handler cmdBuf.offset.toNat cmdBuf.length.toNat userData u pos bs →
        ¬Derails mem handler cmdBuf.offset.toNat cmdBuf.length.toNat u pos)

lemma length_slice (mem : Memory) (p n : ℕ) : (slice mem p n).length = n := by
  simp [slice]

lemma slice_add (mem : Memory) (p a b : ℕ) :
    slice mem p (a + b) = slice mem p a ++ slice mem (p + a) b := by
  simp [slice, ← List.map_append]

lemma slice_succ (mem : Memory) (p n : ℕ) : slice mem p (n + 1) = mem p :: slice mem (p + 1) n := by
  simp [slice, List.range'_succ]

lemma slice_eq_append {mem : Memory} {p n : ℕ} {xs ys : List UInt8} (h : slice mem p n = xs ++ ys) :
    xs = slice mem p xs.length ∧ ys = slice mem (p + xs.length) (n - xs.length) := by
  have hlen : n = xs.length + ys.length := by
    simpa [length_slice] using congrArg List.length h
  rw [hlen, slice_add] at h
  obtain ⟨hx, hy⟩ := List.append_inj h (by simp [length_slice])
  exact ⟨hx.symm, by rw [hlen, Nat.add_sub_cancel_left]; exact hy.symm⟩

lemma BlobSeq.append {xs ys : List UInt8} {bs cs : List Blob} (h : BlobSeq xs bs)
    (h' : BlobSeq ys cs) : BlobSeq (xs ++ ys) (bs ++ cs) := by
  induction h with
  | nil => exact h'
  | cons t s₀ s₁ s₂ data pad hsize hpad halign _ ih =>
    simpa using BlobSeq.cons t s₀ s₁ s₂ data pad hsize hpad halign ih

lemma blobTypeAt_eq (mem : Memory) (p : ℕ) : blobTypeAt mem p = (mem p).toNat := by
  have := (mem p).toNat_lt
  simp only [blobTypeAt, readWord]
  omega

lemma blobSizeAt_eq (mem : Memory) (p : ℕ) : blobSizeAt mem p =
    (mem (p + 1)).toNat + 0x100 * (mem (p + 2)).toNat + 0x10000 * (mem (p + 3)).toNat := by
  have := (mem p).toNat_lt
  simp only [blobSizeAt, readWord]
  omega

lemma blobSizeAt_lt (mem : Memory) (p : ℕ) : blobSizeAt mem p < 0x1000000 := by
  have h₁ := (mem (p + 1)).toNat_lt
  have h₂ := (mem (p + 2)).toNat_lt
  have h₃ := (mem (p + 3)).toNat_lt
  rw [blobSizeAt_eq]
  omega

lemma blobSeq_block (mem : Memory) (p : ℕ) :
    BlobSeq (slice mem p (blobBlockSize (blobSizeAt mem p))) [blobAt mem p] := by
  obtain ⟨size, hsize⟩ : ∃ size, size = blobSizeAt mem p := ⟨_, rfl⟩
  obtain ⟨pad, hpad⟩ : ∃ pad, blobBlockSize size = size + pad + 1 + 1 + 1 + 1 ∧ pad < 4 ∧
      4 ∣ size + pad := ⟨blobBlockSize size - size - 4, by simp only [blobBlockSize]; omega⟩
  rw [← hsize, hpad.1, slice_succ, slice_succ, slice_succ, slice_succ, slice_add]
  have h := BlobSeq.cons (mem p) (mem (p + 1)) (mem (p + 2)) (mem (p + 3))
    (slice mem (p + 4) size) (slice mem (p + 4 + size) pad)
    (by rw [length_slice, hsize, blobSizeAt_eq]) (by rw [length_slice]; exact hpad.2.1)
    (by rw [length_slice, length_slice]; exact hpad.2.2) .nil
  rw [List.append_nil] at h
  rwa [blobAt, blobTypeAt_eq, ← hsize]

lemma BlobSeq.uncons {mem : Memory} {p n : ℕ} {bs : List Blob} (h : BlobSeq (slice mem p n) bs)
    (hn : n ≠ 0) : ∃ cs, bs = blobAt mem p :: cs ∧ blobBlockSize (blobSizeAt mem p) ≤ n ∧
      BlobSeq (slice mem (p + blobBlockSize (blobSizeAt mem p))
        (n - blobBlockSize (blobSizeAt mem p))) cs := by
  obtain ⟨xs, hxs⟩ : ∃ xs, xs = slice mem p n := ⟨_, rfl⟩
  rw [← hxs] at h
  cases h with
  | nil => exact absurd (congrArg List.length hxs) (by simp [length_slice, hn.symm])
  | @cons t s₀ s₁ s₂ data pad rest cs hsize hpad halign hrest =>
    have hlen : data.length + pad.length + rest.length + 4 = n := by
      simpa [length_slice, add_assoc] using congrArg List.length hxs
    obtain ⟨m, rfl⟩ : ∃ m, n = m + 1 + 1 + 1 + 1 := ⟨n - 4, by omega⟩
    rw [slice_succ, slice_succ, slice_succ, slice_succ] at hxs
    simp only [List.cons.injEq] at hxs
    obtain ⟨rfl, rfl, rfl, rfl, hbytes⟩ := hxs
    have hdata : blobSizeAt mem p = data.length := by rw [blobSizeAt_eq, hsize]
    have hblock : blobBlockSize (blobSizeAt mem p) = 4 + data.length + pad.length := by
      rw [hdata, blobBlockSize]
      omega
    obtain ⟨hfront, hback⟩ := slice_eq_append hbytes.symm
    obtain ⟨hslice, -⟩ := slice_eq_append (n := data.length + pad.length)
      (by simpa using hfront.symm)
    refine ⟨cs, ?_, by omega, ?_⟩
    · rw [blobAt, blobTypeAt_eq, hdata]
      exact congrArg (fun d => Blob.mk _ d :: cs) hslice
    · rw [hblock]
      rw [List.length_append] at hback
      convert hrest using 1
      rw [hback]
      congr 1 <;> omega

lemma blobBlockSize_ge (size : ℕ) : 4 ≤ blobBlockSize size := Nat.le_add_right 4 _

lemma blobBlockSize_mul (size : ℕ) : 4 * (blobBlockSize size / 4) = blobBlockSize size := by
  simp only [blobBlockSize]
  omega

lemma blobBlockSize_lt (mem : Memory) (p : ℕ) : blobBlockSize (blobSizeAt mem p) < 0x2000000 := by
  have := blobSizeAt_lt mem p
  simp only [blobBlockSize]
  omega

variable {mem : Memory} {handler : BlobHandler σ} {offset length : ℕ} {userData : σ}
  {s : BlobState σ}

/-- The loop stands on the walk, and has read only words of the region. -/
structure OnWalk (mem : Memory) (handler : BlobHandler σ) (offset length : ℕ) (userData : σ)
    (s : BlobState σ) : Prop where
  rc : s.rc = 0
  le : s.lenRead ≤ length
  ptr : s.blobPtr = offset + s.lenRead
  walk : Walk mem handler offset length userData s.userData s.lenRead s.calls
  reads : ∀ p ∈ s.reads, offset ≤ p ∧ p + 4 ≤ offset + length

lemma blobBody_end (h : length ≤ s.lenRead) : blobBody mem handler length s = .inl (s.rc, s) := by
  rw [blobBody, if_neg (by omega)]

lemma blobBody_invalid (hlt : s.lenRead < length)
    (h : length < u32Add s.lenRead (blobBlockSize (blobSizeAt mem s.blobPtr))) :
    blobBody mem handler length s = .inl (-Errno.EINVAL, { s with reads := s.reads ++ [s.blobPtr] }) := by
  simp [blobBody, hlt, h]

/-- The state after the blob at the pointer has been handled. -/
def handled (mem : Memory) (handler : BlobHandler σ) (s : BlobState σ) : BlobState σ where
  rc := (handler s.userData (blobAt mem s.blobPtr)).1
  lenRead := u32Add s.lenRead (blobBlockSize (blobSizeAt mem s.blobPtr))
  blobPtr := s.blobPtr
  userData := (handler s.userData (blobAt mem s.blobPtr)).2
  calls := s.calls ++ [blobAt mem s.blobPtr]
  reads := s.reads ++ [s.blobPtr]

lemma blobBody_refused (hlt : s.lenRead < length)
    (h : u32Add s.lenRead (blobBlockSize (blobSizeAt mem s.blobPtr)) ≤ length)
    (hrc : (handler s.userData (blobAt mem s.blobPtr)).1 ≠ 0) :
    blobBody mem handler length s =
      .inl ((handler s.userData (blobAt mem s.blobPtr)).1, handled mem handler s) := by
  simp [blobBody, hlt, Nat.not_lt.mpr h, hrc, handled]

lemma blobBody_handled (hlt : s.lenRead < length)
    (h : u32Add s.lenRead (blobBlockSize (blobSizeAt mem s.blobPtr)) ≤ length)
    (hrc : (handler s.userData (blobAt mem s.blobPtr)).1 = 0) :
    blobBody mem handler length s = .inr { handled mem handler s with
      blobPtr := s.blobPtr + blobBlockSize (blobSizeAt mem s.blobPtr) } := by
  simp [blobBody, hlt, Nat.not_lt.mpr h, hrc, handled, blobBlockSize_mul]

lemma blobPtr_mem_reads (hlt : s.lenRead < length) :
    s.blobPtr ∈ (afterRound (blobBody mem handler length s)).reads := by
  by_cases h : length < u32Add s.lenRead (blobBlockSize (blobSizeAt mem s.blobPtr))
  · simp [blobBody_invalid hlt h, afterRound]
  · by_cases hrc : (handler s.userData (blobAt mem s.blobPtr)).1 = 0
    · simp [blobBody_handled hlt (Nat.not_lt.mp h) hrc, afterRound, handled]
    · simp [blobBody_refused hlt (Nat.not_lt.mp h) hrc, afterRound, handled]

lemma OnWalk.reads_append (h : OnWalk mem handler offset length userData s)
    (hfit : s.lenRead + 4 ≤ length) :
    ∀ p ∈ s.reads ++ [s.blobPtr], offset ≤ p ∧ p + 4 ≤ offset + length := by
  intro p hp
  rcases List.mem_append.mp hp with hp | hp
  · exact h.reads p hp
  · have := h.ptr
    rw [List.mem_singleton] at hp
    omega

lemma OnWalk.step (h : OnWalk mem handler offset length userData s) (hmax : length ≤ u32Max)
    (hlt : s.lenRead < length)
    (hle : s.lenRead + blobBlockSize (blobSizeAt mem s.blobPtr) ≤ length)
    (hrc : (handler s.userData (blobAt mem s.blobPtr)).1 = 0) :
    ∃ t, blobBody mem handler length s = .inr t ∧ OnWalk mem handler offset length userData t ∧
      t.lenRead = s.lenRead + blobBlockSize (blobSizeAt mem s.blobPtr) ∧
      t.userData = (handler s.userData (blobAt mem s.blobPtr)).2 := by
  have hadd := u32Add_of_le (hle.trans hmax)
  have hfit := blobBlockSize_ge (blobSizeAt mem s.blobPtr)
  have hadd_le := hadd ▸ hle
  refine ⟨_, blobBody_handled hlt hadd_le hrc, ⟨hrc, hadd_le, ?_, ?_, ?_⟩, hadd, rfl⟩
  · change s.blobPtr + _ = offset + u32Add _ _
    rw [hadd, h.ptr, add_assoc]
  · have hw := h.walk.next (h.ptr ▸ hle) (h.ptr ▸ hrc)
    rw [← h.ptr] at hw
    simpa only [handled, hadd] using hw
  · exact h.reads_append (by omega)

lemma OnWalk.cases (h : OnWalk mem handler offset length userData s) (hmax : length ≤ u32Max)
    (hok : ¬Derails mem handler offset length s.userData s.lenRead) :
    (s.lenRead = length ∧ blobBody mem handler length s = .inl (0, s)) ∨
    (∃ r, blobBody mem handler length s = .inl r ∧ r.1 ≠ 0 ∧
      ∀ p ∈ r.2.reads, offset ≤ p ∧ p + 4 ≤ offset + length) ∨
    ∃ t, blobBody mem handler length s = .inr t ∧ OnWalk mem handler offset length userData t ∧
      s.lenRead < t.lenRead := by
  have hle := h.le
  by_cases hlt : s.lenRead < length
  · have hfit : s.lenRead + 4 ≤ length := by
      by_contra hcut
      exact hok ⟨hlt, .inl (by omega)⟩
    by_cases hinv : length < u32Add s.lenRead (blobBlockSize (blobSizeAt mem s.blobPtr))
    · refine .inr (.inl ⟨_, blobBody_invalid hlt hinv, ?_, h.reads_append hfit⟩)
      norm_num [Errno.EINVAL]
    · by_cases hrc : (handler s.userData (blobAt mem s.blobPtr)).1 = 0
      · have hend : s.lenRead + blobBlockSize (blobSizeAt mem s.blobPtr) ≤ u32Max := by
          by_contra hwrap
          exact hok ⟨hlt, .inr ⟨by rw [← h.ptr]; omega, h.ptr ▸ hrc⟩⟩
        rw [u32Add_of_le hend, Nat.not_lt] at hinv
        obtain ⟨t, hbody, hat, hlen, -⟩ := h.step hmax hlt hinv hrc
        have hpos := blobBlockSize_ge (blobSizeAt mem s.blobPtr)
        exact .inr (.inr ⟨t, hbody, hat, by omega⟩)
      · exact .inr (.inl ⟨_, blobBody_refused hlt (Nat.not_lt.mp hinv) hrc, hrc, h.reads_append hfit⟩)
  · exact .inl ⟨by omega, h.rc ▸ blobBody_end (Nat.not_lt.mp hlt)⟩

/-! ### Whole runs -/

lemma Walk.blobSeq {u : σ} {pos : ℕ} {bs : List Blob}
    (h : Walk mem handler offset length userData u pos bs) : BlobSeq (slice mem offset pos) bs := by
  induction h with
  | start => exact .nil
  | next _ _ _ ih =>
    rw [slice_add]
    exact ih.append (blobSeq_block mem _)

lemma Walk.allHandled {u : σ} {pos : ℕ} {bs : List Blob}
    (h : Walk mem handler offset length userData u pos bs) :
    ∀ cs, AllHandled handler u cs → AllHandled handler userData (bs ++ cs) := by
  induction h with
  | start => exact fun cs hcs => hcs
  | next _ _ hok ih =>
    intro cs hcs
    rw [List.append_assoc]
    exact ih _ ⟨hok, hcs⟩

lemma OnWalk.returns (hmax : length ≤ u32Max) {bs : List Blob}
    (h : OnWalk mem handler offset length userData s)
    (hseq : BlobSeq (slice mem s.blobPtr (length - s.lenRead)) bs)
    (hall : AllHandled handler s.userData bs) :
    ∃ t, WhileLoop.Returns (blobBody mem handler length) s (0, t) := by
  induction bs generalizing s with
  | nil =>
    have hend : length ≤ s.lenRead := by
      by_contra hlt
      obtain ⟨cs, hcs, -⟩ := hseq.uncons (by omega)
      cases hcs
    exact ⟨s, WhileLoop.returns_of_break (h.rc ▸ blobBody_end hend)⟩
  | cons b bs ih =>
    have hlt : s.lenRead < length := by
      by_contra hend
      rw [Nat.sub_eq_zero_of_le (by omega)] at hseq
      cases hseq
    obtain ⟨cs, hcs, hblock, hrest⟩ := hseq.uncons (by omega)
    cases hcs
    obtain ⟨t, hbody, hat, hlen, huser⟩ := h.step hmax hlt (by omega) hall.1
    have hptr : t.blobPtr = s.blobPtr + blobBlockSize (blobSizeAt mem s.blobPtr) := by
      rw [hat.ptr, h.ptr, hlen, h.ptr, add_assoc]
    obtain ⟨r, hr⟩ := ih hat (by rw [hptr, hlen, ← Nat.sub_sub]; exact hrest) (huser ▸ hall.2)
    exact ⟨r, .of_step hbody hr⟩

lemma exists_reaches_of_walk (hmax : length ≤ u32Max) {u : σ} {pos : ℕ} {bs : List Blob}
    (hs : OnWalk mem handler offset length userData s) (hstart : s.lenRead = 0)
    (huser : s.userData = userData) (h : Walk mem handler offset length userData u pos bs) :
    ∃ t, WhileLoop.Reaches (blobBody mem handler length) s t ∧
      OnWalk mem handler offset length userData t ∧ t.lenRead = pos ∧ t.userData = u := by
  induction h with
  | start => exact ⟨s, .refl, hs, hstart, huser⟩
  | @next u pos bs _ hle hok ih =>
    obtain ⟨t, hreach, hat, rfl, rfl⟩ := ih
    have hpos := blobBlockSize_ge (blobSizeAt mem (offset + t.lenRead))
    have hptr := hat.ptr
    obtain ⟨t', hbody, hat', hlen, huser'⟩ := hat.step hmax (by omega) (hptr ▸ hle) (hptr ▸ hok)
    exact ⟨t', hreach.step hbody, hat', hptr ▸ hlen, hptr ▸ huser'⟩

variable {cmdBuf : CmdBufDesc} {cpu : CpuBuf}

lemma length_le_u32Max (cmdBuf : CmdBufDesc) : cmdBuf.length.toNat ≤ u32Max := by
  have := cmdBuf.length.toNat_lt
  rw [u32Max_eq]
  omega

lemma checkCmdBuf_none (h : Obtained cmdBuf cpu)
    (hin : cmdBuf.offset.toNat + cmdBuf.length.toNat ≤ cpu.bufSize) (hfit : 4 ≤ cmdBuf.length.toNat) :
    checkCmdBuf cmdBuf cpu = none := by
  obtain ⟨hlen, hsize, hrc, haddr, hbuf⟩ := h
  rw [checkCmdBuf, if_neg (by simp [hlen, hsize]), if_neg (by simp [hrc, haddr, hbuf]),
    if_neg (by omega), if_neg (by omega)]

lemma obtained_of_checkCmdBuf (h : checkCmdBuf cmdBuf cpu = none) : Obtained cmdBuf cpu ∧
    cmdBuf.offset.toNat + cmdBuf.length.toNat ≤ cpu.bufSize := by
  rw [checkCmdBuf] at h
  split_ifs at h with hempty hget hoffset hlength
  push Not at hempty hget hoffset
  exact ⟨⟨hempty.1, hempty.2, hget⟩, by omega⟩

lemma onWalk_start (hrc : cpu.rc = 0) : OnWalk mem handler cmdBuf.offset.toNat cmdBuf.length.toNat
    userData (blobStart cmdBuf cpu userData) :=
  ⟨hrc, Nat.zero_le _, rfl, .start, by simp [blobStart]⟩

lemma parsesGrammar_of_check {rc : ℤ} (h : checkCmdBuf cmdBuf cpu = some rc) (hrc : rc ≠ 0)
    (hacc : ¬Obtained cmdBuf cpu) : ParsesGrammar cmdBuf cpu mem handler userData := by
  have hret : ∀ s, ¬CamPacketUtilProcessGenericCmdBuffer cmdBuf cpu mem handler userData 0 s := by
    intro s hs
    rw [CamPacketUtilProcessGenericCmdBuffer, h] at hs
    exact hrc hs.1.symm
  refine ⟨⟨fun ⟨s, hs⟩ => absurd hs (hret s), fun ha => absurd ha.1 hacc⟩,
    fun s hs => absurd hs (hret s), ?_⟩
  rintro s ⟨hnone, -⟩
  rw [h] at hnone
  cases hnone

lemma length_ge_of_blobSeq {bs : List Blob} (hlen : cmdBuf.length ≠ 0)
    (h : BlobSeq (slice mem cmdBuf.offset.toNat cmdBuf.length.toNat) bs) :
    4 ≤ cmdBuf.length.toNat := by
  have hne : cmdBuf.length.toNat ≠ 0 := fun h => hlen (UInt32.toNat_inj.mp (by simpa using h))
  obtain ⟨-, -, hblock, -⟩ := h.uncons hne
  exact (blobBlockSize_ge _).trans hblock

lemma parsesGrammar_of_walk (hget : Obtained cmdBuf cpu)
    (hin : cmdBuf.offset.toNat + cmdBuf.length.toNat ≤ cpu.bufSize)
    (hok : ∀ u pos bs, Walk mem handler cmdBuf.offset.toNat cmdBuf.length.toNat userData u pos bs →
      ¬Derails mem handler cmdBuf.offset.toNat cmdBuf.length.toNat u pos) :
    ParsesGrammar cmdBuf cpu mem handler userData := by
  have hmax := length_le_u32Max cmdBuf
  have hstart : OnWalk mem handler cmdBuf.offset.toNat cmdBuf.length.toNat userData
      (blobStart cmdBuf cpu userData) := onWalk_start hget.2.2.1
  have hfit : 4 ≤ cmdBuf.length.toNat := by
    by_contra hcut
    have hne : cmdBuf.length.toNat ≠ 0 := fun h => hget.1 (UInt32.toNat_inj.mp (by simpa using h))
    exact hok _ _ _ .start ⟨by omega, .inl (by omega)⟩
  have hcheck := checkCmdBuf_none hget hin hfit
  have hreach : ∀ s, WhileLoop.Reaches (blobBody mem handler cmdBuf.length.toNat)
      (blobStart cmdBuf cpu userData) s →
      OnWalk mem handler cmdBuf.offset.toNat cmdBuf.length.toNat userData s := by
    intro s hs
    refine hs.invariant ?_ hstart
    intro s t h hbody
    rcases h.cases hmax (hok _ _ _ h.walk) with ⟨-, hend⟩ | ⟨r, href, -⟩ | ⟨u, hnext, hat, -⟩
    · rw [hbody] at hend
      cases hend
    · rw [hbody] at href
      cases href
    · rw [hbody] at hnext
      cases hnext
      exact hat
  have hzero : ∀ s, CamPacketUtilProcessGenericCmdBuffer cmdBuf cpu mem handler userData 0 s →
      s.lenRead = cmdBuf.length.toNat ∧
      OnWalk mem handler cmdBuf.offset.toNat cmdBuf.length.toNat userData s := by
    intro s hs
    rw [CamPacketUtilProcessGenericCmdBuffer, hcheck] at hs
    obtain ⟨t, ht, hbody⟩ := hs.exists_break
    have hat := hreach t ht
    rcases hat.cases hmax (hok _ _ _ hat.walk) with ⟨hlen, hend⟩ | ⟨r, href, hne, -⟩ | ⟨u, hnext, -⟩
    · rw [hbody] at hend
      cases hend
      exact ⟨hlen, hat⟩
    · rw [hbody] at href
      cases href
      exact absurd rfl hne
    · rw [hbody] at hnext
      cases hnext
  refine ⟨⟨?_, ?_⟩, ?_, ?_⟩
  · rintro ⟨s, hs⟩
    obtain ⟨hlen, hat⟩ := hzero s hs
    have hall := hat.walk.allHandled [] trivial
    rw [List.append_nil] at hall
    exact ⟨hget, hin, s.calls, hlen ▸ hat.walk.blobSeq, hall⟩
  · rintro ⟨-, -, bs, hseq, hall⟩
    obtain ⟨t, ht⟩ := hstart.returns hmax hseq hall
    exact ⟨t, by rwa [CamPacketUtilProcessGenericCmdBuffer, hcheck]⟩
  · intro s hs
    obtain ⟨hlen, hat⟩ := hzero s hs
    exact hlen ▸ hat.walk.blobSeq
  · rintro s ⟨-, hs⟩
    have hat := hreach s hs
    rcases hat.cases hmax (hok _ _ _ hat.walk) with ⟨-, hend⟩ | ⟨r, href, -, hreads⟩ | ⟨u, hnext, hat', -⟩
    · rw [hend]
      exact hat.reads
    · rw [href]
      exact hreads
    · rw [hnext]
      exact hat'.reads

lemma not_derails_of_parsesGrammar (h : ParsesGrammar cmdBuf cpu mem handler userData)
    (hcheck : checkCmdBuf cmdBuf cpu = none) {u : σ} {pos : ℕ} {bs : List Blob}
    (hw : Walk mem handler cmdBuf.offset.toNat cmdBuf.length.toNat userData u pos bs) :
    ¬Derails mem handler cmdBuf.offset.toNat cmdBuf.length.toNat u pos := by
  have hmax := length_le_u32Max cmdBuf
  have hget := (obtained_of_checkCmdBuf hcheck).1
  obtain ⟨s, hs, hat, rfl, rfl⟩ := exists_reaches_of_walk hmax (onWalk_start hget.2.2.1) rfl rfl hw
  rintro ⟨hlt, hcut | ⟨hwrap, hrc⟩⟩
  · have hread := h.reads s ⟨hcheck, hs⟩ _ (blobPtr_mem_reads hlt)
    have hptr := hat.ptr
    omega
  · rw [← hat.ptr] at hwrap hrc
    have hsmall := blobBlockSize_lt mem s.blobPtr
    have hadd : u32Add s.lenRead (blobBlockSize (blobSizeAt mem s.blobPtr)) =
        s.lenRead + blobBlockSize (blobSizeAt mem s.blobPtr) - (u32Max + 1) := by
      rw [u32Add, if_neg (by omega)]
    rw [u32Max_eq] at hadd hwrap hmax
    have hbody := blobBody_handled hlt (by omega) hrc
    -- The position has wrapped to the front, the pointer has not.
    have hnext := h.reads _ ⟨hcheck, hs.step hbody⟩ _ (blobPtr_mem_reads (by
      change u32Add _ _ < _
      omega))
    have hptr := hat.ptr
    change _ ≤ s.blobPtr + _ ∧ s.blobPtr + _ + 4 ≤ _ at hnext
    omega

/-- The parser follows the grammar exactly on the parsable calls. -/
theorem parsesGrammar_iff (cmdBuf : CmdBufDesc) (cpu : CpuBuf) (mem : Memory)
    (handler : BlobHandler σ) (userData : σ) :
    ParsesGrammar cmdBuf cpu mem handler userData ↔ Parsable cmdBuf cpu mem handler userData := by
  constructor
  · intro h
    by_cases hlen : cmdBuf.length = 0
    · exact .inl hlen
    by_cases hsize : cmdBuf.size = 0
    · exact .inr (.inl hsize)
    by_cases hrc : cpu.rc = 0
    · -- Every early exit that is left returns 0.
      have hcheck : checkCmdBuf cmdBuf cpu = none := by
        by_contra hne
        have hsome : checkCmdBuf cmdBuf cpu = some 0 := by
          rw [checkCmdBuf, if_neg (by simp [hlen, hsize])] at hne ⊢
          split_ifs at hne ⊢ <;> simp_all
        obtain ⟨hget, hin, bs, hseq, -⟩ := h.accepts.mp
          ⟨blobStart cmdBuf cpu userData, by simp [CamPacketUtilProcessGenericCmdBuffer, hsome]⟩
        exact hne (checkCmdBuf_none hget hin (length_ge_of_blobSeq hlen hseq))
      obtain ⟨hget, hin⟩ := obtained_of_checkCmdBuf hcheck
      exact .inr (.inr (.inr ⟨hget, hin, fun u pos bs => not_derails_of_parsesGrammar h hcheck⟩))
    · exact .inr (.inr (.inl hrc))
  · intro h
    by_cases hempty : cmdBuf.length = 0 ∨ cmdBuf.size = 0
    · refine parsesGrammar_of_check (if_pos hempty) (by norm_num [Errno.EINVAL]) ?_
      exact fun hget => hempty.elim hget.1 hget.2.1
    push Not at hempty
    by_cases hrc : cpu.rc = 0
    · rcases h with h | h | h | ⟨hget, hin, hok⟩
      · exact absurd h hempty.1
      · exact absurd h hempty.2
      · exact absurd hrc h
      · exact parsesGrammar_of_walk hget hin hok
    · have hcheck : checkCmdBuf cmdBuf cpu = some cpu.rc := by
        rw [checkCmdBuf, if_neg (by simp [hempty]), if_pos (.inl hrc)]
      exact parsesGrammar_of_check hcheck hrc (fun hget => hrc hget.2.2.1)

/-- A descriptor that points behind its buffer is not reported. -/
theorem badOffset_not_parsesGrammar :
    ¬ParsesGrammar ⟨64, 64, 8⟩ ⟨0, 0x1000, 16⟩ (fun _ => 0) (fun (u : Unit) _ => (0, u)) () := by
  intro h
  obtain ⟨-, hin, -⟩ := h.accepts.mp ⟨blobStart ⟨64, 64, 8⟩ ⟨0, 0x1000, 16⟩ (), rfl, rfl⟩
  exact absurd hin (by decide)

end CameraKernel.GenericBlob
