import CameraKernel.Errno
import CameraKernel.MemMgr
import CameraKernel.Transition

/-! The output buffers of an AIS RDI path: three lists of the driver, and the address FIFO
of the write master behind them. Every handler is atomic. -/
namespace CameraKernel.AisVfe

def maxBuf : ℕ := 20
def maxSofInfo : ℕ := 8
def pathMax : ℕ := 4

inductive ResourceState
  | unavailable | available | reserved | initHw | streaming | error
  deriving DecidableEq, Repr

def ResourceState.rank : ResourceState → ℕ
  | unavailable => 0
  | available => 1
  | reserved => 2
  | initHw => 3
  | streaming => 4
  | error => 5

/-- `obj` is the place in `buffers`; `ts` is the SOF time read with the write to the hardware. -/
structure Buffer where
  obj : ℕ
  memHandle : BitVec 32
  iovaAddr : UInt64
  bufIdx : UInt32
  ts : UInt64
  deriving DecidableEq, Repr

structure SofInfo where
  obj : ℕ
  frameCnt : UInt64
  sofTs : UInt64
  curSofHwTs : UInt64
  deriving DecidableEq, Repr

structure RdiOutput where
  state : ResourceState
  secureMode : Bool
  bufferQ : List Buffer
  numBufferHwQ : UInt8
  bufferHwQ : List Buffer
  freeBufferList : List Buffer
  frameCnt : UInt64
  numSofInfoQ : UInt8
  sofInfoQ : List SofInfo
  freeSofInfoList : List SofInfo
  lastSofHwTs : UInt64
  deriving DecidableEq, Repr

inductive Event
  | sof (frameId : UInt32) (hwTs : UInt64)
  | frameDone (frameId bufIdx : UInt32) (ts hwTs : UInt64)
  | outputWarning (reserved : ℕ)
  | outputError
  deriving DecidableEq, Repr

/-- What a handler reads while it writes addresses: whether the FIFO is full, and the CSID's
SOF time. -/
structure Answers where
  full : ℕ → Bool
  ts : ℕ → UInt64

/-- Which object a buffer is stays; what an earlier use wrote into it is not read again. -/
def clearRdiPath (r : RdiOutput) : RdiOutput :=
  { r with
    frameCnt := 0
    numBufferHwQ := 0
    bufferQ := []
    bufferHwQ := []
    freeBufferList := (List.range maxBuf).map fun i => ⟨i, 0, 0, 0, 0⟩
    lastSofHwTs := 0
    numSofInfoQ := 0
    sofInfoQ := []
    freeSofInfoList := (List.range maxSofInfo).map fun i => ⟨i, 0, 0, 0⟩ }

/-- From the `k`-th read of the FIFO status on; besides the path, what is written. -/
def qBufs (f : Answers) : ℕ → List Buffer → RdiOutput → RdiOutput × List Buffer
  | _, [], r => (r, [])
  | k, b :: q, r =>
    if f.full k then (r, [])
    else
      let b := { b with ts := f.ts k }
      let r := { r with
        bufferQ := q
        bufferHwQ := r.bufferHwQ ++ [b]
        numBufferHwQ := r.numBufferHwQ + 1 }
      match qBufs f (k + 1) q r with
      | (r, ws) => (r, b :: ws)

def qBufsToHw (f : Answers) (r : RdiOutput) : RdiOutput × List Buffer := qBufs f 0 r.bufferQ r

structure Enqueue where
  path : ℕ
  idx : UInt32
  memHandle : BitVec 32
  offset : UInt32
  deriving DecidableEq, Repr

/-- What `cam_mem_get_io_buf` returns and leaves behind its pointers. -/
structure Lookup where
  rc : ℤ
  iova : UInt64
  size : UInt64
  deriving DecidableEq, Repr

/-- The domain of the mapping: secure or not. -/
def mmuSecure (r : RdiOutput) (e : Enqueue) : Bool :=
  MemMgr.isSecureHdl e.memHandle ≠ 0 || r.secureMode

def lookupCode (e : Enqueue) (l : Lookup) : ℤ :=
  let rc := l.rc
  let rc := if l.iova >>> 32 ≠ 0 then -Errno.EINVAL else rc
  if l.size ≤ e.offset.toUInt64 then -Errno.EINVAL else rc

def cmdEnqBuf (r : RdiOutput) (e : Enqueue) (lookup : Bool → Lookup) (f : Answers) :
    ℤ × RdiOutput × List Buffer :=
  if pathMax ≤ e.path then (-Errno.EINVAL, r, [])
  else if r.state.rank < ResourceState.reserved.rank then (-Errno.EINVAL, r, [])
  else
    match r.freeBufferList with
    | [] => (-Errno.ENOMEM, r, [])
    | b :: free =>
      let l := lookup (mmuSecure r e)
      let b := { b with bufIdx := e.idx, memHandle := e.memHandle, iovaAddr := l.iova }
      let rc := lookupCode e l
      if rc ≠ 0 then (rc, { r with freeBufferList := free ++ [b] }, [])
      else
        let b := { b with iovaAddr := b.iovaAddr + e.offset.toUInt64 }
        let r := { r with freeBufferList := free, bufferQ := r.bufferQ ++ [b] }
        if r.state.rank < ResourceState.streaming.rank then
          match qBufsToHw f r with
          | (r, ws) => (0, r, ws)
        else (0, r, [])

def getNumMissedSof (prev last delta : UInt64) : UInt8 :=
  if prev = last then 0
  else if prev < last then ((0xffffffffffffffff - last + prev + 1 + delta / 2) / delta).toUInt8
  else ((prev - last + delta / 2) / delta).toUInt8

def qSof (r : RdiOutput) (frameCnt sofTs curSofHwTs : UInt64) : RdiOutput :=
  match r.freeSofInfoList with
  | [] => r
  | i :: free =>
    { r with
      freeSofInfoList := free
      sofInfoQ := r.sofInfoQ ++ [⟨i.obj, frameCnt, sofTs, curSofHwTs⟩]
      numSofInfoQ := r.numSofInfoQ + 1 }

/-- Queue a SOF under the current frame count and count the frame. -/
def qMissedSof (r : RdiOutput) (sofTs curSofHwTs : UInt64) : RdiOutput :=
  qSof { r with frameCnt := r.frameCnt + 1 } r.frameCnt sofTs curSofHwTs

/-- The loop over the frames missed before the previous one. -/
def qMissedSofs (sofTs prev delta : UInt64) : ℕ → RdiOutput → RdiOutput
  | 0, r => r
  | missIdx + 1, r =>
    qMissedSofs sofTs prev delta missIdx
      (qMissedSof r sofTs (prev - delta * UInt64.ofNat (missIdx + 1)))

def flushSofInfo (r : RdiOutput) : RdiOutput :=
  { r with
    freeSofInfoList := r.freeSofInfoList ++ r.sofInfoQ
    sofInfoQ := []
    numSofInfoQ := 0 }

def tsDelta (cur prev : UInt64) : UInt64 :=
  if cur < prev then cur + (0xffffffffffffffff - prev) else cur - prev

def missedSof (r : RdiOutput) (cur prev : UInt64) : UInt8 :=
  if 1 < r.frameCnt then
    if tsDelta cur prev = 0 then 0
    else getNumMissedSof prev r.lastSofHwTs (tsDelta cur prev)
  else 0

/-- The SOFs queued while the hardware has a buffer: the missed ones and this one. -/
def qSofs (r : RdiOutput) (ts cur prev : UInt64) : RdiOutput :=
  let miss := missedSof r cur prev
  let r :=
    if r.frameCnt = 1 ∧ prev ≠ 0 then qMissedSof r ts prev
    else if 0 < miss then
      qMissedSof (qMissedSofs ts prev (tsDelta cur prev) (miss.toNat - 1) r) ts prev
    else r
  qSof r r.frameCnt ts cur

def sofInfoStep (r : RdiOutput) (ts cur prev : UInt64) : RdiOutput × List Event :=
  if r.numBufferHwQ ≠ 0 then (qSofs r ts cur prev, [])
  else (if r.numSofInfoQ ≠ 0 then flushSofInfo r else r, [.outputWarning 0])

def handleSofRdi (r : RdiOutput) (ts cur prev : UInt64) : RdiOutput × List Event :=
  match sofInfoStep { r with frameCnt := r.frameCnt + 1 } ts cur prev with
  | (r, evs) => ({ r with lastSofHwTs := cur }, evs ++ [Event.sof r.frameCnt.toUInt32 cur])

/-- The loop over the SOF queue; the entry found is already back on the free list. -/
def matchSof (ts : UInt64) : List SofInfo → RdiOutput → Option SofInfo × RdiOutput
  | [], r => (none, r)
  | i :: q, r =>
    let r := { r with
      sofInfoQ := q
      numSofInfoQ := r.numSofInfoQ - 1
      freeSofInfoList := r.freeSofInfoList ++ [i] }
    if ts < i.curSofHwTs then (some i, r) else matchSof ts q r

def frameEvent (b : Buffer) : Option SofInfo → Event
  | some i => .frameDone i.frameCnt.toUInt32 b.bufIdx i.sofTs i.curSofHwTs
  | none => .frameDone 0 b.bufIdx 0 0

/-- The loop over the buffers the hardware has; it ends at the reported address. -/
def popUntil (lastAddr : UInt32) : List Buffer → RdiOutput → Bool × RdiOutput × List Event
  | [], r => (false, r, [])
  | b :: q, r =>
    if r.numBufferHwQ = 0 then (false, r, [])
    else
      let r := { r with bufferHwQ := q, numBufferHwQ := r.numBufferHwQ - 1 }
      match matchSof b.ts r.sofInfoQ r with
      | (sof, r) =>
        let r := { r with freeBufferList := r.freeBufferList ++ [b] }
        if lastAddr.toUInt64 = b.iovaAddr then (true, r, [frameEvent b sof])
        else
          match popUntil lastAddr q r with
          | (found, r, evs) => (found, r, frameEvent b sof :: evs)

def handleClientFrameDone (r : RdiOutput) (lastAddr : UInt32) (f : Answers) :
    RdiOutput × List Event × List Buffer :=
  if lastAddr = 0 then (r, [], [])
  else
    match popUntil lastAddr r.bufferHwQ r with
    | (found, r, evs) =>
      let evs := if found then evs else evs ++ [Event.outputWarning 1]
      match if r.numBufferHwQ = 0 then (flushSofInfo r, evs ++ [Event.outputWarning 0]) else (r, evs) with
      | (r, evs) =>
        match qBufsToHw f r with
        | (r, ws) => (r, evs, ws)

/-- A path with its write master: `fifo` has the buffers whose addresses are written and
not used up, `done` the completed ones no report has told of. The last three lists are
kept since the last stop: the buffers accepted, completed and named by a FRAME_DONE. -/
structure Path where
  rdi : RdiOutput
  fifo : List Buffer
  done : List Buffer
  accepted : List UInt32
  completed : List UInt32
  frames : List UInt32
  deriving DecidableEq, Repr

def frameIdx : Event → Option UInt32
  | .frameDone _ bufIdx _ _ => some bufIdx
  | _ => none

/-- The write master takes an address of 32 bits. -/
def Buffer.hwAddr (b : Buffer) : UInt32 := b.iovaAddr.toUInt32

def Path.reserve (p : Path) (secure : Bool) : ℤ × Path :=
  if ResourceState.initHw.rank ≤ p.rdi.state.rank then (-Errno.EINVAL, p)
  else (0, { p with rdi := { p.rdi with secureMode := secure, state := .initHw } })

def Path.start (p : Path) : ℤ × Path :=
  if p.rdi.state ≠ .initHw then (-Errno.EINVAL, p)
  else (0, { p with rdi := { p.rdi with state := .streaming } })

/-- The reset drops what the write master has. -/
def Path.stop (p : Path) : ℤ × Path :=
  if p.rdi.state ≠ .streaming ∧ p.rdi.state ≠ .error then (-Errno.EINVAL, p)
  else (0, ⟨clearRdiPath { p.rdi with state := .initHw }, [], [], [], [], []⟩)

def Path.enqBuf (p : Path) (e : Enqueue) (lookup : Bool → Lookup) (f : Answers) : ℤ × Path :=
  match cmdEnqBuf p.rdi e lookup f with
  | (rc, r, ws) =>
    (rc, { p with
      rdi := r
      fifo := p.fifo ++ ws
      accepted := if rc = 0 then p.accepted ++ [e.idx] else p.accepted })

def Path.sof (p : Path) (ts cur prev : UInt64) (f : Answers) : Path :=
  if p.rdi.state ≠ .streaming then p
  else
    match qBufsToHw f (handleSofRdi p.rdi ts cur prev).1 with
    | (r, ws) => { p with rdi := r, fifo := p.fifo ++ ws }

/-- The report was made when the `k`-th of the completed buffers was the last one; with
none there the status bit is not set. -/
def Path.frameDone (p : Path) (k : ℕ) (f : Answers) : Path :=
  match p.done[k]? with
  | none => p
  | some b =>
    let p := { p with done := p.done.drop (k + 1) }
    if p.rdi.state ≠ .streaming then p
    else
      match handleClientFrameDone p.rdi b.hwAddr f with
      | (r, evs, ws) =>
        { p with rdi := r, fifo := p.fifo ++ ws, frames := p.frames ++ evs.filterMap frameIdx }

def Path.error (p : Path) : Path × List Event :=
  if p.rdi.state ≠ .streaming then (p, [])
  else ({ p with rdi := { p.rdi with state := .error }, fifo := [], done := [] }, [.outputError])

def Path.complete (p : Path) : Path :=
  match p.fifo with
  | [] => p
  | b :: fifo => { p with fifo := fifo, done := p.done ++ [b], completed := p.completed ++ [b.bufIdx] }

inductive Op
  | reserve (path : ℕ) (secure : Bool)
  | start (path : ℕ)
  | stop (path : ℕ)
  | enqBuf (e : Enqueue) (lookup : Bool → Lookup) (f : Answers)
  | sof (mask : ℕ) (ts : UInt64) (cur prev : ℕ → UInt64) (f : ℕ → Answers)
  | busWr (reports : ℕ → Option ℕ) (errors : ℕ) (f : ℕ → Answers)
  | error (mask : ℕ)
  | complete (path : ℕ)

def onPath (s : ℕ → Path) (path : ℕ) (g : Path → Path) : ℕ → Path :=
  if pathMax ≤ path then s else Function.update s path (g (s path))

/-- A loop over the paths: each has its own lists, so the order does not matter. -/
def eachPath (s : ℕ → Path) (g : ℕ → Path → Path) : ℕ → Path :=
  fun i => if i < pathMax then g i (s i) else s i

def handleError (s : ℕ → Path) (mask : ℕ) : ℕ → Path :=
  eachPath s fun i p => if mask.testBit i then p.error.1 else p

def step (s : ℕ → Path) : Op → ℕ → Path
  | .reserve path secure => onPath s path fun p => (p.reserve secure).2
  | .start path => onPath s path fun p => p.start.2
  | .stop path => onPath s path fun p => p.stop.2
  | .enqBuf e lookup f => onPath s e.path fun p => (p.enqBuf e lookup f).2
  | .sof mask ts cur prev f =>
    eachPath s fun i p => if mask.testBit i then p.sof ts (cur i) (prev i) (f i) else p
  | .busWr reports errors f =>
    handleError (eachPath s fun i p =>
      match reports i with
      | some k => p.frameDone k (f i)
      | none => p) errors
  | .error mask => handleError s mask
  | .complete path => onPath s path Path.complete

def initRdi : RdiOutput := clearRdiPath ⟨.available, false, [], 0, [], [], 0, 0, [], [], 0⟩

def init : ℕ → Path := fun _ => ⟨initRdi, [], [], [], [], []⟩

end CameraKernel.AisVfe
