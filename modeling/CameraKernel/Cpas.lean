import CameraKernel.Errno
import CameraKernel.Transition

/-! Bus votes of the CPAS clients. Every bus, clock and power primitive returns a code that
belongs to the call; a bus takes the vote it is given when its code is 0. -/
namespace CameraKernel.Cpas

def suspendVote : ℕ := 0
def svsVote : ℕ := 3
def turboVote : ℕ := 7

def defaultAxiBw : UInt64 := 1024
def minMnocBw : ℕ := 2048 * 1024
def maxClients : ℕ := 34

structure AxiVote where
  compressedBw : UInt64
  compressedBwAb : UInt64
  uncompressedBw : UInt64
  deriving DecidableEq, Repr

/-- The level and the frequency share their bytes. -/
structure AhbVote where
  dynamic : Bool
  freq : UInt64
  deriving DecidableEq, Repr

def AhbVote.level (v : AhbVote) : ℕ := v.freq.toNat % 2 ^ 32

structure Client where
  started : Bool
  ahbLevel : ℕ
  axiVote : AxiVote
  axiPort : Option ℕ
  deriving DecidableEq, Repr

/-- A bandwidth as it is put on a bus. -/
structure Bw where
  ab : ℕ
  ib : ℕ
  deriving DecidableEq, Repr

/-- `mnoc` and `camnoc` are the bandwidths the two buses last accepted. -/
structure AxiPort where
  clientsList : List ℕ
  mnoc : Bw
  camnoc : Bw
  deriving DecidableEq, Repr

/-- `ahbLevel` is the level the AHB bus last accepted, `curr_vote_level`. -/
structure Core where
  client : ℕ → Option Client
  port : ℕ → AxiPort
  ahbLevel : ℕ
  streamonClients : ℕ

/-- What the device tree and the operating points say. -/
structure Soc where
  numClients : ℕ
  clientPort : ℕ → Option ℕ
  ibBwVotingNeeded : ℕ → Bool
  axiCamnocBased : Bool
  controlCamnocAxiClk : Bool
  minCamnocIbBw : ℕ
  ahbDynVote : Bool
  ahbNumUsecases : ℕ
  hasDev : ℕ → Bool
  oppCorner : ℕ → UInt64 → Option ℕ
  vddAhb : List (ℕ × ℕ)
  numClients_le : numClients ≤ maxClients

/-- The codes of the primitives a call may come to. -/
structure Codes where
  ahbBus : ℤ
  clkRate : ℤ
  mnocBus : ℤ
  camnocBus : ℤ
  camnocClk : ℤ
  enable : ℤ
  powerOn : ℤ
  disableIrq : ℤ
  disable : ℤ
  deriving DecidableEq, Repr

variable (soc : Soc)

def Core.setClient (s : Core) (i : ℕ) (c : Option Client) : Core :=
  { s with client := Function.update s.client i c }

def Core.setPort (s : Core) (p : ℕ) (port : AxiPort) : Core :=
  { s with port := Function.update s.port p port }

def voteBusClientLevel (s : Core) (level : ℕ) (rc : ℤ) : ℤ × Core :=
  if soc.ahbDynVote then (-Errno.EINVAL, s)
  else if soc.ahbNumUsecases ≤ level then (-Errno.EINVAL, s)
  else if level = s.ahbLevel then (0, s)
  else if rc ≠ 0 then (rc, s)
  else (0, { s with ahbLevel := level })

def getAhbLevel (i : ℕ) (freq : UInt64) : Option ℕ :=
  if soc.hasDev i then
    match soc.oppCorner i freq with
    | none => some turboVote
    | some corner => some (soc.vddAhb.foldl (fun level m => if corner = m.1 then m.2 else level) svsVote)
  else none

def requiredLevel (i : ℕ) (v : AhbVote) : Option ℕ :=
  if v.dynamic then getAhbLevel soc i v.freq else some v.level

/-- The loop over the clients. -/
def highestLevel (s : Core) (required : ℕ) : ℕ :=
  (List.range soc.numClients).foldl (fun highest i =>
    match s.client i with
    | some c => if highest < c.ahbLevel then c.ahbLevel else highest
    | none => highest) required

/-- Besides the code, the level that was applied, if one was. -/
def applyClientAhbVote (s : Core) (i : ℕ) (c : Client) (v : AhbVote) (f : Codes) :
    ℤ × Option ℕ × Core :=
  match requiredLevel soc i v with
  | none => (-Errno.EINVAL, none, s)
  | some required =>
    if c.ahbLevel = required then (0, none, s)
    else
      let s := s.setClient i (some { c with ahbLevel := required })
      if required = s.ahbLevel then (0, none, s)
      else
        let highest := highestLevel soc s required
        match voteBusClientLevel soc s highest f.ahbBus with
        | (rc, s) =>
          if rc ≠ 0 then (rc, none, s)
          else if f.clkRate ≠ 0 then (f.clkRate, none, s)
          else (0, some highest, s)

/-- One bandwidth stands in for the ones that were not given. -/
def normalise (v : AxiVote) : AxiVote :=
  let v := if v.compressedBw = 0 then
    { v with compressedBw := v.uncompressedBw, compressedBwAb := v.uncompressedBw } else v
  let v := if v.compressedBwAb = 0 then { v with compressedBwAb := v.compressedBw } else v
  if v.uncompressedBw = 0 then { v with uncompressedBw := v.compressedBw } else v

/-- Sums of votes: compressed, its average and uncompressed. -/
structure Sums where
  mnoc : ℕ
  mnocAb : ℕ
  camnoc : ℕ
  deriving DecidableEq, Repr

def Sums.consolidate (t : Sums) : Sums :=
  let t := if !soc.axiCamnocBased && t.mnoc < t.camnoc then { t with mnoc := t.camnoc } else t
  if !soc.axiCamnocBased && t.mnocAb < t.camnoc then { t with mnocAb := t.mnoc } else t

def floor (least bw : ℕ) : ℕ := if 0 < bw ∧ bw < least then least else bw

/-- The floors of `cam_cpas_util_vote_bus_client_bw`. -/
def mnocBw (p : ℕ) (t : Sums) : Bw :=
  if soc.ibBwVotingNeeded p then ⟨floor minMnocBw t.mnocAb, floor minMnocBw t.mnoc⟩
  else ⟨floor minMnocBw t.mnoc, floor minMnocBw 0⟩

def camnocBw (t : Sums) : Bw := ⟨floor minMnocBw 0, floor soc.minCamnocIbBw t.camnoc⟩

def Core.vote (s : Core) (i : ℕ) : AxiVote :=
  match s.client i with
  | some c => c.axiVote
  | none => ⟨0, 0, 0⟩

/-- The sums over the clients of a port; they have 64 bits. -/
def portSums (s : Core) (p : ℕ) : Sums where
  mnoc := ((s.port p).clientsList.map fun i => (s.vote i).compressedBw.toNat).sum % 2 ^ 64
  mnocAb := ((s.port p).clientsList.map fun i => (s.vote i).compressedBwAb.toNat).sum % 2 ^ 64
  camnoc := ((s.port p).clientsList.map fun i => (s.vote i).uncompressedBw.toNat).sum % 2 ^ 64

def setCamnocAxiClkRate (f : Codes) : ℤ := if soc.controlCamnocAxiClk then f.camnocClk else 0

def applyClientAxiVote (s : Core) (i : ℕ) (c : Client) (v : AxiVote) (f : Codes) : ℤ × Core :=
  match c.axiPort with
  | none => (-Errno.EINVAL, s)
  | some p =>
    let req := normalise v
    if c.axiVote = req then (0, s)
    else
      let s := s.setClient i (some { c with axiVote := req })
      let t := (portSums s p).consolidate soc
      if f.mnocBus ≠ 0 then (f.mnocBus, s)
      else
        let s := s.setPort p { s.port p with mnoc := mnocBw soc p t }
        if soc.axiCamnocBased then
          if f.camnocBus ≠ 0 then (f.camnocBus, s)
          else (setCamnocAxiClkRate soc f, s.setPort p { s.port p with camnoc := camnocBw soc t })
        else (setCamnocAxiClkRate soc f, s)

/-- A client is given by its index; `alloc` tells whether its record can be allocated. -/
def registerClient (s : Core) (i : ℕ) (alloc : Bool) : ℤ × Core :=
  if soc.numClients ≤ i then (-Errno.EINVAL, s)
  else if (s.client i).isSome then (-Errno.EPERM, s)
  else if !alloc then (-Errno.ENOMEM, s)
  else
    let s := s.setClient i (some ⟨false, 0, ⟨0, 0, 0⟩, soc.clientPort i⟩)
    match soc.clientPort i with
    | none => (0, s)
    | some p => (0, s.setPort p { s.port p with clientsList := (s.port p).clientsList ++ [i] })

def unregisterClient (s : Core) (i : ℕ) : ℤ × Core :=
  match s.client i with
  | none => (-Errno.EPERM, s)
  | some c =>
    if c.started then (-Errno.EPERM, s)
    else
      let s := s.setClient i none
      match c.axiPort with
      -- The code follows a null pointer here.
      | none => (-Errno.EFAULT, s)
      | some p => (0, s.setPort p { s.port p with clientsList := (s.port p).clientsList.erase i })

def updateAxiVote (s : Core) (i : ℕ) (v : AxiVote) (f : Codes) : ℤ × Core :=
  let v := if v.compressedBw = 0 ∧ v.uncompressedBw = 0 ∧ v.compressedBwAb = 0 then
    ⟨defaultAxiBw, defaultAxiBw, defaultAxiBw⟩ else v
  match s.client i with
  | none => (-Errno.EPERM, s)
  | some c => if c.started then applyClientAxiVote soc s i c v f else (-Errno.EPERM, s)

def updateAhbVote (s : Core) (i : ℕ) (v : AhbVote) (f : Codes) : ℤ × Core :=
  let v := if v.level = 0 then ⟨false, UInt64.ofNat svsVote⟩ else v
  match s.client i with
  | none => (-Errno.EPERM, s)
  | some c =>
    if c.started then
      let r := applyClientAhbVote soc s i c v f
      (r.1, r.2.2)
    else (-Errno.EPERM, s)

/-- The part of a start that turns the power on with the first client. -/
def powerUp (s : Core) (f : Codes) : ℤ :=
  if s.streamonClients = 0 then if f.enable ≠ 0 then f.enable else f.powerOn else 0

def Core.markStarted (s : Core) (i : ℕ) (c : Client) : Core :=
  { s.setClient i (some { c with started := true }) with
    streamonClients := (s.streamonClients + 1) % 2 ^ 32 }

def start (s : Core) (i : ℕ) (ahb : AhbVote) (axi : AxiVote) (f : Codes) : ℤ × Core :=
  if ahb.level = 0 ∨ (axi.compressedBw = 0 ∧ axi.uncompressedBw = 0) then (-Errno.EINVAL, s)
  else
    match s.client i with
    | none => (-Errno.EPERM, s)
    | some c =>
      if c.started then (-Errno.EPERM, s)
      else
        match applyClientAhbVote soc s i c ahb f with
        | (rc, _, s) =>
          if rc ≠ 0 then (rc, s)
          else
            match s.client i with
            | none => (-Errno.EPERM, s)
            | some c =>
              match applyClientAxiVote soc s i c axi f with
              | (rc, s) =>
                if rc ≠ 0 then (rc, s)
                else if powerUp s f ≠ 0 then (powerUp s f, s)
                else
                  match s.client i with
                  | none => (-Errno.EPERM, s)
                  | some c => (0, s.markStarted i c)

/-- The part of a stop that turns the power off behind the last client; the code of
`power_off` is passed through. -/
def powerDown (s : Core) (f : Codes) : ℤ :=
  if s.streamonClients = 0 then if f.disableIrq ≠ 0 then f.disableIrq else f.disable else 0

def Core.markStopped (s : Core) (i : ℕ) (c : Client) : Core :=
  { s.setClient i (some { c with started := false }) with
    streamonClients := (s.streamonClients + (2 ^ 32 - 1)) % 2 ^ 32 }

def stop (s : Core) (i : ℕ) (f : Codes) : ℤ × Core :=
  match s.client i with
  | none => (-Errno.EPERM, s)
  | some c =>
    if c.started then
      let s := s.markStopped i c
      if powerDown s f ≠ 0 then (powerDown s f, s)
      else
        match applyClientAhbVote soc s i { c with started := false } ⟨false, UInt64.ofNat suspendVote⟩ f with
        | (rc, _, s) =>
          if rc ≠ 0 then (rc, s)
          else
            match s.client i with
            | none => (-Errno.EPERM, s)
            | some c => applyClientAxiVote soc s i c ⟨0, 0, 0⟩ f
    else (-Errno.EPERM, s)

inductive Op
  | register (i : ℕ) (alloc : Bool)
  | unregister (i : ℕ)
  | start (i : ℕ) (ahb : AhbVote) (axi : AxiVote) (f : Codes)
  | updateAhb (i : ℕ) (v : AhbVote) (f : Codes)
  | updateAxi (i : ℕ) (v : AxiVote) (f : Codes)
  | stop (i : ℕ) (f : Codes)
  deriving DecidableEq, Repr

def call (s : Core) : Op → ℤ × Core
  | .register i alloc => registerClient soc s i alloc
  | .unregister i => unregisterClient s i
  | .start i ahb axi f => start soc s i ahb axi f
  | .updateAhb i v f => updateAhbVote soc s i v f
  | .updateAxi i v f => updateAxiVote soc s i v f
  | .stop i f => stop soc s i f

def step (s : Core) (op : Op) : Core := (call soc s op).2

/-- After probing, with the default votes taken back. -/
def init : Core := ⟨fun _ => none, fun _ => ⟨[], ⟨0, 0⟩, ⟨0, 0⟩⟩, suspendVote, 0⟩

end CameraKernel.Cpas
