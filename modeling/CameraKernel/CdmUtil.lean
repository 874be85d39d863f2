import CameraKernel.Errno
import CameraKernel.MachineInt
import CameraKernel.WhileLoop

/-! The CDM command format: the writers that build a command buffer and the
software interpreter that carries it out. A buffer is a memory of 32-bit words, a
pointer into it a word index, a device address a number with 0 for NULL. The
interpreter logs the register writes it does and the words it reads. -/
namespace CameraKernel.CdmUtil
open MachineInt

inductive CdmCommand
  | dmi
  | regCont
  | regRandom
  | changeBase
  | swdDmi32
  | swdDmi64
  deriving DecidableEq, Repr

/-- The command ids of `enum cam_cdm_command` the interpreter or the writers use. -/
def CdmCommand.id : CdmCommand → ℕ
  | .dmi => 0x1
  | .regCont => 0x3
  | .regRandom => 0x4
  | .changeBase => 0x8
  | .swdDmi32 => 0x70
  | .swdDmi64 => 0x71

/-- `CDMCmdHeaderSizes`, in words. -/
def cdmCmdHeaderSizes : List ℕ := [0, 3, 0, 2, 1, 2, 2, 3, 1, 1, 3, 3, 0, 0]

def cdmGetCmdHeaderSize (command : CdmCommand) : ℕ := cdmCmdHeaderSizes.getD command.id 0

def cdmRequiredSizeRegContinuous (numVals : ℕ) : ℕ := cdmGetCmdHeaderSize .regCont + numVals

def cdmRequiredSizeRegRandom (numRegVals : ℕ) : ℕ :=
  cdmGetCmdHeaderSize .regRandom + 2 * numRegVals

def cdmRequiredSizeDmi : ℕ := cdmGetCmdHeaderSize .dmi

def cdmRequiredSizeChangebase : ℕ := cdmGetCmdHeaderSize .changeBase

def cmdField (w : UInt32) : ℕ := w.toNat / 0x1000000
def countField (w : UInt32) : ℕ := w.toNat % 0x10000
def offsetField (w : UInt32) : ℕ := w.toNat % 0x1000000

lemma countField_lt (w : UInt32) : countField w < 0x10000 := Nat.mod_lt _ (by norm_num)

/-- A word with `lo` in its low 24 bits and `hi` in its high 8. -/
def headerWord (lo hi : ℕ) : UInt32 := UInt32.ofNat (lo % 0x1000000 + 0x1000000 * (hi % 0x100))

abbrev Memory := ℕ → UInt32

/-- The copy loop of the writers. -/
def writeWords (mem : Memory) (p : ℕ) : List UInt32 → Memory
  | [] => mem
  | w :: ws => writeWords (Function.update mem p w) (p + 1) ws

def cdmWriteRegcontinuous (mem : Memory) (p reg : ℕ) (vals : List UInt32) : Memory × ℕ :=
  let mem := Function.update mem p (headerWord (vals.length % 0x10000) (CdmCommand.id .regCont))
  let mem := Function.update mem (p + 1) (headerWord reg 0)
  let p := p + cdmGetCmdHeaderSize .regCont
  (writeWords mem p vals, p + vals.length)

def cdmWriteRegrandom (mem : Memory) (p : ℕ) (regVals : List (UInt32 × UInt32)) : Memory × ℕ :=
  let mem := Function.update mem p
    (headerWord (regVals.length % 0x10000) (CdmCommand.id .regRandom))
  let p := p + cdmGetCmdHeaderSize .regRandom
  (writeWords mem p (regVals.flatMap fun rv => [rv.1, rv.2]), p + 2 * regVals.length)

def cdmWriteChangebase (mem : Memory) (p base : ℕ) : Memory × ℕ :=
  (Function.update mem p (headerWord base (CdmCommand.id .changeBase)),
    p + cdmGetCmdHeaderSize .changeBase)

structure RegWrite where
  addr : ℕ
  value : UInt32
  deriving DecidableEq, Repr

/-- An entry of the base table: the hardware base and its mapping. -/
structure SocRegMap where
  memCamBase : ℕ
  memBase : ℕ
  deriving DecidableEq, Repr

abbrev BaseTable := List (Option SocRegMap)

def camCdmGetIoremapFromBase (baseTable : BaseTable) (hwBase : ℕ) : Option ℕ :=
  (baseTable.find? fun e => e.any fun m => m.memCamBase == hwBase).bind fun e => e.map (·.memBase)

/-- What one of the command routines returns, consumes and does. -/
structure CmdEffect where
  ret : ℤ
  usedBytes : ℕ
  writes : List RegWrite
  reads : List ℕ
  deriving DecidableEq, Repr

def CmdEffect.fail (reads : List ℕ) : CmdEffect := ⟨-Errno.EINVAL, 0, [], reads⟩

def camIoMemcpy (dest : ℕ) (buf : Memory) (src len : ℕ) : List RegWrite :=
  (List.range (len / 4)).map fun i => ⟨dest + 4 * i, buf (src + i)⟩

def camCdmUtilRegContWrite (base : ℕ) (buf : Memory) (p size : ℕ) : CmdEffect :=
  if size < cdmGetCmdHeaderSize .regCont ∨ base = 0 then .fail []
  else
    let count := countField (buf p)
    if count = 0 ∨ count > 0x10000 ∨ count * 4 + cdmGetCmdHeaderSize .regCont > size then .fail [p]
    else
      let data := p + cdmGetCmdHeaderSize .regCont
      ⟨0, count * 4 + 4 * cdmGetCmdHeaderSize .regCont,
        camIoMemcpy (base + offsetField (buf (p + 1))) buf data (count * 4),
        p :: (p + 1) :: List.range' data count⟩

def camCdmUtilRegRandomWrite (base : ℕ) (buf : Memory) (p size : ℕ) : CmdEffect :=
  if base = 0 then .fail []
  else
    let count := countField (buf p)
    if count = 0 ∨ count > 0x10000 ∨ count * 8 + cdmGetCmdHeaderSize .regRandom > size then .fail [p]
    else
      let data := p + cdmGetCmdHeaderSize .regRandom
      ⟨0, count * 8 + 4 * cdmGetCmdHeaderSize .regRandom,
        (List.range count).map fun i =>
          ⟨base + (buf (data + 2 * i)).toNat, buf (data + 2 * i + 1)⟩,
        p :: List.range' data (2 * count)⟩

/-- The register writes of one round of the DMI loops. -/
def dmiRound (wide : Bool) (dest : ℕ) (buf : Memory) (data i : ℕ) : List RegWrite :=
  if wide then [⟨dest + 12, buf (data + 2 * i)⟩, ⟨dest + 8, buf (data + 2 * i + 1)⟩]
  else [⟨dest + 12, buf (data + i)⟩]

def camCdmUtilSwdDmiWrite (wide : Bool) (base : ℕ) (buf : Memory) (p size : ℕ) : CmdEffect :=
  let length := countField (buf p)
  if size < cdmRequiredSizeDmi + length + 1 then .fail [p]
  else
    let data := p + cdmRequiredSizeDmi
    let rounds := (length + 1) / (if wide then 8 else 4)
    ⟨0, 4 * cdmRequiredSizeDmi + length + 1,
      (List.range rounds).flatMap (dmiRound wide (base + offsetField (buf (p + 2))) buf data),
      p :: if rounds = 0 then []
        else (p + 2) :: List.range' data (if wide then 2 * rounds else rounds)⟩

/-- The variables of the command loop, and the logs. -/
structure CdmState where
  base : ℕ
  ptr : ℕ
  size : ℕ
  writes : List RegWrite
  reads : List ℕ
  deriving DecidableEq, Repr

/-- Take over the effect of a command routine and move on past the command. -/
def CdmState.consume (s : CdmState) (e : CmdEffect) : ℤ × CdmState :=
  (e.ret, { s with
    ptr := s.ptr + e.usedBytes / 4
    size := u32Sub s.size e.usedBytes
    writes := s.writes ++ e.writes
    reads := s.reads ++ e.reads })

/-- One round of the loop of `cam_cdm_util_cmd_buf_write`, with its return code. -/
def cmdRound (baseTable : BaseTable) (buf : Memory) (s : CdmState) : ℤ × CdmState :=
  let s := { s with reads := s.reads ++ [s.ptr] }
  let command := cmdField (buf s.ptr)
  if command = CdmCommand.id .regCont then
    s.consume (camCdmUtilRegContWrite s.base buf s.ptr s.size)
  else if command = CdmCommand.id .regRandom then
    s.consume (camCdmUtilRegRandomWrite s.base buf s.ptr s.size)
  else if command = CdmCommand.id .swdDmi32 ∨ command = CdmCommand.id .swdDmi64 then
    if s.base = 0 then (-Errno.EINVAL, s)
    else s.consume (camCdmUtilSwdDmiWrite (command = CdmCommand.id .swdDmi64) s.base buf s.ptr s.size)
  else if command = CdmCommand.id .changeBase then
    match camCdmGetIoremapFromBase baseTable (offsetField (buf s.ptr)) with
    | none => (-Errno.EINVAL, s)
    | some base => CdmState.consume { s with base := base } ⟨0, 4 * cdmRequiredSizeChangebase, [], []⟩
  else (-Errno.EINVAL, s)

/-- The loop body: it ends when the buffer is used up or a command fails. -/
def cmdBody (baseTable : BaseTable) (buf : Memory) (s : CdmState) : (ℤ × CdmState) ⊕ CdmState :=
  if s.size = 0 then .inl (0, s)
  else
    let r := cmdRound baseTable buf s
    if r.1 < 0 then .inl r else .inr r.2

/-- `cam_cdm_util_cmd_buf_write` returns `ret` and leaves the final state `s`. -/
def CamCdmUtilCmdBufWrite (baseTable : BaseTable) (buf : Memory) (base p size : ℕ)
    (ret : ℤ) (s : CdmState) : Prop :=
  WhileLoop.Returns (cmdBody baseTable buf) ⟨base, p, size, [], []⟩ (ret, s)

end CameraKernel.CdmUtil
