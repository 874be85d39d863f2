import CameraKernel.Errno
import CameraKernel.MachineInt
import CameraKernel.Transition

/-! The outputs of a VFE bus, with the write masters and the composite groups that an
acquired output holds. An index of `-1` is `none`. -/
namespace CameraKernel.VfeBus
open MachineInt

inductive VfeOutType
  | rdi0 | rdi1 | rdi2 | rdi3
  | full | ds4 | ds16 | rawDump | fd | pdaf
  | statsHdrBe | statsHdrBhist | statsTlBg | statsBf | statsAwbBg | statsBhist
  | statsRs | statsCs | statsIhist
  | fullDisp | ds4Disp | ds16Disp | twoPd
  deriving DecidableEq, Repr

instance : Fintype VfeOutType :=
  Fintype.ofList [.rdi0, .rdi1, .rdi2, .rdi3, .full, .ds4, .ds16, .rawDump, .fd, .pdaf, .statsHdrBe,
    .statsHdrBhist, .statsTlBg, .statsBf, .statsAwbBg, .statsBhist, .statsRs, .statsCs, .statsIhist,
    .fullDisp, .ds4Disp, .ds16Disp, .twoPd] fun o => by cases o <;> decide

inductive ResState
  | unavailable | available | reserved | initHw | streaming
  deriving DecidableEq, Repr

namespace CamFormat

def mipiRaw6 : ℕ := 1
def mipiRaw8 : ℕ := 2
def mipiRaw10 : ℕ := 3
def mipiRaw12 : ℕ := 4
def mipiRaw14 : ℕ := 5
def mipiRaw16 : ℕ := 6
def mipiRaw20 : ℕ := 7
def plain8 : ℕ := 12
def plain16_8 : ℕ := 13
def plain16_10 : ℕ := 14
def plain16_12 : ℕ := 15
def plain16_14 : ℕ := 16
def plain16_16 : ℕ := 17
def plain32_20 : ℕ := 18
def plain64 : ℕ := 19
def plain128 : ℕ := 20
def argb14 : ℕ := 24
def dpcm10_6_10 : ℕ := 25
def dpcm10_8_10 : ℕ := 26
def dpcm12_6_12 : ℕ := 27
def dpcm12_8_12 : ℕ := 28
def dpcm14_8_14 : ℕ := 29
def dpcm14_10_14 : ℕ := 30
def nv21 : ℕ := 31
def nv12 : ℕ := 32
def tp10 : ℕ := 33
def pd8 : ℕ := 35
def pd10 : ℕ := 36
def ubwcNv12 : ℕ := 37
def ubwcNv12_4r : ℕ := 38
def ubwcTp10 : ℕ := 39
def ubwcP010 : ℕ := 40
def yOnly : ℕ := 45

end CamFormat

open CamFormat

def camIspIfeOutResBase : ℕ := 0x3000

def camVfeBusGetOutResId (resType : ℕ) : Option VfeOutType :=
  if resType < camIspIfeOutResBase then none
  else match resType - camIspIfeOutResBase with
    | 0 => some .full
    | 1 => some .ds4
    | 2 => some .ds16
    | 3 => some .rawDump
    | 4 => some .fd
    | 5 => some .pdaf
    | 6 => some .rdi0
    | 7 => some .rdi1
    | 8 => some .rdi2
    | 9 => some .rdi3
    | 10 => some .statsHdrBe
    | 11 => some .statsHdrBhist
    | 12 => some .statsTlBg
    | 13 => some .statsBf
    | 14 => some .statsAwbBg
    | 15 => some .statsBhist
    | 16 => some .statsRs
    | 17 => some .statsCs
    | 18 => some .statsIhist
    | 19 => some .fullDisp
    | 20 => some .ds4Disp
    | 21 => some .ds16Disp
    | 22 => some .twoPd
    | _ => none

def camVfeBusGetNumWm (o : VfeOutType) (format : ℕ) : ℤ :=
  match o with
  | .rdi0 | .rdi1 | .rdi2 | .rdi3 =>
    if format ∈ [mipiRaw8, mipiRaw10, mipiRaw12, mipiRaw14, mipiRaw16, mipiRaw20, dpcm10_6_10,
      dpcm10_8_10, dpcm12_6_12, dpcm12_8_12, dpcm14_8_14, dpcm14_10_14, plain8, plain16_10,
      plain16_12, plain16_14, plain16_16, plain32_20, plain128] then 1 else -Errno.EINVAL
  | .full | .fullDisp =>
    if format ∈ [nv21, nv12, mipiRaw8, plain8, tp10, ubwcNv12, ubwcNv12_4r, ubwcTp10, ubwcP010,
      plain16_10] then 2 else -Errno.EINVAL
  | .fd =>
    if format ∈ [nv21, nv12, plain8, tp10, plain16_10] then 2
    else if format = yOnly then 1 else -Errno.EINVAL
  | .ds4 | .ds4Disp | .ds16 | .ds16Disp =>
    if format ∈ [pd8, pd10] then 1 else -Errno.EINVAL
  | .rawDump =>
    if format ∈ [argb14, plain8, plain16_10, plain16_12, plain16_14] then 1 else -Errno.EINVAL
  | .pdaf =>
    if format ∈ [plain8, plain16_10, plain16_12, plain16_14] then 1 else -Errno.EINVAL
  | .twoPd =>
    if format ∈ [plain16_8, plain16_10, plain16_12, plain16_14, plain16_16, plain64] then 1
    else -Errno.EINVAL
  | .statsHdrBe | .statsHdrBhist | .statsTlBg | .statsBf | .statsAwbBg | .statsBhist | .statsCs =>
    if format = plain64 then 1 else -Errno.EINVAL
  | .statsRs | .statsIhist =>
    if format = plain16_16 then 1 else -Errno.EINVAL

/-- Plane 0 is `PLANE_Y` and plane 1 `PLANE_C`. -/
def camVfeBusGetWmIdx (o : VfeOutType) (plane : ℕ) : Option ℕ :=
  match o, plane with
  | .rdi0, 0 => some 0
  | .rdi1, 0 => some 1
  | .rdi2, 0 => some 2
  | .rdi3, 0 => some 3
  | .full, 0 => some 3
  | .full, 1 => some 4
  | .ds4, 0 => some 5
  | .ds16, 0 => some 6
  | .fd, 0 => some 7
  | .fd, 1 => some 8
  | .rawDump, 0 => some 9
  | .pdaf, 0 => some 10
  | .twoPd, 0 => some 10
  | .statsHdrBe, 0 => some 11
  | .statsHdrBhist, 0 => some 12
  | .statsTlBg, 0 => some 13
  | .statsBf, 0 => some 14
  | .statsAwbBg, 0 => some 15
  | .statsBhist, 0 => some 16
  | .statsRs, 0 => some 17
  | .statsCs, 0 => some 18
  | .statsIhist, 0 => some 19
  | .fullDisp, 0 => some 20
  | .fullDisp, 1 => some 21
  | .ds4Disp, 0 => some 22
  | .ds16Disp, 0 => some 23
  | _, _ => none

def camVfeBusCanBeSecure : VfeOutType → Bool
  | .full | .ds4 | .ds16 | .fd | .rawDump | .rdi0 | .rdi1 | .rdi2 | .fullDisp | .ds4Disp
  | .ds16Disp => true
  | _ => false

def camVfeBusCompGroupNone : ℤ := -Errno.EINVAL

def camVfeBusCompGrpIdConvert (compGrp : ℕ) : ℤ :=
  if 1 ≤ compGrp ∧ compGrp ≤ 6 then (compGrp : ℤ) - 1 else camVfeBusCompGroupNone

def camCpasTitan170V100 : ℕ := 0x170100

/-- `none` is `-EINVAL`. -/
def camVfeBusVer2GetIntraClientMask (dualSlaveCore currentCore cameraHwVersion : ℕ) : Option ℕ :=
  if dualSlaveCore = currentCore then none
  else
    let mask := if cameraHwVersion = camCpasTitan170V100 then 0x3 else 0x1
    if currentCore = 0 then (if dualSlaveCore = 1 then some mask else none)
    else if currentCore = 1 then (if dualSlaveCore = 0 then some mask else none)
    else none

/-- The groups `0` to `5` are single ones and `6` to `11` dual ones. -/
structure CompGrp where
  resState : ResState
  compGrpLocalIdx : ℤ
  uniqueId : ℕ
  compositeMask : BitVec 32
  acquireDevCnt : ℕ

structure VfeOut where
  resState : ResState
  numWm : ℕ
  wmRes : ℕ → Option ℕ
  compGrp : Option (Fin 12)
  secureMode : ℕ

structure BusVer2 where
  busClient : ℕ → ResState
  compGrp : Fin 12 → CompGrp
  vfeOut : VfeOutType → VfeOut
  freeCompGrp : List (Fin 12)
  freeDualCompGrp : List (Fin 12)
  usedCompGrp : List (Fin 12)
  secureMode : ℕ
  numSecOut : ℕ

/-- What the probe of the bus reads; `supported` are the outputs that `vfe_out_hw_info` lists. -/
structure BusCfg where
  numClient : ℕ
  isLite : Bool
  hwIdx : ℕ
  cameraHwVersion : ℕ
  supported : VfeOutType → Bool

structure AcquireArgs where
  resType : ℕ
  format : ℕ
  compGrpId : ℕ
  secureMode : ℕ
  isDual : Bool
  uniqueId : ℕ
  dualSlaveCore : ℕ
  deriving DecidableEq, Repr

namespace BusVer2
variable (b : BusVer2)

def setOut (o : VfeOutType) (f : VfeOut → VfeOut) : BusVer2 :=
  { b with vfeOut := Function.update b.vfeOut o (f (b.vfeOut o)) }

def setGrp (g : Fin 12) (f : CompGrp → CompGrp) : BusVer2 :=
  { b with compGrp := Function.update b.compGrp g (f (b.compGrp g)) }

def setWm (k : ℕ) (r : ResState) : BusVer2 :=
  { b with busClient := Function.update b.busClient k r }

end BusVer2

section
local instance compGrp_neZero : NeZero 12 := ⟨by decide⟩

def camVfeBusVer2Init (cfg : BusCfg) : BusVer2 where
  busClient k := if k < cfg.numClient then .available else .unavailable
  compGrp _ := ⟨.available, 0, 0, 0, 0⟩
  vfeOut o := ⟨if cfg.supported o then .available else .unavailable, 0, fun _ => none, none, 0⟩
  freeCompGrp := [0, 1, 2, 3, 4, 5]
  freeDualCompGrp := [6, 7, 8, 9, 10, 11]
  usedCompGrp := []
  secureMode := 0
  numSecOut := 0

end

/-- Whether the write master takes the format; the masters 0 to 2 serve the RDIs, 3 and 4, 7
and 8, 20 and 21 the outputs of two planes. -/
def wmFormatOk (isLite : Bool) (index format plane : ℕ) : Bool :=
  if index < 3 || (isLite && index == 3) then
    [mipiRaw6, mipiRaw8, mipiRaw10, mipiRaw12, mipiRaw14, mipiRaw16, mipiRaw20, plain8, plain16_10,
      plain16_12, plain16_14, plain16_16, plain128, plain64].contains format
  else if index < 5 || index == 7 || index == 8 || index == 20 || index == 21 then
    [ubwcNv12_4r, ubwcNv12, nv21, nv12, yOnly, ubwcTp10, tp10, plain16_10].contains format &&
      decide (plane < 2)
  else true

/-- Code, `client_done_mask` and state. A master that refuses the format is left reserved. -/
def camVfeBusAcquireWm (cfg : BusCfg) (b : BusVer2) (o : VfeOutType) (format plane : ℕ) :
    ℤ × BitVec 32 × BusVer2 :=
  let b := b.setOut o fun v => { v with wmRes := Function.update v.wmRes plane none }
  match camVfeBusGetWmIdx o plane with
  | none => (-Errno.EINVAL, 0, b)
  | some wmIdx =>
    if cfg.numClient ≤ wmIdx then (-Errno.EINVAL, 0, b)
    else if b.busClient wmIdx ≠ .available then (-Errno.EALREADY, 0, b)
    else
      let b := b.setWm wmIdx .reserved
      if wmFormatOk cfg.isLite wmIdx format plane then
        (0, 1#32 <<< wmIdx, b.setOut o fun v =>
          { v with wmRes := Function.update v.wmRes plane (some wmIdx) })
      else (-Errno.EINVAL, 0, b)

/-- The masters that an output holds; the pointers of its `num_wm` planes are set while it is
acquired. -/
def camVfeBusReleaseWm (b : BusVer2) (wmRes : Option ℕ) : BusVer2 :=
  match wmRes with
  | some wmIdx => b.setWm wmIdx .available
  | none => b

def camVfeBusMatchCompGrp (b : BusVer2) (compGrpLocalIdx : ℤ) (uniqueId : ℕ) : Option (Fin 12) :=
  b.usedCompGrp.find? fun g =>
    (b.compGrp g).compGrpLocalIdx == compGrpLocalIdx && (b.compGrp g).uniqueId == uniqueId

/-- The group to serve the request: a used one that matches, else the first free one. -/
def findCompGrp (cfg : BusCfg) (b : BusVer2) (a : AcquireArgs) : Except ℤ (Fin 12 ⊕ Fin 12) :=
  match if a.compGrpId ≠ 0 then
      camVfeBusMatchCompGrp b (camVfeBusCompGrpIdConvert a.compGrpId) a.uniqueId else none with
  | some g => if (b.compGrp g).resState = .streaming then .error (-Errno.EBUSY) else .ok (.inl g)
  | none =>
    if a.isDual then
      match b.freeDualCompGrp.head? with
      | none => .error (-Errno.ENODEV)
      | some g =>
        match camVfeBusVer2GetIntraClientMask a.dualSlaveCore cfg.hwIdx cfg.cameraHwVersion with
        | none => .error (-Errno.EINVAL)
        | some _ => .ok (.inr g)
    else
      match b.freeCompGrp.head? with
      | none => .error (-Errno.ENODEV)
      | some g => .ok (.inr g)

def takeFreeGrp (b : BusVer2) (g : Fin 12) (a : AcquireArgs) : BusVer2 :=
  let b := { b with
    freeCompGrp := b.freeCompGrp.erase g
    freeDualCompGrp := b.freeDualCompGrp.erase g
    usedCompGrp := b.usedCompGrp ++ [g] }
  b.setGrp g fun d => { d with
    resState := .reserved
    compositeMask := 0
    uniqueId := a.uniqueId
    compGrpLocalIdx := camVfeBusCompGrpIdConvert a.compGrpId }

def camVfeBusAcquireCompGrp (cfg : BusCfg) (b : BusVer2) (o : VfeOutType) (a : AcquireArgs) :
    ℤ × BusVer2 :=
  let join (b : BusVer2) (g : Fin 12) : BusVer2 :=
    (b.setGrp g fun d => { d with acquireDevCnt := u32Inc d.acquireDevCnt }).setOut o
      fun v => { v with compGrp := some g }
  match findCompGrp cfg b a with
  | .error rc => (rc, b)
  | .ok (.inl g) => (0, join b g)
  | .ok (.inr g) => (0, join (takeFreeGrp b g a) g)

def camVfeBusAddWmToCompGrp (b : BusVer2) (g : Fin 12) (mask : BitVec 32) : BusVer2 :=
  b.setGrp g fun d => { d with compositeMask := d.compositeMask ||| mask }

def camVfeBusReleaseCompGrp (b : BusVer2) (compGrp : Option (Fin 12)) : ℤ × BusVer2 :=
  match compGrp with
  | none => (-Errno.EINVAL, b)
  | some g =>
    if (b.compGrp g).resState = .available then (0, b)
    else if (b.compGrp g).resState = .streaming then (-Errno.EBUSY, b)
    else if g ∉ b.usedCompGrp then (-Errno.ENODEV, b)
    else
      let b := b.setGrp g fun d => { d with acquireDevCnt := u32Dec d.acquireDevCnt }
      if (b.compGrp g).acquireDevCnt = 0 then
        let b := (b.setGrp g fun d => { d with
          uniqueId := 0
          compGrpLocalIdx := camVfeBusCompGroupNone
          compositeMask := 0
          resState := .available })
        let b := { b with usedCompGrp := b.usedCompGrp.erase g }
        (0, if 6 ≤ g.val then { b with freeDualCompGrp := b.freeDualCompGrp ++ [g] }
          else { b with freeCompGrp := b.freeCompGrp ++ [g] })
      else (0, b)

/-- Whether the request is for a composite group. -/
def wantsCompGrp (numWm : ℤ) (a : AcquireArgs) : Bool :=
  decide (1 < numWm) || a.isDual || (decide (0 < a.compGrpId) && decide (a.compGrpId < 6))

/-- The masters of an output are added to the group that it points at. -/
def addToCompGrp (b : BusVer2) (o : VfeOutType) (mask : BitVec 32) : BusVer2 :=
  match (b.vfeOut o).compGrp with
  | some g => camVfeBusAddWmToCompGrp b g mask
  | none => b

/-- The loop over the planes: code, plane that failed, and state. -/
def acquireWms (cfg : BusCfg) (o : VfeOutType) (format : ℕ) : ℕ → ℕ → BusVer2 → ℤ × ℕ × BusVer2
  | 0, i, b => (0, i, b)
  | n + 1, i, b =>
    match camVfeBusAcquireWm cfg b o format i with
    | (rc, clientDoneMask, b) =>
      if rc ≠ 0 then (rc, i, b)
      else acquireWms cfg o format n (i + 1) (addToCompGrp b o clientDoneMask)

def releaseWms (b : BusVer2) (wms : List (Option ℕ)) : BusVer2 := wms.foldl camVfeBusReleaseWm b

/-- The secure counter counts the output before anything is reserved; `none` is a mismatch. -/
def acquireSecure (b : BusVer2) (o : VfeOutType) (mode : ℕ) : Option BusVer2 :=
  if camVfeBusCanBeSecure o then
    if b.numSecOut = 0 then
      some { b.setOut o fun v => { v with secureMode := mode } with
        secureMode := mode, numSecOut := u32Inc b.numSecOut }
    else if mode = b.secureMode then
      some { b.setOut o fun v => { v with secureMode := b.secureMode } with
        numSecOut := u32Inc b.numSecOut }
    else none
  else some b

/-- The masters of an output, and what is undone when one is refused. -/
def reserveWms (cfg : BusCfg) (b : BusVer2) (o : VfeOutType) (numWm : ℕ) (a : AcquireArgs) :
    ℤ × BusVer2 :=
  match acquireWms cfg o a.format numWm 0 b with
  | (rc, i, b) =>
    if rc ≠ 0 then
      let b := releaseWms b ((List.range i).reverse.map (b.vfeOut o).wmRes)
      (rc, (camVfeBusReleaseCompGrp b (b.vfeOut o).compGrp).2)
    else (rc, b.setOut o fun v => { v with resState := .reserved })

/-- The composite group and the masters of an output, after the secure counter. -/
def reserveOut (cfg : BusCfg) (b : BusVer2) (o : VfeOutType) (numWm : ℕ) (a : AcquireArgs) :
    ℤ × BusVer2 :=
  match if wantsCompGrp numWm a then camVfeBusAcquireCompGrp cfg b o a else (0, b) with
  | (rc, b) => if rc ≠ 0 then (rc, b) else reserveWms cfg b o numWm a

def camVfeBusAcquireVfeOut (cfg : BusCfg) (b : BusVer2) (a : AcquireArgs) : ℤ × BusVer2 :=
  match camVfeBusGetOutResId a.resType with
  | none => (-Errno.ENODEV, b)
  | some o =>
    let numWm := camVfeBusGetNumWm o a.format
    if numWm < 1 then (-Errno.EINVAL, b)
    else if (b.vfeOut o).resState ≠ .available then (-Errno.EBUSY, b)
    else match acquireSecure b o a.secureMode with
      | none => (-Errno.EINVAL, b)
      | some b =>
        reserveOut cfg (b.setOut o fun v => { v with numWm := numWm.toNat }) o numWm.toNat a

def releaseSecure (b : BusVer2) (o : VfeOutType) : BusVer2 :=
  if camVfeBusCanBeSecure o then
    let b := if (b.vfeOut o).secureMode = b.secureMode then
        { b.setOut o fun v => { v with secureMode := 0 } with numSecOut := u32Dec b.numSecOut }
      else b
    if b.numSecOut = 0 then { b with secureMode := 0 } else b
  else b

/-- The masters and the composite group of an output, before the secure counter. -/
def releaseHeld (b : BusVer2) (o : VfeOutType) : BusVer2 :=
  let v := b.vfeOut o
  let b := releaseWms b ((List.range v.numWm).map v.wmRes)
  let b := b.setOut o fun v => { v with numWm := 0 }
  let b := if v.compGrp.isSome then (camVfeBusReleaseCompGrp b v.compGrp).2 else b
  b.setOut o fun v => { v with compGrp := none }

def camVfeBusReleaseVfeOut (b : BusVer2) (o : VfeOutType) : BusVer2 :=
  let b := releaseSecure (releaseHeld b o) o
  if (b.vfeOut o).resState = .reserved then b.setOut o fun v => { v with resState := .available }
  else b

inductive Op
  | acquire (a : AcquireArgs)
  | release (o : VfeOutType)
  deriving DecidableEq, Repr

def step (cfg : BusCfg) (b : BusVer2) : Op → BusVer2
  | .acquire a => (camVfeBusAcquireVfeOut cfg b a).2
  | .release o => camVfeBusReleaseVfeOut b o

end CameraKernel.VfeBus
