import CameraKernel.Errno
import CameraKernel.Transition

/-! GPIOs shared between devices. The kernel grants a GPIO to one requester at a time, and
may refuse it besides; an allocation may fail. -/
namespace CameraKernel.ResMgr

/-- The calls that reached the kernel, with the devices that held the GPIO when it was freed. -/
inductive KernelCall
  | request (dev gpio : ℕ)
  | free (dev gpio : ℕ) (holders : Finset ℕ)
  deriving DecidableEq

/-- `devList` is the list of the GPIO's entry; a GPIO has one entry at most, as one is added
only when none is found. `holders` are the devices whose last operation on the GPIO was a
successful request. -/
structure State where
  devList : ℕ → Option (List ℕ)
  requested : ℕ → Option ℕ
  holders : ℕ → Finset ℕ
  log : List KernelCall

/-- What the device tree says. -/
structure Dt where
  sharedGpioEnabled : Bool
  sharedGpio : List ℕ

/-- The kernel's own answer to a request, and whether the two records can be allocated. -/
structure Answers where
  rc : ℤ
  allocRes : Bool
  allocDev : Bool
  deriving DecidableEq, Repr

variable (dt : Dt)

def isShared (gpio : ℕ) : Bool := dt.sharedGpioEnabled && dt.sharedGpio.contains gpio

def gpioRequestOne (s : State) (dev gpio : ℕ) (rc : ℤ) : ℤ × State :=
  if (s.requested gpio).isSome then (-Errno.EBUSY, s)
  else if rc ≠ 0 then (rc, s)
  else (0, { s with
    requested := Function.update s.requested gpio (some dev)
    log := s.log ++ [KernelCall.request dev gpio] })

def gpioFree (s : State) (dev gpio : ℕ) : State :=
  { s with
    requested := Function.update s.requested gpio none
    log := s.log ++ [KernelCall.free dev gpio (s.holders gpio)] }

def State.setDevList (s : State) (gpio : ℕ) (l : Option (List ℕ)) : State :=
  { s with devList := Function.update s.devList gpio l }

def State.setHolders (s : State) (gpio : ℕ) (h : Finset ℕ) : State :=
  { s with holders := Function.update s.holders gpio h }

/-- The entry is looked up only when sharing is enabled. -/
def findRes (s : State) (gpio : ℕ) : Option (List ℕ) :=
  if dt.sharedGpioEnabled then s.devList gpio else none

def camResMgrGpioRequest (s : State) (dev gpio : ℕ) (a : Answers) : ℤ × State :=
  match findRes dt s gpio with
  | none =>
    match gpioRequestOne s dev gpio a.rc with
    | (rc, s) =>
      if rc ≠ 0 then (rc, s)
      else if isShared dt gpio then
        if !a.allocRes then (-Errno.ENOMEM, s)
        else if !a.allocDev then (-Errno.ENOMEM, s)
        else (0, s.setDevList gpio (some [dev]))
      else (0, s)
  | some l =>
    if l.contains dev then (0, s)
    else if !a.allocDev then (-Errno.ENOMEM, s)
    else (0, s.setDevList gpio (some (l ++ [dev])))

def camResMgrGpioFree (s : State) (dev gpio : ℕ) : State :=
  match findRes dt s gpio with
  | none => gpioFree s dev gpio
  | some l =>
    -- The last entry goes, whoever it names.
    if l.length = 1 then gpioFree (s.setDevList gpio none) dev gpio
    else if l.contains dev then s.setDevList gpio (some (l.erase dev))
    else gpioFree s dev gpio

def request (s : State) (dev gpio : ℕ) (a : Answers) : ℤ × State :=
  match camResMgrGpioRequest dt s dev gpio a with
  | (rc, s) => (rc, s.setHolders gpio
      (if rc = 0 then insert dev (s.holders gpio) else (s.holders gpio).erase dev))

def free (s : State) (dev gpio : ℕ) : State :=
  let s := camResMgrGpioFree dt s dev gpio
  s.setHolders gpio ((s.holders gpio).erase dev)

/-- The array is freed from its end. -/
def freeArry (s : State) (dev : ℕ) (array : List ℕ) : State :=
  array.reverse.foldl (fun s gpio => free dt s dev gpio) s

/-- A failed request does not end the loop; the code is that of the last one. -/
def requestArry (s : State) (dev : ℕ) (tbl : List (ℕ × Answers)) : ℤ × State :=
  tbl.foldl (fun r e => request dt r.2 dev e.1 e.2) (0, s)

/-- `camGpioCommonTblSize` and `camGpioReqTbl` of a device. -/
structure GpioConf where
  commonTblSize : ℕ
  reqTbl : List (ℕ × Answers)
  deriving DecidableEq, Repr

def camSensorUtilRequestGpioTable (s : State) (dev : ℕ) (conf : Option GpioConf) (gpioEn : Bool) :
    ℤ × State :=
  match conf with
  | none => (0, s)
  | some conf =>
    if conf.commonTblSize = 0 then (-Errno.EINVAL, s)
    else if conf.reqTbl = [] then (-Errno.EINVAL, s)
    else if gpioEn then requestArry dt s dev conf.reqTbl
    else (0, freeArry dt s dev (conf.reqTbl.map Prod.fst))

inductive Op
  | request (dev gpio : ℕ) (a : Answers)
  | freeArry (dev : ℕ) (array : List ℕ)
  | requestGpioTable (dev : ℕ) (conf : Option GpioConf) (gpioEn : Bool)
  deriving DecidableEq, Repr

def step (s : State) : Op → State
  | .request dev gpio a => (request dt s dev gpio a).2
  | .freeArry dev array => freeArry dt s dev array
  | .requestGpioTable dev conf gpioEn => (camSensorUtilRequestGpioTable dt s dev conf gpioEn).2

def init : State := ⟨fun _ => none, fun _ => none, fun _ => ∅, []⟩

def requests (s : State) (gpio : ℕ) : ℕ :=
  s.log.countP fun
    | .request _ g => g = gpio
    | .free .. => false

def frees (s : State) (gpio : ℕ) : ℕ :=
  s.log.countP fun
    | .request .. => false
    | .free _ g _ => g = gpio

structure HeldWhileUsed (s : State) : Prop where
  requested : ∀ gpio, isShared dt gpio = true →
    ((s.requested gpio).isSome = true ↔ ∃ dev, dev ∈ (s.devList gpio).getD [])
  devList : ∀ gpio, isShared dt gpio = true →
    ∀ dev, dev ∈ (s.devList gpio).getD [] ↔ dev ∈ s.holders gpio
  once : ∀ gpio, requests s gpio = frees s gpio + if (s.requested gpio).isSome then 1 else 0
  alone : ∀ dev gpio holders, KernelCall.free dev gpio holders ∈ s.log → ∀ d ∈ holders, d = dev

/-- The device is on the list of a shared GPIO, or the kernel granted it a private one. -/
def holds (s : State) (dev gpio : ℕ) : Bool :=
  if isShared dt gpio then ((s.devList gpio).getD []).contains dev else s.requested gpio = some dev

/-- No record is missing for a shared GPIO the kernel has granted. -/
def recorded (s : State) (gpio : ℕ) (a : Answers) : Bool :=
  !isShared dt gpio || (s.devList gpio).isSome || (s.requested gpio).isSome || a.rc ≠ 0 ||
    (a.allocRes && a.allocDev)

def freesHeld (dev : ℕ) : State → List ℕ → Bool
  | _, [] => true
  | s, gpio :: rest => holds dt s dev gpio && freesHeld dev (free dt s dev gpio) rest

def requestsRecorded (dev : ℕ) : State → List (ℕ × Answers) → Bool
  | _, [] => true
  | s, e :: rest => recorded dt s e.1 e.2 && requestsRecorded dev (request dt s dev e.1 e.2).2 rest

/-- Devices free what they hold, and what is granted is recorded. -/
def heldAndRecorded (s : State) : Op → Bool
  | .request _ gpio a => recorded dt s gpio a
  | .freeArry dev array => freesHeld dt dev s array.reverse
  | .requestGpioTable dev conf gpioEn =>
    match conf with
    | none => true
    | some conf => conf.commonTblSize = 0 || conf.reqTbl = [] ||
      if gpioEn then requestsRecorded dt dev s conf.reqTbl
      else freesHeld dt dev s (conf.reqTbl.map Prod.fst).reverse

end CameraKernel.ResMgr
