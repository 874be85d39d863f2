import CameraKernel.RunningMax
import CameraKernel.SensorParse

/-! The requests of a sensor: the packets that bring the settings of a frame, the calls that apply
them, and the flush. The settings of a frame are a list of entries of any type; what the parser of
the command buffer does to it is part of the packet. -/
namespace CameraKernel.SensorRequests
open RunningMax (runningMax)

def MAX_PER_FRAME_ARRAY : ℕ := 32
def BATCH_SIZE_MAX : ℕ := 16

inductive SensorState
  | init | acquire | config | start
  deriving DecidableEq, Repr

/-- `enum cam_sensor_packet_opcodes`, with one for the values that it does not have. -/
inductive PacketOpcode
  | streamon | update | initialConfig | probe | config | streamoff | nop | other
  deriving DecidableEq, Repr

inductive FlushType
  | all | cancelReq
  deriving DecidableEq, Repr

section
variable {α : Type*}

/-- `struct i2c_settings_array`. A request id counts as an `int64_t` that is not negative. -/
structure SettingsArray (α : Type*) where
  listHead : List α
  isSettingsValid : ℤ
  requestId : ℕ
  deriving DecidableEq, Repr

/-- What the parser of the command buffer does: its code, the entries that it appends, and whether
it comes to the end of a buffer that is not empty. -/
structure Parsed (α : Type*) where
  rc : ℤ
  entries : List α
  finished : Bool
  deriving DecidableEq, Repr

def Parsed.store (p : Parsed α) (a : SettingsArray α) : SettingsArray α :=
  { a with
    listHead := a.listHead ++ p.entries
    isSettingsValid := if p.finished then 1 else a.isSettingsValid }

/-- `checks` is the code when the packet is refused before its header is looked at. -/
structure Packet (α : Type*) where
  checks : Option ℤ
  opCode : PacketOpcode
  requestId : ℕ
  parsed : Parsed α
  deriving DecidableEq, Repr

/-- The fields of `struct cam_sensor_ctrl_t` that the calls use. -/
structure SensorCtrl (α : Type*) where
  initSettings : SettingsArray α
  configSettings : SettingsArray α
  streamonSettings : SettingsArray α
  streamoffSettings : SettingsArray α
  perFrame : ℕ → SettingsArray α
  streamonCount : ℕ
  streamoffCount : ℕ
  lastFlushReq : ℕ
  sensorState : SensorState

/-- A sensor that is linked, without settings for a frame. -/
structure LinkedSensor (α : Type*) where
  start : SensorCtrl α
  linked : start.sensorState = .config ∨ start.sensorState = .start
  noFlush : start.lastFlushReq = 0
  free : ∀ i, (start.perFrame i).isSettingsValid ≠ 1 ∧ (start.perFrame i).listHead = []

def SensorCtrl.setFrame (s : SensorCtrl α) (i : ℕ) (a : SettingsArray α) : SensorCtrl α :=
  { s with perFrame := Function.update s.perFrame i a }

/-- The code, the ids told to the request manager, and the state. -/
abbrev ParseResult (α : Type*) := ℤ × List ℕ × SensorCtrl α

def SettingsArray.restart (a : SettingsArray α) : SettingsArray α :=
  { a with requestId := 0, isSettingsValid := 1 }

/-- An update: the settings of the frame, if their slot is free. -/
def parseUpdate (s : SensorCtrl α) (p : Packet α) : ParseResult α :=
  if s.sensorState = .init ∨ s.sensorState = .acquire then (0, [], s)
  else
    let i := p.requestId % MAX_PER_FRAME_ARRAY
    -- The request manager is told even though the slot is taken.
    if (s.perFrame i).isSettingsValid = 1 then (0, [p.requestId], s)
    else
      let a := p.parsed.store (s.perFrame i)
      if p.parsed.rc < 0 then (p.parsed.rc, [], s.setFrame i a)
      else (p.parsed.rc, [p.requestId], s.setFrame i { a with requestId := p.requestId })

def camSensorI2cPktParse (s : SensorCtrl α) (p : Packet α) : ParseResult α :=
  match p.checks with
  | some rc => (rc, [], s)
  | none =>
    if p.opCode ≠ .initialConfig ∧ p.requestId ≤ s.lastFlushReq ∧ s.lastFlushReq ≠ 0 then
      (-Errno.EINVAL, [], s)
    else
      let s := if s.lastFlushReq < p.requestId then { s with lastFlushReq := 0 } else s
      match p.opCode with
      | .initialConfig =>
        (p.parsed.rc, [], { s with initSettings := p.parsed.store s.initSettings.restart })
      | .config =>
        (p.parsed.rc, [], { s with configSettings := p.parsed.store s.configSettings.restart })
      | .streamon =>
        if s.streamonCount > 0 then (0, [], s)
        else (p.parsed.rc, [], { s with
          streamonCount := s.streamonCount + 1
          streamonSettings := p.parsed.store s.streamonSettings.restart })
      | .streamoff =>
        if s.streamoffCount > 0 then (0, [], s)
        else (p.parsed.rc, [], { s with
          streamoffCount := s.streamoffCount + 1
          streamoffSettings := p.parsed.store s.streamoffSettings.restart })
      | .update => parseUpdate s p
      | .nop =>
        if s.sensorState = .init ∨ s.sensorState = .acquire then (0, [], s)
        else (0, [p.requestId], s)
      | .probe | .other => (-Errno.EINVAL, [], s)

/-- What the bus answers to an entry. -/
abbrev Bus (α : Type*) := α → ℤ

structure Applied (α : Type*) where
  rc : ℤ
  written : List α
  ctrl : SensorCtrl α

/-- Entry by entry, up to the first that fails; `rc` is the code so far. -/
def writeList (io : Bus α) : ℤ → List α → ℤ × List α
  | rc, [] => (rc, [])
  | _, e :: es =>
    if io e < 0 then (io e, [e]) else ((writeList io (io e) es).1, e :: (writeList io (io e) es).2)

/-- The id of a slot that is filled for a request not after `reqId`. -/
def appliedKey (reqId : ℕ) (a : SettingsArray α) : Option ℕ :=
  if a.requestId ≤ reqId ∧ a.isSettingsValid = 1 then some a.requestId else none

/-- `top` and `del_req_id` of the scan over the slots. -/
def scanSlots (s : SensorCtrl α) (reqId : ℕ) : ℕ × ℕ :=
  runningMax 0 ((List.range MAX_PER_FRAME_ARRAY).map fun i => appliedKey reqId (s.perFrame i))

/-- The difference of two places in the ring, as a `uint64_t`. -/
def ringDiff (a b : ℕ) : ℕ := (a % MAX_PER_FRAME_ARRAY + 2 ^ 64 - b % MAX_PER_FRAME_ARRAY) % 2 ^ 64

def delReqId (s : SensorCtrl α) (reqId : ℕ) : ℕ :=
  if (scanSlots s reqId).1 < reqId ∧ (BATCH_SIZE_MAX ≤ ringDiff (scanSlots s reqId).1 reqId ∨
      ringDiff (scanSlots s reqId).1 reqId ≤ 2 ^ 64 - BATCH_SIZE_MAX) then reqId
  else (scanSlots s reqId).2

def deleteRequest (a : SettingsArray α) : SettingsArray α :=
  { a with listHead := [], isSettingsValid := 0 }

/-- The slot is filled for a request before `del`. -/
def SettingsArray.before (a : SettingsArray α) (del : ℕ) : Bool :=
  a.requestId < del && a.isSettingsValid == 1

def deleteBefore (s : SensorCtrl α) (del : ℕ) : SensorCtrl α :=
  { s with perFrame := fun i =>
      if i < MAX_PER_FRAME_ARRAY ∧ (s.perFrame i).before del = true then
        deleteRequest { s.perFrame i with requestId := 0 }
      else s.perFrame i }

/-- The writes for a request, from the slot that it maps to. -/
def writeFrame (io : Bus α) (a : SettingsArray α) (reqId : ℕ) : ℤ × List α :=
  if a.isSettingsValid = 1 ∧ a.requestId = reqId then writeList io 0 a.listHead else (0, [])

def SensorCtrl.streamSettings (s : SensorCtrl α) : PacketOpcode → Option (SettingsArray α)
  | .streamon => some s.streamonSettings
  | .initialConfig => some s.initSettings
  | .config => some s.configSettings
  | .streamoff => some s.streamoffSettings
  | _ => none

def camSensorApplySettings (io : Bus α) (s : SensorCtrl α) (reqId : ℕ) (opcode : PacketOpcode) :
    Applied α :=
  if reqId = 0 then
    match s.streamSettings opcode with
    | none => ⟨0, [], s⟩
    | some a =>
      if a.isSettingsValid = 1 then ⟨(writeList io 0 a.listHead).1, (writeList io 0 a.listHead).2, s⟩
      else ⟨0, [], s⟩
  else
    let w := writeFrame io (s.perFrame (reqId % MAX_PER_FRAME_ARRAY)) reqId
    if w.1 < 0 then ⟨w.1, w.2, s⟩
    else if delReqId s reqId = 0 then ⟨w.1, w.2, s⟩
    else
      -- Each deletion sets the code anew.
      let rc := if (List.range MAX_PER_FRAME_ARRAY).any fun i =>
          (s.perFrame i).before (delReqId s reqId) then 0 else w.1
      ⟨rc, w.2, deleteBefore s (delReqId s reqId)⟩

/-- The loop of the flush; a cancelled request is the first slot with its id. -/
def flushSlots (s : SensorCtrl α) (type : FlushType) (reqId : ℕ) : SensorCtrl α :=
  match type with
  | .all => { s with perFrame := fun i =>
      if i < MAX_PER_FRAME_ARRAY ∧ (s.perFrame i).isSettingsValid = 1 then
        deleteRequest (s.perFrame i)
      else s.perFrame i }
  | .cancelReq =>
    match (List.range MAX_PER_FRAME_ARRAY).find? fun i =>
        (s.perFrame i).requestId == reqId && (s.perFrame i).isSettingsValid == 1 with
    | some i => s.setFrame i (deleteRequest (s.perFrame i))
    | none => s

def camSensorFlushRequest (s : SensorCtrl α) (type : FlushType) (reqId : ℕ) : ℤ × SensorCtrl α :=
  if s.sensorState ≠ .start ∨ s.sensorState ≠ .config then (0, s)
  else
    let s := if type = .all then { s with lastFlushReq := reqId % 2 ^ 32 } else s
    (0, flushSlots s type reqId)

end

section
open SensorUtil (Allocator CmdDesc I2cSettings I2cSettingsArray CamSensorI2cCommandParser ParseState
  Command)

/-- The entries of the call stand behind those before it, and a delay goes to one of them. -/
def Appends (front : List I2cSettings) (s : ParseState) : Prop :=
  ∃ es, s.array = front ++ es ∧ ∀ i, s.list = some i → front.length ≤ i ∧ es ≠ []

variable {front : List I2cSettings} {s : ParseState} {alloc : Allocator} {d : CmdDesc}

lemma Appends.append (h : Appends front s) (e : I2cSettings) :
    ∃ es, es ≠ [] ∧ (s.append e).array = front ++ es := by
  obtain ⟨es, hes, -⟩ := h
  exact ⟨es ++ [e], by simp, by rw [ParseState.append, hes, List.append_assoc]⟩

lemma Appends.modify (h : Appends front s) (htarget : s.list.isSome = true)
    (f : I2cSettings → I2cSettings) :
    ∃ es, es ≠ [] ∧ s.array.modify (s.list.getD 0) f = front ++ es := by
  obtain ⟨es, hes, hlist⟩ := h
  obtain ⟨i, hi⟩ := Option.isSome_iff_exists.1 htarget
  obtain ⟨hle, hne⟩ := hlist i hi
  refine ⟨es.modify (i - front.length) f, by simpa using hne, ?_⟩
  rw [hi, Option.getD_some, hes, ← SensorUtil.Listed.modify_append_right, Nat.add_sub_cancel' hle]

lemma Appends.apply (h : Appends front s) {c : Command}
    (htarget : c.isWait = true → s.list.isSome = true) :
    ∃ es, es ≠ [] ∧ (c.apply s).array = front ++ es ∧
      ∀ i, (c.apply s).list = some i → front.length ≤ i := by
  have hold : ∀ i, s.list = some i → front.length ≤ i := fun i hi => (h.choose_spec.2 i hi).1
  have hlast {e : I2cSettings} {es : List I2cSettings} (hne : es ≠ [])
      (hes : (s.append e).array = front ++ es) : front.length ≤ (s.append e).array.length - 1 := by
    have := List.length_pos_iff.2 hne
    rw [hes, List.length_append]
    omega
  cases c with
  | write op addrType dataType regs =>
    obtain ⟨es, hne, hes⟩ := h.append (SensorUtil.Listed.base (.write op addrType dataType regs))
    refine ⟨es, hne, hes, fun i hi => ?_⟩
    cases hi
    exact hlast hne hes
  | poll addrType dataType regAddr regData timeout dataMask =>
    obtain ⟨es, hne, hes⟩ := h.append (SensorUtil.Listed.base
      (Command.unmasked (.poll addrType dataType regAddr regData timeout dataMask)))
    refine ⟨es, hne, hes, fun i hi => ?_⟩
    cases hi
    exact hlast hne hes
  | info slaveAddr i2cFreqMode =>
    obtain ⟨es, hne, hes⟩ := h.append (SensorUtil.Listed.base (.info slaveAddr i2cFreqMode))
    exact ⟨es, hne, hes, hold⟩
  | hwWait n =>
    obtain ⟨es, hne, hes⟩ := h.modify (htarget rfl) (·.setHwDelay (s.j - 1) n)
    exact ⟨es, hne, hes, hold⟩
  | swWait n =>
    obtain ⟨es, hne, hes⟩ := h.modify (htarget rfl) (·.setSwDelay n)
    exact ⟨es, hne, hes, hold⟩

lemma Appends.round {t : ParseState} (h : Appends front s)
    (hbody : SensorUtil.descBody alloc d s = .inr t) :
    ∃ es, es ≠ [] ∧ t.array = front ++ es ∧ ∀ i, t.list = some i → front.length ≤ i := by
  have hround := SensorUtil.round_parseBody alloc d.mem (d.lenOfBuff - d.offset.toNat)
    d.length.toNat s
  rw [← SensorUtil.descBody, hbody] at hround
  cases hround with
  | took rs _ _ ht _ _ heff =>
    obtain ⟨es, hne, hes, hlist⟩ := h.apply fun hw => (ht.target hw).1
    refine ⟨es, hne, ?_, fun i hi => hlist i ?_⟩
    · rw [heff]
      exact hes
    · rw [heff] at hi
      exact hi

lemma appends_of_reaches {a : I2cSettingsArray}
    (h : WhileLoop.Reaches (SensorUtil.descBody alloc d) (SensorUtil.parseStart d a) s) :
    s = SensorUtil.parseStart d a ∨ ∃ es, es ≠ [] ∧ s.array = a.listHead ++ es ∧
      ∀ i, s.list = some i → a.listHead.length ≤ i := by
  induction h with
  | refl => exact .inl rfl
  | @step t u _ hb ih =>
    have happ : Appends a.listHead t := by
      rcases ih with rfl | ⟨es, hne, hes, hlist⟩
      · exact ⟨[], (List.append_nil _).symm, fun i hi => by cases hi⟩
      · exact ⟨es, hes, fun i hi => ⟨hlist i hi, hne⟩⟩
    exact .inr (happ.round hb)

lemma parser_appends {a b : I2cSettingsArray} {ret : ℤ} (hlen : d.length ≠ 0)
    (h : CamSensorI2cCommandParser alloc 0 a [d] ret b) (hret : 0 ≤ ret) (id : ℕ) :
    ∃ es, es ≠ [] ∧ SettingsArray.mk b.listHead b.isSettingsValid id =
      Parsed.store ⟨ret, es, true⟩ ⟨a.listHead, a.isSettingsValid, id⟩ := by
  rw [CamSensorI2cCommandParser, if_neg hlen] at h
  cases hcheck : SensorUtil.checkDesc d with
  | some e =>
    rw [hcheck] at h
    rw [SensorUtil.checkDesc] at hcheck
    have hneg : e < 0 := by
      split_ifs at hcheck with h1
      · cases hcheck
        exact h1
      · cases hcheck
        exact SensorUtil.neg_EINVAL
      · cases hcheck
        exact SensorUtil.neg_EINVAL
    have := h.1
    omega
  | none =>
    rw [hcheck] at h
    obtain ⟨exit, s, hr, h⟩ := h
    obtain ⟨t, hreach, hbreak⟩ := hr.exists_break
    have hround := SensorUtil.round_parseBody alloc d.mem (d.lenOfBuff - d.offset.toNat)
      d.length.toNat t
    rw [← SensorUtil.descBody, hbreak] at hround
    cases hround with
    | refused rs _ he =>
      have := h.1
      omega
    | finished hend =>
      obtain ⟨-, rfl⟩ := h
      rcases appends_of_reaches hreach with rfl | ⟨es, hne, hes, -⟩
      · have : 0 < d.length.toNat := by
          rw [Nat.pos_iff_ne_zero]
          exact fun hz => hlen (UInt32.toNat_inj.1 hz)
        exact absurd hend (by simp only [SensorUtil.parseStart]; omega)
      · refine ⟨es, hne, ?_⟩
        rw [Parsed.store, ParseState.settings, ← hes]
        rfl

end
end CameraKernel.SensorRequests
