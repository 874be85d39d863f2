import CameraKernel.PacketPatches

/-! How the JPEG manager prepares a packet: the fences of its io configs with their ports, and the
entries of the update list that a job uses later. -/
namespace CameraKernel.JpegPrepare
open GenericBlob (CpuBuf)
open PacketUtil (Packet CmdDesc KmdBufInfo MemAnswers validatePacket processPatches getKmdBuffer
  cmdDescAt wordAt handleAt sizeofCmdBufDesc sizeofBufIoCfg)

def CAM_JPEG_OPCODE_ENC_UPDATE : UInt32 := 0
def CAM_JPEG_OPCODE_DMA_UPDATE : UInt32 := 1
def CAM_BUF_INPUT : UInt32 := 1

def CAM_JPEG_CHBASE : ℕ := 0
def CAM_JPEG_CFG : ℕ := 1
def CAM_JPEG_PARAM : ℕ := 2

/-- The fields of `struct cam_buf_io_cfg` that are read. -/
structure IoConfig where
  resourceType : UInt32
  fence : ℤ
  direction : UInt32
  deriving DecidableEq, Repr

def IoConfig.isInput (c : IoConfig) : Bool := c.direction = CAM_BUF_INPUT

def ioConfigAt (packet : Packet) (i : ℕ) : IoConfig :=
  let p := 4 * (packet.ioConfigsOffset / 4).toNat + sizeofBufIoCfg * i
  ⟨wordAt packet.payload (p + 188), handleAt packet.payload (p + 192), wordAt packet.payload (p + 224)⟩

def ioConfigs (packet : Packet) : List IoConfig :=
  (List.range packet.numIoConfigs.toNat).map (ioConfigAt packet)

def cmdDescs (packet : Packet) : List CmdDesc :=
  (List.range packet.numCmdBuf.toNat).map fun i =>
    cmdDescAt packet.payload (4 * (packet.cmdBufOffset / 4).toNat + sizeofCmdBufDesc * i)

/-- `struct cam_hw_fence_map_entry`. -/
structure MapEntry where
  resourceHandle : UInt32
  syncId : ℤ
  deriving DecidableEq, Repr

/-- `struct cam_hw_update_entry`. -/
structure UpdateEntry where
  handle : ℤ
  offset : UInt32
  len : UInt32
  deriving DecidableEq, Repr

/-- The part of `struct cam_hw_prepare_update_args` that is returned, with the caller's limits. -/
structure Args where
  inMapEntries : ℕ → MapEntry
  numInMapEntries : ℕ
  maxInMapEntries : ℕ
  outMapEntries : ℕ → MapEntry
  numOutMapEntries : ℕ
  maxOutMapEntries : ℕ
  hwUpdateEntries : ℕ → UpdateEntry
  numHwUpdateEntries : ℕ

/-- A call: the packet and its length, the context, and what the memory manager answers. -/
structure Call where
  inUse : Bool
  opCode : UInt32
  packet : Packet
  remainLen : ℕ
  iommuHdl : ℤ
  patches : MemAnswers
  kmdCpu : CpuBuf
  args : Args

/-- The two indices and the arguments. -/
structure Loop where
  j : ℕ
  k : ℕ
  args : Args

def setHandle (entries : ℕ → MapEntry) (i : ℕ) (resourceType : UInt32) : ℕ → MapEntry :=
  Function.update entries i { entries i with resourceHandle := resourceType }

def setSync (entries : ℕ → MapEntry) (i : ℕ) (fence : ℤ) : ℕ → MapEntry :=
  Function.update entries i { entries i with syncId := fence }

/-- One io config. For an output the resource handle goes to the input entries. -/
def mapIoConfig (s : Loop) (c : IoConfig) : Loop :=
  if c.isInput then
    ⟨s.j + 1, s.k, { s.args with
      inMapEntries := setSync (setHandle s.args.inMapEntries s.j c.resourceType) s.j c.fence
      numInMapEntries := s.args.numInMapEntries + 1 }⟩
  else
    ⟨s.j, s.k + 1, { s.args with
      inMapEntries := setHandle s.args.inMapEntries s.k c.resourceType
      outMapEntries := setSync s.args.outMapEntries s.k c.fence
      numOutMapEntries := s.args.numOutMapEntries + 1 }⟩

def mapIoConfigs (args : Args) (configs : List IoConfig) : Args :=
  (configs.foldl mapIoConfig ⟨0, 0, { args with numOutMapEntries := 0 }⟩).args

/-- The KMD buffer, then the command descriptors, from the entry `j` on. -/
def fillUpdateEntries (args : Args) (kmd : KmdBufInfo) (descs : List CmdDesc) : Args :=
  let entries := ⟨kmd.handle, kmd.offset, kmd.usedBytes⟩ ::
    descs.map fun d => (⟨d.memHandle, d.offset, d.length⟩ : UpdateEntry)
  { args with
    hwUpdateEntries := fun i =>
      if args.numHwUpdateEntries ≤ i then
        entries.getD (i - args.numHwUpdateEntries) (args.hwUpdateEntries i)
      else args.hwUpdateEntries i
    numHwUpdateEntries := args.numHwUpdateEntries + entries.length }

namespace Call
variable (c : Call)

/-- `cam_jpeg_mgr_prepare_hw_update`. -/
def prepareHwUpdate : ℤ × Args :=
  if !c.inUse then (-Errno.EINVAL, c.args)
  else if c.opCode &&& 0xff ≠ CAM_JPEG_OPCODE_ENC_UPDATE ∧
      c.opCode &&& 0xff ≠ CAM_JPEG_OPCODE_DMA_UPDATE then (-Errno.EINVAL, c.args)
  else if validatePacket c.packet c.remainLen ≠ 0 then
    (validatePacket c.packet c.remainLen, c.args)
  else if c.packet.numCmdBuf > 5 ∨ c.packet.numPatches = 0 ∨ c.packet.numIoConfigs = 0 then
    (-Errno.EINVAL, c.args)
  else if (processPatches c.packet c.iommuHdl (-1) c.patches).1 ≠ 0 then
    ((processPatches c.packet c.iommuHdl (-1) c.patches).1, c.args)
  else
    let args := mapIoConfigs c.args (ioConfigs c.packet)
    match getKmdBuffer c.packet c.kmdCpu with
    | .error rc => (rc, args)
    | .ok kmd => (0, fillUpdateEntries args kmd (cmdDescs c.packet))

end Call

/-- The entries that `cam_jpeg_mgr_process_cmd` uses, then that of `cam_jpeg_mgr_process_irq`. -/
def usedEntries (numHwUpdateEntries : ℕ) : List ℕ :=
  CAM_JPEG_CHBASE :: List.range' CAM_JPEG_CFG (numHwUpdateEntries - 1 - CAM_JPEG_CFG) ++ [CAM_JPEG_PARAM]

def inputs (configs : List IoConfig) : List IoConfig := configs.filter (·.isInput)

def outputs (configs : List IoConfig) : List IoConfig := configs.filter (!·.isInput)

def entriesOf (configs : List IoConfig) : List MapEntry :=
  configs.map fun c => ⟨c.resourceType, c.fence⟩

/-- The entries are those of the packet, in order and within the caller's limits, and those that are
used later are there. -/
structure Mapped (packet : Packet) (args : Args) : Prop where
  numIn : args.numInMapEntries = (inputs (ioConfigs packet)).length
  inEntries : (List.range args.numInMapEntries).map args.inMapEntries =
    entriesOf (inputs (ioConfigs packet))
  numOut : args.numOutMapEntries = (outputs (ioConfigs packet)).length
  outEntries : (List.range args.numOutMapEntries).map args.outMapEntries =
    entriesOf (outputs (ioConfigs packet))
  inLimit : args.numInMapEntries ≤ args.maxInMapEntries
  outLimit : args.numOutMapEntries ≤ args.maxOutMapEntries
  used : ∀ i ∈ usedEntries args.numHwUpdateEntries, i < args.numHwUpdateEntries

namespace Call
variable (c : Call)

def Accepted : Prop := c.prepareHwUpdate.1 = 0

def Sound : Prop := c.Accepted → Mapped c.packet c.prepareHwUpdate.2

/-- Where an output has the same number as an input before it, the two have the same port. -/
def KeepsInputs (configs : List IoConfig) : Prop :=
  ∀ (pre : List IoConfig) (out : IoConfig) (post : List IoConfig),
    configs = pre ++ out :: post → out.isInput = false →
    ∀ x, (inputs pre)[(outputs pre).length]? = some x → out.resourceType = x.resourceType

/-- The entries of the outputs have the right ports before the call. -/
def HasOutPorts (configs : List IoConfig) (entries : ℕ → MapEntry) : Prop :=
  ∀ k x, (outputs configs)[k]? = some x → (entries k).resourceHandle = x.resourceType

/-- When an accepted packet is mapped as it should be. -/
structure Good : Prop where
  noInputs : c.args.numInMapEntries = 0
  keepsInputs : KeepsInputs (ioConfigs c.packet)
  hasOutPorts : HasOutPorts (ioConfigs c.packet) c.args.outMapEntries
  inLimit : (inputs (ioConfigs c.packet)).length ≤ c.args.maxInMapEntries
  outLimit : (outputs (ioConfigs c.packet)).length ≤ c.args.maxOutMapEntries
  cmdBufs : 2 ≤ c.args.numHwUpdateEntries + c.packet.numCmdBuf.toNat

end Call

variable {l : List IoConfig} {c : IoConfig} {entries : ℕ → MapEntry} {i n : ℕ}

@[simp] lemma setHandle_self (r : UInt32) : (setHandle entries i r i).resourceHandle = r := by
  simp [setHandle]

@[simp] lemma setHandle_syncId (r : UInt32) : (setHandle entries n r i).syncId = (entries i).syncId := by
  by_cases h : i = n
  · simp [setHandle, h]
  · simp [setHandle, h]

lemma setHandle_ne (r : UInt32) (h : i ≠ n) : setHandle entries n r i = entries i := by
  simp [setHandle, h]

@[simp] lemma setSync_self (f : ℤ) : (setSync entries i f i).syncId = f := by simp [setSync]

@[simp] lemma setSync_resourceHandle (f : ℤ) :
    (setSync entries n f i).resourceHandle = (entries i).resourceHandle := by
  by_cases h : i = n
  · simp [setSync, h]
  · simp [setSync, h]

lemma setSync_ne (f : ℤ) (h : i ≠ n) : setSync entries n f i = entries i := by simp [setSync, h]

lemma inputs_concat_input (h : c.isInput) : inputs (l ++ [c]) = inputs l ++ [c] := by
  simp [inputs, h]

lemma inputs_concat_output (h : c.isInput = false) : inputs (l ++ [c]) = inputs l := by
  simp [inputs, h]

lemma outputs_concat_input (h : c.isInput) : outputs (l ++ [c]) = outputs l := by
  simp [outputs, h]

lemma outputs_concat_output (h : c.isInput = false) : outputs (l ++ [c]) = outputs l ++ [c] := by
  simp [outputs, h]

lemma getElem?_concat {α : Type*} {l : List α} {a x : α} {i : ℕ} :
    (l ++ [a])[i]? = some x ↔ l[i]? = some x ∨ i = l.length ∧ a = x := by
  grind

lemma forall_getElem?_concat {α : Type*} {l : List α} {a : α} {P : ℕ → α → Prop} :
    (∀ i x, (l ++ [a])[i]? = some x → P i x) ↔ (∀ i x, l[i]? = some x → P i x) ∧ P l.length a := by
  constructor
  · intro h
    exact ⟨fun i x hx => h i x (getElem?_concat.mpr (.inl hx)),
      h _ _ (getElem?_concat.mpr (.inr ⟨rfl, rfl⟩))⟩
  · rintro ⟨h, ha⟩ i x hx
    rcases getElem?_concat.mp hx with hx | ⟨rfl, rfl⟩
    · exact h i x hx
    · exact ha

lemma keepsInputs_concat :
    Call.KeepsInputs (l ++ [c]) ↔ Call.KeepsInputs l ∧ (c.isInput = false →
      ∀ x, (inputs l)[(outputs l).length]? = some x → c.resourceType = x.resourceType) := by
  constructor
  · intro h
    refine ⟨fun pre out post heq => h pre out (post ++ [c]) ?_, h l c [] rfl⟩
    rw [heq]
    simp
  · rintro ⟨h, hc⟩ pre out post heq
    rcases List.eq_nil_or_concat post with rfl | ⟨post, d, rfl⟩
    · obtain ⟨rfl, hout⟩ := List.append_inj' heq rfl
      cases hout
      exact hc
    · rw [List.concat_eq_append, ← List.cons_append, ← List.append_assoc] at heq
      exact h pre out post (List.append_inj' heq rfl).1

/-- The loop after the configs `l`. -/
structure LoopInv (args : Args) (l : List IoConfig) (s : Loop) : Prop where
  j : s.j = (inputs l).length
  k : s.k = (outputs l).length
  same : s.args = { args with
    inMapEntries := s.args.inMapEntries
    outMapEntries := s.args.outMapEntries
    numInMapEntries := args.numInMapEntries + s.j
    numOutMapEntries := s.k }
  inSync : ∀ i x, (inputs l)[i]? = some x → (s.args.inMapEntries i).syncId = x.fence
  outSync : ∀ i x, (outputs l)[i]? = some x → (s.args.outMapEntries i).syncId = x.fence
  outPort : ∀ i, (s.args.outMapEntries i).resourceHandle = (args.outMapEntries i).resourceHandle
  freshPort : ∀ i x, (inputs l)[i]? = some x → (outputs l).length ≤ i →
    (s.args.inMapEntries i).resourceHandle = x.resourceType
  inPort : (∀ i x, (inputs l)[i]? = some x → (s.args.inMapEntries i).resourceHandle = x.resourceType) ↔
    Call.KeepsInputs l

lemma lt_of_getElem? {α : Type*} {l : List α} {i : ℕ} {x : α} (h : l[i]? = some x) : i < l.length :=
  (List.getElem?_eq_some_iff.mp h).1

lemma LoopInv.input {args : Args} {s : Loop} (h : LoopInv args l s) (hc : c.isInput) :
    LoopInv args (l ++ [c]) (mapIoConfig s c) := by
  rw [mapIoConfig, if_pos hc]
  have hne {i : ℕ} {x : IoConfig} (hx : (inputs l)[i]? = some x) : i ≠ s.j :=
    h.j ▸ (lt_of_getElem? hx).ne
  refine ⟨by simp [inputs_concat_input hc, h.j], by rw [outputs_concat_input hc, h.k], ?_, ?_, ?_,
    h.outPort, ?_, ?_⟩
  · rw [h.same]
    rfl
  · rw [inputs_concat_input hc, forall_getElem?_concat, ← h.j]
    refine ⟨fun i x hx => ?_, setSync_self _⟩
    dsimp only
    rw [setSync_ne _ (hne hx), setHandle_syncId]
    exact h.inSync i x hx
  · rw [outputs_concat_input hc]
    exact h.outSync
  · rw [inputs_concat_input hc, outputs_concat_input hc, forall_getElem?_concat, ← h.j]
    refine ⟨fun i x hx hle => ?_, fun _ => by simp⟩
    dsimp only
    rw [setSync_resourceHandle, setHandle_ne _ (hne hx)]
    exact h.freshPort i x hx hle
  · rw [inputs_concat_input hc, forall_getElem?_concat, keepsInputs_concat, ← h.inPort, ← h.j]
    simp only [hc, reduceCtorEq, false_imp_iff, and_true, setSync_resourceHandle, setHandle_self]
    exact forall_congr' fun i => forall_congr' fun x => forall_congr' fun hx => by
      rw [setHandle_ne _ (hne hx)]

lemma LoopInv.output {args : Args} {s : Loop} (h : LoopInv args l s) (hc : c.isInput = false) :
    LoopInv args (l ++ [c]) (mapIoConfig s c) := by
  rw [mapIoConfig, if_neg (by simp [hc])]
  have hne {i : ℕ} {x : IoConfig} (hx : (outputs l)[i]? = some x) : i ≠ s.k :=
    h.k ▸ (lt_of_getElem? hx).ne
  refine ⟨by rw [inputs_concat_output hc, h.j], by simp [outputs_concat_output hc, h.k], ?_, ?_, ?_,
    ?_, ?_, ?_⟩
  · rw [h.same]
  · rw [inputs_concat_output hc]
    intro i x hx
    dsimp only
    rw [setHandle_syncId]
    exact h.inSync i x hx
  · rw [outputs_concat_output hc, forall_getElem?_concat, ← h.k]
    refine ⟨fun i x hx => ?_, setSync_self _⟩
    dsimp only
    rw [setSync_ne _ (hne hx)]
    exact h.outSync i x hx
  · intro i
    dsimp only
    rw [setSync_resourceHandle]
    exact h.outPort i
  · rw [inputs_concat_output hc, outputs_concat_output hc, List.length_append, ← h.k]
    intro i x hx hle
    rw [List.length_singleton] at hle
    dsimp only
    rw [setHandle_ne _ (by omega)]
    exact h.freshPort i x hx (by rw [← h.k]; omega)
  · rw [inputs_concat_output hc, keepsInputs_concat, ← h.inPort, ← h.k]
    dsimp only
    constructor
    · intro hall
      refine ⟨fun i x hx => ?_, fun _ x hx => ?_⟩
      · by_cases hik : i = s.k
        · exact h.freshPort i x hx (by rw [hik, h.k])
        · have := hall i x hx
          rwa [setHandle_ne _ hik] at this
      · have := hall s.k x hx
        rwa [setHandle_self] at this
    · rintro ⟨hall, hk⟩ i x hx
      by_cases hik : i = s.k
      · rw [hik] at hx ⊢
        rw [setHandle_self]
        exact hk hc x hx
      · rw [setHandle_ne _ hik]
        exact hall i x hx

lemma loopInv (args : Args) (l : List IoConfig) :
    LoopInv args l (l.foldl mapIoConfig ⟨0, 0, { args with numOutMapEntries := 0 }⟩) := by
  induction l using List.reverseRecOn with
  | nil =>
    refine ⟨rfl, rfl, rfl, by simp [inputs], by simp [outputs], fun _ => rfl, by simp [inputs], ?_⟩
    exact iff_of_true (by simp [inputs]) fun pre out post heq => by simp at heq
  | append_singleton l c ih =>
    rw [List.foldl_append]
    cases hc : c.isInput with
    | true => exact ih.input hc
    | false => exact ih.output hc

lemma map_range_eq_map_iff {α β : Type*} {f : ℕ → β} {g : α → β} {l : List α} :
    (List.range l.length).map f = l.map g ↔ ∀ i x, l[i]? = some x → f i = g x := by
  constructor
  · intro h i x hx
    have hi := congrArg (·[i]?) h
    simpa [hx, List.getElem?_range (lt_of_getElem? hx)] using hi
  · intro h
    refine List.ext_getElem (by simp) fun i hi _ => ?_
    rw [List.length_map, List.length_range] at hi
    simpa using h i l[i] (List.getElem?_eq_getElem hi)

lemma forall_usedEntries_iff {n : ℕ} : (∀ i ∈ usedEntries n, i < n) ↔ CAM_JPEG_PARAM < n := by
  constructor
  · exact fun h => h CAM_JPEG_PARAM (by simp [usedEntries])
  · intro h i hi
    simp only [usedEntries, List.mem_append, List.mem_cons, List.mem_range'_1, List.not_mem_nil,
      or_false] at hi
    simp only [CAM_JPEG_PARAM, CAM_JPEG_CHBASE, CAM_JPEG_CFG] at h hi
    omega

lemma getKmdBuffer_error_ne {packet : Packet} {cpu : CpuBuf} {rc : ℤ}
    (h : getKmdBuffer packet cpu = .error rc) : rc ≠ 0 := by
  have hinval : -Errno.EINVAL ≠ 0 := by decide
  simp only [getKmdBuffer] at h
  split_ifs at h with hidx hdesc hmem hsize hoff
  all_goals cases h
  · exact hinval
  · exact hdesc
  · exact hmem
  · exact hinval
  · exact hinval

namespace Call
variable {c : Call}

lemma Accepted.eq (h : c.Accepted) : ∃ kmd, c.prepareHwUpdate =
    (0, fillUpdateEntries (mapIoConfigs c.args (ioConfigs c.packet)) kmd (cmdDescs c.packet)) := by
  have hinval : -Errno.EINVAL ≠ 0 := by decide
  rw [Accepted, prepareHwUpdate] at h
  split_ifs at h with huse hop hvalid hcount hpatch
  · exact absurd h hinval
  · exact absurd h hinval
  · exact absurd h hvalid
  · exact absurd h hinval
  · exact absurd h hpatch
  · rw [prepareHwUpdate, if_neg huse, if_neg hop, if_neg hvalid, if_neg hcount, if_neg hpatch]
    cases hkmd : getKmdBuffer c.packet c.kmdCpu with
    | error rc =>
      rw [hkmd] at h
      exact absurd h (getKmdBuffer_error_ne hkmd)
    | ok kmd => exact ⟨kmd, rfl⟩

lemma entries_iff {args : Args} {l : List IoConfig} {s : Loop} (h : LoopInv args l s) :
    (s.args.numInMapEntries = (inputs l).length ∧
        (List.range s.args.numInMapEntries).map s.args.inMapEntries = entriesOf (inputs l)) ∧
      s.args.numOutMapEntries = (outputs l).length ∧
        (List.range s.args.numOutMapEntries).map s.args.outMapEntries = entriesOf (outputs l) ↔
    (args.numInMapEntries = 0 ∧ KeepsInputs l) ∧ HasOutPorts l args.outMapEntries := by
  have hnumIn : s.args.numInMapEntries = args.numInMapEntries + (inputs l).length := by
    rw [h.same, h.j]
  have hnumOut : s.args.numOutMapEntries = (outputs l).length := by rw [h.same, h.k]
  refine and_congr ?_ ?_
  · have hzero : s.args.numInMapEntries = (inputs l).length ↔ args.numInMapEntries = 0 := by omega
    refine (and_congr_right fun hlen => ?_).trans (and_congr_left fun _ => hzero)
    rw [hlen, entriesOf, map_range_eq_map_iff, ← h.inPort]
    refine forall_congr' fun i => forall_congr' fun x => forall_congr' fun hx => ?_
    rw [← h.inSync i x hx]
    exact ⟨fun heq => by rw [heq], fun heq => by rw [← heq]⟩
  · rw [and_iff_right hnumOut, hnumOut, entriesOf, map_range_eq_map_iff]
    refine forall_congr' fun i => forall_congr' fun x => forall_congr' fun hx => ?_
    rw [← h.outSync i x hx, ← h.outPort i]
    exact ⟨fun heq => by rw [heq], fun heq => by rw [← heq]⟩

/-- The entries of an accepted packet are right exactly when the call is good. -/
theorem mapped_iff_good (c : Call) : c.Sound ↔ (c.Accepted → c.Good) := by
  refine forall_congr' fun hacc => ?_
  obtain ⟨kmd, heq⟩ := hacc.eq
  obtain ⟨s, hs⟩ : ∃ s, s = (ioConfigs c.packet).foldl mapIoConfig
    ⟨0, 0, { c.args with numOutMapEntries := 0 }⟩ := ⟨_, rfl⟩
  have hinv : LoopInv c.args (ioConfigs c.packet) s := hs ▸ loopInv c.args (ioConfigs c.packet)
  have hargs : mapIoConfigs c.args (ioConfigs c.packet) = s.args := by rw [hs, mapIoConfigs]
  have hentries := entries_iff hinv
  have hsame := hinv.same
  rw [heq, hargs]
  have hnum : (fillUpdateEntries s.args kmd (cmdDescs c.packet)).numHwUpdateEntries =
      c.args.numHwUpdateEntries + 1 + c.packet.numCmdBuf.toNat := by
    rw [hsame]
    simp only [fillUpdateEntries, cmdDescs, List.length_cons, List.length_map, List.length_range]
    omega
  have hused := forall_usedEntries_iff
    (n := (fillUpdateEntries s.args kmd (cmdDescs c.packet)).numHwUpdateEntries)
  have hnumIn : s.args.numInMapEntries = c.args.numInMapEntries + (inputs (ioConfigs c.packet)).length := by
    rw [hsame, hinv.j]
  have hnumOut : s.args.numOutMapEntries = (outputs (ioConfigs c.packet)).length := by
    rw [hsame, hinv.k]
  have hmaxIn : s.args.maxInMapEntries = c.args.maxInMapEntries := by rw [hsame]
  have hmaxOut : s.args.maxOutMapEntries = c.args.maxOutMapEntries := by rw [hsame]
  constructor
  · intro h
    obtain ⟨⟨hzero, hkeeps⟩, hports⟩ := hentries.mp ⟨⟨h.numIn, h.inEntries⟩, h.numOut, h.outEntries⟩
    refine ⟨hzero, hkeeps, hports, ?_, ?_, ?_⟩
    · exact h.numIn ▸ hmaxIn ▸ h.inLimit
    · exact h.numOut ▸ hmaxOut ▸ h.outLimit
    · have := hused.mp h.used
      rw [hnum, CAM_JPEG_PARAM] at this
      omega
  · intro h
    obtain ⟨⟨hin, hinEntries⟩, hout, houtEntries⟩ :=
      hentries.mpr ⟨⟨h.noInputs, h.keepsInputs⟩, h.hasOutPorts⟩
    refine ⟨hin, hinEntries, hout, houtEntries, ?_, ?_, hused.mpr ?_⟩
    · exact (hin.le.trans h.inLimit).trans hmaxIn.ge
    · exact (hout.le.trans h.outLimit).trans hmaxOut.ge
    · have := h.cmdBufs
      rw [hnum, CAM_JPEG_PARAM]
      omega

/-- An encode packet with three command buffers, one patch, and two io configs: the input with port 0
and fence 5, the output with port 1 and fence 6. -/
def encodePacket : Packet where
  size := 656
  cmdBufOffset := 0
  numCmdBuf := 3
  ioConfigsOffset := 72
  numIoConfigs := 2
  patchOffset := 584
  numPatches := 1
  kmdCmdBufIndex := 0
  kmdCmdBufOffset := 0
  payload
    | 0 => 1
    | 8 => 64
    | 24 => 2
    | 32 => 64
    | 48 => 3
    | 56 => 64
    | 264 => 5
    | 296 => 1
    | 516 => 1
    | 520 => 6
    | 552 => 2
    | 584 => 2
    | 592 => 4
    | _ => 0

/-- It is given for a request that has just been cleared. -/
def encode : Call where
  inUse := true
  opCode := CAM_JPEG_OPCODE_ENC_UPDATE
  packet := encodePacket
  remainLen := 656
  iommuHdl := 1
  patches := ⟨fun _ _ => false, fun _ _ _ => ⟨0, 0, 64⟩, fun _ _ => ⟨0, 4096, 64⟩⟩
  kmdCpu := ⟨0, 4096, 64⟩
  args := ⟨fun _ => ⟨0, 0⟩, 0, 20, fun _ => ⟨0, 0⟩, 0, 20, fun _ => ⟨0, 0, 0⟩, 0⟩

theorem not_mapped : ¬∀ c : Call, c.Sound := by
  intro h
  have haccepted : encode.Accepted := by
    show encode.prepareHwUpdate.1 = 0
    decide +kernel
  have hout := (h encode haccepted).outEntries
  revert hout
  decide +kernel

end Call
end CameraKernel.JpegPrepare
