import CameraKernel.IspPrepare
import CameraKernel.Transition

/-! Which paths a register update covers. The bitmap of paths lives in the context: each io config
sets its bit there, and only the end of a successful update packet clears it. -/
namespace CameraKernel.IspPrepare
open Std.Do
open PacketUtil (validatePacket getKmdBuffer)
set_option mvcgen.warning false
variable (env : Env) (args : Args) (ctx : Ctx)

/-- The union of what `fill_res_bitmap` sets for the resources. -/
def resBits : List UInt32 → UInt64
  | [] => 0
  | t :: ts => resBit t ||| resBits ts

/-- The bits of the packet's own io configs. -/
def Args.resBits (args : Args) : UInt64 := IspPrepare.resBits (args.ioCfgs.map (·.resourceType))

lemma resBits_append (ts us : List UInt32) : resBits (ts ++ us) = resBits ts ||| resBits us := by
  induction ts with
  | nil => simp [resBits]
  | cons t ts ih => simp [resBits, ih, UInt64.or_assoc]

/-- What the io configs of the packet fill in `n` bases. -/
def ownTypes (args : Args) : ℕ → List UInt32
  | 0 => []
  | n + 1 => ownTypes args n ++ args.ioCfgs.map (·.resourceType)

lemma resBits_ownTypes (args : Args) {n : ℕ} (hn : n ≠ 0) :
    IspPrepare.resBits (ownTypes args n) = args.resBits := by
  induction n with
  | zero => exact absurd rfl hn
  | succ n ih =>
    rw [ownTypes, resBits_append, ← Args.resBits]
    by_cases h : n = 0
    · simp [h, ownTypes, resBits]
    · rw [ih h, UInt64.or_self]

/-- `P` holds behind the call, whether it fails or not, when it holds before. -/
abbrev Keeps {α : Type} (P : Prep → Prop) (m : PrepM α) : Prop :=
  ⦃fun s => ⌜P s⌝⦄ m ⦃post⟨fun _ s => ⌜P s⌝, fun _ s => ⌜P s⌝⟩⦄

/-- The fields of the register update. -/
def Prep.paths (s : Prep) : UInt64 × List UInt32 × List UInt64 :=
  (s.resBitmap, s.filled, s.rupBitmaps)

@[simp, grind =] lemma paths_setFlags (s : Prep) (k : ℕ) (flags : UInt32) :
    (s.setFlags k flags).paths = s.paths := rfl

@[simp, grind =] lemma paths_addKmdBody (s : Prep) (bytes : UInt32) :
    (s.addKmdBody bytes).paths = s.paths := rfl

@[simp, grind =] lemma paths_addKmdEntry (s : Prep) (bytes : UInt32) :
    (s.addKmdEntry bytes).paths = s.paths := rfl

@[simp, grind =] lemma paths_addCmdEntry (s : Prep) (desc : CmdBufDesc) :
    (s.addCmdEntry desc).paths = s.paths := rfl

@[simp, grind =] lemma paths_setMaps (s : Prep) (outMap inMap : List FenceMapEntry) :
    { s with outMapEntries := outMap, inMapEntries := inMap : Prep }.paths = s.paths := rfl

section Frame
variable (v : UInt64 × List UInt32 × List UInt64)

lemma checkEntries_paths : Keeps (·.paths = v) (checkEntries args) := by
  mvcgen [checkEntries]

lemma processCmd_paths (site : Site) (total size : UInt32) (err : ℤ → ℤ) :
    Keeps (·.paths = v) (processCmd env site total size err) := by
  mvcgen [processCmd]

lemma remainSize_paths (total : UInt32) (err : ℤ) :
    Keeps (·.paths = v) (remainSize total err) := by
  mvcgen [remainSize]

lemma camIspAddChangeBase_paths (regUpdate : Bool) (i : ℕ) (baseIdx : UInt32) :
    Keeps (·.paths = v) (camIspAddChangeBase env args ctx regUpdate i baseIdx) := by
  have hcheck := checkEntries_paths
  have hprocess := processCmd_paths
  mvcgen [camIspAddChangeBase, hcheck, hprocess]
  all_goals grind

lemma camIspAddCmdBufUpdate_paths (res : HwMgrRes) (i d b p : ℕ)
    (baseIdx total size : UInt32) :
    Keeps (·.paths = v) (camIspAddCmdBufUpdate env res i d b p baseIdx total size) := by
  have hprocess := processCmd_paths
  mvcgen [camIspAddCmdBufUpdate, hprocess] invariants
  · post⟨fun _ s => ⌜s.paths = v⌝, fun _ s => ⌜s.paths = v⌝⟩
  all_goals grind

lemma addPorts_paths (i d b : ℕ) (baseIdx : UInt32) (types : List UInt32) :
    Keeps (·.paths = v) (addPorts env ctx i d b baseIdx types) := by
  have hremain := remainSize_paths
  have hbuf := camIspAddCmdBufUpdate_paths
  mvcgen [addPorts, hremain, hbuf] invariants
  · post⟨fun _ s => ⌜s.paths = v⌝, fun _ s => ⌜s.paths = v⌝⟩
  all_goals grind

lemma blobHandler_paths (i d b : ℕ) (baseIdx : UInt32) (blob : IspBlob) :
    Keeps (·.paths = v) (camIspPacketGenericBlobHandler env args ctx i d b baseIdx blob) := by
  have hcheck := checkEntries_paths
  have hports := addPorts_paths
  mvcgen [camIspPacketGenericBlobHandler, camIspBlobHfrUpdate, camIspBlobUbwcUpdate, hcheck, hports]
  all_goals grind

lemma processGenericCmdBuffer_paths (i d : ℕ) (baseIdx : UInt32) (desc : CmdBufDesc) :
    Keeps (·.paths = v) (processGenericCmdBuffer env args ctx i d baseIdx desc) := by
  have hblob := blobHandler_paths
  mvcgen [processGenericCmdBuffer, hblob] invariants
  · post⟨fun _ s => ⌜s.paths = v⌝, fun _ s => ⌜s.paths = v⌝⟩
  all_goals grind

lemma camIspAddCommandBuffers_paths (i : ℕ) (base : CtxBaseInfo) :
    Keeps (·.paths = v) (camIspAddCommandBuffers env args ctx i base) := by
  have hcheck := checkEntries_paths
  have hgeneric := processGenericCmdBuffer_paths
  mvcgen [camIspAddCommandBuffers, addCommandBuffer, hcheck, hgeneric] invariants
  · post⟨fun _ s => ⌜s.paths = v⌝, fun _ s => ⌜s.paths = v⌝⟩
  all_goals grind

lemma setupMemIo_paths (i k j : ℕ) (ioCfg : BufIoCfg) :
    Keeps (·.paths = v) (setupMemIo env i k j ioCfg) := by
  mvcgen [setupMemIo] invariants
  · post⟨fun _ s => ⌜s.paths = v⌝, fun _ s => ⌜s.paths = v⌝⟩

lemma mapIoCfg_paths (fillFence : Bool) (ioCfg : BufIoCfg)
    (outMap inMap : List FenceMapEntry) :
    Keeps (·.paths = v) (mapIoCfg args ctx fillFence ioCfg outMap inMap) := by
  mvcgen [mapIoCfg]

lemma updateIoCfg_paths (i k : ℕ) (baseIdx : UInt32) (ioCfg : BufIoCfg) (total : UInt32) :
    Keeps (·.paths = v) (updateIoCfg env ctx i k baseIdx ioCfg total) := by
  have hmem := setupMemIo_paths
  have hremain := remainSize_paths
  have hprocess := processCmd_paths
  mvcgen [updateIoCfg, hmem, hremain, hprocess] invariants
  · post⟨fun _ s => ⌜s.paths = v⌝, fun _ s => ⌜s.paths = v⌝⟩
  all_goals grind

end Frame

/-- The paths behind filling the resources `ts`. -/
def fillPaths (v : UInt64 × List UInt32 × List UInt64) (ts : List UInt32) :
    UInt64 × List UInt32 × List UInt64 := (v.1 ||| resBits ts, v.2.1 ++ ts, v.2.2)

@[simp] lemma fillPaths_nil (v : UInt64 × List UInt32 × List UInt64) : fillPaths v [] = v := by
  simp [fillPaths, resBits]

lemma fillPaths_append (v : UInt64 × List UInt32 × List UInt64) (ts us : List UInt32) :
    fillPaths v (ts ++ us) = fillPaths (fillPaths v ts) us := by
  simp [fillPaths, resBits_append, UInt64.or_assoc]

lemma paths_fill (s : Prep) (t : UInt32) :
    { s with resBitmap := s.resBitmap ||| resBit t, filled := s.filled ++ [t] : Prep}.paths =
      fillPaths s.paths [t] := by
  simp [Prep.paths, fillPaths, resBits]

/-- The paths behind filling some resources. -/
def FilledFrom (v w : UInt64 × List UInt32 × List UInt64) : Prop := ∃ ts, w = fillPaths v ts

@[grind .] lemma FilledFrom.refl (v : UInt64 × List UInt32 × List UInt64) : FilledFrom v v :=
  ⟨[], (fillPaths_nil v).symm⟩

@[grind .] lemma FilledFrom.fill (v : UInt64 × List UInt32 × List UInt64) (ts : List UInt32) :
    FilledFrom v (fillPaths v ts) := ⟨ts, rfl⟩

@[grind →] lemma FilledFrom.trans {v w : UInt64 × List UInt32 × List UInt64} {ts : List UInt32}
    (h : FilledFrom (fillPaths v ts) w) : FilledFrom v w := by
  obtain ⟨us, rfl⟩ := h
  exact ⟨ts ++ us, (fillPaths_append v ts us).symm⟩

lemma map_zipIdx_fst {α β : Type} (f : α → β) (l : List α) :
    (l.zipIdx.map fun x => f x.1) = l.map f := by
  conv_rhs => rw [← List.zipIdx_map_fst 0 l, List.map_map]
  rfl

section Fill
variable (v : UInt64 × List UInt32 × List UInt64)

lemma camIspAddIoBuffers_paths (i : ℕ) (baseIdx : UInt32) (fillFence : Bool) :
    ⦃fun s => ⌜s.paths = v⌝⦄
    camIspAddIoBuffers env args ctx i baseIdx fillFence
    ⦃post⟨fun _ s => ⌜s.paths = fillPaths v (args.ioCfgs.map (·.resourceType))⌝,
      fun _ s => ⌜FilledFrom v s.paths⌝⟩⦄ := by
  have hcheck := checkEntries_paths
  have hmap := mapIoCfg_paths
  have hio := updateIoCfg_paths
  mvcgen [camIspAddIoBuffers, fillResBitmap, hcheck, hmap, hio] invariants
  · post⟨fun (⟨done, _, _⟩, _) s =>
        ⌜s.paths = fillPaths v (done.map fun ioCfg => ioCfg.1.resourceType)⌝,
      fun _ s => ⌜FilledFrom v s.paths⌝⟩
  case vc1.step.post.success.post.success =>
    grind [paths_fill, fillPaths_append]
  all_goals grind [map_zipIdx_fst, fillPaths_nil]

lemma prepareBase_paths (i : ℕ) (base : CtxBaseInfo) :
    ⦃fun s => ⌜s.paths = v⌝⦄
    prepareBase env args ctx i base
    ⦃post⟨fun _ s => ⌜s.paths = fillPaths v (args.ioCfgs.map (·.resourceType))⌝,
      fun _ s => ⌜FilledFrom v s.paths⌝⟩⦄ := by
  have hbase := camIspAddChangeBase_paths
  have hbufs := camIspAddCommandBuffers_paths
  have hios := camIspAddIoBuffers_paths
  mvcgen [prepareBase, hbase, hbufs, hios]
  all_goals grind [fillPaths_nil]

/-- The paths when the register updates of `n` bases have been handed what was there behind filling
`ts`. -/
def handedPaths (v : UInt64 × List UInt32 × List UInt64) (ts : List UInt32) (n : ℕ) :
    UInt64 × List UInt32 × List UInt64 :=
  (v.1 ||| resBits ts, v.2.1 ++ ts, v.2.2 ++ List.replicate n (v.1 ||| resBits ts))

lemma handedPaths_zero (v : UInt64 × List UInt32 × List UInt64) (ts : List UInt32) :
    handedPaths v ts 0 = fillPaths v ts := by
  simp [handedPaths, fillPaths]

/-- A register update is handed the bitmap as it is. -/
def hand (w : UInt64 × List UInt32 × List UInt64) : UInt64 × List UInt32 × List UInt64 :=
  (w.1, w.2.1, w.2.2 ++ [w.1])

@[grind =] lemma paths_hand (s : Prep) :
    { s with rupBitmaps := s.rupBitmaps ++ [s.resBitmap] : Prep }.paths = hand s.paths := rfl

@[grind =] lemma hand_handedPaths (v : UInt64 × List UInt32 × List UInt64) (ts : List UInt32)
    (n : ℕ) : hand (handedPaths v ts n) = handedPaths v ts (n + 1) := by
  simp [hand, handedPaths, List.replicate_succ']

/-- What a packet that fails leaves: it has filled some resources, and those that its register
updates were handed are all of its own. -/
def FailedFrom (v : UInt64 × List UInt32 × List UInt64) (own : List UInt32)
    (w : UInt64 × List UInt32 × List UInt64) : Prop :=
  ∃ ts n, w = handedPaths v ts n ∧ (n ≠ 0 → ts = own)

lemma FilledFrom.failed {v w : UInt64 × List UInt32 × List UInt64} (own : List UInt32)
    (h : FilledFrom v w) : FailedFrom v own w := by
  obtain ⟨ts, rfl⟩ := h
  exact ⟨ts, 0, (handedPaths_zero v ts).symm, fun h => absurd rfl h⟩

@[grind .] lemma failedFrom_handed (v : UInt64 × List UInt32 × List UInt64) (own : List UInt32)
    (n : ℕ) : FailedFrom v own (handedPaths v own n) := ⟨own, n, rfl, fun _ => rfl⟩

lemma camIspAddRegUpdate_paths (i : ℕ) (baseIdx : UInt32) (own : List UInt32) (n : ℕ) :
    ⦃fun s => ⌜s.paths = handedPaths v own n⌝⦄
    camIspAddRegUpdate env args ctx i baseIdx
    ⦃post⟨fun _ s => ⌜s.paths = handedPaths v own (n + 1)⌝,
      fun _ s => ⌜FailedFrom v own s.paths⌝⟩⦄ := by
  have hcheck := checkEntries_paths
  have hremain := remainSize_paths
  have hprocess := processCmd_paths
  mvcgen [camIspAddRegUpdate, hcheck, hremain, hprocess] invariants
  · post⟨fun _ s => ⌜s.paths = handedPaths v own (n + 1)⌝, fun _ s => ⌜FailedFrom v own s.paths⌝⟩
  all_goals grind

lemma regUpdateBase_paths (i : ℕ) (base : CtxBaseInfo) (own : List UInt32) (n : ℕ) :
    ⦃fun s => ⌜s.paths = handedPaths v own n⌝⦄
    regUpdateBase env args ctx i base
    ⦃post⟨fun _ s => ⌜s.paths = handedPaths v own (n + 1)⌝,
      fun _ s => ⌜FailedFrom v own s.paths⌝⟩⦄ := by
  have hbase := camIspAddChangeBase_paths
  have hreg := camIspAddRegUpdate_paths
  mvcgen [regUpdateBase, hbase, hreg]
  all_goals grind

lemma prepareBases_paths :
    ⦃fun s => ⌜s.paths = v⌝⦄
    prepareBases env args ctx
    ⦃post⟨fun _ s => ⌜if args.isInit then s.paths = fillPaths v (ownTypes args ctx.base.length) else
          s.resBitmap = 0 ∧ s.rupBitmaps =
            (handedPaths v (ownTypes args ctx.base.length) ctx.base.length).2.2⌝,
      fun _ s => ⌜FailedFrom v (ownTypes args ctx.base.length) s.paths⌝⟩⦄ := by
  have hprepare := prepareBase_paths
  have hregBase := regUpdateBase_paths
  mvcgen [prepareBases, hprepare, hregBase] invariants
  · post⟨fun (⟨done, _, _⟩, _) s => ⌜s.paths = fillPaths v (ownTypes args done.length)⌝,
      fun _ s => ⌜FailedFrom v (ownTypes args ctx.base.length) s.paths⌝⟩
  · post⟨fun (⟨done, _, _⟩, _) s =>
        ⌜s.paths = handedPaths v (ownTypes args ctx.base.length) done.length⌝,
      fun _ s => ⌜FailedFrom v (ownTypes args ctx.base.length) s.paths⌝⟩
  case vc1.step.post.success pref cur _ _ _ _ h _ _ h' =>
    rw [h', h, List.length_append, List.length_singleton, ownTypes, fillPaths_append]
  all_goals
    grind [fillPaths_nil, handedPaths_zero, ownTypes, FilledFrom.failed, Prep.paths,
      List.length_zipIdx]

end Fill

lemma run_of_triple {ε σ α : Type} {m : EStateM ε σ α} {P : σ → Prop} {Q : α → σ → Prop}
    {E : σ → Prop} (h : ⦃fun s => ⌜P s⌝⦄ m ⦃post⟨fun a s => ⌜Q a s⌝, fun _ s => ⌜E s⌝⟩⦄)
    {s : σ} (hs : P s) :
    match m s with
    | .ok a t => Q a t
    | .error _ t => E t := by
  have h := h s hs
  cases hm : m s with
  | ok a t => simpa [wp, PredTrans.apply, EStateM.run, hm] using h
  | error e t => simpa [wp, PredTrans.apply, EStateM.run, hm] using h

/-- One prepare of a context. -/
structure Input where
  env : Env
  args : Args

/-- The bitmap of the context; the union over the init packets accepted since the last successful
update; and what packets rejected since then have set. -/
structure Session where
  resBitmap : UInt64
  wanted : UInt64
  left : UInt64
  deriving DecidableEq, Repr

def Session.start : Session := ⟨0, 0, 0⟩

def prepared (ctx : Ctx) (s : Session) (inp : Input) : EStateM.Result ℤ Prep Unit :=
  camIfeMgrPrepareHwUpdate inp.env inp.args ctx s.resBitmap

def resultState : EStateM.Result ℤ Prep Unit → Prep
  | .ok _ p => p
  | .error _ p => p

def step (ctx : Ctx) (s : Session) (inp : Input) : Session :=
  match prepared ctx s inp with
  | .ok _ p =>
    if inp.args.isInit then ⟨p.resBitmap, s.wanted ||| inp.args.resBits, s.left⟩
    else ⟨p.resBitmap, 0, 0⟩
  | .error _ p => ⟨p.resBitmap, s.wanted, s.left ||| IspPrepare.resBits p.filled⟩

/-- Every register update of the packet is handed the paths of the packet's io configs and of the
init packets before it. -/
def OwnPaths (ctx : Ctx) (s : Session) (inp : Input) : Prop :=
  ∀ b ∈ (resultState (prepared ctx s inp)).rupBitmaps, b = s.wanted ||| inp.args.resBits

/-- When the packet comes to a register update, the rejected packets before it have left no path
that is not its own anyway. -/
def NothingLeft (ctx : Ctx) (s : Session) (inp : Input) : Prop :=
  (resultState (prepared ctx s inp)).rupBitmaps ≠ [] →
    s.left ||| (s.wanted ||| inp.args.resBits) = s.wanted ||| inp.args.resBits

/-- The bitmap is what is wanted with what is left over. -/
def Split (ctx : Ctx) (s : Session) : Prop := ctx.base ≠ [] → s.resBitmap = s.wanted ||| s.left

lemma prepared_cases (ctx : Ctx) (s : Session) (inp : Input) :
    match prepared ctx s inp with
    | .ok _ p =>
      if inp.args.isInit then
        p.resBitmap = s.resBitmap ||| resBits (ownTypes inp.args ctx.base.length) ∧ p.rupBitmaps = []
      else p.resBitmap = 0 ∧ p.rupBitmaps = List.replicate ctx.base.length
        (s.resBitmap ||| resBits (ownTypes inp.args ctx.base.length))
    | .error _ p =>
      ∃ n, p.resBitmap = s.resBitmap ||| resBits p.filled ∧
        p.rupBitmaps = List.replicate n (s.resBitmap ||| resBits p.filled) ∧
        (n ≠ 0 → p.filled = ownTypes inp.args ctx.base.length) := by
  have hrejected : ∀ rc : ℤ, ∃ n, (Prep.start unsetKmdBuf s.resBitmap).resBitmap =
        s.resBitmap ||| resBits (Prep.start unsetKmdBuf s.resBitmap).filled ∧
      (Prep.start unsetKmdBuf s.resBitmap).rupBitmaps = List.replicate n
        (s.resBitmap ||| resBits (Prep.start unsetKmdBuf s.resBitmap).filled) ∧
      (n ≠ 0 → (Prep.start unsetKmdBuf s.resBitmap).filled =
        ownTypes inp.args ctx.base.length) := fun _ =>
    ⟨0, by simp [Prep.start, resBits], by simp [Prep.start], fun h => absurd rfl h⟩
  simp only [prepared, camIfeMgrPrepareHwUpdate]
  by_cases hv : validatePacket inp.args.packet inp.args.remainLen ≠ 0
  · rw [if_pos hv]
    exact hrejected 0
  rw [if_neg hv]
  cases hk : getKmdBuffer inp.args.packet inp.env.cpuBuf with
  | error rc => exact hrejected rc
  | ok kmdBuf =>
    by_cases hp : inp.env.processPatches ≠ 0
    · simp only [if_pos hp]
      exact hrejected 0
    simp only [if_neg hp]
    have h := run_of_triple (prepareBases_paths inp.env inp.args ctx (s.resBitmap, [], []))
      (s := .start kmdBuf s.resBitmap) rfl
    cases hr : prepareBases inp.env inp.args ctx (.start kmdBuf s.resBitmap) with
    | ok a p =>
      rw [hr] at h
      by_cases hi : inp.args.isInit
      · simp only [hi, if_true, Prep.paths, fillPaths, Prod.mk.injEq] at h ⊢
        exact ⟨h.1, h.2.2⟩
      · simpa [hi, handedPaths] using h
    | error e p =>
      rw [hr] at h
      obtain ⟨ts, n, hpaths, hown⟩ := h
      simp only [Prep.paths, handedPaths, Prod.mk.injEq, List.nil_append] at hpaths
      obtain ⟨h₁, rfl, h₃⟩ := hpaths
      exact ⟨n, h₁, h₃, hown⟩

lemma prepared_noBase {ctx : Ctx} (hbase : ctx.base = []) (s : Session) (inp : Input) :
    (resultState (prepared ctx s inp)).rupBitmaps = [] := by
  have hrun (p : Prep) : (resultState (prepareBases inp.env inp.args ctx p)).rupBitmaps =
      p.rupBitmaps := by
    simp only [prepareBases, hbase, List.zipIdx_nil, List.forIn_nil]
    by_cases hi : inp.args.isInit <;> simp [hi] <;> rfl
  simp only [prepared, camIfeMgrPrepareHwUpdate]
  by_cases hv : validatePacket inp.args.packet inp.args.remainLen ≠ 0
  · rw [if_pos hv]
    rfl
  rw [if_neg hv]
  cases getKmdBuffer inp.args.packet inp.env.cpuBuf with
  | error rc => rfl
  | ok kmdBuf =>
    by_cases hp : inp.env.processPatches ≠ 0
    · simp only [if_pos hp]
      rfl
    simp only [if_neg hp]
    exact hrun _

lemma Split.step {ctx : Ctx} {s : Session} (h : Split ctx s) (inp : Input) :
    Split ctx (step ctx s inp) := by
  intro hbase
  have hown : resBits (ownTypes inp.args ctx.base.length) = inp.args.resBits :=
    resBits_ownTypes inp.args fun hl => hbase (List.length_eq_zero_iff.mp hl)
  have hs := h hbase
  have hcases := prepared_cases ctx s inp
  rw [IspPrepare.step]
  cases hr : prepared ctx s inp with
  | ok a p =>
    simp only [hr, hown] at hcases ⊢
    by_cases hi : inp.args.isInit
    · simp only [hi, if_true] at hcases ⊢
      rw [hcases.1, hs]
      ac_rfl
    · simp only [hi] at hcases ⊢
      simp [hcases.1]
  | error e p =>
    simp only [hr] at hcases ⊢
    obtain ⟨n, hbits, -, -⟩ := hcases
    rw [hbits, hs, UInt64.or_assoc]

lemma handed_iff (n : ℕ) (bitmap wanted left own : UInt64) (hb : bitmap = wanted ||| left) :
    (∀ b ∈ List.replicate n (bitmap ||| own), b = wanted ||| own) ↔
      (List.replicate n (bitmap ||| own) ≠ [] → left ||| (wanted ||| own) = wanted ||| own) := by
  have hswap : bitmap ||| own = left ||| (wanted ||| own) := by
    rw [hb]
    ac_rfl
  cases n with
  | zero => simp
  | succ n =>
    rw [hswap]
    constructor
    · intro h _
      exact h _ (by simp)
    · intro h b hb
      rw [List.eq_of_mem_replicate hb]
      exact h (by simp)

lemma ownPaths_iff_nothingLeft {ctx : Ctx} {s : Session} (h : Split ctx s) (inp : Input) :
    OwnPaths ctx s inp ↔ NothingLeft ctx s inp := by
  rw [OwnPaths, NothingLeft]
  by_cases hbase : ctx.base = []
  · simp [prepared_noBase hbase]
  have hown : resBits (ownTypes inp.args ctx.base.length) = inp.args.resBits :=
    resBits_ownTypes inp.args fun hl => hbase (List.length_eq_zero_iff.mp hl)
  have hcases := prepared_cases ctx s inp
  cases hr : prepared ctx s inp with
  | ok a p =>
    simp only [hr, hown, resultState] at hcases ⊢
    by_cases hi : inp.args.isInit
    · simp only [hi, if_true] at hcases
      simp [hcases.2]
    · simp only [hi] at hcases
      rw [hcases.2]
      exact handed_iff _ _ _ _ _ (h hbase)
  | error e p =>
    simp only [hr, resultState] at hcases ⊢
    obtain ⟨n, -, hrups, hfilled⟩ := hcases
    cases n with
    | zero => simp [hrups]
    | succ n =>
      rw [hrups, hfilled (by omega), hown]
      exact handed_iff _ _ _ _ _ (h hbase)

/-- In every sequence of prepares all register updates are handed their own paths exactly if no
rejected packet has left a foreign one to them. -/
theorem run_ownPaths_iff (ctx : Ctx) (inputs : List Input) :
    Transition.Guarded (step ctx) (OwnPaths ctx) .start inputs ↔
      Transition.Guarded (step ctx) (NothingLeft ctx) .start inputs := by
  have hstart : Split ctx .start := fun _ => by simp [Session.start]
  exact Transition.guarded_iff (fun s inp h => ownPaths_iff_nothingLeft h inp)
    (fun s inp h _ => h.step inp) hstart

/-- A descriptor of 64 bytes for the KMD, and so many io configs. -/
def updatePacket (numIoConfigs : ℕ) : PacketUtil.Packet where
  size := 1024
  cmdBufOffset := 0
  numCmdBuf := 1
  ioConfigsOffset := 24
  numIoConfigs := UInt32.ofNat numIoConfigs
  patchOffset := 0
  numPatches := 0
  kmdCmdBufIndex := 0
  kmdCmdBufOffset := 0
  payload := fun k => if k = 0 then 1 else if k = 8 then 64 else 0

def answeringEnv : Env where
  cpuBuf := ⟨0, 4096, 128⟩
  processPatches := 0
  processCmd := fun _ => .ok 4
  aligned := by
    intro site bytes h
    cases h
    decide
  dualConfig := fun _ _ => 0
  otherBlob := fun _ _ _ => 0
  plane := fun _ _ _ _ => 0

def updateArgs (ioCfgs : List BufIoCfg) : Args :=
  ⟨updatePacket ioCfgs.length, 1024, 1, [⟨⟨1, 0, 64, 0⟩, 3, [], 0⟩], ioCfgs, 22, 24, 24⟩

/-- One base, with its full and its first RDI output. -/
def oneBase : Ctx where
  base := [⟨0, .left⟩]
  resListIfeSrc := [⟨false, some ⟨0, 0⟩, none⟩]
  resListIfeOut := fun k => ⟨false, some ⟨0x3000 + UInt32.ofNat k, 0⟩, none⟩
  resListIfeInRd := []

lemma prepared_updateArgs (s : Session) {ioCfgs : List BufIoCfg}
    (h : ioCfgs.length = 1 ∨ ioCfgs.length = 2) :
    prepared oneBase s ⟨answeringEnv, updateArgs ioCfgs⟩ =
      prepareBases answeringEnv (updateArgs ioCfgs) oneBase
        (.start ⟨1, 4096, 0, 64, 0⟩ s.resBitmap) := by
  have hvalid : validatePacket (updateArgs ioCfgs).packet (updateArgs ioCfgs).remainLen = 0 := by
    change validatePacket (updatePacket ioCfgs.length) 1024 = 0
    rcases h with h | h <;> rw [h] <;> decide +kernel
  have hkmd : getKmdBuffer (updateArgs ioCfgs).packet answeringEnv.cpuBuf =
      .ok ⟨1, 4096, 0, 64, 0⟩ := by
    change getKmdBuffer (updatePacket ioCfgs.length) answeringEnv.cpuBuf = _
    rcases h with h | h <;> rw [h] <;> decide +kernel
  rw [prepared, camIfeMgrPrepareHwUpdate, hvalid, if_neg (by simp), hkmd]
  exact if_neg (by simp [answeringEnv])

/-- A packet with an RDI buffer and an io config of no direction is rejected; the full output of the
next packet is updated with the RDI path. -/
theorem rejectedRdi_not_ownPaths :
    ¬ Transition.Guarded (step oneBase) (OwnPaths oneBase) .start
      [⟨answeringEnv, updateArgs [⟨[1], 0x3006, 1, CAM_BUF_OUTPUT⟩, ⟨[1], 0x3000, 2, 0⟩]⟩,
        ⟨answeringEnv, updateArgs [⟨[1], 0x3000, 3, CAM_BUF_OUTPUT⟩]⟩] := by
  have hrejected : step oneBase .start
      ⟨answeringEnv, updateArgs [⟨[1], 0x3006, 1, CAM_BUF_OUTPUT⟩, ⟨[1], 0x3000, 2, 0⟩]⟩ =
        ⟨2, 0, 2⟩ := by
    rw [step, prepared_updateArgs _ (.inr rfl)]
    decide +kernel
  intro h
  have h := h.2.1
  rw [hrejected, OwnPaths, prepared_updateArgs _ (.inl rfl)] at h
  exact absurd (h 3 (by decide +kernel)) (by decide +kernel)

end CameraKernel.IspPrepare
