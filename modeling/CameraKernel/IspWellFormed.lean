import CameraKernel.IspEntries
import CameraKernel.IspRegUpdate

/-! When a prepared packet is a well-formed hardware update: slices of the KMD buffer that are
exactly what was written, the packet's descriptors in their order, flags that this prepare has
stored, and a re-apply that submits what it should. -/
namespace CameraKernel.IspPrepare
open Std.Do
open PacketUtil (KmdBufInfo validatePacket getKmdBuffer)

/-- `struct cam_hw_update_entry`. -/
structure HwUpdateEntry where
  body : EntryBody
  flags : UInt32
  deriving DecidableEq, Repr

/-- The entry with what this prepare has stored over what was there. -/
def Slot.over (slot : Slot) (old : HwUpdateEntry) : HwUpdateEntry :=
  ⟨slot.body.getD old.body, slot.flags.getD old.flags⟩

/-- What `cam_ife_mgr_config_hw` checks of the context. -/
structure ConfigCtx where
  ctxInUse : Bool
  cdmCmd : Bool
  overflowPending : Bool

inductive ConfigResult
  | refused (rc : ℤ)
  | noCommands
  | outOfBounds
  | submitted (cmds : List EntryBody)
  deriving DecidableEq, Repr

/-- The commands that `ctx->cdm_cmd` is allocated for. -/
def camIfeHwEntriesMax : ℕ := 20

/-- One entry: skipped, or stored in `cdm_cmd->cmd`, or stored behind its end. -/
def configEntry (reapply : Bool) (entries : ℕ → HwUpdateEntry) (st : ℕ × (ℕ → EntryBody)) (i : ℕ) :
    Option (ℕ × (ℕ → EntryBody)) :=
  if reapply ∧ (entries i).flags = CAM_ISP_IQ_BL then some (st.1 + 1, st.2)
  else if i - st.1 < camIfeHwEntriesMax then
    some (st.1, Function.update st.2 (i - st.1) (entries i).body)
  else none

def camIfeMgrConfigHw (ctx : ConfigCtx) (reapply : Bool) (cmd : ℕ → EntryBody)
    (entries : ℕ → HwUpdateEntry) (numHwUpdateEntries : ℕ) : ConfigResult :=
  if !ctx.ctxInUse || !ctx.cdmCmd then .refused (-Errno.EPERM)
  else if ctx.overflowPending then .refused (-Errno.EINVAL)
  else if numHwUpdateEntries = 0 then .noCommands
  else match (List.range numHwUpdateEntries).foldlM (configEntry reapply entries) (0, cmd) with
    | none => .outOfBounds
    | some (skip, cmd) => .submitted ((List.range (numHwUpdateEntries - skip)).map cmd)

/-- What an entry points to: so many bytes of the KMD buffer, or a command descriptor. -/
inductive Piece
  | kmd (len : UInt32)
  | cmd (desc : CmdBufDesc)
  deriving DecidableEq, Repr

def Piece.bytes : Piece → ℕ
  | .kmd len => len.toNat
  | .cmd _ => 0

def Piece.desc? : Piece → Option CmdBufDesc
  | .kmd _ => none
  | .cmd desc => some desc

/-- The bodies of the entries, with the KMD slices one behind the other from `start` on. -/
def bodies (kmdBuf : KmdBufInfo) : ℕ → List Piece → List EntryBody
  | _, [] => []
  | start, .kmd len :: pieces =>
    ⟨kmdBuf.handle, kmdBuf.offset + UInt32.ofNat start, len⟩ ::
      bodies kmdBuf (start + len.toNat) pieces
  | start, .cmd desc :: pieces =>
    ⟨desc.memHandle, desc.offset, desc.length⟩ :: bodies kmdBuf start pieces

/-- The writes that are not empty follow each other without a gap or an overlap. -/
def Tiles : ℕ → List (ℕ × UInt32) → ℕ → Prop
  | start, [], stop => start = stop
  | start, w :: ws, stop =>
    if w.2 = 0 then Tiles start ws stop else w.1 = start ∧ Tiles (start + w.2.toNat) ws stop

/-- A command descriptor that is not empty and is for this side. -/
def CmdBufDesc.isFor (splitId : SplitId) (desc : CmdBufDesc) : Bool :=
  desc.length ≠ 0 &&
    match metaKind desc.metaData with
    | .command side => side.meets splitId
    | _ => false

/-- The packet's command descriptors for the side of a base. -/
def sideDescs (args : Args) (base : CtxBaseInfo) : List CmdBufDesc :=
  if base.splitId ≠ .max then args.cmdDescs.filter (·.isFor base.splitId) else []

/-- The entries that a re-apply has to submit. -/
def kept (entries : ℕ → HwUpdateEntry) (n : ℕ) : List EntryBody :=
  (((List.range n).map entries).filter fun e => e.flags ≠ CAM_ISP_IQ_BL).map (·.body)

/-- A re-apply submits them, whatever the prepare has found in the update list. -/
def Reapplies (s : Prep) : Prop :=
  ∀ (old : ℕ → HwUpdateEntry) (cmd : ℕ → EntryBody), s.numHwUpdateEntries ≠ 0 →
    camIfeMgrConfigHw ⟨true, true, false⟩ true cmd (fun k => (s.stored k).over (old k))
      s.numHwUpdateEntries =
    .submitted (kept (fun k => (s.stored k).over (old k)) s.numHwUpdateEntries)

structure WellFormed (args : Args) (ctx : Ctx) (kmdBuf : KmdBufInfo) (s : Prep) : Prop where
  count : s.numHwUpdateEntries ≤ args.maxHwUpdateEntries
  pieces : ∃ pieces : List Piece, pieces.length = s.numHwUpdateEntries ∧
    (∀ k body, (bodies kmdBuf 0 pieces)[k]? = some body → (s.stored k).body = some body) ∧
    s.kmdBuf.usedBytes.toNat = (pieces.map Piece.bytes).sum ∧
    (pieces.map Piece.bytes).sum ≤ kmdBuf.size.toNat ∧
    Tiles 0 s.writes (pieces.map Piece.bytes).sum ∧
    pieces.filterMap Piece.desc? = ctx.base.flatMap (sideDescs args)
  flags : ∀ k < s.numHwUpdateEntries,
    (s.stored k).flags = some CAM_ISP_IQ_BL ∨ (s.stored k).flags = some CAM_ISP_IOCFG_BL
  reapply : Reapplies s

/-- An accepted packet becomes a well-formed update. -/
def UpdateWellFormed (env : Env) (args : Args) (ctx : Ctx) (resBitmap : UInt64) : Prop :=
  ∀ kmdBuf s, getKmdBuffer args.packet env.cpuBuf = .ok kmdBuf →
    camIfeMgrPrepareHwUpdate env args ctx resBitmap = .ok () s → WellFormed args ctx kmdBuf s

lemma kept_succ (entries : ℕ → HwUpdateEntry) (n : ℕ) :
    kept entries (n + 1) = kept entries n ++
      if (entries n).flags = CAM_ISP_IQ_BL then [] else [(entries n).body] := by
  by_cases h : (entries n).flags = CAM_ISP_IQ_BL <;>
    simp [kept, List.range_succ, List.filter_append, h]

lemma configLoop_reapply (entries : ℕ → HwUpdateEntry) (cmd : ℕ → EntryBody) (n : ℕ) :
    if (kept entries n).length ≤ camIfeHwEntriesMax then
      ∃ cmd', (List.range n).foldlM (configEntry true entries) (0, cmd) =
          some (n - (kept entries n).length, cmd') ∧
        (List.range (kept entries n).length).map cmd' = kept entries n ∧
        (kept entries n).length ≤ n
    else (List.range n).foldlM (configEntry true entries) (0, cmd) = none := by
  induction n with
  | zero => simp [kept]
  | succ n ih =>
    rw [List.range_succ, List.foldlM_append, kept_succ]
    by_cases hiq : (entries n).flags = CAM_ISP_IQ_BL
    · simp only [hiq, if_true, List.append_nil]
      split_ifs at ih ⊢ with hle
      · obtain ⟨cmd', hloop, hmap, hn⟩ := ih
        refine ⟨cmd', ?_, hmap, by omega⟩
        rw [hloop]
        simp only [Option.bind_eq_bind, Option.bind_some, List.foldlM_cons, List.foldlM_nil,
          configEntry, hiq, and_self, if_true]
        rw [show n + 1 - (kept entries n).length = n - (kept entries n).length + 1 by omega]
        rfl
      · rw [ih]
        rfl
    · simp only [hiq, if_false, List.length_append, List.length_singleton]
      by_cases hle : (kept entries n).length ≤ camIfeHwEntriesMax
      · rw [if_pos hle] at ih
        obtain ⟨cmd', hloop, hmap, hn⟩ := ih
        rw [hloop]
        simp only [Option.bind_eq_bind, Option.bind_some, List.foldlM_cons, List.foldlM_nil,
          configEntry, hiq, and_false, if_false,
          show n - (n - (kept entries n).length) = (kept entries n).length by omega]
        by_cases hlt : (kept entries n).length < camIfeHwEntriesMax
        · rw [if_pos (by omega), if_pos hlt]
          refine ⟨Function.update cmd' (kept entries n).length (entries n).body, ?_, ?_, by omega⟩
          · rw [show n + 1 - ((kept entries n).length + 1) = n - (kept entries n).length by omega]
            rfl
          · rw [List.range_succ, List.map_append, List.map_singleton, Function.update_self]
            congr 1
            refine (List.map_congr_left fun k hk => ?_).trans hmap
            rw [Function.update_of_ne (List.mem_range.mp hk).ne]
        · rw [if_neg (by omega), if_neg hlt]
          rfl
      · rw [if_neg hle] at ih
        rw [if_neg (by omega), ih]
        rfl

lemma camIfeMgrConfigHw_reapply (entries : ℕ → HwUpdateEntry) (cmd : ℕ → EntryBody) {n : ℕ}
    (hn : n ≠ 0) :
    camIfeMgrConfigHw ⟨true, true, false⟩ true cmd entries n = .submitted (kept entries n) ↔
      (kept entries n).length ≤ camIfeHwEntriesMax := by
  have hloop := configLoop_reapply entries cmd n
  simp only [camIfeMgrConfigHw, hn]
  split_ifs at hloop with hle
  · obtain ⟨cmd', hrun, hmap, hk⟩ := hloop
    simp [hrun, hle, hmap, show n - (n - (kept entries n).length) = (kept entries n).length by omega]
  · simp [hloop, hle]

def Item.tags : Item → List Tag
  | .cmd _ => [.stored CAM_ISP_IQ_BL]
  | .kmd tag always calls => if always ∨ callBytes calls ≠ 0 then [tag] else []

def Item.pieces : Item → List Piece
  | .cmd desc => [.cmd desc]
  | .kmd _ always calls =>
    if always ∨ callBytes calls ≠ 0 then [.kmd (callBytes calls)] else []

lemma layout_tags (kmdBuf : KmdBufInfo) (used : UInt32) (items : List Item) :
    (layout kmdBuf used items).map (·.2) = items.flatMap Item.tags := by
  induction items generalizing used with
  | nil => rfl
  | cons item items ih =>
    rw [layout, List.map_append, ih, List.flatMap_cons]
    cases item with
    | cmd desc => rfl
    | kmd tag always calls =>
      rw [Item.entries, Item.tags]
      split_ifs <;> rfl

lemma bodies_append (kmdBuf : KmdBufInfo) (start : ℕ) (a b : List Piece) :
    bodies kmdBuf start (a ++ b) =
      bodies kmdBuf start a ++ bodies kmdBuf (start + (a.map Piece.bytes).sum) b := by
  induction a generalizing start with
  | nil => simp [bodies]
  | cons piece a ih => cases piece <;> simp [bodies, ih, Piece.bytes, add_assoc]

lemma length_bodies (kmdBuf : KmdBufInfo) (start : ℕ) (pieces : List Piece) :
    (bodies kmdBuf start pieces).length = pieces.length := by
  induction pieces generalizing start with
  | nil => rfl
  | cons piece pieces ih => cases piece <;> simp [bodies, ih]

lemma layout_bodies (kmdBuf : KmdBufInfo) (start : ℕ) (items : List Item) :
    (layout kmdBuf (UInt32.ofNat start) items).map (·.1) =
      bodies kmdBuf start (items.flatMap Item.pieces) := by
  induction items generalizing start with
  | nil => rfl
  | cons item items ih =>
    rw [layout, List.map_append, List.flatMap_cons, bodies_append]
    cases item with
    | cmd desc =>
      have := ih start
      simp_all [Item.entries, Item.pieces, bodies, Piece.bytes, Item.bytes, Item.calls, callBytes]
    | kmd tag always calls =>
      have hnext : UInt32.ofNat start + callBytes calls =
          UInt32.ofNat (start + (callBytes calls).toNat) := by
        rw [UInt32.ofNat_add, UInt32.ofNat_toNat]
      have hrest := ih (start + (callBytes calls).toNat)
      rw [← hnext] at hrest
      rw [Item.entries, Item.pieces, Item.bytes, Item.calls]
      by_cases hentry : always ∨ callBytes calls ≠ 0
      · rw [if_pos hentry, if_pos hentry]
        simp [bodies, Piece.bytes, hrest]
      · have hzero : callBytes calls = 0 := by simpa using fun h => hentry (.inr h)
        rw [if_neg hentry, if_neg hentry]
        simpa [bodies, hzero] using hrest

lemma pieces_sum (items : List Item) :
    ((items.flatMap Item.pieces).map Piece.bytes).sum =
      (items.map fun item => item.bytes.toNat).sum := by
  induction items with
  | nil => rfl
  | cons item items ih =>
    rw [List.flatMap_cons, List.map_append, List.sum_append, ih, List.map_cons, List.sum_cons]
    cases item with
    | cmd desc => simp [Item.pieces, Piece.bytes, Item.bytes, Item.calls, callBytes]
    | kmd tag always calls =>
      by_cases hentry : always ∨ callBytes calls ≠ 0
      · simp [Item.pieces, hentry, Piece.bytes, Item.bytes, Item.calls]
      · have hzero : callBytes calls = 0 := by simpa using fun h => hentry (.inr h)
        rw [Item.pieces, if_neg hentry]
        simp [Item.bytes, Item.calls, hzero]

lemma natBytes_items {items : List Item} (h : natBytes (allCalls items) < 2 ^ 32) :
    (items.map fun item => item.bytes.toNat).sum = natBytes (allCalls items) := by
  induction items with
  | nil => rfl
  | cons item items ih =>
    have hsplit : natBytes (allCalls (item :: items)) =
        natBytes item.calls + natBytes (allCalls items) := by
      rw [show allCalls (item :: items) = item.calls ++ allCalls items from rfl, natBytes_append]
    rw [List.map_cons, List.sum_cons, ih (by omega), hsplit, Item.bytes,
      toNat_callBytes (by omega)]

lemma tiles_group {start : ℕ} {g : List UInt32} (hone : OneWrites g) (rest : List (ℕ × UInt32))
    {stop : ℕ} (h : Tiles (start + (g.map UInt32.toNat).sum) rest stop) :
    Tiles start (g.map (start, ·) ++ rest) stop := by
  have zeros (start' : ℕ) {g : List UInt32} (hg : ∀ u ∈ g, u = 0) (h : Tiles start' rest stop) :
      Tiles start' (g.map (start, ·) ++ rest) stop := by
    induction g with
    | nil => exact h
    | cons a g ih =>
      rw [List.map_cons, List.cons_append, Tiles, if_pos (hg a (by simp))]
      exact ih fun u hu => hg u (by simp [hu])
  induction g with
  | nil => simpa using h
  | cons a g ih =>
    have hg := List.pairwise_cons.mp hone
    rw [List.map_cons, List.cons_append, Tiles]
    split_ifs with ha
    · exact ih hg.2 (by simpa [show a = 0 from ha] using h)
    · have hzero : ∀ u ∈ g, u = 0 := fun u hu => (hg.1 u hu).resolve_left ha
      refine ⟨rfl, zeros _ hzero ?_⟩
      have hsum : (g.map UInt32.toNat).sum = 0 := by
        rw [List.sum_eq_zero_iff]
        intro n hn
        obtain ⟨u, hu, rfl⟩ := List.mem_map.mp hn
        simp [hzero u hu]
      simpa [hsum] using h

/-- All that is written is whole words. -/
def Words (calls : List (List UInt32)) : Prop := ∀ g ∈ calls, ∀ u ∈ g, 4 ∣ u.toNat

lemma Words.natBytes {calls : List (List UInt32)} (h : Words calls) : 4 ∣ natBytes calls := by
  refine List.dvd_sum fun n hn => ?_
  obtain ⟨g, hg, rfl⟩ := List.mem_map.mp hn
  refine List.dvd_sum fun m hm => ?_
  obtain ⟨u, hu, rfl⟩ := List.mem_map.mp hm
  exact h g hg u hu

lemma tiles_calls {used : UInt32} (total : UInt32) {calls : List (List UInt32)} (hone : ∀ g ∈ calls, OneWrites g)
    (hwords : Words calls) (hused : 4 ∣ used.toNat) (htotal : 4 ∣ total.toNat)
    (hlt : total.toNat + natBytes calls < 2 ^ 32) (rest : List (ℕ × UInt32)) {stop : ℕ}
    (h : Tiles (used.toNat + total.toNat + natBytes calls) rest stop) :
    Tiles (used.toNat + total.toNat) (callWrites used total calls ++ rest) stop := by
  induction calls generalizing total with
  | nil => simpa [natBytes, callWrites] using h
  | cons g gs ih =>
    have hsplit : natBytes (g :: gs) = (g.map UInt32.toNat).sum + natBytes gs := by
      simp [IspPrepare.natBytes]
    have hplace : wordPlace used total = used.toNat + total.toNat := by
      rw [wordPlace]
      omega
    have hsum := toNat_sum_of_lt g (by omega)
    have hadd : (total + g.sum).toNat = total.toNat + (g.map UInt32.toNat).sum := by
      rw [UInt32.toNat_add, hsum]
      omega
    have hdvd : 4 ∣ (g.map UInt32.toNat).sum := by
      have hg : Words [g] := fun g' hg' => hwords g' (by simp_all)
      simpa [IspPrepare.natBytes] using hg.natBytes
    rw [callWrites, List.append_assoc, hplace]
    refine tiles_group (hone g (by simp)) _ ?_
    have hrest := ih (total + g.sum) (fun g' hg' => hone g' (by simp [hg']))
      (fun g' hg' => hwords g' (by simp [hg'])) (by rw [hadd]; omega) (by rw [hadd]; omega)
      (by rw [hadd]; convert h using 1; omega)
    rw [hadd] at hrest
    convert hrest using 1
    omega

lemma tiles_items (used : UInt32) {items : List Item} (hone : ∀ g ∈ allCalls items, OneWrites g)
    (hwords : Words (allCalls items)) (hused : 4 ∣ used.toNat)
    (hlt : used.toNat + natBytes (allCalls items) < 2 ^ 32) :
    Tiles used.toNat (itemWrites used items) (used.toNat + natBytes (allCalls items)) := by
  induction items generalizing used with
  | nil => simp [itemWrites, Tiles, allCalls, IspPrepare.natBytes]
  | cons item items ih =>
    have hcalls : allCalls (item :: items) = item.calls ++ allCalls items := rfl
    rw [hcalls] at hone hwords hlt ⊢
    rw [natBytes_append] at hlt ⊢
    have hwords' : Words item.calls := fun g hg => hwords g (by simp [hg])
    have hdvd := hwords'.natBytes
    have hbytes : item.bytes.toNat = natBytes item.calls := toNat_callBytes (by omega)
    have hadd : (used + item.bytes).toNat = used.toNat + natBytes item.calls := by
      rw [UInt32.toNat_add, hbytes]
      omega
    have hrest := ih (used + item.bytes) (fun g hg => hone g (by simp [hg]))
      (fun g hg => hwords g (by simp [hg])) (by rw [hadd]; omega) (by rw [hadd]; omega)
    rw [hadd] at hrest
    rw [itemWrites]
    refine tiles_calls 0 (fun g hg => hone g (by simp [hg])) hwords' hused (by simp)
      (by simp; omega) _ ?_
    simpa [add_assoc] using hrest

lemma Tiles.pairwise {start stop : ℕ} {ws : List (ℕ × UInt32)} (h : Tiles start ws stop) :
    ws.Pairwise (fun a b => a.2 = 0 ∨ b.2 = 0 ∨ a.1 < b.1) ∧
      ∀ w ∈ ws, w.2 = 0 ∨ start ≤ w.1 := by
  induction ws generalizing start with
  | nil => simp
  | cons w ws ih =>
    rw [Tiles] at h
    split_ifs at h with hw
    · obtain ⟨hpair, hle⟩ := ih h
      exact ⟨List.pairwise_cons.mpr ⟨fun _ _ => .inl hw, hpair⟩, by simpa [hw] using hle⟩
    · obtain ⟨rfl, h⟩ := h
      obtain ⟨hpair, hle⟩ := ih h
      have hpos : 0 < w.2.toNat := by
        rw [Nat.pos_iff_ne_zero]
        exact fun h0 => hw (UInt32.toNat_inj.mp h0)
      refine ⟨List.pairwise_cons.mpr ⟨fun b hb => ?_, hpair⟩, ?_⟩
      · rcases hle b hb with h0 | h0
        · exact .inr (.inl h0)
        · exact .inr (.inr (by omega))
      · intro b hb
        rcases List.mem_cons.mp hb with rfl | hb
        · exact .inr le_rfl
        · exact (hle b hb).imp_right fun h => by omega

lemma group_sublist_callWrites {g : List UInt32} {calls : List (List UInt32)} (hg : g ∈ calls)
    (used total : UInt32) : ∃ p : ℕ, (g.map (p, ·)).Sublist (callWrites used total calls) := by
  induction calls generalizing total with
  | nil => cases hg
  | cons g' gs ih =>
    rcases List.mem_cons.mp hg with rfl | hg
    · exact ⟨_, List.sublist_append_left _ _⟩
    · obtain ⟨p, hp⟩ := ih hg (total + g'.sum)
      exact ⟨p, hp.trans (List.sublist_append_right _ _)⟩

lemma group_sublist_itemWrites {g : List UInt32} {items : List Item} (hg : g ∈ allCalls items)
    (used : UInt32) : ∃ p : ℕ, (g.map (p, ·)).Sublist (itemWrites used items) := by
  induction items generalizing used with
  | nil => cases hg
  | cons item items ih =>
    rcases List.mem_append.mp (show g ∈ item.calls ++ allCalls items from hg) with hg | hg
    · obtain ⟨p, hp⟩ := group_sublist_callWrites hg used 0
      exact ⟨p, hp.trans (List.sublist_append_left _ _)⟩
    · obtain ⟨p, hp⟩ := ih hg (used + item.bytes)
      exact ⟨p, hp.trans (List.sublist_append_right _ _)⟩

lemma Tiles.oneWrites {used : UInt32} {start stop : ℕ} {items : List Item}
    (h : Tiles start (itemWrites used items) stop) : ∀ g ∈ allCalls items, OneWrites g := by
  intro g hg
  obtain ⟨p, hp⟩ := group_sublist_itemWrites hg used
  have hpair := h.pairwise.1.sublist hp
  rw [List.pairwise_map] at hpair
  exact hpair.imp fun h => by simpa using h

section Plan
variable (env : Env) (args : Args) (ctx : Ctx)

/-- The buffers of blobs that a base is prepared with: what each of their blobs calls. -/
def descBlobs (i : ℕ) (base : CtxBaseInfo) (desc : CmdBufDesc × ℕ) : List (List (List (List UInt32))) :=
  if desc.1.length = 0 then []
  else match metaKind desc.1.metaData with
    | .genericBlob side =>
      if side.meets base.splitId then
        [desc.1.blobs.zipIdx.map (blobCalls env ctx i desc.2 base.idx)]
      else []
    | _ => []

def baseBlobs (base : CtxBaseInfo × ℕ) : List (List (List (List UInt32))) :=
  if base.1.splitId ≠ .max then args.cmdDescs.zipIdx.flatMap (descBlobs env ctx base.2 base.1) else []

def blobBuffers : List (List (List (List UInt32))) := ctx.base.zipIdx.flatMap (baseBlobs env args ctx)

/-- The entries of a base's registers and of its calls. -/
def withBase (calls : List (List UInt32)) : ℕ := if callBytes calls = 0 then 1 else 2

/-- How many entries a re-apply has to submit. -/
def reappliedEntries : ℕ :=
  (ctx.base.zipIdx.map fun base => withBase (ioCalls env args ctx base.2 base.1.idx)).sum +
    if args.isInit then 0
    else (ctx.base.zipIdx.map fun base => withBase (rupCalls env ctx base.2 base.1.idx)).sum

/-- In each buffer one blob at most writes, to each place one node at most, and the entries that are
not for the image quality fit into the context's command. -/
structure Sound : Prop where
  oneBlob : ∀ blobs ∈ blobBuffers env args ctx,
    blobs.Pairwise fun a b => callBytes a = 0 ∨ callBytes b = 0
  oneNode : ∀ blobs ∈ blobBuffers env args ctx, ∀ calls ∈ blobs, ∀ g ∈ calls, OneWrites g
  fits : reappliedEntries env args ctx ≤ camIfeHwEntriesMax

lemma allCalls_blobItems (tag : Tag) (first : Bool) (blobs : List (List (List UInt32))) :
    allCalls (blobItems tag first blobs) = blobs.flatten := by
  rw [allCalls, List.flatMap_def, blobItems_calls]

lemma allCalls_flatMap {α : Type} (f : α → List Item) (l : List α) :
    allCalls (l.flatMap f) = l.flatMap fun a => allCalls (f a) := by
  simp only [allCalls, List.flatMap_assoc]

lemma mem_allCalls_descItems {i : ℕ} {base : CtxBaseInfo} {desc : CmdBufDesc × ℕ} {g : List UInt32} :
    g ∈ allCalls (descItems env ctx i base desc) ↔
      ∃ blobs ∈ descBlobs env ctx i base desc, ∃ calls ∈ blobs, g ∈ calls := by
  rw [descItems, descBlobs]
  split_ifs with hlen
  · simp [allCalls]
  · cases metaKind desc.1.metaData with
    | genericBlob side =>
      by_cases hside : side.meets base.splitId
      · simp only [hside, if_true, allCalls_blobItems, List.mem_flatten, List.mem_singleton,
          exists_eq_left]
      · simp [hside, allCalls]
    | command side => by_cases hside : side.meets base.splitId <;> simp [hside, allCalls, Item.calls]
    | dualConfig => simp [allCalls]
    | invalid => simp [allCalls]

lemma mem_allCalls_baseItems {base : CtxBaseInfo × ℕ} {g : List UInt32} :
    g ∈ allCalls (baseItems env args ctx base) ↔ g = [need env (.changeBase false base.2)] ∨
      (∃ blobs ∈ baseBlobs env args ctx base, ∃ calls ∈ blobs, g ∈ calls) ∨
      g ∈ ioCalls env args ctx base.2 base.1.idx := by
  have hitems : allCalls (baseItems env args ctx base) = [[need env (.changeBase false base.2)]] ++
      (allCalls (if base.1.splitId ≠ .max then
        args.cmdDescs.zipIdx.flatMap (descItems env ctx base.2 base.1) else []) ++
      ioCalls env args ctx base.2 base.1.idx) := by
    simp [baseItems, allCalls, changeBaseItem, Item.calls]
  rw [hitems, List.mem_append, List.mem_append, List.mem_singleton, baseBlobs]
  refine or_congr_right (or_congr_left ?_)
  split_ifs
  · simp only [allCalls_flatMap, List.mem_flatMap, mem_allCalls_descItems]
    constructor
    · rintro ⟨desc, hdesc, blobs, hblobs, h⟩
      exact ⟨blobs, ⟨desc, hdesc, hblobs⟩, h⟩
    · rintro ⟨blobs, ⟨desc, hdesc, hblobs⟩, h⟩
      exact ⟨desc, hdesc, blobs, hblobs, h⟩
  · simp [allCalls]

lemma blobBuffers_allCalls {blobs : List (List (List UInt32))}
    (hblobs : blobs ∈ blobBuffers env args ctx) {calls : List (List UInt32)} (hcalls : calls ∈ blobs)
    {g : List UInt32} (hg : g ∈ calls) : g ∈ allCalls (plan env args ctx) := by
  obtain ⟨base, hbase, hblobs⟩ := List.mem_flatMap.mp hblobs
  rw [plan, allCalls_append, allCalls_flatMap, List.mem_append]
  refine .inl (List.mem_flatMap.mpr ⟨base, hbase, ?_⟩)
  exact (mem_allCalls_baseItems env args ctx).mpr (.inr (.inl ⟨blobs, hblobs, calls, hcalls, hg⟩))

lemma mem_allCalls_plan {g : List UInt32} (hg : g ∈ allCalls (plan env args ctx)) :
    (∃ blobs ∈ blobBuffers env args ctx, ∃ calls ∈ blobs, g ∈ calls) ∨ ∃ site, g = [need env site] := by
  rw [plan, allCalls_append, List.mem_append, allCalls_flatMap, List.mem_flatMap] at hg
  rcases hg with ⟨base, hbase, hg⟩ | hg
  · rcases (mem_allCalls_baseItems env args ctx).mp hg with rfl | ⟨blobs, hblobs, h⟩ | hio
    · exact .inr ⟨_, rfl⟩
    · exact .inl ⟨blobs, List.mem_flatMap.mpr ⟨base, hbase, hblobs⟩, h⟩
    · obtain ⟨ioCfg, -, hnode⟩ := List.mem_flatMap.mp hio
      obtain ⟨node, -, rfl⟩ := List.mem_map.mp hnode
      exact .inr ⟨_, rfl⟩
  · split_ifs at hg with hinit
    · cases hg
    · obtain ⟨base, -, hg⟩ := List.mem_flatMap.mp (allCalls_flatMap _ _ ▸ hg)
      have hrup : allCalls (rupItems env ctx base) = [[need env (.changeBase true base.2)]] ++
          rupCalls env ctx base.2 base.1.idx := by
        simp [rupItems, allCalls, changeBaseItem, Item.calls]
      rw [hrup, List.mem_append, List.mem_singleton] at hg
      rcases hg with rfl | hg
      · exact .inr ⟨_, rfl⟩
      · obtain ⟨node, -, rfl⟩ := List.mem_map.mp hg
        exact .inr ⟨_, rfl⟩

lemma plan_oneWrites : (∀ g ∈ allCalls (plan env args ctx), OneWrites g) ↔
    ∀ blobs ∈ blobBuffers env args ctx, ∀ calls ∈ blobs, ∀ g ∈ calls, OneWrites g := by
  constructor
  · intro h blobs hblobs calls hcalls g hg
    exact h g (blobBuffers_allCalls env args ctx hblobs hcalls hg)
  · intro h g hg
    rcases mem_allCalls_plan env args ctx hg with ⟨blobs, hblobs, calls, hcalls, hg⟩ | ⟨site, rfl⟩
    · exact h blobs hblobs calls hcalls g hg
    · exact List.pairwise_singleton _ _

lemma need_aligned (site : Site) : 4 ∣ (need env site).toNat := by
  rw [need]
  cases h : env.processCmd site with
  | ok bytes => exact env.aligned site bytes h
  | error rc => simp

lemma blobCalls_words (i d : ℕ) (baseIdx : UInt32) (blob : IspBlob × ℕ) :
    Words (blobCalls env ctx i d baseIdx blob) := by
  have hport (b : ℕ) (types : List UInt32) :
      Words (types.zipIdx.map (portCall env ctx i d b baseIdx)) := by
    intro g hg u hu
    obtain ⟨port, -, rfl⟩ := List.mem_map.mp hg
    obtain ⟨node, -, rfl⟩ := List.mem_map.mp hu
    exact need_aligned env _
  rw [blobCalls]
  split
  · exact hport _ _
  · exact hport _ _
  · exact fun g hg => absurd hg (List.not_mem_nil)

lemma plan_words : Words (allCalls (plan env args ctx)) := by
  intro g hg u hu
  rcases mem_allCalls_plan env args ctx hg with ⟨blobs, hblobs, calls, hcalls, hg⟩ | ⟨site, rfl⟩
  · obtain ⟨base, -, hblobs⟩ := List.mem_flatMap.mp hblobs
    rw [baseBlobs] at hblobs
    split_ifs at hblobs
    · obtain ⟨desc, -, hblobs⟩ := List.mem_flatMap.mp hblobs
      rw [descBlobs] at hblobs
      split_ifs at hblobs
      · cases hblobs
      · split at hblobs
        · split_ifs at hblobs
          · rw [List.mem_singleton.mp hblobs] at hcalls
            obtain ⟨blob, -, rfl⟩ := List.mem_map.mp hcalls
            exact blobCalls_words env ctx _ _ _ _ g hg u hu
          · cases hblobs
        · cases hblobs
    · cases hblobs
  · rw [List.mem_singleton.mp hu]
    exact need_aligned env site

/-! ### Its tags -/

lemma Tag.stored_ne_stale {flags : UInt32} : Tag.stored flags ≠ .stale := fun h => by cases h

lemma stale_mem_blobItems (tag : Tag) (htag : tag ≠ .stale) (first : Bool)
    (blobs : List (List (List UInt32))) :
    .stale ∉ (blobItems tag first blobs).flatMap Item.tags ↔
      if first then blobs.Pairwise fun a b => callBytes a = 0 ∨ callBytes b = 0
      else NoneWritten blobs := by
  induction blobs generalizing first with
  | nil => cases first <;> simp [blobItems, NoneWritten]
  | cons calls rest ih =>
    rw [blobItems, List.flatMap_cons, List.mem_append, not_or, ih]
    by_cases hzero : callBytes calls = 0
    · cases first <;> simp [Item.tags, NoneWritten, hzero]
    · have hnone : (NoneWritten rest ∧ rest.Pairwise fun a b => callBytes a = 0 ∨ callBytes b = 0) ↔
          NoneWritten rest :=
        and_iff_left_of_imp fun h => List.pairwise_of_forall_mem_list fun a ha _ _ => .inl (h a ha)
      cases first
      · simp [Item.tags, NoneWritten, hzero]
      · have htags : .stale ∉ (Item.kmd (if true then tag else .stale) false calls).tags := by
          simp [Item.tags, hzero, htag.symm]
        rw [and_iff_right htags]
        simp only [hzero, decide_false, Bool.and_false, Bool.false_eq_true, if_false, if_true,
          List.pairwise_cons, false_or]
        exact hnone.symm

lemma stale_mem_descItems (i : ℕ) (base : CtxBaseInfo) (desc : CmdBufDesc × ℕ) :
    .stale ∉ (descItems env ctx i base desc).flatMap Item.tags ↔
      ∀ blobs ∈ descBlobs env ctx i base desc,
        blobs.Pairwise fun a b => callBytes a = 0 ∨ callBytes b = 0 := by
  rw [descItems, descBlobs]
  split_ifs with hlen
  · simp
  · cases metaKind desc.1.metaData with
    | genericBlob side =>
      by_cases hside : side.meets base.splitId
      · simp only [hside, if_true, stale_mem_blobItems _ Tag.stored_ne_stale, List.mem_singleton,
          forall_eq]
      · simp [hside]
    | command side => by_cases hside : side.meets base.splitId <;> simp [hside, Item.tags]
    | dualConfig => simp
    | invalid => simp

/-- The entries of the items that a re-apply submits. -/
def cfgEntries (items : List Item) : ℕ :=
  (items.flatMap Item.tags).count (.stored CAM_ISP_IOCFG_BL)

lemma cfgEntries_append (a b : List Item) : cfgEntries (a ++ b) = cfgEntries a + cfgEntries b := by
  simp [cfgEntries]

lemma cfgEntries_flatMap {α : Type} (f : α → List Item) (l : List α) :
    cfgEntries (l.flatMap f) = (l.map fun a => cfgEntries (f a)).sum := by
  induction l with
  | nil => rfl
  | cons a l ih => rw [List.flatMap_cons, cfgEntries_append, ih, List.map_cons, List.sum_cons]

lemma cfgEntries_blobItems (first : Bool) (blobs : List (List (List UInt32))) :
    cfgEntries (blobItems (.stored CAM_ISP_IQ_BL) first blobs) = 0 := by
  induction blobs generalizing first with
  | nil => rfl
  | cons calls rest ih =>
    rw [blobItems, ← List.singleton_append, cfgEntries_append, ih]
    cases first <;> by_cases h : callBytes calls = 0 <;> simp [cfgEntries, Item.tags, h]; decide

lemma cfgEntries_descItems (i : ℕ) (base : CtxBaseInfo) (desc : CmdBufDesc × ℕ) :
    cfgEntries (descItems env ctx i base desc) = 0 := by
  rw [descItems]
  split_ifs
  · rfl
  · split
    · split_ifs <;> rfl
    · split_ifs
      · exact cfgEntries_blobItems _ _
      · rfl
    · rfl
    · rfl

lemma cfgEntries_two (regUpdate : Bool) (i : ℕ) (calls : List (List UInt32)) :
    cfgEntries [changeBaseItem env regUpdate i, .kmd (.stored CAM_ISP_IOCFG_BL) false calls] =
      withBase calls := by
  by_cases h : callBytes calls = 0 <;> simp [cfgEntries, changeBaseItem, Item.tags, withBase, h]

lemma cfgEntries_baseItems (base : CtxBaseInfo × ℕ) : cfgEntries (baseItems env args ctx base) =
    withBase (ioCalls env args ctx base.2 base.1.idx) := by
  have hdescs : cfgEntries (if base.1.splitId ≠ .max then
      args.cmdDescs.zipIdx.flatMap (descItems env ctx base.2 base.1) else []) = 0 := by
    split_ifs
    · rw [cfgEntries_flatMap, List.sum_eq_zero_iff]
      intro n hn
      obtain ⟨desc, -, rfl⟩ := List.mem_map.mp hn
      exact cfgEntries_descItems env ctx _ _ _
    · rfl
  rw [baseItems, ← List.singleton_append, cfgEntries_append, cfgEntries_append, hdescs, zero_add,
    ← cfgEntries_append]
  exact cfgEntries_two env false base.2 _

lemma cfgEntries_plan : cfgEntries (plan env args ctx) = reappliedEntries env args ctx := by
  rw [plan, cfgEntries_append, cfgEntries_flatMap, reappliedEntries]
  simp only [cfgEntries_baseItems]
  congr 1
  split_ifs
  · rfl
  · rw [cfgEntries_flatMap]
    simp only [rupItems, cfgEntries_two]

lemma stale_mem_plan : .stale ∉ (plan env args ctx).flatMap Item.tags ↔
    ∀ blobs ∈ blobBuffers env args ctx,
      blobs.Pairwise fun a b => callBytes a = 0 ∨ callBytes b = 0 := by
  have htwo (regUpdate : Bool) (i : ℕ) (calls : List (List UInt32)) : .stale ∉
      [changeBaseItem env regUpdate i, .kmd (.stored CAM_ISP_IOCFG_BL) false calls].flatMap
        Item.tags := by
    by_cases h : callBytes calls = 0 <;> simp [changeBaseItem, Item.tags, h]
  have hbase (base : CtxBaseInfo × ℕ) : .stale ∉ (baseItems env args ctx base).flatMap Item.tags ↔
      ∀ blobs ∈ baseBlobs env args ctx base,
        blobs.Pairwise fun a b => callBytes a = 0 ∨ callBytes b = 0 := by
    have hends := htwo false base.2 (ioCalls env args ctx base.2 base.1.idx)
    simp only [List.flatMap_cons, List.flatMap_nil, List.append_nil, List.mem_append, not_or] at hends
    rw [baseItems, List.flatMap_cons, List.flatMap_append, List.flatMap_singleton, List.mem_append,
      List.mem_append, not_or, not_or, and_iff_right hends.1, and_iff_left hends.2, baseBlobs]
    split_ifs
    · simp only [List.flatMap_assoc, List.mem_flatMap, not_exists, not_and, forall_exists_index,
        and_imp]
      have hdesc := stale_mem_descItems env ctx base.2 base.1
      simp only [List.mem_flatMap, not_exists, not_and] at hdesc
      constructor
      · intro h blobs desc hmem hblobs
        exact (hdesc desc).mp (h desc hmem) blobs hblobs
      · intro h desc hmem
        exact (hdesc desc).mpr fun blobs hblobs => h blobs desc hmem hblobs
    · simp
  have hrups : .stale ∉ (if args.isInit then [] else
      ctx.base.zipIdx.flatMap (rupItems env ctx)).flatMap Item.tags := by
    split_ifs
    · simp
    · rw [List.flatMap_assoc, List.mem_flatMap]
      rintro ⟨base, -, h⟩
      exact htwo _ _ _ h
  rw [plan, List.flatMap_append, List.mem_append, not_or, and_iff_left hrups, List.flatMap_assoc,
    List.mem_flatMap]
  constructor
  · intro h blobs hblobs
    obtain ⟨base, hmem, hblobs⟩ := List.mem_flatMap.mp hblobs
    exact (hbase base).mp (fun hstale => h ⟨base, hmem, hstale⟩) blobs hblobs
  · rintro h ⟨base, hmem, hstale⟩
    exact (hbase base).mpr (fun blobs hblobs =>
      h blobs (List.mem_flatMap.mpr ⟨base, hmem, hblobs⟩)) hstale

/-- The tags of the items of a prepare. -/
def PlanTag : Tag → Prop
  | .stored flags => flags = CAM_ISP_IQ_BL ∨ flags = CAM_ISP_IOCFG_BL
  | .stale => True
  | .unknown => False

/-- The items have these tags. -/
def PlanTags (items : List Item) : Prop := ∀ tag ∈ items.flatMap Item.tags, PlanTag tag

lemma PlanTags.kmd {tag : Tag} (htag : PlanTag tag) (always : Bool) (calls : List (List UInt32)) :
    PlanTags [.kmd tag always calls] := by
  intro t ht
  rw [List.flatMap_singleton, Item.tags] at ht
  split_ifs at ht
  · rwa [List.mem_singleton.mp ht]
  · cases ht

lemma PlanTags.append {a b : List Item} (ha : PlanTags a) (hb : PlanTags b) : PlanTags (a ++ b) := by
  intro tag ht
  rw [List.flatMap_append, List.mem_append] at ht
  exact ht.elim (ha tag) (hb tag)

lemma PlanTags.flatMap {α : Type} {f : α → List Item} (h : ∀ a, PlanTags (f a)) (l : List α) :
    PlanTags (l.flatMap f) := by
  intro tag ht
  rw [List.flatMap_assoc, List.mem_flatMap] at ht
  obtain ⟨a, -, ht⟩ := ht
  exact h a tag ht

lemma PlanTags.nil : PlanTags [] := fun _ h => by cases h

lemma planTags_blobItems (first : Bool) (blobs : List (List (List UInt32))) :
    PlanTags (blobItems (.stored CAM_ISP_IQ_BL) first blobs) := by
  induction blobs generalizing first with
  | nil => exact .nil
  | cons calls rest ih =>
    rw [blobItems, ← List.singleton_append]
    refine .append (.kmd ?_ _ _) (ih _)
    cases first
    · trivial
    · exact .inl rfl

lemma planTags_plan : PlanTags (plan env args ctx) := by
  have hcfg : PlanTag (.stored CAM_ISP_IOCFG_BL) := .inr rfl
  have hdesc (i : ℕ) (base : CtxBaseInfo) (desc : CmdBufDesc × ℕ) :
      PlanTags (descItems env ctx i base desc) := by
    rw [descItems]
    split_ifs
    · exact .nil
    · split
      · split_ifs
        · intro tag ht
          rw [List.mem_singleton.mp ht]
          exact .inl rfl
        · exact .nil
      · split_ifs
        · exact planTags_blobItems _ _
        · exact .nil
      · exact .nil
      · exact .nil
  refine .append (.flatMap (fun base => ?_) _) ?_
  · rw [baseItems, ← List.singleton_append]
    refine .append (.kmd hcfg _ _) (.append ?_ (.kmd hcfg _ _))
    split_ifs
    · exact .flatMap (hdesc _ _) _
    · exact .nil
  · split_ifs
    · exact .nil
    · exact .flatMap (fun base => .append (.kmd hcfg _ _) (.kmd hcfg _ _)) _

lemma descs_blobItems (tag : Tag) (first : Bool) (blobs : List (List (List UInt32))) :
    ((blobItems tag first blobs).flatMap Item.pieces).filterMap Piece.desc? = [] := by
  induction blobs generalizing first with
  | nil => rfl
  | cons calls rest ih =>
    rw [blobItems, List.flatMap_cons, List.filterMap_append, ih]
    by_cases h : callBytes calls = 0 <;> simp [Item.pieces, Piece.desc?, h]

lemma filterMap_flatMap_desc {α : Type} (f : α → List Item) (l : List α) :
    ((l.flatMap f).flatMap Item.pieces).filterMap Piece.desc? =
      l.flatMap fun a => ((f a).flatMap Item.pieces).filterMap Piece.desc? := by
  rw [List.flatMap_assoc, List.filterMap_flatMap]

lemma descs_kmd (tag : Tag) (always : Bool) (calls : List (List UInt32)) :
    ((Item.kmd tag always calls).pieces).filterMap Piece.desc? = [] := by
  rw [Item.pieces]
  split_ifs <;> rfl

lemma descs_descItems (i : ℕ) (base : CtxBaseInfo) (desc : CmdBufDesc × ℕ) :
    ((descItems env ctx i base desc).flatMap Item.pieces).filterMap Piece.desc? =
      if desc.1.isFor base.splitId then [desc.1] else [] := by
  rw [descItems, CmdBufDesc.isFor]
  by_cases hlen : desc.1.length = 0
  · simp [hlen]
  rw [if_neg hlen]
  cases metaKind desc.1.metaData with
  | command side =>
    by_cases hside : side.meets base.splitId <;> simp [hside, hlen, Item.pieces, Piece.desc?]
  | genericBlob side =>
    by_cases hside : side.meets base.splitId
    · simp only [hside, if_true, descs_blobItems]
      simp
    · simp [hside]
  | dualConfig => simp
  | invalid => simp

lemma flatMap_zipIdx_fst {α β : Type} (f : α → List β) (l : List α) (n : ℕ) :
    ((l.zipIdx n).flatMap fun x => f x.1) = l.flatMap f := by
  induction l generalizing n with
  | nil => rfl
  | cons a l ih => rw [List.zipIdx_cons, List.flatMap_cons, List.flatMap_cons, ih]

lemma filter_eq_flatMap {α : Type} (p : α → Bool) (l : List α) :
    l.filter p = l.flatMap fun a => if p a then [a] else [] := by
  induction l with
  | nil => rfl
  | cons a l ih =>
    rw [List.filter_cons, List.flatMap_cons, ih]
    split_ifs <;> rfl

lemma descs_baseItems (base : CtxBaseInfo × ℕ) :
    ((baseItems env args ctx base).flatMap Item.pieces).filterMap Piece.desc? =
      sideDescs args base.1 := by
  rw [baseItems, List.flatMap_cons, List.flatMap_append, List.flatMap_singleton,
    List.filterMap_append, List.filterMap_append, changeBaseItem, descs_kmd, descs_kmd, sideDescs,
    List.nil_append, List.append_nil]
  split_ifs
  · rw [filterMap_flatMap_desc]
    simp only [descs_descItems]
    exact (flatMap_zipIdx_fst (fun desc : CmdBufDesc => if desc.isFor base.1.splitId then [desc] else [])
      _ _).trans (filter_eq_flatMap _ _).symm
  · rfl

lemma descs_plan : ((plan env args ctx).flatMap Item.pieces).filterMap Piece.desc? =
    ctx.base.flatMap (sideDescs args) := by
  have hrups : ((if args.isInit then [] else
      ctx.base.zipIdx.flatMap (rupItems env ctx)).flatMap Item.pieces).filterMap Piece.desc? = [] := by
    split_ifs
    · rfl
    · rw [filterMap_flatMap_desc]
      simp [rupItems, changeBaseItem, descs_kmd]
  rw [plan, List.flatMap_append, List.filterMap_append, hrups, List.append_nil,
    filterMap_flatMap_desc]
  simp only [descs_baseItems]
  exact flatMap_zipIdx_fst _ _ _

end Plan

section Update
variable {env : Env} {args : Args} {ctx : Ctx} {kmdBuf : KmdBufInfo} {s : Prep}

lemma Lays.flags_iff (h : Lays kmdBuf args.maxHwUpdateEntries (plan env args ctx) s) :
    (∀ k < s.numHwUpdateEntries,
      (s.stored k).flags = some CAM_ISP_IQ_BL ∨ (s.stored k).flags = some CAM_ISP_IOCFG_BL) ↔
      .stale ∉ (plan env args ctx).flatMap Item.tags := by
  have htags := layout_tags kmdBuf 0 (plan env args ctx)
  constructor
  · intro hflags hstale
    rw [← htags, List.mem_map] at hstale
    obtain ⟨e, he, hstale⟩ := hstale
    obtain ⟨k, hk, hget⟩ := List.mem_iff_getElem.mp he
    have hmeets := h.flags k e (by rw [List.getElem?_eq_getElem hk, hget])
    rw [hstale, Tag.Meets] at hmeets
    have := hflags k (by rwa [h.count])
    simp [hmeets] at this
  · intro hstale k hk
    rw [h.count] at hk
    have hmeets := h.flags k _ (List.getElem?_eq_getElem hk)
    have hmem : ((layout kmdBuf 0 (plan env args ctx))[k]).2 ∈
        (plan env args ctx).flatMap Item.tags := by
      rw [← htags]
      exact List.mem_map_of_mem (List.getElem_mem hk)
    have hplan := planTags_plan env args ctx _ hmem
    cases htag : ((layout kmdBuf 0 (plan env args ctx))[k]).2 with
    | stored flags =>
      rw [htag] at hmeets hplan
      rw [hmeets]
      exact hplan.imp (congrArg some) (congrArg some)
    | stale => exact absurd (htag ▸ hmem) hstale
    | unknown => exact (htag ▸ hplan : PlanTag .unknown).elim

lemma Slot.over_flags {slot : Slot} {old : HwUpdateEntry} {flags : UInt32}
    (h : slot.flags = some flags) : (slot.over old).flags = flags := by
  simp [Slot.over, h]

lemma Lays.kept_length (h : Lays kmdBuf args.maxHwUpdateEntries (plan env args ctx) s)
    (hstale : .stale ∉ (plan env args ctx).flatMap Item.tags) (old : ℕ → HwUpdateEntry) :
    (kept (fun k => (s.stored k).over (old k)) s.numHwUpdateEntries).length =
      reappliedEntries env args ctx := by
  have hflags := h.flags_iff.mpr hstale
  have hrange : (List.range s.numHwUpdateEntries).map
      (fun k => Tag.stored ((s.stored k).over (old k)).flags) =
        (layout kmdBuf 0 (plan env args ctx)).map (·.2) := by
    refine List.ext_getElem (by simp [h.count]) fun k hk hk' => ?_
    rw [List.length_map, List.length_range] at hk
    rw [List.length_map] at hk'
    have hmeets := h.flags k _ (List.getElem?_eq_getElem hk')
    have hmem : ((layout kmdBuf 0 (plan env args ctx))[k]).2 ∈
        (plan env args ctx).flatMap Item.tags := by
      rw [← layout_tags kmdBuf 0]
      exact List.mem_map_of_mem (List.getElem_mem hk')
    rw [List.getElem_map, List.getElem_map, List.getElem_range]
    cases htag : ((layout kmdBuf 0 (plan env args ctx))[k]).2 with
    | stored flags => rw [Slot.over_flags (by simpa [htag, Tag.Meets] using hmeets)]
    | stale => exact absurd (htag ▸ hmem) hstale
    | unknown => exact (htag ▸ planTags_plan env args ctx _ hmem : PlanTag .unknown).elim
  rw [← cfgEntries_plan, cfgEntries, ← layout_tags kmdBuf 0, ← hrange, kept, List.length_map,
    ← List.countP_eq_length_filter, List.countP_map, List.count, List.countP_map]
  refine List.countP_congr fun k hk => ?_
  have hover : ((s.stored k).over (old k)).flags = CAM_ISP_IQ_BL ∨
      ((s.stored k).over (old k)).flags = CAM_ISP_IOCFG_BL :=
    (hflags k (List.mem_range.mp hk)).imp Slot.over_flags Slot.over_flags
  rcases hover with h | h <;> simp [h] <;> decide

lemma Lays.wellFormed_iff (h : Lays kmdBuf args.maxHwUpdateEntries (plan env args ctx) s) :
    WellFormed args ctx kmdBuf s ↔ Sound env args ctx := by
  have hold : (ℕ → HwUpdateEntry) × (ℕ → EntryBody) := (fun _ => ⟨⟨0, 0, 0⟩, 0⟩, fun _ => ⟨0, 0, 0⟩)
  constructor
  · intro hwell
    have hstale := h.flags_iff.mp hwell.flags
    obtain ⟨pieces, -, -, -, -, htiles, -⟩ := hwell.pieces
    rw [h.writes] at htiles
    refine ⟨(stale_mem_plan env args ctx).mp hstale,
      (plan_oneWrites env args ctx).mp htiles.oneWrites, ?_⟩
    rw [← h.kept_length hstale hold.1]
    by_cases hzero : s.numHwUpdateEntries = 0
    · simp [hzero, kept]
    · exact (camIfeMgrConfigHw_reapply _ hold.2 hzero).mp (hwell.reapply hold.1 hold.2 hzero)
  · rintro ⟨hblob, hnode, hfits⟩
    have hstale := (stale_mem_plan env args ctx).mpr hblob
    have hone := (plan_oneWrites env args ctx).mpr hnode
    have hle := h.fits hone
    have hlt := kmdBuf.size.toNat_lt
    have hsum : (((plan env args ctx).flatMap Item.pieces).map Piece.bytes).sum =
        natBytes (allCalls (plan env args ctx)) := by
      rw [pieces_sum, natBytes_items (by omega)]
    have hbodies := layout_bodies kmdBuf 0 (plan env args ctx)
    refine ⟨h.le, ⟨(plan env args ctx).flatMap Item.pieces, ?_, ?_, ?_, ?_, ?_, ?_⟩,
      h.flags_iff.mpr hstale, ?_⟩
    · rw [← length_bodies kmdBuf 0, ← hbodies, List.length_map, h.count]
      rfl
    · intro k body hk
      rw [← hbodies, List.getElem?_map, Option.map_eq_some_iff] at hk
      obtain ⟨e, he, rfl⟩ := hk
      exact h.body k e he
    · rw [hsum, h.used_toNat hone]
    · rw [hsum]
      exact hle
    · rw [hsum, h.writes]
      simpa using tiles_items 0 hone (plan_words env args ctx) (by simp) (by simp; omega)
    · exact descs_plan env args ctx
    · intro old cmd hn
      rw [camIfeMgrConfigHw_reapply _ cmd hn, h.kept_length hstale old]
      exact hfits

lemma lays_of_accepted {resBitmap : UInt64}
    (hkmd : getKmdBuffer args.packet env.cpuBuf = .ok kmdBuf)
    (hrun : camIfeMgrPrepareHwUpdate env args ctx resBitmap = .ok () s) :
    Lays kmdBuf args.maxHwUpdateEntries (plan env args ctx) s := by
  have hused : kmdBuf.usedBytes = 0 := by
    rcases PacketUtil.getKmdBuffer_cases args.packet env.cpuBuf with ⟨⟨rc, hrc⟩, -⟩ | ⟨-, hok⟩
    · rw [hrc] at hkmd
      cases hkmd
    · rw [hok] at hkmd
      cases hkmd
      rfl
  rw [camIfeMgrPrepareHwUpdate, hkmd] at hrun
  split_ifs at hrun
  have hadds := prepareBases_adds env args ctx (.start kmdBuf resBitmap) (.start kmdBuf resBitmap) rfl
  simp only [wp, PredTrans.apply, EStateM.run, hrun] at hadds
  exact hadds kmdBuf [] (.start _ hused resBitmap)

end Update

/-- The updates of a packet are well-formed exactly if the packet is rejected or sound. -/
theorem updateWellFormed_iff (env : Env) (args : Args) (ctx : Ctx) (resBitmap : UInt64) :
    UpdateWellFormed env args ctx resBitmap ↔
      ((∃ s, camIfeMgrPrepareHwUpdate env args ctx resBitmap = .ok () s) → Sound env args ctx) := by
  constructor
  · rintro h ⟨s, hrun⟩
    cases hkmd : getKmdBuffer args.packet env.cpuBuf with
    | error rc =>
      rw [camIfeMgrPrepareHwUpdate, hkmd] at hrun
      split_ifs at hrun
    | ok kmdBuf => exact (lays_of_accepted hkmd hrun).wellFormed_iff.mp (h kmdBuf s hkmd hrun)
  · intro h kmdBuf s hkmd hrun
    exact (lays_of_accepted hkmd hrun).wellFormed_iff.mpr (h ⟨s, hrun⟩)

/-- The descriptor of the KMD, and one of blobs for any side. -/
def twoBlobs : PacketUtil.Packet where
  size := 1024
  cmdBufOffset := 0
  numCmdBuf := 2
  ioConfigsOffset := 48
  numIoConfigs := 0
  patchOffset := 0
  numPatches := 0
  kmdCmdBufIndex := 0
  kmdCmdBufOffset := 0
  payload := fun k =>
    match k with
    | 0 => 1
    | 8 => 64
    | 24 => 2
    | 32 => 128
    | 36 => 128
    | 44 => 12
    | _ => 0

def twoBlobsArgs : Args :=
  ⟨twoBlobs, 1024, 0, [⟨⟨1, 0, 64, 0⟩, 0, [], 0⟩,
    ⟨⟨2, 0, 128, 128⟩, 12, [.hfrConfig [0x3000], .ubwcConfig 1 [0x3000]], 0⟩], [], 22, 24, 24⟩

lemma accepted_of_test {r : EStateM.Result ℤ Prep Unit} {p : Prep → Bool}
    (h : (match r with
      | .ok _ s => p s
      | .error _ _ => false) = true) : ∃ s, r = .ok () s ∧ p s = true := by
  cases r with
  | ok a s => exact ⟨s, rfl, h⟩
  | error rc s => cases h

/-- The entry of the second blob has no flags stored. -/
theorem twoBlobs_not_wellFormed : ¬ UpdateWellFormed answeringEnv twoBlobsArgs oneBase 0 := by
  have hvalid : validatePacket twoBlobsArgs.packet twoBlobsArgs.remainLen = 0 := by decide +kernel
  have hkmd : getKmdBuffer twoBlobsArgs.packet answeringEnv.cpuBuf = .ok ⟨1, 4096, 0, 64, 0⟩ := by
    decide +kernel
  have hprepare : camIfeMgrPrepareHwUpdate answeringEnv twoBlobsArgs oneBase 0 =
      prepareBases answeringEnv twoBlobsArgs oneBase (.start ⟨1, 4096, 0, 64, 0⟩ 0) := by
    rw [camIfeMgrPrepareHwUpdate, hvalid, if_neg (by simp), hkmd]
    exact if_neg (by simp [answeringEnv])
  obtain ⟨s, hrun, hstale⟩ := accepted_of_test
    (r := prepareBases answeringEnv twoBlobsArgs oneBase (.start ⟨1, 4096, 0, 64, 0⟩ 0))
    (p := fun s => (s.stored 2).flags = none ∧ 2 < s.numHwUpdateEntries) (by decide +kernel)
  obtain ⟨hnone, hlt⟩ := of_decide_eq_true hstale
  intro h
  have hflags := (h _ s hkmd (hprepare.trans hrun)).flags 2 hlt
  rw [hnone] at hflags
  simp at hflags

end CameraKernel.IspPrepare
