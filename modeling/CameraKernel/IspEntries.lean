import CameraKernel.IspPrepare

/-! The entries of a prepared packet. A list of items says what an accepted prepare puts into the
update list and into the KMD buffer; the prepare lays it out. -/
namespace CameraKernel.IspPrepare
open Std.Do
open PacketUtil (KmdBufInfo)
set_option mvcgen.warning false

/-- At most one of the nodes that write to one place has anything to write. -/
def OneWrites (group : List UInt32) : Prop := group.Pairwise fun a b => a = 0 ∨ b = 0

/-- The bytes of several calls, each to the nodes that write to one place, as the driver adds them. -/
def callBytes (calls : List (List UInt32)) : UInt32 := (calls.map List.sum).sum

def natBytes (calls : List (List UInt32)) : ℕ := (calls.map fun g => (g.map UInt32.toNat).sum).sum

/-- The place behind `used` and `total` bytes, counted in words. -/
def wordPlace (used total : UInt32) : ℕ := 4 * (used.toNat / 4 + total.toNat / 4)

/-- What the calls write behind `used` bytes. -/
def callWrites (used : UInt32) : UInt32 → List (List UInt32) → List (ℕ × UInt32)
  | _, [] => []
  | total, g :: gs => g.map (wordPlace used total, ·) ++ callWrites used (total + g.sum) gs

/-- How an entry gets its flags: they are stored, they are not, or that is still open. -/
inductive Tag
  | stored (flags : UInt32) | stale | unknown
  deriving DecidableEq, Repr

def Tag.Meets : Tag → Option UInt32 → Prop
  | .stored flags, f => f = some flags
  | .stale, f => f = none
  | .unknown, _ => True

/-- A command descriptor, or calls that fill the KMD buffer; these have an entry when they have
written something, or always. -/
inductive Item
  | cmd (desc : CmdBufDesc)
  | kmd (tag : Tag) (always : Bool) (calls : List (List UInt32))
  deriving DecidableEq, Repr

def Item.calls : Item → List (List UInt32)
  | .cmd _ => []
  | .kmd _ _ calls => calls

def Item.bytes (item : Item) : UInt32 := callBytes item.calls

/-- The entries of an item when `used` bytes of the KMD buffer are in use. -/
def Item.entries (kmdBuf : KmdBufInfo) (used : UInt32) : Item → List (EntryBody × Tag)
  | .cmd desc => [(⟨desc.memHandle, desc.offset, desc.length⟩, .stored CAM_ISP_IQ_BL)]
  | .kmd tag always calls =>
    if always ∨ callBytes calls ≠ 0 then
      [(⟨kmdBuf.handle, kmdBuf.offset + used, callBytes calls⟩, tag)]
    else []

def itemBytes (items : List Item) : UInt32 := (items.map Item.bytes).sum

def layout (kmdBuf : KmdBufInfo) : UInt32 → List Item → List (EntryBody × Tag)
  | _, [] => []
  | used, item :: items => item.entries kmdBuf used ++ layout kmdBuf (used + item.bytes) items

def itemWrites : UInt32 → List Item → List (ℕ × UInt32)
  | _, [] => []
  | used, item :: items => callWrites used 0 item.calls ++ itemWrites (used + item.bytes) items

def allCalls (items : List Item) : List (List UInt32) := items.flatMap Item.calls

lemma callBytes_append (a b : List (List UInt32)) :
    callBytes (a ++ b) = callBytes a + callBytes b := by
  simp [callBytes]

lemma natBytes_append (a b : List (List UInt32)) : natBytes (a ++ b) = natBytes a + natBytes b := by
  simp [natBytes]

lemma callWrites_append (used total : UInt32) (a b : List (List UInt32)) :
    callWrites used total (a ++ b) =
      callWrites used total a ++ callWrites used (total + callBytes a) b := by
  induction a generalizing total with
  | nil => simp [callWrites, callBytes]
  | cons g gs ih => simp [callWrites, ih, callBytes, add_assoc]

lemma itemBytes_append (a b : List Item) : itemBytes (a ++ b) = itemBytes a + itemBytes b := by
  simp [itemBytes]

lemma layout_append (kmdBuf : KmdBufInfo) (used : UInt32) (a b : List Item) :
    layout kmdBuf used (a ++ b) = layout kmdBuf used a ++ layout kmdBuf (used + itemBytes a) b := by
  induction a generalizing used with
  | nil => simp [layout, itemBytes]
  | cons item items ih => simp [layout, ih, itemBytes, add_assoc]

lemma itemWrites_append (used : UInt32) (a b : List Item) :
    itemWrites used (a ++ b) = itemWrites used a ++ itemWrites (used + itemBytes a) b := by
  induction a generalizing used with
  | nil => simp [itemWrites, itemBytes]
  | cons item items ih => simp [itemWrites, ih, itemBytes, add_assoc]

lemma allCalls_append (a b : List Item) : allCalls (a ++ b) = allCalls a ++ allCalls b := by
  simp [allCalls]

lemma OneWrites.sum_le {g : List UInt32} (h : OneWrites g) {size : ℕ}
    (hle : ∀ u ∈ g, u.toNat ≤ size) : (g.map UInt32.toNat).sum ≤ size := by
  induction g with
  | nil => simp
  | cons a g ih =>
    have hg := List.pairwise_cons.mp h
    rw [List.map_cons, List.sum_cons]
    by_cases ha : a = 0
    · have := ih hg.2 fun u hu => hle u (by simp [hu])
      simp [ha, this]
    · have hzero : (g.map UInt32.toNat).sum = 0 := by
        rw [List.sum_eq_zero_iff]
        intro n hn
        obtain ⟨u, hu, rfl⟩ := List.mem_map.mp hn
        simp [(hg.1 u hu).resolve_left ha]
      have := hle a (by simp)
      omega

lemma toNat_sum_of_lt (g : List UInt32) (h : (g.map UInt32.toNat).sum < 2 ^ 32) :
    g.sum.toNat = (g.map UInt32.toNat).sum := by
  induction g with
  | nil => rfl
  | cons a g ih =>
    rw [List.map_cons, List.sum_cons] at h ⊢
    rw [List.sum_cons, UInt32.toNat_add, ih (by omega)]
    omega

lemma toNat_callBytes {calls : List (List UInt32)} (h : natBytes calls < 2 ^ 32) :
    (callBytes calls).toNat = natBytes calls := by
  induction calls with
  | nil => rfl
  | cons g gs ih =>
    simp only [natBytes, callBytes, List.map_cons, List.sum_cons] at h ⊢ ih
    rw [UInt32.toNat_add, ih (by omega), toNat_sum_of_lt g (by omega)]
    omega

lemma callBytes_allCalls (items : List Item) : callBytes (allCalls items) = itemBytes items := by
  induction items with
  | nil => rfl
  | cons item items ih =>
    rw [show item :: items = [item] ++ items from rfl, allCalls_append, callBytes_append, ih,
      itemBytes_append]
    simp [allCalls, itemBytes, Item.bytes]

/-! ### What a prepare has laid out -/

/-- The prepare has laid out the items, and nothing else. The bytes are bounded by the buffer as
long as no place has been written to twice. -/
structure Lays (kmdBuf : KmdBufInfo) (max : ℕ) (items : List Item) (s : Prep) : Prop where
  count : s.numHwUpdateEntries = (layout kmdBuf 0 items).length
  le : s.numHwUpdateEntries ≤ max
  kmd : s.kmdBuf = { kmdBuf with
    usedBytes := itemBytes items, offset := kmdBuf.offset + itemBytes items }
  body : ∀ k (e : EntryBody × Tag), (layout kmdBuf 0 items)[k]? = some e → (s.stored k).body = some e.1
  flags : ∀ k (e : EntryBody × Tag), (layout kmdBuf 0 items)[k]? = some e →
    e.2.Meets (s.stored k).flags
  behind : ∀ k, s.numHwUpdateEntries < k → (s.stored k).flags = none
  writes : s.writes = itemWrites 0 items
  fits : (∀ g ∈ allCalls items, OneWrites g) → natBytes (allCalls items) ≤ kmdBuf.size.toNat

/-- A function adds entries and writes that depend only on the state it starts in. -/
def Adds (max : ℕ) (s : Prep) (new : List Item) (t : Prep) : Prop :=
  ∀ kmdBuf items, Lays kmdBuf max items s → Lays kmdBuf max (items ++ new) t

/-- All nodes of a call have written to its place. -/
def Prep.writeAll (s : Prep) (total : UInt32) (group : List UInt32) : Prep :=
  { s with writes := s.writes ++ group.map (wordPlace s.kmdBuf.usedBytes total, ·) }

@[simp] lemma Prep.writeAll_nil (s : Prep) (total : UInt32) : s.writeAll total [] = s := by
  simp [writeAll]

lemma Prep.writeAll_writeAll (s : Prep) (total : UInt32) (g g' : List UInt32) :
    (s.writeAll total g).writeAll total g' = s.writeAll total (g ++ g') := by
  simp [writeAll]

/-- The calls have been made from `s` on, and the update list is as it was. -/
structure Wrote (s : Prep) (calls : List (List UInt32)) (total : UInt32) (t : Prep) : Prop where
  total : total = callBytes calls
  stored : t.stored = s.stored
  count : t.numHwUpdateEntries = s.numHwUpdateEntries
  kmd : t.kmdBuf = s.kmdBuf
  writes : t.writes = s.writes ++ callWrites s.kmdBuf.usedBytes 0 calls
  fits : (∀ g ∈ calls, OneWrites g) → s.kmdBuf.usedBytes.toNat ≤ s.kmdBuf.size.toNat →
    s.kmdBuf.usedBytes.toNat + natBytes calls ≤ s.kmdBuf.size.toNat

lemma Wrote.nil (s : Prep) : Wrote s [] 0 s :=
  ⟨rfl, rfl, rfl, rfl, by simp [callWrites], fun _ h => by simpa [natBytes] using h⟩

lemma Wrote.whole {s : Prep} {u : UInt32} (hu : u ≤ s.kmdBuf.size - s.kmdBuf.usedBytes) :
    Wrote s [[u]] u (s.writeAll 0 [u]) := by
  refine ⟨by simp [callBytes], rfl, rfl, rfl, by simp [callWrites, Prep.writeAll], fun _ hle => ?_⟩
  have hu := UInt32.le_iff_toNat_le.mp hu
  rw [UInt32.toNat_sub_of_le _ _ (UInt32.le_iff_toNat_le.mpr hle)] at hu
  simp only [natBytes, List.map_cons, List.map_nil, List.sum_cons, List.sum_nil]
  omega

lemma Wrote.call {s t : Prep} {calls : List (List UInt32)} {total size : UInt32}
    (h : Wrote s calls total t) {g : List UInt32}
    (hroom : t.kmdBuf.usedBytes + total < t.kmdBuf.size)
    (hsize : size = t.kmdBuf.size - (t.kmdBuf.usedBytes + total)) (hg : ∀ u ∈ g, u ≤ size) :
    Wrote s (calls ++ [g]) (total + g.sum) (t.writeAll total g) := by
  rw [h.kmd] at hroom hsize
  obtain rfl := h.total
  refine ⟨by simp [callBytes], h.stored, h.count, h.kmd, ?_, fun hone hle => ?_⟩
  · simp [callWrites_append, callWrites, Prep.writeAll, h.writes, h.kmd]
  have hcalls := h.fits (fun g' hg' => hone g' (by simp [hg'])) hle
  have hsum : (g.map UInt32.toNat).sum ≤ size.toNat :=
    (hone g (by simp)).sum_le fun u hu => UInt32.le_iff_toNat_le.mp (hg u hu)
  have hbytes : (callBytes calls).toNat = natBytes calls :=
    toNat_callBytes (by have := s.kmdBuf.size.toNat_lt; omega)
  have hadd : (s.kmdBuf.usedBytes + callBytes calls).toNat =
      s.kmdBuf.usedBytes.toNat + natBytes calls := by
    rw [UInt32.toNat_add, hbytes]
    have := s.kmdBuf.size.toNat_lt
    omega
  have hsize' : size.toNat = s.kmdBuf.size.toNat -
      (s.kmdBuf.usedBytes.toNat + natBytes calls) := by
    rw [hsize, UInt32.toNat_sub_of_le _ _ (UInt32.le_of_lt hroom), hadd]
  rw [natBytes_append]
  simp only [natBytes, List.map_cons, List.map_nil, List.sum_cons, List.sum_nil] at *
  omega

lemma Wrote.one {s t : Prep} {calls : List (List UInt32)} {total size u : UInt32}
    (h : Wrote s calls total t) (hroom : t.kmdBuf.usedBytes + total < t.kmdBuf.size)
    (hsize : size = t.kmdBuf.size - (t.kmdBuf.usedBytes + total)) (hu : u ≤ size) :
    Wrote s (calls ++ [[u]]) (total + u) (t.writeAll total [u]) := by
  have hcall := h.call (g := [u]) hroom hsize fun v hv => by rwa [List.mem_singleton.mp hv]
  rwa [List.sum_singleton] at hcall

lemma Wrote.congr {s t t' : Prep} {calls : List (List UInt32)} {total : UInt32}
    (h : Wrote s calls total t) (hstored : t'.stored = t.stored)
    (hcount : t'.numHwUpdateEntries = t.numHwUpdateEntries) (hkmd : t'.kmdBuf = t.kmdBuf)
    (hwrites : t'.writes = t.writes) : Wrote s calls total t' :=
  ⟨h.total, hstored.trans h.stored, hcount.trans h.count, hkmd.trans h.kmd,
    hwrites.trans h.writes, h.fits⟩

variable {kmdBuf : KmdBufInfo} {max : ℕ} {items : List Item} {s t : Prep}

lemma Lays.used (h : Lays kmdBuf max items s) : s.kmdBuf.usedBytes = itemBytes items := by
  rw [h.kmd]

lemma Lays.used_toNat (h : Lays kmdBuf max items s) (hone : ∀ g ∈ allCalls items, OneWrites g) :
    s.kmdBuf.usedBytes.toNat = natBytes (allCalls items) := by
  have hfits := h.fits hone
  rw [h.used, ← callBytes_allCalls, toNat_callBytes]
  have := kmdBuf.size.toNat_lt
  omega

lemma Lays.fits_snoc (h : Lays kmdBuf max items s) (item : Item)
    (hfits : (∀ g ∈ item.calls, OneWrites g) → s.kmdBuf.usedBytes.toNat ≤ s.kmdBuf.size.toNat →
      s.kmdBuf.usedBytes.toNat + natBytes item.calls ≤ s.kmdBuf.size.toNat)
    (hone : ∀ g ∈ allCalls (items ++ [item]), OneWrites g) :
    natBytes (allCalls (items ++ [item])) ≤ kmdBuf.size.toNat := by
  simp only [allCalls_append, List.mem_append] at hone
  have hitems : ∀ g ∈ allCalls items, OneWrites g := fun g hg => hone g (.inl hg)
  have hitem : ∀ g ∈ item.calls, OneWrites g := fun g hg => hone g (.inr (by simpa [allCalls] using hg))
  have hused := h.used_toNat hitems
  have hle := h.fits hitems
  have hsize : s.kmdBuf.size = kmdBuf.size := by rw [h.kmd]
  have := hfits hitem (by rw [hused, hsize]; exact hle)
  rw [hused, hsize] at this
  rw [allCalls_append, natBytes_append]
  simpa [allCalls] using this

lemma Lays.snoc (h : Lays kmdBuf max items s) (item : Item) {e : EntryBody × Tag}
    (hentries : item.entries kmdBuf (itemBytes items) = [e])
    (hnum : t.numHwUpdateEntries = s.numHwUpdateEntries + 1)
    (hmax : s.numHwUpdateEntries + 1 ≤ max)
    (hother : ∀ k, k ≠ s.numHwUpdateEntries → t.stored k = s.stored k)
    (hbody : (t.stored s.numHwUpdateEntries).body = some e.1)
    (hflags : e.2.Meets (t.stored s.numHwUpdateEntries).flags)
    (hkmd : t.kmdBuf = { s.kmdBuf with
      usedBytes := s.kmdBuf.usedBytes + item.bytes, offset := s.kmdBuf.offset + item.bytes })
    (hwrites : t.writes = s.writes ++ callWrites s.kmdBuf.usedBytes 0 item.calls)
    (hfits : (∀ g ∈ item.calls, OneWrites g) → s.kmdBuf.usedBytes.toNat ≤ s.kmdBuf.size.toNat →
      s.kmdBuf.usedBytes.toNat + natBytes item.calls ≤ s.kmdBuf.size.toNat) :
    Lays kmdBuf max (items ++ [item]) t := by
  have hlayout : layout kmdBuf 0 (items ++ [item]) = layout kmdBuf 0 items ++ [e] := by
    simp [layout_append, layout, hentries]
  have hslot (k : ℕ) (e' : EntryBody × Tag) (he : (layout kmdBuf 0 (items ++ [item]))[k]? = some e') :
      (layout kmdBuf 0 items)[k]? = some e' ∧ k ≠ s.numHwUpdateEntries ∨
        k = s.numHwUpdateEntries ∧ e = e' := by
    rw [hlayout, List.getElem?_append, ← h.count] at he
    split_ifs at he with hk
    · exact .inl ⟨he, hk.ne⟩
    · rw [List.getElem?_singleton] at he
      split_ifs at he with hk'
      exact .inr ⟨by omega, Option.some.inj he⟩
  refine ⟨?_, by omega, ?_, ?_, ?_, ?_, ?_, h.fits_snoc item hfits⟩
  · rw [hnum, hlayout, h.count, List.length_append, List.length_singleton]
  · rw [hkmd, h.kmd, itemBytes_append]
    simp [itemBytes, add_assoc]
  · intro k e' he
    rcases hslot k e' he with ⟨he, hk⟩ | ⟨rfl, rfl⟩
    · rw [hother k hk]
      exact h.body k e' he
    · exact hbody
  · intro k e' he
    rcases hslot k e' he with ⟨he, hk⟩ | ⟨rfl, rfl⟩
    · rw [hother k hk]
      exact h.flags k e' he
    · exact hflags
  · intro k hk
    rw [hother k (by omega)]
    exact h.behind k (by omega)
  · rw [hwrites, h.writes, itemWrites_append, h.used]
    simp [itemWrites]

lemma Lays.skip (h : Lays kmdBuf max items s) {tag : Tag} {calls : List (List UInt32)}
    (hw : Wrote s calls 0 t) : Lays kmdBuf max (items ++ [Item.kmd tag false calls]) t := by
  have hzero := hw.total
  have hlayout : layout kmdBuf 0 (items ++ [Item.kmd tag false calls]) = layout kmdBuf 0 items := by
    simp [layout_append, layout, Item.entries, ← hzero]
  refine ⟨by rw [hlayout, hw.count, h.count], hw.count ▸ h.le, ?_,
    by rw [hlayout, hw.stored]; exact h.body, by rw [hlayout, hw.stored]; exact h.flags,
    by rw [hw.stored, hw.count]; exact h.behind, ?_, h.fits_snoc (.kmd tag false calls) hw.fits⟩
  · rw [itemBytes_append, hw.kmd]
    simpa [itemBytes, Item.bytes, Item.calls, ← hzero] using h.kmd
  · simp [hw.writes, h.writes, itemWrites_append, itemWrites, h.used, Item.calls]

lemma Lays.congr (h : Lays kmdBuf max items s) (hstored : t.stored = s.stored)
    (hcount : t.numHwUpdateEntries = s.numHwUpdateEntries) (hkmd : t.kmdBuf = s.kmdBuf)
    (hwrites : t.writes = s.writes) : Lays kmdBuf max items t := by
  refine ⟨hcount ▸ h.count, hcount ▸ h.le, hkmd ▸ h.kmd, hstored ▸ h.body, hstored ▸ h.flags, ?_,
    hwrites ▸ h.writes, h.fits⟩
  rw [hstored, hcount]
  exact h.behind

lemma Adds.append {new new' : List Item} {u : Prep} (h : Adds max s new t)
    (h' : Adds max t new' u) : Adds max s (new ++ new') u := by
  intro kmdBuf items hs
  rw [← List.append_assoc]
  exact h' _ _ (h _ _ hs)

lemma Adds.refl (s : Prep) : Adds max s [] s := fun _ items h => by simpa using h

lemma Lays.addKmdBody (h : Lays kmdBuf max items s) {calls : List (List UInt32)} {total : UInt32}
    (hw : Wrote s calls total t) (hroom : s.numHwUpdateEntries + 1 ≤ max) {tag : Tag} {always : Bool}
    (hentry : always ∨ total ≠ 0) (htag : tag.Meets (s.stored s.numHwUpdateEntries).flags) :
    Lays kmdBuf max (items ++ [Item.kmd tag always calls]) (t.addKmdBody total) := by
  obtain rfl := hw.total
  refine h.snoc (.kmd tag always calls)
    (e := (⟨s.kmdBuf.handle, s.kmdBuf.offset, callBytes calls⟩, tag)) ?_ ?_ hroom ?_ ?_ ?_ ?_ ?_ hw.fits
  · rw [Item.entries, if_pos (by simpa using hentry), h.kmd]
  · simp [Prep.addKmdBody, hw.count]
  · intro k hk
    simp [Prep.addKmdBody, Prep.setBody, hw.count, hw.stored, hk]
  · simp [Prep.addKmdBody, Prep.setBody, hw.count, hw.kmd]
  · simpa [Prep.addKmdBody, Prep.setBody, hw.count, hw.stored] using htag
  · simp [Prep.addKmdBody, hw.kmd, Item.bytes, Item.calls]
  · simp [Prep.addKmdBody, Prep.setBody, hw.writes, Item.calls]

lemma Adds.kmdEntry {calls : List (List UInt32)} {total : UInt32} (hw : Wrote s calls total t)
    (hroom : s.numHwUpdateEntries + 1 ≤ max) {always : Bool} (hentry : always ∨ total ≠ 0) :
    Adds max s [.kmd (.stored CAM_ISP_IOCFG_BL) always calls] (t.addKmdEntry total) := by
  intro kmdBuf items h
  obtain rfl := hw.total
  refine h.snoc (.kmd (.stored CAM_ISP_IOCFG_BL) always calls)
    (e := (⟨s.kmdBuf.handle, s.kmdBuf.offset, callBytes calls⟩, .stored CAM_ISP_IOCFG_BL))
    ?_ ?_ hroom ?_ ?_ ?_ ?_ ?_ hw.fits
  · rw [Item.entries, if_pos (by simpa using hentry), h.kmd]
  · simp [Prep.addKmdEntry, Prep.addKmdBody, Prep.setFlags, hw.count]
  · intro k hk
    simp [Prep.addKmdEntry, Prep.addKmdBody, Prep.setBody, Prep.setFlags, hw.count, hw.stored, hk]
  · simp [Prep.addKmdEntry, Prep.addKmdBody, Prep.setBody, Prep.setFlags, hw.count, hw.kmd]
  · simp [Prep.addKmdEntry, Prep.addKmdBody, Prep.setBody, Prep.setFlags, Tag.Meets, hw.count]
  · simp [Prep.addKmdEntry, Prep.addKmdBody, Prep.setFlags, hw.kmd, Item.bytes, Item.calls]
  · simp [Prep.addKmdEntry, Prep.addKmdBody, Prep.setBody, Prep.setFlags, hw.writes, Item.calls]

lemma Adds.cmdEntry (desc : CmdBufDesc) (hroom : s.numHwUpdateEntries + 1 ≤ max) :
    Adds max s [.cmd desc] (s.addCmdEntry desc) := by
  intro kmdBuf items h
  refine h.snoc (.cmd desc)
    (e := (⟨desc.memHandle, desc.offset, desc.length⟩, .stored CAM_ISP_IQ_BL))
    rfl rfl hroom ?_ ?_ ?_ ?_ ?_ ?_
  · intro k hk
    simp [Prep.addCmdEntry, Prep.setBody, Prep.setFlags, hk]
  · simp [Prep.addCmdEntry, Prep.setBody, Prep.setFlags]
  · simp [Prep.addCmdEntry, Prep.setBody, Prep.setFlags, Tag.Meets]
  · simp [Prep.addCmdEntry, Prep.setBody, Prep.setFlags, Item.bytes, Item.calls, callBytes]
  · simp [Prep.addCmdEntry, Prep.setBody, Prep.setFlags, Item.calls, callWrites]
  · intro _ hle
    simpa [Item.calls, natBytes] using hle

variable (max) in
lemma Adds.kmdNonzero {calls : List (List UInt32)} {total : UInt32} (hw : Wrote s calls total t)
    (hroom : s.numHwUpdateEntries + 1 ≤ max) :
    Adds max s [.kmd (.stored CAM_ISP_IOCFG_BL) false calls]
      (if total ≠ 0 then t.addKmdEntry total else t) := by
  by_cases hzero : total = 0
  · subst hzero
    rw [if_neg (by simp)]
    exact fun kmdBuf items h => h.skip hw
  · rw [if_pos hzero]
    exact .kmdEntry hw hroom (.inr hzero)

variable (env : Env) (args : Args) (ctx : Ctx)

/-- The bytes that the hardware has to write at a place. -/
def need (env : Env) (site : Site) : UInt32 :=
  match env.processCmd site with
  | .ok bytes => bytes
  | .error _ => 0

lemma checkEntries_room (s : Prep) :
    ⦃fun t => ⌜t = s⌝⦄ checkEntries args
    ⦃⇓? _ t => ⌜t = s ∧ s.numHwUpdateEntries + 1 < args.maxHwUpdateEntries⌝⦄ := by
  mvcgen [checkEntries]
  all_goals grind

lemma processCmd_write (site : Site) (total size : UInt32) (err : ℤ → ℤ) (s : Prep) :
    ⦃fun t => ⌜t = s⌝⦄ processCmd env site total size err
    ⦃⇓? u t => ⌜u = need env site ∧ u ≤ size ∧ t = s.writeAll total [u]⌝⦄ := by
  mvcgen [processCmd]
  all_goals grind [need, wordPlace, Prep.writeAll]

lemma remainSize_room (total : UInt32) (err : ℤ) (s : Prep) :
    ⦃fun t => ⌜t = s⌝⦄ remainSize total err
    ⦃⇓? size t => ⌜t = s ∧ s.kmdBuf.usedBytes + total < s.kmdBuf.size ∧
      size = s.kmdBuf.size - (s.kmdBuf.usedBytes + total)⌝⦄ := by
  mvcgen [remainSize]
  all_goals grind

/-- A base's registers. -/
def changeBaseItem (regUpdate : Bool) (i : ℕ) : Item :=
  .kmd (.stored CAM_ISP_IOCFG_BL) true [[need env (.changeBase regUpdate i)]]

lemma camIspAddChangeBase_adds (regUpdate : Bool) (i : ℕ) (baseIdx : UInt32) (s : Prep) :
    ⦃fun t => ⌜t = s⌝⦄ camIspAddChangeBase env args ctx regUpdate i baseIdx
    ⦃⇓? _ t => ⌜Adds args.maxHwUpdateEntries s [changeBaseItem env regUpdate i] t⌝⦄ := by
  have hcheck := checkEntries_room
  have hprocess := processCmd_write
  mvcgen [camIspAddChangeBase, hcheck, hprocess]
  case vc2.post.success.isFalse.post.success hs _ _ _ _ hroom _ _ hwrite _ =>
    obtain ⟨rfl, hroom⟩ := hroom
    obtain ⟨rfl, hle, rfl⟩ := hwrite
    exact hs ▸ Adds.kmdEntry (.whole hle) (by omega) (.inl rfl)

/-- What the nodes of a port are called with. -/
def portCall (i d b : ℕ) (baseIdx : UInt32) (port : UInt32 × ℕ) : List UInt32 :=
  ((ctx.resListIfeOut (port.1 &&& 0xFF).toNat).nodesOn baseIdx).map fun node =>
    need env (.port i d b port.2 node.2)

lemma camIspAddCmdBufUpdate_write (res : HwMgrRes) (i d b p : ℕ) (baseIdx total size : UInt32)
    (s : Prep) :
    ⦃fun t => ⌜t = s⌝⦄ camIspAddCmdBufUpdate env res i d b p baseIdx total size
    ⦃⇓? u t => ⌜∃ g, g = (res.nodesOn baseIdx).map (fun node => need env (.port i d b p node.2)) ∧
      u = g.sum ∧ (∀ v ∈ g, v ≤ size) ∧ t = s.writeAll total g⌝⦄ := by
  have hprocess := processCmd_write
  mvcgen [camIspAddCmdBufUpdate, hprocess] invariants
  · ⇓? (⟨done, _, _⟩, u) t =>
      ⌜∃ g, g = done.map (fun node => need env (.port i d b p node.2)) ∧
        u = g.sum ∧ (∀ v ∈ g, v ≤ size) ∧ t = s.writeAll total g⌝
  case vc2.step.post.success hg _ _ _ hwrite =>
    obtain ⟨g, rfl, rfl, hle, rfl⟩ := hg
    obtain ⟨rfl, hu, rfl⟩ := hwrite
    refine ⟨_, List.map_append.symm, by simp; rfl, ?_, Prep.writeAll_writeAll _ _ _ _⟩
    intro v hv
    rcases List.mem_append.mp hv with hv | hv
    · exact hle v hv
    · rwa [List.mem_singleton.mp hv]
  all_goals grind [Prep.writeAll_nil]

/-- The entry that a blob adds when it has written something. -/
def Prep.addNonzero (s : Prep) (total : UInt32) : Prep :=
  if total = 0 then s else s.addKmdBody total

lemma addPorts_writes (i d b : ℕ) (baseIdx : UInt32) (types : List UInt32) (s : Prep) :
    ⦃fun t => ⌜t = s⌝⦄ addPorts env ctx i d b baseIdx types
    ⦃⇓? _ t => ⌜∃ total u, Wrote s (types.zipIdx.map (portCall env ctx i d b baseIdx)) total u ∧
      t = u.addNonzero total⌝⦄ := by
  have hremain := remainSize_room
  have hbuf := camIspAddCmdBufUpdate_write
  mvcgen [addPorts, hremain, hbuf] invariants
  · ⇓? (⟨done, _, _⟩, total) t =>
      ⌜Wrote s (done.map (portCall env ctx i d b baseIdx)) total t⌝
  case vc2.step.isFalse.post.success.post.success hw _ _ hroom _ _ _ hg =>
    obtain ⟨rfl, hlt, hsize⟩ := hroom
    obtain ⟨g, rfl, rfl, hle, rfl⟩ := hg
    rw [List.map_append]
    exact hw.call hlt hsize hle
  case vc5.pre h => exact h ▸ .nil _
  case vc6.post.success.isTrue h _ hw _ => exact ⟨_, _, hw, (if_neg h).symm⟩
  case vc7.post.success.isFalse h _ hw => exact ⟨_, _, hw, (if_pos (not_not.mp h)).symm⟩

/-! ### Buffers of blobs -/

/-- What a blob calls. -/
def blobCalls (i d : ℕ) (baseIdx : UInt32) (blob : IspBlob × ℕ) : List (List UInt32) :=
  match blob.1 with
  | .hfrConfig types => types.zipIdx.map (portCall env ctx i d blob.2 baseIdx)
  | .ubwcConfig _ types => types.zipIdx.map (portCall env ctx i d blob.2 baseIdx)
  | .other => []

lemma blobHandler_writes (i d b : ℕ) (baseIdx : UInt32) (blob : IspBlob) (s : Prep) :
    ⦃fun t => ⌜t = s⌝⦄ camIspPacketGenericBlobHandler env args ctx i d b baseIdx blob
    ⦃⇓? _ t => ⌜∃ total u, Wrote s (blobCalls env ctx i d baseIdx (blob, b)) total u ∧
      (total ≠ 0 → s.numHwUpdateEntries + 1 < args.maxHwUpdateEntries) ∧
      t = u.addNonzero total⌝⦄ := by
  have hcheck := checkEntries_room
  have hports := addPorts_writes
  mvcgen [camIspPacketGenericBlobHandler, camIspBlobHfrUpdate, camIspBlobUbwcUpdate, hcheck, hports]
  case vc1.h_1.post.success.post.success =>
    rintro ⟨total, u, hw, rfl⟩
    grind [blobCalls]
  case vc3.h_2.post.success.isFalse.post.success =>
    rintro ⟨total, u, hw, rfl⟩
    grind [blobCalls]
  case vc5.h_3.isFalse h =>
    exact ⟨0, s, .nil s, fun h => absurd rfl h, by simpa [Prep.addNonzero] using h⟩

/-- The items of the blobs of one buffer. The first entry is tagged by `tag`, the others have no
flags stored; `first` says that there is no entry yet. -/
def blobItems (tag : Tag) : Bool → List (List (List UInt32)) → List Item
  | _, [] => []
  | first, calls :: rest =>
    .kmd (if first then tag else .stale) false calls ::
      blobItems tag (first && callBytes calls = 0) rest

/-- No blob has written anything. -/
def NoneWritten (blobs : List (List (List UInt32))) : Prop := ∀ calls ∈ blobs, callBytes calls = 0

instance (blobs : List (List (List UInt32))) : Decidable (NoneWritten blobs) :=
  inferInstanceAs (Decidable (∀ calls ∈ blobs, _))

lemma blobItems_snoc (tag : Tag) (blobs : List (List (List UInt32))) (calls : List (List UInt32)) :
    blobItems tag true (blobs ++ [calls]) = blobItems tag true blobs ++
      [.kmd (if NoneWritten blobs then tag else .stale) false calls] := by
  have general : ∀ first : Bool, blobItems tag first (blobs ++ [calls]) = blobItems tag first blobs ++
      [.kmd (if first ∧ NoneWritten blobs then tag else .stale) false calls] := by
    induction blobs with
    | nil => intro first; cases first <;> simp [blobItems, NoneWritten]
    | cons c rest ih =>
      intro first
      simp only [List.cons_append, blobItems, ih]
      congr 4
      simp [NoneWritten, and_assoc]
  simpa using general true

/-- The bodies of the entries of the blobs. -/
def blobBodies (kmdBuf : KmdBufInfo) : UInt32 → List (List (List UInt32)) → List EntryBody
  | _, [] => []
  | used, calls :: rest =>
    if callBytes calls = 0 then blobBodies kmdBuf used rest
    else ⟨kmdBuf.handle, kmdBuf.offset + used, callBytes calls⟩ ::
      blobBodies kmdBuf (used + callBytes calls) rest

/-- The first entry has the tag. -/
def tagFirst (tag : Tag) : List EntryBody → List (EntryBody × Tag)
  | [] => []
  | body :: bodies => (body, tag) :: bodies.map (·, .stale)

lemma getElem?_tagFirst {tag : Tag} (tag' : Tag) {l : List (EntryBody × Tag)}
    {bodies : List EntryBody} {k : ℕ} {e : EntryBody × Tag}
    (h : (l ++ tagFirst tag bodies)[k]? = some e) :
    ∃ e', (l ++ tagFirst tag' bodies)[k]? = some e' ∧ e'.1 = e.1 ∧
      (k ≠ l.length → e' = e) ∧ (k = l.length → e.2 = tag) := by
  by_cases hk : k < l.length
  · rw [List.getElem?_append_left hk] at h ⊢
    exact ⟨e, h, rfl, fun _ => rfl, fun he => absurd he hk.ne⟩
  rw [List.getElem?_append_right (by omega)] at h ⊢
  cases bodies with
  | nil => simp [tagFirst] at h
  | cons body bodies =>
    by_cases hk' : k = l.length
    · subst hk'
      simp only [tagFirst, Nat.sub_self, List.getElem?_cons_zero, Option.some.injEq] at h ⊢
      exact ⟨(body, tag'), rfl, by rw [← h], fun hne => absurd rfl hne, fun _ => by rw [← h]⟩
    · obtain ⟨m, hm⟩ : ∃ m, k - l.length = m + 1 := ⟨k - l.length - 1, by omega⟩
      rw [hm, tagFirst, List.getElem?_cons_succ] at h ⊢
      exact ⟨e, h, rfl, fun _ => rfl, fun he => absurd he hk'⟩

lemma layout_blobItems_stale (kmdBuf : KmdBufInfo) (tag : Tag)
    (blobs : List (List (List UInt32))) (used : UInt32) :
    layout kmdBuf used (blobItems tag false blobs) =
      (blobBodies kmdBuf used blobs).map (·, .stale) := by
  induction blobs generalizing used with
  | nil => rfl
  | cons calls rest ih =>
    by_cases h : callBytes calls = 0 <;>
      simp [blobItems, layout, Item.entries, Item.bytes, Item.calls, blobBodies, h, ih]

lemma layout_blobItems (kmdBuf : KmdBufInfo) (tag : Tag) (blobs : List (List (List UInt32)))
    (used : UInt32) :
    layout kmdBuf used (blobItems tag true blobs) = tagFirst tag (blobBodies kmdBuf used blobs) := by
  induction blobs generalizing used with
  | nil => rfl
  | cons calls rest ih =>
    by_cases h : callBytes calls = 0
    · simp [blobItems, layout, Item.entries, Item.bytes, Item.calls, blobBodies, h, ih]
    · simp [blobItems, layout, Item.entries, Item.bytes, Item.calls, blobBodies, h,
        layout_blobItems_stale, tagFirst]

lemma blobItems_calls (tag : Tag) (first : Bool) (blobs : List (List (List UInt32))) :
    (blobItems tag first blobs).map Item.calls = blobs := by
  induction blobs generalizing first with
  | nil => rfl
  | cons calls rest ih => simp [blobItems, Item.calls, ih]

lemma itemBytes_congr {a b : List Item} (h : a.map Item.calls = b.map Item.calls) :
    itemBytes a = itemBytes b := by
  have (l : List Item) : itemBytes l = ((l.map Item.calls).map callBytes).sum := by
    simp only [itemBytes, List.map_map]
    rfl
  rw [this, this, h]

lemma itemWrites_congr {a b : List Item} (h : a.map Item.calls = b.map Item.calls) (used : UInt32) :
    itemWrites used a = itemWrites used b := by
  induction a generalizing b used with
  | nil =>
    rw [List.map_nil, eq_comm, List.map_eq_nil_iff] at h
    rw [h]
  | cons item items ih =>
    cases b with
    | nil => cases h
    | cons item' items' =>
      obtain ⟨hcalls, hrest⟩ := List.cons.inj h
      rw [itemWrites, itemWrites, hcalls, Item.bytes, Item.bytes, hcalls, ih hrest]

lemma allCalls_congr {a b : List Item} (h : a.map Item.calls = b.map Item.calls) :
    allCalls a = allCalls b := by
  rw [allCalls, allCalls, List.flatMap_def, List.flatMap_def, h]

/-- The entry of a blob comes without flags. The first of a buffer finds the slot in whatever state
an earlier buffer has left it in; behind it no flags are stored. -/
structure Walks (max : ℕ) (s : Prep) (blobs : List (List (List UInt32)))
    (t : Prep) : Prop where
  adds : Adds max s (blobItems .unknown true blobs) t
  clean : ∀ kmdBuf items, Lays kmdBuf max items s → ¬ NoneWritten blobs →
    ∀ k, t.numHwUpdateEntries ≤ k → (t.stored k).flags = none

lemma Walks.nil (s : Prep) : Walks max s [] s :=
  ⟨Adds.refl s, fun _ _ _ h => absurd (by simp [NoneWritten]) h⟩

lemma Walks.blob {blobs : List (List (List UInt32))} {calls : List (List UInt32)} {u : Prep}
    {total : UInt32} (h : Walks max s blobs t) (hw : Wrote t calls total u)
    (hroom : total ≠ 0 → t.numHwUpdateEntries + 1 ≤ max) :
    Walks max s (blobs ++ [calls]) (u.addNonzero total) := by
  by_cases hzero : total = 0
  · subst hzero
    have hcalls : callBytes calls = 0 := hw.total.symm
    rw [Prep.addNonzero, if_pos rfl]
    refine ⟨fun kmdBuf items hs => ?_, fun kmdBuf items hs hnone => ?_⟩
    · rw [blobItems_snoc, ← List.append_assoc]
      exact (h.adds _ items hs).skip hw
    · have hnone' : ¬ NoneWritten blobs := fun hb => hnone (by
        simpa [NoneWritten, or_imp, forall_and, hcalls] using hb)
      rw [hw.stored, hw.count]
      exact h.clean _ items hs hnone'
  · rw [Prep.addNonzero, if_neg hzero]
    refine ⟨fun kmdBuf items hs => ?_, fun kmdBuf items hs _ => ?_⟩
    · rw [blobItems_snoc, ← List.append_assoc]
      refine (h.adds _ items hs).addKmdBody hw (hroom hzero) (.inr hzero) ?_
      by_cases hnone : NoneWritten blobs
      · simp [hnone, Tag.Meets]
      · simpa [hnone, Tag.Meets] using h.clean _ items hs hnone _ le_rfl
    · intro k hk
      have hbehind := (h.adds _ items hs).behind k
      simp only [Prep.addKmdBody, Prep.setBody, hw.count, hw.stored] at hk ⊢
      rw [Function.update_of_ne (by omega)]
      exact hbehind (by omega)

lemma processGenericCmdBuffer_walks (i d : ℕ) (baseIdx : UInt32) (desc : CmdBufDesc) (s : Prep) :
    ⦃fun t => ⌜t = s⌝⦄ processGenericCmdBuffer env args ctx i d baseIdx desc
    ⦃⇓? _ t => ⌜Walks args.maxHwUpdateEntries s
      (desc.blobs.zipIdx.map (blobCalls env ctx i d baseIdx)) t⌝⦄ := by
  have hblob := blobHandler_writes
  mvcgen [processGenericCmdBuffer, hblob] invariants
  · ⇓? (⟨done, _, _⟩, _) t => ⌜Walks args.maxHwUpdateEntries s
      (done.map (blobCalls env ctx i d baseIdx)) t⌝
  case vc1.step.post.success hwalks _ _ hblob =>
    obtain ⟨total, u, hw, hroom, rfl⟩ := hblob
    rw [List.map_append]
    exact hwalks.blob hw fun h => (hroom h).le
  case vc3.pre h => exact h ▸ .nil _

lemma Walks.setFlags {blobs : List (List (List UInt32))} (h : Walks max s blobs t)
    (flags : UInt32) :
    Adds max s (blobItems (.stored flags) true blobs)
      (t.setFlags s.numHwUpdateEntries flags) := by
  intro kmdBuf items hs
  have ht := h.adds _ items hs
  have hcalls : (items ++ blobItems (.stored flags) true blobs).map Item.calls =
      (items ++ blobItems .unknown true blobs).map Item.calls := by
    simp [blobItems_calls]
  have hlayout (tag : Tag) : layout kmdBuf 0 (items ++ blobItems tag true blobs) =
      layout kmdBuf 0 items ++ tagFirst tag (blobBodies kmdBuf (itemBytes items) blobs) := by
    rw [layout_append, layout_blobItems, zero_add]
  have hcount := ht.count
  have hbody := ht.body
  have hflags := ht.flags
  rw [hlayout] at hcount hbody hflags
  have hle : s.numHwUpdateEntries ≤ t.numHwUpdateEntries := by
    rw [hcount, hs.count, List.length_append]
    omega
  have hother (k : ℕ) (hk : k ≠ s.numHwUpdateEntries) :
      (t.setFlags s.numHwUpdateEntries flags).stored k = t.stored k := by
    simp [Prep.setFlags, hk]
  have hsame (k : ℕ) : ((t.setFlags s.numHwUpdateEntries flags).stored k).body =
      (t.stored k).body := by
    by_cases hk : k = s.numHwUpdateEntries
    · simp [Prep.setFlags, hk]
    · rw [hother k hk]
  refine ⟨?_, ht.le, ?_, ?_, ?_, ?_, ?_, ?_⟩
  · rw [hlayout]
    show t.numHwUpdateEntries = _
    rw [hcount]
    cases blobBodies kmdBuf (itemBytes items) blobs <;> simp [tagFirst]
  · rw [itemBytes_congr hcalls]
    exact ht.kmd
  · intro k e he
    rw [hlayout] at he
    obtain ⟨e', he', hfst, -, -⟩ := getElem?_tagFirst .unknown he
    rw [hsame, ← hfst]
    exact hbody k e' he'
  · intro k e he
    rw [hlayout] at he
    obtain ⟨e', he', -, hne, heq⟩ := getElem?_tagFirst .unknown he
    by_cases hk : k = s.numHwUpdateEntries
    · rw [heq (hk.trans hs.count), hk]
      simp [Prep.setFlags, Tag.Meets]
    · rw [hother k hk, ← hne (hs.count ▸ hk)]
      exact hflags k e' he'
  · intro k hk
    rw [hother k (by simp only [Prep.setFlags] at hk; omega)]
    exact ht.behind k hk
  · rw [itemWrites_congr hcalls]
    exact ht.writes
  · rw [allCalls_congr hcalls]
    exact ht.fits

/-- The items of a command descriptor. -/
def descItems (i : ℕ) (base : CtxBaseInfo) (desc : CmdBufDesc × ℕ) : List Item :=
  if desc.1.length = 0 then []
  else match metaKind desc.1.metaData with
    | .command side => if side.meets base.splitId then [.cmd desc.1] else []
    | .genericBlob side =>
      if side.meets base.splitId then
        blobItems (.stored CAM_ISP_IQ_BL) true
          (desc.1.blobs.zipIdx.map (blobCalls env ctx i desc.2 base.idx))
      else []
    | .dualConfig => []
    | .invalid => []

lemma addCommandBuffer_adds (i d : ℕ) (base : CtxBaseInfo) (desc : CmdBufDesc) (s : Prep) :
    ⦃fun t => ⌜t = s⌝⦄ addCommandBuffer env args ctx i d base desc
    ⦃⇓? _ t => ⌜Adds args.maxHwUpdateEntries s
      (descItems env ctx i base (desc, d)) t⌝⦄ := by
  have hcheck := checkEntries_room
  have hgeneric := processGenericCmdBuffer_walks
  mvcgen [addCommandBuffer, hcheck, hgeneric]
  case vc2.isTrue.post.success.isFalse.h_1.isTrue hlen _ hs _ _ _ _ hkind hside _ hroom _ =>
    obtain ⟨rfl, hroom⟩ := hroom
    subst hs
    simp only [descItems, hlen, if_false, hkind, hside, if_true]
    exact .cmdEntry desc (by omega)
  case vc6.isTrue.post.success.isFalse.h_3.isTrue.post.success
      hlen _ hs _ _ _ _ hkind hside _ hroom _ _ hwalks _ =>
    obtain ⟨rfl, hroom⟩ := hroom
    subst hs
    simp only [descItems, hlen, if_false, hkind, hside, if_true]
    exact hwalks.setFlags CAM_ISP_IQ_BL
  all_goals grind [descItems, Adds.refl]

lemma Adds.flatMap_snoc {α : Type} {f : α → List Item} {done : List α} {a : α} {u : Prep}
    (h : Adds max s (done.flatMap f) t) (h' : Adds max t (f a) u) :
    Adds max s ((done ++ [a]).flatMap f) u := by
  rw [List.flatMap_append, List.flatMap_singleton]
  exact Adds.append h h'

lemma camIspAddCommandBuffers_adds (i : ℕ) (base : CtxBaseInfo) (s : Prep) :
    ⦃fun t => ⌜t = s⌝⦄ camIspAddCommandBuffers env args ctx i base
    ⦃⇓? _ t => ⌜Adds args.maxHwUpdateEntries s
      (args.cmdDescs.zipIdx.flatMap (descItems env ctx i base)) t⌝⦄ := by
  have hadd := addCommandBuffer_adds
  mvcgen [camIspAddCommandBuffers, hadd] invariants
  · ⇓? (⟨done, _, _⟩, _) t => ⌜Adds args.maxHwUpdateEntries s
      (done.flatMap (descItems env ctx i base)) t⌝
  case vc1.step.post.success hdone _ _ hdesc => exact hdone.flatMap_snoc hdesc
  case vc3.pre h => exact h ▸ .refl _

/-- The calls of an io config. -/
def ioCfgCalls (i : ℕ) (baseIdx : UInt32) (ioCfg : BufIoCfg × ℕ) : List (List UInt32) :=
  ((ioRes ctx ioCfg.1).nodesOn baseIdx).map fun node => [need env (.io i ioCfg.2 node.2)]

lemma setupMemIo_same (i k j : ℕ) (ioCfg : BufIoCfg) (s : Prep) :
    ⦃fun t => ⌜t = s⌝⦄ setupMemIo env i k j ioCfg ⦃⇓? _ t => ⌜t = s⌝⦄ := by
  mvcgen [setupMemIo] invariants
  · ⇓? _ t => ⌜t = s⌝

lemma mapIoCfg_same (fillFence : Bool) (ioCfg : BufIoCfg) (outMap inMap : List FenceMapEntry)
    (s : Prep) :
    ⦃fun t => ⌜t = s⌝⦄ mapIoCfg args ctx fillFence ioCfg outMap inMap ⦃⇓? _ t => ⌜t = s⌝⦄ := by
  mvcgen [mapIoCfg]

lemma updateIoCfg_writes (i k : ℕ) (baseIdx : UInt32) (ioCfg : BufIoCfg) (total : UInt32)
    (s : Prep) :
    ⦃fun t => ⌜t = s⌝⦄ updateIoCfg env ctx i k baseIdx ioCfg total
    ⦃⇓? total' t => ⌜∀ s₀ calls, Wrote s₀ calls total s →
      Wrote s₀ (calls ++ ioCfgCalls env ctx i baseIdx (ioCfg, k)) total' t⌝⦄ := by
  have hmem := setupMemIo_same
  have hremain := remainSize_room
  have hprocess := processCmd_write
  mvcgen [updateIoCfg, hmem, hremain, hprocess] invariants
  · ⇓? (⟨done, _, _⟩, total') t => ⌜∀ s₀ calls, Wrote s₀ calls total s →
      Wrote s₀ (calls ++ done.map fun node => [need env (.io i k node.2)]) total' t⌝
  case vc2.step.isFalse.post.success.post.success.post.success hw _ _ hsame _ _ hroom _ _ _ hwrite =>
    intro s₀ calls h
    obtain ⟨rfl, hlt, hsize⟩ := hroom
    obtain ⟨rfl, hu, rfl⟩ := hwrite
    subst hsame
    rw [List.map_append, ← List.append_assoc]
    exact (hw s₀ calls h).one hlt hsize hu
  case vc6.pre h =>
    intro s₀ calls hw
    rw [h, List.map_nil, List.append_nil]
    exact hw

/-- The calls of all io configs. -/
def ioCalls (i : ℕ) (baseIdx : UInt32) : List (List UInt32) :=
  args.ioCfgs.zipIdx.flatMap (ioCfgCalls env ctx i baseIdx)

lemma camIspAddIoBuffers_adds (i : ℕ) (baseIdx : UInt32) (fillFence : Bool) (s : Prep) :
    ⦃fun t => ⌜t = s⌝⦄ camIspAddIoBuffers env args ctx i baseIdx fillFence
    ⦃⇓? _ t => ⌜Adds args.maxHwUpdateEntries s
      [.kmd (.stored CAM_ISP_IOCFG_BL) false (ioCalls env args ctx i baseIdx)] t⌝⦄ := by
  have hcheck := checkEntries_room
  have hmap := mapIoCfg_same
  have hio := updateIoCfg_writes
  mvcgen [camIspAddIoBuffers, fillResBitmap, hcheck, hmap, hio] invariants
  · ⇓? (⟨done, _, _⟩, total) t =>
      ⌜Wrote s (done.flatMap (ioCfgCalls env ctx i baseIdx)) total.1 t⌝
  case vc1.step.post.success.post.success hw _ _ _ _ hsame _ _ hcfg _ =>
    rw [List.flatMap_append, List.flatMap_singleton]
    exact (hcfg s _ (hsame ▸ hw)).congr rfl rfl rfl rfl
  case vc4.post.success.pre hs _ _ _ _ hroom =>
    rw [hroom.1, hs]
    exact .nil s
  case vc5.post.success.post.success.isTrue.isTrue hs _ _ _ _ hroom _ _ _ _ _ _ hne _ hw _ _ _ =>
    have hadds := Adds.kmdNonzero args.maxHwUpdateEntries hw (hs ▸ hroom.2.le)
    rw [if_pos hne] at hadds
    exact fun kmdBuf items h => (hadds kmdBuf items h).congr rfl rfl rfl rfl
  case vc6.post.success.post.success.isTrue.isFalse hs _ _ _ _ hroom _ _ _ _ _ _ hne _ hw _ _ =>
    have hadds := Adds.kmdNonzero args.maxHwUpdateEntries hw (hs ▸ hroom.2.le)
    rw [if_pos hne] at hadds
    exact hadds
  case vc7.post.success.post.success.isFalse.isTrue hs _ _ _ _ hroom _ _ _ _ _ _ hzero _ _ hw _ =>
    have hadds := Adds.kmdNonzero args.maxHwUpdateEntries hw (hs ▸ hroom.2.le)
    rw [if_neg hzero] at hadds
    exact fun kmdBuf items h => (hadds kmdBuf items h).congr rfl rfl rfl rfl
  case vc8.post.success.post.success.isFalse.isFalse hs _ _ _ _ hroom _ _ _ _ _ _ hzero _ _ hw =>
    have hadds := Adds.kmdNonzero args.maxHwUpdateEntries hw (hs ▸ hroom.2.le)
    rw [if_neg hzero] at hadds
    exact hadds

/-- The calls of a register update. -/
def rupCalls (i : ℕ) (baseIdx : UInt32) : List (List UInt32) :=
  (srcNodes ctx.resListIfeSrc baseIdx).map fun node => [need env (.regUpdate i node.2.1 node.2.2)]

lemma camIspAddRegUpdate_adds (i : ℕ) (baseIdx : UInt32) (s : Prep) :
    ⦃fun t => ⌜t = s⌝⦄ camIspAddRegUpdate env args ctx i baseIdx
    ⦃⇓? _ t => ⌜Adds args.maxHwUpdateEntries s
      [.kmd (.stored CAM_ISP_IOCFG_BL) false (rupCalls env ctx i baseIdx)] t⌝⦄ := by
  have hcheck := checkEntries_room
  have hremain := remainSize_room
  have hprocess := processCmd_write
  mvcgen [camIspAddRegUpdate, hcheck, hremain, hprocess] invariants
  · ⇓? (⟨done, _, _⟩, total) t => ⌜Wrote s
      (done.map fun node => [need env (.regUpdate i node.2.1 node.2.2)]) total t⌝
  case vc1.step.post.success.post.success hw _ _ hroom _ _ _ hwrite =>
    obtain ⟨rfl, hlt, hsize⟩ := hroom
    obtain ⟨rfl, hu, rfl⟩ := hwrite
    rw [List.map_append]
    exact hw.one hlt hsize hu
  case vc4.post.success.pre hs _ _ _ hroom =>
    rw [hroom.1]
    exact hs ▸ (Wrote.nil _).congr rfl rfl rfl rfl
  case vc6.post.success.post.success.isFalse.isTrue hs _ _ _ hroom _ _ _ hne _ hw _ =>
    have hadds := Adds.kmdNonzero args.maxHwUpdateEntries hw (hs ▸ hroom.2.le)
    rw [if_pos hne] at hadds
    exact hadds
  case vc7.post.success.post.success.isFalse.isFalse hs _ _ _ hroom _ _ _ hzero _ hw =>
    have hadds := Adds.kmdNonzero args.maxHwUpdateEntries hw (hs ▸ hroom.2.le)
    rw [if_neg hzero] at hadds
    exact hadds

/-- The items of a base: its registers, its command descriptors and its buffers. -/
def baseItems (base : CtxBaseInfo × ℕ) : List Item :=
  changeBaseItem env false base.2 ::
    ((if base.1.splitId ≠ .max then
        args.cmdDescs.zipIdx.flatMap (descItems env ctx base.2 base.1) else []) ++
      [Item.kmd (.stored CAM_ISP_IOCFG_BL) false (ioCalls env args ctx base.2 base.1.idx)])

lemma prepareBase_adds (i : ℕ) (base : CtxBaseInfo) (s : Prep) :
    ⦃fun t => ⌜t = s⌝⦄ prepareBase env args ctx i base
    ⦃⇓? _ t => ⌜Adds args.maxHwUpdateEntries s (baseItems env args ctx (base, i)) t⌝⦄ := by
  have hbase := camIspAddChangeBase_adds
  have hbufs := camIspAddCommandBuffers_adds
  have hios := camIspAddIoBuffers_adds
  mvcgen [prepareBase, hbase, hbufs, hios]
  case vc1.post.success.isTrue.post.success.post.success hs _ _ hsplit _ hbase _ _ hcmds _ _ =>
    intro hio
    rw [baseItems, if_pos hsplit]
    exact hs ▸ Adds.append hbase (Adds.append hcmds hio)
  case vc2.post.success.isFalse.post.success hs _ _ hsplit _ hbase _ _ =>
    intro hio
    rw [baseItems, if_neg hsplit]
    exact hs ▸ Adds.append hbase hio

/-- The items of a base's register update. -/
def rupItems (base : CtxBaseInfo × ℕ) : List Item :=
  [changeBaseItem env true base.2,
    .kmd (.stored CAM_ISP_IOCFG_BL) false (rupCalls env ctx base.2 base.1.idx)]

lemma regUpdateBase_adds (i : ℕ) (base : CtxBaseInfo) (s : Prep) :
    ⦃fun t => ⌜t = s⌝⦄ regUpdateBase env args ctx i base
    ⦃⇓? _ t => ⌜Adds args.maxHwUpdateEntries s (rupItems env ctx (base, i)) t⌝⦄ := by
  have hbase := camIspAddChangeBase_adds
  have hreg := camIspAddRegUpdate_adds
  mvcgen [regUpdateBase, hbase, hreg]
  case vc1.post.success.post.success hs _ _ hbase _ _ =>
    intro hrup
    exact hs ▸ Adds.append hbase hrup

/-- All that an accepted prepare lays out. -/
def plan : List Item :=
  ctx.base.zipIdx.flatMap (baseItems env args ctx) ++
    if args.isInit then [] else ctx.base.zipIdx.flatMap (rupItems env ctx)

lemma prepareBases_adds (s : Prep) :
    ⦃fun t => ⌜t = s⌝⦄ prepareBases env args ctx
    ⦃⇓? _ t => ⌜Adds args.maxHwUpdateEntries s (plan env args ctx) t⌝⦄ := by
  have hprepare := prepareBase_adds
  have hregBase := regUpdateBase_adds
  mvcgen [prepareBases, hprepare, hregBase] invariants
  · ⇓? (⟨done, _, _⟩, _) t =>
      ⌜Adds args.maxHwUpdateEntries s (done.flatMap (baseItems env args ctx)) t⌝
  · ⇓? (⟨done, _, _⟩, _) t => ⌜Adds args.maxHwUpdateEntries s
      (ctx.base.zipIdx.flatMap (baseItems env args ctx) ++ done.flatMap (rupItems env ctx)) t⌝
  case vc1.step.post.success hdone _ _ hbase => exact hdone.flatMap_snoc hbase
  case vc3.pre h => exact h ▸ .refl _
  case vc4.post.success.isTrue hinit _ h =>
    rw [plan, if_pos hinit, List.append_nil]
    exact h
  case vc5.step.post.success hdone _ _ hrup =>
    rw [List.flatMap_append, List.flatMap_singleton, ← List.append_assoc]
    exact Adds.append hdone hrup
  case vc7.post.success.isFalse.pre h =>
    rw [List.flatMap_nil, List.append_nil]
    exact h
  case vc8.post.success.isFalse.post.success hinit _ _ _ _ h _ =>
    rw [plan, if_neg hinit]
    exact fun kmdBuf items hs => (h kmdBuf items hs).congr rfl rfl rfl rfl

lemma Lays.start (max : ℕ) {kmdBuf : KmdBufInfo} (hused : kmdBuf.usedBytes = 0)
    (resBitmap : UInt64) : Lays kmdBuf max [] (.start kmdBuf resBitmap) := by
  refine ⟨rfl, Nat.zero_le _, ?_, by simp [layout], by simp [layout], fun _ _ => rfl, rfl, ?_⟩
  · cases kmdBuf
    cases hused
    simp [Prep.start, itemBytes]
  · simp [allCalls, natBytes]

end CameraKernel.IspPrepare
