import CameraKernel.Bitmap
import CameraKernel.Errno
import CameraKernel.Transition

/-! The request manager's table of session and device handles. A handle is 32 bits
wide, an argument of a lookup any such value; a pointer is a number, 0 for NULL. -/
namespace CameraKernel.HandleTable

def maxHandles : ℕ := 64

inductive HdlState
  | free
  | active
  deriving DecidableEq, Repr

/-- `enum hdl_type`, with the value of a zeroed entry. -/
inductive HdlType
  | unset
  | dev
  | session
  deriving DecidableEq, Repr

def HdlType.code : HdlType → ℕ
  | .unset => 0
  | .dev => 1
  | .session => 2

structure Handle where
  sessionHdl : BitVec 32
  hdlValue : BitVec 32
  type : HdlType
  state : HdlState
  devId : ℕ
  ops : ℕ
  priv : ℕ
  deriving DecidableEq, Repr

structure HdlTbl where
  hdl : ℕ → Handle
  bitmap : ℕ → Bool

/-- The table as `kzalloc` leaves it. -/
def zeroTbl : HdlTbl := ⟨fun _ => ⟨0, 0, .unset, .free, 0, 0, 0⟩, fun _ => false⟩

def getDevHandle (rnd : UInt8) (type : HdlType) (idx : ℕ) : BitVec 32 :=
  BitVec.ofNat 32 (rnd.toNat <<< 16 ||| type.code <<< 8 ||| idx)

def getHdlIdx (hdl : BitVec 32) : ℕ := (hdl &&& 0xFF#32).toNat

def getHdlType (hdl : BitVec 32) : ℕ := (hdl.sshiftRight 8 &&& 0xF#32).toNat

/-- The creation of a handle; `fill` writes the entry. -/
def createHdl (tbl : HdlTbl) (rnd : UInt8) (type : HdlType) (fill : BitVec 32 → Handle → Handle) :
    Except ℤ (BitVec 32) × HdlTbl :=
  match Bitmap.findFirstZeroBit maxHandles tbl.bitmap with
  | none => (.error (-Errno.ENOSR), tbl)
  | some idx =>
    let handle := getDevHandle rnd type idx
    (.ok handle,
      { hdl := Function.update tbl.hdl idx (fill handle (tbl.hdl idx))
        bitmap := Function.update tbl.bitmap idx true })

def sessionEntry (priv : ℕ) (handle : BitVec 32) (old : Handle) : Handle where
  sessionHdl := handle
  hdlValue := handle
  type := .session
  state := .active
  devId := old.devId
  ops := 0
  priv := priv

def camCreateSessionHdl (tbl : HdlTbl) (priv : ℕ) (rnd : UInt8) : Except ℤ (BitVec 32) × HdlTbl :=
  createHdl tbl rnd .session (sessionEntry priv)

/-- The fields of `struct cam_create_dev_hdl` that are stored. -/
structure CreateDevHdl where
  sessionHdl : BitVec 32
  devId : ℕ
  ops : ℕ
  priv : ℕ
  deriving DecidableEq, Repr

def deviceEntry (data : CreateDevHdl) (handle : BitVec 32) (_old : Handle) : Handle where
  sessionHdl := data.sessionHdl
  hdlValue := handle
  type := .dev
  state := .active
  devId := data.devId
  ops := data.ops
  priv := data.priv

def camCreateDeviceHdl (tbl : HdlTbl) (data : CreateDevHdl) (rnd : UInt8) :
    Except ℤ (BitVec 32) × HdlTbl :=
  createHdl tbl rnd .dev (deviceEntry data)

/-- The checks of the lookups, in their order. -/
def findEntry (tbl : HdlTbl) (devHdl : BitVec 32) : Option Handle :=
  let entry := tbl.hdl (getHdlIdx devHdl)
  if getHdlIdx devHdl ≥ maxHandles then none
  else if entry.state ≠ .active then none
  else if HdlType.code .dev ≠ getHdlType devHdl ∧ HdlType.code .session ≠ getHdlType devHdl then none
  else if entry.hdlValue ≠ devHdl then none
  else some entry

def camGetDevicePriv (tbl : HdlTbl) (devHdl : BitVec 32) : ℕ := ((findEntry tbl devHdl).map (·.priv)).getD 0

def camGetDeviceOps (tbl : HdlTbl) (devHdl : BitVec 32) : ℕ := ((findEntry tbl devHdl).map (·.ops)).getD 0

def camDestroyHdl (tbl : HdlTbl) (devHdl : BitVec 32) (type : HdlType) : ℤ × HdlTbl :=
  let idx := getHdlIdx devHdl
  let entry := tbl.hdl idx
  if idx ≥ maxHandles then (-Errno.EINVAL, tbl)
  else if entry.state ≠ .active then (-Errno.EINVAL, tbl)
  else if getHdlType devHdl ≠ type.code then (-Errno.EINVAL, tbl)
  else if entry.hdlValue ≠ devHdl then (-Errno.EINVAL, tbl)
  else
    (0, { hdl := Function.update tbl.hdl idx { entry with state := .free, ops := 0, priv := 0 }
          bitmap := Function.update tbl.bitmap idx false })

def camDestroyDeviceHdl (tbl : HdlTbl) (devHdl : BitVec 32) : ℤ × HdlTbl := camDestroyHdl tbl devHdl .dev

def camDestroySessionHdl (tbl : HdlTbl) (devHdl : BitVec 32) : ℤ × HdlTbl :=
  camDestroyHdl tbl devHdl .session

def camReqMgrUtilFreeHdls (tbl : HdlTbl) : HdlTbl where
  hdl i :=
    if i < maxHandles ∧ (tbl.hdl i).state = .active then { tbl.hdl i with state := .free }
    else tbl.hdl i
  bitmap i := if i < maxHandles then false else tbl.bitmap i

inductive HdlOp
  | createSession (priv : ℕ) (rnd : UInt8)
  | createDevice (data : CreateDevHdl) (rnd : UInt8)
  | destroySession (devHdl : BitVec 32)
  | destroyDevice (devHdl : BitVec 32)
  | freeHdls
  deriving DecidableEq

def step (tbl : HdlTbl) : HdlOp → HdlTbl
  | .createSession priv rnd => (camCreateSessionHdl tbl priv rnd).2
  | .createDevice data rnd => (camCreateDeviceHdl tbl data rnd).2
  | .destroySession devHdl => (camDestroySessionHdl tbl devHdl).2
  | .destroyDevice devHdl => (camDestroyDeviceHdl tbl devHdl).2
  | .freeHdls => camReqMgrUtilFreeHdls tbl

/-- Entry `i` is in use. -/
def Active (tbl : HdlTbl) (i : ℕ) : Prop := i < maxHandles ∧ (tbl.hdl i).state = .active

/-- A creation hands out a positive handle that names its entry and no other active one. -/
structure CreateSound (tbl : HdlTbl) (type : HdlType) (r : Except ℤ (BitVec 32) × HdlTbl) : Prop where
  handle : ∀ h, r.1 = .ok h → 0 < h.toInt ∧ getHdlType h = type.code ∧
    ¬Active tbl (getHdlIdx h) ∧ Active r.2 (getHdlIdx h) ∧
    (r.2.hdl (getHdlIdx h)).hdlValue = h ∧ (r.2.hdl (getHdlIdx h)).type = type ∧
    (∀ i, Active tbl i → (tbl.hdl i).hdlValue ≠ h) ∧
    ∀ i, i ≠ getHdlIdx h → r.2.hdl i = tbl.hdl i
  failed : ∀ e, r.1 = .error e → e < 0 ∧ r.2 = tbl

/-- A lookup returns the field of the active entry with that value, or NULL. -/
def LookupSound (tbl : HdlTbl) (field : Handle → ℕ) (devHdl : BitVec 32) (result : ℕ) : Prop :=
  (∀ i, Active tbl i → (tbl.hdl i).hdlValue = devHdl → result = field (tbl.hdl i)) ∧
    ((∀ i, Active tbl i → (tbl.hdl i).hdlValue ≠ devHdl) → result = 0)

/-- A destroy succeeds on an active handle of its type alone, and touches that entry alone. -/
structure DestroySound (tbl : HdlTbl) (type : HdlType) (devHdl : BitVec 32) (r : ℤ × HdlTbl) : Prop where
  success : r.1 = 0 ↔ ∃ i, Active tbl i ∧ (tbl.hdl i).hdlValue = devHdl ∧ (tbl.hdl i).type = type
  others : ∀ i, (tbl.hdl i).hdlValue ≠ devHdl ∨ ¬Active tbl i → r.2.hdl i = tbl.hdl i
  freed : r.1 = 0 → ∀ i, Active tbl i → (tbl.hdl i).hdlValue = devHdl → ¬Active r.2 i
  failed : r.1 ≠ 0 → r.2 = tbl

structure TableSound (tbl : HdlTbl) : Prop where
  bitmap : ∀ i < maxHandles, tbl.bitmap i = true ↔ (tbl.hdl i).state = .active
  handles : ∀ i, Active tbl i → 0 < (tbl.hdl i).hdlValue.toInt ∧ getHdlIdx (tbl.hdl i).hdlValue = i ∧
    getHdlType (tbl.hdl i).hdlValue = (tbl.hdl i).type.code
  distinct : ∀ i j, Active tbl i → Active tbl j → (tbl.hdl i).hdlValue = (tbl.hdl j).hdlValue → i = j
  createSession : ∀ priv rnd, CreateSound tbl .session (camCreateSessionHdl tbl priv rnd)
  createDevice : ∀ data rnd, CreateSound tbl .dev (camCreateDeviceHdl tbl data rnd)
  priv : ∀ h, LookupSound tbl (·.priv) h (camGetDevicePriv tbl h)
  ops : ∀ h, LookupSound tbl (·.ops) h (camGetDeviceOps tbl h)
  destroySession : ∀ h, DestroySound tbl .session h (camDestroySessionHdl tbl h)
  destroyDevice : ∀ h, DestroySound tbl .dev h (camDestroyDeviceHdl tbl h)

lemma HdlType.code_lt (type : HdlType) : type.code < 3 := by
  cases type <;> decide

lemma getDevHandle_toNat {idx : ℕ} (rnd : UInt8) (type : HdlType) (h : idx < maxHandles) :
    (getDevHandle rnd type idx).toNat = rnd.toNat * 0x10000 + type.code * 0x100 + idx := by
  have hrnd := rnd.toNat_lt
  have hcode := type.code_lt
  have hidx : idx < 64 := h
  have hhigh : rnd.toNat <<< 16 ||| type.code <<< 8 = (rnd.toNat * 256 + type.code) <<< 8 := by
    rw [← Nat.shiftLeft_add_eq_or_of_lt (by rw [Nat.shiftLeft_eq]; omega)]
    simp only [Nat.shiftLeft_eq]
    omega
  have hlow : (rnd.toNat * 256 + type.code) <<< 8 ||| idx = rnd.toNat * 0x10000 + type.code * 0x100 + idx := by
    rw [← Nat.shiftLeft_add_eq_or_of_lt (by omega), Nat.shiftLeft_eq]
    omega
  rw [getDevHandle, hhigh, hlow, BitVec.toNat_ofNat]
  omega

lemma getDevHandle_idx {idx : ℕ} (rnd : UInt8) (type : HdlType) (h : idx < maxHandles) :
    getHdlIdx (getDevHandle rnd type idx) = idx := by
  have hidx : idx < 64 := h
  rw [getHdlIdx, BitVec.toNat_and, getDevHandle_toNat rnd type h]
  change _ &&& (2 ^ 8 - 1) = idx
  rw [Nat.and_two_pow_sub_one_eq_mod]
  omega

lemma getDevHandle_msb {idx : ℕ} (rnd : UInt8) (type : HdlType) (h : idx < maxHandles) :
    (getDevHandle rnd type idx).msb = false := by
  have hrnd := rnd.toNat_lt
  have hcode := type.code_lt
  have hidx : idx < 64 := h
  rw [BitVec.msb_eq_false_iff_two_mul_lt, getDevHandle_toNat rnd type h]
  omega

lemma getDevHandle_type {idx : ℕ} (rnd : UInt8) (type : HdlType) (h : idx < maxHandles) :
    getHdlType (getDevHandle rnd type idx) = type.code := by
  have hcode := type.code_lt
  have hidx : idx < 64 := h
  rw [getHdlType, BitVec.sshiftRight_eq_of_msb_false (getDevHandle_msb rnd type h), BitVec.toNat_and,
    BitVec.toNat_ushiftRight, getDevHandle_toNat rnd type h]
  change _ &&& (2 ^ 4 - 1) = _
  rw [Nat.and_two_pow_sub_one_eq_mod, Nat.shiftRight_eq_div_pow]
  omega

lemma getDevHandle_pos {idx : ℕ} {type : HdlType} (rnd : UInt8) (htype : type ≠ .unset)
    (h : idx < maxHandles) : 0 < (getDevHandle rnd type idx).toInt := by
  have hcode : 0 < type.code := by
    cases type with
    | unset => exact absurd rfl htype
    | dev => decide
    | session => decide
  rw [BitVec.toInt_eq_toNat_of_msb (getDevHandle_msb rnd type h), getDevHandle_toNat rnd type h]
  omega

/-- Entry `i` is free with its bit clear, or holds a handle made for it. -/
inductive EntrySound (tbl : HdlTbl) (i : ℕ) : Prop
  | free (hbit : tbl.bitmap i = false) (hstate : (tbl.hdl i).state = .free)
  | active (rnd : UInt8) (hbit : tbl.bitmap i = true) (hstate : (tbl.hdl i).state = .active)
      (htype : (tbl.hdl i).type ≠ .unset)
      (hvalue : (tbl.hdl i).hdlValue = getDevHandle rnd (tbl.hdl i).type i)

def Inv (tbl : HdlTbl) : Prop := ∀ i < maxHandles, EntrySound tbl i

lemma inv_zeroTbl : Inv zeroTbl := fun _ _ => .free rfl rfl

lemma EntrySound.congr {tbl tbl' : HdlTbl} {i : ℕ} (h : EntrySound tbl i) (hhdl : tbl'.hdl i = tbl.hdl i)
    (hbit : tbl'.bitmap i = tbl.bitmap i) : EntrySound tbl' i := by
  cases h with
  | free hb hs => exact .free (hbit.trans hb) (by rw [hhdl, hs])
  | active rnd hb hs ht hv =>
    exact .active rnd (hbit.trans hb) (by rw [hhdl, hs]) (by rw [hhdl]; exact ht) (by rw [hhdl, hv])

lemma Inv.bitmap_iff {tbl : HdlTbl} {i : ℕ} (h : Inv tbl) (hi : i < maxHandles) :
    tbl.bitmap i = true ↔ (tbl.hdl i).state = .active := by
  cases h i hi with
  | free hb hs => simp [hb, hs]
  | active rnd hb hs => simp [hb, hs]

lemma Inv.active {tbl : HdlTbl} {i : ℕ} (h : Inv tbl) (ha : Active tbl i) :
    (tbl.hdl i).type ≠ .unset ∧ ∃ rnd, (tbl.hdl i).hdlValue = getDevHandle rnd (tbl.hdl i).type i := by
  cases h i ha.1 with
  | free hb hs => exact absurd (hs.symm.trans ha.2) (by decide)
  | active rnd hb hs ht hv => exact ⟨ht, rnd, hv⟩

lemma Inv.idx {tbl : HdlTbl} {i : ℕ} (h : Inv tbl) (ha : Active tbl i) :
    getHdlIdx (tbl.hdl i).hdlValue = i := by
  obtain ⟨-, rnd, hv⟩ := h.active ha
  rw [hv, getDevHandle_idx rnd _ ha.1]

lemma Inv.type {tbl : HdlTbl} {i : ℕ} (h : Inv tbl) (ha : Active tbl i) :
    getHdlType (tbl.hdl i).hdlValue = (tbl.hdl i).type.code := by
  obtain ⟨-, rnd, hv⟩ := h.active ha
  rw [hv, getDevHandle_type rnd _ ha.1]

lemma Inv.pos {tbl : HdlTbl} {i : ℕ} (h : Inv tbl) (ha : Active tbl i) :
    0 < (tbl.hdl i).hdlValue.toInt := by
  obtain ⟨ht, rnd, hv⟩ := h.active ha
  rw [hv]
  exact getDevHandle_pos rnd ht ha.1

lemma Inv.distinct {tbl : HdlTbl} {i j : ℕ} (h : Inv tbl) (hi : Active tbl i) (hj : Active tbl j)
    (heq : (tbl.hdl i).hdlValue = (tbl.hdl j).hdlValue) : i = j := by
  rw [← h.idx hi, heq, h.idx hj]

lemma HdlType.code_injective : Function.Injective HdlType.code := by
  intro a b h
  cases a <;> cases b <;> first | rfl | exact absurd h (by decide)

/-- What both creations write: an active entry of the type, with the new handle in it. -/
def Fills (type : HdlType) (fill : BitVec 32 → Handle → Handle) : Prop :=
  ∀ handle old, (fill handle old).hdlValue = handle ∧ (fill handle old).type = type ∧
    (fill handle old).state = .active

lemma sessionEntry_fills (priv : ℕ) : Fills .session (sessionEntry priv) := fun _ _ => ⟨rfl, rfl, rfl⟩

lemma deviceEntry_fills (data : CreateDevHdl) : Fills .dev (deviceEntry data) := fun _ _ => ⟨rfl, rfl, rfl⟩

lemma createHdl_cases (tbl : HdlTbl) (rnd : UInt8) (type : HdlType) (fill : BitVec 32 → Handle → Handle) :
    createHdl tbl rnd type fill = (.error (-Errno.ENOSR), tbl) ∨
      ∃ idx, idx < maxHandles ∧ tbl.bitmap idx = false ∧
        createHdl tbl rnd type fill = (.ok (getDevHandle rnd type idx),
          { hdl := Function.update tbl.hdl idx (fill (getDevHandle rnd type idx) (tbl.hdl idx))
            bitmap := Function.update tbl.bitmap idx true }) := by
  cases hf : Bitmap.findFirstZeroBit maxHandles tbl.bitmap with
  | none =>
    left
    simp only [createHdl, hf]
  | some idx =>
    right
    obtain ⟨hidx, hbit⟩ := Bitmap.findFirstZeroBit_some hf
    exact ⟨idx, hidx, hbit, by simp only [createHdl, hf]⟩

lemma createHdl_inv {tbl : HdlTbl} {type : HdlType} {fill : BitVec 32 → Handle → Handle} (h : Inv tbl)
    (htype : type ≠ .unset) (hfill : Fills type fill) (rnd : UInt8) :
    Inv (createHdl tbl rnd type fill).2 := by
  obtain hc | ⟨idx, hidx, -, hc⟩ := createHdl_cases tbl rnd type fill
  · rw [hc]
    exact h
  · obtain ⟨hv, ht, hs⟩ := hfill (getDevHandle rnd type idx) (tbl.hdl idx)
    rw [hc]
    intro i hi
    by_cases hne : i = idx
    · subst hne
      refine .active rnd ?_ ?_ ?_ ?_
      · simp
      · simpa using hs
      · simpa [ht] using htype
      · simp [hv, ht]
    · exact (h i hi).congr (by simp [hne]) (by simp [hne])

lemma createHdl_sound {tbl : HdlTbl} {type : HdlType} {fill : BitVec 32 → Handle → Handle} (h : Inv tbl)
    (htype : type ≠ .unset) (hfill : Fills type fill) (rnd : UInt8) :
    CreateSound tbl type (createHdl tbl rnd type fill) := by
  obtain hc | ⟨idx, hidx, hbit, hc⟩ := createHdl_cases tbl rnd type fill
  · rw [hc]
    refine ⟨fun handle he => ?_, fun e he => ?_⟩
    · cases he
    · cases he
      exact ⟨by decide, rfl⟩
  · rw [hc]
    refine ⟨fun handle he => ?_, fun e he => nomatch he⟩
    cases he
    obtain ⟨hv, ht, hs⟩ := hfill (getDevHandle rnd type idx) (tbl.hdl idx)
    have hfree : ¬Active tbl idx := by
      intro ha
      rw [(h.bitmap_iff hidx).mpr ha.2] at hbit
      cases hbit
    have hdecode := getDevHandle_idx rnd type hidx
    refine ⟨getDevHandle_pos rnd htype hidx, getDevHandle_type rnd type hidx, ?_⟩
    rw [hdecode]
    refine ⟨hfree, ⟨hidx, by simpa using hs⟩, by simpa using hv, by simpa using ht, ?_, ?_⟩
    · intro i ha heq
      have hi : i = idx := by rw [← h.idx ha, heq, hdecode]
      exact hfree (hi ▸ ha)
    · intro i hne
      simp [hne]

lemma findEntry_of_active {tbl : HdlTbl} {i : ℕ} (h : Inv tbl) (ha : Active tbl i) :
    findEntry tbl (tbl.hdl i).hdlValue = some (tbl.hdl i) := by
  have hidx := h.idx ha
  have htype := h.type ha
  obtain ⟨hset, -⟩ := h.active ha
  have hknown : ¬(HdlType.code .dev ≠ (tbl.hdl i).type.code ∧
      HdlType.code .session ≠ (tbl.hdl i).type.code) := by
    rintro ⟨hdev, hses⟩
    cases hcode : (tbl.hdl i).type with
    | unset => exact hset hcode
    | dev => exact hdev (by rw [hcode])
    | session => exact hses (by rw [hcode])
  rw [findEntry]
  simp only [hidx, htype]
  rw [if_neg (Nat.not_le.mpr ha.1), if_neg (not_not.mpr ha.2), if_neg hknown, if_neg (not_not.mpr rfl)]

lemma findEntry_active {tbl : HdlTbl} {devHdl : BitVec 32} {entry : Handle}
    (he : findEntry tbl devHdl = some entry) :
    Active tbl (getHdlIdx devHdl) ∧ (tbl.hdl (getHdlIdx devHdl)).hdlValue = devHdl := by
  simp only [findEntry] at he
  split at he
  · cases he
  · next hidx =>
    split at he
    · cases he
    · next hstate =>
      split at he
      · cases he
      · split at he
        · cases he
        · next hvalue => exact ⟨⟨Nat.not_le.mp hidx, not_not.mp hstate⟩, not_not.mp hvalue⟩

lemma findEntry_lookupSound {tbl : HdlTbl} (h : Inv tbl) (field : Handle → ℕ) (devHdl : BitVec 32) :
    LookupSound tbl field devHdl (((findEntry tbl devHdl).map field).getD 0) := by
  refine ⟨?_, ?_⟩
  · rintro i ha rfl
    rw [findEntry_of_active h ha]
    rfl
  · intro hnone
    cases hf : findEntry tbl devHdl with
    | none => rfl
    | some entry =>
      obtain ⟨ha, hv⟩ := findEntry_active hf
      exact absurd hv (hnone _ ha)

lemma camDestroyHdl_cases (tbl : HdlTbl) (devHdl : BitVec 32) (type : HdlType) :
    camDestroyHdl tbl devHdl type = (-Errno.EINVAL, tbl) ∧
        ¬(Active tbl (getHdlIdx devHdl) ∧ getHdlType devHdl = type.code ∧
          (tbl.hdl (getHdlIdx devHdl)).hdlValue = devHdl) ∨
      (Active tbl (getHdlIdx devHdl) ∧ getHdlType devHdl = type.code ∧
          (tbl.hdl (getHdlIdx devHdl)).hdlValue = devHdl) ∧
        camDestroyHdl tbl devHdl type = (0,
          { hdl := Function.update tbl.hdl (getHdlIdx devHdl)
              { tbl.hdl (getHdlIdx devHdl) with state := .free, ops := 0, priv := 0 }
            bitmap := Function.update tbl.bitmap (getHdlIdx devHdl) false }) := by
  simp only [camDestroyHdl]
  split
  · next hidx => exact .inl ⟨rfl, fun ha => Nat.not_lt.mpr hidx ha.1.1⟩
  · next hidx =>
    split
    · next hstate => exact .inl ⟨rfl, fun ha => hstate ha.1.2⟩
    · next hstate =>
      split
      · next htype => exact .inl ⟨rfl, fun ha => htype ha.2.1⟩
      · next htype =>
        split
        · next hvalue => exact .inl ⟨rfl, fun ha => hvalue ha.2.2⟩
        · next hvalue =>
          exact .inr ⟨⟨⟨Nat.not_le.mp hidx, not_not.mp hstate⟩, not_not.mp htype, not_not.mp hvalue⟩, rfl⟩

lemma camDestroyHdl_inv {tbl : HdlTbl} (h : Inv tbl) (devHdl : BitVec 32) (type : HdlType) :
    Inv (camDestroyHdl tbl devHdl type).2 := by
  obtain ⟨hd, -⟩ | ⟨-, hd⟩ := camDestroyHdl_cases tbl devHdl type
  · rw [hd]
    exact h
  · rw [hd]
    intro i hi
    by_cases hne : i = getHdlIdx devHdl
    · exact .free (by simp [hne]) (by simp [hne])
    · exact (h i hi).congr (by simp [hne]) (by simp [hne])

lemma camDestroyHdl_sound {tbl : HdlTbl} (h : Inv tbl) (devHdl : BitVec 32) (type : HdlType) :
    DestroySound tbl type devHdl (camDestroyHdl tbl devHdl type) := by
  -- an active entry with this value is the one the index names, of the type that is decoded
  have hnamed : ∀ i, Active tbl i → (tbl.hdl i).hdlValue = devHdl →
      i = getHdlIdx devHdl ∧ getHdlType devHdl = (tbl.hdl i).type.code := by
    rintro i ha rfl
    exact ⟨(h.idx ha).symm, h.type ha⟩
  obtain ⟨hd, hnot⟩ | ⟨⟨ha, ht, hv⟩, hd⟩ := camDestroyHdl_cases tbl devHdl type
  · have hrc : -Errno.EINVAL ≠ (0 : ℤ) := by decide
    rw [hd]
    refine ⟨⟨fun hz => absurd hz hrc, ?_⟩, fun _ _ => rfl, fun hz => absurd hz hrc, fun _ => rfl⟩
    rintro ⟨i, ha, hv, ht⟩
    obtain ⟨rfl, hdec⟩ := hnamed i ha hv
    exact absurd ⟨ha, by rw [hdec, ht], hv⟩ hnot
  · rw [hd]
    refine ⟨⟨fun _ => ⟨_, ha, hv, ?_⟩, fun _ => rfl⟩, ?_, ?_, fun hz => absurd rfl hz⟩
    · have hcode := h.type ha
      rw [hv, ht] at hcode
      exact (HdlType.code_injective hcode).symm
    · intro i hi
      have hne : i ≠ getHdlIdx devHdl := by
        rintro rfl
        cases hi with
        | inl hi => exact hi hv
        | inr hi => exact hi ha
      simp [hne]
    · intro _ i hi hvi
      obtain ⟨rfl, -⟩ := hnamed i hi hvi
      simp [Active]

lemma camReqMgrUtilFreeHdls_inv (tbl : HdlTbl) : Inv (camReqMgrUtilFreeHdls tbl) := by
  intro i hi
  refine .free (by simp [camReqMgrUtilFreeHdls, hi]) ?_
  cases hs : (tbl.hdl i).state with
  | free => simp [camReqMgrUtilFreeHdls, hi, hs]
  | active => simp [camReqMgrUtilFreeHdls, hi, hs]

lemma step_inv {tbl : HdlTbl} (h : Inv tbl) (op : HdlOp) : Inv (step tbl op) := by
  cases op with
  | createSession priv rnd => exact createHdl_inv h (by decide) (sessionEntry_fills priv) rnd
  | createDevice data rnd => exact createHdl_inv h (by decide) (deviceEntry_fills data) rnd
  | destroySession devHdl => exact camDestroyHdl_inv h devHdl .session
  | destroyDevice devHdl => exact camDestroyHdl_inv h devHdl .dev
  | freeHdls => exact camReqMgrUtilFreeHdls_inv tbl

lemma tableSound_of_inv {tbl : HdlTbl} (h : Inv tbl) : TableSound tbl where
  bitmap _ hi := h.bitmap_iff hi
  handles _ ha := ⟨h.pos ha, h.idx ha, h.type ha⟩
  distinct _ _ hi hj heq := h.distinct hi hj heq
  createSession priv rnd := createHdl_sound h (by decide) (sessionEntry_fills priv) rnd
  createDevice data rnd := createHdl_sound h (by decide) (deviceEntry_fills data) rnd
  priv devHdl := findEntry_lookupSound h (·.priv) devHdl
  ops devHdl := findEntry_lookupSound h (·.ops) devHdl
  destroySession devHdl := camDestroyHdl_sound h devHdl .session
  destroyDevice devHdl := camDestroyHdl_sound h devHdl .dev

/-- After every sequence of creations, destroys and bulk frees the table is
consistent, and every further call on it does what it is for. -/
theorem run_handleTableSound (ops : List HdlOp) : TableSound (Transition.run step zeroTbl ops) := by
  have hinv : Inv (Transition.run step zeroTbl ops) :=
    Transition.run_always (fun tbl op (h : Inv tbl) => step_inv h op) inv_zeroTbl ops
  exact tableSound_of_inv hinv

end CameraKernel.HandleTable
