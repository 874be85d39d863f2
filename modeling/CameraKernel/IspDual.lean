import CameraKernel.IspRegUpdate

/-! The dual configuration of an ISP packet. What it reads through the CPU mapping of a command
buffer is checked against the number of ports, and indexed by ports, planes and split sides. -/
namespace CameraKernel.IspDual
open Std.Do
open GenericBlob (Memory CpuBuf)
open PacketUtil (CmdDesc getCmdMemAddr wordAt)
open IspPrepare (ResourceNode HwMgrRes)
set_option mvcgen.warning false

def sizeofDualConfig : ℕ := 40
def offsetofStripes : ℕ := 24
def sizeofStripeConfig : ℕ := 16
def CAM_PACKET_MAX_PLANES : UInt32 := 3
def CAM_ISP_IFE_OUT_RES_BASE : UInt32 := 0x3000
def CAM_ISP_IFE_OUT_RES_MAX : UInt32 := 0x3018

/-- A call: the descriptor, what `cam_mem_get_cpu_buf` answers for its handle, the bytes of the
mapping, the core, the table of outputs with what lies behind it, and the answers of the hardware to
the update of a port on a side. -/
structure Call where
  cmdDesc : CmdDesc
  cpu : CpuBuf
  mem : Memory
  baseIdx : UInt32
  resListIspOut : ℕ → HwMgrRes
  sizeIspOut : ℕ
  stripeUpdate : ℕ → ℕ → ℤ

/-- A stripe that is looked at: its port, its side, its node's resource id and its index. -/
structure Stripe where
  port : ℕ
  split : ℕ
  resId : UInt32
  index : UInt32
  deriving DecidableEq, Repr

/-- What a call has read of the table and of the stripes, and the references it has taken and
released. -/
structure Trace where
  tableReads : List ℕ
  stripeReads : List Stripe
  gets : ℕ
  puts : ℕ
  deriving DecidableEq, Repr

abbrev DualM := EStateM ℤ Trace

namespace Call
variable (c : Call)

/-- Where the configuration starts: the offset in words. -/
def start : ℕ := c.cmdDesc.offset.toNat / 4 * 4

def numPorts : UInt32 := wordAt c.mem c.start

def remainLen : ℕ := c.cpu.bufSize - c.cmdDesc.offset.toNat

def portsPlaneIdx (split : ℕ) (resId : UInt32) : UInt32 :=
  UInt32.ofNat split * (c.numPorts * CAM_PACKET_MAX_PLANES) + (resId &&& 0xFF) * CAM_PACKET_MAX_PLANES

/-- `stripes[index].port_id`. -/
def portId (index : UInt32) : UInt32 :=
  wordAt c.mem (c.start + offsetofStripes + sizeofStripeConfig * index.toNat + 12)

def stripe (port : ℕ) (node : ResourceNode × ℕ) : Stripe :=
  ⟨port, node.2, node.1.resId, c.portsPlaneIdx node.2 node.1.resId⟩

/-- One side of an output. -/
def updateSide (i : ℕ) (node : ResourceNode × ℕ) : DualM Unit := do
  if node.1.resId < CAM_ISP_IFE_OUT_RES_BASE ∨ node.1.resId ≥ CAM_ISP_IFE_OUT_RES_MAX then return
  modify fun t => { t with stripeReads := t.stripeReads ++ [c.stripe i node] }
  if c.portId (c.stripe i node).index = 0 then return
  if c.stripeUpdate i node.2 ≠ 0 then throw (c.stripeUpdate i node.2)

/-- The sides of one output. -/
def updateSides (i : ℕ) : DualM Unit := do
  for node in (c.resListIspOut i).nodesOn c.baseIdx do
    c.updateSide i node

def updatePorts : DualM Unit := do
  for i in List.range c.numPorts.toNat do
    if i ≥ CAM_ISP_IFE_OUT_RES_MAX.toNat then throw (-Errno.EINVAL)
    modify fun t => { t with tableReads := t.tableReads ++ [i] }
    c.updateSides i

/-- The checks before the loop, and whether the buffer passes them. -/
def fitsHeader : Bool :=
  sizeofDualConfig ≤ c.cpu.bufSize && c.cmdDesc.offset.toNat < c.cpu.bufSize - sizeofDualConfig

def fitsPorts : Bool :=
  c.numPorts.toNat * sizeofStripeConfig ≤ c.remainLen - offsetofStripes

def taken : Trace := ⟨[], [], if c.cpu.rc = 0 then 1 else 0, 0⟩

def putBuf (t : Trace) : Trace := { t with puts := t.puts + 1 }

/-- `cam_isp_update_dual_config`. -/
def updateDualConfig : ℤ × Trace :=
  if getCmdMemAddr c.cpu ≠ 0 then (getCmdMemAddr c.cpu, c.taken)
  else if !c.fitsHeader then (-Errno.EINVAL, c.taken)
  else if !c.fitsPorts then (-Errno.EINVAL, c.taken)
  else match c.updatePorts c.taken with
    | .ok _ t => (0, putBuf t)
    | .error rc t => (rc, putBuf t)

/-- Where a stripe should be found, in natural numbers. -/
def place (s : Stripe) : ℕ :=
  (s.split * c.numPorts.toNat + (s.resId &&& 0xFF).toNat) * CAM_PACKET_MAX_PLANES.toNat

/-- The stripe's index has not wrapped, and the stripe ends inside the buffer. -/
def Fits (s : Stripe) : Prop :=
  s.index.toNat = c.place s ∧
    c.start + offsetofStripes + sizeofStripeConfig * (s.index.toNat + 1) ≤ c.cpu.bufSize

structure Safe : Prop where
  table : ∀ i ∈ c.updateDualConfig.2.tableReads, i < c.sizeIspOut
  stripes : ∀ s ∈ c.updateDualConfig.2.stripeReads, c.Fits s
  released : c.updateDualConfig.2.puts = c.updateDualConfig.2.gets

/-- The stripes of an output. -/
def portStripes (i : ℕ) : List Stripe :=
  (((c.resListIspOut i).nodesOn c.baseIdx).filter fun node =>
    CAM_ISP_IFE_OUT_RES_BASE ≤ node.1.resId && node.1.resId < CAM_ISP_IFE_OUT_RES_MAX).map (c.stripe i)

/-- The number of ports that are looked at when no update fails. -/
def ports : ℕ := min c.numPorts.toNat CAM_ISP_IFE_OUT_RES_MAX.toNat

def allStripes (n : ℕ) : List Stripe := (List.range n).flatMap c.portStripes

/-- The hardware refuses the update of a stripe. -/
def refused (s : Stripe) : Bool := c.portId s.index ≠ 0 && c.stripeUpdate s.port s.split ≠ 0

/-- The stripes up to the first that is refused. -/
def upToRefused : List Stripe → List Stripe
  | [] => []
  | s :: ss => s :: if c.refused s then [] else upToRefused ss

/-- The ports up to that of the first stripe that is refused. -/
def lookedAt : ℕ :=
  match (c.allStripes c.ports).find? c.refused with
  | some s => s.port + 1
  | none => c.ports

/-- The buffer goes on to behind the place of the stripe. -/
def HasRoom (s : Stripe) : Prop :=
  c.place s < 2 ^ 32 ∧
    c.start + offsetofStripes + sizeofStripeConfig * (c.place s + 1) ≤ c.cpu.bufSize

/-- No reference is taken; or the buffer passes the checks, the ports looked at are in the table, and
the buffer has room for the stripes of these ports. -/
def InBounds : Prop :=
  c.cpu.rc ≠ 0 ∨
    (getCmdMemAddr c.cpu = 0 ∧ c.fitsHeader ∧ c.fitsPorts ∧ c.lookedAt ≤ c.sizeIspOut ∧
      ∀ s ∈ c.upToRefused (c.allStripes c.ports), c.HasRoom s)

/-- The resource is an output of the IFE. -/
def isOut (node : ResourceNode × ℕ) : Bool :=
  CAM_ISP_IFE_OUT_RES_BASE ≤ node.1.resId && node.1.resId < CAM_ISP_IFE_OUT_RES_MAX

/-- The stripes of some sides of an output. -/
def sideStripes (i : ℕ) (nodes : List (ResourceNode × ℕ)) : List Stripe :=
  (nodes.filter isOut).map (c.stripe i)

lemma portStripes_eq (i : ℕ) :
    c.portStripes i = c.sideStripes i ((c.resListIspOut i).nodesOn c.baseIdx) := rfl

lemma sideStripes_append (i : ℕ) (xs ys : List (ResourceNode × ℕ)) :
    c.sideStripes i (xs ++ ys) = c.sideStripes i xs ++ c.sideStripes i ys := by
  simp [sideStripes]

/-- `t` with some more stripes read. -/
def reading (t : Trace) (ss : List Stripe) : Trace := { t with stripeReads := t.stripeReads ++ ss }

@[simp, grind =] lemma reading_nil (t : Trace) : reading t [] = t := by simp [reading]

@[simp, grind =] lemma reading_reading (t : Trace) (ss ss' : List Stripe) :
    reading (reading t ss) ss' = reading t (ss ++ ss') := by simp [reading]

/-- The stripes are read, and none is refused. -/
def Passed (t₀ t : Trace) (ss : List Stripe) : Prop := t = reading t₀ ss ∧ ∀ s ∈ ss, ¬c.refused s

/-- The stripes are read up to `s`, which is refused. -/
def Stopped (t₀ t : Trace) (ss : List Stripe) (s : Stripe) : Prop :=
  ∃ pre post, ss = pre ++ s :: post ∧ t = reading t₀ (pre ++ [s]) ∧ (∀ s ∈ pre, ¬c.refused s) ∧
    c.refused s

variable {c} {t₀ t₁ t₂ : Trace} {ss : List Stripe} {s : Stripe}

lemma Passed.nil (t : Trace) : c.Passed t t [] := ⟨(reading_nil t).symm, by simp⟩

lemma Passed.append {ss' : List Stripe} (h : c.Passed t₀ t₁ ss) (h' : c.Passed t₁ t₂ ss') :
    c.Passed t₀ t₂ (ss ++ ss') := by
  obtain ⟨rfl, hss⟩ := h
  obtain ⟨rfl, hss'⟩ := h'
  refine ⟨reading_reading t₀ ss ss', fun s hs => ?_⟩
  rcases List.mem_append.mp hs with h | h
  · exact hss s h
  · exact hss' s h

lemma Passed.stopped {ss' : List Stripe} (h : c.Passed t₀ t₁ ss) (h' : c.Stopped t₁ t₂ ss' s) :
    c.Stopped t₀ t₂ (ss ++ ss') s := by
  obtain ⟨rfl, hss⟩ := h
  obtain ⟨pre, post, rfl, rfl, hpre, hs⟩ := h'
  refine ⟨ss ++ pre, post, by simp, by simp, fun s' hs' => ?_, hs⟩
  rcases List.mem_append.mp hs' with h | h
  · exact hss s' h
  · exact hpre s' h

lemma Stopped.append (h : c.Stopped t₀ t₁ ss s) (ss' : List Stripe) :
    c.Stopped t₀ t₁ (ss ++ ss') s := by
  obtain ⟨pre, post, rfl, rest⟩ := h
  exact ⟨pre, post ++ ss', by simp, rest⟩

lemma Stopped.mem (h : c.Stopped t₀ t₁ ss s) : s ∈ ss := by
  obtain ⟨pre, post, rfl, -⟩ := h
  simp

lemma Passed.upToRefused (h : c.Passed t₀ t₁ ss) : c.upToRefused ss = ss := by
  obtain ⟨-, hss⟩ := h
  induction ss with
  | nil => rfl
  | cons s ss ih =>
    rw [List.forall_mem_cons] at hss
    rw [Call.upToRefused, if_neg hss.1, ih hss.2]

lemma Stopped.upToRefused (h : c.Stopped t₀ t₁ ss s) : t₁ = reading t₀ (c.upToRefused ss) := by
  obtain ⟨pre, post, rfl, rfl, hpre, hs⟩ := h
  congr
  induction pre with
  | nil => rw [List.nil_append, List.nil_append, Call.upToRefused, if_pos hs]
  | cons s pre ih =>
    rw [List.forall_mem_cons] at hpre
    rw [List.cons_append, List.cons_append, Call.upToRefused, if_neg hpre.1, ih hpre.2]

lemma Passed.find? (h : c.Passed t₀ t₁ ss) : ss.find? c.refused = none :=
  List.find?_eq_none.mpr h.2

lemma Stopped.find? (h : c.Stopped t₀ t₁ ss s) : ss.find? c.refused = some s := by
  obtain ⟨pre, post, rfl, rfl, hpre, hs⟩ := h
  rw [List.find?_append, List.find?_eq_none.mpr hpre, List.find?_cons_of_pos hs]
  rfl

variable (c)

lemma sideStripes_singleton (i : ℕ) (node : ResourceNode × ℕ) :
    c.sideStripes i [node] = if isOut node then [c.stripe i node] else [] := by
  cases h : isOut node <;> simp [sideStripes, h]

lemma updateSide_reads (i : ℕ) (node : ResourceNode × ℕ) (t₀ : Trace) :
    ⦃fun t => ⌜t = t₀⌝⦄
    c.updateSide i node
    ⦃post⟨fun _ t => ⌜c.Passed t₀ t (c.sideStripes i [node])⌝,
      fun _ t => ⌜∃ s, c.Stopped t₀ t (c.sideStripes i [node]) s⌝⟩⦄ := by
  mvcgen [updateSide]
  all_goals rw [sideStripes_singleton]
  case vc1.isTrue h _ ht =>
    rw [if_neg (by simp [isOut]; grind), ht]
    exact Passed.nil _
  all_goals rw [if_pos (by simp [isOut]; grind)]
  case vc3.isFalse.isFalse.isTrue ht _ hport hrc =>
    refine ⟨_, [], [], rfl, by rw [← ht]; rfl, by simp, ?_⟩
    rw [refused, decide_eq_true hport, Bool.true_and]
    exact decide_eq_true hrc
  case vc2.isFalse.isTrue ht _ hport =>
    exact ⟨by rw [← ht]; rfl, by simp [refused, hport]⟩
  case vc4.isFalse.isFalse.isFalse ht _ _ hrc =>
    exact ⟨by rw [← ht]; rfl, by simp_all [refused, stripe]⟩

lemma portStripes_port {i : ℕ} {s : Stripe} (h : s ∈ c.portStripes i) : s.port = i := by
  obtain ⟨node, -, rfl⟩ := List.mem_map.mp h
  rfl

lemma updateSides_reads (i : ℕ) (t₀ : Trace) :
    ⦃fun t => ⌜t = t₀⌝⦄
    c.updateSides i
    ⦃post⟨fun _ t => ⌜c.Passed t₀ t (c.portStripes i)⌝,
      fun _ t => ⌜∃ s, c.Stopped t₀ t (c.portStripes i) s⌝⟩⦄ := by
  have hside := updateSide_reads
  mvcgen [updateSides, hside] invariants
  · post⟨fun (⟨done, _, _⟩, _) t => ⌜c.Passed t₀ t (c.sideStripes i done)⌝,
      fun _ t => ⌜∃ s, c.Stopped t₀ t (c.portStripes i) s⌝⟩
  case vc1.step.post.success h _ _ h' =>
    rw [sideStripes_append]
    exact h.append h'
  case vc2.step.post.except.handle hnodes _ _ h _ =>
    rintro t ⟨s, h'⟩
    rw [portStripes_eq, hnodes, List.append_cons, sideStripes_append, sideStripes_append]
    exact ⟨s, (h.stopped h').append _⟩
  case vc3.pre h => exact h ▸ Passed.nil _

/-- `t` with some ports looked up. -/
def looking (t : Trace) (n : ℕ) : Trace := { t with tableReads := t.tableReads ++ List.range n }

lemma allStripes_succ (n : ℕ) : c.allStripes (n + 1) = c.allStripes n ++ c.portStripes n := by
  simp [allStripes, List.range_succ]

lemma allStripes_prefix {m n : ℕ} (h : m ≤ n) :
    ∃ ss, c.allStripes n = c.allStripes m ++ ss := by
  obtain ⟨k, rfl⟩ := Nat.exists_eq_add_of_le h
  exact ⟨_, by rw [allStripes, List.range_add, List.flatMap_append, ← allStripes]⟩

/-- What a loop that fails has read: all ports there may be, or those up to a stripe that is
refused. -/
def Failed (t₀ t : Trace) : Prop :=
  c.Passed (looking t₀ c.ports) t (c.allStripes c.ports) ∨
    ∃ s, c.Stopped (looking t₀ (s.port + 1)) t (c.allStripes c.ports) s

lemma range_eq_append_cons {n k : ℕ} {pre post : List ℕ}
    (h : List.range n = pre ++ k :: post) : k = pre.length ∧ k < n := by
  have hn : n = pre.length + (post.length + 1) := by simpa using congrArg List.length h
  have hk : (List.range n)[pre.length]? = some k := by rw [h]; simp
  rw [List.getElem?_range (by omega)] at hk
  grind

lemma Passed.look {c : Call} {t₀ t : Trace} {n : ℕ} {ss : List Stripe}
    (h : c.Passed (looking t₀ n) t ss) :
    c.Passed (looking t₀ (n + 1)) { t with tableReads := t.tableReads ++ [n] } ss := by
  obtain ⟨rfl, hss⟩ := h
  exact ⟨by simp [reading, looking, List.range_succ], hss⟩

lemma Passed.failed {c : Call} {t₀ t₁ t : Trace} {i : ℕ} {s : Stripe} (hi : i < c.ports)
    (h : c.Passed (looking t₀ (i + 1)) t₁ (c.allStripes i))
    (h' : c.Stopped t₁ t (c.portStripes i) s) : c.Failed t₀ t := by
  obtain ⟨ss, hss⟩ := c.allStripes_prefix (Nat.succ_le_of_lt hi)
  have hport : s.port = i := c.portStripes_port h'.mem
  refine Or.inr ⟨s, ?_⟩
  rw [hport, hss, allStripes_succ]
  exact (h.stopped h').append ss

lemma updatePorts_reads (t₀ : Trace) :
    ⦃fun t => ⌜t = t₀⌝⦄
    c.updatePorts
    ⦃post⟨fun _ t => ⌜c.Passed (looking t₀ c.ports) t (c.allStripes c.ports)⌝,
      fun _ t => ⌜c.Failed t₀ t⌝⟩⦄ := by
  have hsides := updateSides_reads
  mvcgen [updatePorts, hsides] invariants
  · post⟨fun (⟨done, _, _⟩, _) t => ⌜done.length ≤ c.ports ∧
        c.Passed (looking t₀ done.length) t (c.allStripes done.length)⌝,
      fun _ t => ⌜c.Failed t₀ t⌝⟩
  case vc1.step.isTrue pre i _ hi _ _ hmax _ h =>
    obtain ⟨hlen, hlt⟩ := range_eq_append_cons hi
    have hports : c.ports = pre.length := by rw [ports] at h ⊢; omega
    exact Or.inl (hports ▸ h.2)
  case vc2.step.isFalse.post.success pre i _ hi _ _ hmax _ h _ _ _ h' =>
    obtain ⟨rfl, hlt⟩ := range_eq_append_cons hi
    rw [List.length_append, List.length_singleton, allStripes_succ]
    exact ⟨by rw [ports]; omega, h.2.look.append h'⟩
  case vc3.step.isFalse.post.except.handle pre i _ hi _ _ hmax _ h _ _ =>
    rintro t ⟨s, h'⟩
    obtain ⟨rfl, hlt⟩ := range_eq_append_cons hi
    exact h.2.look.failed (by rw [ports]; omega) h'
  case vc4.pre h =>
    subst h
    exact ⟨Nat.zero_le _, by simp [looking, reading, allStripes], by simp [allStripes]⟩
  case vc5.post.success h =>
    rw [List.length_range] at h
    have hports : c.ports = c.numPorts.toNat := Nat.le_antisymm (Nat.min_le_left _ _) h.1
    exact hports ▸ h.2

/-- What the loop leaves, however it ends. -/
def looped : Trace :=
  reading (looking c.taken c.lookedAt) (c.upToRefused (c.allStripes c.ports))

lemma Passed.looped {c : Call} {t : Trace}
    (h : c.Passed (looking c.taken c.ports) t (c.allStripes c.ports)) : t = c.looped := by
  rw [Call.looped, h.upToRefused, lookedAt, h.find?]
  exact h.1

lemma Failed.looped {c : Call} {t : Trace} (h : c.Failed c.taken t) : t = c.looped := by
  rcases h with h | ⟨s, h⟩
  · exact h.looped
  · rw [Call.looped, lookedAt, h.find?]
    exact h.upToRefused

lemma updateDualConfig_looped (haddr : getCmdMemAddr c.cpu = 0) (hheader : c.fitsHeader)
    (hports : c.fitsPorts) : c.updateDualConfig.2 = putBuf c.looped := by
  have h := IspPrepare.run_of_triple (c.updatePorts_reads c.taken) rfl
  rw [updateDualConfig, if_neg (not_not_intro haddr), if_neg (by simp [hheader]),
    if_neg (by simp [hports])]
  cases hrun : c.updatePorts c.taken with
  | ok _ t =>
    rw [hrun] at h
    exact congrArg putBuf h.looped
  | error rc t =>
    rw [hrun] at h
    exact congrArg putBuf h.looped

lemma updateDualConfig_early
    (h : ¬(getCmdMemAddr c.cpu = 0 ∧ c.fitsHeader ∧ c.fitsPorts)) :
    c.updateDualConfig.2 = c.taken := by
  rw [updateDualConfig]
  split_ifs with haddr hheader hports
  · rfl
  · rfl
  · rfl
  · exact absurd ⟨not_not.mp haddr, by simpa using hheader, by simpa using hports⟩ h

lemma getCmdMemAddr_rc (h : getCmdMemAddr c.cpu = 0) : c.cpu.rc = 0 := by
  by_contra hrc
  rw [getCmdMemAddr, if_pos hrc] at h
  exact hrc h

lemma index_eq (i : ℕ) (node : ResourceNode × ℕ) :
    (c.stripe i node).index = UInt32.ofNat (c.place (c.stripe i node)) := by
  simp only [stripe, portsPlaneIdx, place, UInt32.ofNat_mul, UInt32.ofNat_add, UInt32.ofNat_toNat,
    UInt32.add_mul, UInt32.mul_assoc]

lemma fits_iff_hasRoom {s : Stripe} {n : ℕ} (hs : s ∈ c.allStripes n) : c.Fits s ↔ c.HasRoom s := by
  obtain ⟨i, -, hi⟩ := List.mem_flatMap.mp hs
  obtain ⟨node, -, rfl⟩ := List.mem_map.mp hi
  rw [Fits, HasRoom, index_eq, UInt32.toNat_ofNat']
  constructor
  · rintro ⟨hplace, hfits⟩
    rw [hplace] at hfits
    exact ⟨hplace ▸ Nat.mod_lt _ (by norm_num), hfits⟩
  · rintro ⟨hplace, hfits⟩
    rw [Nat.mod_eq_of_lt hplace]
    exact ⟨rfl, hfits⟩

lemma upToRefused_subset (ss : List Stripe) : c.upToRefused ss ⊆ ss := by
  induction ss with
  | nil => exact List.Subset.refl _
  | cons s ss ih =>
    rw [Call.upToRefused]
    split
    · simp
    · exact List.cons_subset_cons s ih

theorem safe_iff : c.Safe ↔ c.InBounds := by
  by_cases hchecks : getCmdMemAddr c.cpu = 0 ∧ c.fitsHeader ∧ c.fitsPorts
  · obtain ⟨haddr, hheader, hports⟩ := hchecks
    have hfits : ∀ s ∈ c.upToRefused (c.allStripes c.ports), (c.Fits s ↔ c.HasRoom s) :=
      fun s hs => c.fits_iff_hasRoom (c.upToRefused_subset _ hs)
    have hrc : c.cpu.rc = 0 := c.getCmdMemAddr_rc haddr
    have hloop := c.updateDualConfig_looped haddr hheader hports
    constructor
    · rintro ⟨htable, hstripes, -⟩
      rw [hloop] at htable hstripes
      refine Or.inr ⟨haddr, hheader, hports, ?_, fun s hs => (hfits s hs).mp (hstripes s ?_)⟩
      · by_contra hlt
        exact absurd (htable c.sizeIspOut (by simp [putBuf, looped, reading, looking]; omega))
          (lt_irrefl _)
      · simpa [putBuf, looped, reading, looking, taken] using hs
    · rintro (h | ⟨-, -, -, htable, hstripes⟩)
      · exact absurd hrc h
      constructor
      · rw [hloop]
        intro i hi
        have hi' : i < c.lookedAt := by
          simpa [putBuf, looped, reading, looking, taken] using hi
        exact lt_of_lt_of_le hi' htable
      · rw [hloop]
        intro s hs
        have hs' : s ∈ c.upToRefused (c.allStripes c.ports) := by
          simpa [putBuf, looped, reading, looking, taken] using hs
        exact (hfits s hs').mpr (hstripes s hs')
      · simp [hloop, putBuf, looped, reading, looking, taken, hrc]
  · have hearly := c.updateDualConfig_early hchecks
    constructor
    · rintro ⟨-, -, hreleased⟩
      refine Or.inl fun hrc => ?_
      simp [hearly, taken, hrc] at hreleased
    · rintro (hrc | ⟨haddr, hheader, hports, -⟩)
      · constructor <;> simp [hearly, taken, hrc]
      · exact absurd ⟨haddr, hheader, hports⟩ hchecks

end Call

/-- One output with a node on the right side. The configuration has one port, and the buffer room for
its one stripe and some bytes more; the right side's stripe is the fourth. -/
def rightSide : Call where
  cmdDesc := ⟨1, 0, 64, 64⟩
  cpu := ⟨0, 0x1000, 64⟩
  mem := fun p => if p = 0 then 1 else 0
  baseIdx := 1
  resListIspOut := fun _ => ⟨false, none, some ⟨0x3000, 1⟩⟩
  sizeIspOut := 1
  stripeUpdate := fun _ _ => 0

theorem rightSide_unsafe :
    rightSide.updateDualConfig = (0, ⟨[0], [⟨0, 1, 0x3000, 3⟩], 1, 1⟩) ∧ ¬rightSide.Safe := by
  have hrun : rightSide.updateDualConfig = (0, ⟨[0], [⟨0, 1, 0x3000, 3⟩], 1, 1⟩) := by
    decide +kernel
  refine ⟨hrun, fun h => ?_⟩
  have hfits := (h.stripes ⟨0, 1, 0x3000, 3⟩ (by rw [hrun]; exact List.mem_singleton_self _)).2
  exact absurd hfits (by decide)

end CameraKernel.IspDual
