import CameraKernel.Smmu
import CameraKernel.Transition

/-! The page fault handlers of a context bank. Clients register a handler under a token, and the bank
counts its entries in `cb_count`. -/
namespace CameraKernel.PageFault
open Smmu

/-- `CAM_SMMU_CB_MAX` is 8. -/
abbrev Entry := Fin 8

/-- The handle of a context bank and its table of handlers. -/
structure Bank where
  handle : BitVec 32
  isSecure : Bool
  secureCount : ℕ
  handler : Entry → Option ℕ
  token : Entry → Option ℕ
  cbCount : ℤ

/-- `cam_smmu_reset_iommu_table`. -/
def resetIommuTable (isSecure : Bool) : Bank :=
  ⟨handleInit, isSecure, 0, fun _ => none, fun _ => none, 0⟩

def Bank.put (b : Bank) (i : Entry) (handler token : Option ℕ) : Bank :=
  { b with handler := Function.update b.handler i handler, token := Function.update b.token i token }

/-- The handle names bank `idx` and is the one the bank gave out. -/
def Bank.accepts (b : Bank) (idx : ℕ) (handle : BitVec 32) : Bool :=
  handle ≠ handleInit && getSmmuTableIdx handle = idx && b.handle = handle

/-- The first free entry among the first `cb_count`. -/
def Bank.freeEntry (b : Bank) : Option Entry :=
  (List.finRange 8).find? fun i => (i : ℤ) < b.cbCount && b.token i = none

def Bank.entryOf (b : Bank) (token : ℕ) : Option Entry :=
  (List.finRange 8).find? fun i => b.token i = some token

/-- The loop over the table that both functions remove a token with. -/
def removeToken (token : ℕ) (b : Bank) : Bank :=
  match b.entryOf token with
  | none => b
  | some i => { b.put i none none with cbCount := b.cbCount - 1 }

/-- `cam_smmu_set_client_page_fault_handler`. A null handler removes the token. -/
def setClientPageFaultHandler (idx : ℕ) (handle : BitVec 32) (handlerCb token : Option ℕ) (b : Bank) :
    Bank :=
  match token with
  | none => b
  | some token =>
    if !b.accepts idx handle then b
    else
      match handlerCb with
      | none => removeToken token b
      | some handlerCb =>
        if b.cbCount = 8 then b
        else
          let b := { b with cbCount := b.cbCount + 1 }
          match b.freeEntry with
          | none => b
          | some i => b.put i (some handlerCb) (some token)

/-- `cam_smmu_unset_client_page_fault_handler`. -/
def unsetClientPageFaultHandler (idx : ℕ) (handle : BitVec 32) (token : Option ℕ) (b : Bank) : Bank :=
  match token with
  | none => b
  | some token => if !b.accepts idx handle then b else removeToken token b

/-- `cam_smmu_create_add_handle_in_table` at the bank of that name; `created` is the handle that
`cam_smmu_create_iommu_handle` made. -/
def createAddHandleInTable (created : BitVec 32) (b : Bank) : BitVec 32 × Bank :=
  let secureCount := if b.isSecure then b.secureCount + 1 else b.secureCount
  if b.handle ≠ handleInit then (b.handle, { b with secureCount := secureCount })
  else (created, { b with handle := created, cbCount := 0, secureCount := secureCount })

/-- `cam_smmu_destroy_handle`, but for the cleaning of the buffer lists. -/
def destroyHandle (idx : ℕ) (handle : BitVec 32) (b : Bank) : ℤ × Bank :=
  if !b.accepts idx handle then (-Errno.EINVAL, b)
  else if b.isSecure then
    if b.secureCount = 0 then (-Errno.EPERM, b)
    else
      let b := { b with secureCount := b.secureCount - 1 }
      if b.secureCount = 0 then (0, { b with cbCount := 0, handle := handleInit }) else (0, b)
  else (0, { b with cbCount := 0, handle := handleInit })

inductive Call
  | get (created : BitVec 32)
  | set (handle : BitVec 32) (handlerCb token : Option ℕ)
  | unset (handle : BitVec 32) (token : Option ℕ)
  | destroy (handle : BitVec 32)
  deriving DecidableEq, Repr

def step (idx : ℕ) (b : Bank) : Call → Bank
  | .get created => (createAddHandleInTable created b).2
  | .set handle handlerCb token => setClientPageFaultHandler idx handle handlerCb token b
  | .unset handle token => unsetClientPageFaultHandler idx handle token b
  | .destroy handle => (destroyHandle idx handle b).2

def Bank.registered (b : Bank) : Finset Entry := Finset.univ.filter fun i => b.token i ≠ none

@[simp] lemma mem_registered {b : Bank} {i : Entry} : i ∈ b.registered ↔ b.token i ≠ none := by
  simp [Bank.registered]

lemma registered_put_some (b : Bank) (i : Entry) (handler : Option ℕ) (token : ℕ) :
    (b.put i handler (some token)).registered = insert i b.registered := by
  ext j
  by_cases hj : j = i
  · simp [Bank.put, hj]
  · simp [Bank.put, hj]

lemma registered_put_none (b : Bank) (i : Entry) :
    (b.put i none none).registered = b.registered.erase i := by
  ext j
  by_cases hj : j = i
  · simp [Bank.put, hj]
  · simp [Bank.put, hj]

lemma freeEntry_some {b : Bank} {i : Entry} (h : b.freeEntry = some i) : b.token i = none := by
  have hp := List.find?_some h
  simp only [Bool.and_eq_true, decide_eq_true_eq] at hp
  exact hp.2

lemma entryOf_some {b : Bank} {i : Entry} {token : ℕ} (h : b.entryOf token = some i) :
    b.token i = some token := by
  have hp := List.find?_some h
  exact of_decide_eq_true hp

lemma freeEntry_isSome {b : Bank} {n : ℕ} (hn : n < 8) (hcount : b.cbCount = n + 1)
    (hcard : b.registered.card = n) : ∃ i, b.freeEntry = some i := by
  cases hfind : b.freeEntry with
  | some i => exact ⟨i, rfl⟩
  | none =>
    exfalso
    have hfull : Finset.univ.filter (fun i : Entry => (i : ℕ) < n + 1) ⊆ b.registered := by
      intro i hi
      have hnone := List.find?_eq_none.mp hfind i (List.mem_finRange i)
      have hlt := (Finset.mem_filter.mp hi).2
      simp only [Bool.and_eq_true, decide_eq_true_eq, not_and] at hnone
      exact mem_registered.mpr (hnone (by omega))
    have hle := Finset.card_le_card hfull
    rw [Fin.card_filter_val_lt, hcard] at hle
    omega

/-- `cb_count` is the number of registered tokens. -/
def Exact (b : Bank) : Prop := b.cbCount = b.registered.card

/-- A registration made while an entry is free is stored. -/
def Stores (idx : ℕ) (b : Bank) : Call → Prop
  | .set handle (some handlerCb) (some token) =>
    b.accepts idx handle → b.registered.card < 8 →
      ∃ i, b.token i = none ∧
        (step idx b (.set handle (some handlerCb) (some token))).token i = some token ∧
        (step idx b (.set handle (some handlerCb) (some token))).handler i = some handlerCb
  | _ => True

/-- Destroying the handle resets the bank. -/
def Resets (idx : ℕ) (b : Bank) (handle : BitVec 32) : Prop :=
  b.accepts idx handle ∧ (b.isSecure → b.secureCount = 1)

/-- A call that resets the bank is made with no token registered. -/
def Clean (idx : ℕ) (b : Bank) : Call → Prop
  | .destroy handle => Resets idx b handle → b.registered = ∅
  | _ => True

/-- A bank without a handle has no tokens. -/
structure Inv (b : Bank) : Prop where
  exact : Exact b
  idle : b.handle = handleInit → b.registered = ∅

lemma Bank.accepts_handle {b : Bank} {idx : ℕ} {handle : BitVec 32} (h : b.accepts idx handle) :
    b.handle ≠ handleInit := by
  simp only [accepts, Bool.and_eq_true, decide_eq_true_eq] at h
  rw [h.2]
  exact h.1.1

lemma Inv.removeToken {b : Bank} (h : Inv b) (hb : b.handle ≠ handleInit) (token : ℕ) :
    Inv (removeToken token b) := by
  cases hfind : b.entryOf token with
  | none =>
    simp only [PageFault.removeToken, hfind]
    exact h
  | some i =>
    have hmem : i ∈ b.registered := by simp [entryOf_some hfind]
    have hpos := Finset.card_pos.mpr ⟨i, hmem⟩
    have hcard : (b.put i none none).registered.card = b.registered.card - 1 := by
      rw [registered_put_none, Finset.card_erase_of_mem hmem]
    have hexact := h.exact
    simp only [PageFault.removeToken, hfind]
    refine ⟨?_, fun hinit => absurd hinit hb⟩
    unfold Exact at hexact ⊢
    change b.cbCount - 1 = ((b.put i none none).registered.card : ℤ)
    omega

lemma Inv.store {b : Bank} (h : Inv b) (hb : b.handle ≠ handleInit) {i : Entry}
    (hfree : b.token i = none) (handlerCb token : ℕ) :
    Inv { b.put i (some handlerCb) (some token) with cbCount := b.cbCount + 1 } := by
  have hnew : i ∉ b.registered := by simp [hfree]
  have hcard : (b.put i (some handlerCb) (some token)).registered.card = b.registered.card + 1 := by
    rw [registered_put_some, Finset.card_insert_of_notMem hnew]
  have hexact := h.exact
  refine ⟨?_, fun hinit => absurd hinit hb⟩
  unfold Exact at hexact ⊢
  change b.cbCount + 1 = ((b.put i (some handlerCb) (some token)).registered.card : ℤ)
  omega

lemma Inv.set_stored {b : Bank} (h : Inv b) {idx : ℕ} {handle : BitVec 32}
    (haccept : b.accepts idx handle) (hroom : b.registered.card < 8) (handlerCb token : ℕ) :
    ∃ i, b.token i = none ∧
      setClientPageFaultHandler idx handle (some handlerCb) (some token) b =
        { b.put i (some handlerCb) (some token) with cbCount := b.cbCount + 1 } := by
  have hexact : b.cbCount = b.registered.card := h.exact
  have hlt : b.cbCount ≠ 8 := by omega
  obtain ⟨i, hi⟩ := @freeEntry_isSome { b with cbCount := b.cbCount + 1 } _ hroom
    (by simp only; omega) rfl
  have hfree : b.token i = none := @freeEntry_some { b with cbCount := b.cbCount + 1 } i hi
  refine ⟨i, hfree, ?_⟩
  simp only [setClientPageFaultHandler, haccept, Bool.not_true, Bool.false_eq_true, if_false,
    if_neg hlt, hi]
  rfl

lemma Inv.set_full {b : Bank} (h : Inv b) (idx : ℕ) (handle : BitVec 32)
    (hfull : ¬ b.registered.card < 8) (handlerCb token : ℕ) :
    setClientPageFaultHandler idx handle (some handlerCb) (some token) b = b := by
  have hexact : b.cbCount = b.registered.card := h.exact
  have hle : b.registered.card ≤ 8 := by
    simpa using Finset.card_le_univ b.registered
  have hcount : b.cbCount = 8 := by omega
  simp only [setClientPageFaultHandler, if_pos hcount, ite_self]

lemma Inv.set {b : Bank} (h : Inv b) (idx : ℕ) (handle : BitVec 32)
    (handlerCb token : Option ℕ) :
    Inv (setClientPageFaultHandler idx handle handlerCb token b) := by
  cases token with
  | none => exact h
  | some token =>
    by_cases haccept : b.accepts idx handle
    · cases handlerCb with
      | none =>
        simp only [setClientPageFaultHandler, haccept]
        exact h.removeToken (Bank.accepts_handle haccept) token
      | some handlerCb =>
        by_cases hroom : b.registered.card < 8
        · obtain ⟨i, hfree, hset⟩ := h.set_stored haccept hroom handlerCb token
          rw [hset]
          exact h.store (Bank.accepts_handle haccept) hfree handlerCb token
        · rw [h.set_full idx handle hroom]
          exact h
    · simp only [setClientPageFaultHandler, haccept]
      exact h

lemma Inv.unset {b : Bank} (h : Inv b) (idx : ℕ) (handle : BitVec 32) (token : Option ℕ) :
    Inv (unsetClientPageFaultHandler idx handle token b) := by
  cases token with
  | none => exact h
  | some token =>
    by_cases haccept : b.accepts idx handle
    · simp only [unsetClientPageFaultHandler, haccept]
      exact h.removeToken (Bank.accepts_handle haccept) token
    · simp only [unsetClientPageFaultHandler, haccept]
      exact h

lemma Inv.stores {b : Bank} (h : Inv b) (idx : ℕ) (c : Call) : Stores idx b c := by
  unfold Stores
  split
  case h_1 handle handlerCb token =>
    intro haccept hroom
    obtain ⟨i, hfree, hset⟩ := h.set_stored haccept hroom handlerCb token
    refine ⟨i, hfree, ?_, ?_⟩
    · rw [step, hset]
      simp [Bank.put]
    · rw [step, hset]
      simp [Bank.put]
  case h_2 => trivial

lemma Inv.get {b : Bank} (h : Inv b) (created : BitVec 32) :
    Inv (createAddHandleInTable created b).2 := by
  unfold createAddHandleInTable
  by_cases hb : b.handle = handleInit
  · have hempty := h.idle hb
    simp only [hb, ne_eq, not_true, if_false]
    refine ⟨?_, fun _ => hempty⟩
    change (0 : ℤ) = (b.registered.card : ℤ)
    rw [hempty, Finset.card_empty, Nat.cast_zero]
  · simp only [ne_eq, hb, not_false_eq_true, if_true]
    exact ⟨h.exact, h.idle⟩

lemma destroyHandle_resets {idx : ℕ} {b : Bank} {handle : BitVec 32} (h : Resets idx b handle) :
    (destroyHandle idx handle b).2.registered = b.registered ∧
      (destroyHandle idx handle b).2.cbCount = 0 := by
  obtain ⟨haccept, hlast⟩ := h
  cases hsecure : b.isSecure with
  | false =>
    simp only [destroyHandle, haccept, hsecure]
    exact ⟨rfl, rfl⟩
  | true =>
    have hone := hlast hsecure
    simp only [destroyHandle, haccept, hsecure, hone]
    exact ⟨rfl, rfl⟩

lemma destroyHandle_keeps {idx : ℕ} {b : Bank} {handle : BitVec 32} (h : ¬ Resets idx b handle) :
    ∃ n, (destroyHandle idx handle b).2 = { b with secureCount := n } := by
  by_cases haccept : b.accepts idx handle
  · have hlast : b.isSecure = true ∧ b.secureCount ≠ 1 := by
      by_contra hnot
      exact h ⟨haccept, fun hsecure => by_contra fun hne => hnot ⟨hsecure, hne⟩⟩
    by_cases hzero : b.secureCount = 0
    · refine ⟨b.secureCount, ?_⟩
      have heq : destroyHandle idx handle b = (-Errno.EPERM, b) := by
        simp only [destroyHandle, haccept, hlast.1, if_pos hzero, Bool.not_true, Bool.false_eq_true,
          if_false, if_true]
      rw [heq]
    · have hmore : b.secureCount - 1 ≠ 0 := by omega
      refine ⟨b.secureCount - 1, ?_⟩
      simp only [destroyHandle, haccept, hlast.1, hzero, hmore]
      rfl
  · refine ⟨b.secureCount, ?_⟩
    simp only [destroyHandle, haccept]
    rfl

lemma Inv.destroy {b : Bank} (h : Inv b) {idx : ℕ} {handle : BitVec 32}
    (hclean : Resets idx b handle → b.registered = ∅) : Inv (destroyHandle idx handle b).2 := by
  by_cases hresets : Resets idx b handle
  · obtain ⟨hregistered, hcount⟩ := destroyHandle_resets hresets
    have hempty := hregistered.trans (hclean hresets)
    refine ⟨?_, fun _ => hempty⟩
    rw [Exact, hcount, hempty, Finset.card_empty, Nat.cast_zero]
  · obtain ⟨n, hn⟩ := destroyHandle_keeps hresets
    rw [hn]
    exact ⟨h.exact, h.idle⟩

lemma Inv.step {idx : ℕ} {b : Bank} (h : Inv b) {c : Call} (hclean : Clean idx b c) :
    Inv (step idx b c) := by
  cases c with
  | get created => exact h.get created
  | set handle handlerCb token => exact h.set idx handle handlerCb token
  | unset handle token => exact h.unset idx handle token
  | destroy handle => exact h.destroy hclean

lemma Inv.exact_step_iff {idx : ℕ} {b : Bank} (h : Inv b) (c : Call) :
    Exact (PageFault.step idx b c) ∧ Stores idx b c ↔ Clean idx b c := by
  constructor
  · rintro ⟨hexact, -⟩
    cases c with
    | get created => trivial
    | set handle handlerCb token => trivial
    | unset handle token => trivial
    | destroy handle =>
      intro hresets
      obtain ⟨hregistered, hcount⟩ := destroyHandle_resets hresets
      change (destroyHandle idx handle b).2.cbCount =
        ((destroyHandle idx handle b).2.registered.card : ℤ) at hexact
      rw [hcount, hregistered] at hexact
      exact Finset.card_eq_zero.mp (by omega)
  · intro hclean
    exact ⟨(h.step hclean).exact, h.stores idx c⟩

lemma inv_reset (isSecure : Bool) : Inv (resetIommuTable isSecure) :=
  ⟨rfl, fun _ => rfl⟩

/-- In a run from the reset table, the count is exact and registrations are stored at every call
exactly when the handle is always given back without registered tokens. -/
theorem run_exact_iff (idx : ℕ) (isSecure : Bool) (calls : List Call) :
    Transition.Guarded (step idx) (fun b c => Exact (step idx b c) ∧ Stores idx b c)
        (resetIommuTable isSecure) calls ↔
      Transition.Guarded (step idx) (Clean idx) (resetIommuTable isSecure) calls := by
  refine Transition.guarded_iff (fun b c h => h.exact_step_iff c)
    (fun b c h hclean => h.step hclean) (inv_reset isSecure)

/-- A second client's handler is lost when the first left a token behind: with its entry still
taken, only that entry is searched. -/
theorem not_run_exact : ¬ ∀ idx isSecure calls,
    Transition.Guarded (step idx) (fun b c => Exact (step idx b c) ∧ Stores idx b c)
      (resetIommuTable isSecure) calls := by
  intro hall
  obtain ⟨-, -, -, -, ⟨-, hstores⟩, -⟩ :=
    hall 0 false [.get 5, .set 5 (some 7) (some 1), .destroy 5, .get 5, .set 5 (some 7) (some 2)]
  obtain ⟨i, hfree, hstored, -⟩ := hstores (by decide +kernel) (by decide +kernel)
  revert i
  decide +kernel

end CameraKernel.PageFault
