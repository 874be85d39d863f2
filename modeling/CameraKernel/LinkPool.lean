import CameraKernel.Transition
import CameraKernel.KeyedFold

/-! The link pool of a request manager session: the preallocated `links_init[]`
against the active `links[]`. A link is named by its index in `links_init[]`; the
links of other sessions have names from `maximumLinksPerSession` on. Of a link only
the fields that reserving and unreserving look at or hand over are kept. -/
namespace CameraKernel.LinkPool

def maximumLinksPerSession : ℕ := 4

structure CoreLink where
  isUsed : Bool
  syncLink : Option ℕ
  inQ : Bool
  deriving DecidableEq, Repr

structure Session where
  linksInit : ℕ → CoreLink
  links : ℕ → Option ℕ
  numLinks : ℕ

def setLink (s : Session) (l : ℕ) (link : CoreLink) : Session :=
  { s with linksInit := Function.update s.linksInit l link }

/-- First index of the array that passes the test. -/
def firstIndex (p : ℕ → Bool) : Option ℕ := (List.range maximumLinksPerSession).find? p

/-- The part of `__cam_req_mgr_reserve_link` after the input queue is allocated. -/
def publishLink (s : Session) (l : ℕ) : Option ℕ × Session :=
  let s := setLink s l { s.linksInit l with inQ := true, syncLink := none }
  match firstIndex fun i => (s.links i).isNone with
  | none => (none, s)
  | some i => (some l, { s with
      links := Function.update s.links i (some l), numLinks := s.numLinks + 1 })

/-- `alloc` says whether the input queue can be allocated. -/
def reserveLink (s : Session) (alloc : Bool) : Option ℕ × Session :=
  if s.numLinks ≥ maximumLinksPerSession then (none, s)
  else
    match firstIndex fun i => !(s.linksInit i).isUsed with
    | none => (none, s)
    | some l =>
      let s := setLink s l ⟨true, none, false⟩
      if alloc then publishLink s l else (none, s)

/-- First half of a round of `__cam_req_mgr_unreserve_link`: the entry is emptied. -/
def releaseEntry (l : ℕ) (s : Session) (i : ℕ) : Session :=
  if s.links i = some l then
    { setLink s i { s.linksInit i with isUsed := false } with
      links := Function.update s.links i none }
  else s

/-- Second half: the sync partner forgets the link. -/
def releaseSync (l : ℕ) (s : Session) (i : ℕ) : Session :=
  match (s.linksInit l).syncLink, s.links i with
  | some p, some l' => if p = l' then setLink s l' { s.linksInit l' with syncLink := none } else s
  | _, _ => s

def unreserveRound (l : ℕ) (s : Session) (i : ℕ) : Session := releaseSync l (releaseEntry l s i) i

def unreserveLink (s : Session) (l : ℕ) : Session :=
  if s.numLinks = 0 then s
  else
    let s := (List.range maximumLinksPerSession).foldl (unreserveRound l) s
    { setLink s l { s.linksInit l with syncLink := none, inQ := false } with
      numLinks := s.numLinks - 1 }

inductive PoolOp
  | reserve (alloc : Bool)
  | unreserve (l : ℕ)
  deriving DecidableEq, Repr

def step (s : Session) : PoolOp → Session
  | .reserve alloc => (reserveLink s alloc).2
  | .unreserve l => unreserveLink s l

/-- The entries of `links[]` that reference link `l`. -/
def references (s : Session) (l : ℕ) : Finset ℕ :=
  (Finset.range maximumLinksPerSession).filter fun i => s.links i = some l

/-- The non-NULL entries of `links[]`. -/
def active (s : Session) : Finset ℕ :=
  (Finset.range maximumLinksPerSession).filter fun i => (s.links i).isSome

/-- Both arrays and the counter tell the same story, and no reserved link can be
handed out. -/
structure PoolIntegrity (s : Session) : Prop where
  used : ∀ l < maximumLinksPerSession, (s.linksInit l).isUsed = true ↔ (references s l).card = 1
  unique : ∀ l < maximumLinksPerSession, (references s l).card ≤ 1
  count : s.numLinks = (active s).card
  fresh : ∀ alloc l, (reserveLink s alloc).1 = some l → references s l = ∅

/-- Entry `i` of `links[]` is free or holds link `i`, and says whether it is used. -/
structure Aligned (s : Session) : Prop where
  links : ∀ i < maximumLinksPerSession,
    s.links i = if (s.linksInit i).isUsed then some i else none
  count : s.numLinks = (active s).card

section
variable {s s' : Session}

lemma firstIndex_some {p : ℕ → Bool} {i : ℕ} (h : firstIndex p = some i) :
    i < maximumLinksPerSession ∧ p i = true :=
  ⟨List.mem_range.mp (List.mem_of_find?_eq_some h), List.find?_some h⟩

lemma firstIndex_congr {p q : ℕ → Bool} (h : ∀ i < maximumLinksPerSession, p i = q i) :
    firstIndex p = firstIndex q := by
  apply List.find?_congr
  intro i hi
  exact h i (List.mem_range.mp hi)

lemma Aligned.references_eq (h : Aligned s) {l : ℕ} (hl : l < maximumLinksPerSession) :
    references s l = if (s.linksInit l).isUsed then {l} else ∅ := by
  ext i
  rw [references, Finset.mem_filter, Finset.mem_range]
  constructor
  · rintro ⟨hi, he⟩
    rw [h.links i hi] at he
    split_ifs at he with hu
    cases he
    simp [hu]
  · intro hm
    split_ifs at hm with hu
    · rw [Finset.mem_singleton] at hm
      subst i
      exact ⟨hl, by rw [h.links l hl, if_pos hu]⟩
    · simp at hm

lemma Aligned.free_iff (h : Aligned s) {i : ℕ} (hi : i < maximumLinksPerSession) :
    (s.links i).isNone = !(s.linksInit i).isUsed := by
  rw [h.links i hi]
  cases (s.linksInit i).isUsed <;> rfl

lemma Aligned.reserveLink_eq (h : Aligned s) {l : ℕ} (hn : s.numLinks < maximumLinksPerSession)
    (hl : firstIndex (fun i => !(s.linksInit i).isUsed) = some l) :
    reserveLink s true = (some l, { s with
      linksInit := Function.update s.linksInit l ⟨true, none, true⟩
      links := Function.update s.links l (some l)
      numLinks := s.numLinks + 1 }) := by
  have hfree : firstIndex (fun i => (s.links i).isNone) = some l := by
    rw [← hl]
    exact firstIndex_congr fun i hi => h.free_iff hi
  simp [reserveLink, hn, hl, publishLink, setLink, hfree]

lemma active_of_update {l i : ℕ} (hl : l < maximumLinksPerSession)
    (hs : s'.links = Function.update s.links l (some i)) : active s' = insert l (active s) := by
  ext j
  by_cases hj : j = l
  · subst j
    simp [active, hs, hl]
  · simp [active, hs, hj]

lemma active_of_clear {l : ℕ}
    (hs : ∀ i < maximumLinksPerSession, s'.links i = if i = l then none else s.links i) :
    active s' = (active s).erase l := by
  ext i
  simp only [active, Finset.mem_erase, Finset.mem_filter, Finset.mem_range]
  by_cases hi : i < maximumLinksPerSession
  · rw [hs i hi]
    by_cases hil : i = l <;> simp [hil]
  · simp [hi]

lemma Aligned.reserve (h : Aligned s) : Aligned (reserveLink s true).2 := by
  by_cases hn : s.numLinks < maximumLinksPerSession
  · cases hl : firstIndex fun i => !(s.linksInit i).isUsed with
    | none => simpa [reserveLink, hn, hl] using h
    | some l =>
      obtain ⟨hlt, hfree⟩ := firstIndex_some hl
      have hnone : l ∉ active s := by
        have := h.free_iff hlt
        simp only [hfree] at this
        simp [active, Option.isNone_iff_eq_none.mp this]
      rw [h.reserveLink_eq hn hl]
      refine ⟨fun i hi => ?_, ?_⟩
      · by_cases hil : i = l
        · simp [hil]
        · simpa [hil] using h.links i hi
      · rw [active_of_update hlt rfl, Finset.card_insert_of_notMem hnone, ← h.count]
  · simpa [reserveLink, Nat.not_lt.mp hn] using h

/-- The entry and the flag of an index. -/
def entry (s : Session) (i : ℕ) : Option ℕ × Bool := (s.links i, (s.linksInit i).isUsed)

lemma releaseEntry_entry (l i : ℕ) : entry (releaseEntry l s i) =
    Function.update (entry s) i (if (entry s i).1 = some l then (none, false) else entry s i) := by
  funext j
  by_cases hl : s.links i = some l
  · by_cases hj : j = i
    · simp [entry, releaseEntry, hl, hj, setLink]
    · simp [entry, releaseEntry, hl, hj, setLink]
  · by_cases hj : j = i
    · simp [entry, releaseEntry, hl, hj]
    · simp [entry, releaseEntry, hl, hj]

lemma releaseSync_entry (l i : ℕ) : entry (releaseSync l s i) = entry s := by
  have hset : ∀ p, entry (setLink s p { s.linksInit p with syncLink := none }) = entry s := by
    intro p
    funext j
    by_cases hj : j = p
    · simp [entry, setLink, hj]
    · simp [entry, setLink, hj]
  unfold releaseSync
  split
  · split_ifs
    · exact hset _
    · rfl
  · rfl

lemma unreserveRound_numLinks (l i : ℕ) : (unreserveRound l s i).numLinks = s.numLinks := by
  have hentry : (releaseEntry l s i).numLinks = s.numLinks := by
    unfold releaseEntry
    split_ifs <;> rfl
  rw [← hentry, unreserveRound]
  generalize releaseEntry l s i = t
  unfold releaseSync
  split
  · split_ifs <;> rfl
  · rfl

lemma unreserveRound_local (l n : ℕ) :
    KeyedFold.Local entry (fun _ => ([] : List Unit)) (fun s => s.numLinks = n)
      (fun r => if r.1 = some l then (none, false) else r) (fun _ _ => []) (unreserveRound l) where
  keeps _ i hs := (unreserveRound_numLinks l i).trans hs
  table _ i _ := (releaseSync_entry l i).trans (releaseEntry_entry l i)
  logged _ _ _ := rfl

lemma Aligned.unreserve (h : Aligned s) {l : ℕ} (hl : l ∈ references s l) :
    Aligned (unreserveLink s l) := by
  obtain ⟨hlt, href⟩ := Finset.mem_filter.mp hl
  rw [Finset.mem_range] at hlt
  have hact : l ∈ active s := by simp [active, hlt, href]
  have hpos : s.numLinks ≠ 0 := by
    rw [h.count]
    exact (Finset.card_pos.mpr ⟨l, hact⟩).ne'
  obtain ⟨t, ht⟩ : ∃ t, t = (List.range maximumLinksPerSession).foldl (unreserveRound l) s := ⟨_, rfl⟩
  have hloc := unreserveRound_local l s.numLinks
  have hrow := fun i => hloc.foldl_apply (List.nodup_range (n := maximumLinksPerSession)) (s := s)
    rfl i
  have hnum := hloc.foldl_keeps (List.range maximumLinksPerSession) (s := s) rfl
  rw [← ht] at hnum
  simp only [← ht] at hrow
  have hentry : ∀ i < maximumLinksPerSession, entry t i =
      if i = l then (none, false) else entry s i := by
    intro i hi
    rw [hrow i, if_pos (List.mem_range.mpr hi)]
    by_cases hil : i = l
    · simp [hil, entry, href]
    · have hne : (entry s i).1 ≠ some l := by
        rw [entry]
        rw [h.links i hi]
        split_ifs
        · simpa using hil
        · simp
      simp [hil, hne]
  have hs : unreserveLink s l = { setLink t l { t.linksInit l with syncLink := none, inQ := false } with
      numLinks := s.numLinks - 1 } := by
    simp [unreserveLink, hpos, ← ht, hnum]
  rw [hs]
  refine ⟨fun i hi => ?_, ?_⟩
  · have he := hentry i hi
    have hused : ((setLink t l { t.linksInit l with syncLink := none, inQ := false }).linksInit i).isUsed =
        (t.linksInit i).isUsed := by
      by_cases hil : i = l
      · simp [setLink, hil]
      · simp [setLink, hil]
    simp only [hused]
    by_cases hil : i = l
    · simp only [hil, if_true, entry, Prod.mk.injEq] at he ⊢
      simp [setLink, he.1, he.2]
    · simp only [hil, if_false, entry, Prod.mk.injEq] at he
      simp only [setLink, he.1, he.2]
      exact h.links i hi
  · rw [active_of_clear (s := s) (l := l), Finset.card_erase_of_mem hact, h.count]
    intro i hi
    have he := congrArg Prod.fst (hentry i hi)
    by_cases hil : i = l
    · rw [if_pos hil] at he ⊢
      exact he
    · rw [if_neg hil] at he ⊢
      exact he

lemma Aligned.integrity (h : Aligned s) : PoolIntegrity s := by
  refine ⟨fun l hl => ?_, fun l hl => ?_, h.count, fun alloc l he => ?_⟩
  · rw [h.references_eq hl]
    cases (s.linksInit l).isUsed <;> simp
  · rw [h.references_eq hl]
    cases (s.linksInit l).isUsed <;> simp
  · cases hf : firstIndex fun i => !(s.linksInit i).isUsed with
    | none =>
      simp only [reserveLink, hf] at he
      split_ifs at he
    | some l' =>
      have hl' : l' = l := by
        simp only [reserveLink, hf, publishLink] at he
        split_ifs at he
        split at he <;> simp_all
      obtain ⟨hlt, hfree⟩ := firstIndex_some hf
      subst l'
      rw [h.references_eq hlt, if_neg (by simpa using hfree)]

end

/-- A session as `kzalloc` leaves it: no link is used. -/
structure EmptyPool (s : Session) : Prop where
  unused : ∀ l, (s.linksInit l).isUsed = false
  links : ∀ i, s.links i = none
  numLinks : s.numLinks = 0

/-- The allocation of the input queue does not fail once a link is taken, and only
links the session references are unreserved while it has any. -/
def Orderly (s : Session) : PoolOp → Prop
  | .reserve alloc => alloc = true ∨ firstIndex (fun i => !(s.linksInit i).isUsed) = none
  | .unreserve l => s.numLinks = 0 ∨ references s l ≠ ∅

instance (s : Session) : ∀ op, Decidable (Orderly s op)
  | .reserve alloc => inferInstanceAs
      (Decidable (alloc = true ∨ firstIndex (fun i => !(s.linksInit i).isUsed) = none))
  | .unreserve l => inferInstanceAs (Decidable (s.numLinks = 0 ∨ references s l ≠ ∅))

lemma Aligned.step {s : Session} (h : Aligned s) (op : PoolOp) (hok : Orderly s op) :
    Aligned (step s op) := by
  cases op with
  | reserve alloc =>
    rcases hok with rfl | hnone
    · exact h.reserve
    · simp only [LinkPool.step, reserveLink, hnone]
      split_ifs <;> exact h
  | unreserve l =>
    rcases hok with hnone | href
    · simpa [LinkPool.step, unreserveLink, hnone] using h
    · obtain ⟨i, hi⟩ := Finset.nonempty_iff_ne_empty.mpr href
      obtain ⟨hlt, href⟩ := Finset.mem_filter.mp hi
      have hil : i = l := by
        rw [h.links i (Finset.mem_range.mp hlt)] at href
        split_ifs at href
        exact Option.some.inj href
      exact h.unreserve (hil ▸ hi)

/-- In every orderly run the pool stays sound. -/
theorem poolIntegrity_of_orderly (s : Session) (hs : EmptyPool s) (ops : List PoolOp)
    (h : Transition.Guarded step Orderly s ops) :
    PoolIntegrity (Transition.run step s ops) := by
  have hinit : Aligned s := by
    refine ⟨fun i _ => by rw [hs.links, hs.unused]; rfl, ?_⟩
    simp [active, hs.links, hs.numLinks]
  exact (Transition.run_invariant (fun _ op ha hok => ha.step op hok) hinit h).integrity

def emptySession : Session := ⟨fun _ => ⟨false, none, false⟩, fun _ => none, 0⟩

theorem reserveTwice_poolIntegrity :
    Transition.Guarded step Orderly emptySession [.reserve true, .reserve true, .unreserve 0] ∧
    PoolIntegrity (Transition.run step emptySession
      [.reserve true, .reserve true, .unreserve 0]) := by
  have hg : Transition.Guarded step Orderly emptySession
      [.reserve true, .reserve true, .unreserve 0] := by decide
  exact ⟨hg, poolIntegrity_of_orderly _ ⟨fun _ => rfl, fun _ => rfl, rfl⟩ _ hg⟩

/-- One failed allocation shifts the arrays; the next unreserve frees the wrong
link, which is then handed out while it is still reserved. -/
theorem failedAllocation_breaks_pool :
    let s := Transition.run step emptySession
      [.reserve false, .reserve true, .reserve true, .unreserve 2]
    ¬ PoolIntegrity s ∧ s.links 0 = some 1 ∧ (reserveLink s true).1 = some 1 := by
  intro s
  have hlink : s.links 0 = some 1 ∧ (reserveLink s true).1 = some 1 := by decide
  refine ⟨fun h => ?_, hlink⟩
  have hmem : 0 ∈ references s 1 := by simp [references, hlink.1, maximumLinksPerSession]
  rw [h.fresh true 1 hlink.2] at hmem
  simp at hmem

end CameraKernel.LinkPool
