import CameraKernel.Cpas

/-! The buses carry what the started clients ask for, as long as no call fails with a vote
half applied. -/
namespace CameraKernel.Cpas
open Finset

variable (soc : Soc)

def startedLevel (s : Core) (i : ℕ) : ℕ :=
  match s.client i with
  | some c => if c.started then c.ahbLevel else suspendVote
  | none => suspendVote

/-- A started client of the port counts with its vote. -/
def startedVote (s : Core) (p : ℕ) (bw : AxiVote → UInt64) (i : ℕ) : ℕ :=
  match s.client i with
  | some c => if c.started ∧ c.axiPort = some p then (bw c.axiVote).toNat else 0
  | none => 0

def startedSums (s : Core) (p : ℕ) : Sums where
  mnoc := (∑ i ∈ range soc.numClients, startedVote s p AxiVote.compressedBw i) % 2 ^ 64
  mnocAb := (∑ i ∈ range soc.numClients, startedVote s p AxiVote.compressedBwAb i) % 2 ^ 64
  camnoc := (∑ i ∈ range soc.numClients, startedVote s p AxiVote.uncompressedBw i) % 2 ^ 64

structure VotesFollow (s : Core) : Prop where
  ahb : s.ahbLevel = (range soc.numClients).sup (startedLevel s)
  mnoc : ∀ p, (s.port p).mnoc = mnocBw soc p ((startedSums soc s p).consolidate soc)
  camnoc : soc.axiCamnocBased = true →
    ∀ p, (s.port p).camnoc = camnocBw soc ((startedSums soc s p).consolidate soc)

/-- The level is the client's or the bus's own already, or the bus takes the highest one. -/
def ahbAccepted (s : Core) (i : ℕ) (c : Client) (required : ℕ) (f : Codes) : Bool :=
  let highest := highestLevel soc (s.setClient i (some { c with ahbLevel := required })) required
  c.ahbLevel = required || required = s.ahbLevel ||
    (!soc.ahbDynVote && highest < soc.ahbNumUsecases && (highest = s.ahbLevel || f.ahbBus = 0))

/-- The clock need not follow, or does. -/
def clkFollows (s : Core) (c : Client) (required : ℕ) (f : Codes) : Bool :=
  c.ahbLevel = required || required = s.ahbLevel || f.clkRate = 0

/-- The vote is the client's own already, or the buses of its port take the sums. -/
def axiAccepted (c : Client) (v : AxiVote) (f : Codes) : Bool :=
  c.axiVote = normalise v || (f.mnocBus = 0 && (!soc.axiCamnocBased || f.camnocBus = 0))

/-- No vote is recorded that a bus then refuses; a start that has recorded a vote and a
stop go through. -/
def votesLand (s : Core) : Op → Bool
  | .register _ _ | .unregister _ => true
  | .updateAhb i v f =>
    match s.client i with
    | none => true
    | some c => !c.started ||
      match requiredLevel soc i (if v.level = 0 then ⟨false, UInt64.ofNat svsVote⟩ else v) with
      | none => true
      | some required => ahbAccepted soc s i c required f
  | .updateAxi i v f =>
    match s.client i with
    | none => true
    | some c => !c.started || axiAccepted soc c
      (if v.compressedBw = 0 ∧ v.uncompressedBw = 0 ∧ v.compressedBwAb = 0 then
        ⟨defaultAxiBw, defaultAxiBw, defaultAxiBw⟩ else v) f
  | .start i ahb axi f =>
    ahb.level = 0 || (axi.compressedBw = 0 && axi.uncompressedBw = 0) ||
      match s.client i with
      | none => true
      | some c => c.started ||
        match requiredLevel soc i ahb with
        | none => true
        | some required => ahbAccepted soc s i c required f && clkFollows s c required f &&
          c.axiPort.isSome && axiAccepted soc c axi f && setCamnocAxiClkRate soc f = 0 &&
          powerUp s f = 0
  | .stop i f =>
    match s.client i with
    | none => true
    | some c => !c.started || (powerDown (s.markStopped i c) f = 0 &&
        ahbAccepted soc s i c suspendVote f && clkFollows s c suspendVote f &&
        axiAccepted soc c ⟨0, 0, 0⟩ f)

def level (s : Core) (i : ℕ) : ℕ :=
  match s.client i with
  | some c => c.ahbLevel
  | none => suspendVote

/-- The buses carry the votes on record. -/
structure Carried (s : Core) : Prop where
  range : ∀ i c, s.client i = some c → i < soc.numClients
  nodup : ∀ p, (s.port p).clientsList.Nodup
  mem : ∀ p i, i ∈ (s.port p).clientsList ↔ ∃ c, s.client i = some c ∧ c.axiPort = some p
  ahb : s.ahbLevel = (Finset.range soc.numClients).sup (level s)
  mnoc : ∀ p, (s.port p).mnoc = mnocBw soc p ((portSums s p).consolidate soc)
  camnoc : soc.axiCamnocBased = true →
    ∀ p, (s.port p).camnoc = camnocBw soc ((portSums s p).consolidate soc)

/-- A client that is not started has no vote on record, one that is has a port. -/
def Settled (i : ℕ) (c : Client) (s : Core) : Prop :=
  s.client i = some c → (c.started = false → c.ahbLevel = suspendVote ∧ c.axiVote = ⟨0, 0, 0⟩) ∧
    (c.started = true → c.axiPort.isSome = true)

structure Inv (s : Core) : Prop where
  carried : Carried soc s
  settled : ∀ i c, Settled i c s

variable {soc : Soc} {s : Core} {i p : ℕ} {c c' : Client}

@[simp] lemma setClient_client (s : Core) (i : ℕ) (c : Option Client) :
    (s.setClient i c).client = Function.update s.client i c := rfl

@[simp] lemma setClient_port (s : Core) (i : ℕ) (c : Option Client) : (s.setClient i c).port = s.port := rfl

@[simp] lemma setClient_ahbLevel (s : Core) (i : ℕ) (c : Option Client) :
    (s.setClient i c).ahbLevel = s.ahbLevel := rfl

@[simp] lemma setPort_client (s : Core) (p : ℕ) (a : AxiPort) : (s.setPort p a).client = s.client := rfl

@[simp] lemma setPort_port (s : Core) (p : ℕ) (a : AxiPort) :
    (s.setPort p a).port = Function.update s.port p a := rfl

@[simp] lemma setPort_ahbLevel (s : Core) (p : ℕ) (a : AxiPort) :
    (s.setPort p a).ahbLevel = s.ahbLevel := rfl

lemma highestLevel_eq (s : Core) (required : ℕ) :
    highestLevel soc s required = max required ((Finset.range soc.numClients).sup (level s)) := by
  rw [highestLevel]
  induction soc.numClients with
  | zero => simp
  | succ n ih =>
    rw [List.range_succ, List.foldl_append, ih, Finset.range_add_one, Finset.sup_insert]
    simp only [List.foldl_cons, List.foldl_nil, level]
    cases s.client n with
    | none => simp [suspendVote]
    | some c =>
      simp only
      split <;> omega

lemma vote_of_client (h : s.client i = some c) : s.vote i = c.axiVote := by
  simp [Core.vote, h]

lemma sum_port (h : Carried soc s) (hset : ∀ i c, Settled i c s) (p : ℕ) (bw : AxiVote → UInt64)
    (hbw : bw ⟨0, 0, 0⟩ = 0) :
    ((s.port p).clientsList.map fun i => (bw (s.vote i)).toNat).sum =
      ∑ i ∈ Finset.range soc.numClients, startedVote s p bw i := by
  rw [← List.sum_toFinset _ (h.nodup p)]
  have hsub : (s.port p).clientsList.toFinset ⊆ Finset.range soc.numClients := by
    intro i hi
    obtain ⟨c, hc, -⟩ := (h.mem p i).mp (List.mem_toFinset.mp hi)
    exact Finset.mem_range.mpr (h.range i c hc)
  rw [← Finset.sum_subset hsub]
  · refine Finset.sum_congr rfl fun i hi => ?_
    obtain ⟨c, hc, hp⟩ := (h.mem p i).mp (List.mem_toFinset.mp hi)
    rw [vote_of_client hc, startedVote, hc]
    simp only [hp, and_true]
    cases hs : c.started with
    | true => simp
    | false =>
      rw [((hset i c hc).1 hs).2, hbw]
      simp
  · intro i _ hi
    rw [startedVote]
    cases hc : s.client i with
    | none => rfl
    | some c =>
      have hp : c.axiPort ≠ some p := fun hp =>
        hi (List.mem_toFinset.mpr ((h.mem p i).mpr ⟨c, hc, hp⟩))
      simp [hp]

lemma Inv.portSums (h : Inv soc s) (p : ℕ) : portSums s p = startedSums soc s p := by
  rw [Cpas.portSums, startedSums, sum_port h.carried h.settled p _ rfl, sum_port h.carried h.settled p _ rfl,
    sum_port h.carried h.settled p _ rfl]

lemma Inv.votesFollow (h : Inv soc s) : VotesFollow soc s := by
  refine ⟨?_, fun p => ?_, fun hb p => ?_⟩
  · rw [h.carried.ahb]
    refine Finset.sup_congr rfl fun i _ => ?_
    rw [level, startedLevel]
    cases hc : s.client i with
    | none => rfl
    | some c =>
      cases hs : c.started with
      | true => simp [hs]
      | false => simp [hs, ((h.settled i c hc).1 hs).1]
  · rw [← h.portSums p, h.carried.mnoc]
  · rw [← h.portSums p, h.carried.camnoc hb]

/-! ### One call -/

variable {t : Core} {f : Codes}

lemma Carried.range_update (h : Carried soc s) (hc : s.client i = some c) :
    ∀ j d, Function.update s.client i (some c') j = some d → j < soc.numClients := by
  intro j d hd
  by_cases hj : j = i
  · exact hj ▸ h.range i c hc
  · rw [Function.update_of_ne hj] at hd
    exact h.range j d hd

lemma Carried.mem_update (h : Carried soc s) (hc : s.client i = some c)
    (hport : c'.axiPort = c.axiPort) (p j : ℕ) : j ∈ (s.port p).clientsList ↔
      ∃ d, Function.update s.client i (some c') j = some d ∧ d.axiPort = some p := by
  by_cases hj : j = i
  · subst hj
    rw [h.mem p j, hc, Function.update_self]
    simp [hport]
  · rw [Function.update_of_ne hj]
    exact h.mem p j

lemma level_update (s : Core) (i : ℕ) (c : Client) :
    level (s.setClient i (some c)) = Function.update (level s) i c.ahbLevel := by
  funext j
  by_cases hj : j = i
  · subst hj
    simp [level]
  · simp [level, hj]

lemma vote_update (s : Core) (i : ℕ) (c : Client) :
    (s.setClient i (some c)).vote = Function.update s.vote i c.axiVote := by
  funext j
  by_cases hj : j = i
  · subst hj
    simp [Core.vote]
  · simp [Core.vote, hj]

lemma portSums_congr (hport : (t.port p).clientsList = (s.port p).clientsList)
    (hvote : ∀ j ∈ (s.port p).clientsList, t.vote j = s.vote j) : portSums t p = portSums s p := by
  have hmap : ∀ bw : AxiVote → UInt64, (t.port p).clientsList.map (fun i => (bw (t.vote i)).toNat) =
      (s.port p).clientsList.map fun i => (bw (s.vote i)).toNat := by
    intro bw
    rw [hport]
    exact List.map_congr_left fun j hj => by rw [hvote j hj]
  rw [portSums, portSums, hmap, hmap, hmap]

lemma Carried.restart (h : Carried soc s) (hc : s.client i = some c) (b : Bool) (k : ℕ) :
    Carried soc { s.setClient i (some { c with started := b }) with streamonClients := k } := by
  have hvote : ∀ j, (s.setClient i (some { c with started := b })).vote j = s.vote j := by
    intro j
    rw [vote_update, ← vote_of_client hc, Function.update_eq_self]
  have hsums : ∀ p, Cpas.portSums { s.setClient i (some { c with started := b }) with
      streamonClients := k } p = Cpas.portSums s p := fun p => portSums_congr rfl fun j _ => hvote j
  refine ⟨h.range_update hc, h.nodup, h.mem_update hc rfl, ?_, fun p => ?_, fun hb p => ?_⟩
  · have hlevel : level (s.setClient i (some { c with started := b })) = level s := by
      rw [level_update]
      have : c.ahbLevel = level s i := by rw [level, hc]
      rw [this, Function.update_eq_self]
    exact h.ahb.trans (by rw [← hlevel]; rfl)
  · rw [hsums p, ← h.mnoc p]
    rfl
  · rw [hsums p, ← h.camnoc hb p]
    rfl

lemma Carried.setLevel (h : Carried soc s) (hc : s.client i = some c) {required lvl : ℕ}
    (hahb : lvl = (Finset.range soc.numClients).sup
      (level (s.setClient i (some { c with ahbLevel := required })))) :
    Carried soc { s.setClient i (some { c with ahbLevel := required }) with ahbLevel := lvl } := by
  have hvote : ∀ j, (s.setClient i (some { c with ahbLevel := required })).vote j = s.vote j := by
    intro j
    rw [vote_update, ← vote_of_client hc, Function.update_eq_self]
  have hsums : ∀ p, Cpas.portSums { s.setClient i (some { c with ahbLevel := required }) with
      ahbLevel := lvl } p = Cpas.portSums s p := fun p => portSums_congr rfl fun j _ => hvote j
  refine ⟨h.range_update hc, h.nodup, h.mem_update hc rfl, hahb, fun p => ?_, fun hb p => ?_⟩
  · rw [hsums p, ← h.mnoc p]
    rfl
  · rw [hsums p, ← h.camnoc hb p]
    rfl

lemma applyClientAhbVote_spec (h : Carried soc s) (hc : s.client i = some c) {v : AhbVote}
    {required : ℕ} (hreq : requiredLevel soc i v = some required)
    (hacc : ahbAccepted soc s i c required f = true) :
    Carried soc (applyClientAhbVote soc s i c v f).2.2 ∧
      (applyClientAhbVote soc s i c v f).2.2.client =
        Function.update s.client i (some { c with ahbLevel := required }) ∧
      (applyClientAhbVote soc s i c v f).2.2.streamonClients = s.streamonClients ∧
      (clkFollows s c required f = true → (applyClientAhbVote soc s i c v f).1 = 0) := by
  have hi := h.range i c hc
  have hsup : ∀ lvl, (Finset.range soc.numClients).sup
      (level (s.setClient i (some { c with ahbLevel := lvl }))) =
      max lvl (((Finset.range soc.numClients).erase i).sup (level s)) := by
    intro lvl
    rw [level_update, ← Finset.insert_erase (Finset.mem_range.mpr hi), Finset.sup_insert,
      Function.update_self, Finset.erase_insert (Finset.notMem_erase _ _)]
    congr 1
    refine Finset.sup_congr rfl fun j hj => ?_
    rw [Function.update_of_ne (Finset.ne_of_mem_erase hj)]
  have hold : s.ahbLevel = max c.ahbLevel (((Finset.range soc.numClients).erase i).sup (level s)) := by
    rw [h.ahb, ← hsup c.ahbLevel]
    congr 1
    rw [level_update]
    have : c.ahbLevel = level s i := by rw [level, hc]
    rw [this, Function.update_eq_self]
  simp only [applyClientAhbVote, hreq]
  by_cases hsame : c.ahbLevel = required
  · rw [if_pos hsame]
    subst hsame
    exact ⟨h, by rw [← hc, Function.update_eq_self], rfl, fun _ => rfl⟩
  rw [if_neg hsame]
  simp only [ahbAccepted, clkFollows, hsame, decide_false, Bool.false_or] at hacc ⊢
  have hhigh : highestLevel soc (s.setClient i (some { c with ahbLevel := required })) required = _ :=
    highestLevel_eq _ required
  rw [hsup] at hhigh
  have hset : ∀ lvl, lvl = _ → Carried soc { s.setClient i (some { c with ahbLevel := required }) with
      ahbLevel := lvl } := fun lvl => h.setLevel hc
  rw [hsup] at hset
  obtain ⟨u, hu⟩ : ∃ u, u = s.setClient i (some { c with ahbLevel := required }) := ⟨_, rfl⟩
  have huahb : u.ahbLevel = s.ahbLevel := by rw [hu]; rfl
  have huclient : u.client = Function.update s.client i (some { c with ahbLevel := required }) := by
    rw [hu]
    rfl
  have hustream : u.streamonClients = s.streamonClients := by rw [hu]; rfl
  rw [← hu] at hacc hhigh hset ⊢
  rw [← huahb] at hold hacc ⊢
  by_cases hcurr : required = u.ahbLevel
  · rw [if_pos hcurr]
    exact ⟨hset _ (by omega), huclient, hustream, fun _ => rfl⟩
  rw [if_neg hcurr]
  simp only [hcurr, decide_false, Bool.false_or, Bool.and_eq_true, Bool.not_eq_true', Bool.or_eq_true,
    decide_eq_true_eq] at hacc ⊢
  obtain ⟨⟨hdyn, hcases⟩, hbus⟩ := hacc
  have hvote : voteBusClientLevel soc u (highestLevel soc u required) f.ahbBus =
      (0, { u with ahbLevel := highestLevel soc u required }) := by
    rw [voteBusClientLevel, if_neg (by simp [hdyn]), if_neg (by omega)]
    by_cases heq : highestLevel soc u required = u.ahbLevel
    · rw [if_pos heq, heq]
    · rw [if_neg heq, if_neg (by simpa using hbus.resolve_left heq)]
  have hcarried : Carried soc { u with ahbLevel := highestLevel soc u required } :=
    hset _ (by omega)
  rw [hvote]
  by_cases hclk : f.clkRate = 0
  · simp only [hclk, ne_eq, not_true_eq_false, if_false]
    exact ⟨hcarried, huclient, hustream, fun _ => trivial⟩
  · simp only [ne_eq, not_true_eq_false, if_false, hclk, not_false_eq_true, if_true]
    exact ⟨hcarried, huclient, hustream, False.elim⟩

lemma Carried.setVote (h : Carried soc s) (hc : s.client i = some c) (hp : c.axiPort = some p)
    {v : AxiVote} {mnoc camnoc : Bw}
    (hmnoc : mnoc = mnocBw soc p ((portSums (s.setClient i (some { c with axiVote := v })) p).consolidate soc))
    (hcamnoc : soc.axiCamnocBased = true → camnoc =
      camnocBw soc ((portSums (s.setClient i (some { c with axiVote := v })) p).consolidate soc)) :
    Carried soc ((s.setClient i (some { c with axiVote := v })).setPort p
      ⟨(s.port p).clientsList, mnoc, camnoc⟩) := by
  have hlist : ∀ q, (Function.update s.port p ⟨(s.port p).clientsList, mnoc, camnoc⟩ q).clientsList =
      (s.port q).clientsList := by
    intro q
    by_cases hq : q = p
    · subst hq
      simp
    · simp [hq]
  have hsums : ∀ q, Cpas.portSums ((s.setClient i (some { c with axiVote := v })).setPort p
      ⟨(s.port p).clientsList, mnoc, camnoc⟩) q =
      Cpas.portSums (s.setClient i (some { c with axiVote := v })) q :=
    fun q => portSums_congr (hlist q) fun _ _ => rfl
  -- A port the client is not on keeps its sums.
  have hother : ∀ q, q ≠ p → Cpas.portSums (s.setClient i (some { c with axiVote := v })) q =
      Cpas.portSums s q := by
    intro q hq
    refine portSums_congr rfl fun j hj => ?_
    rw [vote_update, Function.update_of_ne]
    rintro rfl
    obtain ⟨d, hd, hdq⟩ := (h.mem q j).mp hj
    rw [hc] at hd
    cases hd
    exact hq (Option.some.inj (hdq.symm.trans hp))
  refine ⟨h.range_update hc, fun q => ?_, fun q j => ?_, ?_, fun q => ?_, fun hb q => ?_⟩
  · rw [setPort_port, setClient_port, hlist q]
    exact h.nodup q
  · rw [setPort_port, setClient_port, hlist q]
    exact h.mem_update hc (show ({ c with axiVote := v } : Client).axiPort = c.axiPort from rfl) q j
  · have hlevel : level (s.setClient i (some { c with axiVote := v })) = level s := by
      rw [level_update]
      have : c.ahbLevel = level s i := by rw [level, hc]
      rw [this, Function.update_eq_self]
    exact h.ahb.trans (by rw [← hlevel]; rfl)
  · rw [hsums q, setPort_port]
    by_cases hq : q = p
    · subst hq
      rw [Function.update_self, hmnoc]
    · rw [Function.update_of_ne hq, hother q hq, ← h.mnoc q]
      rfl
  · rw [hsums q, setPort_port]
    by_cases hq : q = p
    · subst hq
      rw [Function.update_self, hcamnoc hb]
    · rw [Function.update_of_ne hq, hother q hq, ← h.camnoc hb q]
      rfl

lemma applyClientAxiVote_spec (h : Carried soc s) (hc : s.client i = some c) {v : AxiVote}
    (hp : c.axiPort = some p) (hacc : axiAccepted soc c v f = true) :
    Carried soc (applyClientAxiVote soc s i c v f).2 ∧
      (applyClientAxiVote soc s i c v f).2.client =
        Function.update s.client i (some { c with axiVote := normalise v }) ∧
      (applyClientAxiVote soc s i c v f).2.streamonClients = s.streamonClients ∧
      (setCamnocAxiClkRate soc f = 0 → (applyClientAxiVote soc s i c v f).1 = 0) := by
  unfold applyClientAxiVote
  split
  · next hnone =>
    rw [hp] at hnone
    cases hnone
  next q hq =>
  obtain rfl : p = q := Option.some.inj (hp.symm.trans hq)
  dsimp only
  by_cases hsame : c.axiVote = normalise v
  · rw [if_pos hsame, ← hsame]
    exact ⟨h, by rw [← hc, Function.update_eq_self], rfl, fun _ => rfl⟩
  simp only [axiAccepted, hsame, decide_false, Bool.false_or, Bool.and_eq_true, decide_eq_true_eq,
    Bool.or_eq_true, Bool.not_eq_true'] at hacc
  obtain ⟨hmnoc, hcamnoc⟩ := hacc
  rw [if_neg hsame, if_neg (by simp [hmnoc])]
  have hset := fun mnoc camnoc => @Carried.setVote soc s i p c h hc hp (normalise v) mnoc camnoc
  obtain ⟨u, hu⟩ : ∃ u, u = s.setClient i (some { c with axiVote := normalise v }) := ⟨_, rfl⟩
  have huport : u.port = s.port := by rw [hu]; rfl
  have huclient : u.client = Function.update s.client i (some { c with axiVote := normalise v }) := by
    rw [hu]
    rfl
  have hustream : u.streamonClients = s.streamonClients := by rw [hu]; rfl
  rw [← hu] at hset ⊢
  rw [← huport] at hset
  cases hb : soc.axiCamnocBased with
  | false =>
    rw [if_neg (by simp)]
    exact ⟨hset _ _ rfl (by simp [hb]), huclient, hustream, id⟩
  | true =>
    have hcam : f.camnocBus = 0 := by simpa [hb] using hcamnoc
    rw [if_pos rfl, if_neg (by simp [hcam])]
    refine ⟨?_, huclient, hustream, id⟩
    simp only [Function.update_self, Core.setPort, Function.update_idem]
    exact hset _ _ rfl fun _ => rfl

lemma requiredLevel_suspend (i : ℕ) :
    requiredLevel soc i ⟨false, UInt64.ofNat suspendVote⟩ = some suspendVote := rfl

lemma normalise_zero : normalise ⟨0, 0, 0⟩ = ⟨0, 0, 0⟩ := by decide

lemma Inv.port (h : Inv soc s) (hc : s.client i = some c) (hs : c.started = true) :
    ∃ p, c.axiPort = some p := Option.isSome_iff_exists.mp ((h.settled i c hc).2 hs)

lemma Inv.settled_update (h : Inv soc s) {t : Core}
    (hclient : t.client = Function.update s.client i (some c'))
    (hidle : c'.started = false → c'.ahbLevel = suspendVote ∧ c'.axiVote = ⟨0, 0, 0⟩)
    (hport : c'.started = true → c'.axiPort.isSome = true) : ∀ j d, Settled j d t := by
  intro j d hd
  rw [hclient] at hd
  by_cases hj : j = i
  · subst hj
    rw [Function.update_self] at hd
    cases hd
    exact ⟨hidle, hport⟩
  · rw [Function.update_of_ne hj] at hd
    exact h.settled j d hd

lemma sum_exchange {l m : List ℕ} (hl : l.Nodup) (hm : m.Nodup) {g : ℕ → ℕ} (hi : g i = 0)
    (h : ∀ j, j ≠ i → (j ∈ l ↔ j ∈ m)) : (l.map g).sum = (m.map g).sum := by
  rw [← List.sum_toFinset _ hl, ← List.sum_toFinset _ hm, ← Finset.sum_erase _ hi,
    ← Finset.sum_erase m.toFinset hi]
  refine Finset.sum_congr (Finset.ext fun j => ?_) fun _ _ => rfl
  simp only [Finset.mem_erase, List.mem_toFinset]
  exact and_congr_right fun hj => h j hj

lemma Inv.exchange (h : Inv soc s) {t : Core} {c : Option Client}
    (hclient : t.client = Function.update s.client i c) (hrange : ∀ d, c = some d → i < soc.numClients)
    (hold : ∀ d, s.client i = some d → d.ahbLevel = suspendVote ∧ d.axiVote = ⟨0, 0, 0⟩)
    (hnew : ∀ d, c = some d → d.started = false ∧ d.ahbLevel = suspendVote ∧ d.axiVote = ⟨0, 0, 0⟩)
    (hahb : t.ahbLevel = s.ahbLevel) (hnodup : ∀ p, (t.port p).clientsList.Nodup)
    (hmem : ∀ p, i ∈ (t.port p).clientsList ↔ ∃ d, c = some d ∧ d.axiPort = some p)
    (hother : ∀ p j, j ≠ i → (j ∈ (t.port p).clientsList ↔ j ∈ (s.port p).clientsList))
    (hmnoc : ∀ p, (t.port p).mnoc = (s.port p).mnoc)
    (hcamnoc : ∀ p, (t.port p).camnoc = (s.port p).camnoc) : Inv soc t := by
  have hvote0 : s.vote i = ⟨0, 0, 0⟩ := by
    rw [Core.vote]
    cases hc : s.client i with
    | none => rfl
    | some d => exact (hold d hc).2
  have hlevel : level t = level s := by
    funext j
    rw [level, level, hclient]
    by_cases hj : j = i
    · subst hj
      rw [Function.update_self]
      cases hd : c with
      | none =>
        cases hc : s.client j with
        | none => rfl
        | some d => exact (hold d hc).1.symm
      | some d =>
        cases hc : s.client j with
        | none => exact (hnew d hd).2.1
        | some d' => exact (hnew d hd).2.1.trans (hold d' hc).1.symm
    · rw [Function.update_of_ne hj]
  have hvote : t.vote = s.vote := by
    funext j
    by_cases hj : j = i
    · subst hj
      rw [hvote0, Core.vote, hclient, Function.update_self]
      cases hd : c with
      | none => rfl
      | some d => exact (hnew d hd).2.2
    · rw [Core.vote, hclient, Function.update_of_ne hj, Core.vote]
  have hsums : ∀ p, Cpas.portSums t p = Cpas.portSums s p := by
    intro p
    have hsum : ∀ bw : AxiVote → UInt64, bw ⟨0, 0, 0⟩ = 0 →
        ((t.port p).clientsList.map fun j => (bw (s.vote j)).toNat).sum =
          ((s.port p).clientsList.map fun j => (bw (s.vote j)).toNat).sum := fun bw hbw =>
      sum_exchange (hnodup p) (h.carried.nodup p) (i := i) (by simp [hvote0, hbw]) (hother p)
    rw [Cpas.portSums, Cpas.portSums, hvote, hsum _ rfl, hsum _ rfl, hsum _ rfl]
  refine ⟨⟨fun j d hd => ?_, hnodup, fun p j => ?_, ?_, fun p => ?_, fun hb p => ?_⟩, fun j d hd => ?_⟩
  · rw [hclient] at hd
    by_cases hj : j = i
    · subst hj
      rw [Function.update_self] at hd
      exact hrange d hd
    · rw [Function.update_of_ne hj] at hd
      exact h.carried.range j d hd
  · rw [hclient]
    by_cases hj : j = i
    · subst hj
      rw [Function.update_self]
      exact hmem p
    · rw [Function.update_of_ne hj]
      exact (hother p j hj).trans (h.carried.mem p j)
  · rw [hahb, hlevel]
    exact h.carried.ahb
  · rw [hmnoc, hsums]
    exact h.carried.mnoc p
  · rw [hcamnoc, hsums]
    exact h.carried.camnoc hb p
  · rw [hclient] at hd
    by_cases hj : j = i
    · subst hj
      rw [Function.update_self] at hd
      obtain ⟨hs, hrest⟩ := hnew d hd
      exact ⟨fun _ => hrest, fun hstarted => by rw [hs] at hstarted; cases hstarted⟩
    · rw [Function.update_of_ne hj] at hd
      exact h.settled j d hd

lemma relist_clientsList (s : Core) (p q : ℕ) (l : List ℕ) :
    (Function.update s.port p { s.port p with clientsList := l } q).clientsList =
      if q = p then l else (s.port q).clientsList := by
  by_cases hq : q = p
  · simp [hq]
  · simp [hq]

lemma relist_mnoc (s : Core) (p q : ℕ) (l : List ℕ) :
    (Function.update s.port p { s.port p with clientsList := l } q).mnoc = (s.port q).mnoc := by
  by_cases hq : q = p
  · simp [hq]
  · simp [hq]

lemma relist_camnoc (s : Core) (p q : ℕ) (l : List ℕ) :
    (Function.update s.port p { s.port p with clientsList := l } q).camnoc = (s.port q).camnoc := by
  by_cases hq : q = p
  · simp [hq]
  · simp [hq]

lemma registerClient_inv (h : Inv soc s) (i : ℕ) (alloc : Bool) :
    Inv soc (registerClient soc s i alloc).2 := by
  unfold registerClient
  split_ifs with hi hreg halloc
  · exact h
  · exact h
  · exact h
  have hc : s.client i = none := by simpa using hreg
  have hnot : ∀ p, i ∉ (s.port p).clientsList := by
    intro p hp
    obtain ⟨d, hd, -⟩ := (h.carried.mem p i).mp hp
    rw [hc] at hd
    cases hd
  dsimp only
  split
  · next hport =>
    refine h.exchange (i := i) (c := some ⟨false, 0, ⟨0, 0, 0⟩, soc.clientPort i⟩) rfl
      (fun _ _ => Nat.lt_of_not_le hi) (by simp [hc]) (by rintro _ ⟨⟩; exact ⟨rfl, rfl, rfl⟩) rfl
      h.carried.nodup ?_ (fun _ _ _ => Iff.rfl) (fun _ => rfl) (fun _ => rfl)
    intro p
    simpa [hport] using hnot p
  · next p hport =>
    refine h.exchange (i := i) (c := some ⟨false, 0, ⟨0, 0, 0⟩, soc.clientPort i⟩) rfl
      (fun _ _ => Nat.lt_of_not_le hi) (by simp [hc]) (by rintro _ ⟨⟩; exact ⟨rfl, rfl, rfl⟩) rfl
      ?_ ?_ ?_ (fun q => relist_mnoc _ p q _) (fun q => relist_camnoc _ p q _)
    · intro q
      rw [setPort_port, relist_clientsList]
      split_ifs with hq
      · exact List.nodup_append.mpr ⟨h.carried.nodup p, List.nodup_singleton i, by
          rintro a ha b hb rfl
          exact hnot p (List.mem_singleton.mp hb ▸ ha)⟩
      · exact h.carried.nodup q
    · intro q
      rw [setPort_port, relist_clientsList]
      split_ifs with hq
      · simp [hq, hport]
      · simpa [hnot q, hport, eq_comm] using hq
    · intro q j hj
      rw [setPort_port, relist_clientsList]
      split_ifs with hq
      · simp [hj, hq]
      · rfl

lemma unregisterClient_inv (h : Inv soc s) (i : ℕ) : Inv soc (unregisterClient s i).2 := by
  unfold unregisterClient
  split
  · exact h
  next c hc =>
  split_ifs with hs
  · exact h
  have hidle := (h.settled i c hc).1 (by simpa using hs)
  have hold : ∀ d, s.client i = some d → d.ahbLevel = suspendVote ∧ d.axiVote = ⟨0, 0, 0⟩ := by
    rw [hc]
    rintro _ ⟨⟩
    exact hidle
  have hmem : ∀ q, i ∈ (s.port q).clientsList ↔ c.axiPort = some q := by
    intro q
    rw [h.carried.mem, hc]
    simp
  dsimp only
  split
  · next hport =>
    refine h.exchange (i := i) (c := none) rfl (by simp) hold (by simp) rfl h.carried.nodup ?_
      (fun _ _ _ => Iff.rfl) (fun _ => rfl) (fun _ => rfl)
    intro q
    simpa [hport] using (hmem q).not
  · next p hport =>
    refine h.exchange (i := i) (c := none) rfl (by simp) hold (by simp) rfl ?_ ?_ ?_
      (fun q => relist_mnoc _ p q _) (fun q => relist_camnoc _ p q _)
    · intro q
      rw [setPort_port, relist_clientsList]
      split_ifs with hq
      · exact (h.carried.nodup p).erase i
      · exact h.carried.nodup q
    · intro q
      rw [setPort_port, relist_clientsList]
      split_ifs with hq
      · simp [(h.carried.nodup p).mem_erase_iff]
      · simpa [hport, eq_comm] using (hmem q).not.mpr (by simpa [hport, eq_comm] using hq)
    · intro q j hj
      rw [setPort_port, relist_clientsList]
      split_ifs with hq
      · rw [setClient_port, (h.carried.nodup p).mem_erase_iff, hq]
        exact and_iff_right hj
      · rfl

lemma updateAhbVote_inv (h : Inv soc s) {v : AhbVote}
    (hok : votesLand soc s (.updateAhb i v f) = true) : Inv soc (updateAhbVote soc s i v f).2 := by
  simp only [updateAhbVote]
  simp only [votesLand] at hok
  generalize (if v.level = 0 then ⟨false, UInt64.ofNat svsVote⟩ else v : AhbVote) = v at hok ⊢
  cases hc : s.client i with
  | none => exact h
  | some c =>
    rw [hc] at hok
    simp only at hok ⊢
    cases hs : c.started with
    | false => exact h
    | true =>
      simp only [if_true]
      cases hreq : requiredLevel soc i v with
      | none => simpa [applyClientAhbVote, hreq] using h
      | some required =>
        simp only [hs, hreq, Bool.not_true, Bool.false_or] at hok
        obtain ⟨hcarried, hclient, -, -⟩ := applyClientAhbVote_spec h.carried hc hreq hok
        refine ⟨hcarried, h.settled_update hclient ?_ fun _ => (h.settled i c hc).2 hs⟩
        simp [hs]

lemma updateAxiVote_inv (h : Inv soc s) {v : AxiVote}
    (hok : votesLand soc s (.updateAxi i v f) = true) : Inv soc (updateAxiVote soc s i v f).2 := by
  simp only [updateAxiVote]
  simp only [votesLand] at hok
  generalize (if v.compressedBw = 0 ∧ v.uncompressedBw = 0 ∧ v.compressedBwAb = 0 then
    ⟨defaultAxiBw, defaultAxiBw, defaultAxiBw⟩ else v : AxiVote) = v at hok ⊢
  cases hc : s.client i with
  | none => exact h
  | some c =>
    rw [hc] at hok
    simp only at hok ⊢
    cases hs : c.started with
    | false => exact h
    | true =>
      obtain ⟨p, hp⟩ := h.port hc hs
      simp only [hs, Bool.not_true, Bool.false_or] at hok
      obtain ⟨hcarried, hclient, -, -⟩ := applyClientAxiVote_spec h.carried hc hp hok
      simp only [if_true]
      refine ⟨hcarried, h.settled_update hclient ?_ fun _ => (h.settled i c hc).2 hs⟩
      simp [hs]

lemma start_inv (h : Inv soc s) {ahb : AhbVote} {axi : AxiVote}
    (hok : votesLand soc s (.start i ahb axi f) = true) : Inv soc (start soc s i ahb axi f).2 := by
  simp only [start]
  simp only [votesLand] at hok
  by_cases hbad : ahb.level = 0 ∨ (axi.compressedBw = 0 ∧ axi.uncompressedBw = 0)
  · rw [if_pos hbad]
    exact h
  rw [if_neg hbad]
  have hgiven : (decide (ahb.level = 0) || (decide (axi.compressedBw = 0) &&
      decide (axi.uncompressedBw = 0))) = false := by
    rw [← Bool.not_eq_true]
    simpa using hbad
  rw [hgiven, Bool.false_or] at hok
  cases hc : s.client i with
  | none => exact h
  | some c =>
    rw [hc] at hok
    simp only at hok ⊢
    cases hs : c.started with
    | true => exact h
    | false =>
      rw [if_neg (by simp)]
      cases hreq : requiredLevel soc i ahb with
      | none => simpa [applyClientAhbVote, hreq, Errno.EINVAL] using h
      | some required =>
        simp only [hs, hreq, Bool.false_or, Bool.and_eq_true, decide_eq_true_eq] at hok
        obtain ⟨⟨⟨⟨⟨hahb, hclk⟩, hport⟩, haxi⟩, hclkAxi⟩, hpower⟩ := hok
        obtain ⟨hcarried, hclient, hstream, hcode⟩ := applyClientAhbVote_spec h.carried hc hreq hahb
        revert hcarried hclient hstream hcode
        obtain ⟨rc, app, t⟩ := applyClientAhbVote soc s i c ahb f
        intro hcarried hclient hstream hcode
        simp only at hcarried hclient hstream hcode ⊢
        rw [if_neg (by simp [hcode hclk])]
        have hct : t.client i = some { c with ahbLevel := required } := by
          rw [hclient, Function.update_self]
        rw [hct]
        simp only
        obtain ⟨p, hp⟩ := Option.isSome_iff_exists.mp hport
        obtain ⟨hcarried', hclient', hstream', hcode'⟩ := applyClientAxiVote_spec (f := f) (v := axi)
          hcarried hct (p := p) hp haxi
        revert hcarried' hclient' hstream' hcode'
        obtain ⟨rc', u⟩ := applyClientAxiVote soc t i { c with ahbLevel := required } axi f
        intro hcarried' hclient' hstream' hcode'
        simp only at hcarried' hclient' hstream' hcode' ⊢
        rw [if_neg (by simp [hcode' hclkAxi])]
        have hpower' : powerUp u f = 0 := by
          rw [powerUp, hstream', hstream]
          exact hpower
        rw [if_neg (by simp [hpower'])]
        have hcu : u.client i = some { c with ahbLevel := required, axiVote := normalise axi } := by
          rw [hclient', Function.update_self]
        rw [hcu]
        have hpool : (u.markStarted i { c with ahbLevel := required, axiVote := normalise axi }).client =
            Function.update s.client i
              (some { c with ahbLevel := required, axiVote := normalise axi, started := true }) := by
          simp only [Core.markStarted, setClient_client, hclient', hclient, Function.update_idem]
        exact ⟨hcarried'.restart hcu true _, h.settled_update hpool (by simp) fun _ => hport⟩

lemma stop_inv (h : Inv soc s) (hok : votesLand soc s (.stop i f) = true) :
    Inv soc (stop soc s i f).2 := by
  simp only [stop]
  simp only [votesLand] at hok
  cases hc : s.client i with
  | none => exact h
  | some c =>
    rw [hc] at hok
    simp only at hok ⊢
    cases hs : c.started with
    | false => exact h
    | true =>
      simp only [hs, Bool.not_true, Bool.false_or, Bool.and_eq_true, decide_eq_true_eq] at hok
      obtain ⟨⟨⟨hpower, hahb⟩, hclk⟩, haxi⟩ := hok
      rw [if_pos rfl, if_neg (by simp [hpower])]
      have hmarked : Carried soc (s.markStopped i c) := h.carried.restart hc false _
      have hcm : (s.markStopped i c).client i = some { c with started := false } := by
        simp [Core.markStopped]
      have hahb' : ahbAccepted soc (s.markStopped i c) i { c with started := false } suspendVote f = true := by
        have hhigh : highestLevel soc ((s.markStopped i c).setClient i
            (some { c with started := false, ahbLevel := suspendVote })) suspendVote =
            highestLevel soc (s.setClient i (some { c with ahbLevel := suspendVote })) suspendVote := by
          have hlevel : ∀ j, level ((s.markStopped i c).setClient i
              (some { c with started := false, ahbLevel := suspendVote })) j =
              level (s.setClient i (some { c with ahbLevel := suspendVote })) j := by
            intro j
            rw [level_update, level_update]
            by_cases hj : j = i
            · simp [hj]
            · simp [hj, Core.markStopped, level]
          simp only [highestLevel_eq, funext hlevel]
        rw [ahbAccepted, hhigh]
        exact hahb
      obtain ⟨hcarried, hclient, -, hcode⟩ :=
        applyClientAhbVote_spec hmarked hcm (requiredLevel_suspend i) hahb'
      revert hcarried hclient hcode
      obtain ⟨rc, app, t⟩ := applyClientAhbVote soc (s.markStopped i c) i { c with started := false }
        ⟨false, UInt64.ofNat suspendVote⟩ f
      intro hcarried hclient hcode
      simp only at hcarried hclient hcode ⊢
      rw [if_neg (by simp [hcode hclk])]
      have hct : t.client i = some { c with started := false, ahbLevel := suspendVote } := by
        rw [hclient, Function.update_self]
      rw [hct]
      simp only
      obtain ⟨p, hp⟩ := h.port hc hs
      obtain ⟨hcarried', hclient', -, -⟩ := applyClientAxiVote_spec (f := f) hcarried hct hp haxi
      have hidle (u : Core) (hu : u.client = Function.update s.client i
          (some { c with started := false, ahbLevel := suspendVote, axiVote := ⟨0, 0, 0⟩ })) :
          ∀ j d, Settled j d u := h.settled_update hu (fun _ => ⟨rfl, rfl⟩) (by simp)
      refine ⟨hcarried', hidle _ ?_⟩
      rw [hclient', hclient, normalise_zero]
      simp [Core.markStopped]

lemma step_inv (h : Inv soc s) (op : Op) (hok : votesLand soc s op = true) : Inv soc (step soc s op) := by
  cases op with
  | register i alloc => exact registerClient_inv h i alloc
  | unregister i => exact unregisterClient_inv h i
  | start i ahb axi f => exact start_inv h hok
  | updateAhb i v f => exact updateAhbVote_inv h hok
  | updateAxi i v f => exact updateAxiVote_inv h hok
  | stop i f => exact stop_inv h hok

lemma init_inv (soc : Soc) : Inv soc init := by
  have hsums : ∀ p, portSums init p = ⟨0, 0, 0⟩ := fun _ => rfl
  have hzero : (⟨0, 0, 0⟩ : Sums).consolidate soc = ⟨0, 0, 0⟩ := by simp [Sums.consolidate]
  have hclient : ∀ i c, init.client i ≠ some c := fun _ _ => nofun
  refine ⟨⟨fun i c hc => (hclient i c hc).elim, fun _ => List.nodup_nil, fun p i => ?_, ?_, fun p => ?_,
    fun _ p => ?_⟩, fun i c hc => (hclient i c hc).elim⟩
  · simp [init]
  · exact (Finset.sup_eq_bot_iff _ _).mpr (fun _ _ => rfl) |>.symm
  · rw [hsums, hzero, mnocBw]
    split_ifs <;> rfl
  · rw [hsums, hzero]
    rfl

theorem run_votesFollow (soc : Soc) (ops : List Op)
    (h : Transition.Guarded (step soc) (fun s op => votesLand soc s op = true) init ops) :
    VotesFollow soc (Transition.run (step soc) init ops) := by
  have hstep : ∀ s op, Inv soc s → votesLand soc s op = true → Inv soc (step soc s op) :=
    fun _ op hs hok => step_inv hs op hok
  exact (Transition.run_invariant hstep (init_inv soc) h).votesFollow

/-- Two clients of one port, without a camnoc bus. -/
def plainSoc : Soc where
  numClients := 2
  clientPort := fun _ => some 0
  ibBwVotingNeeded := fun _ => false
  axiCamnocBased := false
  controlCamnocAxiClk := false
  minCamnocIbBw := 3000000000
  ahbDynVote := false
  ahbNumUsecases := 8
  hasDev := fun _ => true
  oppCorner := fun _ _ => none
  vddAhb := []
  numClients_le := by decide

def noFailure : Codes := ⟨0, 0, 0, 0, 0, 0, 0, 0, 0⟩

/-- The second client starts while the first one streams, and outlives it. -/
def handOver : List Op :=
  [.register 0 true, .register 1 true, .start 0 ⟨false, 3⟩ ⟨5000000, 5000000, 0⟩ noFailure,
    .start 1 ⟨false, 5⟩ ⟨0, 0, 1024⟩ noFailure, .updateAhb 0 ⟨false, 7⟩ noFailure, .stop 0 noFailure]

theorem run_votesFollow_handOver : VotesFollow plainSoc (Transition.run (step plainSoc) init handOver) :=
  run_votesFollow plainSoc handOver (by decide +kernel)

/-- The AHB bus refuses a vote, and the same vote again is taken for the one on record. -/
def refusedThenRepeated : List Op :=
  [.register 0 true, .start 0 ⟨false, 3⟩ ⟨2048, 2048, 2048⟩ noFailure,
    .updateAhb 0 ⟨false, 7⟩ { noFailure with ahbBus := -Errno.EINVAL }]

theorem repeated_vote_not_followed :
    (call plainSoc (Transition.run (step plainSoc) init refusedThenRepeated)
      (.updateAhb 0 ⟨false, 7⟩ noFailure)).1 = 0 ∧
    ¬ VotesFollow plainSoc (Transition.run (step plainSoc) init
      (refusedThenRepeated ++ [Op.updateAhb 0 ⟨false, 7⟩ noFailure])) :=
  ⟨by decide +kernel, fun h => absurd h.ahb (by decide +kernel)⟩

end CameraKernel.Cpas
