import CameraKernel.IspPlaces

/-! Completion of requests. No object of an ISP context is lost, and a request is freed only
after each of its output fences was passed to `cam_sync_signal` once. -/
namespace CameraKernel.Isp

/-- The id is reset exactly when the fence was passed. -/
def FenceMapOut.Sound (f : FenceMapOut) : Prop := f.passed = if f.syncId = -1 then 1 else 0

def Req.Sound (r : Req) : Prop := ∀ f ∈ r.fenceMapOut, f.Sound

def Req.signalled (r : Req) : ℕ := r.fenceMapOut.countP fun f => f.syncId == -1

/-- Every acknowledgement that is counted has reset a fence. -/
structure Req.Steady (r : Req) : Prop where
  sound : r.Sound
  acked : r.numAcked ≤ r.signalled

/-- Under recovery acknowledgements are counted that reset no fence, until all are there. -/
structure Req.Running (r : Req) : Prop where
  sound : r.Sound
  acked : r.numAcked ≤ r.signalled ∨ r.recovering = true ∧ r.numAcked ≠ r.fenceMapOut.length

def Req.Complete (r : Req) : Prop := ∀ f ∈ r.fenceMapOut, f.passed = 1

def Req.Done (r : Req) : Prop := r.accepted = true → r.Complete

lemma Req.Steady.running {r : Req} (h : r.Steady) : r.Running := ⟨h.sound, .inl h.acked⟩

lemma Req.Complete.done {r : Req} (h : r.Complete) : r.Done := fun _ => h

lemma Req.signalled_le (r : Req) : r.signalled ≤ r.fenceMapOut.length := List.countP_le_length

lemma Req.Steady.complete {r : Req} (h : r.Steady) (hacked : r.numAcked = r.fenceMapOut.length) :
    r.Complete := by
  have hall : r.fenceMapOut.countP (fun f => f.syncId == -1) = r.fenceMapOut.length :=
    le_antisymm r.signalled_le (hacked ▸ h.acked)
  intro f hf
  have hreset : f.syncId = -1 := by simpa using List.countP_eq_length.mp hall f hf
  have hpassed := h.sound f hf
  rwa [FenceMapOut.Sound, if_pos hreset] at hpassed

lemma Req.Running.steady {r : Req} (h : r.Running) (hrecovering : r.recovering = false) : r.Steady := by
  refine ⟨h.sound, ?_⟩
  rcases h.acked with hle | ⟨htrue, -⟩
  · exact hle
  · rw [hrecovering] at htrue
    cases htrue

lemma Req.Running.complete {r : Req} (h : r.Running) (hacked : r.numAcked = r.fenceMapOut.length) :
    r.Complete := by
  rcases h.acked with hle | ⟨-, hne⟩
  · exact Req.Steady.complete ⟨h.sound, hle⟩ hacked
  · exact absurd hacked hne

lemma FenceMapOut.Sound.signal_passed {f : FenceMapOut} (h : f.Sound) : f.signal.passed = 1 := by
  unfold FenceMapOut.Sound at h
  unfold FenceMapOut.signal
  split
  · rename_i hreset
    rw [h, if_pos hreset]
  · rename_i hlive
    simp [h, if_neg hlive]

lemma FenceMapOut.retire_passed (f : FenceMapOut) : f.retire.passed = f.signal.passed := by
  unfold FenceMapOut.retire FenceMapOut.signal
  split <;> rfl

lemma FenceMapOut.Sound.retire {f : FenceMapOut} (h : f.Sound) : f.retire.Sound := by
  have hpassed := f.retire_passed.trans h.signal_passed
  have hreset : f.retire.syncId = -1 := by
    unfold FenceMapOut.retire
    split
    · assumption
    · rfl
  rw [FenceMapOut.Sound, hpassed, if_pos hreset]

lemma Req.Sound.cutOff_complete {r : Req} (h : r.Sound) : r.cutOff.Complete := by
  intro f hf
  obtain ⟨g, hg, rfl⟩ := List.mem_map.mp hf
  exact (h g hg).signal_passed

lemma Req.Sound.fail_complete {r : Req} (h : r.Sound) : r.fail.Complete := by
  intro f hf
  obtain ⟨g, hg, rfl⟩ := List.mem_map.mp hf
  exact g.retire_passed.trans (h g hg).signal_passed

lemma Req.Sound.flush_complete {r : Req} (h : r.Sound) : r.flush.Complete := h.fail_complete

/-- The port has a live fence, and it is signalled now. -/
def signals (r : Req) (ack : ℕ × ℤ) : Bool :=
  !r.recovering && (r.fenceMapOut.find? fun f => f.resourceHandle == ack.1).any fun f => f.syncId != -1

/-- Every signal of a done event succeeds. -/
def signalsSucceed : Req → List (ℕ × ℤ) → Bool
  | _, [] => true
  | r, ack :: acks => (!signals r ack || ack.2 == 0) && signalsSucceed (ackPort r ack) acks

lemma changeFirst_sound (handle : ℕ) {fs : List FenceMapOut} (h : ∀ f ∈ fs, f.Sound) :
    ∀ f ∈ changeFirst handle FenceMapOut.retire fs, f.Sound := by
  induction fs with
  | nil => exact h
  | cons f fs ih =>
    obtain ⟨hf, hfs⟩ := List.forall_mem_cons.mp h
    rw [changeFirst]
    split
    · exact List.forall_mem_cons.mpr ⟨hf.retire, hfs⟩
    · exact List.forall_mem_cons.mpr ⟨hf, ih hfs⟩

lemma changeFirst_countP {handle : ℕ} {fs : List FenceMapOut} {f : FenceMapOut}
    (hfind : fs.find? (fun f => f.resourceHandle == handle) = some f) (hlive : f.syncId ≠ -1) :
    (changeFirst handle FenceMapOut.retire fs).countP (fun f => f.syncId == -1) =
      fs.countP (fun f => f.syncId == -1) + 1 := by
  induction fs with
  | nil => simp at hfind
  | cons g fs ih =>
    rw [changeFirst]
    by_cases hg : g.resourceHandle = handle
    · have hgf : g = f := by simpa [hg] using hfind
      subst hgf
      rw [if_pos hg, List.countP_cons_of_pos, List.countP_cons_of_neg]
      · simpa using hlive
      · simp [FenceMapOut.retire, hlive]
    · have htail : fs.find? (fun f => f.resourceHandle == handle) = some f := by
        simpa [hg] using hfind
      rw [if_neg hg, List.countP_cons, List.countP_cons, ih htail]
      omega

lemma ackPort_flags (r : Req) (ack : ℕ × ℤ) :
    (ackPort r ack).recovering = r.recovering ∧ (ackPort r ack).accepted = r.accepted := by
  unfold ackPort
  split
  · exact ⟨rfl, rfl⟩
  · split_ifs <;> exact ⟨rfl, rfl⟩

lemma ackPorts_flags (r : Req) (acks : List (ℕ × ℤ)) :
    (ackPorts r acks).recovering = r.recovering ∧ (ackPorts r acks).accepted = r.accepted := by
  induction acks generalizing r with
  | nil => exact ⟨rfl, rfl⟩
  | cons ack acks ih =>
    have hack := ackPort_flags r ack
    have hrest := ih (ackPort r ack)
    exact ⟨hrest.1.trans hack.1, hrest.2.trans hack.2⟩

lemma ackPort_recovering {r : Req} (h : r.recovering = true) (ack : ℕ × ℤ) :
    (ackPort r ack).fenceMapOut = r.fenceMapOut := by
  unfold ackPort
  split
  · rfl
  · rw [if_pos h]
    split <;> rfl

lemma ackPorts_recovering {r : Req} (h : r.recovering = true) (acks : List (ℕ × ℤ)) :
    (ackPorts r acks).fenceMapOut = r.fenceMapOut := by
  induction acks generalizing r with
  | nil => rfl
  | cons ack acks ih =>
    have hnext : (ackPort r ack).recovering = true := (ackPort_flags r ack).1.trans h
    exact (ih hnext).trans (ackPort_recovering h ack)

lemma ackPort_steady {r : Req} (h : r.Steady) (hnot : r.recovering = false) {ack : ℕ × ℤ}
    (hok : signals r ack = true → ack.2 = 0) : (ackPort r ack).Steady := by
  unfold ackPort
  split
  · exact h
  · rename_i f hfind
    split
    · exact h
    · rename_i hlive
      have hsignals : signals r ack = true := by
        simp [signals, hnot, hfind, hlive]
      rw [if_neg (by simp [hnot]), if_pos (hok hsignals)]
      refine ⟨changeFirst_sound ack.1 h.sound, ?_⟩
      have hcount := changeFirst_countP hfind hlive
      have hacked := h.acked
      simp only [Req.signalled] at hacked ⊢
      omega

lemma ackPorts_steady {r : Req} (h : r.Steady) (hnot : r.recovering = false) {acks : List (ℕ × ℤ)}
    (hok : signalsSucceed r acks = true) : (ackPorts r acks).Steady := by
  induction acks generalizing r with
  | nil => exact h
  | cons ack acks ih =>
    rw [signalsSucceed, Bool.and_eq_true] at hok
    have hnext : (ackPort r ack).recovering = false := (ackPort_flags r ack).1.trans hnot
    refine ih (ackPort_steady h hnot ?_) hnext hok.2
    intro hsignals
    simpa [hsignals] using hok.1

lemma ackPorts_sound {r : Req} (h : r.Running) {acks : List (ℕ × ℤ)} (hok : signalsSucceed r acks = true) :
    (ackPorts r acks).Sound ∧ ((ackPorts r acks).recovering = false → (ackPorts r acks).Steady) := by
  cases hrec : r.recovering with
  | true =>
    refine ⟨?_, fun hfalse => ?_⟩
    · rw [Req.Sound, ackPorts_recovering hrec]
      exact h.sound
    · rw [(ackPorts_flags r acks).1, hrec] at hfalse
      cases hfalse
  | false =>
    have hsteady := ackPorts_steady (h.steady hrec) hrec hok
    exact ⟨hsteady.sound, fun _ => hsteady⟩

/-- The requests by the list that they are on. -/
structure Books (req : ℕ → Req) (free pending wait active held : List ℕ) : Prop where
  free : ∀ i ∈ free, (req i).Done
  pending : ∀ i ∈ pending, (req i).Steady
  wait : ∀ i ∈ wait, (req i).Steady
  active : ∀ i ∈ active, (req i).Running
  held : ∀ i ∈ held, (req i).accepted = false

def InBooks (c : Ctx) : Prop := Books c.req c.free c.pending c.wait c.active c.held.toList

section

variable {req req' : ℕ → Req} {free pending wait active held : List ℕ}

/-- No object occurs twice, those of `l` included. -/
def Apart (free pending wait active held l : List ℕ) : Prop :=
  ∀ i, free.count i + pending.count i + wait.count i + active.count i + held.count i + l.count i ≤ 1

lemma Books.congr (h : Books req free pending wait active held) {l : List ℕ}
    (hapart : Apart free pending wait active held l) (hreq : ∀ i, i ∉ l → req' i = req i) :
    Books req' free pending wait active held := by
  have hout (m : List ℕ) (hm : ∀ i, m.count i + l.count i ≤ 1) : ∀ i ∈ m, req' i = req i := by
    intro i hi
    refine hreq i fun hl => ?_
    have hpos := List.count_pos_iff.mpr hi
    have hpos' := List.count_pos_iff.mpr hl
    have hle := hm i
    omega
  have hfree := hout free fun i => by have := hapart i; omega
  have hpending := hout pending fun i => by have := hapart i; omega
  have hwait := hout wait fun i => by have := hapart i; omega
  have hactive := hout active fun i => by have := hapart i; omega
  have hheld := hout held fun i => by have := hapart i; omega
  exact {
    free := fun i hi => by rw [hfree i hi]; exact h.free i hi
    pending := fun i hi => by rw [hpending i hi]; exact h.pending i hi
    wait := fun i hi => by rw [hwait i hi]; exact h.wait i hi
    active := fun i hi => by rw [hactive i hi]; exact h.active i hi
    held := fun i hi => by rw [hheld i hi]; exact h.held i hi }

lemma Books.update (h : Books req free pending wait active held) {i : ℕ}
    (hapart : Apart free pending wait active held [i]) (r : Req) :
    Books (Function.update req i r) free pending wait active held := by
  refine h.congr hapart ?_
  intro j hj
  rw [Function.update_of_ne (by simpa using hj)]

lemma Books.addFree (h : Books req free pending wait active held) {l : List ℕ}
    (hl : ∀ i ∈ l, (req i).Done) : Books req (free ++ l) pending wait active held :=
  { h with free := List.forall_mem_append.mpr ⟨h.free, hl⟩ }

lemma Books.addActive (h : Books req free pending wait active held) {i : ℕ} (hi : (req i).Running) :
    Books req free pending wait (active ++ [i]) held :=
  { h with active := List.forall_mem_append.mpr ⟨h.active, by simpa using hi⟩ }

lemma Books.addWait (h : Books req free pending wait active held) {i : ℕ} (hi : (req i).Steady) :
    Books req free pending (wait ++ [i]) active held :=
  { h with wait := List.forall_mem_append.mpr ⟨h.wait, by simpa using hi⟩ }

lemma Books.addPending (h : Books req free pending wait active held) {l : List ℕ}
    (hl : ∀ i ∈ l, (req i).Steady) : Books req free (l ++ pending) wait active held :=
  { h with pending := List.forall_mem_append.mpr ⟨hl, h.pending⟩ }

lemma Books.sublist (h : Books req free pending wait active held) {pending' wait' active' : List ℕ}
    (hpending : pending' ⊆ pending) (hwait : wait' ⊆ wait) (hactive : active' ⊆ active) :
    Books req free pending' wait' active' held :=
  { h with
    pending := fun i hi => h.pending i (hpending hi)
    wait := fun i hi => h.wait i (hwait hi)
    active := fun i hi => h.active i (hactive hi) }

end

lemma freeEach_books {c : Ctx} {finish : Req → Req} {pending wait active l : List ℕ} (h : InBooks c)
    (hpending : pending ⊆ c.pending) (hwait : wait ⊆ c.wait) (hactive : active ⊆ c.active)
    (hapart : Apart c.free pending wait active c.held.toList l) (hl : ∀ i ∈ l, (c.req i).Sound)
    (hfinish : ∀ r : Req, r.Sound → (finish r).Complete) :
    Books (freeEach finish c l).req (c.free ++ l) pending wait active c.held.toList := by
  refine Books.addFree ((h.sublist hpending hwait hactive).congr hapart ?_) ?_
  · intro i hi
    rw [freeEach]
    exact if_neg hi
  · intro i hi
    have hreq : (freeEach finish c l).req i = finish (c.req i) := if_pos hi
    rw [hreq]
    exact (hfinish _ (hl i hi)).done

/-! ### Events -/

lemma InBooks.stampIrq {c : Ctx} (h : InBooks c) (t : ℕ) : InBooks (stampIrq c t) := h

lemma InBooks.updateFps {c : Ctx} (h : InBooks c) (fps : ℕ) : InBooks (updateFps c fps) := h

lemma InBooks.raiseReported {c : Ctx} (h : InBooks c) (id : ℕ) : InBooks (raiseReported c id) := h

lemma InBooks.settled {c : Ctx} (h : InBooks c) (substate : Substate) (id : ℕ) :
    InBooks { c with substate := substate, reportedReqId := id } := h

lemma InBooks.bubbling {c : Ctx} (h : InBooks c) (bubble : Bool) :
    InBooks { c with processBubble := bubble } := h

lemma report_inBooks {c : Ctx} (h : InBooks c) : InBooks (report c) := by
  unfold report
  split
  · exact h
  · exact h

lemma takeUp_inBooks {c : Ctx} {i : ℕ} {rest : List ℕ} (h : InBooks c) (hwait : c.wait = i :: rest) :
    InBooks (takeUp c i rest) := by
  have hrest : rest ⊆ c.wait := hwait ▸ List.subset_cons_self i rest
  have hi : (c.req i).Steady := h.wait i (hwait ▸ List.mem_cons_self)
  have hbooks := h.sublist (List.Subset.refl _) hrest (List.Subset.refl _)
  unfold takeUp
  split
  · exact hbooks.addActive hi.running
  · rename_i hnone
    push Not at hnone
    refine hbooks.addFree ?_
    intro j hj
    rw [List.mem_singleton.mp hj]
    refine Req.Complete.done ?_
    rw [Req.Complete, List.length_eq_zero_iff.mp hnone]
    simp

/-- A request that becomes active by a bubble has counted no more than it has signalled. -/
lemma bubble_inBooks {c : Ctx} {i : ℕ} {rest : List ℕ} (h : InBooks c) (hlinked : Linked c)
    (hwait : c.wait = i :: rest) : InBooks (bubble c i rest) := by
  have hrest : rest ⊆ c.wait := hwait ▸ List.subset_cons_self i rest
  have hi : (c.req i).Steady := h.wait i (hwait ▸ List.mem_cons_self)
  have hapart : Apart c.free c.pending rest c.active c.held.toList [i] := by
    intro j
    have hone := hlinked j
    simp only [places, hwait, List.count_cons, List.count_nil] at hone ⊢
    omega
  refine Books.addActive ((h.sublist (List.Subset.refl _) hrest (List.Subset.refl _)).update hapart _) ?_
  rw [Function.update_self]
  exact ⟨hi.sound, .inl hi.acked⟩

lemma bubbleAgain_inBooks {c : Ctx} {i : ℕ} {rest : List ℕ} (h : InBooks c) (hlinked : Linked c)
    (hwait : c.wait = i :: rest) : InBooks (bubbleAgain c i rest) := by
  unfold bubbleAgain
  split
  · exact bubble_inBooks h hlinked hwait
  · exact bubble_inBooks h hlinked hwait

lemma dropWaiting_inBooks {c : Ctx} (h : InBooks c) : InBooks (dropWaiting c) := by
  unfold dropWaiting
  cases hwait : c.wait with
  | nil => exact h
  | cons i rest =>
    have hrest : rest ⊆ c.wait := hwait ▸ List.subset_cons_self i rest
    have hi : (c.req i).Steady := h.wait i (hwait ▸ List.mem_cons_self)
    refine Books.addFree (h.sublist (List.Subset.refl _) hrest (List.Subset.refl _)) ?_
    intro j hj
    split at hj
    · rename_i hacked
      rw [List.mem_singleton.mp hj]
      exact (hi.complete hacked.symm).done
    · exact absurd hj List.not_mem_nil

lemma notifySof_inBooks {c : Ctx} (h : InBooks c) : InBooks (notifySofInActivatedState c) := by
  unfold notifySofInActivatedState
  split
  · cases hfirst : firstUnreported c with
    | none => exact h
    | some i =>
      have hmem : i ∈ c.active := List.mem_of_find?_eq_some hfirst
      dsimp only
      split
      · rename_i hacked
        refine Books.addFree (h.sublist (List.Subset.refl _) (List.Subset.refl _) List.erase_subset) ?_
        intro j hj
        rw [List.mem_singleton.mp hj]
        exact ((h.active i hmem).complete hacked).done
      · exact h
  · exact h

lemma rdiOnlySofInBubbleState_inBooks {c : Ctx} (h : InBooks c) (hlinked : Linked c) :
    InBooks (rdiOnlySofInBubbleState c) := by
  have hapart : Apart c.free c.pending c.wait [] c.held.toList c.active := by
    intro j
    have hone := hlinked j
    simp only [places, List.count_nil] at hone ⊢
    omega
  exact freeEach_books h (List.Subset.refl _) (List.Subset.refl _) (List.nil_subset _) hapart
    (fun i hi => (h.active i hi).sound) fun r hr => hr.cutOff_complete

def doneSucceeds (c : Ctx) (acks : List (ℕ × ℤ)) : Bool :=
  c.active.head?.all fun i => signalsSucceed (c.req i) acks

lemma linked_apart_active {c : Ctx} {i : ℕ} {rest : List ℕ} (h : Linked c) (hactive : c.active = i :: rest) :
    Apart c.free c.pending c.wait rest c.held.toList [i] := by
  intro j
  have hone := h j
  simp only [places, hactive, List.count_cons, List.count_nil] at hone ⊢
  omega

lemma dropDelayed_inBooks {c : Ctx} (h : InBooks c) (hlinked : Linked c) : InBooks (dropDelayed c) := by
  unfold dropDelayed
  split
  · cases hactive : c.active with
    | nil => exact h.sublist (List.Subset.refl _) (List.Subset.refl _) (List.nil_subset _)
    | cons i rest =>
      have hrest : rest ⊆ c.active := hactive ▸ List.subset_cons_self i rest
      refine freeEach_books h (List.Subset.refl _) (List.Subset.refl _) hrest
        (linked_apart_active hlinked hactive) ?_ fun r hr => hr.fail_complete
      intro j hj
      rw [List.mem_singleton.mp hj]
      exact (h.active i (hactive ▸ List.mem_cons_self)).sound
  · exact h

lemma finishFirst_inBooks {c : Ctx} {i : ℕ} {rest : List ℕ} (hlinked : Linked c) (hactive : c.active = i :: rest)
    (h : Books c.req c.free c.pending c.wait rest c.held.toList) (hsound : (c.req i).Sound)
    (hsteady : (c.req i).recovering = false → (c.req i).Steady)
    (hacked : (c.req i).numAcked = (c.req i).fenceMapOut.length) : InBooks (finishFirst c i rest) := by
  have hapart := linked_apart_active hlinked hactive
  unfold finishFirst
  split
  · refine Books.addPending (l := [i]) (h.update hapart _) ?_
    intro j hj
    rw [List.mem_singleton.mp hj, Function.update_self]
    exact ⟨hsound, Nat.zero_le _⟩
  · rename_i hrec
    have hcomplete := (hsteady (by simpa using hrec)).complete hacked
    refine Books.addFree (h.update hapart _) ?_
    intro j hj
    rw [List.mem_singleton.mp hj, Function.update_self]
    exact Req.Complete.done hcomplete

lemma handleBufDone_inBooks {c : Ctx} (h : InBooks c) (hlinked : Linked c) {acks : List (ℕ × ℤ)}
    (hok : doneSucceeds c acks = true) (t : ℕ) : InBooks (handleBufDoneInActivatedState c t acks) := by
  unfold handleBufDoneInActivatedState
  cases hactive : c.active with
  | nil => exact h
  | cons i rest =>
    have hsucceeds : signalsSucceed (c.req i) acks = true := by
      simpa [doneSucceeds, hactive] using hok
    have hmem : i ∈ c.active := hactive ▸ List.mem_cons_self
    have hrest : rest ⊆ c.active := hactive ▸ List.subset_cons_self i rest
    obtain ⟨hsound, hsteady⟩ := ackPorts_sound (h.active i hmem) hsucceeds
    have hapart := linked_apart_active hlinked hactive
    have hbooks := (h.sublist (List.Subset.refl _) (List.Subset.refl _) hrest).update hapart
      (ackPorts (c.req i) acks)
    dsimp only
    split
    · rename_i hmore
      have hrunning : (ackPorts (c.req i) acks).Running := by
        refine ⟨hsound, ?_⟩
        cases hrec : (ackPorts (c.req i) acks).recovering with
        | true => exact .inr ⟨rfl, hmore⟩
        | false => exact .inl (hsteady hrec).acked
      have hfull : Books _ c.free c.pending c.wait (i :: rest) c.held.toList :=
        { hbooks with
          active := List.forall_mem_cons.mpr ⟨by rw [Function.update_self]; exact hrunning, hbooks.active⟩ }
      rw [← hactive] at hfull
      exact hfull
    · rename_i hacked
      push Not at hacked
      obtain ⟨d, hd⟩ : ∃ d, d = setReq (stampIrq c t) i (ackPorts (c.req i) acks) := ⟨_, rfl⟩
      have hreq : d.req i = ackPorts (c.req i) acks := by
        rw [hd]
        exact Function.update_self ..
      have hdactive : d.active = i :: rest := by
        rw [hd]
        exact hactive
      have hdlinked : Linked d := by
        rw [hd]
        exact hlinked
      have hdbooks : Books d.req d.free d.pending d.wait rest d.held.toList := by
        rw [hd]
        exact hbooks
      rw [← hd]
      have hfinish : InBooks (finishFirst d i rest) :=
        finishFirst_inBooks hdlinked hdactive hdbooks (hreq ▸ hsound) (hreq ▸ hsteady) (hreq ▸ hacked)
      refine dropDelayed_inBooks hfinish ?_
      intro j
      rw [finishFirst_places hdactive]
      exact hdlinked j

lemma fs2BufDone_inBooks {c : Ctx} (h : InBooks c) (hlinked : Linked c) {acks : List (ℕ × ℤ)}
    (hok : doneSucceeds c acks = true) (t : ℕ) : InBooks (fs2BufDone c t acks) := by
  have hdone := handleBufDone_inBooks h hlinked hok t
  unfold fs2BufDone
  split
  · exact h
  · dsimp only
    split
    · exact hdone
    · exact hdone

lemma recoverable_subset (c : Ctx) (l : List ℕ) : recoverable c l ⊆ l :=
  (List.dropWhile_suffix _).subset

lemma unrecoverable_subset (c : Ctx) (l : List ℕ) : unrecoverable c l ⊆ l :=
  (List.takeWhile_prefix _).subset

lemma failActive_inBooks {c : Ctx} (h : InBooks c) (hlinked : Linked c) : InBooks (failActive c) := by
  have hapart : Apart c.free c.pending c.wait (recoverable c c.active) c.held.toList
      (unrecoverable c c.active) := by
    intro j
    have hone := hlinked j
    have hcount := congrArg (List.count j) (unrecoverable_append c c.active)
    simp only [List.count_append] at hcount
    simp only [places] at hone
    omega
  exact freeEach_books h (List.Subset.refl _) (List.Subset.refl _) (recoverable_subset c c.active) hapart
    (fun i hi => (h.active i (unrecoverable_subset c c.active hi)).sound) fun r hr => hr.fail_complete

lemma failWait_inBooks {c : Ctx} (h : InBooks c) (hlinked : Linked c) : InBooks (failWait c) := by
  have hapart : Apart c.free c.pending (recoverable c c.wait) c.active c.held.toList
      (unrecoverable c c.wait) := by
    intro j
    have hone := hlinked j
    have hcount := congrArg (List.count j) (unrecoverable_append c c.wait)
    simp only [List.count_append] at hcount
    simp only [places] at hone
    omega
  exact freeEach_books h (List.Subset.refl _) (recoverable_subset c c.wait) (List.Subset.refl _) hapart
    (fun i hi => (h.wait i (unrecoverable_subset c c.wait hi)).sound) fun r hr => hr.fail_complete

lemma moveToPending_inBooks {c : Ctx} (h : InBooks c)
    (hacked : ∀ i ∈ c.active, (c.req i).numAcked ≤ (c.req i).signalled) : InBooks (moveToPending c) := by
  have hactive : ∀ i ∈ c.active, (c.req i).Steady := fun i hi => ⟨(h.active i hi).sound, hacked i hi⟩
  have hnone := h.sublist (List.Subset.refl _) (List.nil_subset _) (List.nil_subset _)
  exact (hnone.addPending hactive).addPending h.wait

lemma failPending_inBooks {c : Ctx} {l : List ℕ} (h : InBooks { c with pending := l })
    (hlinked : Linked { c with pending := l }) : InBooks (failPending c l) := by
  induction l generalizing c with
  | nil => exact h
  | cons i rest ih =>
    have hapart : Apart c.free rest c.wait c.active c.held.toList [i] := by
      intro j
      have hone := hlinked j
      simp only [places, List.count_cons, List.count_nil] at hone ⊢
      omega
    have hi : (c.req i).Steady := h.pending i List.mem_cons_self
    have hfree : InBooks { freeEach Req.fail c [i] with pending := rest } := by
      refine freeEach_books (c := { c with pending := i :: rest }) h (List.subset_cons_self i rest)
        (List.Subset.refl _) (List.Subset.refl _) hapart ?_ fun r hr => hr.fail_complete
      intro j hj
      rw [List.mem_singleton.mp hj]
      exact hi.sound
    have hfreeLinked : Linked { freeEach Req.fail c [i] with pending := rest } := by
      intro j
      have hone := hlinked j
      simp only [places, freeEach, List.count_append, List.count_cons, List.count_nil] at hone ⊢
      omega
    unfold failPending
    split
    · exact h
    · split
      · exact ih hfree hfreeLinked
      · exact hfree

/-- No active request that an error puts back is half acknowledged under recovery. -/
def errorPutsBackSteady (c : Ctx) : Bool :=
  (recoverable c c.active).all fun i => decide ((c.req i).numAcked ≤ (c.req i).signalled)

lemma failApplied_inBooks {c : Ctx} (h : InBooks c) (hlinked : Linked c) (hsafe : errorPutsBackSteady c = true) :
    InBooks (failApplied c) := by
  have hactive := failActive_inBooks h hlinked
  have hactiveLinked : Linked (failActive c) := by
    intro j
    rw [failActive_places]
    exact hlinked j
  have hwait := failWait_inBooks hactive hactiveLinked
  unfold failApplied
  split
  · exact h
  · dsimp only
    split
    · refine moveToPending_inBooks hactive ?_
      intro i hi
      have hkept : (failActive c).req i = c.req i := by
        have hnot : i ∉ unrecoverable c c.active := by
          intro hmem
          have hone := hlinked i
          have hcount := congrArg (List.count i) (unrecoverable_append c c.active)
          have hpos := List.count_pos_iff.mpr hmem
          have hpos' : 0 < (recoverable c c.active).count i := List.count_pos_iff.mpr hi
          simp only [List.count_append] at hcount
          simp only [places] at hone
          omega
        exact if_neg hnot
      rw [hkept]
      have hall : ∀ i ∈ recoverable c c.active, (c.req i).numAcked ≤ (c.req i).signalled := by
        simpa [errorPutsBackSteady] using hsafe
      exact hall i hi
    · rename_i hnone
      push Not at hnone
      split
      · refine moveToPending_inBooks hwait ?_
        rw [show (failWait (failActive c)).active = [] from hnone]
        simp
      · exact hwait

lemma handleError_inBooks {c : Ctx} (h : InBooks c) (hlinked : Linked c) (hsafe : errorPutsBackSteady c = true) :
    InBooks (handleError c) := by
  refine failPending_inBooks (c := failApplied c) (failApplied_inBooks h hlinked hsafe) ?_
  intro j
  refine (congrFun (failApplied_places c) j).le.trans (hlinked j)

/-- What keeps every object on a list and every fence passed once: a register update in the
SOF substate finds the first waiting request acknowledged, the signals of a done event
succeed and its counter points at a request, and an error puts back no request that is half
acknowledged under recovery. -/
def conserveSafe (c : Ctx) : Op → Bool
  | .irq .error => !(c.state == .activated && handlesError c) || errorPutsBackSteady c
  | .irq (.regUpdate _ _) => !(c.state == .activated && c.substate == .sof) || keepsWaiting c
  | .irq (.done t acks) =>
    !(c.state == .activated && handlesDone c) ||
      (doneSucceeds c acks && !(doneCompletes c acks && straysAfter c t))
  | _ => true

lemma conserveSafe_done {c : Ctx} {t : ℕ} {acks : List (ℕ × ℤ)} (hactivated : c.state = .activated)
    (hinst : handlesDone c = true) (hsafe : conserveSafe c (.irq (.done t acks)) = true) :
    doneSucceeds c acks = true ∧ (doneCompletes c acks && straysAfter c t) = false := by
  simpa only [conserveSafe, hactivated, hinst, beq_self_eq_true, Bool.and_self, Bool.not_true, Bool.false_or,
    Bool.and_eq_true, Bool.not_eq_true'] using hsafe

lemma handled_inBooks {c d : Ctx} {e : Event} (h : InBooks c) (hlinked : Linked c)
    (hactivated : c.state = .activated) (hd : Handled c e d) (hsafe : conserveSafe c (.irq e) = true) :
    InBooks d := by
  cases hd with
  | ignored | sof | sofInEpoch | sofInTop | sofInApplied | regUpdInEpoch | regUpdInHwError => exact h
  | error hinst =>
    refine handleError_inBooks h hlinked ?_
    simpa [conserveSafe, hactivated, hinst] using hsafe
  | sofInBubble => exact rdiOnlySofInBubbleState_inBooks h hlinked
  | sofInBubbleApplied =>
    unfold rdiOnlySofInBubbleApplied
    dsimp only
    cases hwait : c.wait with
    | nil => exact h.sublist (List.Subset.refl _) (List.nil_subset _) (List.Subset.refl _)
    | cons i rest =>
      exact bubbleAgain_inBooks (c := { c with frameId := c.frameId + 1 }) h hlinked hwait
  | sofInSof | epochInSof =>
    unfold fs2SofInSofState
    dsimp only
    split
    · exact report_inBooks h
    · exact h
  | notifySof => exact notifySof_inBooks h
  | epochInApplied t =>
    unfold epochInApplied
    cases hwait : c.wait with
    | nil => exact h.sublist (List.Subset.refl _) (List.nil_subset _) (List.Subset.refl _)
    | cons i rest =>
      exact (((bubble_inBooks h hlinked hwait).bubbling _).raiseReported _).stampIrq t
  | epochInBubbleApplied =>
    unfold epochInBubbleApplied
    cases hwait : c.wait with
    | nil => exact h.sublist (List.Subset.refl _) (List.nil_subset _) (List.Subset.refl _)
    | cons i rest => exact bubbleAgain_inBooks h hlinked hwait
  | regUpdInSof t =>
    unfold regUpdInSof
    split
    · exact h
    · exact (dropWaiting_inBooks h).stampIrq t
  | fs2RegUpdInSof =>
    unfold fs2RegUpdInSof
    split
    · exact h
    · exact dropWaiting_inBooks h
  | regUpd t =>
    unfold regUpdInActivatedState
    cases hwait : c.wait with
    | nil => exact h
    | cons i rest => exact (((takeUp_inBooks h hwait).updateFps _).settled _ _).stampIrq t
  | fs2RegUpd =>
    unfold fs2RegUpdInAppliedState
    cases hwait : c.wait with
    | nil => exact h
    | cons i rest =>
      dsimp only
      split
      · exact report_inBooks (((takeUp_inBooks h hwait).updateFps _).settled _ _)
      · exact ((takeUp_inBooks h hwait).updateFps _).settled _ _
  | rdiOnlyRegUpd =>
    unfold rdiOnlyRegUpdInBubbleAppliedState
    split
    · cases hwait : c.wait with
      | nil => exact h.sublist (List.Subset.refl _) (List.nil_subset _) (List.Subset.refl _)
      | cons i rest => exact ((takeUp_inBooks h hwait).updateFps _).settled _ _
    · exact h
  | done t acks hinst =>
    exact handleBufDone_inBooks h hlinked (conserveSafe_done hactivated hinst hsafe).1 t
  | fs2Done t acks hinst =>
    exact fs2BufDone_inBooks h hlinked (conserveSafe_done hactivated hinst hsafe).1 t

@[simp] lemma report_stray (c : Ctx) : (report c).stray = c.stray := by
  unfold report
  split <;> rfl

@[simp] lemma takeUp_stray (c : Ctx) (i : ℕ) (rest : List ℕ) : (takeUp c i rest).stray = c.stray := by
  unfold takeUp
  split <;> rfl

@[simp] lemma bubbleAgain_stray (c : Ctx) (i : ℕ) (rest : List ℕ) :
    (bubbleAgain c i rest).stray = c.stray := by
  unfold bubbleAgain
  split <;> rfl

@[simp] lemma dropWaiting_stray (c : Ctx) : (dropWaiting c).stray = c.stray := by
  unfold dropWaiting
  split <;> rfl

lemma finishFirst_fields (c : Ctx) (i : ℕ) (rest : List ℕ) :
    (finishFirst c i rest).stray = c.stray ∧ (finishFirst c i rest).active = rest ∧
      (finishFirst c i rest).activeReqCnt = c.activeReqCnt - 1 ∧
      (finishFirst c i rest).irqDelayDetect = c.irqDelayDetect := by
  unfold finishFirst
  split <;> exact ⟨rfl, rfl, rfl, rfl⟩

lemma dropDelayed_stray {c : Ctx} (h : c.active = [] → c.activeReqCnt = 0 ∨ c.irqDelayDetect = false) :
    (dropDelayed c).stray = c.stray := by
  unfold dropDelayed
  split
  · rename_i hlate
    cases hactive : c.active with
    | nil =>
      rcases h hactive with hzero | hnot
      · exact absurd hzero hlate.1
      · rw [hlate.2] at hnot
        cases hnot
    | cons i rest => rfl
  · rfl

lemma handleBufDone_stray {c : Ctx} {t : ℕ} {acks : List (ℕ × ℤ)}
    (h : (doneCompletes c acks && straysAfter c t) = false) :
    (handleBufDoneInActivatedState c t acks).stray = c.stray := by
  unfold handleBufDoneInActivatedState
  cases hactive : c.active with
  | nil => rfl
  | cons i rest =>
    dsimp only
    split
    · rfl
    · rename_i hacked
      push Not at hacked
      obtain ⟨hstray, hrest, hcnt, hlate⟩ :=
        finishFirst_fields (setReq (stampIrq c t) i (ackPorts (c.req i) acks)) i rest
      rw [dropDelayed_stray, hstray]
      · rfl
      · rw [hrest, hcnt, hlate]
        rintro rfl
        have hsafe : c.activeReqCnt = 1 ∨ (c.irqDelayDetect || irqLate c t) = false := by
          simp only [doneCompletes, straysAfter, hactive] at h
          by_contra hboth
          push Not at hboth
          simp_all
        rcases hsafe with hone | hlate'
        · left
          change c.activeReqCnt - 1 = 0
          omega
        · right
          exact hlate'

lemma handled_stray {c d : Ctx} {e : Event} (hactivated : c.state = .activated) (hd : Handled c e d)
    (hsafe : conserveSafe c (.irq e) = true) : d.stray = c.stray := by
  cases hd with
  | ignored | sof | sofInEpoch | sofInTop | sofInApplied | sofInBubble | regUpdInEpoch
  | regUpdInHwError => rfl
  | error => exact (handleError_errorKeeps c).stray
  | sofInBubbleApplied =>
    unfold rdiOnlySofInBubbleApplied
    dsimp only
    split
    · rfl
    · simp
  | sofInSof | epochInSof =>
    unfold fs2SofInSofState
    dsimp only
    split
    · simp
    · rfl
  | notifySof =>
    unfold notifySofInActivatedState
    split
    · split
      · rfl
      · dsimp only
        split <;> rfl
    · rfl
  | epochInApplied t =>
    unfold epochInApplied
    split <;> rfl
  | epochInBubbleApplied =>
    unfold epochInBubbleApplied
    split
    · rfl
    · simp
  | regUpdInSof t =>
    unfold regUpdInSof
    split
    · rfl
    · simp [stampIrq]
  | fs2RegUpdInSof =>
    unfold fs2RegUpdInSof
    split
    · rfl
    · simp
  | regUpd t =>
    unfold regUpdInActivatedState
    split
    · rfl
    · simp [stampIrq, updateFps]
  | fs2RegUpd =>
    unfold fs2RegUpdInAppliedState
    split
    · rfl
    · dsimp only
      split <;> simp [updateFps]
  | rdiOnlyRegUpd =>
    unfold rdiOnlyRegUpdInBubbleAppliedState
    split
    · split
      · rfl
      · simp [updateFps]
    · rfl
  | done t acks hinst => exact handleBufDone_stray (conserveSafe_done hactivated hinst hsafe).2
  | fs2Done t acks hinst =>
    have hdone := handleBufDone_stray (conserveSafe_done hactivated hinst hsafe).2
    unfold fs2BufDone
    split
    · rfl
    · dsimp only
      split
      · exact hdone
      · exact hdone

end CameraKernel.Isp
