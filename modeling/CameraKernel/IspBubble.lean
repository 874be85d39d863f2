import CameraKernel.IspComplete
import CameraKernel.IspPending

/-! Recovery from a bubble. While `process_bubble` is set every apply is refused, so a request
under recovery has to be there whose buffer done clears the flag. -/
namespace CameraKernel.Isp

def Clean (c : Ctx) (l : List ℕ) : Prop := ∀ i ∈ l, (c.req i).bubbleDetected = false

/-- A request under recovery is active and has been reported. -/
def Recovers (c : Ctx) : Prop :=
  ∃ i ∈ c.active, (c.req i).recovering = true ∧ (c.req i).requestId ≤ c.reportedReqId

structure Calm (c d : Ctx) : Prop where
  clean : Clean c c.pending → Clean c c.wait → Clean d d.pending ∧ Clean d d.wait
  flag : d.processBubble = true → c.processBubble = true ∧ (Recovers c → Recovers d)

lemma Calm.refl (c : Ctx) : Calm c c := ⟨fun hp hw => ⟨hp, hw⟩, fun h => ⟨h, id⟩⟩

lemma Calm.trans {a b c : Ctx} (h : Calm a b) (g : Calm b c) : Calm a c := by
  refine ⟨fun hp hw => ?_, fun hflag => ?_⟩
  · obtain ⟨hp', hw'⟩ := h.clean hp hw
    exact g.clean hp' hw'
  · obtain ⟨hb, hrec⟩ := g.flag hflag
    exact ⟨(h.flag hb).1, fun ha => hrec ((h.flag hb).2 ha)⟩

lemma Calm.of_lists {c d : Ctx} (hreq : d.req = c.req) (hpending : d.pending = c.pending)
    (hwait : d.wait ⊆ c.wait) (hactive : c.active ⊆ d.active) (hflag : d.processBubble = c.processBubble)
    (hreported : c.reportedReqId ≤ d.reportedReqId) : Calm c d := by
  refine ⟨fun hp hw => ⟨?_, ?_⟩, fun h => ⟨hflag.symm.trans h, ?_⟩⟩
  · intro i hi
    rw [hreq]
    exact hp i (hpending ▸ hi)
  · intro i hi
    rw [hreq]
    exact hw i (hwait hi)
  · rintro ⟨i, hi, hrec, hid⟩
    refine ⟨i, hactive hi, ?_, ?_⟩
    · rw [hreq]
      exact hrec
    · rw [hreq]
      exact hid.trans hreported

lemma Calm.of_eq {c d : Ctx} (hreq : d.req = c.req) (hpending : d.pending = c.pending) (hwait : d.wait = c.wait)
    (hactive : d.active = c.active) (hflag : d.processBubble = c.processBubble)
    (hreported : d.reportedReqId = c.reportedReqId) : Calm c d :=
  .of_lists hreq hpending (hwait ▸ List.Subset.refl _) (hactive ▸ List.Subset.refl _) hflag hreported.ge

lemma Clean.setReq {c : Ctx} {l : List ℕ} (h : Clean c l) {i : ℕ} (hi : i ∉ l) (r : Req) :
    Clean (setReq c i r) l := by
  intro j hj
  have hne : j ≠ i := fun heq => hi (heq ▸ hj)
  simpa [Isp.setReq, hne] using h j hj

lemma freeEach_detected {f : Req → Req} (hf : ∀ r, (f r).bubbleDetected = r.bubbleDetected) (c : Ctx)
    (l : List ℕ) (i : ℕ) : ((freeEach f c l).req i).bubbleDetected = (c.req i).bubbleDetected := by
  simp only [freeEach]
  split
  · exact hf _
  · rfl

lemma Clean.freeEach {c : Ctx} {l : List ℕ} (h : Clean c l) {f : Req → Req}
    (hf : ∀ r, (f r).bubbleDetected = r.bubbleDetected) (freed : List ℕ) : Clean (freeEach f c freed) l := by
  intro i hi
  rw [freeEach_detected hf]
  exact h i hi

lemma flush_detected (r : Req) : r.flush.bubbleDetected = r.bubbleDetected := rfl

/-- The flag is up only while streaming, and never with the RDI machine, which has no EPOCH. -/
structure BubbleInv (c : Ctx) : Prop where
  linked : Linked c
  pending : Clean c c.pending
  wait : Clean c c.wait
  flag : c.processBubble = true → Recovers c
  idle : c.state ≠ .activated → c.processBubble = false
  rdi : c.machine = .rdi → c.processBubble = false

lemma BubbleInv.calm {c d : Ctx} (h : BubbleInv c) (hlinked : Linked d) (hcalm : Calm c d)
    (hstate : d.state = c.state) (hmachine : d.machine = c.machine) : BubbleInv d := by
  obtain ⟨hp, hw⟩ := hcalm.clean h.pending h.wait
  have hdown : c.processBubble = false → d.processBubble = false := by
    intro hc
    rw [Bool.eq_false_iff]
    intro hd
    simp [(hcalm.flag hd).1] at hc
  refine ⟨hlinked, hp, hw, fun hd => ?_, fun hs => ?_, fun hr => ?_⟩
  · obtain ⟨hc, hrec⟩ := hcalm.flag hd
    exact hrec (h.flag hc)
  · exact hdown (h.idle (hstate ▸ hs))
  · exact hdown (h.rdi (hmachine ▸ hr))

lemma Calm.join {c d e : Ctx} (h : Calm c d) {i : ℕ} (hclean : (d.req i).bubbleDetected = false)
    (hpending : ∀ j ∈ e.pending, j ∈ d.pending ∨ j = i) (hreq : e.req = d.req) (hwait : e.wait = d.wait)
    (hactive : e.active = d.active) (hflag : e.processBubble = d.processBubble)
    (hreported : e.reportedReqId = d.reportedReqId) : Calm c e := by
  have hrest : Calm d { e with pending := d.pending } := .of_eq hreq rfl hwait hactive hflag hreported
  obtain hcalm := h.trans hrest
  refine ⟨fun hp hw => ⟨fun j hj => ?_, (hcalm.clean hp hw).2⟩, hcalm.flag⟩
  rcases hpending j hj with hj | rfl
  · exact (hcalm.clean hp hw).1 j hj
  · rw [hreq]
    exact hclean

lemma Clean.sublist {c : Ctx} {l l' : List ℕ} (h : Clean c l) (hl : l' ⊆ l) : Clean c l' := fun i hi => h i (hl hi)

lemma flushPending_clean {c : Ctx} (f : FlushReq) (hp : Clean c c.pending) (hw : Clean c c.wait) :
    Clean (flushPending c f) (flushPending c f).pending ∧ Clean (flushPending c f) (flushPending c f).wait :=
  ⟨(hp.sublist (unflushed_sublist c f c.pending).subset).freeEach flush_detected _, hw.freeEach flush_detected _⟩

/-- The flag is down and both lists are clean: all that a call needs outside of streaming. -/
structure Quiet (c : Ctx) : Prop where
  pending : Clean c c.pending
  wait : Clean c c.wait
  down : c.processBubble = false

lemma BubbleInv.quiet {c : Ctx} (h : BubbleInv c) (hstate : c.state ≠ .activated) : Quiet c :=
  ⟨h.pending, h.wait, h.idle hstate⟩

lemma Quiet.of_eq {c d : Ctx} (h : Quiet c) (hreq : d.req = c.req) (hpending : d.pending = c.pending)
    (hwait : d.wait = c.wait) (hflag : d.processBubble = c.processBubble) : Quiet d := by
  refine ⟨fun i hi => ?_, fun i hi => ?_, hflag.trans h.down⟩
  · rw [hreq]
    exact h.pending i (hpending ▸ hi)
  · rw [hreq]
    exact h.wait i (hwait ▸ hi)

lemma Quiet.flushPending {c : Ctx} (h : Quiet c) (f : FlushReq) : Quiet (flushPending c f) :=
  ⟨(flushPending_clean f h.pending h.wait).1, (flushPending_clean f h.pending h.wait).2, h.down⟩

lemma Quiet.releaseHw {c : Ctx} (h : Quiet c) : Quiet (releaseHwInTopState c) := by
  refine Quiet.flushPending ?_ flushAll
  exact h.of_eq rfl rfl rfl rfl

lemma Quiet.releaseDev {c : Ctx} (h : Quiet c) : Quiet (releaseDevInTopState c) := by
  unfold releaseDevInTopState
  dsimp only
  split
  · refine Quiet.flushPending ?_ flushAll
    exact h.releaseHw.of_eq rfl rfl rfl rfl
  · refine Quiet.flushPending ?_ flushAll
    exact h.of_eq rfl rfl rfl rfl

end CameraKernel.Isp
