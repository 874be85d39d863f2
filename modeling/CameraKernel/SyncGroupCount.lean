import CameraKernel.SyncInvariant

/-! The counter of a group against the children that still have to report. -/
namespace CameraKernel.SyncGroupCount
open SyncTable SyncOps SyncInvariant

/-- The ACTIVE rows whose parents list holds `g`. -/
def pendingChildren (dev : SyncDevice) (g : ℕ) : Finset ℕ :=
  (Finset.range camSyncMaxObjs).filter fun c =>
    (dev.syncTable c).state = .active ∧ g ∈ (dev.syncTable c).parentsList

/-- The counter is right, and a group none of whose children is pending any more
has come to its end. -/
structure GroupCounts (dev : SyncDevice) (g : ℕ) : Prop where
  remaining : (dev.syncTable g).remaining = (pendingChildren dev g).card
  finished : (∀ c ∈ (dev.syncTable g).childrenList, c ∉ pendingChildren dev g) →
    (dev.syncTable g).remaining = 0 ∧ Settled (dev.syncTable g)

/-- Every live group of the table counts its pending children. -/
def AllGroupsCount (dev : SyncDevice) : Prop :=
  ∀ g, (dev.syncTable g).type = .group → (dev.syncTable g).state ≠ .invalid → GroupCounts dev g

lemma pendingChildren_eq_waiting {dev : SyncDevice} (h : TableInv dev) (g : ℕ) :
    pendingChildren dev g = waiting dev g := by
  ext c
  simp only [pendingChildren, Finset.mem_filter, Finset.mem_range, mem_waiting]
  exact and_congr_right fun _ => ⟨fun hc => hc.2, fun hc => ⟨(h.child c g hc).1, hc⟩⟩

lemma TableInv.allGroupsCount {dev : SyncDevice} (h : TableInv dev) : AllGroupsCount dev := by
  intro g ht hs
  have hcount : (dev.syncTable g).remaining = (pendingChildren dev g).card := by
    rw [pendingChildren_eq_waiting h, h.count g ht hs]
  refine ⟨hcount, fun hnone => ?_⟩
  have hempty : pendingChildren dev g = ∅ := by
    rw [Finset.eq_empty_iff_forall_notMem]
    intro c hc
    rw [pendingChildren_eq_waiting h] at hc
    refine hnone c (h.parent c g (mem_waiting.mp hc).2).2.2 ?_
    rwa [pendingChildren_eq_waiting h]
  have hzero : (dev.syncTable g).remaining = 0 := by rw [hcount, hempty, Finset.card_empty]
  exact ⟨hzero, h.done g ht hs hzero⟩

/-- In every run in which no object is destroyed while it still lists a parent,
every group counts its pending children. -/
theorem groups_count_of_destroysDetached (ops : List SyncOp)
    (h : Transition.Guarded step DestroysDetached camSyncProbe ops) :
    AllGroupsCount (Transition.run step camSyncProbe ops) :=
  TableInv.allGroupsCount (tableInv_run h)

/-- Two fences and their group, a third one destroyed unsignaled, and a signal of the first. -/
def mergeThenSignal : List SyncOp :=
  [.create 0, .create 0, .merge [1, 2] fun _ => (true, true), .create 0, .destroy 4, .getObjRef 1,
    .signal 1 2]

theorem mergeThenSignal_counts :
    Transition.Guarded step DestroysDetached camSyncProbe mergeThenSignal ∧
    ((Transition.run step camSyncProbe mergeThenSignal).syncTable 3).remaining = 1 ∧
    AllGroupsCount (Transition.run step camSyncProbe mergeThenSignal) := by
  have hg : Transition.Guarded step DestroysDetached camSyncProbe mergeThenSignal :=
    ⟨trivial, trivial, trivial, trivial, by rw [DestroysDetached]; decide +kernel, trivial, trivial,
      trivial⟩
  exact ⟨hg, by decide +kernel, groups_count_of_destroysDetached _ hg⟩

/-- Two fences, their group, then both fences destroyed unsignaled. -/
def mergeThenDestroy : List SyncOp :=
  [.create 0, .create 0, .merge [1, 2] fun _ => (true, true), .destroy 1, .destroy 2]

theorem not_allGroupsCount_mergeThenDestroy :
    ¬ AllGroupsCount (Transition.run step camSyncProbe mergeThenDestroy) := by
  intro h
  have hrow : ((Transition.run step camSyncProbe mergeThenDestroy).syncTable 3).type = .group ∧
      ((Transition.run step camSyncProbe mergeThenDestroy).syncTable 3).state = .active ∧
      ((Transition.run step camSyncProbe mergeThenDestroy).syncTable 3).childrenList = [] ∧
      ((Transition.run step camSyncProbe mergeThenDestroy).syncTable 3).remaining = 2 := by
    decide +kernel
  obtain ⟨ht, hs, hc, hr⟩ := hrow
  have hf := (h 3 ht (by rw [hs]; decide)).finished (by simp [hc])
  rw [hr] at hf
  exact absurd hf.1 (by decide)

end CameraKernel.SyncGroupCount
