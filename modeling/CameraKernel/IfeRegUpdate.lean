import CameraKernel.IfeDual

/-! Register-update events of an IFE context. The loop over its sources has one status for all of
them, and a source on another core leaves it as it finds it. -/
namespace CameraKernel.IfeRegUpdate
open IfeDual (Source Config)

/-- The places of `hw_res`. -/
inductive Split
  | left | right
  deriving DecidableEq, Repr

/-- A payload: its core, what the bottom half of a node of a source answers, and the readings of
`overflow_pending`, one for each source. -/
structure Payload where
  coreIndex : ℕ
  bottomHalf : ℕ → Split → Int32
  overflowPending : ℕ → Bool

/-- `invoked` are the bottom halves that were invoked, with their answers, and `called` the sources
that the callback was called for. `crashed` is a read through an `hw_res` that is NULL. -/
structure State where
  rupStatus : UInt32
  invoked : List (ℕ × Split × Int32)
  called : List ℕ
  crashed : Bool
  deriving DecidableEq, Repr

def start : State := ⟨(-22 : Int32).toUInt32, [], [], false⟩

def State.invoke (s : State) (payload : Payload) (k : ℕ) (split : Split) : State :=
  { s with invoked := s.invoked ++ [(k, split, payload.bottomHalf k split)] }

/-- The bottom half whose answer becomes the status. -/
def State.takeStatus (s : State) (payload : Payload) (k : ℕ) (split : Split) (core : ℕ) : State :=
  if payload.coreIndex = core then
    { s.invoke payload k split with rupStatus := (payload.bottomHalf k split).toUInt32 }
  else s

/-- The bottom half of the master of a dual source. -/
def State.runMaster (s : State) (payload : Payload) (k core : ℕ) : State :=
  if payload.coreIndex = core then s.invoke payload k .left else s

def State.report (s : State) (payload : Payload) (k : ℕ) : State :=
  if payload.overflowPending k then s
  else if s.rupStatus = 0 then { s with called := s.called ++ [k] }
  else s

def visitCamif (payload : Payload) (s : State) (k : ℕ) (src : Source) : State :=
  match src.isDualVfe with
  | false =>
    match src.left with
    | none => s
    | some core => (s.takeStatus payload k .left core).report payload k
  | true =>
    match src.right with
    | none => s
    | some slave =>
      let s := s.takeStatus payload k .right slave
      match src.left with
      | none => { s with crashed := true }
      | some master => (s.runMaster payload k master).report payload k

def visitRdi (cfg : Config) (payload : Payload) (s : State) (k : ℕ) (src : Source) : State :=
  match src.left with
  | none => s
  | some core =>
    let s := s.takeStatus payload k .left core
    if cfg.isRdiOnlyContext = false ∧ cfg.isFeEnable = false then s else s.report payload k

/-- The loop body. -/
def visit (cfg : Config) (payload : Payload) (s : State) (src : Source × ℕ) : State :=
  if s.crashed || src.1.uninit then s
  else
    match src.1.resId with
    | .camifLite | .testgen => s
    | .camif | .rd => visitCamif payload s src.2 src.1
    | .rdi0 | .rdi1 | .rdi2 | .rdi3 => visitRdi cfg payload s src.2 src.1

def visitAll (cfg : Config) (payload : Payload) (srcs : List Source) : State :=
  srcs.zipIdx.foldl (visit cfg payload) start

def handleRegUpdate (cfg : Config) (payload : Payload) : State :=
  visitAll cfg payload cfg.resListIfeSrc

/-- The node whose bottom half answers for a source: the slave's, for a dual one. -/
def ownSplit (src : Source) : Split :=
  match src.resId with
  | .camif | .rd => if src.isDualVfe then .right else .left
  | _ => .left

def ownCore (src : Source) : Option ℕ :=
  if src.uninit then none
  else
    match src.resId with
    | .camifLite | .testgen => none
    | .camif | .rd => if src.isDualVfe then src.right else src.left
    | .rdi0 | .rdi1 | .rdi2 | .rdi3 => src.left

/-- A dual source without its master. -/
def crashes (src : Source) : Bool :=
  !src.uninit && (src.resId = .camif || src.resId = .rd) && src.isDualVfe && src.right.isSome &&
    src.left.isNone

/-- The source comes to the callback, whatever the status is. -/
def reports (cfg : Config) (payload : Payload) (src : Source) (k : ℕ) : Bool :=
  (ownCore src).isSome && !crashes src && !payload.overflowPending k &&
    (src.resId = .camif || src.resId = .rd || cfg.isRdiOnlyContext || cfg.isFeEnable)

/-- The answers of the bottom halves that the status was taken from. -/
def answers (payload : Payload) (srcs : List Source) : List Int32 :=
  (srcs.zipIdx.filter fun src => ownCore src.1 = some payload.coreIndex).map fun src =>
    payload.bottomHalf src.2 (ownSplit src.1)

/-- No callback without a bottom half of the source's own that answered 0. -/
structure NotInvented (cfg : Config) (payload : Payload) : Prop where
  own : ∀ k ∈ (handleRegUpdate cfg payload).called, ∃ src, cfg.resListIfeSrc[k]? = some src ∧
    (k, ownSplit src, 0) ∈ (handleRegUpdate cfg payload).invoked
  count : (handleRegUpdate cfg payload).called.length ≤
    ((handleRegUpdate cfg payload).invoked.filter fun call => call.2.2 = 0).length

/-- A source that reports from another core finds no success that an earlier source has left. -/
def NoneLeaks (cfg : Config) (payload : Payload) : Prop :=
  ∀ k src, cfg.resListIfeSrc[k]? = some src →
    (∀ src' ∈ cfg.resListIfeSrc.take k, crashes src' = false) → reports cfg payload src k →
    ownCore src ≠ some payload.coreIndex →
    (answers payload (cfg.resListIfeSrc.take k)).getLast? ≠ some 0

variable {cfg : Config} {payload : Payload} {s : State} {src : Source} {k : ℕ}

lemma toUInt32_eq_zero (a : Int32) : a.toUInt32 = 0 ↔ a = 0 :=
  ⟨fun h => congrArg Int32.ofUInt32 h, fun h => h ▸ rfl⟩

@[simp] lemma takeStatus_called (split : Split) (core : ℕ) :
    (s.takeStatus payload k split core).called = s.called := by
  rw [State.takeStatus]
  split_ifs <;> rfl

@[simp] lemma takeStatus_crashed (split : Split) (core : ℕ) :
    (s.takeStatus payload k split core).crashed = s.crashed := by
  rw [State.takeStatus]
  split_ifs <;> rfl

@[simp] lemma report_crashed : (s.report payload k).crashed = s.crashed := by
  rw [State.report]
  split_ifs <;> rfl

@[simp] lemma report_invoked : (s.report payload k).invoked = s.invoked := by
  rw [State.report]
  split_ifs <;> rfl

@[simp] lemma report_rupStatus : (s.report payload k).rupStatus = s.rupStatus := by
  rw [State.report]
  split_ifs <;> rfl

lemma report_called : (s.report payload k).called =
    if payload.overflowPending k = false ∧ s.rupStatus = 0 then s.called ++ [k] else s.called := by
  rw [State.report]
  by_cases ho : payload.overflowPending k <;> by_cases hz : s.rupStatus = 0 <;> simp [ho, hz]

@[simp] lemma runMaster_called (core : ℕ) : (s.runMaster payload k core).called = s.called := by
  rw [State.runMaster]
  split_ifs <;> rfl

@[simp] lemma runMaster_crashed (core : ℕ) : (s.runMaster payload k core).crashed = s.crashed := by
  rw [State.runMaster]
  split_ifs <;> rfl

@[simp] lemma runMaster_rupStatus (core : ℕ) :
    (s.runMaster payload k core).rupStatus = s.rupStatus := by
  rw [State.runMaster]
  split_ifs <;> rfl

variable (s payload k) in
lemma runMaster_invoked (core : ℕ) : ∃ master, (s.runMaster payload k core).invoked =
    s.invoked ++ master ∧ ∀ call ∈ master, call.1 = k ∧ call.2.1 = .left := by
  rw [State.runMaster]
  split_ifs
  · exact ⟨_, rfl, by simp⟩
  · exact ⟨[], by simp, by simp⟩

/-- What visiting a source with a node of its own does behind taking its status. -/
structure Visited (cfg : Config) (payload : Payload) (s : State) (src : Source) (k core : ℕ)
    (t : State) : Prop where
  crashed : t.crashed = crashes src
  rupStatus : t.rupStatus = (s.takeStatus payload k (ownSplit src) core).rupStatus
  called : t.called = if reports cfg payload src k ∧
    (s.takeStatus payload k (ownSplit src) core).rupStatus = 0 then s.called ++ [k] else s.called
  invoked : ∃ master, t.invoked = (s.takeStatus payload k (ownSplit src) core).invoked ++ master ∧
    ∀ call ∈ master, call.1 = k ∧ call.2.1 ≠ ownSplit src

lemma visitCamif_visited (hs : s.crashed = false) (huninit : src.uninit = false)
    (hres : src.resId = .camif ∨ src.resId = .rd) {core : ℕ} (hown : ownCore src = some core) :
    Visited cfg payload s src k core (visitCamif payload s k src) := by
  cases hdual : src.isDualVfe with
  | false =>
    have hleft : src.left = some core := by
      rcases hres with h | h <;> simpa [ownCore, huninit, h, hdual] using hown
    have hsplit : ownSplit src = .left := by rcases hres with h | h <;> simp [ownSplit, h, hdual]
    have hcrash : crashes src = false := by simp [crashes, hdual]
    have hreports : reports cfg payload src k = !payload.overflowPending k := by
      rcases hres with h | h <;> simp [reports, hown, hcrash, h]
    simp only [visitCamif, hdual, hleft]
    refine ⟨by simp [hs, hcrash], by simp [hsplit], ?_, ⟨[], by simp [hsplit], by simp⟩⟩
    simp [report_called, hreports, hsplit]
  | true =>
    have hright : src.right = some core := by
      rcases hres with h | h <;> simpa [ownCore, huninit, h, hdual] using hown
    have hsplit : ownSplit src = .right := by rcases hres with h | h <;> simp [ownSplit, h, hdual]
    simp only [visitCamif, hdual, hright]
    cases hleft : src.left with
    | none =>
      have hcrash : crashes src = true := by
        rcases hres with h | h <;> simp [crashes, hdual, huninit, h, hright, hleft]
      refine ⟨by simp [hcrash], by simp [hsplit], ?_, ⟨[], by simp [hsplit], by simp⟩⟩
      simp [reports, hcrash]
    | some master =>
      have hcrash : crashes src = false := by simp [crashes, hleft]
      have hreports : reports cfg payload src k = !payload.overflowPending k := by
        rcases hres with h | h <;> simp [reports, hown, hcrash, h]
      obtain ⟨calls, hinvoked, hcalls⟩ :=
        runMaster_invoked payload (s.takeStatus payload k .right core) k master
      refine ⟨by simp [hs, hcrash], by simp [hsplit], ?_, ⟨calls, by simp [hsplit, hinvoked], ?_⟩⟩
      · simp [report_called, hreports, hsplit]
      · intro call hcall
        rw [hsplit, (hcalls call hcall).2]
        exact ⟨(hcalls call hcall).1, by decide⟩

lemma visitRdi_visited (hs : s.crashed = false)
    (hcamif : src.resId ≠ .camif) (hrd : src.resId ≠ .rd) {core : ℕ}
    (hown : ownCore src = some core) (hleft : src.left = some core) :
    Visited cfg payload s src k core (visitRdi cfg payload s k src) := by
  have hsplit : ownSplit src = .left := by
    rw [ownSplit]
    split <;> simp_all
  have hcrash : crashes src = false := by simp [crashes, hcamif, hrd]
  have hreports : reports cfg payload src k = (!payload.overflowPending k &&
      (cfg.isRdiOnlyContext || cfg.isFeEnable)) := by
    simp [reports, hown, hcrash, hcamif, hrd]
  simp only [visitRdi, hleft]
  split_ifs with hpix
  · refine ⟨by simp [hs, hcrash], by simp [hsplit], ?_, ⟨[], by simp [hsplit], by simp⟩⟩
    simp [hreports, hpix]
  · have hfe : (cfg.isRdiOnlyContext || cfg.isFeEnable) = true := by
      simpa [Decidable.or_iff_not_not_and_not] using hpix
    refine ⟨by simp [hs, hcrash], by simp [hsplit], ?_, ⟨[], by simp [hsplit], by simp⟩⟩
    simp [report_called, hreports, hfe, hsplit]

lemma visit_own (hs : s.crashed = false) {core : ℕ} (hown : ownCore src = some core) :
    Visited cfg payload s src k core (visit cfg payload s (src, k)) := by
  cases huninit : src.uninit with
  | true => simp [ownCore, huninit] at hown
  | false =>
    simp only [visit, hs, huninit, Bool.or_self, Bool.false_eq_true, if_false]
    have hrdi (hcamif : src.resId ≠ .camif) (hrd : src.resId ≠ .rd) (hleft : src.left = some core) :
        Visited cfg payload s src k core (visitRdi cfg payload s k src) :=
      visitRdi_visited hs hcamif hrd hown hleft
    cases hres : src.resId <;> simp only [ownCore, huninit, hres] at hown
    case camif => exact visitCamif_visited hs huninit (.inl hres) (by simpa [ownCore, huninit, hres])
    case rd => exact visitCamif_visited hs huninit (.inr hres) (by simpa [ownCore, huninit, hres])
    case testgen => cases hown
    case camifLite => cases hown
    all_goals exact hrdi (by simp [hres]) (by simp [hres]) hown

lemma visit_none (hown : ownCore src = none) : visit cfg payload s (src, k) = s := by
  rw [visit]
  split_ifs with h
  · rfl
  · have huninit : src.uninit = false := by
      cases hu : src.uninit <;> simp_all
    cases hres : src.resId <;> cases hdual : src.isDualVfe <;>
      simp_all [ownCore, visitCamif, visitRdi]

/-- No source of the list crashes. -/
def Clean (srcs : List Source) : Prop := ∀ src ∈ srcs, crashes src = false

/-- The callback is called for the source at `k`. -/
def CalledAt (cfg : Config) (payload : Payload) (srcs : List Source) (k : ℕ) : Prop :=
  ∃ src, srcs[k]? = some src ∧ Clean (srcs.take k) ∧ reports cfg payload src k ∧
    (answers payload (srcs.take (k + 1))).getLast? = some 0

/-- What has happened behind a part of the list. -/
structure After (cfg : Config) (payload : Payload) (srcs : List Source) (s : State) : Prop where
  crashed : s.crashed = false ↔ Clean srcs
  rupStatus : s.crashed = false → (s.rupStatus = 0 ↔ (answers payload srcs).getLast? = some 0)
  called : ∀ k, k ∈ s.called ↔ CalledAt cfg payload srcs k
  nodup : s.called.Nodup
  invoked : ∀ k src, srcs[k]? = some src → ((k, ownSplit src, 0) ∈ s.invoked ↔
    Clean (srcs.take k) ∧ ownCore src = some payload.coreIndex ∧
      payload.bottomHalf k (ownSplit src) = 0)
  bounded : ∀ call ∈ s.invoked, call.1 < srcs.length

lemma answers_snoc (srcs : List Source) (src : Source) : answers payload (srcs ++ [src]) =
    answers payload srcs ++ if ownCore src = some payload.coreIndex then
      [payload.bottomHalf srcs.length (ownSplit src)] else [] := by
  rw [answers, answers, List.zipIdx_append, List.filter_append, List.map_append]
  congr 1
  by_cases h : ownCore src = some payload.coreIndex <;> simp [h]

lemma clean_snoc {srcs : List Source} : Clean (srcs ++ [src]) ↔ Clean srcs ∧ crashes src = false := by
  simp [Clean, or_imp, forall_and]

lemma getElem?_snoc {srcs : List Source} {src' : Source}
    (h : (srcs ++ [src])[k]? = some src') : srcs[k]? = some src' ∧ k < srcs.length ∨
      k = srcs.length ∧ src' = src := by
  rcases lt_trichotomy k srcs.length with hk | hk | hk
  · exact .inl ⟨by rwa [List.getElem?_append_left hk] at h, hk⟩
  · subst hk
    simp at h
    exact .inr ⟨rfl, h.symm⟩
  · rw [List.getElem?_eq_none (by simp; omega)] at h
    cases h

lemma calledAt_lt {srcs : List Source} (h : CalledAt cfg payload srcs k) : k < srcs.length := by
  obtain ⟨src, hsrc, -⟩ := h
  exact (List.getElem?_eq_some_iff.mp hsrc).1

lemma calledAt_snoc (srcs : List Source) (src : Source) :
    CalledAt cfg payload (srcs ++ [src]) k ↔ CalledAt cfg payload srcs k ∨
      k = srcs.length ∧ Clean srcs ∧ reports cfg payload src k ∧
        (answers payload (srcs ++ [src])).getLast? = some 0 := by
  constructor
  · rintro ⟨src', hsrc, hclean, hreports, hlast⟩
    rcases getElem?_snoc hsrc with ⟨hsrc, hk⟩ | ⟨rfl, rfl⟩
    · rw [List.take_append_of_le_length hk.le] at hclean
      rw [List.take_append_of_le_length (by omega)] at hlast
      exact .inl ⟨src', hsrc, hclean, hreports, hlast⟩
    · rw [List.take_left] at hclean
      rw [List.take_of_length_le (by simp)] at hlast
      exact .inr ⟨rfl, hclean, hreports, hlast⟩
  · rintro (h | ⟨rfl, hclean, hreports, hlast⟩)
    · have hk := calledAt_lt h
      obtain ⟨src', hsrc, hclean, hreports, hlast⟩ := h
      refine ⟨src', by rwa [List.getElem?_append_left hk], ?_, hreports, ?_⟩
      · rwa [List.take_append_of_le_length hk.le]
      · rwa [List.take_append_of_le_length (by omega)]
    · exact ⟨src, by simp, by simpa using hclean, hreports, by
        rwa [List.take_of_length_le (by simp)]⟩

lemma After.start (cfg : Config) (payload : Payload) : After cfg payload [] start := by
  refine ⟨by simp [IfeRegUpdate.start, Clean], fun _ => ?_, by simp [IfeRegUpdate.start, CalledAt],
    List.nodup_nil, by simp, by simp [IfeRegUpdate.start]⟩
  exact iff_of_false (by decide) (by simp [answers])

lemma After.skip {srcs : List Source} (h : After cfg payload srcs s)
    (hskip : s.crashed = true ∨ ownCore src = none) : After cfg payload (srcs ++ [src]) s := by
  have hcrash (hown : ownCore src = none) : crashes src = false := by
    cases hres : src.resId <;> cases hu : src.uninit <;> cases hd : src.isDualVfe <;>
      simp_all [crashes, ownCore]
  have hclean (hc : Clean srcs) : ownCore src = none :=
    hskip.resolve_left fun hs => by simp [h.crashed.mpr hc] at hs
  refine ⟨?_, fun hs => ?_, fun k => ?_, h.nodup, fun k src' hsrc => ?_, fun call hcall => ?_⟩
  · rw [clean_snoc, h.crashed]
    exact (and_iff_left_of_imp fun hc => hcrash (hclean hc)).symm
  · rw [answers_snoc, if_neg (by simp [hclean (h.crashed.mp hs)]), List.append_nil]
    exact h.rupStatus hs
  · rw [calledAt_snoc, h.called]
    refine (or_iff_left ?_).symm
    rintro ⟨-, hc, hreports, -⟩
    simp [reports, hclean hc] at hreports
  · rcases getElem?_snoc hsrc with ⟨hsrc, hk⟩ | ⟨rfl, rfl⟩
    · rw [List.take_append_of_le_length hk.le]
      exact h.invoked k src' hsrc
    · rw [List.take_left]
      refine iff_of_false (fun hcall => absurd (h.bounded _ hcall) (lt_irrefl _)) ?_
      rintro ⟨hc, hown, -⟩
      rw [hclean hc] at hown
      cases hown
  · rw [List.length_append]
    exact Nat.lt_add_right _ (h.bounded call hcall)

lemma takeStatus_invoked {split : Split} {core : ℕ} : (s.takeStatus payload k split core).invoked =
    s.invoked ++ if payload.coreIndex = core then [(k, split, payload.bottomHalf k split)] else [] := by
  rw [State.takeStatus]
  split_ifs
  · rfl
  · simp

lemma After.visited {srcs : List Source} (h : After cfg payload srcs s) (hs : s.crashed = false)
    {core : ℕ} (hown : ownCore src = some core) {t : State}
    (ht : Visited cfg payload s src srcs.length core t) : After cfg payload (srcs ++ [src]) t := by
  have hc := h.crashed.mp hs
  obtain ⟨master, hinvoked, hmaster⟩ := ht.invoked
  rw [takeStatus_invoked] at hinvoked
  have hlast : (s.takeStatus payload srcs.length (ownSplit src) core).rupStatus = 0 ↔
      (answers payload (srcs ++ [src])).getLast? = some 0 := by
    rw [answers_snoc, hown, State.takeStatus]
    by_cases hcore : payload.coreIndex = core
    · rw [if_pos hcore, if_pos (congrArg some hcore.symm), List.getLast?_append]
      simp [toUInt32_eq_zero]
    · rw [if_neg hcore, if_neg (by simpa using Ne.symm hcore), List.append_nil]
      exact h.rupStatus hs
  refine ⟨?_, fun _ => ?_, fun k => ?_, ?_, fun k src' hsrc => ?_, fun call hcall => ?_⟩
  · rw [ht.crashed, clean_snoc, and_iff_right hc]
  · rw [ht.rupStatus, hlast]
  · rw [ht.called, calledAt_snoc, ← h.called, ← hlast]
    by_cases hcall : reports cfg payload src srcs.length = true ∧
        (s.takeStatus payload srcs.length (ownSplit src) core).rupStatus = 0
    · rw [if_pos hcall, List.mem_append, List.mem_singleton]
      refine or_congr_right ⟨?_, And.left⟩
      rintro rfl
      exact ⟨rfl, hc, hcall⟩
    · rw [if_neg hcall]
      refine (or_iff_left ?_).symm
      rintro ⟨rfl, -, hcall'⟩
      exact hcall hcall'
  · rw [ht.called]
    split_ifs
    · rw [List.nodup_append]
      refine ⟨h.nodup, List.nodup_singleton _, fun a ha b hb => ?_⟩
      rw [List.mem_singleton.mp hb]
      exact (calledAt_lt ((h.called a).mp ha)).ne
    · exact h.nodup
  · rw [hinvoked, List.mem_append, List.mem_append]
    rcases getElem?_snoc hsrc with ⟨hsrc, hk⟩ | ⟨rfl, rfl⟩
    · rw [List.take_append_of_le_length hk.le, ← h.invoked k src' hsrc]
      have hother : (k, ownSplit src', (0 : Int32)) ∉ master := fun hm => hk.ne (hmaster _ hm).1
      split_ifs <;> simp [hother, hk.ne]
    · have hmem : (srcs.length, ownSplit src', (0 : Int32)) ∉ s.invoked := fun hm =>
        absurd (h.bounded _ hm) (lt_irrefl _)
      have hother : (srcs.length, ownSplit src', (0 : Int32)) ∉ master := fun hm =>
        (hmaster _ hm).2 rfl
      rw [List.take_left, hown]
      by_cases hcore : payload.coreIndex = core
      · simp [hmem, hother, hc, hcore, eq_comm]
      · simp [hmem, hother, hcore, Ne.symm hcore]
  · rw [List.length_append, List.length_singleton]
    rw [hinvoked, List.mem_append, List.mem_append] at hcall
    rcases hcall with (hcall | hcall) | hcall
    · exact Nat.lt_succ_of_lt (h.bounded call hcall)
    · split_ifs at hcall
      · rw [List.mem_singleton.mp hcall]
        exact Nat.lt_succ_self _
      · cases hcall
    · rw [(hmaster call hcall).1]
      exact Nat.lt_succ_self _

variable (src) in
lemma After.step {srcs : List Source} (h : After cfg payload srcs s) :
    After cfg payload (srcs ++ [src]) (visit cfg payload s (src, srcs.length)) := by
  cases hs : s.crashed with
  | true =>
    rw [visit, hs, Bool.true_or, if_pos rfl]
    exact h.skip (.inl hs)
  | false =>
    cases hown : ownCore src with
    | none =>
      rw [visit_none hown]
      exact h.skip (.inr hown)
    | some core => exact h.visited hs hown (visit_own hs hown)

lemma after_visitAll (cfg : Config) (payload : Payload) (srcs : List Source) :
    After cfg payload srcs (visitAll cfg payload srcs) := by
  induction srcs using List.reverseRecOn with
  | nil => exact .start cfg payload
  | append_singleton srcs src ih =>
    rw [visitAll, List.zipIdx_append, List.foldl_append]
    simpa [visitAll] using ih.step src

lemma After.count {srcs : List Source} (h : After cfg payload srcs s)
    (hown : ∀ k ∈ s.called, ∃ src, srcs[k]? = some src ∧ (k, ownSplit src, 0) ∈ s.invoked) :
    s.called.length ≤ (s.invoked.filter fun call => call.2.2 = 0).length := by
  have hsubset : s.called ⊆ (s.invoked.filter fun call => call.2.2 = 0).map (·.1) := by
    intro k hk
    obtain ⟨src, -, hmem⟩ := hown k hk
    exact List.mem_map.mpr ⟨_, List.mem_filter.mpr ⟨hmem, by simp⟩, rfl⟩
  simpa using (h.nodup.subperm hsubset).length_le

/-- The callbacks are earned exactly if no success leaks into a source on another core. -/
theorem notInvented_iff (cfg : Config) (payload : Payload) :
    NotInvented cfg payload ↔ NoneLeaks cfg payload := by
  have h := after_visitAll cfg payload cfg.resListIfeSrc
  constructor
  · intro hown k src hsrc hclean hreports hother hlast
    have htake := List.take_succ_eq_append_getElem (List.getElem?_eq_some_iff.mp hsrc).1
    rw [(List.getElem?_eq_some_iff.mp hsrc).2] at htake
    have hcalled : k ∈ (handleRegUpdate cfg payload).called := by
      refine (h.called k).mpr ⟨src, hsrc, hclean, hreports, ?_⟩
      rwa [htake, answers_snoc, if_neg hother, List.append_nil]
    obtain ⟨src', hsrc', hmem⟩ := hown.own k hcalled
    rw [hsrc] at hsrc'
    cases hsrc'
    exact hother ((h.invoked k src hsrc).mp hmem).2.1
  · intro hleak
    have hown : ∀ k ∈ (handleRegUpdate cfg payload).called, ∃ src,
        cfg.resListIfeSrc[k]? = some src ∧
          (k, ownSplit src, 0) ∈ (handleRegUpdate cfg payload).invoked := by
      intro k hk
      obtain ⟨src, hsrc, hclean, hreports, hlast⟩ := (h.called k).mp hk
      have hlt := (List.getElem?_eq_some_iff.mp hsrc).1
      have htake := List.take_succ_eq_append_getElem hlt
      rw [(List.getElem?_eq_some_iff.mp hsrc).2] at htake
      rw [htake, answers_snoc] at hlast
      by_cases hcore : ownCore src = some payload.coreIndex
      · rw [if_pos hcore, List.getLast?_append, List.length_take_of_le hlt.le] at hlast
        exact ⟨src, hsrc, (h.invoked k src hsrc).mpr ⟨hclean, hcore, by simpa using hlast⟩⟩
      · rw [if_neg hcore, List.append_nil] at hlast
        exact absurd hlast (hleak k src hsrc hclean hreports hcore)
    exact ⟨hown, h.count hown⟩

/-- An RDI-only context with an RDI on each of two cores. -/
def twoRdis : Config where
  resListIfeSrc := [⟨false, .rdi0, false, some 0, none⟩, ⟨false, .rdi1, false, some 1, none⟩]
  isFeEnable := false
  isRdiOnlyContext := true

theorem twoRdis_invented : ¬ NotInvented twoRdis ⟨0, fun _ _ => 0, fun _ => false⟩ := by
  intro h
  exact absurd h.count (by decide)

end CameraKernel.IfeRegUpdate
