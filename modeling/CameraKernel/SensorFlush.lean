import CameraKernel.SensorRequests

/-! A flush of a sensor: what is left of the settings submitted before it, and which packets it keeps
out. Its gate asks for two states at once, so that it does nothing in any. -/
namespace CameraKernel.SensorRequests
variable {α : Type*}

inductive Call (α : Type*)
  | packet (p : Packet α)
  | apply (io : Bus α) (reqId : ℕ)
  | flush (type : FlushType) (reqId : ℕ)

def Call.step (s : SensorCtrl α) : Call α → SensorCtrl α
  | packet p => (camSensorI2cPktParse s p).2.2
  | apply io reqId => (camSensorApplySettings io s reqId .update).ctrl
  | flush type reqId => (camSensorFlushRequest s type reqId).2

def runCalls (s : SensorCtrl α) (cs : List (Call α)) : SensorCtrl α := cs.foldl Call.step s

/-- What the applies of a run write. -/
def writes : SensorCtrl α → List (Call α) → List α
  | _, [] => []
  | s, .apply io reqId :: cs =>
    (camSensorApplySettings io s reqId .update).written ++ writes (Call.step s (.apply io reqId)) cs
  | s, c :: cs => writes (c.step s) cs

/-- The entry is in the settings of a frame. -/
def SensorCtrl.Holds (s : SensorCtrl α) (e : α) : Prop :=
  ∃ i < MAX_PER_FRAME_ARRAY, e ∈ (s.perFrame i).listHead

/-- The slot holds the settings of request `r`. -/
def SensorCtrl.Pending (s : SensorCtrl α) (i r : ℕ) : Prop :=
  (s.perFrame i).isSettingsValid = 1 ∧ (s.perFrame i).requestId = r

/-- After a flush of all requests up to `last` the state is `s'`: every slot is free, no later apply
writes an entry from before, and updates up to `last` are refused until a later one is accepted. -/
structure FlushedAll (last : ℕ) (s s' : SensorCtrl α) : Prop where
  free : ∀ i < MAX_PER_FRAME_ARRAY, (s'.perFrame i).isSettingsValid ≠ 1
  gone : ∀ cs : List (Call α), (∀ p, Call.packet p ∈ cs → ∀ e ∈ p.parsed.entries, ¬ s.Holds e) →
    ∀ e ∈ writes s' cs, ¬ s.Holds e
  rejected : ∀ cs : List (Call α),
    (∀ (pre : List (Call α)) p post, cs = pre ++ Call.packet p :: post → p.opCode = .update → last < p.requestId →
      (camSensorI2cPktParse (runCalls s' pre) p).1 < 0) →
    ∀ p, p.opCode = .update → p.checks = none → p.requestId ≤ last →
      (camSensorI2cPktParse (runCalls s' cs) p).1 < 0

/-- After request `r` is cancelled: its settings are gone, and those of every other one are where
they were and are applied as before. -/
structure Cancelled (r : ℕ) (s s' : SensorCtrl α) : Prop where
  gone : ∀ i < MAX_PER_FRAME_ARRAY, s.Pending i r →
    (s'.perFrame i).isSettingsValid ≠ 1 ∧ (s'.perFrame i).listHead = []
  kept : ∀ i < MAX_PER_FRAME_ARRAY, ¬ s.Pending i r → s'.perFrame i = s.perFrame i
  applied : ∀ (io : Bus α) (q : ℕ), q ≠ r →
    (camSensorApplySettings io s' q .update).written = (camSensorApplySettings io s q .update).written

def FlushSound (s : SensorCtrl α) (type : FlushType) (reqId : ℕ) : Prop :=
  (camSensorFlushRequest s type reqId).1 = 0 →
    match type with
    | .all => FlushedAll reqId s (camSensorFlushRequest s type reqId).2
    | .cancelReq => Cancelled reqId s (camSensorFlushRequest s type reqId).2

/-- There is nothing to cancel; a flush of all requests is never good. -/
def FlushGood (s : SensorCtrl α) : FlushType → ℕ → Prop
  | .all, _ => False
  | .cancelReq, reqId => ∀ i < MAX_PER_FRAME_ARRAY, ¬ s.Pending i reqId

lemma flushRequest_eq (s : SensorCtrl α) (type : FlushType) (reqId : ℕ) :
    camSensorFlushRequest s type reqId = (0, s) := by
  have hgate : s.sensorState ≠ .start ∨ s.sensorState ≠ .config := by
    by_cases h : s.sensorState = .start
    · exact .inr (by rw [h]; decide)
    · exact .inl h
  rw [camSensorFlushRequest, if_pos hgate]

/-- The sensor is linked, and no flush is remembered. -/
def Open (s : SensorCtrl α) : Prop :=
  (s.sensorState = .config ∨ s.sensorState = .start) ∧ s.lastFlushReq = 0

lemma parseUpdate_open {s : SensorCtrl α} (h : Open s) (p : Packet α) :
    Open (parseUpdate s p).2.2 := by
  simp only [parseUpdate]
  split_ifs <;> exact h

lemma parse_open {s : SensorCtrl α} (h : Open s) (p : Packet α) :
    Open (camSensorI2cPktParse s p).2.2 := by
  have hcleared : Open (if s.lastFlushReq < p.requestId then { s with lastFlushReq := 0 } else s) := by
    split_ifs
    · exact ⟨h.1, rfl⟩
    · exact h
  rw [camSensorI2cPktParse]
  cases p.checks with
  | some rc => exact h
  | none =>
    dsimp only
    generalize (if s.lastFlushReq < p.requestId then { s with lastFlushReq := 0 } else s) = t
      at hcleared
    by_cases hrefused : p.opCode ≠ .initialConfig ∧ p.requestId ≤ s.lastFlushReq ∧ s.lastFlushReq ≠ 0
    · rw [if_pos hrefused]
      exact h
    · rw [if_neg hrefused]
      cases p.opCode with
      | update => exact parseUpdate_open hcleared p
      | streamon | streamoff | nop =>
        dsimp only
        split_ifs <;> exact hcleared
      | _ => exact hcleared

lemma apply_open {s : SensorCtrl α} (h : Open s) (io : Bus α) (reqId : ℕ) :
    Open (camSensorApplySettings io s reqId .update).ctrl := by
  simp only [camSensorApplySettings, SensorCtrl.streamSettings]
  split_ifs <;> exact h

lemma runCalls_open {s : SensorCtrl α} (h : Open s) (cs : List (Call α)) : Open (runCalls s cs) := by
  induction cs generalizing s with
  | nil => exact h
  | cons c cs ih =>
    refine ih ?_
    cases c with
    | packet p => exact parse_open h p
    | apply io reqId => exact apply_open h io reqId
    | flush type reqId =>
      rw [Call.step, flushRequest_eq]
      exact h

lemma parse_of_free {s : SensorCtrl α} (h : Open s) {p : Packet α} (hop : p.opCode = .update)
    (hchecks : p.checks = none)
    (hfree : (s.perFrame (p.requestId % MAX_PER_FRAME_ARRAY)).isSettingsValid ≠ 1) :
    (camSensorI2cPktParse s p).1 = p.parsed.rc := by
  have hstate : ¬ (s.sensorState = .init ∨ s.sensorState = .acquire) := by
    rcases h.1 with hs | hs <;> rw [hs] <;> simp
  have hupdate {t : SensorCtrl α} (hs : t.sensorState = s.sensorState) (hf : t.perFrame = s.perFrame) :
      (parseUpdate t p).1 = p.parsed.rc := by
    simp only [parseUpdate, hs, hf]
    rw [if_neg hstate, if_neg hfree]
    split_ifs <;> rfl
  simp only [camSensorI2cPktParse, hchecks, hop]
  rw [if_neg fun hc => hc.2.2 h.2]
  split_ifs
  · exact hupdate rfl rfl
  · exact hupdate rfl rfl

lemma not_flushedAll {s : SensorCtrl α} (h : Open s) (last : ℕ) : ¬ FlushedAll last s s := by
  rintro ⟨hfree, -, hrejected⟩
  -- The update with the last id flushed finds its slot free, and nothing keeps it out.
  have hneg := hrejected [] (fun pre p post he => by simp at he)
    ⟨none, .update, last, ⟨0, [], true⟩⟩ rfl rfl (le_refl last)
  rw [parse_of_free (s := runCalls s []) h rfl rfl (hfree _ (Nat.mod_lt _ (by decide)))] at hneg
  exact lt_irrefl _ hneg

lemma cancelled_iff {s : SensorCtrl α} {r : ℕ} :
    Cancelled r s s ↔ ∀ i < MAX_PER_FRAME_ARRAY, ¬ s.Pending i r := by
  constructor
  · intro h i hi hp
    exact (h.gone i hi hp).1 hp.1
  · intro h
    exact ⟨fun i hi hp => absurd hp (h i hi), fun _ _ _ => rfl, fun _ _ _ => rfl⟩

/-- After every run of a linked sensor, a flush keeps its promise just when it is to cancel a request
that has no settings. -/
theorem flush_sound_iff_good (l : LinkedSensor α) (before : List (Call α)) (type : FlushType)
    (reqId : ℕ) :
    FlushSound (runCalls l.start before) type reqId ↔
      FlushGood (runCalls l.start before) type reqId := by
  have hopen : Open (runCalls l.start before) := runCalls_open ⟨l.linked, l.noFlush⟩ before
  cases type with
  | all =>
    simp only [FlushSound, flushRequest_eq]
    exact iff_of_false (fun h => not_flushedAll hopen reqId (h trivial)) id
  | cancelReq =>
    simp only [FlushSound, flushRequest_eq]
    exact (forall_prop_of_true trivial).trans cancelled_iff

/-- A linked sensor whose slots are free. -/
def idleSensor : LinkedSensor ℕ where
  start := ⟨⟨[], 0, 0⟩, ⟨[], 0, 0⟩, ⟨[], 0, 0⟩, ⟨[], 0, 0⟩, fun _ => ⟨[], 0, 0⟩, 0, 0, 0, .start⟩
  linked := .inr rfl
  noFlush := rfl
  free _ := ⟨zero_ne_one, rfl⟩

theorem flush_not_sound :
    (camSensorFlushRequest
        (runCalls idleSensor.start [.packet ⟨none, .update, 1, ⟨0, [7], true⟩⟩]) .all 1).1 = 0 ∧
      writes (runCalls idleSensor.start [.packet ⟨none, .update, 1, ⟨0, [7], true⟩⟩])
        [.flush .all 1, .apply (fun _ => 0) 1] = [7] ∧
      ¬ FlushSound (runCalls idleSensor.start [.packet ⟨none, .update, 1, ⟨0, [7], true⟩⟩]) .all 1 := by
  refine ⟨by decide, by decide +kernel, fun h => ?_⟩
  have := (h (by decide)).free 1 (by decide)
  exact this (by decide)

end CameraKernel.SensorRequests
