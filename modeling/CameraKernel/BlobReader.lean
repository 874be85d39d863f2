import Mathlib

/-! Code that reads a block of bytes through a pointer. It logs what it reads, from the start of the
block, and the indices it uses, each with the length of the array; it may end with an error. -/
namespace CameraKernel.BlobReader

structure Trace where
  /-- An offset and a number of bytes. -/
  reads : List (ℕ × ℕ)
  /-- An index and a length. -/
  indices : List (ℕ × ℕ)
  deriving DecidableEq, Repr

namespace Trace

def empty : Trace := ⟨[], []⟩

def addRead (t : Trace) (offset bytes : ℕ) : Trace :=
  { t with reads := t.reads ++ [(offset, bytes)] }

def addIndex (t : Trace) (i length : ℕ) : Trace :=
  { t with indices := t.indices ++ [(i, length)] }

/-- All reads end within the first `size` bytes, and all indices are below their lengths. -/
structure Within (size : ℕ) (t : Trace) : Prop where
  reads : ∀ r ∈ t.reads, r.1 + r.2 ≤ size
  indices : ∀ i ∈ t.indices, i.1 < i.2

variable {size offset bytes i length : ℕ} {t : Trace}

lemma within_empty : empty.Within size := ⟨by simp [empty], by simp [empty]⟩

lemma within_addRead_iff :
    (t.addRead offset bytes).Within size ↔ t.Within size ∧ offset + bytes ≤ size := by
  constructor
  · rintro ⟨hreads, hindices⟩
    exact ⟨⟨fun r hr => hreads r (List.mem_append_left _ hr), hindices⟩,
      hreads (offset, bytes) (List.mem_append_right _ (List.mem_singleton.mpr rfl))⟩
  · rintro ⟨⟨hreads, hindices⟩, h⟩
    refine ⟨fun r hr => ?_, hindices⟩
    rcases List.mem_append.mp hr with hr | hr
    · exact hreads r hr
    · rw [List.mem_singleton.mp hr]
      exact h

lemma Within.addIndex (ht : t.Within size) (h : i < length) : (t.addIndex i length).Within size := by
  refine ⟨ht.reads, fun x hx => ?_⟩
  rcases List.mem_append.mp hx with hx | hx
  · exact ht.indices x hx
  · rw [List.mem_singleton.mp hx]
    exact h

end Trace

abbrev ReadM := EStateM ℤ Trace

/-- What a call returns and has logged. -/
def outcome (m : ReadM ℤ) : ℤ × Trace :=
  match m Trace.empty with
  | .ok rc t => (rc, t)
  | .error rc t => (rc, t)

def read (offset bytes : ℕ) : ReadM Unit := modify (·.addRead offset bytes)

def useIndex (i length : ℕ) : ReadM Unit := modify (·.addIndex i length)

/-- The call keeps to the first `size` bytes; it ends with an error, or with a value for which `Q`
holds. -/
def Keeps {α : Type} (size : ℕ) (m : ReadM α) (Q : α → Prop) : Prop :=
  ∀ t : Trace, t.Within size → match m t with
    | .ok a t' => t'.Within size ∧ Q a
    | .error e t' => t'.Within size ∧ e ≠ 0

namespace Keeps
variable {α β : Type} {size offset bytes i length : ℕ} {m : ReadM α} {P Q : α → Prop}

lemma pure {a : α} (h : Q a) : Keeps size (pure a) Q := fun _ ht => ⟨ht, h⟩

lemma throw {e : ℤ} (h : e ≠ 0) : Keeps size (throw e) Q := fun _ ht => ⟨ht, h⟩

lemma bind {f : α → ReadM β} {Q : β → Prop} (hm : Keeps size m P)
    (hf : ∀ a, P a → Keeps size (f a) Q) : Keeps size (m >>= f) Q := by
  intro t ht
  have hstep := hm t ht
  simp only [Bind.bind, EStateM.bind]
  cases hrun : m t with
  | ok a t' =>
    rw [hrun] at hstep
    exact hf a hstep.2 t' hstep.1
  | error e t' =>
    rw [hrun] at hstep
    exact hstep

lemma mono (h : Keeps size m P) (hPQ : ∀ a, P a → Q a) : Keeps size m Q := by
  intro t ht
  have hstep := h t ht
  cases hrun : m t with
  | ok a t' =>
    rw [hrun] at hstep
    exact ⟨hstep.1, hPQ a hstep.2⟩
  | error e t' =>
    rw [hrun] at hstep
    exact hstep

lemma ite {c : Prop} [Decidable c] {m' : ReadM α} (hthen : c → Keeps size m Q)
    (helse : ¬c → Keeps size m' Q) : Keeps size (if c then m else m') Q := by
  split
  · exact hthen ‹_›
  · exact helse ‹_›

lemma read (h : offset + bytes ≤ size) : Keeps size (read offset bytes) fun _ => True :=
  fun _ ht => ⟨Trace.within_addRead_iff.mpr ⟨ht, h⟩, trivial⟩

lemma useIndex (h : i < length) : Keeps size (useIndex i length) fun _ => True :=
  fun _ ht => ⟨ht.addIndex h, trivial⟩

lemma mapError {e : ℤ} (hm : Keeps size m Q) (he : e ≠ 0) :
    Keeps size (tryCatch m fun _ => MonadExcept.throw e) Q := by
  intro t ht
  have hstep := hm t ht
  simp only [tryCatch, tryCatchThe, MonadExceptOf.tryCatch, EStateM.tryCatch]
  cases hrun : m t with
  | ok a t' =>
    rw [hrun] at hstep
    exact hstep
  | error e' t' =>
    rw [hrun] at hstep
    exact ⟨hstep.1, he⟩

lemma loopInv {l : List β} {init : α} {f : β → α → ReadM (ForInStep α)} {I : α → Prop}
    (hinit : I init)
    (hstep : ∀ b ∈ l, ∀ a, I a → Keeps size (f b a) fun r => ∃ a', r = .yield a' ∧ I a') :
    Keeps size (forIn l init f) I := by
  induction l generalizing init with
  | nil => exact Keeps.pure hinit
  | cons b l ih =>
    rw [List.forIn_cons]
    refine (hstep b List.mem_cons_self init hinit).bind fun r hr => ?_
    obtain ⟨a', rfl, ha'⟩ := hr
    exact ih ha' fun b' hb' => hstep b' (List.mem_cons_of_mem b hb')

lemma loop {l : List β} {init : α} {f : β → α → ReadM (ForInStep α)}
    (hstep : ∀ b ∈ l, ∀ a, Keeps size (f b a) fun r => ∃ a', r = .yield a') :
    Keeps size (forIn l init f) fun _ => True :=
  loopInv trivial fun b hb a _ => (hstep b hb a).mono fun _ hr => hr.imp fun _ h => ⟨h, trivial⟩

lemma outcome {m : ReadM ℤ} {Q : ℤ → Prop} (h : Keeps size m Q) :
    (outcome m).2.Within size ∧ (Q (outcome m).1 ∨ (outcome m).1 ≠ 0) := by
  have hrun := h _ Trace.within_empty
  rw [BlobReader.outcome]
  cases hm : m Trace.empty with
  | ok rc t =>
    rw [hm] at hrun
    exact ⟨hrun.1, .inl hrun.2⟩
  | error rc t =>
    rw [hm] at hrun
    exact ⟨hrun.1, .inr hrun.2⟩

end Keeps

/-- The call keeps to the block and to its arrays, and is not content with a block that is shorter than
it has to be. -/
structure Safe (size needed : ℕ) (r : ℤ × Trace) : Prop where
  within : r.2.Within size
  rejects : size < needed → r.1 ≠ 0

lemma Keeps.safe {size needed : ℕ} {m : ReadM ℤ} (h : Keeps size m fun _ => needed ≤ size) :
    Safe size needed (BlobReader.outcome m) :=
  ⟨h.outcome.1, fun hlt => h.outcome.2.resolve_left (Nat.not_le.mpr hlt)⟩

variable {size needed : ℕ} {m : ReadM ℤ} {t : Trace}

lemma safe_error_iff {e : ℤ} (h : m Trace.empty = .error e t) (he : e ≠ 0) :
    Safe size needed (outcome m) ↔ t.Within size := by
  have hout : outcome m = (e, t) := by rw [outcome, h]
  rw [hout]
  exact ⟨Safe.within, fun ht => ⟨ht, fun _ => he⟩⟩

lemma safe_zero_iff (h : m Trace.empty = .ok 0 t) :
    Safe size needed (outcome m) ↔ t.Within size ∧ needed ≤ size := by
  have hout : outcome m = (0, t) := by rw [outcome, h]
  rw [hout]
  constructor
  · exact fun hsafe => ⟨hsafe.within, Nat.not_lt.mp fun hlt => hsafe.rejects hlt rfl⟩
  · rintro ⟨ht, hle⟩
    exact ⟨ht, fun hlt => absurd hle (Nat.not_le.mpr hlt)⟩

end CameraKernel.BlobReader
