import CameraKernel.CciQueue

/-! What the words of a CCI queue tell the hardware to do, and when it is what the register
array asks for. -/
namespace CameraKernel.CciQueue
open CameraKernel

/-- What the bus does: a register write, or a wait of so many times 256 cycles. -/
inductive BusOp
  | write (addr data : ℕ)
  | wait (n : ℕ)
  deriving DecidableEq, Repr

variable (m : Setting)

/-- A packet says the low 8 or 16 bits of an address. -/
def addrMod : ℕ := 2 ^ (8 * m.addrType.sentBytes)

def dataMod : ℕ := 2 ^ (8 * m.dataType.numBytes)

/-- Bytes read with the highest first. -/
def ofBytes (bs : List ℕ) : ℕ := bs.foldl (fun n b => 0x100 * n + b) 0

def wordBytes (w : ℕ) : List ℕ :=
  [w % 0x100, w / 0x100 % 0x100, w / 0x10000 % 0x100, w / 0x1000000 % 0x100]

/-- `n` writes at consecutive addresses. -/
def dataOps : ℕ → ℕ → List ℕ → List BusOp
  | 0, _, _ => []
  | n + 1, addr, bs => .write (addr % addrMod m) (ofBytes (bs.take m.dataType.numBytes)) ::
      dataOps n (addr + 1) (bs.drop m.dataType.numBytes)

/-- The writes of a packet: the address, then data for it and the addresses behind it. -/
def packetOps (bs : List ℕ) : Option (List BusOp) :=
  if m.addrType.sentBytes ≤ bs.length ∧ m.dataType.numBytes ∣ bs.length - m.addrType.sentBytes then
    some (dataOps m ((bs.length - m.addrType.sentBytes) / m.dataType.numBytes)
      (ofBytes (bs.take m.addrType.sentBytes)) (bs.drop m.addrType.sentBytes))
  else none

/-- Read words; in the middle of a packet, with the count of its bytes and those read so
far. Reports do nothing on the bus. -/
def decodeFrom : Option (ℕ × List ℕ) → List ℕ → Option (List BusOp)
  | none, [] => some []
  | some _, [] => none
  | none, w :: ws =>
    if w % 16 = waitCmd then (decodeFrom none ws).map (.wait (w / 16) :: ·)
    else if w % 16 = reportCmd then decodeFrom none ws
    else if w % 16 = writeCmd then
      let n := w / 16 % 16
      let bs := (wordBytes w).drop 1
      if n ≤ bs.length then
        (packetOps m (bs.take n)).bind fun os => (decodeFrom none ws).map (os ++ ·)
      else decodeFrom (some (n, bs)) ws
    else none
  | some (n, bs), w :: ws =>
    let bs := bs ++ wordBytes w
    if n ≤ bs.length then
      (packetOps m (bs.take n)).bind fun os => (decodeFrom none ws).map (os ++ ·)
    else decodeFrom (some (n, bs)) ws

def decode (ws : List ℕ) : Option (List BusOp) := decodeFrom m none ws

def Reg.delayed (r : Reg) : Prop := 0 < r.delay ∧ r.delay < maxDelay

instance (r : Reg) : Decidable r.delayed := inferInstanceAs (Decidable (_ ∧ _))

def writeOp (r : Reg) : BusOp :=
  .write (r.regAddr.toNat % addrMod m) (r.regData.toNat % dataMod m)

/-- The wait for the entry, its cycles counted without wrapping. -/
def waitOps (r : Reg) : List BusOp :=
  if r.delayed then [.wait (r.delay.toNat * m.cyclesPerUs.toNat / 0x100)] else []

/-- The writes in order, each delayed one with its wait behind it. -/
def requested (regs : List Reg) : List BusOp := regs.flatMap fun r => writeOp m r :: waitOps m r

/-- Whenever the call comes to its end, the words do what the array asks for. -/
def Performs (regs : List Reg) : Prop :=
  ∀ hw ws, CamCciDataQueue m hw regs ws → decode m ws = some (requested m regs)

/-- The entries that go into the packet of the first one, of `n` entries left: each has the
address behind its predecessor's, that one has no delay, and the packet has room. -/
def follows (n : ℕ) : ℕ → List Reg → ℕ
  | t, r :: r' :: rest =>
    if r.delay = 0 ∧ r.regAddr + 1 = r'.regAddr ∧
        m.addrType.numBytes + m.dataType.numBytes * (t + 2) ≤ m.payloadSize ∧
        m.dataType.numBytes * t < n then
      follows n (t + 1) (r' :: rest) + 1
    else 0
  | _, _ => 0

/-- No delayed entry goes into the packet of an entry before it. -/
inductive Separate : List Reg → Prop
  | nil : Separate []
  | cons {r : Reg} {rs : List Reg}
      (h : ∀ q ∈ rs.take (follows m (rs.length + 1) 0 (r :: rs)), ¬q.delayed)
      (hrest : Separate (rs.drop (follows m (rs.length + 1) 0 (r :: rs)))) : Separate (r :: rs)

variable {m : Setting}

lemma AddrType.sentBytes_pos (a : AddrType) : 1 ≤ a.sentBytes ∧ a.sentBytes ≤ 2 := by
  cases a <;> decide

lemma AddrType.sentBytes_cases (a : AddrType) :
    a = .byte ∧ a.sentBytes = 1 ∨ a ≠ .byte ∧ a.sentBytes = 2 := by
  cases a <;> decide

lemma AddrType.sentBytes_le (a : AddrType) : a.sentBytes ≤ a.numBytes ∧ a.numBytes ≤ 4 := by
  cases a <;> decide

lemma DataType.numBytes_pos (d : DataType) : 1 ≤ d.numBytes ∧ d.numBytes ≤ 4 := by
  cases d <;> decide

lemma Setting.payload_bounds (m : Setting) : 10 ≤ m.payloadSize ∧ m.payloadSize ≤ 11 := by
  have := m.payload
  omega

lemma follows_room (n t : ℕ) (cmds : List Reg)
    (h : m.addrType.numBytes + m.dataType.numBytes * (t + 1) ≤ m.payloadSize) :
    m.addrType.numBytes + m.dataType.numBytes * (t + follows m n t cmds + 1) ≤ m.payloadSize := by
  induction cmds generalizing t with
  | nil => simpa [follows] using h
  | cons r cmds ih =>
    cases cmds with
    | nil => simpa [follows] using h
    | cons r' rest =>
      rw [follows]
      split_ifs with hjoin
      · have := ih _ hjoin.2.2.1
        rwa [Nat.add_right_comm t 1, Nat.add_assoc t] at this
      · exact h

lemma follows_lt (n t : ℕ) (r : Reg) (rs : List Reg) : follows m n t (r :: rs) ≤ rs.length := by
  induction rs generalizing t r with
  | nil => simp [follows]
  | cons r' rest ih =>
    rw [follows]
    split_ifs
    · exact Nat.succ_le_succ (ih _ _)
    · exact Nat.zero_le _

lemma packLoop_eq (n t : ℕ) (cmds : List Reg) :
    packLoop m (min n (m.payloadSize - (m.dataType.numBytes + m.addrType.numBytes)))
      (m.dataType.numBytes * t) (m.dataType.numBytes + m.addrType.numBytes + m.dataType.numBytes * t)
      t cmds = (m.dataType.numBytes + m.addrType.numBytes +
        m.dataType.numBytes * (t + follows m n t cmds), t + follows m n t cmds) := by
  have hd := m.dataType.numBytes_pos.1
  induction cmds generalizing t with
  | nil => simp [packLoop, follows]
  | cons r cmds ih =>
    cases cmds with
    | nil => simp [packLoop, follows]
    | cons r' rest =>
      have hmul : m.dataType.numBytes * (t + 2) =
          m.dataType.numBytes * t + m.dataType.numBytes + m.dataType.numBytes := by ring
      rw [packLoop, follows]
      by_cases hjoin : r.delay = 0 ∧ r.regAddr + 1 = r'.regAddr ∧
          m.addrType.numBytes + m.dataType.numBytes * (t + 2) ≤ m.payloadSize ∧
          m.dataType.numBytes * t < n
      · obtain ⟨hdelay, haddr, hroom, hn⟩ := hjoin
        rw [if_pos (by omega), if_neg (by simpa using hdelay), if_pos haddr, if_neg (by omega),
          if_pos ⟨hdelay, haddr, hroom, hn⟩, ← Nat.mul_succ, Nat.add_assoc _ _ m.dataType.numBytes,
          ← Nat.mul_succ, ih (t + 1)]
        rw [Nat.add_right_comm t 1, Nat.add_assoc t]
      · rw [if_neg hjoin, Nat.add_zero]
        split_ifs with hi hdelay haddr hlen
        · rfl
        · rfl
        · exact absurd ⟨by simpa using hdelay, haddr, by omega, by omega⟩ hjoin
        · rfl
        · rfl

lemma camCciCalcCmdLen_eq (r : Reg) (rs : List Reg) : ∃ len : ℕ, 0 < len ∧ len ≤ 4 ∧
    camCciCalcCmdLen m (r :: rs) = (((len : ℕ) : ℤ), follows m (rs.length + 1) 0 (r :: rs)) := by
  have hpack := packLoop_eq (m := m) (rs.length + 1) 0 (r :: rs)
  have ha := m.addrType.sentBytes_le
  have hd := m.dataType.numBytes_pos
  have hp := m.payload_bounds
  have hroom := follows_room (m := m) (rs.length + 1) 0 (r :: rs) (by omega)
  simp only [Nat.mul_zero, Nat.add_zero, Nat.zero_add] at hpack
  rw [Nat.zero_add, Nat.mul_succ] at hroom
  simp only [camCciCalcCmdLen, List.length_cons, hpack]
  rw [if_neg (by omega)]
  exact ⟨_, by omega, by omega, rfl⟩

lemma length_addrBytes (a : UInt32) : (addrBytes m a).length = m.addrType.sentBytes := by
  rw [addrBytes]
  cases m.addrType <;> rfl

lemma length_dataBytes (d : UInt32) : (dataBytes m d).length = m.dataType.numBytes := by
  rw [dataBytes]
  cases m.dataType <;> rfl

/-- The check of the `do` loop never stops an entry the look-ahead has counted. -/
lemma Setting.fits {t : ℕ}
    (h : m.addrType.numBytes + m.dataType.numBytes * (t + 1) ≤ m.payloadSize) :
    m.dataType = .byte ∨
      1 + m.addrType.sentBytes + m.dataType.numBytes * t + 1 ≤ m.payloadSize := by
  have ha := m.addrType.sentBytes_le.1
  rw [Nat.mul_succ] at h
  cases hd : m.dataType with
  | byte => exact .inl rfl
  | _ =>
    rw [hd] at h
    simp only [DataType.numBytes] at h ⊢
    omega

lemma dataLoop_eq (pack t : ℕ) (cmds : List Reg) (hlen : pack < cmds.length)
    (hroom : m.addrType.numBytes + m.dataType.numBytes * (t + pack + 1) ≤ m.payloadSize) :
    dataLoop m pack (1 + m.addrType.sentBytes + m.dataType.numBytes * t) cmds =
      ((cmds.take (pack + 1)).flatMap fun r => dataBytes m r.regData, cmds.drop (pack + 1)) := by
  have hd := m.dataType.numBytes_pos.1
  have ha := m.addrType.sentBytes_le.1
  induction pack generalizing t cmds with
  | zero =>
    cases cmds with
    | nil => cases hlen
    | cons r rest =>
      have hfit : m.dataType = .byte ∨ 1 + m.addrType.sentBytes + m.dataType.numBytes * t + 1 ≤
          m.payloadSize := (Setting.fits (by simpa using hroom))
      rw [dataLoop, if_pos hfit]
      simp
  | succ pack ih =>
    cases cmds with
    | nil => cases hlen
    | cons r rest =>
      have hne : rest ≠ [] := by
        rintro rfl
        simp at hlen
      have hmul : m.dataType.numBytes * (t + 1) ≤ m.dataType.numBytes * (t + (pack + 1)) :=
        Nat.mul_le_mul_left _ (by omega)
      rw [Nat.mul_succ] at hroom hmul
      have hfit : m.dataType = .byte ∨ 1 + m.addrType.sentBytes + m.dataType.numBytes * t + 1 ≤
          m.payloadSize := Setting.fits (by rw [Nat.mul_succ]; omega)
      rw [dataLoop, if_pos hfit]
      simp only [length_dataBytes]
      rw [if_pos ⟨hne, by omega⟩, Nat.add_assoc, ← Nat.mul_succ, ih _ _ (by simpa using hlen) (by
        rw [Nat.mul_succ, Nat.add_right_comm t 1]
        exact hroom)]
      simp

lemma or_shiftLeft {a b i : ℕ} (h : a < 2 ^ i) : a ||| b <<< i = a + 2 ^ i * b := by
  rw [Nat.lor_comm, ← Nat.shiftLeft_add_eq_or_of_lt h, Nat.shiftLeft_eq]
  ring

lemma wordBytes_one {a : ℕ} (ha : a < 0x100) : wordBytes a = [a, 0, 0, 0] := by
  simp only [wordBytes, List.cons.injEq, and_true]
  omega

lemma wordBytes_two {a b : ℕ} (ha : a < 0x100) (hb : b < 0x100) :
    wordBytes (a ||| b <<< 8) = [a, b, 0, 0] := by
  rw [or_shiftLeft (by omega)]
  simp only [wordBytes, List.cons.injEq, and_true]
  omega

lemma wordBytes_three {a b c : ℕ} (ha : a < 0x100) (hb : b < 0x100) (hc : c < 0x100) :
    wordBytes (a ||| b <<< 8 ||| c <<< 16) = [a, b, c, 0] := by
  rw [or_shiftLeft (i := 8) (by omega), or_shiftLeft (by omega)]
  simp only [wordBytes, List.cons.injEq, and_true]
  omega

lemma wordBytes_four {a b c d : ℕ} (ha : a < 0x100) (hb : b < 0x100) (hc : c < 0x100)
    (hd : d < 0x100) : wordBytes (a ||| b <<< 8 ||| c <<< 16 ||| d <<< 24) = [a, b, c, d] := by
  rw [or_shiftLeft (i := 8) (by omega), or_shiftLeft (i := 16) (by omega), or_shiftLeft (by omega)]
  simp only [wordBytes, List.cons.injEq, and_true]
  omega

/-- What is read after a packet with these bytes. -/
def afterPacket (m : Setting) (bs ws : List ℕ) : Option (List BusOp) :=
  (packetOps m bs).bind fun os => (decodeFrom m none ws).map (os ++ ·)

lemma decodeFrom_last {n : ℕ} {acc bs ws : List ℕ} {w : ℕ} (hw : bs <+: wordBytes w)
    (hn : acc.length + bs.length = n) :
    decodeFrom m (some (n, acc)) (w :: ws) = afterPacket m (acc ++ bs) ws := by
  obtain ⟨pad, hpad⟩ := hw
  rw [decodeFrom, ← hpad, if_pos (by simp; omega), ← List.append_assoc, List.take_left' (by simp; omega), afterPacket]

lemma decodeFrom_loadWords {n : ℕ} {acc bs ws : List ℕ} (hne : bs ≠ []) (hb : ∀ b ∈ bs, b < 0x100)
    (hn : acc.length + bs.length = n) :
    decodeFrom m (some (n, acc)) (loadWords bs ++ ws) = afterPacket m (acc ++ bs) ws := by
  induction bs using loadWords.induct generalizing acc with
  | case1 => exact absurd rfl hne
  | case2 a =>
    have hw := wordBytes_one (hb a (by simp))
    exact decodeFrom_last ⟨[0, 0, 0], by rw [hw]; rfl⟩ hn
  | case3 a b =>
    have hw := wordBytes_two (hb a (by simp)) (hb b (by simp))
    exact decodeFrom_last ⟨[0, 0], by rw [hw]; rfl⟩ hn
  | case4 a b c =>
    have hw := wordBytes_three (hb a (by simp)) (hb b (by simp)) (hb c (by simp))
    exact decodeFrom_last ⟨[0], by rw [hw]; rfl⟩ hn
  | case5 a b c d rest ih =>
    have hw := wordBytes_four (hb a (by simp)) (hb b (by simp)) (hb c (by simp)) (hb d (by simp))
    cases rest with
    | nil => exact decodeFrom_last ⟨[], by rw [hw]; rfl⟩ hn
    | cons e rest =>
      simp only [List.length_cons] at hn
      rw [loadWords, List.cons_append, decodeFrom, hw, if_neg (by simp; omega), ih (by simp) (fun b hmem => hb b (by simp [hmem]))
        (by simp; omega), List.append_assoc]
      rfl

lemma commandByte {n : ℕ} : writeCmd ||| n <<< 4 = 9 + 16 * n := by
  rw [writeCmd, or_shiftLeft (by decide)]
  norm_num

lemma decodeFrom_head {n w : ℕ} {tail ws : List ℕ} (hn : n < 16)
    (hw : wordBytes w = (9 + 16 * n) :: tail) : decodeFrom m none (w :: ws) =
      if n ≤ tail.length then afterPacket m (tail.take n) ws
      else decodeFrom m (some (n, tail)) ws := by
  have hbyte : w % 0x100 = 9 + 16 * n := (List.cons.inj hw).1
  rw [decodeFrom, if_neg (by rw [waitCmd]; omega), if_neg (by rw [reportCmd]; omega),
    if_pos (by rw [writeCmd]; omega), hw, show w / 16 % 16 = n by omega]
  rfl

lemma decodeFrom_packet {addr data ws : List ℕ} (ha : addr ≠ []) (hlen : (addr ++ data).length ≤ 11)
    (hb : ∀ b ∈ addr ++ data, b < 0x100) :
    decodeFrom m none (loadWords (packetBytes addr data) ++ ws) =
      afterPacket m (addr ++ data) ws := by
  have hne : addr ++ data ≠ [] := by simp [ha]
  rw [packetBytes, commandByte]
  generalize addr ++ data = bs at hlen hb hne
  have hc : 9 + 16 * bs.length < 0x100 := by omega
  match bs, hne with
  | [a], _ =>
    rw [loadWords, List.singleton_append,
      decodeFrom_head (by simp) (wordBytes_two hc (hb a (by simp)))]
    rfl
  | [a, b], _ =>
    rw [loadWords, List.singleton_append,
      decodeFrom_head (by simp) (wordBytes_three hc (hb a (by simp)) (hb b (by simp)))]
    rfl
  | [a, b, c], _ =>
    rw [loadWords, loadWords, List.singleton_append, decodeFrom_head (by simp)
      (wordBytes_four hc (hb a (by simp)) (hb b (by simp)) (hb c (by simp)))]
    rfl
  | a :: b :: c :: d :: rest, _ =>
    rw [loadWords, List.cons_append, decodeFrom_head (by omega)
      (wordBytes_four hc (hb a (by simp)) (hb b (by simp)) (hb c (by simp))), if_neg (by simp),
      decodeFrom_loadWords (by simp) (fun e he => hb e (by simp_all)) (by simp; omega)]
    rfl

lemma ofBytes_addrBytes (a : UInt32) : ofBytes (addrBytes m a) = a.toNat % addrMod m := by
  rw [addrBytes, addrMod]
  cases m.addrType with
  | byte => simp [ofBytes, AddrType.sentBytes]
  | _ =>
    simp only [ofBytes, AddrType.sentBytes, List.foldl_cons, List.foldl_nil]
    omega

lemma ofBytes_dataBytes (d : UInt32) : ofBytes (dataBytes m d) = d.toNat % dataMod m := by
  rw [dataBytes, dataMod]
  cases m.dataType <;> simp only [ofBytes, DataType.numBytes, List.foldl_cons, List.foldl_nil] <;> omega

lemma addrBytes_lt (a : UInt32) : ∀ b ∈ addrBytes m a, b < 0x100 := by
  rw [addrBytes]
  cases m.addrType <;> simp <;> omega

lemma dataBytes_lt (d : UInt32) : ∀ b ∈ dataBytes m d, b < 0x100 := by
  rw [dataBytes]
  cases m.dataType <;> simp <;> omega

/-- The entries have consecutive addresses. -/
def Consecutive (regs : List Reg) : Prop := regs.IsChain fun r r' => r.regAddr + 1 = r'.regAddr

lemma addr_succ (a : UInt32) : (a + 1).toNat % addrMod m = (a.toNat % addrMod m + 1) % addrMod m := by
  rw [UInt32.toNat_add, addrMod]
  cases m.addrType <;> simp [AddrType.sentBytes]

lemma dataOps_eq {regs : List Reg} {addr : ℕ} (hcons : Consecutive regs)
    (haddr : ∀ r ∈ regs.head?, addr % addrMod m = r.regAddr.toNat % addrMod m) (tail : List ℕ) :
    dataOps m regs.length addr (regs.flatMap (fun r => dataBytes m r.regData) ++ tail) =
      regs.map (writeOp m) := by
  induction regs generalizing addr with
  | nil => rfl
  | cons r rest ih =>
    have hlen := length_dataBytes (m := m) r.regData
    rw [List.length_cons, dataOps, List.flatMap_cons, List.append_assoc, List.take_left' hlen,
      List.drop_left' hlen, ofBytes_dataBytes, haddr r (by simp), ih hcons.tail ?_]
    · rfl
    · intro r' hr'
      cases rest with
      | nil => cases hr'
      | cons r₁ rest =>
        cases hr'
        rw [← (List.isChain_cons_cons.mp hcons).1, addr_succ, ← haddr r (by simp)]
        simp

lemma length_flatMap_dataBytes (regs : List Reg) :
    (regs.flatMap fun r => dataBytes m r.regData).length = m.dataType.numBytes * regs.length := by
  induction regs with
  | nil => simp
  | cons r rest ih =>
    rw [List.flatMap_cons, List.length_append, length_dataBytes, ih, List.length_cons, Nat.mul_succ]
    omega

lemma packetOps_eq {r : Reg} {rest : List Reg} (hcons : Consecutive (r :: rest)) :
    packetOps m (addrBytes m r.regAddr ++ (r :: rest).flatMap fun q => dataBytes m q.regData) =
      some ((r :: rest).map (writeOp m)) := by
  have hpos := m.dataType.numBytes_pos.1
  have hlen := length_addrBytes (m := m) r.regAddr
  have hdata := length_flatMap_dataBytes (m := m) (r :: rest)
  have hops := @dataOps_eq m _ (r.regAddr.toNat % addrMod m) hcons (by simp) []
  rw [List.append_nil] at hops
  rw [packetOps, List.length_append, hlen, hdata, Nat.add_sub_cancel_left, if_pos ⟨by omega, by simp⟩,
    List.take_left' hlen, List.drop_left' hlen, Nat.mul_div_cancel_left _ hpos, ofBytes_addrBytes,
    hops]

/-! ### The words of a run -/

/-- The words are read as the operations, whatever follows them. -/
def Reads (m : Setting) (ws : List ℕ) (os : List BusOp) : Prop :=
  ∀ tail, decodeFrom m none (ws ++ tail) = (decodeFrom m none tail).map (os ++ ·)

lemma Reads.append {ws ws' : List ℕ} {os os' : List BusOp} (h : Reads m ws os)
    (h' : Reads m ws' os') : Reads m (ws ++ ws') (os ++ os') := by
  intro tail
  rw [List.append_assoc, h, h', Option.map_map]
  congr 1
  funext x
  simp

lemma reads_nil : Reads m [] [] := by
  intro tail
  cases h : decodeFrom m none tail <;> simp [h]

lemma Reads.decode {ws : List ℕ} {os : List BusOp} (h : Reads m ws os) :
    decode m ws = some os := by
  have := h []
  simpa [CciQueue.decode, decodeFrom] using this

lemma reads_report (qFree : Bool) : Reads m (reportWords qFree) [] := by
  cases qFree with
  | true => exact reads_nil
  | false =>
    intro tail
    rw [reportWords, if_neg (by decide), List.singleton_append, decodeFrom, if_neg (by decide),
      if_pos (by decide)]
    cases h : decodeFrom m none tail <;> simp

/-- The wait the loop loads: its cycles are counted in 32 bits. -/
def loadedWait (m : Setting) (r : Reg) : List BusOp :=
  if r.delayed then [.wait ((r.delay * m.cyclesPerUs).toNat / 0x100)] else []

lemma reads_wait (r : Reg) : Reads m (waitWords m r.delay) (loadedWait m r) := by
  intro tail
  by_cases h : r.delayed
  · rw [waitWords, if_pos (show r.delay > 0 ∧ r.delay < maxDelay from h), loadedWait, if_pos h, List.singleton_append, Nat.lor_comm,
      or_shiftLeft (by decide), decodeFrom, if_pos (by rw [waitCmd]; omega)]
    congr 2
    funext x
    simp only [List.singleton_append, List.cons.injEq, BusOp.wait.injEq, and_true]
    rw [waitCmd, UInt32.toNat_div]
    simp
    omega
  · rw [waitWords, if_neg (show ¬(r.delay > 0 ∧ r.delay < maxDelay) from h), loadedWait, if_neg h]
    exact reads_nil tail

lemma follows_consecutive (n t : ℕ) (cmds : List Reg) :
    Consecutive (cmds.take (follows m n t cmds + 1)) := by
  induction cmds generalizing t with
  | nil => exact .nil
  | cons r rest ih =>
    cases rest with
    | nil => exact .singleton r
    | cons r' rest =>
      rw [follows]
      split_ifs with hjoin
      · have := ih (t + 1)
        rw [List.take_succ_cons] at this
        exact .cons_cons hjoin.2.1 this
      · exact .singleton r

lemma reads_loadPacket (r : Reg) (rs : List Reg) {f : ℕ}
    (hf : f = follows m (rs.length + 1) 0 (r :: rs)) :
    Reads m (loadPacket m f (r :: rs)).1 ((r :: rs.take f).map (writeOp m) ++ loadedWait m r) ∧
      (loadPacket m f (r :: rs)).2 = rs.drop f := by
  have ha := m.addrType.sentBytes_le
  have hpos := m.addrType.sentBytes_pos
  have hd := m.dataType.numBytes_pos
  have hp := m.payload_bounds
  have hroom := follows_room (m := m) (rs.length + 1) 0 (r :: rs) (by omega)
  have hcons := follows_consecutive (m := m) (rs.length + 1) 0 (r :: rs)
  have hlt := follows_lt (m := m) (rs.length + 1) 0 r rs
  rw [← hf] at hroom hcons hlt
  rw [List.take_succ_cons] at hcons
  have hloop := dataLoop_eq (m := m) f 0 (r :: rs)
    (by simpa using Nat.lt_succ_of_le hlt) hroom
  rw [Nat.mul_zero, Nat.add_zero, List.take_succ_cons, List.drop_succ_cons] at hloop
  have hlen := length_addrBytes (m := m) r.regAddr
  simp only [loadPacket, hlen, hloop, and_true]
  refine Reads.append ?_ (reads_wait r)
  intro tail
  have hcount := length_flatMap_dataBytes (m := m) (r :: rs.take f)
  rw [List.length_cons, List.length_take, min_eq_left hlt] at hcount
  rw [Nat.zero_add] at hroom
  rw [decodeFrom_packet (fun h => by rw [h] at hlen; simp at hlen; omega)
    (by rw [List.length_append, hlen, hcount]; omega) ?_, afterPacket, packetOps_eq hcons]
  · rfl
  · intro b hb
    rcases List.mem_append.mp hb with hb | hb
    · exact addrBytes_lt _ b hb
    · obtain ⟨q, -, hb⟩ := List.mem_flatMap.mp hb
      exact dataBytes_lt _ b hb

/-- What a run makes the bus do. -/
def emitted (m : Setting) : List Reg → List BusOp
  | [] => []
  | r :: rs =>
    (r :: rs.take (follows m (rs.length + 1) 0 (r :: rs))).map (writeOp m) ++ loadedWait m r ++
      emitted m (rs.drop (follows m (rs.length + 1) 0 (r :: rs)))
termination_by regs => regs.length
decreasing_by
  simp only [List.length_drop, List.length_cons]
  omega

lemma queueBody_step {hw : ℕ → Observed} {s t : QueueState} (h : queueBody m hw s = .inr t) :
    ∃ ws os, t.words = s.words ++ ws ∧ Reads m ws os ∧
      os ++ emitted m t.cmds = emitted m s.cmds := by
  obtain ⟨cmds, words, round⟩ := s
  cases cmds with
  | nil => simp [queueBody] at h
  | cons r rs =>
    obtain ⟨len, hpos, hle, hcalc⟩ := camCciCalcCmdLen_eq (m := m) r rs
    obtain ⟨hreads, hrest⟩ := reads_loadPacket (m := m) r rs rfl
    have hlen : ((len : ℤ) % 0x10000).toNat = len := by omega
    simp only [queueBody, reduceCtorEq, if_false, hcalc, hlen, hpos.ne'] at h
    split_ifs at h with hfull hrc hhalf
    · cases h
      exact ⟨_, [], rfl, reads_report _, rfl⟩
    · cases h
      refine ⟨_, _, List.append_assoc _ _ _, (reads_report _).append hreads, ?_⟩
      rw [hrest, List.nil_append, emitted]
    · cases h
      refine ⟨_, _, List.append_assoc _ _ _, reads_nil.append hreads, ?_⟩
      rw [hrest, List.nil_append, emitted]

lemma decode_of_dataQueue {hw : ℕ → Observed} {regs : List Reg} {ws : List ℕ}
    (h : CamCciDataQueue m hw regs ws) : decode m ws = some (emitted m regs) := by
  obtain ⟨-, -, s, hs, rfl⟩ := h
  obtain ⟨t, ht, hbody⟩ := hs.exists_break
  have hrun : ∃ os, Reads m t.words os ∧ os ++ emitted m t.cmds = emitted m regs := by
    clear hbody
    induction ht with
    | refl => exact ⟨[], reads_nil, rfl⟩
    | step _ hb ih =>
      obtain ⟨os, hos, heq⟩ := ih
      obtain ⟨ws, os', hws, hos', heq'⟩ := queueBody_step hb
      refine ⟨os ++ os', by rw [hws]; exact hos.append hos', ?_⟩
      rw [List.append_assoc, heq', heq]
  obtain ⟨os, hos, heq⟩ := hrun
  have hend : t.cmds = [] ∧ s = t := by
    rw [queueBody] at hbody
    split_ifs at hbody with hnil
    · cases hbody
      exact ⟨hnil, rfl⟩
    · simp only at hbody
      split_ifs at hbody <;> cases hbody
  obtain ⟨hnil, rfl⟩ := hend
  rw [hnil, emitted, List.append_nil] at heq
  rw [← heq]
  exact hos.decode

/-- Hardware whose queue is always empty. -/
def idle : ℕ → Observed := fun _ => ⟨0, true, 0⟩

lemma queueBody_idle (r : Reg) (rs : List Reg) (ws : List ℕ) (k : ℕ) :
    ∃ t, queueBody m idle ⟨r :: rs, ws, k⟩ = .inr t ∧ t.cmds.length ≤ rs.length := by
  obtain ⟨len, hpos, hle, hcalc⟩ := camCciCalcCmdLen_eq (m := m) r rs
  obtain ⟨-, hrest⟩ := reads_loadPacket (m := m) r rs rfl
  have hlen : ((len : ℤ) % 0x10000).toNat = len := by omega
  have hneed : ¬((idle k).readVal + UInt32.ofNat len + 1 > m.queue.maxQueueSize) := by
    simp only [idle]
    cases m.queue <;> interval_cases len <;> decide
  refine ⟨_, by
    simp only [queueBody, reduceCtorEq, if_false, hcalc, hlen, hpos.ne']
    rw [if_neg hneed], ?_⟩
  simp only [hrest, List.length_drop]
  omega

lemma exists_dataQueue (m : Setting) (regs : List Reg) (hne : regs.length ≠ 0)
    (hmax : regs.length ≤ maxWrite) : ∃ ws, CamCciDataQueue m idle regs ws := by
  have hstep : ∀ s t : QueueState, True → queueBody m idle s = .inr t →
      True ∧ t.cmds.length < s.cmds.length := by
    rintro ⟨_ | ⟨r, rs⟩, ws, k⟩ t - h
    · simp [queueBody] at h
    · obtain ⟨u, hu, hlen⟩ := queueBody_idle (m := m) r rs ws k
      rw [h] at hu
      cases hu
      exact ⟨trivial, Nat.lt_succ_of_le hlen⟩
  obtain ⟨⟨exit, s⟩, hs⟩ := WhileLoop.exists_returns (fun s : QueueState => s.cmds.length) hstep
    (s := ⟨regs, [], 0⟩) trivial
  obtain ⟨⟨_ | ⟨r, rs⟩, ws, k⟩, -, hbody⟩ := hs.exists_break
  · simp only [queueBody, if_true] at hbody
    cases hbody
    exact ⟨_, hne, hmax, _, hs, rfl⟩
  · obtain ⟨u, hu, -⟩ := queueBody_idle (m := m) r rs ws k
    rw [hbody] at hu
    cases hu

lemma requested_append (xs ys : List Reg) :
    requested m (xs ++ ys) = requested m xs ++ requested m ys := by
  simp [requested]

lemma requested_of_not_delayed {regs : List Reg} (h : ∀ r ∈ regs, ¬r.delayed) :
    requested m regs = regs.map (writeOp m) := by
  induction regs with
  | nil => rfl
  | cons r rest ih =>
    have hr : waitOps m r = [] := if_neg (h r (by simp))
    have hrest := ih fun q hq => h q (by simp [hq])
    rw [requested] at hrest ⊢
    rw [List.flatMap_cons, hr, hrest]
    rfl

lemma emitted_cons (r : Reg) (rs : List Reg) : emitted m (r :: rs) =
    (r :: rs.take (follows m (rs.length + 1) 0 (r :: rs))).map (writeOp m) ++ loadedWait m r ++
      emitted m (rs.drop (follows m (rs.length + 1) 0 (r :: rs))) := by
  rw [emitted]

lemma emitted_ne_wait (regs : List Reg) (n : ℕ) (os : List BusOp) :
    emitted m regs ≠ .wait n :: os := by
  cases regs with
  | nil =>
    rw [emitted]
    simp
  | cons r rs =>
    rw [emitted_cons]
    simp [writeOp]

lemma follows_delay (n t : ℕ) (cmds : List Reg) {q : Reg}
    (hq : q ∈ cmds.take (follows m n t cmds)) : q.delay = 0 := by
  induction cmds generalizing t with
  | nil => simp at hq
  | cons r rest ih =>
    cases rest with
    | nil => simp [follows] at hq
    | cons r' rest =>
      rw [follows] at hq
      split_ifs at hq with hjoin
      · rw [List.take_succ_cons] at hq
        rcases List.mem_cons.mp hq with rfl | hq
        · exact hjoin.1
        · exact ih _ hq
      · simp at hq

lemma not_delayed_of_zero {r : Reg} (h : r.delay = 0) : ¬r.delayed := by
  rintro ⟨hpos, -⟩
  rw [h] at hpos
  exact absurd hpos (by decide)

/-- The cycles of the wait fit 32 bits. -/
def Reg.waitFits (m : Setting) (r : Reg) : Prop :=
  r.delayed → r.delay.toNat * m.cyclesPerUs.toNat < 2 ^ 32

lemma loadedWait_append_eq_iff (r : Reg) (xs ys : List BusOp) :
    loadedWait m r ++ xs = waitOps m r ++ ys ↔ r.waitFits m ∧ xs = ys := by
  by_cases h : r.delayed
  · rw [loadedWait, if_pos h, waitOps, if_pos h, Reg.waitFits, UInt32.toNat_mul]
    simp only [List.singleton_append, List.cons.injEq, BusOp.wait.injEq, h, forall_const]
    refine and_congr_left fun _ => ⟨fun heq => ?_, fun hlt => ?_⟩
    · by_contra hge
      omega
    · rw [Nat.mod_eq_of_lt hlt]
  · rw [loadedWait, if_neg h, waitOps, if_neg h]
    simp [Reg.waitFits, h]

lemma separate_cons {r : Reg} {rs : List Reg} : Separate m (r :: rs) ↔
    (∀ q ∈ rs.take (follows m (rs.length + 1) 0 (r :: rs)), ¬q.delayed) ∧
      Separate m (rs.drop (follows m (rs.length + 1) 0 (r :: rs))) := by
  constructor
  · intro h
    cases h with
    | cons h hrest => exact ⟨h, hrest⟩
  · exact fun h => .cons h.1 h.2

lemma packet_eq_iff {r l : Reg} {g : List Reg} (hr : r.delay = 0) (hg : ∀ q ∈ g, q.delay = 0)
    (d : List Reg) :
    (r :: (g ++ [l])).map (writeOp m) ++ loadedWait m r ++ emitted m d =
        requested m (r :: (g ++ [l]) ++ d) ↔
      ¬l.delayed ∧ emitted m d = requested m d := by
  have hfront : requested m (r :: g) = (r :: g).map (writeOp m) := by
    refine requested_of_not_delayed fun q hq => ?_
    rcases List.mem_cons.mp hq with rfl | hq
    · exact not_delayed_of_zero hr
    · exact not_delayed_of_zero (hg q hq)
  have hwait : loadedWait m r = [] := if_neg (not_delayed_of_zero hr)
  have hl : requested m [l] = writeOp m l :: waitOps m l := by simp [requested]
  rw [hwait, List.append_nil, ← List.cons_append, requested_append, requested_append, hfront, hl,
    List.map_append, List.append_assoc, List.append_assoc, List.append_cancel_left_eq]
  simp only [List.map_cons, List.map_nil, List.cons_append, List.cons.injEq, true_and]
  by_cases h : l.delayed
  · rw [waitOps, if_pos h]
    simp [h, emitted_ne_wait]
  · rw [waitOps, if_neg h]
    simp [h]

lemma emitted_eq_requested_iff (regs : List Reg) : emitted m regs = requested m regs ↔
    Separate m regs ∧ ∀ r ∈ regs, r.waitFits m := by
  induction regs using emitted.induct m with
  | case1 => simp [emitted, requested, Separate.nil]
  | case2 r rs ih =>
    have hdelay := fun q => @follows_delay m (rs.length + 1) 0 (r :: rs) q
    have hlt := follows_lt (m := m) (rs.length + 1) 0 r rs
    rw [emitted_cons, separate_cons]
    generalize follows m (rs.length + 1) 0 (r :: rs) = f at ih hdelay hlt ⊢
    have hsplit := List.take_append_drop f rs
    generalize rs.drop f = d at ih hsplit ⊢
    cases f with
    | zero =>
      obtain rfl : d = rs := by simpa using hsplit
      have hreq : requested m (r :: d) = writeOp m r :: (waitOps m r ++ requested m d) := by
        simp [requested]
      rw [List.take_zero, hreq, List.map_singleton, List.append_assoc, List.singleton_append,
        List.cons.injEq, loadedWait_append_eq_iff, ih]
      simp only [List.not_mem_nil, false_implies, implies_true, true_and, List.forall_mem_cons]
      tauto
    | succ f =>
      rw [List.take_succ_cons] at hdelay
      have hr : r.delay = 0 := hdelay r (.head _)
      have hg : ∀ q ∈ rs.take f, q.delay = 0 := fun q hq => hdelay q (.tail _ hq)
      rw [List.take_succ_eq_append_getElem hlt] at hsplit ⊢
      generalize rs.take f = g at hg hsplit ⊢
      generalize rs[f] = l at hsplit ⊢
      subst hsplit
      have hzero : ∀ q ∈ g, ¬q.delayed := fun q hq => not_delayed_of_zero (hg q hq)
      have hfits : ∀ q : Reg, ¬q.delayed → q.waitFits m := fun q hq h => absurd h hq
      have hrfits := hfits r (not_delayed_of_zero hr)
      have hgfits : ∀ q ∈ g, q.waitFits m := fun q hq => hfits q (hzero q hq)
      refine Iff.trans (packet_eq_iff hr hg d) ?_
      rw [ih]
      simp only [List.forall_mem_append, List.forall_mem_cons]
      constructor
      · rintro ⟨hl, hsep, hd⟩
        exact ⟨⟨⟨hzero, hl, by simp⟩, hsep⟩, hrfits, ⟨hgfits, hfits _ hl, by simp⟩, hd⟩
      · rintro ⟨⟨⟨-, hl, -⟩, hsep⟩, -, -, hd⟩
        exact ⟨hl, hsep, hd⟩

/-- The words do what the array asks for exactly when no delayed entry is packed behind
another one and the cycles of every wait fit 32 bits. -/
theorem performs_iff (m : Setting) (regs : List Reg) (hne : regs.length ≠ 0)
    (hmax : regs.length ≤ maxWrite) :
    Performs m regs ↔ Separate m regs ∧ ∀ r ∈ regs, r.waitFits m := by
  rw [← emitted_eq_requested_iff]
  constructor
  · intro h
    obtain ⟨ws, hws⟩ := exists_dataQueue m _ hne hmax
    exact Option.some.inj ((decode_of_dataQueue hws).symm.trans (h idle ws hws))
  · intro h hw ws hws
    rw [decode_of_dataQueue hws, h]

/-- A byte-wide sensor on a payload of 11, clocked at 19.2 MHz. -/
def byteSetting : Setting := ⟨.byte, .byte, 11, 4915, .queue0, .inr rfl⟩

/-- Three entries in a packet, and one with a delay in a packet of its own. -/
def packedRegs : List Reg := [⟨0x10, 1, 0⟩, ⟨0x11, 2, 0⟩, ⟨0x12, 3, 0⟩, ⟨0x20, 4, 100⟩]

theorem packedRegs_performs : Performs byteSetting packedRegs := by
  refine (performs_iff byteSetting packedRegs (by decide) (by decide)).mpr ⟨?_, ?_⟩
  · have hrest : Separate byteSetting [⟨0x20, 4, 100⟩] := separate_cons.mpr ⟨by decide, .nil⟩
    exact separate_cons.mpr ⟨by decide, hrest⟩
  · intro r hr _
    have hdelay : r.delay.toNat ≤ 100 := by
      revert r
      decide
    exact (Nat.mul_le_mul_right _ hdelay).trans_lt (by decide)

/-- The second entry is packed behind the first one, and its wait is lost. -/
theorem packedDelay_not_performs : ¬Performs byteSetting [⟨0x10, 1, 0⟩, ⟨0x11, 2, 100⟩] := by
  intro h
  obtain ⟨ws, hws⟩ := exists_dataQueue byteSetting [⟨0x10, 1, 0⟩, ⟨0x11, 2, 100⟩]
    (by decide) (by decide)
  have heq := Option.some.inj ((decode_of_dataQueue hws).symm.trans (h idle ws hws))
  rw [emitted_eq_requested_iff, separate_cons] at heq
  exact heq.1.1 ⟨0x11, 2, 100⟩ (by decide) (by decide)

end CameraKernel.CciQueue
