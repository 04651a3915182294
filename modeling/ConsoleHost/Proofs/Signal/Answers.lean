import ConsoleHost.Proofs.Signal.Checked
import ConsoleHost.Proofs.Signal.Relay

/-! What reading one signal answers. The bytes of a source and the way in which it ends settle the answer and the bytes
that are left, for every source there is. Every signal takes some bytes, so a relay comes to an end. -/

namespace ConsoleHost

/-- A source that has too little left is read to its end, and the read reports why it ended. -/
theorem ByteSource.readExact_of_short {s : ByteSource} {want : Nat} (h : s.pending.length < want) :
    ∃ next, s.readExact want = (.error s.shortfall, next) ∧ next.pending = [] ∧ next.failure = s.failure := by
  obtain ⟨hAnswer, hPending, hFailure⟩ := s.readExact_eq want
  rw [if_neg (Nat.not_le_of_lt h)] at hAnswer
  rw [List.drop_of_length_le (Nat.le_of_lt h)] at hPending
  exact ⟨(s.readExact want).2, Prod.ext hAnswer rfl, hPending, hFailure⟩

namespace Signal

open Packet

/-- The codes that there are, and the least size of each. -/
inductive Least : UInt8 → Nat → Prop where
  | notifyApp : Least 1 8
  | setForeground : Least 5 9
  | endTask : Least 7 16

/-- Why a stream that stops inside a packet cannot be read on. -/
def breakOff (failure : Option String) : String := failure.getD "failed to fill whole buffer"

/-- Everything that the bytes of a stream can be read as, with the bytes that are left. After the last byte reading
fails, or the stream has ended. -/
inductive ReadsAs (failure : Option String) :
    List UInt8 → Except Fault (Option ControlRequest) → List UInt8 → Prop where
  | ended (hEnd : failure = none) : ReadsAs failure [] (.ok none) []
  | failed {reason : String} (hEnd : failure = some reason) : ReadsAs failure [] (.error (.read reason)) []
  | unknownCode {code : UInt8} {rest : List UInt8} (hCode : ∀ least, ¬Least code least) :
      ReadsAs failure (code :: rest) (.error (.unknownCode code)) rest
  | cutSize {code : UInt8} {least : Nat} {bytes : List UInt8} (hCode : Least code least) (hCut : bytes.length < 4) :
      ReadsAs failure (code :: bytes) (.error (.read (breakOff failure))) []
  | badSize {code : UInt8} {least : Nat} {size : UInt32} {rest : List UInt8} (hCode : Least code least)
      (hSize : size.toNat < least ∨ 64 < size.toNat) :
      ReadsAs failure (code :: (LittleEndian.bytes32 size ++ rest)) (.error (.badSize code size)) rest
  | cutBody {code : UInt8} {least : Nat} {size : UInt32} {body : List UInt8} (hCode : Least code least)
      (hLeast : least ≤ size.toNat) (hMost : size.toNat ≤ 64) (hCut : body.length < size.toNat - 4) :
      ReadsAs failure (code :: (LittleEndian.bytes32 size ++ body)) (.error (.read (breakOff failure))) []
  | signal {p : Packet} {request : ControlRequest} {rest : List UInt8} (wellFormed : p.WellFormed)
      (asks : Asks p.code p.body request) : ReadsAs failure (p.bytes ++ rest) (.ok (some request)) rest

variable {code : UInt8} {least : Nat} {size : UInt32} {failure : Option String} {bytes rest : List UInt8}
  {answer : Except Fault (Option ControlRequest)} {s next : ByteSource}

theorem least_iff : Least code least ↔ minSize? code = some least := by
  rw [minSize?_eq_some_iff]
  constructor
  · intro h
    cases h <;> simp
  · rintro (⟨rfl, rfl⟩ | ⟨rfl, rfl⟩ | ⟨rfl, rfl⟩)
    · exact .notifyApp
    · exact .setForeground
    · exact .endTask

/-- A packet is well-formed if its code is known, its size is in range and its body has the length that the
size gives. -/
theorem wellFormed_iff {p : Packet} : p.WellFormed ↔ ∃ least, Least p.code least ∧ least ≤ p.size.toNat ∧
    p.size.toNat ≤ 64 ∧ p.body.length = p.size.toNat - 4 := by
  constructor
  · intro wellFormed
    rcases wellFormed.least_le with ⟨hCode, hLeast⟩ | ⟨hCode, hLeast⟩ | ⟨hCode, hLeast⟩
    · exact ⟨8, hCode ▸ .notifyApp, hLeast, wellFormed.size_le, wellFormed.length_body⟩
    · exact ⟨9, hCode ▸ .setForeground, hLeast, wellFormed.size_le, wellFormed.length_body⟩
    · exact ⟨16, hCode ▸ .endTask, hLeast, wellFormed.size_le, wellFormed.length_body⟩
  · rintro ⟨least, known, hLeast, hMost, hLength⟩
    rcases minSize?_eq_some_iff.1 (least_iff.1 known) with ⟨hCode, rfl⟩ | ⟨hCode, rfl⟩ | ⟨hCode, rfl⟩
    · exact ⟨.inl ⟨hCode, hLeast⟩, hMost, hLength⟩
    · exact ⟨.inr (.inl ⟨hCode, hLeast⟩), hMost, hLength⟩
    · exact ⟨.inr (.inr ⟨hCode, hLeast⟩), hMost, hLength⟩

theorem Packet.bytes_append (p : Packet) (rest : List UInt8) :
    p.bytes ++ rest = p.code :: (LittleEndian.bytes32 p.size ++ (p.body ++ rest)) := by
  simp [bytes]

/-- Behind a code that there is, a packet follows, or what keeps it from being one. -/
theorem exists_readsAs_of_least (failure : Option String) (hCode : Least code least) (bytes : List UInt8) :
    ∃ answer rest, ReadsAs failure (code :: bytes) answer rest := by
  by_cases hCut : bytes.length < 4
  · exact ⟨_, _, .cutSize hCode hCut⟩
  · obtain ⟨size, bytes, rfl⟩ := LittleEndian.exists_bytes32_append (Nat.le_of_not_lt hCut)
    by_cases hSize : size.toNat < least ∨ 64 < size.toNat
    · exact ⟨_, _, .badSize hCode hSize⟩
    · rw [not_or, Nat.not_lt, Nat.not_lt] at hSize
      by_cases hBody : bytes.length < size.toNat - 4
      · exact ⟨_, _, .cutBody hCode hSize.1 hSize.2 hBody⟩
      · have wellFormed : Packet.WellFormed ⟨code, size, bytes.take (size.toNat - 4)⟩ :=
          wellFormed_iff.2 ⟨least, hCode, hSize.1, hSize.2, List.length_take_of_le (Nat.le_of_not_lt hBody)⟩
        obtain ⟨request, asks⟩ := wellFormed.exists_asks
        have read : ReadsAs failure _ _ (bytes.drop (size.toNat - 4)) := .signal wellFormed asks
        rw [Packet.bytes_append, List.take_append_drop] at read
        exact ⟨_, _, read⟩

/-- There is nothing that cannot be read somehow. -/
theorem exists_readsAs (failure : Option String) (bytes : List UInt8) :
    ∃ answer rest, ReadsAs failure bytes answer rest := by
  cases bytes with
  | nil =>
      cases failure with
      | none => exact ⟨_, _, .ended rfl⟩
      | some reason => exact ⟨_, _, .failed rfl⟩
  | cons code bytes =>
      by_cases hKnown : ∃ least, Least code least
      · obtain ⟨least, hCode⟩ := hKnown
        exact exists_readsAs_of_least failure hCode bytes
      · exact ⟨_, _, .unknownCode (not_exists.1 hKnown)⟩

/-! Each of these is what `readOne` does. -/

/-- A cut inside a packet is reported as a failed read with the reason for the end. -/
theorem ofShortfall_shortfall (s : ByteSource) : Fault.ofShortfall s.shortfall = .read (breakOff s.failure) := by
  unfold ByteSource.shortfall
  cases s.failure <;> rfl

/-- Behind a code that there is, the rest of a packet is read. -/
theorem readOne_of_least (hCode : Least code least) (h : s.pending = code :: bytes) :
    ∃ middle : ByteSource, middle.pending = bytes ∧ middle.failure = s.failure ∧
      ∀ fault next, readBody code least middle = (.error fault, next) → readOne s = (.error fault, next) := by
  have hFront : s.pending = [code] ++ bytes := h
  obtain ⟨middle, hRead, hPending, hFailure⟩ := ByteSource.readExact_of_append hFront
  refine ⟨middle, hPending, hFailure, fun fault next hBody => ?_⟩
  rw [List.length_singleton] at hRead
  simp only [readOne, hRead, List.headD_cons, least_iff.1 hCode, hBody]

/-- A source that ends within the size field is cut short. -/
theorem readBody_of_cutSize (code : UInt8) (least : Nat) (h : s.pending.length < 4) :
    ∃ next, readBody code least s = (.error (.read (breakOff s.failure)), next) ∧ next.pending = [] ∧
      next.failure = s.failure := by
  obtain ⟨next, hRead, hPending, hFailure⟩ := ByteSource.readExact_of_short h
  refine ⟨next, ?_, hPending, hFailure⟩
  simp only [readBody, hRead, ofShortfall_shortfall]

/-- The size of a packet is read off its four bytes. -/
theorem readExact_of_size (h : s.pending = LittleEndian.bytes32 size ++ rest) :
    ∃ next, s.readExact 4 = (.ok (LittleEndian.bytes32 size), next) ∧
      LittleEndian.word32At 0 (LittleEndian.bytes32 size) = size ∧ next.pending = rest ∧
      next.failure = s.failure := by
  obtain ⟨next, hRead, hPending, hFailure⟩ := ByteSource.readExact_of_append h
  rw [LittleEndian.length_bytes32] at hRead
  exact ⟨next, hRead, by simpa using LittleEndian.word32At_bytes32 size [], hPending, hFailure⟩

/-- A size out of range is reported once it has been read, and the body is left in the source. -/
theorem readBody_of_badSize (code : UInt8) (h : s.pending = LittleEndian.bytes32 size ++ rest)
    (hSize : size.toNat < least ∨ 64 < size.toNat) :
    ∃ next, readBody code least s = (.error (.badSize code size), next) ∧ next.pending = rest ∧
      next.failure = s.failure := by
  obtain ⟨next, hRead, hWord, hPending, hFailure⟩ := readExact_of_size h
  refine ⟨next, ?_, hPending, hFailure⟩
  simp only [readBody, hRead, hWord, maxSize, if_pos hSize]

/-- A source that ends within the body is cut short. -/
theorem readBody_of_cutBody (code : UInt8) (h : s.pending = LittleEndian.bytes32 size ++ rest)
    (hLeast : least ≤ size.toNat) (hMost : size.toNat ≤ 64) (hCut : rest.length < size.toNat - 4) :
    ∃ next, readBody code least s = (.error (.read (breakOff s.failure)), next) ∧ next.pending = [] ∧
      next.failure = s.failure := by
  obtain ⟨middle, hRead, hWord, hMiddle, hSame⟩ := readExact_of_size h
  rw [← hMiddle] at hCut
  obtain ⟨next, hBody, hPending, hFailure⟩ := ByteSource.readExact_of_short hCut
  have hFits : ¬(size.toNat < least ∨ 64 < size.toNat) := by omega
  refine ⟨next, ?_, hPending, hFailure.trans hSame⟩
  simp only [readBody, hRead, hWord, maxSize, if_neg hFits, hBody, ofShortfall_shortfall, hSame]

/-- What the bytes read as is what a read of one signal answers, with the rest left in the source. -/
theorem readOne_of_readsAs (read : ReadsAs s.failure s.pending answer rest) :
    ∃ next, readOne s = (answer, next) ∧ next.pending = rest ∧ next.failure = s.failure := by
  generalize hPending : s.pending = bytes at read
  cases read with
  | ended hEnd =>
      obtain ⟨next, hRead, hNext⟩ := ByteSource.readExact_of_short (show s.pending.length < 1 by simp [hPending])
      have hShortfall : s.shortfall = .ended := by simp [ByteSource.shortfall, hEnd]
      refine ⟨next, ?_, hNext⟩
      simp only [readOne, hRead, hShortfall]
  | @failed reason hEnd =>
      obtain ⟨next, hRead, hNext⟩ := ByteSource.readExact_of_short (show s.pending.length < 1 by simp [hPending])
      have hShortfall : s.shortfall = .failed reason := by simp [ByteSource.shortfall, hEnd]
      refine ⟨next, ?_, hNext⟩
      simp only [readOne, hRead, hShortfall]
  | @unknownCode code rest hCode =>
      have hFront : s.pending = [code] ++ rest := hPending
      obtain ⟨next, hRead, hNext⟩ := ByteSource.readExact_of_append hFront
      have hNone : minSize? code = none :=
        Option.eq_none_iff_forall_ne_some.2 fun least hSome => hCode least (least_iff.2 hSome)
      refine ⟨next, ?_, hNext⟩
      rw [List.length_singleton] at hRead
      simp only [readOne, hRead, List.headD_cons, hNone]
  | @cutSize code least bytes hCode hCut =>
      obtain ⟨middle, hMiddle, hSame, hError⟩ := readOne_of_least hCode hPending
      obtain ⟨next, hBody, hNext, hFailure⟩ := readBody_of_cutSize code least (hMiddle ▸ hCut)
      rw [hSame] at hBody hFailure
      exact ⟨next, hError _ _ hBody, hNext, hFailure⟩
  | @badSize code least size rest hCode hSize =>
      obtain ⟨middle, hMiddle, hSame, hError⟩ := readOne_of_least hCode hPending
      obtain ⟨next, hBody, hNext, hFailure⟩ := readBody_of_badSize code hMiddle hSize
      exact ⟨next, hError _ _ hBody, hNext, hFailure.trans hSame⟩
  | @cutBody code least size body hCode hLeast hMost hCut =>
      obtain ⟨middle, hMiddle, hSame, hError⟩ := readOne_of_least hCode hPending
      obtain ⟨next, hBody, hNext, hFailure⟩ := readBody_of_cutBody code hMiddle hLeast hMost hCut
      rw [hSame] at hBody hFailure
      exact ⟨next, hError _ _ hBody, hNext, hFailure⟩
  | signal wellFormed asks =>
      obtain ⟨next, hRead, hNext⟩ := readOne_of_wellFormed wellFormed hPending
      rw [decode_of_asks asks] at hRead
      exact ⟨next, hRead, hNext⟩

/-- A stream can be read in one way only, and that is how it is read. -/
theorem readsAs_iff : ReadsAs s.failure s.pending answer rest ↔
    (readOne s).1 = answer ∧ (readOne s).2.pending = rest := by
  constructor
  · intro read
    obtain ⟨next, hRead, hNext, -⟩ := readOne_of_readsAs read
    rw [hRead]
    exact ⟨rfl, hNext⟩
  · rintro ⟨rfl, rfl⟩
    obtain ⟨answer, rest, read⟩ := exists_readsAs s.failure s.pending
    obtain ⟨next, hRead, rfl, -⟩ := readOne_of_readsAs read
    rwa [hRead]

/-- Every answer of a read is one that the bytes before it call for. -/
theorem readsAs_readOne (s : ByteSource) : ReadsAs s.failure s.pending (readOne s).1 (readOne s).2.pending :=
  readsAs_iff.2 ⟨rfl, rfl⟩

/-- A stream that is read as an error gives no more signals. -/
theorem ReadsAs.exhausted {fault : Fault} (read : ReadsAs s.failure s.pending (.error fault) rest) : Exhausted s := by
  intro request next hRead
  have hFault := (readsAs_iff.1 read).1
  rw [hRead] at hFault
  cases hFault

/-- Reading does not change how the source will end. -/
theorem failure_readOne (s : ByteSource) : (readOne s).2.failure = s.failure := by
  obtain ⟨next, hRead, -, hFailure⟩ := readOne_of_readsAs (readsAs_readOne s)
  rwa [hRead]

/-! What the size of a packet says about its length. -/

/-- The bytes of a packet are its code and as many as its size says. -/
theorem Packet.WellFormed.length_bytes {p : Packet} (wellFormed : p.WellFormed) :
    p.bytes.length = 1 + p.size.toNat := by
  have hLength := wellFormed.length_body
  have hLeast := wellFormed.least_le
  simp only [bytes, List.cons_append, List.length_cons, List.length_append, LittleEndian.length_bytes32]
  omega

/-- The size of a well-formed packet lies between eight and 64 bytes. -/
theorem Packet.WellFormed.size_bounds {p : Packet} (wellFormed : p.WellFormed) :
    8 ≤ p.size.toNat ∧ p.size.toNat ≤ 64 := by
  have hLeast := wellFormed.least_le
  exact ⟨by omega, wellFormed.size_le⟩

/-- Every signal that is read takes nine bytes at least. -/
theorem Reads.length_le {requests : List ControlRequest} {last : ByteSource} (reads : Reads s requests last) :
    9 * requests.length + last.pending.length ≤ s.pending.length := by
  induction reads with
  | done => simp
  | next hRead _ ih =>
      obtain ⟨p, wellFormed, hPending, -, -⟩ := exists_packet_of_readOne hRead
      have hLength := wellFormed.length_bytes
      have hSize := wellFormed.size_bounds
      rw [hPending, List.length_append, List.length_cons]
      omega

/-- A stream that stops too early: it fails before a code, or it stops inside a packet with a code that there is and,
where it gets that far, a size that fits. -/
inductive CutShort (failure : Option String) : List UInt8 → Prop where
  | code {reason : String} (hEnd : failure = some reason) : CutShort failure []
  | size {code : UInt8} {least : Nat} {bytes : List UInt8} (hCode : Least code least) (hCut : bytes.length < 4) :
      CutShort failure (code :: bytes)
  | body {code : UInt8} {least : Nat} {size : UInt32} {body : List UInt8} (hCode : Least code least)
      (hLeast : least ≤ size.toNat) (hMost : size.toNat ≤ 64) (hCut : body.length < size.toNat - 4) :
      CutShort failure (code :: (LittleEndian.bytes32 size ++ body))

/-- The answer of reading one signal, and the source that is left. -/
structure Settled (s : ByteSource) (answer : Except Fault (Option ControlRequest)) (next : ByteSource) : Prop where
  failure_eq : next.failure = s.failure
  none_iff : answer = .ok none ↔ s.pending = [] ∧ s.failure = none
  unknownCode_iff (code : UInt8) : answer = .error (.unknownCode code) ↔
    s.pending = code :: next.pending ∧ code ≠ 1 ∧ code ≠ 5 ∧ code ≠ 7
  badSize_iff (code : UInt8) (size : UInt32) : answer = .error (.badSize code size) ↔
    ∃ least, Least code least ∧ s.pending = code :: (LittleEndian.bytes32 size ++ next.pending) ∧
      (size.toNat < least ∨ 64 < size.toNat)
  read_iff : (∃ reason, answer = .error (.read reason)) ↔ CutShort s.failure s.pending
  /-- Then nothing is left, and the reason is how the stream stopped. -/
  rest_of_read (reason : String) :
    answer = .error (.read reason) → next.pending = [] ∧ reason = breakOff s.failure
  signal_iff (request : ControlRequest) : answer = .ok (some request) ↔
    ∃ p : Packet, p.WellFormed ∧ Asks p.code p.body request ∧ s.pending = p.bytes ++ next.pending
  /-- The bytes of a packet that are taken for a signal: its code, and as many as its size says. -/
  taken (p : Packet) : p.WellFormed → s.pending = p.bytes ++ next.pending →
    s.pending.length = next.pending.length + (1 + p.size.toNat) ∧
      9 ≤ 1 + p.size.toNat ∧ 1 + p.size.toNat ≤ 65

/-- The codes 1, 5 and 7 are the known ones. -/
theorem not_least_iff : (∀ least, ¬Least code least) ↔ code ≠ 1 ∧ code ≠ 5 ∧ code ≠ 7 := by
  constructor
  · intro hNone
    refine ⟨?_, ?_, ?_⟩
    · rintro rfl
      exact hNone 8 .notifyApp
    · rintro rfl
      exact hNone 9 .setForeground
    · rintro rfl
      exact hNone 16 .endTask
  · rintro ⟨hNotify, hForeground, hEnd⟩ least known
    cases known with
    | notifyApp => exact hNotify rfl
    | setForeground => exact hForeground rfl
    | endTask => exact hEnd rfl

/-! Each answer tells what the stream was. -/

/-- No signal and no fault: the source was at its end. -/
theorem ReadsAs.of_none (read : ReadsAs failure bytes (.ok none) rest) : bytes = [] ∧ failure = none := by
  cases read with
  | ended hEnd => exact ⟨rfl, hEnd⟩

/-- An unknown code is reported from its byte alone. -/
theorem ReadsAs.of_unknownCode (read : ReadsAs failure bytes (.error (.unknownCode code)) rest) :
    bytes = code :: rest ∧ ∀ least, ¬Least code least := by
  cases read with
  | unknownCode hCode => exact ⟨rfl, hCode⟩

/-- A bad size is reported from the code and the size. -/
theorem ReadsAs.of_badSize (read : ReadsAs failure bytes (.error (.badSize code size)) rest) :
    ∃ least, Least code least ∧ bytes = code :: (LittleEndian.bytes32 size ++ rest) ∧
      (size.toNat < least ∨ 64 < size.toNat) := by
  cases read with
  | badSize hCode hSize => exact ⟨_, hCode, rfl, hSize⟩

/-- A fault of the source leaves nothing to read. -/
theorem ReadsAs.of_read {reason : String} (read : ReadsAs failure bytes (.error (.read reason)) rest) :
    CutShort failure bytes ∧ rest = [] ∧ reason = breakOff failure := by
  cases read with
  | failed hEnd => exact ⟨.code hEnd, rfl, by rw [hEnd]; rfl⟩
  | cutSize hCode hCut => exact ⟨.size hCode hCut, rfl, rfl⟩
  | cutBody hCode hLeast hMost hCut => exact ⟨.body hCode hLeast hMost hCut, rfl, rfl⟩

/-- Bytes that are cut short read as a fault of the source. -/
theorem CutShort.readsAs (cut : CutShort failure bytes) :
    ∃ reason, ReadsAs failure bytes (.error (.read reason)) [] := by
  cases cut with
  | code hEnd => exact ⟨_, .failed hEnd⟩
  | size hCode hCut => exact ⟨_, .cutSize hCode hCut⟩
  | body hCode hLeast hMost hCut => exact ⟨_, .cutBody hCode hLeast hMost hCut⟩

/-- A signal is read from the bytes of one well-formed packet. -/
theorem ReadsAs.of_signal {request : ControlRequest} (read : ReadsAs failure bytes (.ok (some request)) rest) :
    ∃ p : Packet, p.WellFormed ∧ Asks p.code p.body request ∧ bytes = p.bytes ++ rest := by
  cases read with
  | signal wellFormed asks => exact ⟨_, wellFormed, asks, rfl⟩

theorem settled_readOne (s : ByteSource) : Settled s (readOne s).1 (readOne s).2 := by
  have read := readsAs_readOne s
  -- Whatever the stream can be read as is the answer.
  have hOnly {answer : Except Fault (Option ControlRequest)} {rest : List UInt8}
      (other : ReadsAs s.failure s.pending answer rest) : (readOne s).1 = answer := (readsAs_iff.1 other).1
  constructor
  case failure_eq => exact failure_readOne s
  case none_iff =>
    constructor
    · intro h
      exact (h ▸ read).of_none
    · rintro ⟨hPending, hEnd⟩
      have other : ReadsAs s.failure s.pending (.ok none) [] := hPending ▸ .ended hEnd
      exact hOnly other
  case unknownCode_iff =>
    intro code
    rw [← not_least_iff]
    constructor
    · intro h
      exact (h ▸ read).of_unknownCode
    · rintro ⟨hPending, hCode⟩
      have other : ReadsAs s.failure s.pending (.error (.unknownCode code)) (readOne s).2.pending := by
        rw [hPending]
        exact .unknownCode hCode
      exact hOnly other
  case badSize_iff =>
    intro code size
    constructor
    · intro h
      exact (h ▸ read).of_badSize
    · rintro ⟨least, hCode, hPending, hSize⟩
      have other : ReadsAs s.failure s.pending (.error (.badSize code size)) (readOne s).2.pending := by
        rw [hPending]
        exact .badSize hCode hSize
      exact hOnly other
  case read_iff =>
    constructor
    · rintro ⟨reason, h⟩
      exact (h ▸ read).of_read.1
    · intro cut
      obtain ⟨reason, other⟩ := cut.readsAs
      exact ⟨reason, hOnly other⟩
  case rest_of_read =>
    intro reason h
    exact (h ▸ read).of_read.2
  case signal_iff =>
    intro request
    constructor
    · intro h
      exact (h ▸ read).of_signal
    · rintro ⟨p, wellFormed, asks, hPending⟩
      have other : ReadsAs s.failure s.pending (.ok (some request)) (readOne s).2.pending := by
        rw [hPending]
        exact .signal wellFormed asks
      exact hOnly other
  case taken =>
    intro p wellFormed hPending
    have hLength := wellFormed.length_bytes
    have hSize := wellFormed.size_bounds
    refine ⟨?_, by omega, by omega⟩
    rw [hPending, List.length_append]
    omega

/-- Reading one signal is settled by the bytes of the source and by how it ends: there is none at the end, an unknown
code costs one byte and a bad size five, and a signal costs its packet. A stream that stops anywhere else is an error.
Every subtraction and every index on the way has a result. As each signal takes nine bytes or more, no source is read
for ever. -/
theorem signals_read_exactly (s : ByteSource) :
    Settled s (readOne s).1 (readOne s).2 ∧ readOne? s = some (readOne s) ∧
      (∃ last, Reads s (relayed s) last ∧ Exhausted last) ∧
      ∀ requests last, Reads s requests last → 9 * requests.length + last.pending.length ≤ s.pending.length :=
  ⟨settled_readOne s, readOne?_eq_some s, exists_reads_relayed s, fun _ _ reads => reads.length_le⟩

end Signal

end ConsoleHost
