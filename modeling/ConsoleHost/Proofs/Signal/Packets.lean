import ConsoleHost.Signal

/-! Packets of host signals, as they stand in a stream: a code, a size and a body. Reading one signal takes
exactly one well-formed packet off the front of its source, whatever the source does on the way. -/

namespace ConsoleHost

namespace LittleEndian

theorem value_lt (bs : List UInt8) : value bs < capacity bs.length := by
  induction bs with
  | nil => exact Nat.one_pos
  | cons b rest ih =>
      have hByte := b.toNat_lt
      simp only [value, List.length_cons, capacity]
      omega

/-- Every list of bytes is what its number is written as. -/
theorem bytes_value (bs : List UInt8) : bytes bs.length (value bs) = bs := by
  induction bs with
  | nil => rfl
  | cons b rest ih =>
      have hByte := b.toNat_lt
      have hLow : UInt8.ofNat (b.toNat + 256 * value rest) = b := by
        rw [← UInt8.toNat_inj, UInt8.toNat_ofNat']
        omega
      have hHigh : (b.toNat + 256 * value rest) / 256 = value rest := by omega
      rw [value, List.length_cons, bytes, hLow, hHigh, ih]

@[simp] theorem length_bytes32 (n : UInt32) : (bytes32 n).length = 4 := length_bytes 4 n.toNat

@[simp] theorem word32At_bytes32 (n : UInt32) (rest : List UInt8) :
    word32At 0 (bytes32 n ++ rest) = n := by
  have hFront : (bytes32 n ++ rest).take 4 = bytes32 n := List.take_left' (length_bytes32 n)
  rw [word32At, List.drop_zero, hFront, bytes32, value_bytes, ← UInt32.toNat_inj, UInt32.toNat_ofNat']
  exact (Nat.mod_mod _ _).trans (Nat.mod_eq_of_lt n.toNat_lt)

/-- A word further on is the same word counted from behind the first one. -/
@[simp] theorem word32At_add_four (offset : Nat) (n : UInt32) (rest : List UInt8) :
    word32At (offset + 4) (bytes32 n ++ rest) = word32At offset rest := by
  have hSkip : (bytes32 n ++ rest).drop (offset + 4) = rest.drop offset := by
    rw [Nat.add_comm, ← List.drop_drop, List.drop_left' (length_bytes32 n)]
  rw [word32At, word32At, hSkip]

/-- Four bytes are a word. -/
theorem exists_bytes32 {bs : List UInt8} (h : bs.length = 4) : ∃ n, bs = bytes32 n := by
  have hLess : value bs < 2 ^ 32 := by simpa [h, capacity] using value_lt bs
  have hBytes := bytes_value bs
  rw [h] at hBytes
  refine ⟨UInt32.ofNat (value bs), ?_⟩
  rw [bytes32, UInt32.toNat_ofNat', Nat.mod_eq_of_lt hLess, hBytes]

theorem exists_bytes32_append {bs : List UInt8} (h : 4 ≤ bs.length) :
    ∃ n rest, bs = bytes32 n ++ rest := by
  obtain ⟨n, hFront⟩ := exists_bytes32 (List.length_take_of_le h)
  exact ⟨n, bs.drop 4, by rw [← hFront, List.take_append_drop]⟩

end LittleEndian

namespace ByteSource

variable {s next : ByteSource}

/-- What stands at the front of a source is read off it. -/
theorem readExact_of_append {front rest : List UInt8} (h : s.pending = front ++ rest) :
    ∃ next, s.readExact front.length = (.ok front, next) ∧ next.pending = rest ∧
      next.failure = s.failure := by
  obtain ⟨hAnswer, hPending, hFailure⟩ := s.readExact_eq front.length
  have hEnough : front.length ≤ s.pending.length := by
    rw [h, List.length_append]
    omega
  rw [if_pos hEnough, h, List.take_left] at hAnswer
  rw [h, List.drop_left] at hPending
  exact ⟨(s.readExact front.length).2, Prod.ext hAnswer rfl, hPending, hFailure⟩

theorem eq_append_of_readExact {want : Nat} {bs : List UInt8}
    (h : s.readExact want = (.ok bs, next)) :
    bs.length = want ∧ s.pending = bs ++ next.pending ∧ next.failure = s.failure := by
  obtain ⟨hAnswer, hPending, hFailure⟩ := s.readExact_eq want
  rw [h] at hAnswer hPending hFailure
  split at hAnswer
  · next hEnough =>
      obtain rfl := Except.ok.inj hAnswer
      rw [hPending, List.take_append_drop]
      exact ⟨List.length_take_of_le hEnough, rfl, hFailure⟩
  · cases hAnswer

end ByteSource

namespace Signal

structure Packet where
  code : UInt8
  size : UInt32
  body : List UInt8
  deriving DecidableEq

namespace Packet

def bytes (p : Packet) : List UInt8 := p.code :: LittleEndian.bytes32 p.size ++ p.body

/-- A known code with a size from the least of that code up to 64, and a body that together with the four
bytes of the size is as long as it says. -/
structure WellFormed (p : Packet) : Prop where
  least_le : p.code = 1 ∧ 8 ≤ p.size.toNat ∨ p.code = 5 ∧ 9 ≤ p.size.toNat ∨
    p.code = 7 ∧ 16 ≤ p.size.toNat
  size_le : p.size.toNat ≤ 64
  length_body : p.body.length = p.size.toNat - 4

/-- What a body asks for under a code. Bytes behind the fields of the code are passed over. -/
inductive Asks : UInt8 → List UInt8 → ControlRequest → Prop where
  | notifyApp (pid : UInt32) (extra : List UInt8) :
      Asks 1 (LittleEndian.bytes32 pid ++ extra) (.notifyApp pid)
  | setForeground (pid : UInt32) (flag : UInt8) (extra : List UInt8) :
      Asks 5 (LittleEndian.bytes32 pid ++ flag :: extra) (.setForeground pid (flag ≠ 0))
  | endTask (pid eventType flags : UInt32) (extra : List UInt8) :
      Asks 7 (LittleEndian.bytes32 pid ++
        (LittleEndian.bytes32 eventType ++ (LittleEndian.bytes32 flags ++ extra)))
        (.endTask pid eventType flags)

end Packet

open Packet

variable {p q : Packet} {s next : ByteSource} {request : ControlRequest} {rest : List UInt8}

theorem decode_of_asks {code : UInt8} {body : List UInt8} (asks : Asks code body request) :
    decode code body = request := by
  cases asks with
  | notifyApp pid extra => simp [decode, notifyAppCode]
  | setForeground pid flag extra =>
      by_cases hFlag : flag = 0
      · simp [decode, notifyAppCode, setForegroundCode, hFlag]
      · simp [decode, notifyAppCode, setForegroundCode, hFlag]
  | endTask pid eventType flags extra =>
      have hEvent := LittleEndian.word32At_add_four 0 pid
        (LittleEndian.bytes32 eventType ++ (LittleEndian.bytes32 flags ++ extra))
      have hFlags := LittleEndian.word32At_add_four 4 pid
        (LittleEndian.bytes32 eventType ++ (LittleEndian.bytes32 flags ++ extra))
      have hBehind := LittleEndian.word32At_add_four 0 eventType (LittleEndian.bytes32 flags ++ extra)
      simp_all [decode, notifyAppCode, setForegroundCode]

-- Every non-zero byte asks for the foreground, and the byte behind it is passed over.
example : decode 5 [42, 0, 0, 0, 2, 9] = .setForeground 42 true := by decide

/-- The least size of a code leaves room for its fields. -/
theorem Packet.WellFormed.exists_asks (wellFormed : p.WellFormed) :
    ∃ request, Asks p.code p.body request := by
  obtain ⟨code, size, body⟩ := p
  obtain ⟨hLeast, -, hLength⟩ := wellFormed
  dsimp only at hLeast hLength
  rcases hLeast with ⟨rfl, hLeast⟩ | ⟨rfl, hLeast⟩ | ⟨rfl, hLeast⟩
  · obtain ⟨pid, extra, rfl⟩ := LittleEndian.exists_bytes32_append (by omega : 4 ≤ body.length)
    exact ⟨_, .notifyApp pid extra⟩
  · obtain ⟨pid, fields, rfl⟩ := LittleEndian.exists_bytes32_append (by omega : 4 ≤ body.length)
    cases fields with
    | nil =>
        simp only [List.append_nil, LittleEndian.length_bytes32] at hLength
        omega
    | cons flag extra => exact ⟨_, .setForeground pid flag extra⟩
  · obtain ⟨pid, fields, rfl⟩ := LittleEndian.exists_bytes32_append (by omega : 4 ≤ body.length)
    simp only [List.length_append, LittleEndian.length_bytes32] at hLength
    obtain ⟨eventType, fields, rfl⟩ :=
      LittleEndian.exists_bytes32_append (by omega : 4 ≤ fields.length)
    simp only [List.length_append, LittleEndian.length_bytes32] at hLength
    obtain ⟨flags, extra, rfl⟩ := LittleEndian.exists_bytes32_append (by omega : 4 ≤ fields.length)
    exact ⟨_, .endTask pid eventType flags extra⟩

theorem minSize?_eq_some_iff {code : UInt8} {least : Nat} :
    minSize? code = some least ↔
      code = 1 ∧ least = 8 ∨ code = 5 ∧ least = 9 ∨ code = 7 ∧ least = 16 := by
  simp only [minSize?, notifyAppCode, setForegroundCode, endTaskCode]
  by_cases hNotify : code = 1
  · simp [hNotify, eq_comm]
  · by_cases hForeground : code = 5
    · simp [hForeground, eq_comm]
    · by_cases hEnd : code = 7
      · simp [hEnd, eq_comm]
      · simp [hNotify, hForeground, hEnd]

/-- A packet that stands at the front of a source is read, and the source goes on behind it. -/
theorem readOne_of_wellFormed (wellFormed : p.WellFormed) (h : s.pending = p.bytes ++ rest) :
    ∃ next, readOne s = (.ok (some (decode p.code p.body)), next) ∧ next.pending = rest ∧
      next.failure = s.failure := by
  obtain ⟨hLeast, hLe, hLength⟩ := wellFormed
  obtain ⟨least, hMin, hLeastLe⟩ : ∃ least, minSize? p.code = some least ∧ least ≤ p.size.toNat := by
    rcases hLeast with ⟨hCode, hLeast⟩ | ⟨hCode, hLeast⟩ | ⟨hCode, hLeast⟩
    · exact ⟨8, minSize?_eq_some_iff.2 (.inl ⟨hCode, rfl⟩), hLeast⟩
    · exact ⟨9, minSize?_eq_some_iff.2 (.inr (.inl ⟨hCode, rfl⟩)), hLeast⟩
    · exact ⟨16, minSize?_eq_some_iff.2 (.inr (.inr ⟨hCode, rfl⟩)), hLeast⟩
  have hCodeFirst : s.pending = [p.code] ++ (LittleEndian.bytes32 p.size ++ (p.body ++ rest)) := by
    simp [h, bytes]
  obtain ⟨atSize, hCode, hAtSize, hSameCode⟩ := ByteSource.readExact_of_append hCodeFirst
  obtain ⟨atBody, hSize, hAtBody, hSameSize⟩ := ByteSource.readExact_of_append hAtSize
  obtain ⟨next, hBody, hNext, hSameBody⟩ := ByteSource.readExact_of_append hAtBody
  have hWord : LittleEndian.word32At 0 (LittleEndian.bytes32 p.size) = p.size := by
    simpa using LittleEndian.word32At_bytes32 p.size []
  have hFits : ¬(p.size.toNat < least ∨ maxSize < p.size.toNat) := by
    rw [maxSize]
    omega
  rw [List.length_singleton] at hCode
  rw [LittleEndian.length_bytes32] at hSize
  rw [hLength] at hBody
  refine ⟨next, ?_, hNext, hSameBody.trans (hSameSize.trans hSameCode)⟩
  simp only [readOne, hCode, List.headD_cons, hMin, readBody, hSize, hWord, if_neg hFits, hBody]

theorem eq_append_of_readBody {code : UInt8} {least : Nat}
    (h : readBody code least s = (.ok request, next)) :
    ∃ size body, least ≤ size.toNat ∧ size.toNat ≤ 64 ∧ body.length = size.toNat - 4 ∧
      s.pending = LittleEndian.bytes32 size ++ (body ++ next.pending) ∧
      decode code body = request ∧ next.failure = s.failure := by
  unfold readBody at h
  split at h
  · cases h
  · next sizeField atBody hSize =>
      obtain ⟨hFour, hPending, hSameSize⟩ := ByteSource.eq_append_of_readExact hSize
      obtain ⟨size, rfl⟩ := LittleEndian.exists_bytes32 hFour
      have hWord : LittleEndian.word32At 0 (LittleEndian.bytes32 size) = size := by
        simpa using LittleEndian.word32At_bytes32 size []
      simp only [hWord] at h
      split at h
      · cases h
      · next hFits =>
          split at h
          · cases h
          · next body last hBody =>
              obtain ⟨hLength, hRest, hSameBody⟩ := ByteSource.eq_append_of_readExact hBody
              cases h
              rw [maxSize] at hFits
              exact ⟨size, body, by omega, by omega, hLength, by rw [hPending, hRest], rfl,
                hSameBody.trans hSameSize⟩

/-- Whatever is read as a signal was a well-formed packet at the front of the source. -/
theorem exists_packet_of_readOne (h : readOne s = (.ok (some request), next)) :
    ∃ p : Packet, p.WellFormed ∧ s.pending = p.bytes ++ next.pending ∧
      decode p.code p.body = request ∧ next.failure = s.failure := by
  unfold readOne at h
  split at h
  · cases h
  · cases h
  · next head atSize hHead =>
      obtain ⟨hOne, hPending, hSameCode⟩ := ByteSource.eq_append_of_readExact hHead
      obtain ⟨code, rfl⟩ := List.length_eq_one_iff.1 hOne
      simp only [List.headD_cons] at h
      split at h
      · cases h
      · next least hMin =>
          split at h
          · cases h
          · next last hBody =>
              cases h
              obtain ⟨size, body, hLeast, hLe, hLength, hRest, hDecode, hSameBody⟩ :=
                eq_append_of_readBody hBody
              refine ⟨⟨code, size, body⟩, ⟨?_, hLe, hLength⟩, ?_, hDecode, hSameBody.trans hSameCode⟩
              · rcases minSize?_eq_some_iff.1 hMin with ⟨rfl, rfl⟩ | ⟨rfl, rfl⟩ | ⟨rfl, rfl⟩
                · exact .inl ⟨rfl, hLeast⟩
                · exact .inr (.inl ⟨rfl, hLeast⟩)
                · exact .inr (.inr ⟨rfl, hLeast⟩)
              · simp [hPending, hRest, bytes]

end Signal

end ConsoleHost
