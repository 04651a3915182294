import ConsoleHost.Proofs.Signal.Answers

/-! Reading back what was written. A signal is written as one well-formed packet, so signals that are written one after
the other are read one after the other, and nothing of what follows them is touched. -/

namespace ConsoleHost

namespace Signal

open Packet

/-- The packet in which a signal is written. -/
def Packet.ofRequest (request : ControlRequest) : Packet :=
  ⟨Signal.code request, UInt32.ofNat ((fields request).length + 4), fields request⟩

variable {request : ControlRequest} {requests : List ControlRequest} {rest : List UInt8}
  {s other next last : ByteSource}

theorem length_fields (request : ControlRequest) : (fields request).length = match request with
    | .notifyApp _ => 4
    | .setForeground .. => 8
    | .endTask .. => 12 := by
  cases request <;> simp [fields]

theorem Packet.size_ofRequest (request : ControlRequest) :
    (ofRequest request).size.toNat = (fields request).length + 4 := by
  cases request <;> simp [ofRequest, length_fields]

theorem Packet.bytes_ofRequest (request : ControlRequest) : (ofRequest request).bytes = encode request := by
  rw [bytes, LittleEndian.bytes32, size_ofRequest]
  rfl

theorem Packet.wellFormed_ofRequest (request : ControlRequest) : (ofRequest request).WellFormed where
  least_le := by
    rw [size_ofRequest]
    cases request <;> simp [ofRequest, length_fields, Signal.code, notifyAppCode, setForegroundCode, endTaskCode]
  size_le := by
    rw [size_ofRequest]
    cases request <;> simp [length_fields]
  length_body := by
    rw [size_ofRequest]
    rfl

theorem Packet.asks_ofRequest (request : ControlRequest) :
    Asks (ofRequest request).code (ofRequest request).body request := by
  cases request with
  | notifyApp pid =>
      have asks := Asks.notifyApp pid []
      rwa [List.append_nil] at asks
  | setForeground pid on =>
      cases on with
      | false => exact .setForeground pid 0 [0, 0, 0]
      | true => exact .setForeground pid 1 [0, 0, 0]
  | endTask pid eventType flags =>
      have asks := Asks.endTask pid eventType flags []
      rwa [List.append_nil, ← List.append_assoc] at asks

/-- A signal that was written is read again, whatever comes behind it. -/
theorem readOne_encode (h : s.pending = encode request ++ rest) :
    ∃ next, readOne s = (.ok (some request), next) ∧ next.pending = rest ∧ next.failure = s.failure := by
  rw [← bytes_ofRequest] at h
  obtain ⟨next, hRead, hNext⟩ := readOne_of_wellFormed (wellFormed_ofRequest request) h
  rw [decode_of_asks (asks_ofRequest request)] at hRead
  exact ⟨next, hRead, hNext⟩

theorem reads_flatMap_encode (h : s.pending = requests.flatMap encode ++ rest) :
    ∃ last, Reads s requests last ∧ last.pending = rest ∧ last.failure = s.failure := by
  induction requests generalizing s with
  | nil => exact ⟨s, .done s, h, rfl⟩
  | cons first later ih =>
      rw [List.flatMap_cons, List.append_assoc] at h
      obtain ⟨middle, hRead, hMiddle, hSame⟩ := readOne_encode h
      obtain ⟨last, reads, hLast, hFailure⟩ := ih hMiddle
      exact ⟨last, .next hRead reads, hLast, hFailure.trans hSame⟩

/-- Reading to the end brings the same signals every time. -/
theorem Reads.unique {more : List ControlRequest} (reads : Reads s requests last) (exhausted : Exhausted last)
    (others : Reads s more next) (otherExhausted : Exhausted next) : requests = more := by
  obtain ⟨packets, leading, -, rfl⟩ := reads.leading exhausted
  obtain ⟨otherPackets, otherLeading, -, rfl⟩ := others.leading otherExhausted
  rw [leading.unique otherLeading]

/-! Reading a number of times, whatever is answered. -/

def answers : Nat → ByteSource → List (Except Fault (Option ControlRequest))
  | 0, _ => []
  | count + 1, s => (readOne s).1 :: answers count (readOne s).2

theorem Reads.answers_eq (reads : Reads s requests last) (count : Nat) :
    answers (requests.length + count) s =
      requests.map (fun request => .ok (some request)) ++ answers count last := by
  induction reads with
  | done s => simp
  | @next s middle last request requests hRead _ ih =>
      rw [List.length_cons, Nat.add_right_comm, answers, hRead, ih]
      rfl

/-- Sources with the same bytes that end in the same way answer alike, and go on alike. -/
theorem readOne_congr (hPending : s.pending = other.pending) (hFailure : s.failure = other.failure) :
    (readOne s).1 = (readOne other).1 ∧ (readOne s).2.pending = (readOne other).2.pending := by
  have read := readsAs_readOne other
  rw [← hPending, ← hFailure] at read
  exact readsAs_iff.1 read

theorem answers_congr (hPending : s.pending = other.pending) (hFailure : s.failure = other.failure) (count : Nat) :
    answers count s = answers count other := by
  induction count generalizing s other with
  | zero => rfl
  | succ count ih =>
      obtain ⟨hAnswer, hNext⟩ := readOne_congr hPending hFailure
      have hLater : answers count (readOne s).2 = answers count (readOne other).2 := by
        apply ih hNext
        rw [failure_readOne, failure_readOne, hFailure]
      rw [answers, answers, hAnswer, hLater]

/-- From a stream in which signals were written before other bytes, reading brings back exactly these signals, in
order, and from then on answers as it does for the other bytes alone. A signal that was read, from whatever bytes, is
read again from what it is written as. -/
theorem decoding_undoes_encoding :
    (∀ (requests : List ControlRequest) (s alone : ByteSource),
      s.pending = requests.flatMap encode ++ alone.pending → s.failure = alone.failure → ∀ count,
        answers (requests.length + count) s =
          requests.map (fun request => .ok (some request)) ++ answers count alone) ∧
    ∀ (request : ControlRequest) (s next other : ByteSource) (rest : List UInt8),
      readOne s = (.ok (some request), next) → other.pending = encode request ++ rest →
        (readOne other).1 = .ok (some request) ∧ (readOne other).2.pending = rest := by
  constructor
  · intro requests s alone hWritten hEnd count
    obtain ⟨last, reads, hLast, hFailure⟩ := reads_flatMap_encode hWritten
    rw [reads.answers_eq count, answers_congr hLast (hFailure.trans hEnd)]
  · intro request s next other rest _ hWritten
    obtain ⟨after, hRead, hAfter, -⟩ := readOne_encode hWritten
    rw [hRead]
    exact ⟨rfl, hAfter⟩

/-- Three signals before a packet that breaks off. No read returns more than three bytes, and each is interrupted
once. -/
def hurried : ByteSource where
  pending := [.notifyApp 10, .setForeground 11 true, .endTask 12 2 0x80].flatMap encode ++ [5, 9]
  limit := fun _ => 3
  interruptions := fun _ => 1
  reads := 0
  interrupted := 0
  failure := none

/-- The three signals are read from it before the packet that breaks off. A foreground signal without padding is read
again from the bytes with padding that it is written as. -/
theorem decoding_undoes_encoding_hurried :
    answers 4 hurried =
        [.ok (some (.notifyApp 10)), .ok (some (.setForeground 11 true)), .ok (some (.endTask 12 2 0x80)),
          .error (.read "failed to fill whole buffer")] ∧
      (readOne (.ofBytes [5, 9, 0, 0, 0, 42, 0, 0, 0, 2])).1 = .ok (some (.setForeground 42 true)) ∧
      (readOne (.ofBytes [5, 12, 0, 0, 0, 42, 0, 0, 0, 1, 0, 0, 0])).1 = .ok (some (.setForeground 42 true)) := by
  obtain ⟨streams, again⟩ := decoding_undoes_encoding
  have hBroken : ReadsAs none [5, 9] (.error (.read (breakOff none))) [] := .cutSize .setForeground (by decide)
  obtain ⟨_, hLast, -⟩ := readOne_of_readsAs (s := .ofBytes [5, 9]) hBroken
  have hAlone : answers 1 (.ofBytes [5, 9]) = [.error (.read (breakOff none))] := by
    rw [answers, hLast]
    rfl
  have hAll := streams [.notifyApp 10, .setForeground 11 true, .endTask 12 2 0x80] hurried (.ofBytes [5, 9]) rfl rfl 1
  rw [hAlone] at hAll
  have unpadded : Packet.WellFormed ⟨5, 9, [42, 0, 0, 0, 2]⟩ := ⟨by decide, by decide, by decide⟩
  obtain ⟨_, hRead, -⟩ := readOne_of_wellFormed (s := .ofBytes [5, 9, 0, 0, 0, 42, 0, 0, 0, 2]) unpadded rfl
  refine ⟨hAll, congrArg Prod.fst hRead, ?_⟩
  exact (again (.setForeground 42 true) _ _ (.ofBytes _) [] hRead rfl).1

end Signal

end ConsoleHost
