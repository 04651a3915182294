import ConsoleHost.Proofs.Calls
import ConsoleHost.Proofs.Signal.Packets
import Mathlib.Data.List.Forall2

/-! What a relay does with a stream that it cannot trust. It reads one signal after the other until there is
none or one is broken, and so it follows the longest front of the stream that is made of well-formed
packets. -/

namespace ConsoleHost

namespace Signal

open Packet

/-- Signals that are read from a source one after the other, and the source behind them. -/
inductive Reads : ByteSource → List ControlRequest → ByteSource → Prop where
  | done (s : ByteSource) : Reads s [] s
  | next {s middle last : ByteSource} {request : ControlRequest} {requests : List ControlRequest}
      (hRead : readOne s = (.ok (some request), middle)) (later : Reads middle requests last) :
      Reads s (request :: requests) last

/-- No signal is to be had from a source: it has ended, or what comes next is broken. -/
def Exhausted (s : ByteSource) : Prop :=
  ∀ request next, readOne s ≠ (.ok (some request), next)

/-- The packets at the front of a stream, as many as there are. -/
structure Leading (packets : List Packet) (stream : List UInt8) : Prop where
  wellFormed : ∀ p ∈ packets, p.WellFormed
  front : packets.flatMap Packet.bytes <+: stream
  longest : ∀ others : List Packet, (∀ p ∈ others, p.WellFormed) →
    others.flatMap Packet.bytes <+: stream → others <+: packets

variable {s last : ByteSource} {requests : List ControlRequest} {packets others : List Packet}
  {stream : List UInt8}

theorem exists_reads_relayed (s : ByteSource) : ∃ last, Reads s (relayed s) last ∧ Exhausted last := by
  rw [relayed]
  fun_induction readAll s with
  | case1 s fault next hRead =>
      refine ⟨s, .done s, fun request other hOther => ?_⟩
      cases hRead.symm.trans hOther
  | case2 s next hRead =>
      refine ⟨s, .done s, fun request other hOther => ?_⟩
      cases hRead.symm.trans hOther
  | case3 s request middle hRead later fault hLater ih =>
      rw [hLater] at ih
      obtain ⟨last, reads, exhausted⟩ := ih
      exact ⟨last, .next hRead reads, exhausted⟩

/-- Two packets with the same bytes are the same. -/
theorem Packet.eq_of_bytes_eq {p q : Packet} (h : p.bytes = q.bytes) : p = q := by
  obtain ⟨code, size, body⟩ := p
  obtain ⟨otherCode, otherSize, otherBody⟩ := q
  obtain ⟨rfl, hRest⟩ := List.cons.inj h
  have hLength : (LittleEndian.bytes32 size).length = (LittleEndian.bytes32 otherSize).length := by
    rw [LittleEndian.length_bytes32, LittleEndian.length_bytes32]
  obtain ⟨hSize, rfl⟩ := List.append_inj hRest hLength
  obtain rfl : otherSize = size := by
    rw [← LittleEndian.word32At_bytes32 size [], ← LittleEndian.word32At_bytes32 otherSize []]
    exact congrArg (fun bs => LittleEndian.word32At 0 (bs ++ [])) hSize.symm
  rfl

theorem leading_nil_of_exhausted (exhausted : Exhausted s) : Leading [] s.pending where
  wellFormed := by simp
  front := List.nil_prefix
  longest others wellFormed hFront := by
    cases others with
    | nil => exact List.nil_prefix
    | cons p rest =>
        obtain ⟨tail, hPending⟩ := hFront
        rw [List.flatMap_cons, List.append_assoc] at hPending
        obtain ⟨next, hRead, -⟩ :=
          readOne_of_wellFormed (wellFormed p (List.mem_cons_self ..)) hPending.symm
        exact absurd hRead (exhausted _ next)

/-- A packet that was read comes before those of the rest of the source, and nothing else can stand there. -/
theorem Leading.cons {p : Packet} {middle : ByteSource} (leading : Leading packets middle.pending)
    (wellFormed : p.WellFormed) (hRead : readOne s = (.ok (some (decode p.code p.body)), middle))
    (hPending : s.pending = p.bytes ++ middle.pending) : Leading (p :: packets) s.pending where
  wellFormed := List.forall_mem_cons.2 ⟨wellFormed, leading.wellFormed⟩
  front := by
    rw [List.flatMap_cons, hPending]
    exact (List.prefix_append_right_inj _).2 leading.front
  longest others hOthers hFront := by
    cases others with
    | nil => exact List.nil_prefix
    | cons q rest =>
        obtain ⟨hFirst, hRest⟩ := List.forall_mem_cons.1 hOthers
        obtain ⟨tail, hTail⟩ := hFront
        rw [List.flatMap_cons, List.append_assoc] at hTail
        -- Reading finds `q` at the front as well, so both packets leave the same source behind.
        obtain ⟨next, hOther, hNext, -⟩ := readOne_of_wellFormed hFirst hTail.symm
        obtain rfl : next = middle := congrArg Prod.snd (hOther.symm.trans hRead)
        rw [hPending, hNext] at hTail
        obtain rfl := eq_of_bytes_eq (List.append_cancel_right hTail)
        rw [List.prefix_cons_inj]
        exact leading.longest rest hRest ⟨tail, hNext.symm⟩

theorem Leading.unique (leading : Leading packets stream) (other : Leading others stream) :
    packets = others :=
  (other.longest packets leading.wellFormed leading.front).sublist.antisymm
    (leading.longest others other.wellFormed other.front).sublist

/-- What is read up to the end are the packets at the front of the source. -/
theorem Reads.leading (reads : Reads s requests last) (exhausted : Exhausted last) :
    ∃ packets, Leading packets s.pending ∧
      s.pending = packets.flatMap Packet.bytes ++ last.pending ∧
      requests = packets.map fun p => decode p.code p.body := by
  induction reads with
  | done s => exact ⟨[], leading_nil_of_exhausted exhausted, rfl, rfl⟩
  | next hRead _ ih =>
      obtain ⟨packets, leading, hRest, hRequests⟩ := ih exhausted
      obtain ⟨p, wellFormed, hPending, rfl, -⟩ := exists_packet_of_readOne hRead
      refine ⟨p :: packets, leading.cons wellFormed hRead hPending, ?_, ?_⟩
      · rw [List.flatMap_cons, List.append_assoc, ← hRest, hPending]
      · rw [hRequests, List.map_cons]

/-- One call for each packet, with what the packet asks for. -/
theorem forall₂_controlCalls (env : Environment) (before : Nat)
    (wellFormed : ∀ p ∈ packets, p.WellFormed) :
    List.Forall₂ (fun p call => ∃ request succeeded, Asks p.code p.body request ∧
      call = Call.control request succeeded) packets
      (env.controlCalls before (packets.map fun p => decode p.code p.body)) := by
  induction packets generalizing before with
  | nil => exact .nil
  | cons p rest ih =>
      obtain ⟨hFirst, hRest⟩ := List.forall_mem_cons.1 wellFormed
      obtain ⟨request, asks⟩ := hFirst.exists_asks
      rw [List.map_cons, decode_of_asks asks, env.controlCalls_cons]
      exact .cons ⟨request, _, asks, rfl⟩ (ih (before + 1) hRest)

/-- A relay makes one control call for each packet of the longest front of its stream that is made of
well-formed packets, with what that packet asks for, whether or not calls fail; it makes no other call, and it
ends behind these packets. Neither limits and interruptions of the reads nor the way in which the stream ends
make any difference to its requests. -/
theorem relay_follows_packets (env : Environment) (s : ByteSource) :
    ∃ packets, Leading packets s.pending ∧
      List.Forall₂ (fun p call => ∃ request succeeded, Asks p.code p.body request ∧
        call = Call.control request succeeded) packets (env.controlCalls 0 (relayed s)) ∧
      (∃ last, Reads s (relayed s) last ∧ Exhausted last ∧
        s.pending = packets.flatMap Packet.bytes ++ last.pending) ∧
      ∀ other : ByteSource, other.pending = s.pending → relayed other = relayed s := by
  obtain ⟨last, reads, exhausted⟩ := exists_reads_relayed s
  obtain ⟨packets, leading, hPending, hRequests⟩ := reads.leading exhausted
  refine ⟨packets, leading, ?_, ⟨last, reads, exhausted, hPending⟩, fun other hSame => ?_⟩
  · rw [hRequests]
    exact forall₂_controlCalls env 0 leading.wellFormed
  · obtain ⟨otherLast, otherReads, otherExhausted⟩ := exists_reads_relayed other
    obtain ⟨others, otherLeading, -, hOthers⟩ := otherReads.leading otherExhausted
    rw [hSame] at otherLeading
    rw [hOthers, hRequests, otherLeading.unique leading]

end Signal

end ConsoleHost
