import ConsoleHost.Proofs.Signal.Packets

/-! Reading a signal with every subtraction and every index checked. Where one of them has no result there is no
answer at all. It never comes to that: the least size of a code leaves room for the size itself and for all fields. -/

namespace ConsoleHost

/-- The 32-bit word at an offset, if all its bytes are there. -/
def LittleEndian.word32At? (offset : Nat) (bs : List UInt8) : Option UInt32 := do
  let first ← bs[offset]?
  let second ← bs[offset + 1]?
  let third ← bs[offset + 2]?
  let fourth ← bs[offset + 3]?
  return UInt32.ofNat (value [first, second, third, fourth])

theorem LittleEndian.word32At?_eq_some {offset : Nat} {bs : List UInt8} (h : offset + 4 ≤ bs.length) :
    word32At? offset bs = some (word32At offset bs) := by
  have hBytes : (bs.drop offset).take 4 = [bs[offset], bs[offset + 1], bs[offset + 2], bs[offset + 3]] := by
    rw [List.drop_eq_getElem_cons (by omega), List.drop_eq_getElem_cons (by omega),
      List.drop_eq_getElem_cons (by omega), List.drop_eq_getElem_cons (by omega)]
    rfl
  simp only [word32At?, word32At, hBytes, List.getElem?_eq_getElem (show offset < bs.length by omega),
    List.getElem?_eq_getElem (show offset + 1 < bs.length by omega),
    List.getElem?_eq_getElem (show offset + 2 < bs.length by omega),
    List.getElem?_eq_getElem (show offset + 3 < bs.length by omega)]
  rfl

namespace Signal

/-- The call that the fields of a packet ask for, if all of them are there. -/
def decode? (code : UInt8) (body : List UInt8) : Option ControlRequest := do
  let pid ← LittleEndian.word32At? 0 body
  if code = notifyAppCode then
    return .notifyApp pid
  else if code = setForegroundCode then
    let flag ← body[4]?
    return .setForeground pid (flag != 0)
  else
    let eventType ← LittleEndian.word32At? 4 body
    let flags ← LittleEndian.word32At? 8 body
    return .endTask pid eventType flags

/-- How many bytes follow a size, if it counts its own four. -/
def bodyLength? (size : UInt32) : Option Nat :=
  if 4 ≤ size.toNat then some (size.toNat - 4) else none

/-- `readBody`, with every step checked. -/
def readBody? (code : UInt8) (least : Nat) (s : ByteSource) : Option (Except Fault ControlRequest × ByteSource) :=
  match s.readExact 4 with
  | (.error shortfall, s) => some (.error (.ofShortfall shortfall), s)
  | (.ok sizeField, s) => do
    let size ← LittleEndian.word32At? 0 sizeField
    if size.toNat < least ∨ maxSize < size.toNat then
      return (.error (.badSize code size), s)
    else
      let length ← bodyLength? size
      match s.readExact length with
      | (.error shortfall, s) => return (.error (.ofShortfall shortfall), s)
      | (.ok body, s) =>
        let request ← decode? code body
        return (.ok request, s)

/-- `readOne`, with every step checked. -/
def readOne? (s : ByteSource) : Option (Except Fault (Option ControlRequest) × ByteSource) :=
  match s.readExact 1 with
  | (.error .ended, s) => some (.ok none, s)
  | (.error (.failed reason), s) => some (.error (.read reason), s)
  | (.ok head, s) => do
    let code ← head[0]?
    match minSize? code with
    | none => return (.error (.unknownCode code), s)
    | some least =>
      match ← readBody? code least s with
      | (.error fault, s) => return (.error fault, s)
      | (.ok request, s) => return (.ok (some request), s)

variable {code : UInt8} {least : Nat}

/-- A body that is as long as the least size of its code wants has all fields of that code. -/
theorem decode?_eq_some {body : List UInt8} (hCode : minSize? code = some least) (h : least ≤ body.length + 4) :
    decode? code body = some (decode code body) := by
  rcases minSize?_eq_some_iff.1 hCode with ⟨rfl, rfl⟩ | ⟨rfl, rfl⟩ | ⟨rfl, rfl⟩
  · have hPid := LittleEndian.word32At?_eq_some (show 0 + 4 ≤ body.length by omega)
    simp [decode?, decode, hPid, notifyAppCode]
  · have hPid := LittleEndian.word32At?_eq_some (show 0 + 4 ≤ body.length by omega)
    have hFlag := List.getElem?_eq_getElem (show 4 < body.length by omega)
    simp [decode?, decode, hPid, hFlag, notifyAppCode, setForegroundCode]
  · have hPid := LittleEndian.word32At?_eq_some (show 0 + 4 ≤ body.length by omega)
    have hEvent := LittleEndian.word32At?_eq_some (show 4 + 4 ≤ body.length by omega)
    have hFlags := LittleEndian.word32At?_eq_some (show 8 + 4 ≤ body.length by omega)
    simp [decode?, decode, hPid, hEvent, hFlags, notifyAppCode, setForegroundCode]

theorem four_le_of_minSize? (hCode : minSize? code = some least) : 4 ≤ least := by
  rcases minSize?_eq_some_iff.1 hCode with ⟨-, rfl⟩ | ⟨-, rfl⟩ | ⟨-, rfl⟩ <;> omega

theorem readBody?_eq_some (hCode : minSize? code = some least) (s : ByteSource) :
    readBody? code least s = some (readBody code least s) := by
  rcases hSize : s.readExact 4 with ⟨shortfall | sizeField, middle⟩
  · simp only [readBody?, readBody, hSize]
  · obtain ⟨hFour, -, -⟩ := ByteSource.eq_append_of_readExact hSize
    have hWord := LittleEndian.word32At?_eq_some (show 0 + 4 ≤ sizeField.length by omega)
    simp only [readBody?, readBody, hSize, hWord, Option.bind_eq_bind, Option.bind_some]
    generalize LittleEndian.word32At 0 sizeField = size
    split
    · rfl
    · next hFits =>
        -- The least size is at least 4, so the size counts itself.
        have hLeast := four_le_of_minSize? hCode
        have hLength : bodyLength? size = some (size.toNat - 4) := if_pos (by omega)
        rw [hLength, Option.bind_some]
        rcases hBody : middle.readExact (size.toNat - 4) with ⟨shortfall | body, next⟩
        · rfl
        · obtain ⟨hLong, -, -⟩ := ByteSource.eq_append_of_readExact hBody
          have hDecode := decode?_eq_some hCode (show least ≤ body.length + 4 by omega)
          simp only [hDecode]
          rfl

/-- Reading one signal never subtracts too much and never looks behind the end of what it has read. -/
theorem readOne?_eq_some (s : ByteSource) : readOne? s = some (readOne s) := by
  rcases hHead : s.readExact 1 with ⟨shortfall | head, middle⟩
  · cases shortfall <;> simp only [readOne?, readOne, hHead]
  · obtain ⟨hOne, -, -⟩ := ByteSource.eq_append_of_readExact hHead
    obtain ⟨code, rfl⟩ := List.length_eq_one_iff.1 hOne
    simp only [readOne?, readOne, hHead, List.headD_cons, List.getElem?_cons_zero, Option.bind_eq_bind,
      Option.bind_some]
    cases hCode : minSize? code with
    | none => rfl
    | some least =>
        simp only [readBody?_eq_some hCode, Option.bind_some]
        rcases readBody code least middle with ⟨fault | request, next⟩
        · rfl
        · rfl

end Signal

end ConsoleHost
