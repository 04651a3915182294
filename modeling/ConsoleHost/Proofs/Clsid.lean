import ConsoleHost.Clsid
import Mathlib.Data.List.DropRight
import Mathlib.Data.List.Forall2
import Mathlib.Data.Nat.Digits.Defs

/-! How class identifiers are written. Reading accepts the usual forms of 32 hexadecimal digits and nothing else, and an
identifier given by hand is read once all the braces around it are gone. -/

namespace ConsoleHost

/-- A character of a range is no further from its start than its end is. -/
theorem Hex.toNat_sub_le {c first last : Char} (h : first ≤ c ∧ c ≤ last) :
    c.toNat - first.toNat ≤ last.toNat - first.toNat :=
  Nat.sub_le_sub_right h.2 _

theorem Hex.digitValue?_lt {c : Char} {value : Nat} (h : Hex.digitValue? c = some value) : value < 16 := by
  unfold Hex.digitValue? at h
  split at h
  · next hRange =>
      cases h
      exact Nat.lt_of_le_of_lt (Hex.toNat_sub_le hRange) (by decide)
  split at h
  · next hRange =>
      cases h
      exact Nat.lt_of_le_of_lt (Nat.add_le_add_right (Hex.toNat_sub_le hRange) 10) (by decide)
  split at h
  · next hRange =>
      cases h
      exact Nat.lt_of_le_of_lt (Nat.add_le_add_right (Hex.toNat_sub_le hRange) 10) (by decide)
  · cases h

namespace Clsid

/-! Digits. -/

abbrev HaveValues (digits : List Char) (values : List Nat) : Prop :=
  List.Forall₂ (fun c value => Hex.digitValue? c = some value) digits values

/-- The 32 hexadecimal digits of an identifier, the most significant one first. -/
structure Spells (digits : List Char) (id : Clsid) : Prop where
  length_eq : digits.length = 32
  value : ∃ values, HaveValues digits values ∧ id.value.toNat = Nat.ofDigits 16 values.reverse

variable {digits text : List Char} {values : List Nat} {id : Clsid}

/-- Digits have values if each of them has. -/
theorem mapM_digitValue?_eq_some_iff : digits.mapM Hex.digitValue? = some values ↔ HaveValues digits values := by
  induction digits generalizing values with
  | nil => rw [List.mapM_nil, HaveValues, List.forall₂_nil_left_iff, Option.pure_def, Option.some.injEq, eq_comm]
  | cons c rest ih =>
      simp only [List.mapM_cons, Option.bind_eq_bind, Option.bind_eq_some_iff, Option.pure_def, Option.some.injEq, ih,
        HaveValues, List.forall₂_cons_left_iff]
      constructor
      · rintro ⟨value, hValue, others, hOthers, rfl⟩
        exact ⟨value, others, hValue, hOthers, rfl⟩
      · rintro ⟨value, others, hValue, hOthers, rfl⟩
        exact ⟨value, hValue, others, hOthers, rfl⟩

/-- Reading digits from the most significant one on gives the number that they stand for. -/
theorem foldl_eq_ofDigits (values : List Nat) :
    values.foldl (fun n value => 16 * n + value) 0 = Nat.ofDigits 16 values.reverse := by
  induction values using List.reverseRecOn with
  | nil => rfl
  | append_singleton values value ih =>
      rw [List.foldl_append, ih, List.reverse_append, List.reverse_singleton, List.singleton_append, Nat.ofDigits_cons]
      exact Nat.add_comm _ _

/-- The number that 32 digits stand for fits into an identifier. -/
theorem ofDigits_lt (hValues : HaveValues digits values) (hLength : digits.length = 32) :
    Nat.ofDigits 16 values.reverse < 2 ^ 128 := by
  have hDigits : ∀ value ∈ values, value < 16 := by
    clear hLength
    induction hValues with
    | nil => exact fun _ hMem => absurd hMem List.not_mem_nil
    | cons hValue _ ih => exact List.forall_mem_cons.2 ⟨Hex.digitValue?_lt hValue, ih⟩
  calc
    Nat.ofDigits 16 values.reverse < 16 ^ values.reverse.length :=
      Nat.ofDigits_lt_base_pow_length (by decide) fun value hMem => hDigits value (List.mem_reverse.1 hMem)
    _ = 16 ^ 32 := by rw [List.length_reverse, ← hValues.length_eq, hLength]
    _ = 2 ^ 128 := by norm_num

/-- Digits give an identifier exactly if they spell it. -/
theorem ofDigits?_eq_some_iff : ofDigits? digits = some id ↔ Spells digits id := by
  simp only [ofDigits?, Option.bind_eq_bind, Option.bind_eq_some_iff, mapM_digitValue?_eq_some_iff, foldl_eq_ofDigits]
  constructor
  · rintro ⟨values, hValues, hRead⟩
    split at hRead
    · next hLength =>
        have hDigits : digits.length = 32 := hValues.length_eq.trans hLength
        cases hRead
        refine ⟨hDigits, values, hValues, ?_⟩
        rw [BitVec.toNat_ofNat, Nat.mod_eq_of_lt (ofDigits_lt hValues hDigits)]
    · cases hRead
  · rintro ⟨hDigits, values, hValues, hValue⟩
    refine ⟨values, hValues, ?_⟩
    rw [if_pos (hValues.length_eq.symm.trans hDigits), ← hValue, BitVec.ofNat_toNat, BitVec.setWidth_eq]

/-! Forms. -/

/-- The usual forms of an identifier with these digits. -/
inductive Form (digits : List Char) : List Char → Prop where
  | plain : Form digits digits
  | grouped : Form digits (hyphenate [8, 4, 4, 4, 12] digits)
  | braced : Form digits ('\x7b' :: hyphenate [8, 4, 4, 4, 12] digits ++ ['\x7d'])
  | urn (head : List Char) (h : Text.sameIgnoringAsciiCase (String.ofList head) "urn:uuid:" = true) :
      Form digits (head ++ hyphenate [8, 4, 4, 4, 12] digits)

/-- A text that stands for an identifier. -/
def Writes (text : List Char) (id : Clsid) : Prop := ∃ digits, Spells digits id ∧ Form digits text

theorem hyphenate_cons_cons (n m : Nat) (sizes : List Nat) (digits : List Char) :
    hyphenate (n :: m :: sizes) digits = digits.take n ++ '-' :: hyphenate (m :: sizes) (digits.drop n) := rfl

/-- Taking the hyphens out undoes putting them in. -/
theorem ungroup?_eq_some_iff {sizes : List Nat} :
    ungroup? sizes text = some digits ↔ digits.length = sizes.sum ∧ text = hyphenate sizes digits := by
  induction sizes generalizing text digits with
  | nil => cases text <;> simp [ungroup?, hyphenate, eq_comm]
  | cons n sizes ih =>
      cases sizes with
      | nil =>
          simp only [ungroup?, Option.ite_none_right_eq_some, Option.some.injEq, hyphenate, List.sum_cons, List.sum_nil,
            Nat.add_zero]
          constructor
          · rintro ⟨hLength, rfl⟩
            exact ⟨hLength, (List.take_of_length_le (Nat.le_of_eq hLength)).symm⟩
          · rintro ⟨hLength, rfl⟩
            rw [List.take_of_length_le (Nat.le_of_eq hLength)]
            exact ⟨hLength, rfl⟩
      | cons m sizes =>
          constructor
          · intro hRead
            simp only [ungroup?] at hRead
            split at hRead
            · next rest hDrop =>
                obtain ⟨others, hOthers, rfl⟩ := Option.map_eq_some_iff.1 hRead
                obtain ⟨hSum, rfl⟩ := ih.1 hOthers
                have hLong : n < text.length := by
                  have hLengths := congrArg List.length hDrop
                  simp only [List.length_drop, List.length_cons] at hLengths
                  omega
                have hTake : (text.take n).length = n := List.length_take_of_le (Nat.le_of_lt hLong)
                refine ⟨?_, ?_⟩
                · simp only [List.length_append, hTake, hSum, List.sum_cons]
                · rw [hyphenate_cons_cons, List.take_left' hTake, List.drop_left' hTake, ← hDrop,
                    List.take_append_drop]
            · cases hRead
          · rintro ⟨hLength, rfl⟩
            rw [List.sum_cons] at hLength
            have hTake : (digits.take n).length = n := List.length_take_of_le (by omega)
            have hOthers : ungroup? (m :: sizes) (hyphenate (m :: sizes) (digits.drop n)) = some (digits.drop n) :=
              ih.2 ⟨by rw [List.length_drop, hLength, Nat.add_sub_cancel_left], rfl⟩
            rw [hyphenate_cons_cons]
            simp only [ungroup?, List.drop_left' hTake, List.take_left' hTake, hOthers, Option.map_some,
              List.take_append_drop]

theorem length_hyphenate (h : digits.length = 32) :
    (hyphenate [8, 4, 4, 4, 12] digits).length = 36 := by
  simp [hyphenate, h]

/-- A text that agrees with another one has its length. -/
theorem length_of_sameIgnoringAsciiCase {head : List Char} {word : String}
    (h : Text.sameIgnoringAsciiCase (String.ofList head) word = true) : head.length = word.length := by
  have hLower := congrArg List.length (beq_iff_eq.1 h)
  rwa [List.length_map, List.length_map, String.toList_ofList, String.length_toList] at hLower

/-- The length of a text tells which form it has. -/
theorem form_of_digitsOf? (h : digitsOf? text = some digits) : digits.length = 32 ∧ Form digits text := by
  have hSum : groupSizes.sum = 32 := rfl
  -- The lengths 32, 36, 38 and 45, one after the other.
  unfold digitsOf? at h
  split at h
  · next hLength =>
      cases h
      exact ⟨hLength, .plain⟩
  split at h
  · obtain ⟨hDigits, rfl⟩ := ungroup?_eq_some_iff.1 h
    exact ⟨hDigits.trans hSum, .grouped⟩
  split at h
  · split at h
    · next rest _ _ _ =>
        split at h
        · next hLast =>
            obtain ⟨hDigits, hRest⟩ := ungroup?_eq_some_iff.1 h
            have hWhole : rest = hyphenate groupSizes digits ++ ['\x7d'] := by
              rw [← hRest]
              exact (List.dropLast_append_getLast? _ hLast).symm
            rw [hWhole]
            exact ⟨hDigits.trans hSum, .braced⟩
        · cases h
    · cases h
  split at h
  · split at h
    · next hHead =>
        obtain ⟨hDigits, hRest⟩ := ungroup?_eq_some_iff.1 h
        rw [← List.take_append_drop 9 text, hRest]
        exact ⟨hDigits.trans hSum, .urn _ hHead⟩
    · cases h
  · cases h

/-- The digits are found in each of the usual forms. -/
theorem Form.digitsOf?_eq (form : Form digits text) (h : digits.length = 32) :
    digitsOf? text = some digits := by
  have hGroups : ungroup? groupSizes (hyphenate [8, 4, 4, 4, 12] digits) = some digits :=
    ungroup?_eq_some_iff.2 ⟨h, rfl⟩
  have hLength := length_hyphenate h
  cases form with
  | plain => simp [digitsOf?, h]
  | grouped => simp [digitsOf?, hLength, hGroups]
  | braced => simp [digitsOf?, hLength, hGroups]
  | urn head hHead =>
      have hNine : head.length = 9 := length_of_sameIgnoringAsciiCase hHead
      simp [digitsOf?, hLength, hGroups, hNine, hHead]

/-- Reading accepts exactly the usual forms. -/
theorem parse?_eq_some_iff {s : String} : parse? s = some id ↔ Writes s.toList id := by
  rw [parse?, Option.bind_eq_some_iff]
  constructor
  · rintro ⟨digits, hDigits, hId⟩
    exact ⟨digits, ofDigits?_eq_some_iff.1 hId, (form_of_digitsOf? hDigits).2⟩
  · rintro ⟨digits, spells, form⟩
    exact ⟨digits, form.digitsOf?_eq spells.length_eq, ofDigits?_eq_some_iff.2 spells⟩

/-! Braces. -/

/-- The part of a text that is left without the braces at its two ends. -/
structure Unbraced (whole core : List Char) : Prop where
  around : ∃ left right, whole = left ++ core ++ right ∧ (∀ c ∈ left, isBrace c = true) ∧ ∀ c ∈ right, isBrace c = true
  starts : ∀ c ∈ core.head?, isBrace c = false
  ends : ∀ c ∈ core.getLast?, isBrace c = false

/-- Trimming takes braces away at both ends. -/
theorem toList_trimBraces (s : String) :
    (trimBraces s).toList = (s.toList.dropWhile isBrace).rdropWhile isBrace := by
  rw [trimBraces, String.toList_ofList, List.rdropWhile]

/-- What is left is the text without its braces. -/
theorem unbraced_trimBraces (s : String) : Unbraced s.toList (trimBraces s).toList := by
  rw [toList_trimBraces]
  constructor
  · refine ⟨s.toList.takeWhile isBrace, (s.toList.dropWhile isBrace).rtakeWhile isBrace, ?_, ?_, ?_⟩
    · rw [List.append_assoc, List.rdropWhile_append_rtakeWhile, List.takeWhile_append_dropWhile]
    · exact fun c hMem => List.mem_takeWhile_imp hMem
    · exact fun c hMem => List.mem_rtakeWhile_imp hMem
  · intro c hHead
    obtain ⟨rest, hCore⟩ := List.head?_eq_some_iff.1 hHead
    obtain ⟨right, hWhole⟩ := List.rdropWhile_prefix isBrace (s.toList.dropWhile isBrace)
    have hFirst := List.head?_dropWhile_not isBrace s.toList
    rw [← hWhole, hCore] at hFirst
    exact hFirst
  · intro c hLast
    obtain ⟨hSome, rfl⟩ := List.mem_getLast?_eq_getLast hLast
    exact Bool.eq_false_of_not_eq_true (List.rdropWhile_last_not isBrace _ hSome)

/-- Only one part is left without the braces. -/
theorem Unbraced.eq_trimBraces {s : String} {core : List Char} (unbraced : Unbraced s.toList core) :
    core = (trimBraces s).toList := by
  obtain ⟨left, right, hWhole, hLeft, hRight⟩ := unbraced.around
  have hEnd : (core ++ right).rdropWhile isBrace = core := by
    rw [List.rdropWhile, List.reverse_append,
      List.dropWhile_append_of_pos fun c hMem => hRight c (List.mem_reverse.1 hMem), ← List.rdropWhile,
      List.rdropWhile_eq_self_iff]
    intro hSome
    rw [unbraced.ends _ (List.getLast?_eq_some_getLast hSome)]
    exact Bool.false_ne_true
  rw [toList_trimBraces, hWhole, List.append_assoc, List.dropWhile_append_of_pos hLeft]
  cases core with
  | nil =>
      rw [List.nil_append, List.dropWhile_eq_nil_iff.2 hRight]
      rfl
  | cons c rest =>
      have hFirst : ¬isBrace c = true := Bool.eq_false_iff.1 (unbraced.starts c rfl)
      rw [List.cons_append, List.dropWhile_cons_of_neg hFirst, ← List.cons_append, hEnd]

/-! Readers. -/

variable {read : Reader} {s : String}

/-- The reader takes the text for this identifier once the braces around it are gone. -/
def Names (read : Reader) (s : String) (id : Clsid) : Prop :=
  ∃ core : String, Unbraced s.toList core.toList ∧ read core = .ok id

/-- What is read of an identifier given by hand is what the reader says of the text without the braces. -/
theorem ofArgument_eq_iff {result : Except String Clsid} :
    ofArgument read s = result ↔ ∃ core : String, Unbraced s.toList core.toList ∧ read core = result := by
  rw [ofArgument]
  constructor
  · intro hRead
    exact ⟨_, unbraced_trimBraces s, hRead⟩
  · rintro ⟨core, unbraced, hRead⟩
    rwa [← String.toList_inj.1 unbraced.eq_trimBraces]

/-- The reader takes the usual forms and no other text. -/
def Reader.TakesUsualForms (read : Reader) : Prop := ∀ s id, read s = .ok id ↔ Writes s.toList id

/-- The reader of the usual forms takes each of them, whatever it says about other texts. -/
theorem Reader.takesUsualForms_ofUsualForms (explain : String → String) :
    (Reader.ofUsualForms explain).TakesUsualForms := by
  intro s id
  rw [ofUsualForms, ← parse?_eq_some_iff]
  cases parse? s <;> simp

/-- For such a reader, an identifier given by hand is one of the usual forms with any braces around it. -/
theorem Reader.TakesUsualForms.names_iff (takes : read.TakesUsualForms) :
    Names read s id ↔ ∃ core, Unbraced s.toList core ∧ Writes core id := by
  constructor
  · rintro ⟨core, unbraced, hRead⟩
    exact ⟨core.toList, unbraced, (takes core id).1 hRead⟩
  · rintro ⟨core, unbraced, hWrites⟩
    have hCore : (String.ofList core).toList = core := String.toList_ofList
    refine ⟨String.ofList core, hCore.symm ▸ unbraced, (takes _ id).2 (hCore.symm ▸ hWrites)⟩

end Clsid

end ConsoleHost
