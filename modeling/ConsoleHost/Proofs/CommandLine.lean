import ConsoleHost.CommandLine
import ConsoleHost.Proofs.Clsid
import ConsoleHost.Proofs.SelfCheck

/-! How a command line is read. It falls into pieces, a word of its own or the option for the handoff target with the
argument behind it. The first piece that stops the reading decides. If there is none, the pieces say what is asked for,
and only the targets among them have an order. -/

namespace ConsoleHost.CommandLine

inductive Piece where
  | word (text : String)
  /-- The option for the handoff target, with the argument behind it if there is one. -/
  | target (value : Option String)
  deriving DecidableEq

def Piece.arguments : Piece → List String
  | word text => [text]
  | target value => "--handoff-target" :: value.toList

def Piece.value? : Piece → Option String
  | word _ => none
  | target value => value

/-- The pieces of a command line. The option for the handoff target takes the next argument, whatever it is. -/
inductive Divides : List String → List Piece → Prop where
  | nil : Divides [] []
  | word {text : String} {words : List String} {pieces : List Piece} (h : text ≠ "--handoff-target")
      (divides : Divides words pieces) : Divides (text :: words) (.word text :: pieces)
  | target {value : String} {words : List String} {pieces : List Piece} (divides : Divides words pieces) :
      Divides ("--handoff-target" :: value :: words) (.target (some value) :: pieces)
  | unvalued : Divides ["--handoff-target"] [.target none]

def knownWords : List String :=
  ["-h", "--help", "--version", "-v", "--verbose", "--headless", "--server", "--force-no-handoff", "--embedding",
    "--handoff-target", "--self-check"]

inductive Piece.Stops (read : Clsid.Reader) : Piece → Stop → Prop where
  | help {text : String} (h : text ∈ ["-h", "--help"]) : Stops read (word text) .help
  | version : Stops read (word "--version") .version
  | unknown {text : String} (h : text ∉ knownWords) : Stops read (word text) (.unknownArgument text)
  | unvalued : Stops read (target none) .missingTarget
  /-- The reader refuses the text without the braces around it, and says why. -/
  | invalid {text core reason : String} (unbraced : Clsid.Unbraced text.toList core.toList)
      (hRead : read core = .error reason) : Stops read (target (some text)) (.invalidTarget text reason)

def Clear (read : Clsid.Reader) (pieces : List Piece) : Prop := ∀ piece ∈ pieces, ∀ stop, ¬piece.Stops read stop

/-- The first piece that stops the reading does so for this reason. -/
def StopsFirst (read : Clsid.Reader) (pieces : List Piece) (stop : Stop) : Prop :=
  ∃ before piece after, pieces = before ++ piece :: after ∧ Clear read before ∧ piece.Stops read stop

/-- Something that words switch on. -/
structure Switch where
  spellings : List String
  isOn : Arguments → Bool

def switches : List Switch :=
  [⟨["-v", "--verbose"], fun a => a.verbose⟩,
    ⟨["--headless"], fun a => a.launch.headless⟩,
    ⟨["--server"], fun a => a.launch.hostHere⟩,
    ⟨["--force-no-handoff"], fun a => a.launch.disabled⟩,
    ⟨["--embedding"], fun a => a.launch.isTarget⟩,
    ⟨["--self-check"], fun a => a.selfCheck⟩]

def targets (pieces : List Piece) : List String := pieces.filterMap Piece.value?

/-- The last target that is given is chosen, and the default if none is given. -/
inductive Chooses (read : Clsid.Reader) (pieces : List Piece) (default : Option Clsid) : Option Clsid → Prop where
  | default (hNone : targets pieces = []) : Chooses read pieces default default
  | given {text : String} {id : Clsid} (hLast : (targets pieces).getLast? = some text)
      (hNames : Clsid.Names read text id) : Chooses read pieces default (some id)

/-- What is asked for by pieces that do not stop the reading. -/
structure Asks (read : Clsid.Reader) (pieces : List Piece) (a : Arguments) : Prop where
  isOn_iff : ∀ switch ∈ switches, switch.isOn a = true ↔ ∃ text ∈ switch.spellings, .word text ∈ pieces
  target : Chooses read pieces none a.target

variable {read : Clsid.Reader} {words rest : List String} {pieces before reordered others : List Piece} {piece : Piece} {stop : Stop}
  {text : String} {flag : Flag} {a b : Arguments} {default result : Option Clsid}

/-! Every command line falls into pieces in one way. -/

/-- Any words can be divided into pieces. -/
theorem exists_divides : ∀ words, ∃ pieces, Divides words pieces
  | [] => ⟨[], .nil⟩
  | [text] => by
      by_cases hText : text = "--handoff-target"
      · subst hText
        exact ⟨_, .unvalued⟩
      · exact ⟨_, .word hText .nil⟩
  | text :: value :: rest => by
      by_cases hText : text = "--handoff-target"
      · subst hText
        obtain ⟨pieces, divides⟩ := exists_divides rest
        exact ⟨_, divides.target⟩
      · obtain ⟨pieces, divides⟩ := exists_divides (value :: rest)
        exact ⟨_, divides.word hText⟩

/-- Words can be divided into pieces in one way. -/
theorem Divides.unique (divides : Divides words pieces) (divides' : Divides words others) : others = pieces := by
  induction divides generalizing others with
  | nil =>
      cases divides'
      rfl
  | word hText _ ih =>
      cases divides' with
      | word _ divides' => rw [ih divides']
      | target => exact absurd rfl hText
      | unvalued => exact absurd rfl hText
  | target _ ih =>
      cases divides' with
      | word hText => exact absurd rfl hText
      | target divides' => rw [ih divides']
  | unvalued =>
      cases divides' with
      | word hText => exact absurd rfl hText
      | unvalued => rfl

/-- The words are those of the pieces, one after the other. -/
theorem Divides.words_eq (divides : Divides words pieces) : words = pieces.flatMap Piece.arguments := by
  induction divides with
  | nil => rfl
  | word _ _ ih => exact congrArg (_ :: ·) ih
  | target _ ih => exact congrArg (_ :: _ :: ·) ih
  | unvalued => rfl

/-- The option that takes a value is never a piece by itself. -/
theorem Divides.ne_word (divides : Divides words pieces) : ∀ piece ∈ pieces, piece ≠ .word "--handoff-target" := by
  induction divides with
  | nil => exact fun _ hMem => absurd hMem List.not_mem_nil
  | word hText _ ih => exact List.forall_mem_cons.2 ⟨fun hSame => hText (Piece.word.inj hSame), ih⟩
  | target _ ih => exact List.forall_mem_cons.2 ⟨Piece.noConfusion, ih⟩
  | unvalued => exact List.forall_mem_singleton.2 Piece.noConfusion

/-- Only the last argument can be an option that lacks its value. -/
theorem Divides.eq_nil_of_unvalued {after : List Piece} (divides : Divides words pieces)
    (hPieces : pieces = before ++ .target none :: after) : after = [] := by
  induction divides generalizing before with
  | nil => simp at hPieces
  | word _ _ ih | target _ ih =>
      cases before with
      | nil => cases hPieces
      | cons first before => exact ih (List.cons.inj hPieces).2
  | unvalued =>
      cases before with
      | nil => exact (List.cons.inj hPieces).2.symm
      | cons first before => simp at hPieces

/-- Either some piece is the first to stop the reading or none stops it. -/
theorem clear_or_exists_stopsFirst (pieces : List Piece) : Clear read pieces ∨ ∃ stop, StopsFirst read pieces stop := by
  induction pieces with
  | nil => exact .inl fun _ hMem => absurd hMem List.not_mem_nil
  | cons piece rest ih =>
      by_cases hStops : ∃ stop, piece.Stops read stop
      · obtain ⟨stop, stops⟩ := hStops
        exact .inr ⟨stop, [], piece, rest, rfl, fun _ hMem => absurd hMem List.not_mem_nil, stops⟩
      · have hGoesOn := not_exists.1 hStops
        rcases ih with clear | ⟨stop, before, other, after, rfl, clear, stops⟩
        · exact .inl (List.forall_mem_cons.2 ⟨hGoesOn, clear⟩)
        · exact .inr ⟨stop, piece :: before, other, after, rfl, List.forall_mem_cons.2 ⟨hGoesOn, clear⟩, stops⟩

/-! What is asked for. -/

theorem targets_append_word : targets (pieces ++ [.word text]) = targets pieces := by
  simp [targets, Piece.value?]

theorem targets_append_target : targets (pieces ++ [.target (some text)]) = targets pieces ++ [text] := by
  simp [targets, Piece.value?]

/-- The choice of a target depends on the targets alone. -/
theorem Chooses.congr (chooses : Chooses read pieces default result) (h : targets others = targets pieces) :
    Chooses read others default result := by
  cases chooses with
  | default hNone => exact .default (h.trans hNone)
  | given hLast hNames => exact .given (h ▸ hLast) hNames

/-- There is one choice of a target. -/
theorem Chooses.unique {result' : Option Clsid} (chooses : Chooses read pieces default result)
    (chooses' : Chooses read pieces default result') : result = result' := by
  cases chooses with
  | default hNone =>
      cases chooses' with
      | default => rfl
      | given hLast => simp [hNone] at hLast
  | given hLast hNames =>
      cases chooses' with
      | default hNone => simp [hNone] at hLast
      | given hLast' hNames' =>
          cases hLast.symm.trans hLast'
          have hSame := (Clsid.ofArgument_eq_iff.2 hNames).symm.trans (Clsid.ofArgument_eq_iff.2 hNames')
          rw [Except.ok.inj hSame]

/-- A target that is given overrides the default. -/
theorem Chooses.or (chooses : Chooses read pieces none result) (default : Option Clsid) :
    Chooses read pieces default (result.or default) := by
  cases chooses with
  | default hNone => exact .default hNone
  | given hLast hNames => exact .given hLast hNames

/-- No pieces ask for nothing. -/
theorem asks_initial : Asks read [] .initial :=
  ⟨by decide, .default rfl⟩

/-- A flag that stands alone and lets the reading go on. -/
def isSwitch : Flag → Bool
  | .help | .version | .handoffTarget => false
  | .verbose | .headless | .hostHere | .noHandoff | .asTarget | .selfCheck => true

/-- A spelling of a flag switches on what it stands for and nothing else. -/
theorem isOn_set (a : Arguments) : ∀ spelling ∈ Flag.spellings, isSwitch spelling.2 = true →
    ∀ switch ∈ switches,
      switch.isOn (a.set spelling.2) = true ↔ switch.isOn a = true ∨ spelling.1 ∈ switch.spellings := by
  simp [Flag.spellings, isSwitch, switches, Arguments.set]

/-- A switch asks for its flag, besides what the pieces before it ask for. -/
theorem Asks.word (asks : Asks read before a) (hText : (text, flag) ∈ Flag.spellings) (hSwitch : isSwitch flag = true) :
    Asks read (before ++ [.word text]) (a.set flag) := by
  constructor
  · intro switch hMem
    rw [isOn_set a _ hText hSwitch switch hMem, asks.isOn_iff switch hMem]
    simp only [List.mem_append, List.mem_singleton, Piece.word.injEq, and_or_left, exists_or, exists_eq_right]
  · have hTarget : (a.set flag).target = a.target := by cases flag <;> rfl
    rw [hTarget]
    exact asks.target.congr targets_append_word

/-- A target that can be read replaces the targets before it. -/
theorem Asks.given (asks : Asks read before a) {id : Clsid} (hNames : Clsid.Names read text id) :
    Asks read (before ++ [.target (some text)]) { a with target := some id } := by
  constructor
  · intro switch hMem
    have hSame : switch.isOn { a with target := some id } = switch.isOn a := by
      simp only [switches, List.mem_cons, List.not_mem_nil, or_false] at hMem
      rcases hMem with rfl | rfl | rfl | rfl | rfl | rfl <;> rfl
    rw [hSame, asks.isOn_iff switch hMem]
    simp
  · have hLast : (targets (before ++ [.target (some text)])).getLast? = some text := by
      rw [targets_append_target, List.getLast?_concat]
    exact .given hLast hNames

/-- Only what is asked for is set, and the order matters for the targets alone. -/
theorem Asks.unique (asks : Asks read pieces a) (asks' : Asks read others b) (hMem : ∀ piece, piece ∈ others ↔ piece ∈ pieces)
    (hTargets : targets others = targets pieces) : b = a := by
  have hSwitches : ∀ switch ∈ switches, switch.isOn b = switch.isOn a := by
    intro switch hSwitch
    rw [Bool.eq_iff_iff, asks'.isOn_iff switch hSwitch, asks.isOn_iff switch hSwitch]
    simp only [hMem]
  have hTarget : b.target = a.target := asks'.target.unique (asks.target.congr hTargets)
  rcases a with ⟨⟨_, _, _, _⟩, _, _, _⟩
  rcases b with ⟨⟨_, _, _, _⟩, _, _, _⟩
  simp_all [switches]

/-! Reading. -/

theorem mem_spellings_of_ofText? (h : Flag.ofText? text = some flag) : (text, flag) ∈ Flag.spellings := by
  obtain ⟨before, after, hSpellings, -⟩ := List.lookup_eq_some_iff.1 h
  rw [hSpellings]
  exact List.mem_append_right _ List.mem_cons_self

/-- Different flags have different spellings. -/
theorem ofText?_of_mem_spellings : ∀ spelling ∈ Flag.spellings, Flag.ofText? spelling.1 = some spelling.2 := by
  decide

theorem ofText?_handoffTarget : Flag.ofText? "--handoff-target" = some .handoffTarget :=
  ofText?_of_mem_spellings ("--handoff-target", .handoffTarget) (by simp [Flag.spellings])

/-- A word means nothing exactly if it is not one of the known ones. -/
theorem ofText?_eq_none_iff : Flag.ofText? text = none ↔ text ∉ knownWords := by
  have hWords : knownWords = Flag.spellings.map Prod.fst := rfl
  rw [Flag.ofText?, List.lookup_eq_none_iff, hWords]
  simp only [List.mem_map, not_exists, not_and, bne_iff_ne]
  exact forall₂_congr fun _ _ => ne_comm

/-- A piece that stops the reading does so whatever has been read before it. -/
theorem Piece.Stops.readFrom_eq (stops : piece.Stops read stop) (hEnd : piece = .target none → rest = []) (a : Arguments) :
    a.readFrom read (piece.arguments ++ rest) = .error stop := by
  -- Unfolded as a whole: the rewriting equations need to know whether anything follows the first argument.
  cases stops with
  | @help text h =>
      have hFlag := ofText?_of_mem_spellings (text, .help) (by simpa [Flag.spellings] using h)
      rw [Piece.arguments, List.singleton_append, Arguments.readFrom.eq_def]
      simp only [hFlag]
  | version =>
      have hFlag := ofText?_of_mem_spellings ("--version", .version) (by simp [Flag.spellings])
      rw [Piece.arguments, List.singleton_append, Arguments.readFrom.eq_def]
      simp only [hFlag]
  | @unknown text h =>
      rw [Piece.arguments, List.singleton_append, Arguments.readFrom.eq_def]
      simp only [ofText?_eq_none_iff.2 h]
  | unvalued =>
      rw [hEnd rfl, List.append_nil, Piece.arguments, Option.toList_none, Arguments.readFrom.eq_def]
      simp only [ofText?_handoffTarget]
  | @invalid text core reason unbraced hRead =>
      have hRefused : Clsid.ofArgument read text = .error reason := Clsid.ofArgument_eq_iff.2 ⟨core, unbraced, hRead⟩
      rw [Piece.arguments, Option.toList_some, List.cons_append, List.singleton_append, Arguments.readFrom.eq_def]
      simp only [ofText?_handoffTarget, hRefused]

/-- A word that does not stop the reading is a spelling of a switch. -/
theorem switch_of_goesOn (hText : text ≠ "--handoff-target") (hGoesOn : ∀ stop, ¬(Piece.word text).Stops read stop) :
    ∃ flag, Flag.ofText? text = some flag ∧ isSwitch flag = true := by
  cases hFlag : Flag.ofText? text with
  | none => exact absurd (.unknown (ofText?_eq_none_iff.1 hFlag)) (hGoesOn _)
  | some flag =>
      have hMem := mem_spellings_of_ofText? hFlag
      refine ⟨flag, rfl, ?_⟩
      cases flag with
      | help => exact absurd (.help (by simpa [Flag.spellings] using hMem)) (hGoesOn _)
      | version =>
          obtain rfl : text = "--version" := by simpa [Flag.spellings] using hMem
          exact absurd .version (hGoesOn _)
      | handoffTarget => exact absurd (by simpa [Flag.spellings] using hMem) hText
      | verbose | headless | hostHere | noHandoff | asTarget | selfCheck => rfl

/-- A target that can be read is taken, and the reading goes on. -/
theorem readFrom_of_names {id : Clsid} (hNames : Clsid.Names read text id) (a : Arguments) (rest : List String) :
    a.readFrom read ("--handoff-target" :: text :: rest) = { a with target := some id }.readFrom read rest := by
  rw [Arguments.readFrom.eq_def]
  simp only [ofText?_handoffTarget, Clsid.ofArgument_eq_iff.2 hNames]

/-- A switch is set, and the reading goes on. -/
theorem readFrom_of_switch (hFlag : Flag.ofText? text = some flag) (hSwitch : isSwitch flag = true) (a : Arguments)
    (rest : List String) : a.readFrom read (text :: rest) = (a.set flag).readFrom read rest := by
  rw [Arguments.readFrom.eq_def]
  cases flag with
  | help | version | handoffTarget => exact absurd hSwitch Bool.false_ne_true
  | verbose | headless | hostHere | noHandoff | asTarget | selfCheck => simp only [hFlag]

/-- A piece that does not stop the reading adds what it asks for. -/
theorem exists_readFrom_eq (hAlone : piece ≠ .word "--handoff-target") (hGoesOn : ∀ stop, ¬piece.Stops read stop)
    (a : Arguments) :
    ∃ b, (∀ rest, a.readFrom read (piece.arguments ++ rest) = b.readFrom read rest) ∧
      ∀ before, Asks read before a → Asks read (before ++ [piece]) b := by
  match piece with
  | .word text =>
      obtain ⟨flag, hFlag, hSwitch⟩ := switch_of_goesOn (fun hText => hAlone (congrArg Piece.word hText)) hGoesOn
      exact ⟨a.set flag, readFrom_of_switch hFlag hSwitch a,
        fun before asks => asks.word (mem_spellings_of_ofText? hFlag) hSwitch⟩
  | .target (some text) =>
      cases hRead : Clsid.ofArgument read text with
      | error reason =>
          obtain ⟨core, unbraced, hRefused⟩ := Clsid.ofArgument_eq_iff.1 hRead
          exact absurd (.invalid unbraced hRefused) (hGoesOn _)
      | ok id =>
          have hNames := Clsid.ofArgument_eq_iff.1 hRead
          exact ⟨{ a with target := some id }, readFrom_of_names hNames a, fun before asks => asks.given hNames⟩
  | .target none => exact absurd .unvalued (hGoesOn _)

/-- Pieces that do not stop the reading are read to their end, and what they ask for adds up. -/
theorem exists_readFrom_flatMap_eq (hAlone : ∀ piece ∈ pieces, piece ≠ .word "--handoff-target") (clear : Clear read pieces)
    (asks : Asks read before a) :
    ∃ b, (∀ rest, a.readFrom read (pieces.flatMap Piece.arguments ++ rest) = b.readFrom read rest) ∧
      Asks read (before ++ pieces) b := by
  -- What has been set answers to the pieces read so far.
  induction pieces generalizing before a with
  | nil =>
      rw [List.append_nil]
      exact ⟨a, fun _ => rfl, asks⟩
  | cons piece pieces ih =>
      obtain ⟨hPiece, hAlone⟩ := List.forall_mem_cons.1 hAlone
      obtain ⟨hGoesOn, clear⟩ := List.forall_mem_cons.1 clear
      obtain ⟨next, hNext, hAsks⟩ := exists_readFrom_eq hPiece hGoesOn a
      obtain ⟨b, hRead, asks⟩ := ih hAlone clear (hAsks before asks)
      refine ⟨b, fun rest => ?_, ?_⟩
      · rw [List.flatMap_cons, List.append_assoc, hNext, hRead]
      · rwa [List.append_assoc] at asks

/-- Pieces on which the reading does not stop are read through, and what they ask for is kept. -/
theorem exists_parse_flatMap_eq (hAlone : ∀ piece ∈ pieces, piece ≠ .word "--handoff-target") (clear : Clear read pieces) :
    ∃ a, (∀ rest, Arguments.parse read (pieces.flatMap Piece.arguments ++ rest) = a.readFrom read rest) ∧ Asks read pieces a :=
  exists_readFrom_flatMap_eq hAlone clear asks_initial

/-- The reading stops at the first piece that stops it. -/
theorem Divides.parse_eq_of_stopsFirst (divides : Divides words pieces) (first : StopsFirst read pieces stop) :
    Arguments.parse read words = .error stop := by
  obtain ⟨before, piece, after, rfl, clear, stops⟩ := first
  have hAlone := (List.forall_mem_append.1 divides.ne_word).1
  obtain ⟨a, hRead, -⟩ := exists_parse_flatMap_eq hAlone clear
  rw [divides.words_eq, List.flatMap_append, hRead, List.flatMap_cons]
  refine stops.readFrom_eq (fun hUnvalued => ?_) a
  subst hUnvalued
  rw [divides.eq_nil_of_unvalued rfl, List.flatMap_nil]

/-- Where no piece stops the reading, the arguments are what the pieces ask for. -/
theorem Divides.exists_parse_eq_ok (divides : Divides words pieces) (clear : Clear read pieces) :
    ∃ a, Arguments.parse read words = .ok a ∧ Asks read pieces a := by
  obtain ⟨a, hRead, asks⟩ := exists_parse_flatMap_eq divides.ne_word clear
  refine ⟨a, ?_, asks⟩
  rw [divides.words_eq, ← List.append_nil (pieces.flatMap _), hRead]
  rfl

/-- The first piece that stops the reading decides. -/
theorem Divides.parse_eq_error_iff (divides : Divides words pieces) :
    Arguments.parse read words = .error stop ↔ StopsFirst read pieces stop := by
  constructor
  · intro hError
    rcases clear_or_exists_stopsFirst pieces with clear | ⟨stop', first⟩
    · obtain ⟨a, hOk, -⟩ := divides.exists_parse_eq_ok clear
      cases hOk.symm.trans hError
    · cases (divides.parse_eq_of_stopsFirst first).symm.trans hError
      exact first
  · exact divides.parse_eq_of_stopsFirst

/-! What the program does. -/

/-- The help and the version are no failures. -/
theorem exitCode_stopped (stop : Stop) :
    (stopped stop).exitCode = if stop = .help ∨ stop = .version then 0 else 1 := by
  cases stop <;> simp [stopped, misused, complain]

/-- A self-check never fails, and there is nothing else to do. -/
theorem exitCode_perform (a : Arguments) (s : Settings) (pid : UInt32) :
    (perform a s pid).exitCode = if a.selfCheck = true then 0 else 1 := by
  by_cases hCheck : a.selfCheck = true
  · rw [perform, if_pos hCheck, if_pos hCheck]
    simp only [(SelfCheck.passes_run (a.options s) s.historyBuffers pid).failure_eq]
  · rw [perform, if_neg hCheck, if_neg hCheck, complain]

theorem Asks.selfCheck_iff (asks : Asks read pieces a) : a.selfCheck = true ↔ .word "--self-check" ∈ pieces := by
  have hSwitch := asks.isOn_iff ⟨["--self-check"], fun a => a.selfCheck⟩ (by simp [switches])
  simpa using hSwitch

/-- A command line that is read to its end asks for this, and the program does it. -/
structure Fulfils (read : Clsid.Reader) (words : List String) (pieces : List Piece) (a : Arguments) : Prop where
  parse_eq : Arguments.parse read words = .ok a
  asks : Asks read pieces a
  launch_eq : ∀ s : Settings, (a.options s).launch = a.launch
  chooses : ∀ s : Settings, Chooses read pieces s.target (a.options s).target
  exitCode_eq : ∀ s pid, (respond read words s pid).exitCode = if .word "--self-check" ∈ pieces then 0 else 1
  reordered : ∀ others : List Piece, others.Perm pieces → targets others = targets pieces →
    Arguments.parse read (others.flatMap Piece.arguments) = .ok a ∧
      ∀ s pid, respond read (others.flatMap Piece.arguments) s pid = respond read words s pid

/-- Where no piece stops the reading, the answer fulfils what the pieces ask for. -/
theorem Divides.exists_fulfils (divides : Divides words pieces) (clear : Clear read pieces) :
    ∃ a, Fulfils read words pieces a := by
  obtain ⟨a, hParse, asks⟩ := divides.exists_parse_eq_ok clear
  refine ⟨a, hParse, asks, fun _ => rfl, fun s => asks.target.or s.target, fun s pid => ?_,
    fun others hPerm hTargets => ?_⟩
  · rw [respond, hParse]
    simp only [exitCode_perform, asks.selfCheck_iff]
  · have hMem (piece : Piece) : piece ∈ others ↔ piece ∈ pieces := hPerm.mem_iff
    obtain ⟨b, hRead, asks'⟩ := exists_parse_flatMap_eq (fun piece h => divides.ne_word piece ((hMem piece).1 h))
      fun piece h => clear piece ((hMem piece).1 h)
    have hSame : Arguments.parse read (others.flatMap Piece.arguments) = .ok a := by
      rw [← asks.unique asks' hMem hTargets, ← List.append_nil (others.flatMap _), hRead]
      rfl
    refine ⟨hSame, fun s pid => ?_⟩
    rw [respond, respond, hSame, hParse]

/-- A command line is read from left to right, with the argument behind the option for the handoff target as its value,
which is a class identifier exactly if the reader takes it for one without the braces around it. The first piece that
asks for a text or is wrong decides, and only a text that was asked for counts as success. If there is none, everything
is on that some word switches on, the last target overrides the settings, and the order of the pieces makes no
difference beyond that. The program then succeeds if a self-check is asked for, and only then. -/
theorem arguments_read_in_order (read : Clsid.Reader) (words : List String) :
    ∃ pieces, Divides words pieces ∧ (∀ others, Divides words others → others = pieces) ∧
      (∀ stop, Arguments.parse read words = .error stop ↔ StopsFirst read pieces stop) ∧
      (∀ stop, StopsFirst read pieces stop → ∀ s pid, respond read words s pid = stopped stop ∧
        (respond read words s pid).exitCode = if stop = .help ∨ stop = .version then 0 else 1) ∧
      (Clear read pieces → ∃ a, Fulfils read words pieces a) := by
  obtain ⟨pieces, divides⟩ := exists_divides words
  refine ⟨pieces, divides, fun _ => divides.unique, fun _ => divides.parse_eq_error_iff, fun stop first s pid => ?_,
    divides.exists_fulfils⟩
  have hStopped : respond read words s pid = stopped stop := by rw [respond, divides.parse_eq_of_stopsFirst first]
  exact ⟨hStopped, hStopped ▸ exitCode_stopped stop⟩

/-- A reader that says of a text without hyphens how long it is. -/
def measuring : Clsid.Reader :=
  .ofUsualForms fun s => "invalid length: expected length 32 for simple format, found " ++ toString s.length

/-- The reading goes on at a known word other than those that ask for help or the version. -/
theorem goesOn_of_known (hKnown : text ∈ knownWords) (hOther : text ∉ ["-h", "--help", "--version"]) (stop : Stop) :
    ¬(Piece.word text).Stops read stop := by
  intro stops
  cases stops with
  | help h =>
      have hMem : text ∈ ["-h", "--help"] ++ ["--version"] := List.mem_append_left _ h
      exact hOther hMem
  | version => exact hOther (by simp)
  | unknown h => exact h hKnown

/-- Nothing but braces is no identifier, and the word behind it is not read any more. An identifier in braces is one. -/
theorem arguments_read_in_order_braced :
    respond measuring ["-v", "--handoff-target", "\x7b\x7d", "--version"] .standard 1 =
        complain 1
          ["Error: Invalid CLSID \x7b\x7d: invalid length: expected length 32 for simple format, found 0",
           "Use --help for usage information"] ∧
      (respond measuring ["--handoff-target", "\x7b2EACA947-7F5F-4CFA-BA87-8F7FBEEFBE69\x7d", "--self-check"]
        .standard 1).exitCode = 0 := by
  constructor
  · obtain ⟨pieces, -, unique, -, hStops, -⟩ :=
      arguments_read_in_order measuring ["-v", "--handoff-target", "\x7b\x7d", "--version"]
    obtain rfl := unique _ (.word (by decide) (.target (.word (by decide) .nil)))
    have hRefused : Clsid.ofArgument measuring "\x7b\x7d" =
        .error "invalid length: expected length 32 for simple format, found 0" := by decide
    obtain ⟨core, unbraced, hRead⟩ := Clsid.ofArgument_eq_iff.1 hRefused
    have clear : Clear measuring [.word "-v"] :=
      List.forall_mem_singleton.2 (goesOn_of_known (by decide) (by decide))
    exact (hStops _ ⟨_, _, _, rfl, clear, .invalid unbraced hRead⟩ .standard 1).1
  · obtain ⟨pieces, -, unique, -, -, hFulfils⟩ := arguments_read_in_order measuring
      ["--handoff-target", "\x7b2EACA947-7F5F-4CFA-BA87-8F7FBEEFBE69\x7d", "--self-check"]
    obtain rfl := unique _ (.target (.word (by decide) .nil))
    have hTaken : Clsid.ofArgument measuring "\x7b2EACA947-7F5F-4CFA-BA87-8F7FBEEFBE69\x7d" =
        .ok ⟨0x2EACA9477F5F4CFABA878F7FBEEFBE69⟩ := by decide
    have clear : Clear measuring [.target (some "\x7b2EACA947-7F5F-4CFA-BA87-8F7FBEEFBE69\x7d"),
        .word "--self-check"] := by
      refine List.forall_mem_cons.2 ⟨fun stop stops => ?_,
        List.forall_mem_singleton.2 (goesOn_of_known (by decide) (by decide))⟩
      cases stops with
      | invalid unbraced hRead => cases hTaken.symm.trans (Clsid.ofArgument_eq_iff.2 ⟨_, unbraced, hRead⟩)
    obtain ⟨a, fulfils⟩ := hFulfils clear
    exact (fulfils.exitCode_eq .standard 1).trans (if_pos (by decide))

end ConsoleHost.CommandLine
