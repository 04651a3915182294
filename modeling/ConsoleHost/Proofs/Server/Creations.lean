import ConsoleHost.Proofs.Server.Ledger

/-! The handles of a running server that no connection came with are those that create requests were answered with and
that have not been closed. A number that was given out for one purpose never serves another. -/

namespace ConsoleHost

open Call

def News.created? : News → Option Nat
  | created token => some token
  | _ => none

theorem News.eq_created {news : News} {token : Nat} (h : news.created? = some token) : news = .created token := by
  cases news with
  | created => exact congrArg created (Option.some.inj h)
  | nothing => cases h
  | closed => cases h
  | connected => cases h
  | disconnected => cases h
  | shutDown => cases h

/-- A handle that is created is granted. -/
theorem News.created_mem_granted {news : News} {token : Nat} (h : news.created? = some token) :
    token ∈ news.granted := by
  rw [eq_created h]
  exact List.mem_singleton_self token

namespace Ledger

variable {l : Ledger} {news : News} {last : Nat}

/-- The tokens that connections came with, closed or not. -/
def primary (l : Ledger) : List Nat := l.connections.flatMap ConnectionTokens.handles

/-- The tokens that no connection came with. -/
def loose (l : Ledger) : List Nat := l.without l.primary

/-- A primary handle was one before, or it has just been granted. -/
theorem mem_primary_after {token : Nat} (h : token ∈ (l.after news).primary) :
    token ∈ l.primary ∨ token ∈ news.granted := by
  cases news with
  | nothing => exact .inl h
  | created => exact .inl h
  | closed => exact .inl h
  | shutDown => cases h
  | connected tokens =>
      simp only [primary, after, List.flatMap_append, List.flatMap_singleton, List.mem_append] at h
      exact h
  | disconnected process =>
      rw [after] at h
      split at h
      · exact .inl h
      · obtain ⟨c, hMem, hToken⟩ := List.mem_flatMap.1 h
        exact .inl (List.mem_flatMap.2 ⟨c, List.mem_of_mem_eraseP hMem, hToken⟩)

/-- Whatever is granted is open. -/
theorem mem_tokens_after_of_granted {token : Nat} (h : token ∈ news.granted) : token ∈ (l.after news).tokens := by
  cases news with
  | created => exact List.mem_append_right _ h
  | connected => exact List.mem_append_right _ h
  | nothing => cases h
  | closed => cases h
  | disconnected => cases h
  | shutDown => cases h

/-- What is loose grows by what is created and shrinks by what is closed. Connections that come and go take all their
tokens with them. -/
theorem loose_after (hTokens : ∀ token ∈ l.tokens, token ≤ last) (hPrimary : ∀ token ∈ l.primary, token ≤ last)
    (hGranted : ∀ token ∈ news.granted, last < token) :
    (l.after news).loose = (l.loose ++ news.created?.toList).filter fun token => token ∉ news.closed?.toList := by
  cases news with
  | nothing => simp [after, News.created?, News.closed?]
  | created token =>
      have hNew : token ∉ l.primary := fun hMem => by
        have hLe := hPrimary token hMem
        have hLt := hGranted token (List.mem_singleton_self _)
        omega
      have hSame : (l.after (.created token)).primary = l.primary := rfl
      simp only [loose, without, hSame]
      simp [after, News.created?, News.closed?, List.filter_append, hNew]
  | connected tokens =>
      have hSame : (l.after (.connected tokens)).primary = l.primary ++ tokens.handles := by
        simp [primary, after]
      have hOld : l.tokens.filter (fun token => token ∉ l.primary ++ tokens.handles) = l.loose := by
        refine List.filter_congr fun token hMem => ?_
        have hOther : token ∉ tokens.handles := fun hNew => by
          have hLe := hTokens token hMem
          have hLt := hGranted token hNew
          omega
        simp [hOther]
      have hNew : tokens.handles.filter (fun token => token ∉ l.primary ++ tokens.handles) = [] := by
        rw [List.filter_eq_nil_iff]
        intro token hMem
        simp [hMem]
      rw [loose, without, hSame]
      simp only [after, List.filter_append, hOld, hNew]
      simp [News.created?, News.closed?]
  | closed token =>
      have hSame : (l.after (.closed token)).primary = l.primary := rfl
      simp only [loose, without, hSame]
      simp [after, without, News.created?, News.closed?, List.filter_filter, Bool.and_comm]
  | disconnected process =>
      simp only [News.created?, News.closed?, Option.toList_none, List.append_nil, List.not_mem_nil, not_false_eq_true,
        decide_true, List.filter_true]
      cases hFind : l.connections.find? (fun c => c.process = process) with
      | none => simp [after, hFind]
      | some c =>
          obtain ⟨hProcess, before, rest, hConnections, hBefore⟩ := List.find?_eq_some_iff_append.1 hFind
          have hAfter := after_disconnected hConnections (by simpa using hProcess) (by simpa using hBefore)
          rw [hAfter, loose, without, without, loose, without, List.filter_filter]
          refine List.filter_congr fun token _ => ?_
          have hSplit : token ∈ l.primary ↔
              token ∈ (before ++ rest).flatMap ConnectionTokens.handles ∨ token ∈ c.handles := by
            simp only [primary, hConnections, List.flatMap_append, List.flatMap_cons, List.mem_append]
            tauto
          rw [primary, ← Bool.decide_and, decide_eq_decide, hSplit, not_or]
  | shutDown => simp [loose, after, without, primary, News.created?, News.closed?]

end Ledger

namespace Server

def Turn.created (turn : Turn) : List Nat :=
  match turn.step with
  | .dispatch _ message =>
    match message.request with
    | .create _ => (delivered turn.calls).map Reply.information
    | _ => []
  | _ => []

/-- The handles that create requests were answered with, in the order of the replies. -/
def createdTokens (turns : List Turn) : List Nat := turns.flatMap Turn.created

variable {first server : Server} {turns : List Turn}

/-- A create request is news of what it created, and no other request is such news. -/
theorem created?_news {message : Message} {completion : Option Completion} {calls : List Call}
    (hDelivered : delivered calls = ((news message completion calls).reply? message).toList) :
    (news message completion calls).created?.toList =
      match message.request with
      | .create _ => (delivered calls).map Reply.information
      | _ => [] := by
  rw [hDelivered]
  cases hRequest : message.request with
  | create =>
      simp only [news, hRequest]
      split <;> rfl
  | close =>
      simp only [news, hRequest]
      split <;> rfl
  | connect =>
      simp only [news, hRequest]
      split <;> rfl
  | disconnect =>
      simp only [news, hRequest]
      rfl
  | api =>
      simp only [news, hRequest]
      rfl

/-- The handle that a step creates is the one in its news. -/
theorem created_turn {step : Step} (hStandard : step.Standard) (consistent : server.session.Consistent) :
    (server.turn step).created = (server.turn step).news.created?.toList := by
  cases step with
  | dispatch env message => exact (created?_news (answers_dispatch hStandard consistent).delivered_eq).symm
  | shutdown => rfl
  | failNext => rfl
  | focus => rfl

/-- One more step adds the handle it creates. -/
theorem createdTokens_concat {step : Step} (hStandard : step.Standard) (consistent : server.session.Consistent)
    (turns : List Turn) : createdTokens (turns ++ [server.turn step]) =
      createdTokens turns ++ (server.turn step).news.created?.toList := by
  simp [createdTokens, created_turn hStandard consistent]

/-- What a server has created is not what it has connected with. Of what it has created its clients hold all that they
have not closed. -/
structure Separates (turns : List Turn) (server : Server) : Prop extends Balanced turns server where
  primary_le : ∀ token ∈ server.session.ledger.primary, token ≤ server.session.registry.lastHandle
  created_le : ∀ token ∈ createdTokens turns, token ≤ server.session.registry.lastHandle
  apart : ∀ token ∈ createdTokens turns, token ∉ server.session.ledger.primary
  loose_eq : server.session.ledger.loose = (createdTokens turns).filter fun token => token ∉ closedTokens turns

/-- At the start no handle has been created and none is open. -/
theorem Started.separates (started : Started server) : Separates [] server := by
  have balanced := started.balanced
  have hLedger : server.session.ledger = .empty := balanced.ledger_eq
  refine ⟨balanced, ?_, ?_, ?_, ?_⟩
  · simp [hLedger, Ledger.primary, Ledger.empty]
  · simp [createdTokens]
  · simp [createdTokens]
  · simp [hLedger, Ledger.loose, Ledger.without, Ledger.empty, createdTokens]

namespace Separates

variable {step : Step}

/-- A handle that was created by a request never becomes the primary handle of a process. -/
theorem apart_turn (separates : Separates turns server) (hStandard : step.Standard) :
    ∀ token ∈ createdTokens (turns ++ [server.turn step]),
      token ∉ (server.turn step).server.session.ledger.primary := by
  have accounts := accounts_turn hStandard separates.consistent
  intro token hMem hPrimary
  rw [createdTokens_concat hStandard separates.consistent] at hMem
  rw [accounts.ledger_eq] at hPrimary
  -- Whichever of the two is new, its number is larger than any before it.
  rcases List.mem_append.1 hMem with hOld | hNew
  · rcases Ledger.mem_primary_after hPrimary with hBefore | hConnected
    · exact separates.apart token hOld hBefore
    · have hLe := separates.created_le token hOld
      have hLt := accounts.granted_new token hConnected
      omega
  · have hNews := News.eq_created (Option.mem_toList.1 hNew)
    rw [hNews] at hPrimary
    have hLe := separates.primary_le token hPrimary
    have hLt := accounts.granted_new token (hNews ▸ List.mem_singleton_self _)
    omega

/-- The open handles of no process are those that were created and not closed, through one more step. -/
theorem loose_turn (separates : Separates turns server) (hStandard : step.Standard) :
    (server.turn step).server.session.ledger.loose =
      (createdTokens (turns ++ [server.turn step])).filter fun token =>
        token ∉ closedTokens (turns ++ [server.turn step]) := by
  have consistent := separates.consistent
  have accounts := accounts_turn hStandard consistent
  -- What is created now was not closed before.
  have hUnclosed : ∀ token ∈ (server.turn step).news.created?.toList, token ∉ closedTokens turns := by
    intro token hNew hClosed
    have hLe := separates.closed_le token hClosed
    have hLt := accounts.granted_new token (News.created_mem_granted (Option.mem_toList.1 hNew))
    omega
  have hOpen : (server.turn step).news.created?.toList.filter (fun token => token ∉ closedTokens turns) =
      (server.turn step).news.created?.toList := by
    simpa [List.filter_eq_self] using hUnclosed
  have hLoose := Ledger.loose_after (fun token => consistent.token_le) separates.primary_le accounts.granted_new
  rw [accounts.ledger_eq, hLoose, separates.loose_eq, createdTokens_concat hStandard consistent, closedTokens_concat,
    ← hOpen, ← List.filter_append, List.filter_filter, hOpen]
  refine List.filter_congr fun token _ => ?_
  simp [Bool.and_comm]

/-- Created and primary handles stay apart through one more step. -/
theorem turn (separates : Separates turns server) (hStandard : step.Standard) :
    Separates (turns ++ [server.turn step]) (server.turn step).server := by
  have accounts := accounts_turn hStandard separates.consistent
  have balanced := separates.toBalanced.turn hStandard
  have hGranted : ∀ token ∈ (server.turn step).news.granted,
      token ≤ (server.turn step).server.session.registry.lastHandle := fun token hMem =>
    balanced.consistent.token_le (accounts.ledger_eq ▸ Ledger.mem_tokens_after_of_granted hMem)
  refine ⟨balanced, ?_, ?_, separates.apart_turn hStandard, separates.loose_turn hStandard⟩
  · intro token hMem
    rw [accounts.ledger_eq] at hMem
    rcases Ledger.mem_primary_after hMem with hOld | hNew
    · exact Nat.le_trans (separates.primary_le token hOld) accounts.lastHandle_le
    · exact hGranted token hNew
  · intro token hMem
    rw [createdTokens_concat hStandard separates.consistent] at hMem
    rcases List.mem_append.1 hMem with hOld | hNew
    · exact Nat.le_trans (separates.created_le token hOld) accounts.lastHandle_le
    · exact hGranted token (News.created_mem_granted (Option.mem_toList.1 hNew))

end Separates

/-- Over any run, created and primary handles are kept apart. -/
theorem Run.separates (run : Run first turns server) (started : Started first) : Separates turns server := by
  induction run with
  | idle => exact started.separates
  | step _ step hStandard ih => exact ih.turn hStandard

end Server

end ConsoleHost
