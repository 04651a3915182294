import ConsoleHost.Proofs.Server.Invariant
import ConsoleHost.Proofs.Session.Ledger

/-! The live handles of a running server are those that its clients have been told of and have not given
up. What a request means to clients is read off the calls that reach them and off its answer. -/

namespace ConsoleHost

open Call Session

def Call.delivered? : Call → Option Reply
  | complete reply true => some reply
  | _ => none

/-- The replies that reached a client. -/
def Call.delivered (calls : List Call) : List Reply := calls.filterMap delivered?

theorem Call.delivered_append (first second : List Call) :
    delivered (first ++ second) = delivered first ++ delivered second :=
  List.filterMap_append

/-- Whatever is delivered reaches somebody. -/
theorem Call.delivered_reaching (calls : List Call) : delivered (reaching calls) = delivered calls := by
  induction calls with
  | nil => rfl
  | cons call rest ih =>
      cases call with
      | complete reply succeeded =>
          cases succeeded with
          | true => exact congrArg (reply :: ·) ih
          | false => exact ih
      | _ => exact ih

/-- The reply by which a client gets its tokens. -/
def News.reply? (message : Message) : News → Option Reply
  | created token => some { message.reply .success with information := token }
  | connected tokens => some (Server.connectedReply message tokens)
  | _ => none

namespace Server

/-- What a request means to clients. Whatever is published counts for nothing without its reply. -/
def news (message : Message) (completion : Option Completion) (calls : List Call) : News :=
  match message.request with
  | .create _ =>
    match reaching calls with
    | [.publish _ token, .complete _ true] => .created token
    | _ => .nothing
  | .close =>
    if completion = some (.reply (message.reply .success)) then .closed message.descriptor.handle.number
    else .nothing
  | .connect _ =>
    match reaching calls with
    | [.publish _ process, .publish _ input, .publish _ output, .complete _ true] =>
      .connected ⟨process, input, output⟩
    | _ => .nothing
  | .disconnect => .disconnected message.descriptor.processToken
  | .api _ => .nothing

def Turn.news (turn : Turn) : News :=
  match turn.step with
  | .dispatch _ message => Server.news message turn.completion turn.calls
  | .shutdown => .shutDown
  | .failNext _ | .focus _ => .nothing

def account (turns : List Turn) : Ledger := turns.foldl (fun ledger turn => ledger.after turn.news) .empty

/-- The tokens that clients closed with success, as often as they did. -/
def closedTokens (turns : List Turn) : List Nat := turns.filterMap fun turn => turn.news.closed?

/-- A request changes the session as its news say, and the reply to the news is what is delivered. -/
structure Answers (server : Server) (message : Message) (served : Served) : Prop where
  accounts : server.session.Accounts (news message (some served.completion) served.calls)
    served.server.session
  delivered_eq : delivered served.calls =
    ((news message (some served.completion) served.calls).reply? message).toList

variable {env : Environment} {server : Server} {message : Message} {served : Served}

/-- A message answers as the ledger says, if its news is what the ledger accounts for. -/
theorem answers_of_news (told : News) (hNews : news message (some served.completion) served.calls = told)
    (accounts : server.session.Accounts told served.server.session)
    (hDelivered : delivered (reaching served.calls) = (told.reply? message).toList) :
    Answers server message served := by
  subst hNews
  exact ⟨accounts, (delivered_reaching _).symm.trans hDelivered⟩

/-- A handoff attempt leaves the ledger alone and reaches nobody. -/
theorem accounts_attempt {target : Clsid} {result : Handoff.Attempt}
    (hAttempt : Handoff.attempt env server.transport.serverHandle target message.descriptor
      server.session = result) :
    server.session.Accounts .nothing result.session ∧ reaching result.calls = [] := by
  refine ⟨?_, hAttempt ▸ Handoff.reaching_attempt ..⟩
  rcases Handoff.session_of_attempt hAttempt with hSame | hGiven
  · rw [hSame]
    exact accounts_nothing rfl (Nat.le_refl _)
  · rw [hGiven]
    exact accounts_nothing rfl (Nat.le_refl _)

section

variable {request : ConnectMessage} (hRequest : message.request = .connect request)

include hRequest

/-- Hosting a connect enters the connection that its reply delivers, or nothing. -/
theorem Hosts.answers {issued : Nat} {info : ConnectInfo}
    (hosts : Hosts env server issued message info served) (consistent : server.session.Consistent) :
    Answers server message served := by
  cases hosts with
  | refused hAttach =>
      have ends := Attach.ends_of_run consistent hAttach
      have hCalls := ends.reaching_of_error consistent rfl
      refine answers_of_news .nothing ?_ (ends.accounts_of_error consistent rfl) ?_
      · simp only [news, hRequest, hCalls]
      · rw [hCalls]
        rfl
  | @delivered tokens _ _ _ hAttach =>
      have ends := Attach.ends_of_run consistent hAttach
      have hCalls := ends.reaching_of_ok consistent rfl
      refine answers_of_news (.connected _) ?_ (ends.accounts_of_ok consistent rfl) ?_
      · simp only [news, hRequest, reaching_append, hCalls]
        rfl
      · rw [reaching_append, hCalls]
        rfl
  | undelivered hAttach =>
      have ends := Attach.ends_of_run consistent hAttach
      have hCalls := ends.reaching_of_ok consistent rfl
      refine answers_of_news .nothing ?_ (ends.accounts_undelivered consistent rfl) ?_
      · simp only [news, hRequest, reaching_append, hCalls]
        rfl
      · rw [reaching_append, hCalls]
        rfl

theorem answers_hostLocally (server : Server) {issued : Nat} {info : ConnectInfo}
    (consistent : server.session.Consistent) :
    Answers server message (server.hostLocally env issued message info) :=
  hosts_hostLocally.answers hRequest consistent

/-- A handoff that failed is no news. -/
theorem Answers.after_attempt {target : Clsid} {failure : Handoff.Error} {session : Session}
    {calls : List Call} (answers : Answers (server.declined target failure session) message served)
    (accounts : server.session.Accounts .nothing session) (hCalls : reaching calls = []) :
    Answers server message { served with calls := calls ++ served.calls } := by
  have hNews : news message (some served.completion) (calls ++ served.calls) =
      news message (some served.completion) served.calls := by
    simp only [news, hRequest, reaching_append, hCalls, List.nil_append]
  refine answers_of_news _ hNews (accounts.of_nothing answers.accounts) ?_
  rw [reaching_append, hCalls, List.nil_append, delivered_reaching, answers.delivered_eq]

/-- A connect answers as the ledger says, handed over or not. -/
theorem Connects.answers (connects : Connects env server message request served)
    (consistent : server.session.Consistent) : Answers server message served := by
  cases connects with
  | invalid =>
      refine answers_of_news .nothing ?_ (accounts_nothing rfl (Nat.le_refl _)) rfl
      simp only [news, hRequest]
      rfl
  | @hosted info =>
      have answers : Answers server.counted message (server.counted.hostLocally env 0 message info) :=
        answers_hostLocally hRequest _ consistent
      exact ⟨answers.accounts, answers.delivered_eq⟩
  | handedOver _ _ hAttempt =>
      obtain ⟨accounts, hReaching⟩ := accounts_attempt hAttempt
      refine answers_of_news .nothing ?_ accounts ?_
      · simp only [news, hRequest, reaching_append, hReaching]
        rfl
      · rw [reaching_append, hReaching]
        rfl
  | fellBack _ hTarget hAttempt hServed =>
      subst hServed
      obtain ⟨accounts, hReaching⟩ := accounts_attempt hAttempt
      exact Answers.after_attempt hRequest
        (answers_hostLocally hRequest _ (consistent_attempt consistent hTarget hAttempt))
        accounts hReaching

end

/-- A create request enters the handle that it answers, or nothing. -/
theorem answers_create {request : CreateRequest} (hRequest : message.request = .create request)
    (consistent : server.session.Consistent) : Answers server message (server.create message request) := by
  obtain ⟨refusal, hOpen⟩ | ⟨session, hOpen, opens⟩ :=
    Session.openObject_cases consistent.sound request
  · simp only [create, hOpen]
    refine answers_of_news .nothing ?_ (accounts_nothing rfl (Nat.le_refl _)) rfl
    simp only [news, hRequest]
    rfl
  · simp only [create, hOpen]
    cases server.transport.publish (.handle server.session.registry.nextHandle) |>.delivers with
    | true =>
        refine answers_of_news (.created server.session.registry.nextHandle.number) ?_ opens.accounts rfl
        simp only [news, hRequest]
        rfl
    | false =>
        refine answers_of_news .nothing ?_ (opens.accounts_discarded consistent.sound) rfl
        simp only [news, hRequest]
        rfl

/-- A close request takes out the handle that it names, if that is open. -/
theorem answers_close (hRequest : message.request = .close) :
    Answers server message (server.close message) := by
  cases hHandle : server.session.registry.handle? message.descriptor.handle with
  | none =>
      simp only [close, Registry.closeHandle_of_not_open hHandle]
      refine answers_of_news .nothing ?_ (accounts_nothing rfl (Nat.le_refl _)) rfl
      have hRefused : Status.invalidHandle ≠ .success := by decide
      simp [news, hRequest, Message.reply, Refusal.status, hRefused]
  | some h =>
      simp only [close, Registry.closeHandle_of_open hHandle]
      refine answers_of_news (.closed message.descriptor.handle.number) ?_
        (accounts_discardHandle (Table.mem_keys_of_get? hHandle)) rfl
      simp [news, hRequest]

/-- A close request succeeds exactly for the tokens of live handles. -/
theorem completion_close (server : Server) (message : Message) :
    (server.close message).completion = .reply (message.reply
      (if message.descriptor.handle.number ∈ server.session.ledger.tokens then .success
        else .invalidHandle)) := by
  simp only [number_mem_ledger]
  cases hHandle : server.session.registry.handle? message.descriptor.handle with
  | none =>
      have hNot := (Table.get?_eq_none_iff _ _).1 hHandle
      simp only [close, Registry.closeHandle_of_not_open hHandle, if_neg hNot]
      rfl
  | some h =>
      have hMem := Table.mem_keys_of_get? hHandle
      simp only [close, Registry.closeHandle_of_open hHandle, if_pos hMem]

/-- A disconnect takes out the connection that it names, with its handles. -/
theorem answers_disconnect (hRequest : message.request = .disconnect) (hStandard : env.Standard)
    (consistent : server.session.Consistent) :
    Answers server message (server.disconnect env message) := by
  have hNews (completion : Option Completion) (calls : List Call) :
      news message completion calls = .disconnected message.descriptor.processToken := by
    simp only [news, hRequest]
  simp only [disconnect]
  split
  · next hNone => exact answers_of_news _ (hNews _ _) (consistent.accounts_of_unaddressed hNone) rfl
  · next record hFind =>
      simp only [hStandard.depart_eq, Session.snd_depart]
      refine answers_of_news _ (hNews _ _) (consistent.accounts_rollback hFind) ?_
      rw [env.reaching_accessibilityCalls]
      rfl

theorem answers_api {call : ApiCall} (hRequest : message.request = .api call) (hStandard : env.Standard) :
    Answers server message (server.api env message) := by
  have hNews (completion : Option Completion) (calls : List Call) :
      news message completion calls = .nothing := by
    simp only [news, hRequest]
  simp only [api]
  split
  · exact answers_of_news _ (hNews _ _) (accounts_nothing rfl (Nat.le_refl _)) rfl
  · simp only [hStandard.session_answer]
    exact answers_of_news _ (hNews _ _) (accounts_nothing rfl (Nat.le_refl _)) rfl

/-- Every message answers as the ledger says. -/
theorem answers_dispatch (hStandard : env.Standard) (consistent : server.session.Consistent) :
    Answers server message (server.dispatch env message) := by
  rw [dispatch]
  split
  · next hRequest => exact answers_create hRequest consistent
  · next hRequest => exact answers_close hRequest
  · next hRequest => exact connects_connect.answers hRequest consistent
  · next hRequest => exact answers_disconnect hRequest hStandard consistent
  · next hRequest => exact answers_api hRequest hStandard

/-- Every step changes the ledger as its news says. -/
theorem accounts_turn {step : Step} (hStandard : step.Standard) (consistent : server.session.Consistent) :
    server.session.Accounts (server.turn step).news (server.turn step).server.session := by
  cases step with
  | dispatch env message => exact (answers_dispatch hStandard consistent).accounts
  | shutdown => exact consistent.accounts_teardown
  | failNext count => exact accounts_nothing rfl (Nat.le_refl _)
  | focus on => exact accounts_nothing rfl (Nat.le_refl _)

/-- The session is what its clients were told of, and no token was closed twice. -/
structure Balanced (turns : List Turn) (server : Server) : Prop where
  consistent : server.session.Consistent
  ledger_eq : server.session.ledger = account turns
  closed_nodup : (closedTokens turns).Nodup
  closed_le : ∀ token ∈ closedTokens turns, token ≤ server.session.registry.lastHandle
  closed_gone : ∀ token ∈ closedTokens turns, token ∉ server.session.ledger.tokens

variable {first : Server} {turns : List Turn}

/-- A server that has just started has an empty ledger. -/
theorem Started.balanced (started : Started server) : Balanced [] server := by
  refine ⟨started.consistent, ?_, List.nodup_nil, by simp [closedTokens], by simp [closedTokens]⟩
  obtain ⟨options, capacity, serverHandle, event, rfl⟩ := started.eq_fresh
  rfl

theorem closedTokens_concat (turns : List Turn) (turn : Turn) :
    closedTokens (turns ++ [turn]) = closedTokens turns ++ turn.news.closed?.toList := by
  cases hToken : turn.news.closed? with
  | none => simp [closedTokens, hToken]
  | some token => simp [closedTokens, hToken]

/-- A balanced ledger stays so through one more step. -/
theorem Balanced.turn {step : Step} (balanced : Balanced turns server) (hStandard : step.Standard) :
    Balanced (turns ++ [server.turn step]) (server.turn step).server := by
  have accounts := accounts_turn hStandard balanced.consistent
  have hClosed := closedTokens_concat turns (server.turn step)
  have hNew : ∀ token, (server.turn step).news.closed? = some token →
      token ≤ server.session.registry.lastHandle :=
    fun token hToken => balanced.consistent.token_le (accounts.closed_mem token hToken)
  refine ⟨consistent_turn hStandard balanced.consistent, ?_, ?_, ?_, ?_⟩
  · rw [accounts.ledger_eq, balanced.ledger_eq, account, account, List.foldl_append]
    rfl
  · rw [hClosed]
    cases hToken : (server.turn step).news.closed? with
    | none => simpa using balanced.closed_nodup
    | some token =>
        have hOther : token ∉ closedTokens turns := fun hMem =>
          balanced.closed_gone token hMem (accounts.closed_mem token hToken)
        exact List.concat_eq_append ▸ balanced.closed_nodup.concat hOther
  · intro token hMem
    rw [hClosed] at hMem
    refine Nat.le_trans ?_ accounts.lastHandle_le
    rcases List.mem_append.1 hMem with hBefore | hLast
    · exact balanced.closed_le token hBefore
    · exact hNew token (Option.mem_toList.1 hLast)
  · intro token hMem hLive
    rw [accounts.ledger_eq] at hLive
    rw [hClosed] at hMem
    rcases List.mem_append.1 hMem with hBefore | hLast
    · -- A token that is granted is larger than any before it.
      rcases Ledger.mem_tokens_of_mem_after hLive with hOld | hGranted
      · exact balanced.closed_gone token hBefore hOld
      · have hLess := accounts.granted_new token hGranted
        have hLe := balanced.closed_le token hBefore
        omega
    · have hNews := News.eq_closed (Option.mem_toList.1 hLast)
      rw [hNews] at hLive
      exact (Ledger.mem_without hLive).2 (List.mem_singleton_self _)

/-- The ledger balances over any run. -/
theorem Run.balanced (run : Run first turns server) (started : Started first) : Balanced turns server := by
  induction run with
  | idle => exact started.balanced
  | step _ step hStandard ih => exact ih.turn hStandard

/-- Over a run, what is delivered for a message is the reply that its news calls for. -/
theorem Run.delivered_eq (run : Run first turns server) (started : Started first) :
    ∀ turn ∈ turns, ∀ env message, turn.step = .dispatch env message →
      delivered turn.calls = (turn.news.reply? message).toList := by
  induction run with
  | idle => simp
  | @step turns server prior step hStandard ih =>
      intro turn hMem env message hStep
      rcases List.mem_append.1 hMem with hBefore | hLast
      · exact ih turn hBefore env message hStep
      · cases List.mem_singleton.1 hLast
        cases step with
        | dispatch env message =>
            cases hStep
            exact (answers_dispatch hStandard (prior.balanced started).consistent).delivered_eq
        | shutdown => cases hStep
        | failNext => cases hStep
        | focus => cases hStep

/-- The live handles are the tokens that replies brought to clients, without those that clients closed and
without those of processes that are gone. No other reply is delivered, a close request succeeds exactly for
these tokens, and for each of them once. -/
theorem handles_accounted (started : Started first) (run : Run first turns server) :
    server.session.registry.handles.keys.map HandleId.number = (account turns).tokens ∧
      (∀ turn ∈ turns, ∀ env message, turn.step = .dispatch env message →
        delivered turn.calls = (turn.news.reply? message).toList) ∧
      (∀ env message, message.request = .close →
        (server.dispatch env message).completion = .reply (message.reply
          (if message.descriptor.handle.number ∈ (account turns).tokens then .success
            else .invalidHandle))) ∧
      (closedTokens turns).Nodup := by
  have balanced := run.balanced started
  refine ⟨congrArg Ledger.tokens balanced.ledger_eq, run.delivered_eq started,
    fun env message hRequest => ?_, balanced.closed_nodup⟩
  rw [← balanced.ledger_eq, ← completion_close, dispatch, hRequest]

/-- The reply for the first output buffer is lost, and the input handle of the process is closed twice. -/
def mixed : List Step :=
  [.dispatch quiet (connecting 7), .failNext 1, .dispatch quiet creating, .dispatch quiet creating,
   .dispatch quiet ⟨⟨3, 0, 1, 0, 0, 0⟩, .close⟩, .dispatch quiet ⟨⟨4, 0, 1, 0, 0, 0⟩, .close⟩]

theorem handles_accounted_mixed :
    (begun.follow mixed).session.registry.handles.keys.map HandleId.number = [2, 4] ∧
      closedTokens (begun.turns mixed) = [1] ∧
      ((begun.follow mixed).dispatch quiet ⟨⟨5, 0, 1, 0, 0, 0⟩, .close⟩).completion =
        .reply ⟨5, .invalidHandle, 0, []⟩ := by
  have hStandard : ∀ step ∈ mixed, step.Standard := by
    have hQuiet := Environment.standard_bare StandIn.fresh.system
    simp [mixed, Step.Standard, quiet, hQuiet]
  have run : Run begun (begun.turns mixed) _ := Run.idle.follow hStandard
  obtain ⟨hKeys, -, hClose, -⟩ := handles_accounted started_begun run
  refine ⟨hKeys.trans ?_, ?_, (hClose quiet ⟨⟨5, 0, 1, 0, 0, 0⟩, .close⟩ rfl).trans ?_⟩
  · decide
  · decide
  · decide

end Server

end ConsoleHost
