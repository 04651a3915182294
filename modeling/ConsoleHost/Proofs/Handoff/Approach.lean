import ConsoleHost.Proofs.Hosting

/-! In which order a handler is approached. It is activated first. What it is offered is got together after that,
and it gets one offer or none. -/

namespace ConsoleHost

namespace Call

def activated? : Call → Option Clsid
  | activate target _ => some target
  | _ => none

def offered? : Call → Option Handoff.Offer
  | offer made => some made
  | _ => none

def activations (calls : List Call) : List Clsid := calls.filterMap activated?

def offers (calls : List Call) : List Handoff.Offer := calls.filterMap offered?

/-- No handler is approached with any of these calls. -/
def Apart (calls : List Call) : Prop := ∀ call ∈ calls, call.activated? = none ∧ call.offered? = none

variable {calls more before after : List Call} {call : Call} {offer other : Handoff.Offer}

theorem activations_append : activations (calls ++ more) = activations calls ++ activations more :=
  List.filterMap_append

theorem offers_append : offers (calls ++ more) = offers calls ++ offers more := List.filterMap_append

/-- Calls that keep apart from a handoff activate nobody. -/
theorem Apart.activations_eq (apart : Apart calls) : activations calls = [] :=
  List.filterMap_eq_nil_iff.2 fun call hMem => (apart call hMem).1

theorem Apart.offers_eq (apart : Apart calls) : offers calls = [] :=
  List.filterMap_eq_nil_iff.2 fun call hMem => (apart call hMem).2

theorem Apart.append (apart : Apart calls) (later : Apart more) : Apart (calls ++ more) :=
  List.forall_mem_append.2 ⟨apart, later⟩

/-- The offers are those that the calls make. -/
theorem mem_offers : offer ∈ offers calls ↔ .offer offer ∈ calls := by
  constructor
  · intro h
    obtain ⟨call, hMem, hCall⟩ := List.mem_filterMap.1 h
    cases call with
    | offer =>
        cases hCall
        exact hMem
    | _ => cases hCall
  · intro h
    exact List.mem_filterMap.2 ⟨_, h, rfl⟩

theorem not_mem_offer_of_offers (h : offers calls = []) : .offer offer ∉ calls := by
  rw [← mem_offers, h]
  exact List.not_mem_nil

/-- Calls with a single offer can be split at an offer in one way only. -/
theorem split_at_offer (hBefore : offers calls = []) (hAfter : offers more = [])
    (h : calls ++ .offer offer :: more = before ++ .offer other :: after) :
    before = calls ∧ other = offer ∧ after = more := by
  rcases List.append_eq_append_iff.1 h with ⟨rest, hSplit, hRest⟩ | ⟨rest, hSplit, hRest⟩
  · cases rest with
    | nil =>
        cases hRest
        exact ⟨hSplit.trans (List.append_nil _), rfl, rfl⟩
    | cons call rest =>
        -- The other offer would have to come later.
        obtain ⟨-, rfl⟩ := List.cons.inj hRest
        exact absurd (List.mem_append_right rest (List.mem_cons_self ..)) (not_mem_offer_of_offers hAfter)
  · cases rest with
    | nil =>
        cases hRest
        exact ⟨(hSplit.trans (List.append_nil _)).symm, rfl, rfl⟩
    | cons call rest =>
        obtain ⟨rfl, -⟩ := List.cons.inj hRest
        subst hSplit
        exact absurd (List.mem_append_right before (List.mem_cons_self ..)) (not_mem_offer_of_offers hBefore)

/-- Calls that serve clients or raise the session keep apart from a handoff. -/
theorem apart_of_serves (h : ∀ call ∈ calls, call.serves = true ∨ call.raises = true) : Apart calls := by
  intro call hMem
  have hCall := h call hMem
  cases call with
  | activate => simp [serves, raises] at hCall
  | offer => simp [serves, raises] at hCall
  | _ => exact ⟨rfl, rfl⟩

end Call

open Call

namespace Handoff

/-- The identifier of a request can be put together again from the two halves that a handler gets. -/
theorem identifier_ofDescriptor (d : Descriptor) :
    (AttachMessage.ofDescriptor d).identifier = d.identifier.toNat := by
  have hLow : d.idLow.toNat = d.identifier.toNat % 2 ^ 32 := UInt64.toNat_toUInt32 ..
  have hHigh : d.idHigh.toUInt32.toNat = d.identifier.toNat / 2 ^ 32 := by
    have hBound : d.identifier.toNat < 2 ^ 64 := d.identifier.toNat_lt
    rw [Descriptor.idHigh, UInt32.toUInt32_toInt32, UInt64.toNat_toUInt32, UInt64.toNat_shiftRight]
    simp only [UInt64.reduceToNat, Nat.reduceMod, Nat.shiftRight_eq_div_pow]
    omega
  simp only [AttachMessage.identifier, AttachMessage.ofDescriptor, hLow, hHigh, UInt32.size]
  omega

/-- The calls before an offer: the handler is activated, the server handle is looked up, and the pipe and the
process handle that are offered are issued. -/
def preparations (target : Clsid) (offer : Offer) : List Call :=
  [.activate target true, .serverHandle (some offer.server), .createPipe (some offer.signalPipe),
    .duplicateProcess (some offer.process)]

/-- Everything that an offer takes can be had. -/
def Ready (env : Environment) (serverHandle : Option RawHandle) (target : Clsid) : Prop :=
  env.activate target = .ok () ∧ (∃ server, serverHandle = some server) ∧
    (∃ signals, env.system.createPipe = .ok signals) ∧ env.system.duplicateProcess = .ok ()

variable (env : Environment) (serverHandle : Option RawHandle) (target : Clsid) (descriptor : Descriptor)
  (wakeEvent : RawHandle)

/-- The calls of a request that a handler is activated for. Something is missing and nothing is offered, or the one
offer is made once everything is there. Other calls come later. -/
inductive Approaches : List Call → Prop where
  | unready {succeeded : Bool} {rest : List Call} (hMissing : ¬Ready env serverHandle target)
      (apart : Apart rest) : Approaches (.activate target succeeded :: rest)
  | offered {server : RawHandle} {rest : List Call} (hServer : serverHandle = some server)
      (hReady : Ready env serverHandle target) (apart : Apart rest) :
      Approaches (preparations target (offerOf env descriptor server wakeEvent) ++
        .offer (offerOf env descriptor server wakeEvent) :: rest)

variable {env serverHandle target descriptor wakeEvent} {calls more : List Call}

/-- Calls that keep apart may follow an approach. -/
theorem Approaches.append (approaches : Approaches env serverHandle target descriptor wakeEvent calls)
    (apart : Apart more) : Approaches env serverHandle target descriptor wakeEvent (calls ++ more) := by
  cases approaches with
  | unready hMissing early => exact .unready hMissing (early.append apart)
  | @offered server rest hServer hReady early =>
      rw [List.append_assoc, List.cons_append]
      exact .offered hServer hReady (early.append apart)

/-- An approach activates its target, once. -/
theorem Approaches.activations_eq (approaches : Approaches env serverHandle target descriptor wakeEvent calls) :
    activations calls = [target] := by
  cases approaches with
  | unready _ apart => exact congrArg (target :: ·) apart.activations_eq
  | offered _ _ apart =>
      rw [activations_append]
      exact congrArg (target :: ·) apart.activations_eq

theorem offers_preparations (offer : Offer) : offers (preparations target offer) = [] := rfl

/-- What is offered, if everything can be had and if not. -/
theorem Approaches.offers_cases (approaches : Approaches env serverHandle target descriptor wakeEvent calls) :
    (¬Ready env serverHandle target ∧ offers calls = []) ∨
      (Ready env serverHandle target ∧ ∃ server, serverHandle = some server ∧
        offers calls = [offerOf env descriptor server wakeEvent]) := by
  cases approaches with
  | unready hMissing apart => exact .inl ⟨hMissing, apart.offers_eq⟩
  | @offered server rest hServer hReady apart =>
      refine .inr ⟨hReady, server, hServer, ?_⟩
      rw [offers_append, offers_preparations]
      exact congrArg (_ :: ·) apart.offers_eq

/-- Whatever is offered has been prepared just before. -/
theorem Approaches.prepared {before after : List Call} {offer : Offer}
    (approaches : Approaches env serverHandle target descriptor wakeEvent calls)
    (h : calls = before ++ .offer offer :: after) :
    before = preparations target offer ∧ serverHandle = some offer.server ∧
      offer = offerOf env descriptor offer.server wakeEvent := by
  cases approaches with
  | unready _ apart =>
      have hMade : .offer offer ∈ before ++ .offer offer :: after :=
        List.mem_append_right before (List.mem_cons_self ..)
      rw [← h] at hMade
      exact absurd ((List.mem_cons.1 hMade).resolve_left (by simp)) (not_mem_offer_of_offers apart.offers_eq)
  | offered hServer _ apart =>
      obtain ⟨rfl, rfl, -⟩ := split_at_offer (offers_preparations _) apart.offers_eq h
      exact ⟨rfl, hServer, rfl⟩

/-! An exchange is such an approach, and nobody is approached in what follows it. -/

/-- Every negotiation approaches the handler in order, however far it comes. -/
theorem Negotiates.approaches {exchange : Negotiation}
    (negotiates : Negotiates env serverHandle target descriptor wakeEvent exchange) :
    Approaches env serverHandle target descriptor wakeEvent exchange.calls := by
  cases negotiates with
  | unregistered hActivate =>
      exact .unready (fun ready => by cases hActivate.symm.trans ready.1) (by simp [Apart])
  | noServer _ hServer =>
      refine .unready (fun ⟨_, ⟨server, hFound⟩, _⟩ => ?_) (by simp [Apart, activated?, offered?])
      cases hServer.symm.trans hFound
  | noPipe _ _ hPipe =>
      refine .unready (fun ⟨_, _, ⟨signals, hFound⟩, _⟩ => ?_) (by simp [Apart, activated?, offered?])
      cases hPipe.symm.trans hFound
  | noProcess _ _ _ hProcess =>
      refine .unready (fun ⟨_, _, _, hFound⟩ => ?_) (by simp [Apart, activated?, offered?])
      cases hProcess.symm.trans hFound
  | refused hActivate hServer hPipe hProcess =>
      exact .offered hServer ⟨hActivate, ⟨_, hServer⟩, ⟨_, hPipe⟩, hProcess⟩
        (by simp [Apart, activated?, offered?])
  | accepted hActivate hServer hPipe hProcess =>
      exact .offered hServer ⟨hActivate, ⟨_, hServer⟩, ⟨_, hPipe⟩, hProcess⟩
        (by simp [Apart, activated?, offered?])

/-- So does every attempt, with the wake event that the session holds. -/
theorem Attempts.approaches {s : Session} {result : Attempt}
    (attempts : Attempts env serverHandle target descriptor s result) :
    Approaches env serverHandle target descriptor (s.wakeEvent.getD .null) result.calls := by
  have hExchange := (negotiates_negotiate env serverHandle target descriptor
    (s.wakeEvent.getD .null)).approaches
  have hClose : Apart (s.wakeEvent.toList.map Call.close) := by simp [Apart, activated?, offered?]
  cases attempts with
  | failed hEnd => rwa [hEnd] at hExchange
  | unrelayed hEnd =>
      rw [hEnd] at hExchange
      exact (hExchange.append hClose).append (by simp [Apart, activated?, offered?])
  | relayed hEnd =>
      rw [hEnd] at hExchange
      refine (hExchange.append hClose).append (List.forall_mem_cons.2 ⟨⟨rfl, rfl⟩, ?_⟩)
      exact apart_of_serves fun _ hMem => .inl (env.serves_of_mem_controlCalls hMem)

end Handoff

end ConsoleHost
