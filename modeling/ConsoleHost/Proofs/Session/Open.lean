import ConsoleHost.Proofs.Session.Consistent
import ConsoleHost.Server

/-! What a create request can open: an endpoint of the session, or an output buffer that is created for
it. A request that is refused leaves the session as it is. -/

namespace ConsoleHost.Session

variable {s s' : Session} {request : CreateRequest} {handle : HandleId}

/-- Everything that a create request can open. -/
inductive Opens (s : Session) (request : CreateRequest) : HandleId → Session → Prop where
  | endpoint {object : ObjectId} {opened : Registry} (hUp : s.initialized = true)
      (hObject : s.input = some object ∨ s.activeOutput = some object)
      (hOpen : s.registry.openHandle object request.access request.share =
        (.ok s.registry.nextHandle, opened)) :
      Opens s request s.registry.nextHandle { s with registry := opened }
  | newOutput {buffer window : Size} {opened : Registry} (hUp : s.initialized = true)
      (hSize : s.activeOutputSize? = some (buffer, window))
      (hOpen : (s.registry.create (.output buffer window) false).openHandle s.registry.nextObject
        request.access request.share = (.ok s.registry.nextHandle, opened)) :
      Opens s request s.registry.nextHandle { s with registry := opened }

/-- A create request changes nothing but the registry. -/
theorem openObject_keeps (s : Session) (request : CreateRequest) :
    ∃ registry, (s.openObject request).2 = { s with registry := registry } := by
  simp only [openObject]
  split
  · exact ⟨_, rfl⟩
  · split
    · exact ⟨_, rfl⟩
    · split
      · exact ⟨_, rfl⟩
      · split
        · exact ⟨_, rfl⟩
        · split <;> exact ⟨_, rfl⟩
    · split <;> exact ⟨_, rfl⟩

/-- A create request is refused, and then nothing has changed, or a handle is opened under the next number. -/
theorem openObject_cases (sound : s.registry.Sound) (request : CreateRequest) :
    (∃ refusal, s.openObject request = (.error refusal, s)) ∨
      ∃ s', s.openObject request = (.ok s.registry.nextHandle, s') ∧
        s.Opens request s.registry.nextHandle s' := by
  simp only [openObject]
  split
  · exact .inl ⟨_, rfl⟩
  · next hUp =>
      rw [Bool.not_eq_false] at hUp
      split
      · exact .inl ⟨_, rfl⟩
      · split
        · exact .inl ⟨_, rfl⟩
        · split
          · exact .inl ⟨_, rfl⟩
          · next buffer window hSize =>
              obtain ⟨opened, hOpen⟩ := sound.openHandle_create (.output buffer window) false request.access request.share
              rw [hOpen]
              exact .inr ⟨_, rfl, .newOutput hUp hSize hOpen⟩
      · split
        · exact .inl ⟨_, rfl⟩
        · next object hObject =>
            obtain ⟨refusal, hOpen⟩ | ⟨opened, hOpen⟩ :=
              s.registry.openHandle_cases object request.access request.share
            · rw [hOpen]
              exact .inl ⟨_, rfl⟩
            · rw [hOpen]
              refine .inr ⟨_, rfl, .endpoint hUp ?_ hOpen⟩
              split at hObject
              · exact .inl hObject
              · exact .inr hObject
              · cases hObject

/-- A create request that is refused leaves the session as it was, its numbers included. -/
theorem eq_of_openObject_error (sound : s.registry.Sound) {refusal : Refusal}
    (h : s.openObject request = (.error refusal, s')) : s' = s := by
  obtain ⟨other, hOther⟩ | ⟨opened, hOpened, _⟩ := openObject_cases sound request
  · exact (Prod.mk.inj (h.symm.trans hOther)).2
  · cases h.symm.trans hOpened

theorem Opens.continues (opens : s.Opens request handle s') (consistent : s.Consistent) :
    ∃ registry, s' = { s with registry := registry } ∧ s.registry.Continues registry := by
  cases opens with
  | endpoint _ _ hOpen => exact ⟨_, rfl, consistent.continues.openHandle hOpen⟩
  | newOutput _ _ hOpen => exact ⟨_, rfl, consistent.continues.openHandle_create _ hOpen⟩

end ConsoleHost.Session
