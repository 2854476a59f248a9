import FreeRil.Library.FailFast
import FreeRil.Parcel

/-! The handlers of the telephone application that are registered with the Java side of the vendor's
service, and the calls that all of them are given. A `Handler` is a reference of Java: two of them
are equal where `==` says so, which is where they refer to one object. -/
namespace FreeRil
open FailFast

/-- A registration, an object of its own. One that is listed is linked to the death of its handler, so
that unlinking it throws nothing. -/
structure EventHandlerRecord (Handler : Type) where
  address : ℕ
  eventHandler : Handler
deriving DecidableEq

/-- What a handler is called for. -/
inductive HandlerCall
  | handleServiceCompleted
  | handleServiceDisplay (lines : List (Option String16))

structure PhoneService (Handler : Type) where
  mEventHandlers : ArrayList (EventHandlerRecord Handler)
  distinct : (mEventHandlers.elements.map EventHandlerRecord.address).Nodup

namespace PhoneService

variable {Handler : Type}

/-- A new object is linked to the death of the handler, and added to the list where that succeeds. -/
def registerEventHandler (handler : Handler) (linked : Bool) (service : PhoneService Handler)
    (address : ℕ) (hnew : address ∉ service.mEventHandlers.elements.map EventHandlerRecord.address) :
    PhoneService Handler :=
  if linked then {
    mEventHandlers := service.mEventHandlers.add ⟨address, handler⟩
    distinct := by
      simp only [ArrayList.add, List.map_append, List.map_cons, List.map_nil]
      exact List.nodup_append.mpr ⟨service.distinct, List.nodup_singleton _, by
        intro a ha b hb hab
        rw [List.mem_singleton.mp hb] at hab
        exact hnew (hab ▸ ha)⟩ }
  else service

theorem nodup (service : PhoneService Handler) : service.mEventHandlers.elements.Nodup :=
  .of_map _ service.distinct

variable [DecidableEq Handler]

/-- Of a caller that has the permission. -/
def unregisterEventHandler (handler : Handler) (service : PhoneService Handler) (n : ℕ) :
    Option (Walk (EventHandlerRecord Handler)) :=
  forEach (removing fun record => record.eventHandler = handler) service.mEventHandlers n

/-- All handlers are called; those whose call throws a `RemoteException` remove themselves. -/
def callHandlers (throws : EventHandlerRecord Handler → HandlerCall → Bool) (call : HandlerCall)
    (service : PhoneService Handler) (n : ℕ) : Option (Walk (EventHandlerRecord Handler)) :=
  forEach (removing fun record => throws record call) service.mEventHandlers n

def serviceCompleted (throws : EventHandlerRecord Handler → HandlerCall → Bool)
    (service : PhoneService Handler) (n : ℕ) : Option (Walk (EventHandlerRecord Handler)) :=
  callHandlers throws .handleServiceCompleted service n

def serviceDisplay (throws : EventHandlerRecord Handler → HandlerCall → Bool)
    (lines : List (Option String16)) (service : PhoneService Handler) (n : ℕ) :
    Option (Walk (EventHandlerRecord Handler)) :=
  callHandlers throws (.handleServiceDisplay lines) service n

/-- Every handler has been called once, those whose call throws have been removed and no others, and
nothing has been thrown. -/
structure CallsAll (throws : EventHandlerRecord Handler → Bool) (service : PhoneService Handler)
    (w : Walk (EventHandlerRecord Handler)) : Prop where
  called : w.visited.Perm service.mEventHandlers.elements
  removed : w.list.elements = service.mEventHandlers.elements.filter (!throws ·)
  returned : w.iterator.isSome

/-- The records of the handler have been removed and no others, and nothing has been thrown. -/
structure Unregisters (handler : Handler) (service : PhoneService Handler)
    (w : Walk (EventHandlerRecord Handler)) : Prop where
  removed : w.list.elements
    = service.mEventHandlers.elements.filter fun record => record.eventHandler ≠ handler
  returned : w.iterator.isSome

theorem callHandlers_iff (throws : EventHandlerRecord Handler → HandlerCall → Bool)
    (call : HandlerCall) (service : PhoneService Handler) :
    (∃ n w, callHandlers throws call service n = some w ∧ CallsAll (throws · call) service w)
      ↔ ∀ record ∈ service.mEventHandlers.elements, throws record call = false := by
  rw [← visits_iff service.nodup]
  constructor
  · rintro ⟨n, w, hw, h⟩
    exact ⟨w, ⟨n, hw⟩, h.called, h.removed, h.returned⟩
  · rintro ⟨w, ⟨n, hw⟩, hcalled, hremoved, hreturned⟩
    exact ⟨n, w, hw, hcalled, hremoved, hreturned⟩

theorem unregisterEventHandler_iff (handler : Handler) (service : PhoneService Handler) :
    (∃ n w, unregisterEventHandler handler service n = some w ∧ Unregisters handler service w)
      ↔ (∀ record ∈ service.mEventHandlers.elements, record.eventHandler ≠ handler)
        ∨ ∃ before record last, service.mEventHandlers.elements = before ++ [record, last]
          ∧ (∀ r ∈ before, r.eventHandler ≠ handler) ∧ record.eventHandler = handler
          ∧ last.eventHandler ≠ handler := by
  have h := removes_iff (p := fun record => record.eventHandler = handler) service.nodup
  simp only [decide_eq_false_iff_not, decide_eq_true_eq, ← decide_not] at h
  refine Iff.trans ?_ h
  constructor
  · rintro ⟨n, w, hw, hremoves⟩
    exact ⟨w, ⟨n, hw⟩, hremoves.removed, hremoves.returned⟩
  · rintro ⟨w, ⟨n, hw⟩, hremoved, hreturned⟩
    exact ⟨n, w, hw, hremoved, hreturned⟩

/-- The loops over the handlers do what they are for exactly where no call throws, and the handler to be
unregistered is not registered, or only with the last record but one. -/
theorem eventHandlers_iff (service : PhoneService Handler)
    (throws : EventHandlerRecord Handler → HandlerCall → Bool) (lines : List (Option String16))
    (handler : Handler) :
    ((∃ n w, serviceCompleted throws service n = some w
        ∧ CallsAll (throws · .handleServiceCompleted) service w)
      ↔ ∀ record ∈ service.mEventHandlers.elements, throws record .handleServiceCompleted = false)
    ∧ ((∃ n w, serviceDisplay throws lines service n = some w
        ∧ CallsAll (throws · (.handleServiceDisplay lines)) service w)
      ↔ ∀ record ∈ service.mEventHandlers.elements,
        throws record (.handleServiceDisplay lines) = false)
    ∧ ((∃ n w, unregisterEventHandler handler service n = some w ∧ Unregisters handler service w)
      ↔ (∀ record ∈ service.mEventHandlers.elements, record.eventHandler ≠ handler)
        ∨ ∃ before record last, service.mEventHandlers.elements = before ++ [record, last]
          ∧ (∀ r ∈ before, r.eventHandler ≠ handler) ∧ record.eventHandler = handler
          ∧ last.eventHandler ≠ handler) :=
  ⟨callHandlers_iff throws _ service, callHandlers_iff throws _ service,
    unregisterEventHandler_iff handler service⟩

/-- Of two handlers the first is dead: it removes itself, and the second is not called. -/
theorem serviceCompleted_skips :
    ¬ ∀ (service : PhoneService ℕ) (throws : EventHandlerRecord ℕ → HandlerCall → Bool),
      ∃ n w, serviceCompleted throws service n = some w
        ∧ CallsAll (throws · .handleServiceCompleted) service w := by
  intro h
  let service : PhoneService ℕ := ⟨⟨[⟨0, 10⟩, ⟨1, 11⟩], 2⟩, by decide⟩
  obtain ⟨n, w, hw, hcalls⟩ := h service fun record _ => record.eventHandler = 10
  have hskips : Walks (removing fun record => decide (record.eventHandler = 10))
      service.mEventHandlers ⟨⟨[⟨1, 11⟩], 3⟩, some ⟨1, 2⟩, [⟨0, 10⟩]⟩ := ⟨1, rfl⟩
  obtain rfl := Walks.unique ⟨n, hw⟩ hskips
  exact absurd hcalls.called.length_eq (by decide)

end PhoneService
end FreeRil
