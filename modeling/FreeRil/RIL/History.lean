import FreeRil.Library.Monitor
import FreeRil.RIL

/-! What leaves the interface layer: the messages that it sends and the requests that it completes. -/
namespace FreeRil
namespace RIL
open Program

inductive Outward
  | sent (message : Message) (completion : Option Completion)
  | completed (request : Request) (e : RIL_Errno) (response : Response)

/-- Where a call leaves the layer. -/
def Call.outward : Call → Option Outward
  | .execute message _ => some (.sent message none)
  | .submit message completion => some (.sent message completion)
  | .complete request e response => some (.completed request e response)
  | _ => none

/-- All that leaves it in a history. -/
def outward (t : List (Event Call.Ret)) : List Outward := t.filterMap fun e => e.op.outward

/-- It is only recorded. -/
def history : Monitor Call.Ret (List Outward) where
  record s e := s ++ e.op.outward.toList
  answers _ _ := True
  allowed _ _ := True

theorem history_after (s : List Outward) (t : List (Event Call.Ret)) :
    history.after s t = s ++ outward t := by
  induction t generalizing s with
  | nil => simp [outward]
  | cons e t ih =>
    rw [Monitor.after_cons, ih, history, List.append_assoc, outward, outward, List.filterMap_cons]
    cases h : e.op.outward <;> simp

/-- What a program is shown to end with, it ends with. -/
theorem outward_of_safe {α : Type} {p : Ril α} {h h' : RequestHandler} {a : α}
    {Q : α → RequestHandler → List Outward → Prop} {t : List (Event Call.Ret)}
    (hsafe : history.SafeWith Q p h []) (ht : Trace (p h) t (.done (a, h'))) : Q a h' (outward t) := by
  have hall : history.Obeyed [] t := fun _ _ _ _ => trivial
  have hdone := (Monitor.Safe.trace hsafe ht hall).2
  rwa [history_after, List.nil_append] at hdone

/-- Code that sends and completes nothing and leaves the state as it is, with a result like `R`. -/
structure Inward {α : Type} (p : Ril α) (R : α → Prop) : Prop where
  all : ∀ h, (p h).All fun c => c.outward = none
  returns : ∀ h a h', (p h).Returns (a, h') → h' = h ∧ R a

section
variable {α β : Type} {p : Ril α} {R : α → Prop}

theorem inward_pure {a : α} (ha : R a) : Inward (pure a) R where
  all _ := trivial
  returns h a' h' hreturns := by
    obtain ⟨rfl, rfl⟩ := Prod.mk.inj hreturns
    exact ⟨rfl, ha⟩

theorem Inward.bind {f : α → Ril β} {R' : β → Prop} (hp : Inward p R)
    (hf : ∀ a, R a → Inward (f a) R') : Inward (p >>= f) R' where
  all h := by
    apply Program.all_bind.mpr ⟨hp.all h, ?_⟩
    rintro ⟨a, h'⟩ hreturns
    exact (hf a (hp.returns h a h' hreturns).2).all h'
  returns h b h' hreturns := by
    obtain ⟨⟨a, h''⟩, ha, hb⟩ := Program.returns_bind.mp hreturns
    obtain ⟨rfl, hR⟩ := hp.returns h a h'' ha
    exact (hf a hR).returns _ b h' hb

theorem inward_call {c : Call} (hc : c.outward = none) : Inward (call c) fun _ => True where
  all _ := ⟨hc, fun _ => trivial⟩
  returns h a h' hreturns := by
    obtain ⟨r, hr⟩ := hreturns
    obtain ⟨rfl, rfl⟩ := Prod.mk.inj hr
    exact ⟨rfl, trivial⟩

theorem inward_fault {f : RIL.Fault} : Inward (fault f : Ril α) R where
  all _ := ⟨rfl, fun r => r.elim⟩
  returns _ _ _ hreturns := hreturns.choose.elim

theorem inward_message_cast {group : MessageGroup} {definition : MessageDefinition}
    {message : Message} : Inward (message_cast group definition message) fun _ => True := by
  unfold message_cast
  split_ifs
  · split
    · exact inward_pure trivial
    · exact inward_fault
  · exact inward_pure trivial

/-- An integer that is there is the one that is read. -/
theorem inward_intAt (data : Payload) (i : ℕ) : Inward (intAt data i) fun n =>
    ∀ values m, data = .ints values → values[i]? = some m → n = m := by
  unfold intAt
  split
  · rename_i values
    cases hvalue : values[i]? with
    | some n =>
      refine inward_pure fun values' m hvalues hm => ?_
      obtain rfl := Payload.ints.inj hvalues
      exact Option.some.inj (hvalue.symm.trans hm)
    | none =>
      refine (inward_call rfl).bind fun bytes _ => inward_pure fun values' m hvalues hm => ?_
      obtain rfl := Payload.ints.inj hvalues
      rw [hvalue] at hm
      contradiction
  · exact inward_fault
  · exact inward_fault

theorem inward_cstring (data : Payload) : Inward (cstring data) fun s => data = .string s := by
  unfold cstring
  split
  · exact inward_pure rfl
  · exact inward_fault
  · exact inward_fault

theorem inward_stringAt (data : Payload) (i : ℕ) : Inward (stringAt data i) fun _ => True := by
  unfold stringAt
  split
  · split
    · exact inward_pure trivial
    · exact inward_fault
  · exact inward_fault
  · exact inward_fault

theorem inward_readVector (data : Bytes) (size : ℕ) :
    Inward (readVector data size) fun bytes => bytes = data.take size := by
  unfold readVector
  split_ifs
  · exact inward_fault
  · exact inward_pure rfl

theorem inward_readItem (items : List α) (i : ℕ) :
    Inward (readItem items i) fun item => items[i]? = some item := by
  unfold readItem
  cases h : items[i]? with
  | some item => exact inward_pure rfl
  | none => exact inward_fault

end
section
variable {α : Type} {h : RequestHandler} {s : List Outward}

/-- It does not matter to the history. -/
theorem Inward.safe {p : Ril α} {R : α → Prop} (hp : Inward p R)
    {Q : α → RequestHandler → List Outward → Prop} (hQ : ∀ a, R a → Q a h s) :
    history.SafeWith Q p h s := by
  refine Monitor.safe_of_all (hp.all h) (fun _ _ _ => trivial) ?_ ?_
  · intro c hc s r
    change s ++ c.outward.toList = s
    rw [hc, Option.toList_none, List.append_nil]
  · rintro ⟨a, h'⟩ hreturns
    obtain ⟨rfl, hR⟩ := hp.returns h a h' hreturns
    exact hQ a hR

theorem safe_execute {message : Message} {Q : Message → RequestHandler → List Outward → Prop}
    (hQ : ∀ reply h', Q reply h' (s ++ [.sent message none])) :
    history.SafeWith Q (execute message) h s := ⟨trivial, fun r _ => hQ r.2 r.1⟩

end
end RIL
end FreeRil
