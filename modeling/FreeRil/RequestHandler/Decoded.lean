import FreeRil.RequestHandler.CallIndex
import FreeRil.RequestHandler.Network
import FreeRil.RequestHandler.Oem

/-! What the handlers read of messages that have been read from the wire, and when they stay inside
of the vectors. -/
namespace FreeRil
open Messages RIL Program

/-- A payload of which no byte is missing has been read to its end as this message. -/
def MessageDefinition.Decoded (m : MessageDefinition) (value : Struct m.fields) : Prop :=
  ∃ payload s, m.readWhole (.init payload .Read) = some (value, s) ∧ s.atEnd = true

/-- Every message whose vectors have the prescribed sizes is read from some payload, and no
other. -/
theorem MessageDefinition.decoded_iff {m : MessageDefinition} {value : Struct m.fields} :
    m.Decoded value ↔ m.Sized value := by
  constructor
  · rintro ⟨payload, s, hread, hend⟩
    exact (m.wire_of_read hread hend).2
  · intro hsize
    obtain ⟨s, hread, hend⟩ := m.read_wire hsize
    exact ⟨m.wire value, s, hread, hend⟩

namespace RequestHandler

def PlmnListItem.plmn : PlmnListItem → Bytes
  | (_, plmn, _, ()) => plmn

theorem plmnList_sized {count : UInt8} {plmnList : List PlmnListItem}
    (h : NetGetPlmnListReply.Sized (count, plmnList, ())) :
    count.toNat = plmnList.length ∧ ∀ item ∈ plmnList, (PlmnListItem.plmn item).length = 6 := by
  obtain ⟨-, ⟨hcount, hitems⟩, -⟩ := h
  refine ⟨Option.some.inj hcount, fun item hitem => ?_⟩
  obtain ⟨after, -, hplmn, -⟩ := hitems.of_mem hitem
  exact (Option.some.inj hplmn).symm

theorem lines_sized {lineCount : UInt8} {lines : List LinesItem}
    (h : SvcDisplayScreen.Sized (lineCount, lines, ())) : lineCount.toNat = lines.length := by
  obtain ⟨-, ⟨hcount, -⟩, -⟩ := h
  exact Option.some.inj hcount

/-! Accesses that stay inside of what they read. -/

theorem pure_bind_eq {α β : Type} (a : α) (f : α → Ril β) : (pure a >>= f : Ril β) = f a := rfl

theorem readVector_eq {data : Bytes} {size : ℕ} (h : size ≤ data.length) :
    readVector data size = pure (data.take size) := if_neg (not_lt.mpr h)

theorem readItem_eq {α : Type} {items : List α} {i : ℕ} {item : α} (h : items[i]? = some item) :
    readItem items i = pure item := by
  unfold readItem
  rw [h]

/-- The code without its padding. -/
def cleanMCCMNC (digits : Bytes) : Bytes :=
  if digits.contains 35 then (digits.reverse.dropWhile (· ≠ 35)).tail.reverse else digits

theorem getCleanMCCMNC_eq {data : Bytes} (h : data.length = 6) :
    getCleanMCCMNC data = pure (cleanMCCMNC data) := by
  unfold getCleanMCCMNC
  rw [readVector_eq h.ge, List.take_of_length_le h.le]
  rfl

/-- The message that is waited for is answered with `reply`, and nothing is read outside of a
vector. -/
def replying (reply : Message) : Monitor Call.Ret Unit where
  record _ _ := ()
  answers _ e :=
    match e with
    | ⟨.execute _ _, (_, reply')⟩ => reply' = reply
    | _ => True
  allowed _ c := c ≠ .fault .range

section
variable {reply : Message} {handler : RequestHandler}

/-- Nothing is read outside of a vector, and the result is like `Q`. -/
abbrev Within {α : Type} (reply : Message) (p : Ril α) (Q : α → Prop) (handler : RequestHandler) :
    Prop :=
  (replying reply).SafeWith (fun a _ _ => Q a) p handler ()

theorem within_bind {α β : Type} {p : Ril α} {f : α → Ril β} {Q : α → Prop} {Q' : β → Prop}
    (hp : Within reply p Q handler) (hf : ∀ a, Q a → ∀ handler', Within reply (f a) Q' handler') :
    Within reply (p >>= f) Q' handler :=
  Monitor.safeWith_bind.mpr (hp.mono fun a handler' _ ha => hf a ha handler')

theorem within_call {c : Call} (h : c ≠ .fault .range) :
    Within reply (call c) (fun _ => True) handler :=
  ⟨h, fun _ _ => trivial⟩

theorem within_complete (request : Request) (e : RIL_Errno) (response : Response) :
    Within reply (complete request e response) (fun _ => True) handler := within_call nofun

theorem within_modify (f : RequestHandler → RequestHandler) :
    Within reply (modify f) (fun _ => True) handler := trivial

/-- The handlers that wait for a message go on with the reply. -/
theorem within_execute {α : Type} {message : Message} {f : Message → Ril α} {Q : α → Prop} :
    Within reply (execute message >>= f) Q handler ↔
      ∀ handler', Within reply (f reply) Q handler' := by
  constructor
  · exact fun h handler' => h.2 (handler', reply) rfl
  · intro hf
    refine ⟨nofun, ?_⟩
    rintro ⟨handler', reply'⟩ rfl
    exact hf handler'

/-- What is done at the end does not matter, where it is safe. -/
theorem within_bind_iff {α β : Type} {p : Ril α} {f : α → Ril β}
    (hf : ∀ a handler', Within reply (f a) (fun _ => True) handler') :
    Within reply (p >>= f) (fun _ => True) handler ↔ Within reply p (fun _ => True) handler :=
  ⟨fun h => (Monitor.safeWith_bind.mp h).mono fun _ _ _ _ => trivial, fun h =>
    within_bind h fun a _ => hf a⟩

/-- The loop over a list stays inside of the numbers of its items exactly if they are as long as
declared. -/
theorem within_loadCalls_iff {callList before rest : List CallListItem}
    (hlist : callList = before ++ rest) :
    Within reply (loadCalls callList rest.length before.length) (fun _ => True) handler ↔
      ∀ item ∈ rest, item.NumberFits := by
  induction rest generalizing before handler with
  | nil => exact iff_of_true trivial nofun
  | cons item rest ih =>
    have hitem : readItem callList before.length = pure item :=
      readItem_eq (by rw [hlist, List.getElem?_append_right le_rfl, Nat.sub_self]; rfl)
    rw [List.length_cons, loadCalls, hitem, pure_bind_eq, List.forall_mem_cons]
    by_cases hfits : item.NumberFits
    · obtain ⟨call, hcall, -⟩ := buildCall_eq hfits handler
      have hrest := @ih { handler with m_callIds := handler.m_callIds ++ [.ofInt call.index] }
        (before ++ [item]) (by simp [hlist])
      rw [List.length_append, List.length_singleton] at hrest
      rw [and_iff_right hfits, ← hrest, Within, Monitor.safeWith_bind, Monitor.SafeWith, hcall]
      exact @within_bind_iff reply _ _ _ (loadCalls callList rest.length (before.length + 1))
        (fun calls => pure (call :: calls)) fun _ _ => trivial
    · apply iff_of_false _ fun h => hfits h.1
      obtain ⟨callType, callId, direction, callState, isMultiParty, numberLength, reserved,
        number, ⟨⟩⟩ := item
      have hread : readVector number (UInt8.toNat numberLength) = fault .range :=
        if_pos (not_le.mp hfits)
      unfold buildCall
      dsimp only
      rw [hread]
      exact fun h => h.1 rfl

theorem within_operatorNames (mccmnc : Bytes) :
    Within reply (operatorNames mccmnc) (fun names => names.length = 3) handler := by
  refine within_bind (within_call ?_) fun names _ handler' => ?_
  · exact nofun
  · cases names with
    | some names => exact rfl
    | none => exact rfl

/-- Four strings for each item. -/
theorem within_listNetworks {plmnList : List PlmnListItem} {first : PlmnListItem}
    (hfirst : plmnList[0]? = some first) (hplmn : 6 ≤ first.plmn.length) (count : ℕ) :
    Within reply (listNetworks plmnList count)
    (fun response => response.length = 4 * count) handler := by
  induction count generalizing handler with
  | zero => exact rfl
  | succ count ih =>
    obtain ⟨status, plmn, unknown, ⟨⟩⟩ := first
    rw [listNetworks, readItem_eq hfirst, pure_bind_eq]
    dsimp only
    have hread : readVector plmn 6 = pure (plmn.take 6) := readVector_eq hplmn
    rw [getCleanMCCMNC, hread, pure_bind_eq, pure_bind_eq]
    apply within_bind (within_operatorNames _)
    intro names hnames handler'
    apply within_bind ih
    intro networks hnetworks handler''
    change (names ++ plmnStatus status :: networks).length = 4 * (count + 1)
    rw [List.length_append, List.length_cons, hnames, hnetworks]
    omega

/-- A first code that is too short is read outside of. -/
theorem not_within_listNetworks {plmnList : List PlmnListItem} {first : PlmnListItem}
    (hfirst : plmnList[0]? = some first) (hplmn : ¬ 6 ≤ first.plmn.length) (count : ℕ) {α : Type}
    {f : List Bytes → Ril α} {Q : α → Prop} :
    ¬ Within reply (listNetworks plmnList (count + 1) >>= f) Q handler := by
  obtain ⟨status, plmn, unknown, ⟨⟩⟩ := first
  have hread : readVector plmn 6 = fault .range := if_pos (not_le.mp hplmn)
  rw [listNetworks, readItem_eq hfirst, pure_bind_eq]
  dsimp only
  rw [getCleanMCCMNC, hread]
  exact fun h => h.1 rfl

/-- The strings are there that are released. -/
theorem freeNames_eq {response : List Bytes} {count i : ℕ} (h : 4 * (i + count) ≤ response.length) :
    freeNames response count i = pure () := by
  induction count generalizing i with
  | zero => rfl
  | succ count ih =>
    have hitem : ∀ k < 3, ∃ name, response[i * 4 + k]? = some name := fun k hk =>
      ⟨_, List.getElem?_eq_getElem (by omega)⟩
    obtain ⟨longName, hlong⟩ := hitem 0 (by omega)
    obtain ⟨shortName, hshort⟩ := hitem 1 (by omega)
    obtain ⟨mccmnc, hmccmnc⟩ := hitem 2 (by omega)
    rw [freeNames, readItem_eq hlong, pure_bind_eq, readItem_eq hshort, pure_bind_eq,
      readItem_eq hmccmnc, pure_bind_eq]
    exact ih (by omega)

theorem within_unmarked {lines : List LinesItem} {lineCount : ℕ} (h : lineCount = lines.length) :
    Within reply (unmarked lines lineCount) (fun _ => True) handler := by
  unfold unmarked
  split
  next hone =>
    have hfirst : 0 < lines.length := by omega
    rw [readItem_eq (List.getElem?_eq_getElem hfirst)]
    exact trivial
  next => exact trivial

theorem within_loadLines {lines : List LinesItem} {count i : ℕ} (h : i + count = lines.length) :
    Within reply (loadLines lines count i) (fun _ => True) handler := by
  induction count generalizing i handler with
  | zero => exact trivial
  | succ count ih =>
    have hi : i < lines.length := by omega
    rw [loadLines, readItem_eq (List.getElem?_eq_getElem hi), pure_bind_eq]
    exact within_bind (ih (by omega)) fun _ _ _ => trivial

theorem within_displayLines (L : ParcelLibrary) {lines : List LinesItem} {lineCount : ℕ}
    (h : lineCount = lines.length) :
    Within reply (displayLines L lineCount lines) (fun _ => True) handler := by
  unfold displayLines
  split
  · exact within_call nofun
  apply within_bind (within_unmarked h)
  intro shown _ handler'
  split
  · exact within_bind (within_loadLines (by omega)) fun _ _ _ => within_call nofun
  · exact trivial

end

/-! The handlers, for a message of theirs. -/
section
variable (L : ParcelLibrary) (request : Request) (handler : RequestHandler)

theorem within_handleCurrentCalls_iff {value : Struct CallGetCallListReply.fields}
    (hcount : UInt8.toNat value.1 = (callList value).length) :
    Within ⟨CMD_CALL, CallGetCallListReply, value⟩ (handleCurrentCalls request)
    (fun _ => True) handler ↔
      ∀ item ∈ callList value, item.NumberFits := by
  have hcalls : ∀ (reply : Message) (handler' : RequestHandler), Within reply
      (loadCalls (callList value) (UInt8.toNat value.1) 0 >>= fun calls =>
        complete request .SUCCESS (.calls calls))
      (fun _ => True) handler' ↔ ∀ item ∈ callList value, item.NumberFits := by
    intro reply handler'
    rw [within_bind_iff fun _ _ => within_complete request _ _, hcount]
    exact within_loadCalls_iff (List.nil_append _).symm
  unfold handleCurrentCalls
  rw [within_execute]
  constructor
  · intro h
    have hbegun := h handler
    rw [message_cast_self, pure_bind_eq] at hbegun
    exact (hcalls _ _).mp hbegun
  · intro h handler'
    rw [message_cast_self, pure_bind_eq]
    exact (hcalls _ { handler' with m_callIds := [] }).mpr h

/-- The networks of a list. -/
def plmnList : Struct NetGetPlmnListReply.fields → List PlmnListItem
  | (_, plmnList, ()) => plmnList

theorem within_handleQueryAvailableNetworksComplete_iff {value : Struct NetGetPlmnListReply.fields}
    (hcount : UInt8.toNat value.1 = (plmnList value).length) :
    Within ⟨CMD_NET, NetGetPlmnListReply, value⟩
        (handleQueryAvailableNetworksComplete ⟨CMD_NET, NetGetPlmnListReply, value⟩ request)
        (fun _ => True) handler ↔
      ∀ first, (plmnList value)[0]? = some first → 6 ≤ first.plmn.length := by
  have hend : ∀ (reply : Message) (response : List Bytes), 4 * (plmnList value).length ≤
    response.length →
      ∀ handler', Within reply (complete request .SUCCESS (.strings response) >>= fun _ =>
        freeNames response (UInt8.toNat value.1) 0) (fun _ => True) handler' := by
    intro reply response hresponse handler'
    apply within_bind (within_complete request _ _)
    intro _ _ handler''
    rw [freeNames_eq (by omega)]
    exact trivial
  unfold handleQueryAvailableNetworksComplete
  rw [message_cast_self, pure_bind_eq]
  obtain ⟨count, networks, ⟨⟩⟩ := value
  cases networks with
  | nil => exact iff_of_true (hend _ [] le_rfl handler) nofun
  | cons first rest =>
    have hfirst : (first :: rest)[0]? = some first := rfl
    constructor
    · rintro h _ ⟨⟩
      by_contra hplmn
      exact not_within_listNetworks hfirst hplmn _ h
    · intro h
      apply within_bind (within_listNetworks hfirst (h first rfl) _)
      exact fun response hresponse => hend _ response hresponse.ge

theorem within_get {reply : Message} {handler : RequestHandler} :
    Within reply get (fun h => h = handler) handler := rfl

section
variable {key : CacheKey} {group : MessageGroup} {definition : MessageDefinition}
  {value : Struct definition.fields} {P : Struct definition.fields → Prop}

theorem within_cached {reply : Message}
    (hcached : ∀ m, handler.m_cache key = some m → ∃ v, P v ∧ m = ⟨group, definition, v⟩) :
    Within reply (cached key group definition) (fun v => ∀ w, v = some w → P w) handler := by
  apply within_bind within_get
  rintro _ rfl handler'
  split
  next m hm =>
    obtain ⟨v, hv, rfl⟩ := hcached m hm
    rw [message_cast_self]
    rintro w ⟨⟩
    exact hv
  next => exact nofun

/-- The message that is used is the one that is cached for the key, or the reply. -/
theorem within_fromCache {message : Message} {k : Struct definition.fields → Ril Unit}
    (hvalue : P value)
    (hcached : ∀ m, handler.m_cache key = some m → ∃ v, P v ∧ m = ⟨group, definition, v⟩)
    (hk : ∀ v handler', P v → Within ⟨group, definition, value⟩ (k v) (fun _ => True) handler') :
    Within ⟨group, definition, value⟩ (fromCache key group definition message request k)
      (fun _ => True) handler := by
  apply within_bind (within_cached handler hcached)
  intro v hv handler'
  split
  next v => exact hk v handler' (hv v rfl)
  next =>
    apply within_execute.mpr
    intro handler''
    rw [message_cast_self, pure_bind_eq]
    exact within_bind (within_modify _) fun _ _ last => hk value last hvalue

end

/-- The code in the answer. -/
def currentPlmn : Struct NetGetCurrentPlmnReply.fields → Bytes
  | (_, _, plmn, _, ()) => plmn

theorem within_handleOperator {value : Struct NetGetCurrentPlmnReply.fields}
    (h : (currentPlmn value).length = 6)
    (hcached : ∀ m, handler.m_cache .currentPlmn = some m →
      ∃ v, (currentPlmn v).length = 6 ∧ m = ⟨CMD_NET, NetGetCurrentPlmnReply, v⟩) :
    Within ⟨CMD_NET, NetGetCurrentPlmnReply, value⟩ (handleOperator request)
    (fun _ => True) handler := by
  apply within_fromCache request handler h hcached
  rintro ⟨unknown1, unknown2, plmn, unknown3, ⟨⟩⟩ handler' hlength
  have hclean : getCleanMCCMNC plmn = pure (cleanMCCMNC plmn) := getCleanMCCMNC_eq hlength
  dsimp only
  rw [hclean, pure_bind_eq]
  exact within_bind (within_operatorNames _) fun _ _ _ => within_complete request _ _

theorem within_handleSvcDisplayScreen {lineCount : UInt8} {lines : List LinesItem}
    (hcount : lineCount.toNat = lines.length) :
    Within ⟨CMD_SVC, SvcDisplayScreen, (lineCount, lines, ())⟩
      (handleSvcDisplayScreen L (lineCount, lines, ())) (fun _ => True) handler :=
  within_displayLines L hcount

end
end RequestHandler
end FreeRil
