import FreeRil.RequestHandler.Decoded

/-! The list of networks that a request is completed with. -/
namespace FreeRil
open Messages RIL Program

namespace RequestHandler

def PlmnListItem.status : PlmnListItem → UInt8
  | (status, _, _, ()) => status

/-- The code of a network, as a string. -/
def PlmnListItem.mccmnc (item : PlmnListItem) : Bytes := cstr (cleanMCCMNC (PlmnListItem.plmn item))

/-- The long name, the short name, the code and the status of a network; the code stands for names
that are not found. -/
def networkEntries (db : Bytes → Option (Bytes × Bytes)) (item : PlmnListItem) : List Bytes :=
  match db (PlmnListItem.mccmnc item) with
  | some (longName, shortName) => [cstr longName, cstr shortName, PlmnListItem.mccmnc item,
    plmnStatus (PlmnListItem.status item)]
  | none => [PlmnListItem.mccmnc item, PlmnListItem.mccmnc item, PlmnListItem.mccmnc item,
    plmnStatus (PlmnListItem.status item)]

/-- Operators are looked up in `db`; what leaves the layer is recorded. -/
def looking (db : Bytes → Option (Bytes × Bytes)) : Monitor Call.Ret (List Outward) where
  record s e := s ++ e.op.outward.toList
  answers _ e :=
    match e with
    | ⟨.lookupOperator mccmnc, names⟩ => names = db mccmnc
    | _ => True
  allowed _ c :=
    match c with
    | .lookupOperator _ | .complete .. => True
    | _ => False

/-- The request is completed with four strings for each network of the list, those of the network in
its place. -/
def ListsNetworks (db : Bytes → Option (Bytes × Bytes)) (count : UInt8)
    (plmnList : List PlmnListItem) (request : Request) (handler : RequestHandler) : Prop :=
  (looking db).SafeWith (fun _ _ sent => ∃ response,
      sent = [.completed request .SUCCESS (.strings response)] ∧
      response.length = 4 * plmnList.length ∧
      ∀ i item, plmnList[i]? = some item → (response.drop (4 * i)).take 4 = networkEntries db item)
    (handleQueryAvailableNetworksComplete ⟨CMD_NET, NetGetPlmnListReply, (count, plmnList, ())⟩
      request)
    handler []

/-- The same code and the same status. -/
def SameNetwork (item first : PlmnListItem) : Prop :=
  PlmnListItem.mccmnc item = PlmnListItem.mccmnc first ∧
    plmnStatus (PlmnListItem.status item) = plmnStatus (PlmnListItem.status first)

section
variable {db : Bytes → Option (Bytes × Bytes)} {request : Request} {handler : RequestHandler}
  {sent : List Outward}

theorem networkEntries_length (item : PlmnListItem) : (networkEntries db item).length = 4 := by
  unfold networkEntries
  split
  · rfl
  · rfl

theorem networkEntries_eq_iff (item first : PlmnListItem) :
    networkEntries db item = networkEntries db first ↔ SameNetwork item first := by
  constructor
  · intro h
    have hcode : (networkEntries db item)[2]? = (networkEntries db first)[2]? := by rw [h]
    have hstatus : (networkEntries db item)[3]? = (networkEntries db first)[3]? := by rw [h]
    have hentries : ∀ item, (networkEntries db item)[2]? = some (PlmnListItem.mccmnc item) ∧
        (networkEntries db item)[3]? = some (plmnStatus (PlmnListItem.status item)) := by
      intro item
      unfold networkEntries
      split
      · exact ⟨rfl, rfl⟩
      · exact ⟨rfl, rfl⟩
    rw [(hentries item).1, (hentries first).1] at hcode
    rw [(hentries item).2, (hentries first).2] at hstatus
    exact ⟨Option.some.inj hcode, Option.some.inj hstatus⟩
  · rintro ⟨hcode, hstatus⟩
    unfold networkEntries
    rw [hcode, hstatus]

/-- The entries of one network over and over. -/
theorem drop_flatten_replicate {entries : List Bytes} (h : entries.length = 4) {n i : ℕ}
    (hi : i < n) :
    ((List.replicate n entries).flatten.drop (4 * i)).take 4 = entries := by
  induction i generalizing n with
  | zero =>
    obtain ⟨n, rfl⟩ := Nat.exists_eq_succ_of_ne_zero (show n ≠ 0 by omega)
    rw [List.replicate_succ, List.flatten_cons, Nat.mul_zero, List.drop_zero, List.take_left' h]
  | succ i ih =>
    obtain ⟨n, rfl⟩ := Nat.exists_eq_succ_of_ne_zero (show n ≠ 0 by omega)
    have hdrop : 4 * (i + 1) = entries.length + 4 * i := by omega
    rw [List.replicate_succ, List.flatten_cons, hdrop, List.drop_length_add_append]
    exact ih (by omega)

theorem looking_answer (sent : List Outward) (c : Call) (h : (looking db).allowed sent c) :
    ∃ r, (looking db).answers sent ⟨c, r⟩ := by
  cases c with
  | lookupOperator mccmnc => exact ⟨db mccmnc, rfl⟩
  | complete request e response => exact ⟨(), trivial⟩
  | _ => exact h.elim

theorem safe_message_cast_self {σ : Type} {M : Monitor Call.Ret σ} {group : MessageGroup}
    {definition : MessageDefinition} {value : Struct definition.fields}
    {Q : Option (Struct definition.fields) → RequestHandler → σ → Prop} {s : σ}
    (h : Q (some value) handler s) :
    M.SafeWith Q (message_cast group definition ⟨group, definition, value⟩) handler s := by
  rwa [message_cast_self]

theorem safe_complete {e : RIL_Errno} {response : Response}
    {Q : Unit → RequestHandler → List Outward → Prop}
    (h : Q () handler (sent ++ [.completed request e response])) :
    (looking db).SafeWith Q (complete request e response) handler sent := ⟨trivial, fun _ _ => h⟩

theorem safe_operatorNames (item : PlmnListItem) : (looking db).SafeWith
    (fun names _ sent' => names ++ [plmnStatus (PlmnListItem.status item)] =
      networkEntries db item ∧
      sent' = sent)
    (operatorNames (cleanMCCMNC (PlmnListItem.plmn item))) handler sent := by
  refine ⟨trivial, ?_⟩
  intro names hnames
  change names = db (PlmnListItem.mccmnc item) at hnames
  have hentries : ∀ pair, names = pair →
    networkEntries db item = networkEntries (fun _ => pair) item := by
    rintro pair rfl
    unfold networkEntries
    rw [← hnames]
  cases names with
  | some names => exact ⟨(hentries _ rfl).symm, List.append_nil sent⟩
  | none => exact ⟨(hentries _ rfl).symm, List.append_nil sent⟩

/-- Each item is the first one. -/
theorem safe_listNetworks {first : PlmnListItem} {rest : List PlmnListItem}
    (hfirst : (PlmnListItem.plmn first).length = 6) (count : ℕ) : (looking db).SafeWith
      (fun response _ sent' => response = (List.replicate count (networkEntries db first)).flatten ∧
        sent' = sent)
      (listNetworks (first :: rest) count) handler sent := by
  induction count generalizing handler with
  | zero => exact ⟨rfl, rfl⟩
  | succ count ih =>
    rw [listNetworks, readItem_eq (List.getElem?_cons_zero ..), pure_bind_eq]
    obtain ⟨status, plmn, unknown, ⟨⟩⟩ := first
    change plmn.length = 6 at hfirst
    dsimp only
    rw [getCleanMCCMNC_eq hfirst, pure_bind_eq]
    apply Monitor.safeWith_bind.mpr
    apply (safe_operatorNames (status, plmn, unknown, ())).mono
    rintro names handler' sent' ⟨hnames, rfl⟩
    apply Monitor.safeWith_bind.mpr
    apply ih.mono
    rintro networks handler'' sent' ⟨rfl, rfl⟩
    refine ⟨?_, rfl⟩
    rw [List.replicate_succ, List.flatten_cons, ← hnames, List.append_assoc]
    rfl

/-- All entries are those of the first network. -/
def firstEntries (db : Bytes → Option (Bytes × Bytes)) (plmnList : List PlmnListItem) :
    List Bytes :=
  (List.replicate plmnList.length ((plmnList.head?.map (networkEntries db)).getD [])).flatten

theorem firstEntries_length (plmnList : List PlmnListItem) :
    (firstEntries db plmnList).length = 4 * plmnList.length := by
  cases plmnList with
  | nil => rfl
  | cons first rest =>
    have hfirst : (networkEntries db first).length = 4 := networkEntries_length first
    simp [firstEntries, hfirst, Nat.mul_comm]

theorem safe_handleQueryAvailableNetworksComplete {count : UInt8} {plmnList : List PlmnListItem}
    (h : NetGetPlmnListReply.Sized (count, plmnList, ())) : (looking db).SafeWith
      (fun _ _ sent => sent = [.completed request .SUCCESS (.strings (firstEntries db plmnList))])
      (handleQueryAvailableNetworksComplete ⟨CMD_NET, NetGetPlmnListReply, (count, plmnList, ())⟩
        request)
      handler [] := by
  obtain ⟨hcount, hplmn⟩ := plmnList_sized h
  have hlist : (looking db).SafeWith
    (fun response _ sent => response = firstEntries db plmnList ∧ sent = [])
      (listNetworks plmnList plmnList.length) handler [] := by
    cases plmnList with
    | nil => exact ⟨rfl, rfl⟩
    | cons first rest => exact safe_listNetworks (hplmn first (.head _)) _
  apply Monitor.safeWith_bind.mpr
  apply safe_message_cast_self
  apply Monitor.safeWith_bind.mpr
  apply hlist.mono
  rintro response handler' sent ⟨rfl, rfl⟩
  have hlength : (firstEntries db plmnList).length = 4 * plmnList.length :=
    firstEntries_length plmnList
  have hfree : freeNames (firstEntries db plmnList) count.toNat 0 = pure () :=
    freeNames_eq (by omega)
  apply Monitor.safeWith_bind.mpr
  apply safe_complete
  rw [hfree]
  rfl

theorem firstEntries_place {plmnList : List PlmnListItem} {i : ℕ} {item first : PlmnListItem}
    (hitem : plmnList[i]? = some item) (hfirst : plmnList.head? = some first) :
    ((firstEntries db plmnList).drop (4 * i)).take 4 = networkEntries db first := by
  obtain ⟨hi, -⟩ := List.getElem?_eq_some_iff.mp hitem
  unfold firstEntries
  rw [hfirst]
  exact drop_flatten_replicate (networkEntries_length first) hi

/-- A list that is the one that is asked for only has the first network. -/
theorem sameNetwork_of_lists {count : UInt8} {plmnList : List PlmnListItem}
    (h : NetGetPlmnListReply.Sized (count, plmnList, ()))
    (hlists : ListsNetworks db count plmnList request handler) :
    ∀ item ∈ plmnList, ∀ first ∈ plmnList.head?, SameNetwork item first := by
  intro item hitem first hfirst
  obtain ⟨r, sent, hsent, response, hresponse, -, hplaces⟩ := (Monitor.Safe.and
    (safe_handleQueryAvailableNetworksComplete h) hlists).exists_end looking_answer
  rw [hsent, List.cons.injEq, Outward.completed.injEq, Response.strings.injEq] at hresponse
  obtain ⟨⟨-, -, rfl⟩, -⟩ := hresponse
  obtain ⟨i, hi⟩ := List.mem_iff_getElem?.mp hitem
  apply (@networkEntries_eq_iff db item first).mp
  rw [← hplaces i item hi, firstEntries_place hi hfirst]

/-- The list is the one that is asked for exactly when all of its networks are the first one. -/
theorem listsNetworks_iff {count : UInt8} {plmnList : List PlmnListItem}
    (h : NetGetPlmnListReply.Decoded (count, plmnList, ())) :
    ListsNetworks db count plmnList request handler ↔
      ∀ item ∈ plmnList, ∀ first ∈ plmnList.head?, SameNetwork item first := by
  have hsized := MessageDefinition.decoded_iff.mp h
  constructor
  · exact sameNetwork_of_lists hsized
  · intro hsame
    apply (safe_handleQueryAvailableNetworksComplete hsized).mono
    intro _ _ sent hsent
    refine ⟨_, hsent, firstEntries_length plmnList, fun i item hi => ?_⟩
    have hitem := List.mem_of_getElem? hi
    obtain ⟨first, hfirst⟩ : ∃ first, plmnList.head? = some first :=
      ⟨_, List.head?_eq_some_head (List.ne_nil_of_mem hitem)⟩
    rw [firstEntries_place hi hfirst]
    exact ((networkEntries_eq_iff item first).mpr (hsame item hitem first hfirst)).symm

end

/-- A network twice. -/
theorem same_networks_listed :
    let network : PlmnListItem := ((2 : UInt8), [50, 53, 48, 48, 49, 35], ⟨[0, 0, 0], rfl⟩, ())
    ListsNetworks (fun _ => none) 2 [network, network]
      ⟨RIL_REQUEST_QUERY_AVAILABLE_NETWORKS, .null 0, 0⟩
      ⟨.SIM_READY, -1, 0, [], MessageCache.empty⟩ := by
  intro network
  apply (listsNetworks_iff ?_).mpr
  · intro item hitem first hfirst
    obtain rfl := Option.some.inj hfirst
    have hsame : item = network := by simpa using hitem
    rw [hsame]
    exact ⟨rfl, rfl⟩
  · exact MessageDefinition.decoded_iff.mpr ⟨trivial, ⟨rfl, ⟨trivial, rfl, trivial, trivial⟩,
      ⟨trivial, rfl, trivial, trivial⟩, trivial⟩, trivial⟩

/-- Two networks, the second of which is forbidden. -/
theorem second_network_lost : ¬ ∀ db count plmnList request handler,
    NetGetPlmnListReply.Decoded (count, plmnList, ()) →
      ListsNetworks db count plmnList request handler := by
  intro hall
  let first : PlmnListItem := ((2 : UInt8), [50, 53, 48, 48, 49, 35], ⟨[0, 0, 0], rfl⟩, ())
  let second : PlmnListItem := ((4 : UInt8), [50, 53, 48, 48, 50, 35], ⟨[0, 0, 0], rfl⟩, ())
  let count : UInt8 := 2
  have hdecoded : NetGetPlmnListReply.Decoded (count, [first, second], ()) :=
    MessageDefinition.decoded_iff.mpr ⟨trivial, ⟨rfl, ⟨trivial, rfl, trivial, trivial⟩,
      ⟨trivial, rfl, trivial, trivial⟩, trivial⟩, trivial⟩
  have hlists := hall (fun _ => none) count [first, second]
    ⟨RIL_REQUEST_QUERY_AVAILABLE_NETWORKS, .null 0, 0⟩
    ⟨.SIM_READY, -1, 0, [], MessageCache.empty⟩ hdecoded
  have hmem : second ∈ [first, second] := .tail _ (.head _)
  have hsized := MessageDefinition.decoded_iff.mp hdecoded
  obtain ⟨hcode, -⟩ := sameNetwork_of_lists hsized hlists second hmem first rfl
  exact absurd hcode (by decide)

end RequestHandler
end FreeRil
