import FreeRil.Compiler.Truncated
import FreeRil.RequestHandler.Decoded

/-! Which payloads, of those that are accepted, take the handlers outside of what has been read. -/
namespace FreeRil
open DataStream Messages RIL Program

namespace RequestHandler

/-! The calls of a list. -/

/-- The fields of `CallListItem`. -/
abbrev callItem : List Field :=
  [.u16 "callType", .u8 "callId", .u8 "direction", .u8 "callState", .u8 "isMultiParty",
    .u8 "numberLength", .u8 "reserved", .vector "number" (.field "numberLength")]

/-- What is left behind an item of the bytes that have been left before it. -/
def behindCall (rest : Bytes) : Bytes :=
  if rest.length < 2 then rest
  else if rest.length < 8 then []
  else
    let numberLength := (rest.getD 6 0).toNat
    let behind := rest.drop 8
    if numberLength ≤ behind.length then behind.drop numberLength else behind

/-- The bytes end behind the length of a number, in one of the calls. -/
def EndsInCall : (count : ℕ) → (rest : Bytes) → Prop
  | 0, _ => False
  | count + 1, rest => rest.length = 7 ∧ rest.getD 6 0 ≠ 0 ∨ EndsInCall count (behindCall rest)

/-- A payload does. -/
def EndsInNumber : (payload : Bytes) → Prop
  | [] => False
  | count :: rest => EndsInCall count.toNat rest

section
variable {memory : Memory} {before rest : Bytes}

/-- An item whose number is not read has a length without a number exactly if the bytes end
there. -/
theorem read_callItem {r : Struct callItem × DataStream × Bool}
    (h : readStructure memory callItem (newStructure memory.cleared callItem 0) []
      (reading before rest) = some r) :
    (∃ before', r.2.1 = reading before' (behindCall rest)) ∧
      (CallListItem.NumberFits r.1 ↔ ¬ (rest.length = 7 ∧ rest.getD 6 0 ≠ 0)) := by
  match rest with
  | [] | [_] =>
    rw [readStructure_u16_short _ (by simp)] at h
    obtain rfl := Option.some.inj h
    exact ⟨⟨before, rfl⟩, iff_of_true (Nat.zero_le _) (by simp)⟩
  | [a, b] | [a, b, c] | [a, b, c, d] | [a, b, c, d, e] | [a, b, c, d, e, f] =>
    simp only [readStructure_u16_cons, readStructure_u8_cons, readStructure_u8_nil] at h
    obtain rfl := Option.some.inj h
    exact ⟨⟨_, rfl⟩, iff_of_true (Nat.zero_le _) (by simp)⟩
  | [a, b, c, d, e, f, g] =>
    simp only [readStructure_u16_cons, readStructure_u8_cons, readStructure_u8_nil] at h
    obtain rfl := Option.some.inj h
    refine ⟨⟨_, rfl⟩, ?_⟩
    change g.toNat ≤ 0 ↔ ¬ (7 = 7 ∧ g ≠ 0)
    rw [Nat.le_zero, and_iff_right rfl, not_not, ← UInt8.toNat_inj]
    rfl
  | a :: b :: c :: d :: e :: f :: g :: i :: tail =>
    simp only [readStructure_u16_cons, readStructure_u8_cons] at h
    generalize hnumber : readStructure memory [.vector "number" (.field "numberLength")] _ _ _ =
      number at h
    cases number with
    | none => contradiction
    | some r' =>
      obtain rfl := Option.some.inj h
      obtain ⟨⟨number, s, finished⟩, hread, hnumber⟩ := Option.bind_eq_some_iff.mp hnumber
      obtain ⟨hlength, hs⟩ := @readFromStream_vector _ _ _ _ _ _ _ g.toNat rfl _ hread
      have hr : r'.1.1 = number ∧ r'.2.1 = s := by
        cases finished with
        | true => cases Option.some.inj hnumber; exact ⟨rfl, rfl⟩
        | false => cases Option.some.inj hnumber; exact ⟨rfl, rfl⟩
      constructor
      · change ∃ before', r'.2.1 =
          reading before' (behindCall (a :: b :: c :: d :: e :: f :: g :: i :: tail))
        have hbehind : behindCall (a :: b :: c :: d :: e :: f :: g :: i :: tail) =
            if g.toNat ≤ tail.length then tail.drop g.toNat else tail := by
          rw [behindCall, if_neg (by simp), if_neg (by simp)]
          rfl
        rw [hr.2, hbehind]
        split_ifs at hs ⊢
        · exact ⟨_, (Prod.mk.inj hs).1⟩
        · exact ⟨_, (Prod.mk.inj hs).1⟩
      · change g.toNat ≤ List.length r'.1.1 ↔ _
        rw [hr.1, hlength]
        exact iff_of_true le_rfl (by simp)

theorem read_calls {count : ℕ} {r : List (Struct callItem) × DataStream}
    (h : readAllItems (fun old s => readStructure memory callItem old [] s)
      (List.replicate count (newStructure memory.cleared callItem 0)) (reading before rest) =
        some r) :
    (∀ item ∈ r.1, CallListItem.NumberFits item) ↔ ¬ EndsInCall count rest := by
  induction count generalizing before rest r with
  | zero =>
    obtain rfl := Option.some.inj h
    exact iff_of_true nofun id
  | succ count ih =>
    obtain ⟨⟨item, s, finished⟩, hitem, h⟩ := Option.bind_eq_some_iff.mp h
    obtain ⟨⟨items, s'⟩, hitems, h⟩ := Option.bind_eq_some_iff.mp h
    obtain rfl := Option.some.inj h
    obtain ⟨⟨before', hs⟩, hfits⟩ := read_callItem hitem
    dsimp only at hs hitems
    rw [hs] at hitems
    rw [EndsInCall, not_or, ← hfits, ← ih hitems]
    exact List.forall_mem_cons

end

theorem not_endsInCall_nil (count : ℕ) : ¬ EndsInCall count [] := by
  induction count with
  | zero => exact id
  | succ count ih =>
    rintro (h | h)
    · exact absurd h.1 (by decide)
    · exact ih h

/-- The fields of a list of calls that has been accepted. -/
theorem accepted_calls {memory : Memory} {payload : Bytes}
    {value : Struct CallGetCallListReply.fields}
    (h : CallGetCallListReply.Accepted memory payload value) :
    UInt8.toNat value.1 = (callList value).length ∧
      ((∀ item ∈ callList value, item.NumberFits) ↔ ¬ EndsInNumber payload) := by
  obtain ⟨s, hread, -⟩ := h
  have hmessage := (MessageDefinition.readFromStream_returns hread).2
  obtain ⟨s₁, hcount, hrest⟩ := readMessage_cons.mp hmessage
  obtain ⟨s₂, hlist, -⟩ := readMessage_cons.mp hrest
  have hlength := readCaught_array_length hlist
  obtain ⟨count, list, padding, ⟨⟩⟩ := value
  refine ⟨Option.some.inj hlength, ?_⟩
  obtain ⟨hfirst, rfl⟩ := Prod.mk.inj (Option.some.inj (readCaught_first.symm.trans hcount))
  have hcalls := read_calls (readCaught_array_nil rfl rfl hlist)
  refine hcalls.trans (not_congr ?_)
  rw [← hfirst]
  cases payload with
  | nil => exact iff_of_false (not_endsInCall_nil _) id
  | cons b rest => exact Iff.rfl

/-! The other messages. -/

/-- Nothing follows the count of a list that has one. -/
def LacksNetworks (memory : Memory) (payload : Bytes) : Prop :=
  payload.length ≤ 1 ∧ payload.headD (memory.contents 0) ≠ 0

/-- The fields of `PlmnListItem`. -/
abbrev networkItem : List Field := [.u8 "status", .vector "plmn" (.const 6), .data "unknown" 3]

/-- The first network has got its code unless no byte of it is there. -/
theorem read_networkItem {memory : Memory} {before rest : Bytes}
    {r : Struct networkItem × DataStream × Bool}
    (h : readStructure memory networkItem (newStructure memory.cleared networkItem 0) []
      (reading before rest) =
      some r) : 6 ≤ List.length r.1.2.1 ↔ rest ≠ [] := by
  cases rest with
  | nil =>
    rw [readStructure_u8_nil] at h
    obtain rfl := Option.some.inj h
    exact iff_of_false (Nat.not_succ_le_zero 5) fun hne => hne rfl
  | cons b rest =>
    rw [readStructure_u8_cons] at h
    obtain ⟨r', hread, rfl⟩ := Option.map_eq_some_iff.mp h
    apply iff_of_true _ (List.cons_ne_nil _ _)
    obtain ⟨s, finished, hplmn⟩ := readStructure_head hread
    exact (@readFromStream_vector memory "plmn" _ _ rest (.const 6) _ 6 rfl _ hplmn).1.ge

theorem read_networks {memory : Memory} {before rest : Bytes} {count : ℕ}
    {r : List (Struct networkItem) × DataStream}
    (h : readAllItems (fun old s => readStructure memory networkItem old [] s)
      (List.replicate count (newStructure memory.cleared networkItem 0)) (reading before rest) =
        some r) :
    (∀ first : PlmnListItem, r.1[0]? = some first → 6 ≤ first.plmn.length) ↔
      ¬ (rest = [] ∧ count ≠ 0) := by
  cases count with
  | zero =>
    obtain rfl := Option.some.inj h
    exact iff_of_true nofun fun h => h.2 rfl
  | succ count =>
    obtain ⟨⟨item, s, finished⟩, hitem, h⟩ := Option.bind_eq_some_iff.mp h
    obtain ⟨⟨items, s'⟩, -, h⟩ := Option.bind_eq_some_iff.mp h
    obtain rfl := Option.some.inj h
    have hfirst := read_networkItem hitem
    rw [and_iff_left (Nat.succ_ne_zero count), ← ne_eq, ← hfirst]
    constructor
    · exact fun h => h item rfl
    · rintro h _ ⟨⟩
      exact h

/-- The fields of a list of networks that has been accepted. -/
theorem accepted_networks {memory : Memory} {payload : Bytes}
    {value : Struct NetGetPlmnListReply.fields}
    (h : NetGetPlmnListReply.Accepted memory payload value) :
    UInt8.toNat value.1 = (plmnList value).length ∧
      ((∀ first, (plmnList value)[0]? = some first → 6 ≤ first.plmn.length) ↔
        ¬ LacksNetworks memory payload) := by
  obtain ⟨s, hread, -⟩ := h
  have hmessage := (MessageDefinition.readFromStream_returns hread).2
  obtain ⟨s₁, hcount, hrest⟩ := readMessage_cons.mp hmessage
  obtain ⟨s₂, hlist, -⟩ := readMessage_cons.mp hrest
  have hlength := readCaught_array_length hlist
  obtain ⟨count, list, ⟨⟩⟩ := value
  refine ⟨Option.some.inj hlength, ?_⟩
  obtain ⟨hfirst, rfl⟩ := Prod.mk.inj (Option.some.inj (readCaught_first.symm.trans hcount))
  have hcount : payload.headD (memory.contents 0) = count :=
    (congrArg payload.headD (memory.new_u8 "count").symm).trans hfirst
  refine (read_networks (readCaught_array_nil rfl rfl hlist)).trans (not_congr ?_)
  have hrest : payload.tail = [] ↔ payload.length ≤ 1 := by
    rw [← List.length_eq_zero_iff, List.length_tail, Nat.sub_eq_zero_iff_le]
  have hzero : UInt8.toNat count ≠ 0 ↔ count ≠ (0 : UInt8) :=
    not_congr (@UInt8.toNat_inj count 0)
  rw [LacksNetworks, hcount]
  exact and_congr hrest hzero

/-- The code of a network that has been accepted. -/
theorem accepted_currentPlmn {memory : Memory} {payload : Bytes}
    {value : Struct NetGetCurrentPlmnReply.fields}
    (h : NetGetCurrentPlmnReply.Accepted memory payload value) :
    (currentPlmn value).length = 6 := by
  obtain ⟨s, hread, -⟩ := h
  have hmessage := (MessageDefinition.readFromStream_returns hread).2
  obtain ⟨s₁, -, hrest⟩ := readMessage_cons.mp hmessage
  obtain ⟨s₂, -, hrest⟩ := readMessage_cons.mp hrest
  obtain ⟨s₃, hplmn, -⟩ := readMessage_cons.mp hrest
  obtain ⟨unknown1, unknown2, plmn, unknown3, ⟨⟩⟩ := value
  exact (Option.some.inj (readCaught_vector_length hplmn)).symm

/-- The lines of a screen that has been accepted. -/
theorem accepted_lines {memory : Memory} {payload : Bytes} {lineCount : UInt8}
    {lines : List LinesItem} (h : SvcDisplayScreen.Accepted memory payload (lineCount, lines, ())) :
    lineCount.toNat = lines.length := by
  obtain ⟨s, hread, -⟩ := h
  have hmessage := (MessageDefinition.readFromStream_returns hread).2
  obtain ⟨s₁, -, hrest⟩ := readMessage_cons.mp hmessage
  obtain ⟨s₂, hlines, -⟩ := readMessage_cons.mp hrest
  exact Option.some.inj (readCaught_array_length hlines)

/-- On a message that has been accepted every access is inside of a vector, except for a number that
a list of calls ends before and for the networks that a list does not have. -/
theorem accepted_within_iff (L : ParcelLibrary) (request : Request) (handler : RequestHandler)
    (memory : Memory) (payload : Bytes) :
    (∀ value, CallGetCallListReply.Accepted memory payload value →
      (Within ⟨CMD_CALL, CallGetCallListReply, value⟩ (handleCurrentCalls request)
        (fun _ => True) handler ↔
        ¬ EndsInNumber payload)) ∧
    (∀ value, NetGetPlmnListReply.Accepted memory payload value →
      (Within ⟨CMD_NET, NetGetPlmnListReply, value⟩
          (handleQueryAvailableNetworksComplete ⟨CMD_NET, NetGetPlmnListReply, value⟩ request)
          (fun _ => True) handler ↔
        ¬ LacksNetworks memory payload)) ∧
    (∀ value, NetGetCurrentPlmnReply.Accepted memory payload value →
      (∀ m, handler.m_cache .currentPlmn = some m → ∃ memory' payload' value',
        NetGetCurrentPlmnReply.Accepted memory' payload' value' ∧ m =
          ⟨CMD_NET, NetGetCurrentPlmnReply, value'⟩) →
      Within ⟨CMD_NET, NetGetCurrentPlmnReply, value⟩ (handleOperator request)
      (fun _ => True) handler) ∧
    (∀ value, SvcDisplayScreen.Accepted memory payload value →
      Within ⟨CMD_SVC, SvcDisplayScreen, value⟩ (handleSvcDisplayScreen L value)
      (fun _ => True) handler) := by
  refine ⟨fun value h => ?_, fun value h => ?_, fun value h hcached => ?_, fun value h => ?_⟩
  · obtain ⟨hcount, hcalls⟩ := accepted_calls h
    exact (within_handleCurrentCalls_iff request handler hcount).trans hcalls
  · obtain ⟨hcount, hnetworks⟩ := accepted_networks h
    exact (within_handleQueryAvailableNetworksComplete_iff request handler hcount).trans hnetworks
  · apply within_handleOperator request handler (accepted_currentPlmn h)
    intro m hm
    obtain ⟨memory', payload', value', h', rfl⟩ := hcached m hm
    exact ⟨value', accepted_currentPlmn h', rfl⟩
  · obtain ⟨lineCount, lines, ⟨⟩⟩ := value
    exact within_handleSvcDisplayScreen L handler (accepted_lines h)

/-- Two calls, a network and the lines of an empty screen are read inside of the vectors. -/
theorem two_calls_within :
    let handler : RequestHandler := ⟨.SIM_READY, -1, 0, [], MessageCache.empty⟩
    let memory : Memory := ⟨fun _ => 204, fun _ => true⟩
    (∃ value, CallGetCallListReply.Accepted memory
        [2, 1, 0, 1, 1, 1, 0, 1, 0, 49, 1, 0, 2, 2, 4, 0, 2, 0, 50, 51] value ∧
      Within ⟨CMD_CALL, CallGetCallListReply, value⟩
        (handleCurrentCalls ⟨RIL_REQUEST_GET_CURRENT_CALLS, .null 0, 0⟩) (fun _ => True) handler) ∧
    (∃ value, NetGetPlmnListReply.Accepted memory [1, 2, 50, 53, 48, 48, 49, 35, 0, 0, 0] value ∧
      Within ⟨CMD_NET, NetGetPlmnListReply, value⟩
        (handleQueryAvailableNetworksComplete ⟨CMD_NET, NetGetPlmnListReply, value⟩
          ⟨RIL_REQUEST_QUERY_AVAILABLE_NETWORKS, .null 0, 0⟩) (fun _ => True) handler) ∧
    (∃ value, NetGetCurrentPlmnReply.Accepted memory [0, 0, 0, 50, 53, 48, 48, 49, 35, 0, 0] value ∧
      Within ⟨CMD_NET, NetGetCurrentPlmnReply, value⟩
        (handleOperator ⟨RIL_REQUEST_OPERATOR, .null 0, 0⟩)
        (fun _ => True) handler) ∧
    (∃ value, SvcDisplayScreen.Accepted memory [2, 0] value ∧
      Within ⟨CMD_SVC, SvcDisplayScreen, value⟩ (handleSvcDisplayScreen .android value)
        (fun _ => True)
        handler) := by
  intro handler memory
  have hwithin := fun request payload => accepted_within_iff .android request handler memory payload
  refine ⟨?_, ?_, ?_, ?_⟩
  · obtain ⟨value, h⟩ := MessageDefinition.accepts_iff.mp (show CallGetCallListReply.accepts memory
      [2, 1, 0, 1, 1, 1, 0, 1, 0, 49, 1, 0, 2, 2, 4, 0, 2, 0, 50, 51] = true by decide +kernel)
    refine ⟨value, h, ((hwithin _ _).1 value h).mpr ?_⟩
    rintro (h | h | h)
    · exact absurd h.1 (by decide)
    · exact absurd h.1 (by decide)
    · exact h
  · obtain ⟨value, h⟩ := MessageDefinition.accepts_iff.mp (show NetGetPlmnListReply.accepts memory
      [1, 2, 50, 53, 48, 48, 49, 35, 0, 0, 0] = true by decide +kernel)
    exact ⟨value, h, ((hwithin _ _).2.1 value h).mpr fun h => absurd h.1 (by decide)⟩
  · obtain ⟨value, h⟩ :=
      MessageDefinition.accepts_iff.mp (show NetGetCurrentPlmnReply.accepts memory
      [0, 0, 0, 50, 53, 48, 48, 49, 35, 0, 0] = true by decide +kernel)
    exact ⟨value, h, (hwithin _ _).2.2.1 value h nofun⟩
  · obtain ⟨value, h⟩ := MessageDefinition.accepts_iff.mp
      (show SvcDisplayScreen.accepts memory [2, 0] = true by decide +kernel)
    exact ⟨value, h, (hwithin ⟨0, .null 0, 0⟩ _).2.2.2 value h⟩

/-- A list of networks that is a count alone is accepted, as is a list of calls that ends behind the
length of a number. Both are read outside of a vector. -/
theorem count_alone_outside :
    let handler : RequestHandler := ⟨.SIM_READY, -1, 0, [], MessageCache.empty⟩
    let memory : Memory := ⟨fun _ => 204, fun _ => true⟩
    (∃ value, NetGetPlmnListReply.Accepted memory [5] value ∧
      ¬ Within ⟨CMD_NET, NetGetPlmnListReply, value⟩
        (handleQueryAvailableNetworksComplete ⟨CMD_NET, NetGetPlmnListReply, value⟩
          ⟨RIL_REQUEST_QUERY_AVAILABLE_NETWORKS, .null 0, 0⟩) (fun _ => True) handler) ∧
    (∃ value, CallGetCallListReply.Accepted memory [1, 1, 0, 1, 1, 1, 0, 4] value ∧
      ¬ Within ⟨CMD_CALL, CallGetCallListReply, value⟩
        (handleCurrentCalls ⟨RIL_REQUEST_GET_CURRENT_CALLS, .null 0, 0⟩)
          (fun _ => True) handler) := by
  intro handler memory
  constructor
  · obtain ⟨value, h⟩ := MessageDefinition.accepts_iff.mp
      (show NetGetPlmnListReply.accepts memory [5] = true by decide +kernel)
    obtain ⟨hcount, hnetworks⟩ := accepted_networks h
    refine ⟨value, h, ?_⟩
    rw [within_handleQueryAvailableNetworksComplete_iff _ handler hcount, hnetworks, not_not]
    exact ⟨le_rfl, by decide⟩
  · obtain ⟨value, h⟩ := MessageDefinition.accepts_iff.mp
      (show CallGetCallListReply.accepts memory [1, 1, 0, 1, 1, 1, 0, 4] = true by decide +kernel)
    obtain ⟨hcount, hcalls⟩ := accepted_calls h
    refine ⟨value, h, ?_⟩
    rw [within_handleCurrentCalls_iff _ handler hcount, hcalls, not_not]
    exact .inl ⟨rfl, by decide⟩

end RequestHandler
end FreeRil
