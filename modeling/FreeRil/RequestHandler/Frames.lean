import FreeRil.RequestHandler.Agreement
import FreeRil.RequestHandler.Asked
import FreeRil.RequestHandler.Hex

/-! Whether all that is sent for a request goes out in whole frames. -/
namespace FreeRil
open Messages RIL Program

namespace RequestHandler

/-- A message is handed to the modem on some way through a request. -/
def Submits (L : ParcelLibrary) (request : Request) (handler : RequestHandler) (message : Message) : Prop :=
  ∃ t q completion, Trace (handle L request handler) t q ∧ .sent message completion ∈ outward t

/-- The data for the SIM leaves room for what else is in its frame. -/
def FitsFrame (request : Request) : Prop :=
  request.code = RIL_REQUEST_SIM_IO → ∀ io, request.data = .sim_io io → ¬ withheld io →
    ∀ hex, io.data = some hex → Even hex.val.length → (∀ ch ∈ hex.val, IsHexDigit ch) →
      hex.val.length ≤ 131044

theorem short_rsimAccess_iff (io : RIL_SIM_IO) (data : Bytes) :
    (rsimAccess io data).Short ↔ data.length ≤ 65522 := by
  have hlength : ((rsimAccess io data).definition.wire (rsimAccess io data).value).length =
      data.length + 6 := by
    simp [MessageDefinition.wire, rsimAccess, SecRsimAccess, MessageDefinition.out, wireStructure,
      Field.wire, IntType.size]
    omega
  rw [Message.Short, hlength, Header.size]
  omega

/-- A byte takes two digits. -/
theorem length_bin2hex (bin : Bytes) : (bin2hex bin).length = 2 * bin.length := by
  induction bin with
  | nil => rfl
  | cons byte bin ih =>
    simp only [bin2hex_cons, List.length_cons, ih]
    omega

theorem length_of_hex2bin {hex bin : Bytes} (h : hex2bin hex = some bin) :
    hex.length = 2 * bin.length := by
  rw [← length_bin2hex, bin2hex_of_hex2bin h, List.length_map]

/-- The condition on the digits is one on the bytes that they stand for. -/
theorem fitsFrame_iff {request : Request} : FitsFrame request ↔
    (request.code = RIL_REQUEST_SIM_IO → ∀ io, request.data = .sim_io io → ¬ withheld io →
      ∀ data, simData io = some data → (rsimAccess io data).Short) := by
  unfold FitsFrame
  refine forall_congr' fun hcode => forall_congr' fun io => forall_congr' fun hio =>
    forall_congr' fun hwithheld => ?_
  constructor
  · intro h data hdata
    apply (short_rsimAccess_iff io data).mpr
    unfold simData at hdata
    split at hdata
    next hex hhex =>
      obtain ⟨heven, hdigits⟩ := (hex2bin_isSome hex.val).mp (Option.isSome_of_eq_some hdata)
      have hle := h hex hhex heven hdigits
      have hlength := length_of_hex2bin hdata
      omega
    next =>
      obtain rfl := Option.some.inj hdata
      exact Nat.zero_le _
  · intro h hex hhex heven hdigits
    obtain ⟨data, hdata⟩ := Option.isSome_iff_exists.mp ((hex2bin_isSome hex.val).mpr ⟨heven, hdigits⟩)
    have hsim : simData io = some data := by
      unfold simData
      rw [hhex]
      exact hdata
    have hle := (short_rsimAccess_iff io data).mp (h data hsim)
    have hlength := length_of_hex2bin hdata
    omega

section
variable (L : ParcelLibrary) {request : Request} {handler : RequestHandler}

theorem submits_rsimAccess (hadmitted : admitted handler.m_radioState request.code)
    (hcode : request.code = RIL_REQUEST_SIM_IO) {io : RIL_SIM_IO} (hio : request.data = .sim_io io)
    (hwithheld : ¬ withheld io) {data : Bytes} (hdata : simData io = some data) :
    Submits L request handler (rsimAccess io data) := by
  have hhandle := handle_sim_io L hadmitted hcode hio hwithheld
  unfold accessSIM at hhandle
  rw [hdata] at hhandle
  unfold Submits
  rw [hhandle]
  exact ⟨[⟨.execute (rsimAccess io data) handler, handler, rsimAccess io data⟩], _, none,
    .cons (.nil _), .head _⟩

/-- All that is sent is short, whatever the answers to it are. -/
theorem handle_short (h : admitted handler.m_radioState request.code → FitsFrame request) :
    (handle L request handler).All Call.Short := by
  have hok : ∀ c : Call, c.Sound → c.Short → c.Short := fun _ _ hc => hc
  refine all_handle request L hok fun hadmitted f hf => ?_
  have hsim := fitsFrame_iff.mp (h hadmitted)
  exact all_handler request L hok trivial (fun _ => trivial)
    (fun hcode io hio hwithheld data hdata _ => hsim hcode io hio hwithheld data hdata) (.inl trivial) hf

/-- The accesses to the SIM decide it. -/
theorem submits_short_iff : (∀ message, Submits L request handler message → message.Short) ↔
    (admitted handler.m_radioState request.code → FitsFrame request) := by
  constructor
  · intro h hadmitted
    refine fitsFrame_iff.mpr fun hcode io hio hwithheld data hdata => ?_
    exact h _ (submits_rsimAccess L hadmitted hcode hio hwithheld hdata)
  · rintro h message ⟨t, q, completion, ht, hsent⟩
    obtain ⟨e, he, heq⟩ := List.mem_filterMap.mp hsent
    exact ((handle_short L h).events ht e he).sent heq

end

/-- The messages of these requests go out in whole frames exactly when no data for the SIM is too long
for one, unless the request is refused. -/
theorem submitted_transmits_iff (L : ParcelLibrary) (p : Protocol)
    (calls : Set (Request × RequestHandler)) :
    IPCSocketHandler.Transmits p {message | ∃ call ∈ calls, Submits L call.1 call.2 message} ↔
      ∀ call ∈ calls, admitted call.2.m_radioState call.1.code → FitsFrame call.1 := by
  rw [IPCSocketHandler.transmits_iff_short]
  constructor
  · intro h call hcall
    exact (submits_short_iff L).mp fun message hmessage => h message ⟨call, hcall, hmessage⟩
  · rintro h message ⟨call, hcall, hmessage⟩
    exact (submits_short_iff L).mpr (h call hcall) message hmessage

theorem bin2hex_not_null (bin : Bytes) : 0 ∉ bin2hex bin := by
  intro hmem
  have hdigits := ((hex2bin_isSome (bin2hex bin)).mp (by simp [hex2bin_bin2hex])).2
  exact absurd (hdigits 0 hmem) (by decide)

/-- The length of a frame for 65523 bytes of zeros is zero. -/
theorem long_access_not_transmitted : ¬ ∀ L p (calls : Set (Request × RequestHandler)),
    IPCSocketHandler.Transmits p {message | ∃ call ∈ calls, Submits L call.1 call.2 message} := by
  intro hall
  let data : Bytes := List.replicate 65523 0
  let io : RIL_SIM_IO := ⟨0xB0, 0x6F07, 0, 0, 0, some ⟨bin2hex data, bin2hex_not_null data⟩⟩
  let request : Request := .mk RIL_REQUEST_SIM_IO (.sim_io io) 0
  let handler : RequestHandler := ⟨.SIM_READY, -1, 0, [], MessageCache.empty⟩
  have hsubmits : Submits .android request handler (rsimAccess io data) :=
    submits_rsimAccess .android (by decide) rfl rfl (by decide) (hex2bin_bin2hex data)
  have hshort := IPCSocketHandler.transmits_iff_short.mp (hall .android protocol {(request, handler)})
    (rsimAccess io data) ⟨_, rfl, hsubmits⟩
  have hle := (short_rsimAccess_iff io data).mp hshort
  rw [List.length_replicate] at hle
  omega

end RequestHandler
end FreeRil
