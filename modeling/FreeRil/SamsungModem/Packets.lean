import FreeRil.Library.Blocks
import FreeRil.Library.Replay
import FreeRil.SamsungModem

/-! The packets that the boot loader is sent. -/
namespace FreeRil
open AndroidFileSystem Blocks Program

namespace SamsungModem

section
variable {cmd : UInt16} {data : Bytes}

theorem bootloader_cmd_t.toBytes_length (h : bootloader_cmd_t) : h.toBytes.length = size := by
  simp [toBytes, size]

theorem bootloader_cmd_t.ofBytes_toBytes_append (h : bootloader_cmd_t) (data : Bytes) :
    ofBytes (h.toBytes ++ data) = h := by
  have hcheck : UInt16.ofNat (LittleEndian.value (LittleEndian.toBytes 2 h.check.toNat)) =
    h.check := by
    rw [LittleEndian.value_toBytes]
    exact UInt16.toNat_inj.mp (by simp)
  have hcmd : UInt16.ofNat (LittleEndian.value (LittleEndian.toBytes 2 h.cmd.toNat)) = h.cmd := by
    rw [LittleEndian.value_toBytes]
    exact UInt16.toNat_inj.mp (by simp)
  have hsize : UInt32.ofNat (LittleEndian.value (LittleEndian.toBytes 4 h.data_size.toNat)) =
      h.data_size := by
    rw [LittleEndian.value_toBytes]
    exact UInt32.toNat_inj.mp (by simp)
  simp only [ofBytes, toBytes, List.append_assoc]
  rw [List.take_left' (LittleEndian.toBytes_length 2 _),
    List.drop_left' (LittleEndian.toBytes_length 2 _),
    List.take_left' (LittleEndian.toBytes_length 2 _), hcheck, hcmd]
  rw [← List.append_assoc, List.drop_left' (by simp),
    List.take_left' (LittleEndian.toBytes_length 4 _), hsize]

/-- The sum of bytes at 16 bits. -/
theorem foldl_add_toNat (data : Bytes) (acc : UInt16) :
    (data.foldl (fun acc byte => acc + byte.toUInt16) acc).toNat =
      (acc.toNat + (data.map UInt8.toNat).sum) % 65536 := by
  induction data generalizing acc with
  | nil =>
    have hlt : acc.toNat < 65536 := acc.toNat_lt
    simp [Nat.mod_eq_of_lt hlt]
  | cons byte data ih =>
    rw [List.foldl_cons, ih, UInt16.toNat_add, UInt8.toNat_toUInt16, List.map_cons, List.sum_cons]
    omega

theorem checksum_toNat : (checksum cmd data).toNat =
    (cmd.toNat + data.length + (data.map UInt8.toNat).sum) % 65536 := by
  have hand : data.length &&& 0xFFFF = data.length % 65536 :=
    Nat.and_two_pow_sub_one_eq_mod data.length 16
  rw [checksum, foldl_add_toNat, UInt16.toNat_ofNat', hand]
  omega

/-- The packet of a command with its data. -/
def packet (cmd : UInt16) (data : Bytes) : Bytes :=
  (⟨checksum cmd data, cmd, .ofNat data.length⟩ : bootloader_cmd_t).toBytes ++
    (data ++ List.replicate (capacity cmd - data.length) 0)

/-- The data of a packet, as many bytes after the header as it says. -/
def payload (buf : Bytes) : Bytes :=
  (buf.drop bootloader_cmd_t.size).take (bootloader_cmd_t.ofBytes buf).data_size.toNat

/-- What comes after the data. -/
def padding (buf : Bytes) : Bytes :=
  (buf.drop bootloader_cmd_t.size).drop (bootloader_cmd_t.ofBytes buf).data_size.toNat

/-- A packet of the length of all but one command, with the right sum and nothing after its data. -/
structure WellFormed (buf : Bytes) : Prop where
  length : buf.length = 0x4008
  complete : (payload buf).length = (bootloader_cmd_t.ofBytes buf).data_size.toNat
  zero : ∀ b ∈ padding buf, b = 0
  check : (bootloader_cmd_t.ofBytes buf).check.toNat = ((bootloader_cmd_t.ofBytes buf).cmd.toNat +
    (bootloader_cmd_t.ofBytes buf).data_size.toNat + ((payload buf).map UInt8.toNat).sum) % 65536

theorem capacity_le (cmd : UInt16) : capacity cmd ≤ 0x4000 := by
  unfold capacity
  split_ifs <;> omega

theorem packet_header :
    bootloader_cmd_t.ofBytes (packet cmd data) = ⟨checksum cmd data, cmd, .ofNat data.length⟩ :=
  bootloader_cmd_t.ofBytes_toBytes_append _ _

theorem packet_drop : (packet cmd data).drop bootloader_cmd_t.size =
    data ++ List.replicate (capacity cmd - data.length) 0 :=
  List.drop_left' (bootloader_cmd_t.toBytes_length _)

section
variable (hroom : data.length ≤ capacity cmd)
include hroom

theorem packet_data_size :
    (bootloader_cmd_t.ofBytes (packet cmd data)).data_size.toNat = data.length := by
  have hlt := capacity_le cmd
  rw [packet_header]
  exact UInt32.toNat_ofNat_of_lt' (by simp only [UInt32.size]; omega)

theorem packet_payload : payload (packet cmd data) = data := by
  rw [payload, packet_data_size hroom, packet_drop, List.take_left]

theorem packet_wellFormed (hcmd : cmd ≠ SetPortConf) : WellFormed (packet cmd data) where
  length := by
    have hcapacity : capacity cmd = 0x4000 := if_neg hcmd
    rw [packet, List.length_append, bootloader_cmd_t.toBytes_length, List.length_append,
      List.length_replicate, bootloader_cmd_t.size]
    omega
  complete := by rw [packet_payload hroom, packet_data_size hroom]
  zero := by
    rw [padding, packet_data_size hroom, packet_drop, List.drop_left]
    exact fun b hb => List.eq_of_mem_replicate hb
  check := by
    rw [packet_payload hroom, packet_data_size hroom, packet_header]
    exact checksum_toNat

end

theorem memcpy_header (h : bootloader_cmd_t) (n : ℕ) :
    memcpy (List.replicate (n + bootloader_cmd_t.size) 0) 0 h.toBytes =
      pure (h.toBytes ++ List.replicate n 0) := by
  have hlength := bootloader_cmd_t.toBytes_length h
  rw [memcpy, if_neg (by rw [List.length_replicate]; omega), Nat.zero_add, hlength,
    List.drop_replicate,
    Nat.add_sub_cancel, List.take_zero, List.nil_append]

theorem memcpy_data (h : bootloader_cmd_t) (n : ℕ) (data : Bytes) :
    memcpy (h.toBytes ++ List.replicate n 0) 8 data =
      if n < data.length then overrun
      else pure (h.toBytes ++ (data ++ List.replicate (n - data.length) 0)) := by
  have hlength : h.toBytes.length = 8 := bootloader_cmd_t.toBytes_length h
  rw [memcpy]
  by_cases hroom : n < data.length
  · rw [if_pos hroom, if_pos (by rw [List.length_append, List.length_replicate]; omega)]
  · rw [if_neg hroom, if_neg (by rw [List.length_append, List.length_replicate]; omega),
      List.take_left' hlength, ← List.drop_drop, List.drop_left' hlength, List.drop_replicate,
      List.append_assoc]

/-- A command is one packet, unless its data has no room there. -/
theorem bootloaderCommand_eq : bootloaderCommand cmd data =
    if capacity cmd < data.length then overrun
    else do
      send .packet (packet cmd data)
      if cmd ≠ ReqForceHwReset ∧ cmd ≠ ReqFlashWriteBlock then recvReply cmd (capacity cmd)
      else return true := by
  unfold bootloaderCommand
  dsimp only
  rw [memcpy_header, pure_eq, done_bind, memcpy_data]
  by_cases hroom : capacity cmd < data.length
  · rw [if_pos hroom, if_pos hroom]
    exact congrArg (Program.call _) (funext fun r => r.elim)
  · rw [if_neg hroom, if_neg hroom]
    rfl

end

/-- What a call hands to the socket. -/
def BootCall.handed : BootCall → Option Bytes
  | send _ data => some data
  | _ => none

/-- What the modem has sent. -/
def received : Event BootCall.Ret → Option Bytes
  | ⟨.recv _, data⟩ => some data.val
  | _ => none

/-- The packets of a history. -/
def packets (t : List (Event BootCall.Ret)) : List Bytes := t.filterMap fun e => e.op.handed

/-- What the modem has sent in a history. -/
def heard (t : List (Event BootCall.Ret)) : List Bytes := t.filterMap received

/-- The modem has answered a command, with as much data as its packet has room for. -/
def Answers (cmd : UInt16) (t : List (Event BootCall.Ret)) : Prop :=
  ∃ reply data, heard t = [reply, data] ∧ reply.length = bootloader_cmd_t.size ∧
    (bootloader_cmd_t.ofBytes reply).cmd = cmd ∧ data.length = capacity cmd

section
variable {t t' : List (Event BootCall.Ret)} {part : Part} {data : Bytes} {k : ℕ}

@[simp] theorem packets_append : packets (t ++ t') = packets t ++ packets t' :=
  List.filterMap_append

@[simp] theorem heard_append : heard (t ++ t') = heard t ++ heard t' := List.filterMap_append

@[simp] theorem packets_send : packets (⟨.send part data, k⟩ :: t) = data :: packets t := rfl

@[simp] theorem heard_send : heard (⟨.send part data, k⟩ :: t) = heard t := rfl

end
section
variable {cmd : UInt16} {t : List (Event BootCall.Ret)} {r : Bool}

theorem recv_done {α : Type} {size : ℕ} {f : Bytes → Boot α} {a : α}
    (h : Trace (recv size >>= f) t (.done a)) :
    ∃ data t', t = ⟨.recv size, data⟩ :: t' ∧ Trace (f data.val) t' (.done a) := by
  obtain ⟨data, t', ht, h'⟩ := Trace.call_done h
  exact ⟨data, t', ht, h'⟩

theorem send_done {α : Type} {part : Part} {data : Bytes} {q : Boot α} {a : α}
    (h : Trace (send part data >>= fun _ => q) t (.done a)) :
    ∃ k t', t = ⟨.send part data, k⟩ :: t' ∧ Trace q t' (.done a) := by
  obtain ⟨k, t', ht, h'⟩ := Trace.call_done h
  exact ⟨k, t', ht, h'⟩

theorem recvReply_done (h : Trace (recvReply cmd (capacity cmd)) t (.done r)) :
    packets t = [] ∧ (r = true ↔ Answers cmd t) := by
  obtain ⟨reply, t', rfl, hreply⟩ := recv_done h
  by_cases hsize : reply.val.length = bootloader_cmd_t.size
  · rw [if_neg (not_not.mpr hsize)] at hreply
    by_cases hcmd : (bootloader_cmd_t.ofBytes reply.val).cmd = cmd
    · rw [if_neg (not_not.mpr hcmd)] at hreply
      obtain ⟨data, t'', rfl, hdata⟩ := recv_done hreply
      obtain ⟨rfl, hr⟩ : t'' = [] ∧ (r = true ↔ data.val.length = capacity cmd) := by
        split_ifs at hdata with hlength
        · obtain ⟨rfl, hr⟩ := hdata.done_eq
          obtain rfl := Program.done.inj hr
          exact ⟨rfl, iff_of_false nofun hlength⟩
        · obtain ⟨rfl, hr⟩ := hdata.done_eq
          obtain rfl := Program.done.inj hr
          exact ⟨rfl, iff_of_true rfl (not_not.mp hlength)⟩
      refine ⟨rfl, hr.trans ⟨fun hlength => ⟨_, _, rfl, hsize, hcmd, hlength⟩, ?_⟩⟩
      rintro ⟨reply', data', hheard, -, -, hlength⟩
      obtain ⟨-, hrest⟩ := List.cons.inj hheard
      obtain ⟨rfl, -⟩ := List.cons.inj hrest
      exact hlength
    · rw [if_pos hcmd] at hreply
      obtain ⟨rfl, hr⟩ := hreply.done_eq
      obtain rfl := Program.done.inj hr
      refine ⟨rfl, iff_of_false nofun ?_⟩
      rintro ⟨reply', data', hheard, -⟩
      cases hheard
  · rw [if_pos hsize] at hreply
    obtain ⟨rfl, hr⟩ := hreply.done_eq
    obtain rfl := Program.done.inj hr
    refine ⟨rfl, iff_of_false nofun ?_⟩
    rintro ⟨reply', data', hheard, -⟩
    cases hheard

/-- A block is written without an answer. -/
theorem writeBlock_done {block : Bytes} (hroom : block.length ≤ 0x4000)
    (h : Trace (bootloaderCommand ReqFlashWriteBlock block) t (.done r)) :
    r = true ∧ ∃ k, t = [⟨.send .packet (packet ReqFlashWriteBlock block), k⟩] := by
  have hcapacity : capacity ReqFlashWriteBlock = 0x4000 := rfl
  rw [bootloaderCommand_eq, if_neg (by omega), if_neg (by simp)] at h
  obtain ⟨k, t', rfl, hrest⟩ := send_done h
  obtain ⟨rfl, hr⟩ := hrest.done_eq
  exact ⟨Program.done.inj hr, k, rfl⟩

theorem take_block (image : Bytes) (offset : ℕ) :
    (image.drop offset).take (min (image.length - offset) 16384) =
      (image.drop offset).take 16384 := by
  rw [← List.length_drop, List.take_eq_take_iff]
  omega

theorem drop_block (image : Bytes) (offset : ℕ) :
    image.drop (offset + min (image.length - offset) 16384) = (image.drop offset).drop 16384 := by
  rw [List.drop_drop]
  by_cases hlast : image.length - offset ≤ 16384
  · rw [List.drop_eq_nil_of_le (by omega), List.drop_eq_nil_of_le (by omega)]
  · rw [min_eq_right (by omega)]

/-- The loop writes the blocks of what is left of the image. -/
theorem writeBlocks_done {image : Bytes} {offset : ℕ}
    (h : Trace (writeBlocks image offset) t (.done r)) :
    r = true ∧ packets t = (blocks 16384 (image.drop offset)).map (packet ReqFlashWriteBlock) ∧
      heard t = [] := by
  induction offset using writeBlocks.induct image generalizing t with
  | case1 offset hlt chunk =>
    rename_i ih
    rw [writeBlocks, if_pos hlt] at h
    have hne : image.drop offset ≠ [] := by
      rw [ne_eq, List.drop_eq_nil_iff]
      omega
    obtain ⟨first, ok, rest, rfl, hfirst, hrest⟩ := Trace.bind_done h
    rw [take_block] at hfirst
    have hroom : ((image.drop offset).take 16384).length ≤ 0x4000 := List.length_take_le _ _
    obtain ⟨rfl, k, rfl⟩ := writeBlock_done hroom hfirst
    obtain ⟨hr, hpackets, hheard⟩ := ih hrest
    rw [drop_block] at hpackets
    refine ⟨hr, ?_, hheard⟩
    rw [blocks_of_ne_nil (by omega) hne, List.map_cons, ← hpackets]
    rfl
  | case2 offset hend =>
    rw [writeBlocks, if_neg hend] at h
    obtain ⟨rfl, hr⟩ := h.done_eq
    have hnil : image.drop offset = [] := List.drop_eq_nil_of_le (by omega)
    rw [hnil, blocks_nil]
    exact ⟨Program.done.inj hr, rfl, rfl⟩

/-- An image is flashed exactly if the address has been answered, and then in blocks. -/
theorem loadFlashImage_done {address : UInt32} {image : Bytes}
    (h : Trace (loadFlashImage address image) t (.done r)) :
    (r = true ↔ Answers ReqFlashSetAddress t) ∧
      packets t = packet ReqFlashSetAddress (LittleEndian.toBytes 4 address.toNat) ::
        if r then (blocks 16384 image).map (packet ReqFlashWriteBlock) else [] := by
  obtain ⟨setting, ok, writing, rfl, hsetting, hwriting⟩ := Trace.bind_done h
  rw [bootloaderCommand_eq, if_neg (by simp [capacity, ReqFlashSetAddress, SetPortConf]),
    if_pos (by decide)] at hsetting
  obtain ⟨k, replying, rfl, hreplying⟩ := send_done hsetting
  obtain ⟨hpackets, hok⟩ := recvReply_done hreplying
  cases ok with
  | false =>
    obtain ⟨rfl, hr⟩ := hwriting.done_eq
    obtain rfl := Program.done.inj hr
    rw [List.append_nil]
    exact ⟨hok, congrArg (_ :: ·) hpackets⟩
  | true =>
    obtain ⟨rfl, hblocks, hheard⟩ := writeBlocks_done hwriting
    have hheard : heard (⟨.send .packet
        (packet ReqFlashSetAddress (LittleEndian.toBytes 4 address.toNat)), k⟩ ::
          replying ++ writing) = heard replying := by
      rw [heard_append, heard_send, hheard, List.append_nil]
    constructor
    · rw [Answers, hheard]
      exact hok
    · rw [packets_append, packets_send, hpackets, hblocks]
      rfl

end
/-- A call of another object, neither a copy past the end of a buffer nor a loop that runs on. -/
def BootCall.Proper (c : BootCall) : Prop := c ≠ overrun ∧ c ≠ running

section
variable {P : ∀ α : Type, Boot α → Prop} {answers : Event BootCall.Ret → Prop}
    {allowed : BootCall → Prop}
  {fuel : ℕ} (hP : Composes answers allowed P)
  (hproper : ∀ c : BootCall, c.Proper → c.handed = none → allowed c)
  (hsend : ∀ part data, part ≠ .image → P Unit (send part data))
include hP

/-- A step after which the boot goes on if it has succeeded. -/
theorem composes_unless {p q : Boot Bool} (hp : P Bool p) (hq : P Bool q) :
    P Bool (p >>= fun ok => if (!ok) = true then pure false else q) := by
  apply hP.bind hp
  intro ok
  split_ifs
  · exact hP.done false
  · exact hq

include hproper

theorem composes_recv (size : ℕ) : P Bytes (recv size) :=
  hP.call (hproper _ ⟨nofun, nofun⟩ rfl) fun data _ => hP.done data.val

theorem composes_recvAcks (n : ℕ) : P Bool (recvAcks n) := by
  induction n with
  | zero => exact hP.done true
  | succ n ih =>
    apply hP.bind (composes_recv hP hproper 1)
    intro ack
    split_ifs
    · exact hP.done false
    · exact ih

theorem composes_expectAck (data : Bytes) : P Bool (expectAck data) := by
  apply hP.bind (composes_recv hP hproper data.length)
  intro buf
  split_ifs <;> exact hP.done _

theorem composes_recvReply (cmd : UInt16) (size : ℕ) : P Bool (recvReply cmd size) := by
  apply hP.bind (composes_recv hP hproper _)
  intro reply
  split_ifs
  · exact hP.done false
  · exact hP.done false
  · apply hP.bind (composes_recv hP hproper _)
    intro reply_buf
    split_ifs <;> exact hP.done _

include hsend

theorem composes_sendPSI (himage : ∀ image, answers ⟨.getFirmware .PSI, some image⟩ →
    P Unit (sendImage id image fuel 0)) : P Bool (sendPSI fuel) := by
  refine hP.call (hproper _ ⟨nofun, nofun⟩ rfl) fun image hanswer => ?_
  cases image with
  | none => exact hP.done false
  | some image =>
    apply hP.bind (hsend .greeting _ nofun)
    intro _
    apply hP.bind (composes_recv hP hproper 1)
    intro ack
    split_ifs
    · exact hP.done false
    · apply hP.bind (composes_recv hP hproper 1)
      intro chip
      split_ifs
      · exact hP.done false
      · apply hP.bind (hsend .psiHeader _ nofun)
        intro _
        apply hP.bind (himage image hanswer)
        intro _
        apply hP.bind (hsend .crc _ nofun)
        intro _
        apply composes_unless hP (composes_recvAcks hP hproper 22)
        apply composes_unless hP (composes_expectAck hP hproper _)
        apply composes_unless hP (composes_expectAck hP hproper _)
        apply composes_unless hP (composes_expectAck hP hproper _)
        exact hP.done true

theorem composes_sendEBL (himage : ∀ image, answers ⟨.getFirmware .EBL, some image⟩ →
    P Unit (sendImage (min · 32768) image fuel 0)) : P Bool (sendEBL fuel) := by
  refine hP.call (hproper _ ⟨nofun, nofun⟩ rfl) fun image hanswer => ?_
  cases image with
  | none => exact hP.done false
  | some image =>
    apply hP.bind (hsend .eblLength _ nofun)
    intro _
    apply composes_unless hP (composes_expectAck hP hproper _)
    apply hP.bind (himage image hanswer)
    intro _
    apply hP.bind (hsend .crc _ nofun)
    intro _
    apply composes_unless hP (composes_expectAck hP hproper _)
    exact hP.done true

theorem composes_bootloaderCommand {cmd : UInt16} {data : Bytes}
    (hroom : data.length ≤ capacity cmd ∨ allowed .overrun) :
    P Bool (bootloaderCommand cmd data) := by
  rw [bootloaderCommand_eq]
  split_ifs with hlong hreply
  · exact hP.call (hroom.resolve_left (not_le.mpr hlong)) fun r => r.elim
  · apply hP.bind (hsend .packet _ nofun)
    intro _
    exact composes_recvReply hP hproper _ _
  · apply hP.bind (hsend .packet _ nofun)
    intro _
    exact hP.done true

theorem composes_readBootInfo : P Bool readBootInfo := by
  apply hP.bind (composes_recv hP hproper 76)
  intro info
  by_cases hlength : info.length = 76
  · rw [if_neg (not_not.mpr hlength)]
    refine composes_bootloaderCommand hP hproper hsend (.inl ?_)
    have hcapacity : capacity SetPortConf = 0x800 := rfl
    omega
  · rw [if_pos hlength]
    exact hP.done false

theorem composes_writeBlocks (image : Bytes) (offset : ℕ) : P Bool (writeBlocks image offset) := by
  induction offset using writeBlocks.induct image with
  | case1 offset hlt chunk =>
    rename_i ih
    rw [writeBlocks, if_pos hlt]
    refine composes_unless hP (composes_bootloaderCommand hP hproper hsend (.inl ?_)) ih
    have hcapacity : capacity ReqFlashWriteBlock = 0x4000 := rfl
    rw [List.length_take, hcapacity]
    omega
  | case2 offset hend =>
    rw [writeBlocks, if_neg hend]
    exact hP.done true

theorem composes_loadFlashImage (address : UInt32) (image : Bytes) :
    P Bool (loadFlashImage address image) := by
  refine composes_unless hP (composes_bootloaderCommand hP hproper hsend (.inl ?_))
    (composes_writeBlocks hP hproper hsend image 0)
  rw [LittleEndian.toBytes_length]
  decide

theorem composes_sendSecureImage
    (hsecure : ∀ image, answers ⟨.getFirmware .SecureImage, some image⟩ →
    image.length ≤ capacity ReqSecStart ∨ allowed .overrun) : P Bool sendSecureImage := by
  refine hP.call (hproper _ ⟨nofun, nofun⟩ rfl) fun secure hanswer => ?_
  cases secure with
  | none => exact hP.done false
  | some secure =>
    refine hP.call (hproper _ ⟨nofun, nofun⟩ rfl) fun firmware _ => ?_
    cases firmware with
    | none => exact hP.done false
    | some firmware =>
      refine hP.call (hproper _ ⟨nofun, nofun⟩ rfl) fun read _ => ?_
      change P _ (ite _ _ _)
      split_ifs
      · exact hP.done false
      · apply composes_unless hP
          (composes_bootloaderCommand hP hproper hsend (hsecure secure hanswer))
        apply composes_unless hP (composes_loadFlashImage hP hproper hsend _ _)
        apply composes_unless hP (composes_loadFlashImage hP hproper hsend _ _)
        refine composes_bootloaderCommand hP hproper hsend (.inl ?_)
        rw [LittleEndian.toBytes_length]
        decide

theorem composes_boot (hPSI : P Bool (sendPSI fuel)) (hEBL : P Bool (sendEBL fuel))
    (hsecure : ∀ image, answers ⟨.getFirmware .SecureImage, some image⟩ →
      image.length ≤ capacity ReqSecStart ∨ allowed .overrun) : P Bool (boot fuel) := by
  refine hP.call (hproper _ ⟨nofun, nofun⟩ rfl) fun _ _ => ?_
  refine hP.call (hproper _ ⟨nofun, nofun⟩ rfl) fun connected _ => ?_
  cases connected with
  | false => exact hP.done false
  | true =>
    apply composes_unless hP hPSI
    apply composes_unless hP hEBL
    apply composes_unless hP (composes_readBootInfo hP hproper hsend)
    apply composes_unless hP (composes_sendSecureImage hP hproper hsend hsecure)
    apply composes_unless hP
    · refine composes_bootloaderCommand hP hproper hsend (.inl ?_)
      rw [LittleEndian.toBytes_length]
      decide
    · refine hP.call (hproper _ ⟨nofun, nofun⟩ rfl) fun _ _ => ?_
      refine hP.call (hproper _ ⟨nofun, nofun⟩ rfl) fun back _ => ?_
      cases back <;> exact hP.done _

end

theorem keeps_send {answers : Event BootCall.Ret → Prop} {allowed : BootCall → Prop}
    (hallowed : ∀ c : BootCall, c.Proper → allowed c) (part : Part) (data : Bytes) :
    (send part data).Keeps answers allowed :=
  keeps_call.mpr ⟨hallowed _ ⟨nofun, nofun⟩, fun _ _ => keeps_done _⟩

/-- The images are what `getFirmware` returns. -/
def FromFirmware : Event BootCall.Ret → Prop
  | ⟨.getFirmware type, some image⟩ => ∃ fs : AndroidFileSystem, (fs.getFirmware type).Returns image
  | _ => True

theorem getFirmware_length {fs : AndroidFileSystem} {type : FirmwareType} {image : Bytes}
    (h : (fs.getFirmware type).Returns image) : image.length = type.location.2 := by
  obtain ⟨fd, -, h⟩ := returns_bind.mp h
  obtain ⟨data, -, h⟩ := returns_bind.mp h
  split_ifs at h with hlength
  · obtain ⟨r, -⟩ := h
    exact r.elim
  · obtain ⟨_, -, h⟩ := returns_bind.mp h
    obtain rfl := returns_done.mp h
    exact not_not.mp hlength

theorem sendImage_not_overrun {chunk : ℕ → ℕ} {image : Bytes} (fuel offset : ℕ) :
    (sendImage chunk image fuel offset).All (· ≠ .overrun) := by
  induction fuel generalizing offset with
  | zero =>
    unfold sendImage
    split_ifs
    · exact ⟨nofun, fun r => r.elim⟩
    · trivial
  | succ fuel ih =>
    unfold sendImage
    split_ifs
    · exact ⟨nofun, fun bytes => ih _⟩
    · trivial

/-- No command of the boot copies past the end of its packet. -/
theorem boot_not_overrun (fuel : ℕ) : (boot fuel).Keeps FromFirmware (· ≠ .overrun) := by
  have hproper : ∀ c : BootCall, c.Proper → c.handed = none → c ≠ .overrun := fun c h _ => h.1
  have hsend : ∀ part data, part ≠ Part.image →
    (send part data).Keeps FromFirmware (· ≠ .overrun) :=
    fun part data _ => keeps_send (fun c h => h.1) part data
  apply composes_boot composes_keeps hproper hsend
  · exact composes_sendPSI composes_keeps hproper hsend fun _ _ =>
      (sendImage_not_overrun fuel 0).keeps
  · exact composes_sendEBL composes_keeps hproper hsend fun _ _ =>
      (sendImage_not_overrun fuel 0).keeps
  · rintro image ⟨fs, hfs⟩
    left
    rw [getFirmware_length hfs]
    decide

/-- What an image is flashed with, and that nothing is copied past the end of a packet. -/
theorem flash_packets :
    (∀ address image t r, Trace (loadFlashImage address image) t (.done r) →
      Answers ReqFlashSetAddress t → r = true ∧ ∃ set blocks, packets t = set :: blocks ∧
        (∀ buf ∈ set :: blocks, WellFormed buf) ∧
        (bootloader_cmd_t.ofBytes set).cmd = ReqFlashSetAddress ∧
        payload set = LittleEndian.toBytes 4 address.toNat ∧
        (∀ buf ∈ blocks, (bootloader_cmd_t.ofBytes buf).cmd = ReqFlashWriteBlock ∧
          1 ≤ (payload buf).length ∧ (payload buf).length ≤ 16384) ∧
        (∀ buf ∈ blocks.dropLast, (payload buf).length = 16384) ∧
        (blocks.map payload).flatten = image) ∧
    (∀ address image t next, ¬ Trace (loadFlashImage address image) t (.call .overrun next)) ∧
    ∀ fuel t next, (∀ e ∈ t, FromFirmware e) → ¬ Trace (boot fuel) t (.call .overrun next) := by
  refine ⟨?_, ?_, ?_⟩
  · intro address image t r ht hanswers
    obtain ⟨hr, hpackets⟩ := loadFlashImage_done ht
    obtain rfl := hr.mpr hanswers
    have haddress : (LittleEndian.toBytes 4 address.toNat).length ≤
      capacity ReqFlashSetAddress := by
      rw [LittleEndian.toBytes_length]
      decide
    have hroom : ∀ block ∈ blocks 16384 image, block.length ≤ capacity ReqFlashWriteBlock :=
      fun block hblock => (length_of_mem_blocks hblock).2
    have hpayload : ∀ block ∈ blocks 16384 image,
        payload (packet ReqFlashWriteBlock block) = block :=
      fun block hblock => packet_payload (hroom block hblock)
    refine ⟨rfl, _, _, hpackets, ?_, ?_, packet_payload haddress, ?_, ?_, ?_⟩
    · rw [if_pos rfl, List.forall_mem_cons, List.forall_mem_map]
      exact ⟨packet_wellFormed haddress (by decide), fun block hblock =>
        packet_wellFormed (hroom block hblock) (by decide)⟩
    · rw [packet_header]
    · rw [if_pos rfl, List.forall_mem_map]
      intro block hblock
      rw [hpayload block hblock, packet_header]
      exact ⟨rfl, length_of_mem_blocks hblock⟩
    · rw [if_pos rfl, ← List.map_dropLast, List.forall_mem_map]
      intro block hblock
      rw [hpayload block (List.mem_of_mem_dropLast hblock)]
      exact length_of_mem_dropLast hblock
    · rw [if_pos rfl, List.map_map]
      have hmap : (blocks 16384 image).map (payload ∘ packet ReqFlashWriteBlock) =
        blocks 16384 image := by
        apply (List.map_congr_left hpayload).trans
        exact List.map_id _
      rw [hmap, flatten_blocks (by omega)]
  · intro address image t next ht
    have hkeeps : (loadFlashImage address image).Keeps (fun _ => True) (· ≠ .overrun) :=
      composes_loadFlashImage composes_keeps (fun c h _ => h.1)
        (fun part data _ => keeps_send (fun c h => h.1) part data) address image
    exact hkeeps.not_asked ht (fun _ _ => trivial) rfl
  · intro fuel t next hanswers ht
    exact (boot_not_overrun fuel).not_asked ht hanswers rfl

/-- Where the modem answers, all of an image is written. -/
theorem writeBlocks_runs (image : Bytes) (offset : ℕ) :
    ∃ t, Trace (writeBlocks image offset) t (.done true) ∧ heard t = [] := by
  induction offset using writeBlocks.induct image with
  | case1 offset hlt chunk =>
    rename_i ih
    obtain ⟨t, ht, hheard⟩ := ih
    have hcapacity : capacity ReqFlashWriteBlock = 0x4000 := rfl
    have hroom : ((image.drop offset).take chunk).length ≤ capacity ReqFlashWriteBlock := by
      rw [List.length_take, hcapacity]
      omega
    rw [writeBlocks, if_pos hlt]
    let buf := packet ReqFlashWriteBlock ((image.drop offset).take chunk)
    refine ⟨⟨.send .packet buf, buf.length⟩ :: t, ?_, hheard⟩
    dsimp only
    rw [bootloaderCommand_eq, if_neg (not_lt.mpr hroom), if_neg (by simp)]
    exact .cons ht
  | case2 offset hend =>
    rw [writeBlocks, if_neg hend]
    exact ⟨[], .nil _, rfl⟩

theorem recvReply_runs {cmd : UInt16}
    {reply : { data : Bytes // data.length ≤ bootloader_cmd_t.size }}
    {data : { data : Bytes // data.length ≤ capacity cmd }}
    (hreply : reply.val.length = bootloader_cmd_t.size)
    (hcmd : (bootloader_cmd_t.ofBytes reply.val).cmd = cmd)
    (hdata : data.val.length = capacity cmd) :
    Trace (recvReply cmd (capacity cmd)) [⟨.recv _, reply⟩, ⟨.recv _, data⟩] (.done true) := by
  apply Trace.cons
  change Trace (ite _ _ _) _ _
  rw [if_neg (not_not.mpr hreply), if_neg (not_not.mpr hcmd)]
  apply Trace.cons
  change Trace (ite _ _ _) _ _
  rw [if_neg (not_not.mpr hdata)]
  exact .nil _

theorem bootloaderCommand_runs {cmd : UInt16} {data : Bytes} (hroom : data.length ≤ capacity cmd)
    (hreplied : cmd ≠ ReqForceHwReset ∧ cmd ≠ ReqFlashWriteBlock) :
    ∃ t, Trace (bootloaderCommand cmd data) t (.done true) ∧ Answers cmd t := by
  let buf := packet cmd data
  let header : bootloader_cmd_t := ⟨0, cmd, 0⟩
  let reply : { data : Bytes // data.length ≤ bootloader_cmd_t.size } :=
    ⟨header.toBytes, (bootloader_cmd_t.toBytes_length _).le⟩
  let echo : { data : Bytes // data.length ≤ capacity cmd } :=
    ⟨List.replicate (capacity cmd) 0, List.length_replicate.le⟩
  have hheader := bootloader_cmd_t.ofBytes_toBytes_append header []
  rw [List.append_nil] at hheader
  have hcmd : (bootloader_cmd_t.ofBytes reply.val).cmd = cmd :=
    congrArg bootloader_cmd_t.cmd hheader
  have hreply : reply.val.length = bootloader_cmd_t.size := bootloader_cmd_t.toBytes_length _
  have hecho : echo.val.length = capacity cmd := List.length_replicate
  rw [bootloaderCommand_eq, if_neg (not_lt.mpr hroom), if_pos hreplied]
  exact ⟨⟨.send .packet buf, buf.length⟩ :: [⟨.recv _, reply⟩, ⟨.recv _, echo⟩],
    .cons (recvReply_runs hreply hcmd hecho), reply.val, echo.val, rfl, hreply, hcmd, hecho⟩

theorem loadFlashImage_runs (address : UInt32) (image : Bytes) :
    ∃ t, Trace (loadFlashImage address image) t (.done true) ∧ Answers ReqFlashSetAddress t := by
  obtain ⟨t, ht, hheard⟩ := writeBlocks_runs image 0
  obtain ⟨t', ht', reply, data, hanswers⟩ := @bootloaderCommand_runs ReqFlashSetAddress
    (LittleEndian.toBytes 4 address.toNat)
    (by simp [capacity, ReqFlashSetAddress, SetPortConf]) (by decide)
  refine ⟨_, (ht'.bind _).append ht, reply, data, ?_⟩
  rw [heard_append, hheard, List.append_nil]
  exact hanswers

/-- An image of 20000 bytes is written in two blocks. -/
theorem two_blocks_flashed :
    let image : Bytes := List.replicate 20000 7
    ∃ t set buf buf', Trace (loadFlashImage 0x60300000 image) t (.done true) ∧
      packets t = [set, buf, buf'] ∧ (payload buf).length = 16384 ∧ (payload buf').length = 3616 ∧
      payload buf ++ payload buf' = image := by
  intro image
  obtain ⟨t, ht, hanswers⟩ := loadFlashImage_runs 0x60300000 image
  obtain ⟨-, set, blocks, hpackets, -, -, -, hblocks, hfull, hflatten⟩ :=
    flash_packets.1 _ _ _ _ ht hanswers
  have hlength : ((blocks.map payload).map List.length).sum = 20000 := by
    rw [← List.length_flatten, hflatten]
    exact List.length_replicate
  have hle : ∀ buf ∈ blocks, (payload buf).length ≤ 16384 := fun buf hbuf => (hblocks buf hbuf).2.2
  rcases blocks with _ | ⟨buf, _ | ⟨buf', _ | ⟨buf'', rest⟩⟩⟩
  · simp at hlength
  · have hone := hle buf List.mem_cons_self
    simp at hlength
    omega
  · have hfirst := hfull buf (by simp)
    refine ⟨t, set, buf, buf', ht, hpackets, hfirst, ?_, by simpa using hflatten⟩
    simp at hlength
    omega
  · have hfirst := hfull buf (by simp)
    have hsecond := hfull buf' (by simp)
    simp at hlength
    omega

end SamsungModem
end FreeRil
