import FreeRil.DataStream
import FreeRil.Library.Framing

/-! The packed headers of the two channels, as `reinterpret_cast` reads them off a buffer. -/
namespace FreeRil

/-- `Message::ResponseType`. -/
def IPC_CMD_INDI : UInt8 := 1
def IPC_CMD_RESP : UInt8 := 2
def IPC_CMD_NOTI : UInt8 := 3

/-- The range of `size_t`. -/
def SIZE_RANGE : ℕ := 2 ^ 32

/-- `Message::Header`, of the IPC channel. -/
structure Header where
  length : UInt16
  mseq : UInt8
  aseq : UInt8
  mainCommand : UInt8
  subCommand : UInt8
  responseType : UInt8
  deriving DecidableEq, Repr

/-- `Message::RFSHeader`. -/
structure RFSHeader where
  length : UInt32
  type : UInt8
  sequence : UInt8
  deriving DecidableEq, Repr

namespace Header

/-- `sizeof(Message::Header)`. -/
def size : ℕ := 7

def ofBytes (data : Bytes) : Header where
  length := UInt16.ofNat (LittleEndian.value (data.take 2))
  mseq := data.getD 2 0
  aseq := data.getD 3 0
  mainCommand := data.getD 4 0
  subCommand := data.getD 5 0
  responseType := data.getD 6 0

def toBytes (h : Header) : Bytes :=
  LittleEndian.toBytes 2 h.length.toNat ++
    [h.mseq, h.aseq, h.mainCommand, h.subCommand, h.responseType]

theorem toBytes_length (h : Header) : h.toBytes.length = size := by simp [toBytes, size]

/-- The header of a frame is read back from its first bytes. -/
theorem ofBytes_toBytes_append (h : Header) (data : Bytes) : ofBytes (h.toBytes ++ data) = h := by
  have hlength : UInt16.ofNat (LittleEndian.value (LittleEndian.toBytes 2 h.length.toNat)) =
      h.length := by
    rw [LittleEndian.value_toBytes]
    exact UInt16.toNat_inj.mp (by simp)
  simp only [ofBytes, toBytes, List.append_assoc]
  rw [List.take_left' (LittleEndian.toBytes_length 2 _), hlength]
  rfl

/-- `header.length - sizeof(Message::Header)`, an unsigned difference. -/
def payloadLength (h : Header) : ℕ := (h.length.toNat + SIZE_RANGE - size) % SIZE_RANGE

theorem payloadLength_eq {h : Header} (hl : size ≤ h.length.toNat) :
    h.payloadLength = h.length.toNat - size := by
  have hlt := h.length.toNat_lt
  simp only [payloadLength, SIZE_RANGE, size] at hl ⊢
  omega

end Header

namespace RFSHeader

/-- `sizeof(Message::RFSHeader)`. -/
def size : ℕ := 6

def ofBytes (data : Bytes) : RFSHeader where
  length := UInt32.ofNat (LittleEndian.value (data.take 4))
  type := data.getD 4 0
  sequence := data.getD 5 0

def toBytes (h : RFSHeader) : Bytes :=
  LittleEndian.toBytes 4 h.length.toNat ++ [h.type, h.sequence]

theorem toBytes_length (h : RFSHeader) : h.toBytes.length = size := by simp [toBytes, size]

theorem ofBytes_toBytes_append (h : RFSHeader) (data : Bytes) : ofBytes (h.toBytes ++ data) = h := by
  have hlength : UInt32.ofNat (LittleEndian.value (LittleEndian.toBytes 4 h.length.toNat)) =
      h.length := by
    rw [LittleEndian.value_toBytes]
    exact UInt32.toNat_inj.mp (by simp)
  simp only [ofBytes, toBytes, List.append_assoc]
  rw [List.take_left' (LittleEndian.toBytes_length 4 _), hlength]
  rfl

/-- `header.length - sizeof(Message::RFSHeader)`, an unsigned difference. -/
def payloadLength (h : RFSHeader) : ℕ := (h.length.toNat + SIZE_RANGE - size) % SIZE_RANGE

theorem payloadLength_eq {h : RFSHeader} (hl : size ≤ h.length.toNat) :
    h.payloadLength = h.length.toNat - size := by
  have hlt : h.length.toNat < 2 ^ 32 := h.length.toNat_lt
  simp only [payloadLength, SIZE_RANGE, size] at hl ⊢
  omega

end RFSHeader

/-- The two channels whose handlers inherit `SocketHandler`. -/
inductive Channel
  | IPC
  | RFS
  deriving DecidableEq, Repr

namespace Channel

theorem take_append_header {b : Bytes} {n m : ℕ} (h : n ≤ b.length) (hm : m ≤ n) (c : Bytes) :
    (b ++ c).take m = b.take m := List.take_append_of_le_length (hm.trans h)

/-- `headerSize` and `messageSize` of the handler of a channel. -/
def format : Channel → Framing.Format UInt8
  | IPC =>
    { headerSize := Header.size
      messageSize := fun data => (Header.ofBytes data).length.toNat
      headerSize_pos := by decide
      messageSize_append := fun b c h => by
        simp only [Header.ofBytes, take_append_header h (show 2 ≤ Header.size by decide)] }
  | RFS =>
    { headerSize := RFSHeader.size
      messageSize := fun data => (RFSHeader.ofBytes data).length.toNat
      headerSize_pos := by decide
      messageSize_append := fun b c h => by
        simp only [RFSHeader.ofBytes, take_append_header h (show 4 ≤ RFSHeader.size by decide)] }

/-- The payload length `handleMessage` computes from the header in front of the data. -/
def payloadLength : Channel → Bytes → ℕ
  | IPC, data => (Header.ofBytes data).payloadLength
  | RFS, data => (RFSHeader.ofBytes data).payloadLength

/-- The payload lies inside a frame exactly when its length field covers the header. -/
theorem payload_inside_iff (c : Channel) (data : Bytes) :
    c.format.headerSize + c.payloadLength data = c.format.messageSize data ↔
      c.format.headerSize ≤ c.format.messageSize data := by
  constructor
  · intro h; omega
  · intro h
    cases c with
    | IPC =>
      change Header.size ≤ (Header.ofBytes data).length.toNat at h
      change Header.size + (Header.ofBytes data).payloadLength = (Header.ofBytes data).length.toNat
      rw [Header.payloadLength_eq h]
      omega
    | RFS =>
      change RFSHeader.size ≤ (RFSHeader.ofBytes data).length.toNat at h
      change RFSHeader.size + (RFSHeader.ofBytes data).payloadLength =
        (RFSHeader.ofBytes data).length.toNat
      rw [RFSHeader.payloadLength_eq h]
      omega

end Channel
end FreeRil
