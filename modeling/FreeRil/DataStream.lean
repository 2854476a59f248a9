import FreeRil.Library.Reader
import FreeRil.Library.LittleEndian
import FreeRil.Bytes

/-! The byte stream messages are read from and written to.
The exception of `throwException` is `none`. The call of `setjmp` it goes back to is in
`caughtExceptionHere`, which has returned by then, and on whose frame the message has made its later
calls: control comes out behind the last of these, which is left where it was. -/
namespace FreeRil

inductive Mode
  | Read
  | Write
  deriving DecidableEq, Repr

/-- `m_ptr` is an iterator of `m_buffer`, so it stands at most at its end. -/
structure DataStream where
  m_buffer : Bytes
  m_mode : Mode
  m_ptr : ℕ
  ptr_le : m_ptr ≤ m_buffer.length

namespace DataStream

/-- The constructor leaves the stream at the beginning of the buffer. -/
def init (buffer : Bytes) (mode : Mode) : DataStream := ⟨buffer, mode, 0, Nat.zero_le _⟩

def atEnd (s : DataStream) : Bool := s.m_ptr = s.m_buffer.length

/-- `setjmp` returns 0 where it is called. Its other returns do not come out of this function. -/
def caughtExceptionHere (_ : DataStream) : Bool := false

def remainingBytes (s : DataStream) : ℕ := s.m_buffer.length - s.m_ptr

def readRawData (size : ℕ) (s : DataStream) :
    Option ({ data : Bytes // data.length = size } × DataStream) :=
  if s.m_mode = .Write then none
  else if h : s.remainingBytes < size then none
  else
    have hsize : size ≤ s.m_buffer.length - s.m_ptr := not_lt.mp h
    have hptr := s.ptr_le
    some (⟨(s.m_buffer.drop s.m_ptr).take size, by simpa using hsize⟩,
      { s with m_ptr := s.m_ptr + size, ptr_le := by omega })

/-- `readRawData` into `old`, which stays as it is where the exception is thrown; with it, whether control
goes on behind the call. -/
def readInto {α : Type} (old : α) (size : ℕ) (value : { data : Bytes // data.length = size } → α)
    (s : DataStream) : α × DataStream × Bool :=
  match s.readRawData size with
  | some (data, s) => (value data, s, true)
  | none => (old, s, false)

def writeRawData (data : Bytes) (s : DataStream) : Option DataStream :=
  if s.m_mode = .Read then none
  else
    let buffer := s.m_buffer.take s.m_ptr ++ data ++ s.m_buffer.drop s.m_ptr
    some ⟨buffer, s.m_mode, buffer.length, le_rfl⟩

/-- The stream of a reader between the bytes it has consumed and those still to come. -/
def reading (before input : Bytes) : DataStream :=
  ⟨before ++ input, .Read, before.length, by simp⟩

/-- The stream of a writer: everything written so far lies before the pointer. -/
def written (data : Bytes) : DataStream := ⟨data, .Write, data.length, le_rfl⟩

@[simp] theorem remainingBytes_reading (before input : Bytes) :
    (reading before input).remainingBytes = input.length := by simp [reading, remainingBytes]

theorem atEnd_iff (s : DataStream) : s.atEnd = true ↔ s.remainingBytes = 0 := by
  have hptr := s.ptr_le
  simp only [atEnd, remainingBytes, decide_eq_true_eq]
  omega

/-- A raw read takes the next bytes, and fails when there are too few of them. -/
theorem readRawData_reads (size : ℕ) :
    Reader.Reads reading (readRawData size) Subtype.val (fun _ _ => True) := by
  rintro before input ⟨data, rfl⟩ s
  constructor
  · intro h
    have hmode : (reading before input).m_mode ≠ .Write := by simp [reading]
    simp only [readRawData, if_neg hmode] at h
    split at h
    · contradiction
    · rename_i hsize
      simp only [remainingBytes_reading, not_lt] at hsize
      obtain ⟨hdata, rfl⟩ := by simpa using h
      have hdata : input.take data.length = data := by simpa [reading] using hdata
      refine ⟨input.drop data.length, ?_, ?_, trivial⟩
      · exact (hdata ▸ List.take_append_drop data.length input).symm
      · have hin : before ++ input = before ++ data ++ input.drop data.length := by
          conv_lhs => rw [← List.take_append_drop data.length input, hdata, ← List.append_assoc]
        simp [reading, ← hin]
  · rintro ⟨rest, rfl, rfl, -⟩
    simp [readRawData, reading, remainingBytes]

/-- Writing never raises the exception: it appends. -/
@[simp] theorem writeRawData_written (front data : Bytes) :
    (written front).writeRawData data = some (written (front ++ data)) := by
  simp [writeRawData, written]

end DataStream
end FreeRil
