import FreeRil.AndroidFileSystem.Serving

/-! Runs of calls on the NV data: an instance works on a byte array of fixed size, and the next
start loads that array unless its digest was left behind. -/
namespace FreeRil.AndroidFileSystem
open Disk

/-- A call on the NV data. -/
inductive NVCall
  | readNVData (offset : Int32) (data : Bytes)
  | writeNVData (offset : Int32) (data : Bytes)
  | backupNVData (full : Bool)

namespace NVCall

/-- The call on an instance, without what it returns. -/
def perform (md5 : Bytes → Vector UInt8 16) (fs : AndroidFileSystem) :
    NVCall → Sys AndroidFileSystem
  | readNVData offset data => do
    let _ ← fs.readNVData offset data
    return fs
  | writeNVData offset data => do
    let (fs, _) ← fs.writeNVData md5 offset data
    return fs
  | backupNVData full => fs.backupNVData md5 full

end NVCall

/-- The constructor, and calls one after the other. -/
def session (md5 : Bytes → Vector UInt8 16) (firmware efs : Bytes) (calls : List NVCall) :
    Sys AndroidFileSystem := do
  calls.foldlM (NVCall.perform md5) (← construct md5 firmware efs)

namespace NVCall

/-- A write that is not refused. -/
def Writes : NVCall → Prop
  | writeNVData offset data => InRange offset data.length
  | _ => False

/-- What a call makes of the array. -/
def effect (content : Bytes) : NVCall → Bytes
  | writeNVData offset data =>
    if InRange offset data.length then overwrite content offset.toInt.toNat data else content
  | _ => content

end NVCall

variable {md5 : Bytes → Vector UInt8 16} {F : Prop} {d : Disk} {fs : AndroidFileSystem}
  {efs content : Bytes}

/-- A call does to the array what it should. Its digest is the right one afterwards if it was so
before, or the call has brought it up to date. -/
theorem Serves.wp_perform (h : Serves d fs efs content) {call : NVCall}
    (hF : ¬ Digested md5 d fs efs content → F) :
    Disk.wp F (fun _ => True)
      (fun fs' d' => Serves d' fs' efs (call.effect content) ∧
        (Digested md5 d' fs' efs (call.effect content) ↔
          Digested md5 d fs efs content ∨ call.Writes))
      (call.perform md5 fs) d := by
  cases call with
  | readNVData offset data =>
    refine wp_seq (h.wp_readNVData fun _ => wp_return trivial ⟨h, ?_⟩)
    simp [NVCall.effect, NVCall.Writes]
  | writeNVData offset data =>
    refine wp_seq (h.wp_writeNVData (fun hrange d₁ hserves₁ hdigest₁ => ?_) fun hrange errno _ => ?_)
    · refine wp_return trivial ?_
      rw [NVCall.effect, if_pos hrange]
      exact ⟨hserves₁, iff_of_true hdigest₁ (Or.inr hrange)⟩
    · refine wp_return trivial ?_
      rw [NVCall.effect, if_neg hrange]
      exact ⟨h, (or_iff_left hrange).symm⟩
  | backupNVData full =>
    cases henabled : fs.m_md5_enabled with
    | true =>
      refine h.wp_backupNVData_enabled henabled hF fun d₁ hserves₁ hdigest₁ => ⟨hserves₁, ?_⟩
      exact hdigest₁.trans (or_iff_left not_false).symm
    | false =>
      have hdigest : Digested md5 d fs efs content := by simp [Digested, henabled]
      refine h.wp_backupNVData_disabled henabled fun d₁ hserves₁ hdigest₁ => ?_
      refine hserves₁.wp_backupNVData_enabled rfl (absurd hdigest₁) fun d₂ hserves₂ hdigest₂ => ?_
      exact ⟨hserves₂, iff_of_true (hdigest₂.mpr hdigest₁) (Or.inl hdigest)⟩

/-- Calls one after the other. -/
theorem Serves.wp_calls (h : Serves d fs efs content) {calls : List NVCall}
    (hF : ¬ Digested md5 d fs efs content → F) :
    Disk.wp F (fun _ => True)
      (fun fs' d' => Serves d' fs' efs (calls.foldl NVCall.effect content) ∧
        (Digested md5 d' fs' efs (calls.foldl NVCall.effect content) ↔
          Digested md5 d fs efs content ∨ ∃ call ∈ calls, call.Writes))
      (calls.foldlM (NVCall.perform md5) fs) d := by
  induction calls generalizing d fs content with
  | nil => exact wp_return trivial ⟨h, by simp⟩
  | cons call calls ih =>
    refine wp_seq (Program.wp_mono (h.wp_perform hF) id (fun _ => id) fun fs₁ d₁ hnext => ?_)
    obtain ⟨hserves₁, hdigest₁⟩ := hnext
    refine Program.wp_mono (ih hserves₁ fun hmissed => hF fun hdigest => ?_) id (fun _ => id)
      fun fs₂ d₂ hlast => ?_
    · exact hmissed (hdigest₁.mpr (Or.inl hdigest))
    · obtain ⟨hserves₂, hdigest₂⟩ := hlast
      refine ⟨hserves₂, hdigest₂.trans ?_⟩
      rw [hdigest₁, List.exists_mem_cons_iff, or_assoc]

/-- A session ends with an instance whose digest is missed only if the constructor has missed it
and no write has made up for that. -/
theorem wp_session (md5 : Bytes → Vector UInt8 16) (firmware efs : Bytes)
    (files : Bytes → Option Bytes) (calls : List NVCall)
    (hdefault : recovered md5 files efs = none → F) (hmissed : DigestMissed md5 files efs → F) :
    Disk.wp F (fun _ => True)
      (fun fs d => ∃ content, Serves d fs efs content ∧ (Digested md5 d fs efs content ↔
        ¬ (DigestMissed md5 files efs ∧ ∀ call ∈ calls, ¬ call.Writes)))
      (session md5 firmware efs calls) (boot files) := by
  refine wp_seq (Program.wp_mono (wp_construct_serves hdefault) id (fun _ => id)
    fun fs d hstart => ?_)
  obtain ⟨content, hserves, hdigest⟩ := hstart
  change Digested md5 d fs efs content ↔ ¬ DigestMissed md5 files efs at hdigest
  refine Program.wp_mono (hserves.wp_calls fun hnot => hmissed ?_) id (fun _ => id)
    fun fs' d' hend => ?_
  · exact not_not.mp (mt hdigest.mpr hnot)
  · refine ⟨calls.foldl NVCall.effect content, hend.1, hend.2.trans ?_⟩
    rw [hdigest, not_and_or]
    push Not
    rfl

/-- The next start loads `nv_data.bin`, with what the instance serves, unless the constructor has
missed the digest and no write has made up for that. -/
theorem session_loads_iff (md5 : Bytes → Vector UInt8 16) (firmware efs : Bytes)
    (files : Bytes → Option Bytes) (calls : List NVCall) (d : Disk) (fs : AndroidFileSystem)
    (hexec : (session md5 firmware efs calls).exec kernel (boot files) = some (d, fs)) :
    (∃ content, d.openContent fs.m_nvdata = some content ∧ content.length = NVDATA_SIZE ∧
      Loads md5 d.files efs (efs ++ str "/nv_data.bin") NVDATA_SIZE content) ↔
        ¬ (DigestMissed md5 files efs ∧ ∀ call ∈ calls, ¬ call.Writes) := by
  obtain ⟨content, hserves, hdigest⟩ := Program.wp_exec
    (wp_session (F := True) md5 firmware efs files calls (fun _ => trivial) fun _ => trivial) hexec
  exact hserves.found_iff.trans hdigest

/-- Without a marker, the recovery from the secondary backup does not matter. -/
theorem unmarked_session_loads : ∃ d fs,
    (session (fun _ => Vector.replicate 16 0) (str "/fw") (str "/efs")
      [.writeNVData 4 [1, 2, 3], .backupNVData true]).exec kernel
        (boot (coreAlone (fun _ => Vector.replicate 16 0) (str "/efs") none)) = some (d, fs) ∧
    ((∃ content, d.openContent fs.m_nvdata = some content ∧ content.length = NVDATA_SIZE ∧
      Loads (fun _ => Vector.replicate 16 0) d.files (str "/efs") (str "/efs" ++ str "/nv_data.bin")
        NVDATA_SIZE content) ↔
      ¬ (DigestMissed (fun _ => Vector.replicate 16 0)
          (coreAlone (fun _ => Vector.replicate 16 0) (str "/efs") none) (str "/efs") ∧
        ∀ call ∈ [NVCall.writeNVData 4 [1, 2, 3], .backupNVData true], ¬ call.Writes)) := by
  have hdisabled : enabledIn (coreAlone (fun _ => Vector.replicate 16 0) (str "/efs") none)
      (str "/efs") = false := by
    rw [enabledIn, coreAlone_state]
  have hwp := wp_session (F := False) (fun _ => Vector.replicate 16 0) (str "/fw") (str "/efs")
    (coreAlone (fun _ => Vector.replicate 16 0) (str "/efs") none)
    [.writeNVData 4 [1, 2, 3], .backupNVData true] ?_ ?_
  · obtain ⟨d, fs, hexec, -⟩ := Program.wp_total hwp
    exact ⟨d, fs, hexec, session_loads_iff _ _ _ _ _ d fs hexec⟩
  · simp [recovered, coreAlone_accepted]
  · rintro ⟨henabled, -⟩
    rw [hdisabled] at henabled
    contradiction

/-- A digest that has been missed is not found by the next start, with no call in between. -/
theorem missed_rejected (firmware : Bytes) {files : Bytes → Option Bytes}
    (hmissed : DigestMissed md5 files efs) :
    ∃ d fs, (session md5 firmware efs []).exec kernel (boot files) = some (d, fs) ∧
      ¬ ∃ content, d.openContent fs.m_nvdata = some content ∧ content.length = NVDATA_SIZE ∧
        Loads md5 d.files efs (efs ++ str "/nv_data.bin") NVDATA_SIZE content := by
  have hrecovered : recovered md5 files efs ≠ none := by
    obtain ⟨-, hbin, hbak, core, hcore, -⟩ := hmissed
    simp [recovered, hbin, hbak, hcore]
  have hwp : Disk.wp False (fun _ => True)
      (fun fs d => ¬ ∃ content, d.openContent fs.m_nvdata = some content ∧
        content.length = NVDATA_SIZE ∧
          Loads md5 d.files efs (efs ++ str "/nv_data.bin") NVDATA_SIZE content)
      (session md5 firmware efs []) (boot files) := by
    refine wp_seq (Program.wp_mono (wp_construct_serves fun hnone => hrecovered hnone) id
      (fun _ => id) fun fs d hstart => wp_return trivial ?_)
    obtain ⟨content, hserves, hdigest⟩ := hstart
    rw [hserves.found_iff, hdigest]
    exact not_not.mpr hmissed
  exact Program.wp_total hwp

/-- The only file accepted is the secondary backup, and `nv_data.bin` has no digest. -/
theorem coreAlone_missed (md5 : Bytes → Vector UInt8 16) (efs : Bytes) :
    DigestMissed md5 (coreAlone md5 efs (some (str "1"))) efs := by
  refine ⟨?_, ?_, ?_, _, coreAlone_accepted _ _ _ _, ?_⟩
  · rw [enabledIn, coreAlone_state]
    decide
  · rw [accepted, coreAlone_missing _ _ _ (by decide) (by decide) (by decide)]
    rfl
  · rw [accepted, coreAlone_missing _ _ _ (by decide) (by decide) (by decide)]
    rfl
  · rw [coreAlone_missing _ _ _ (by decide) (by decide) (by decide)]
    exact Option.some_ne_none _ |>.symm

/-- The digest of what is recovered from the secondary backup is put in another file than the one
that is checked, and the next start rejects `nv_data.bin`. -/
theorem core_recovery_rejected : ∃ d fs,
    (session (fun _ => Vector.replicate 16 0) (str "/fw") (str "/efs") []).exec kernel
      (boot (coreAlone (fun _ => Vector.replicate 16 0) (str "/efs") (some (str "1")))) =
        some (d, fs) ∧
    ¬ ∃ content, d.openContent fs.m_nvdata = some content ∧ content.length = NVDATA_SIZE ∧
      Loads (fun _ => Vector.replicate 16 0) d.files (str "/efs") (str "/efs" ++ str "/nv_data.bin")
        NVDATA_SIZE content :=
  missed_rejected _ (coreAlone_missed _ _)

end FreeRil.AndroidFileSystem
