import FreeRil.Message
import FreeRil.SamsungModem.Packets

/-! What reaches the modem where the socket takes a part of what it is handed. -/
namespace FreeRil
open AndroidFileSystem Program

namespace SamsungModem

def BootCall.isSend : BootCall → Bool
  | send .. => true
  | _ => false

/-- A socket takes at least one byte of what it is handed; a vector has a size of 32 bits. -/
def Accepts : Event BootCall.Ret → Prop
  | ⟨.send _ data, k⟩ => k ≤ data.length ∧ (data ≠ [] → 1 ≤ k)
  | ⟨.getFirmware _, some image⟩ => image.length < SIZE_RANGE
  | _ => True

/-- A socket takes all that it is handed. -/
def Whole : Event BootCall.Ret → Prop
  | ⟨.send _ data, k⟩ => k = data.length
  | _ => True

/-- The bytes that reach the modem. -/
def delivered (t : List (Event BootCall.Ret)) : Bytes :=
  t.flatMap fun
    | ⟨.send _ data, k⟩ => data.take k
    | _ => []

/-- What the boot is told, but for how much of it has been sent. -/
def replies (t : List (Event BootCall.Ret)) : List (Event BootCall.Ret) :=
  t.filter fun e => !e.op.isSend

/-- All is taken whole outside the loops over images. -/
def Uncut (t : List (Event BootCall.Ret)) : Prop :=
  ∀ part data (k : ℕ), (⟨.send part data, k⟩ : Event BootCall.Ret) ∈ t → part ≠ .image →
    k = data.length

/-- How many bytes are lost, being cut off outside the loops. -/
def lost (t : List (Event BootCall.Ret)) : ℕ :=
  (t.map fun
    | ⟨.send part data, k⟩ => if part = .image then 0 else data.length - k
    | _ => 0).sum

/-- The same again, with a socket that takes all. -/
structure Again (t t' : List (Event BootCall.Ret)) : Prop where
  whole : ∀ e ∈ t', Whole e
  replies : replies t' = replies t
  length : (delivered t).length + lost t = (delivered t').length
  delivered : lost t = 0 → delivered t = delivered t'

section
variable {t t' : List (Event BootCall.Ret)} {part : Part} {data : Bytes} {k : ℕ}

@[simp] theorem delivered_append : delivered (t ++ t') = delivered t ++ delivered t' :=
  List.flatMap_append

@[simp] theorem replies_append : replies (t ++ t') = replies t ++ replies t' :=
  List.filter_append ..

@[simp] theorem lost_append : lost (t ++ t') = lost t + lost t' := by
  rw [lost, List.map_append, List.sum_append]
  rfl

@[simp] theorem delivered_send :
    delivered (⟨.send part data, k⟩ :: t) = data.take k ++ delivered t := rfl

@[simp] theorem replies_send : replies (⟨.send part data, k⟩ :: t) = replies t := rfl

@[simp] theorem lost_send : lost (⟨.send part data, k⟩ :: t) =
    (if part = .image then 0 else data.length - k) + lost t := by
  rw [lost, List.map_cons, List.sum_cons]
  rfl

theorem compositional_again : Compositional Again where
  nil := ⟨nofun, rfl, rfl, fun _ => rfl⟩
  append := by
    intro s s' t t' hs ht
    refine ⟨List.forall_mem_append.mpr ⟨hs.whole, ht.whole⟩, ?_, ?_, ?_⟩
    · rw [replies_append, replies_append, hs.replies, ht.replies]
    · have hlength := hs.length
      have hlength' := ht.length
      rw [delivered_append, delivered_append, lost_append, List.length_append, List.length_append]
      omega
    · intro hlost
      rw [lost_append] at hlost
      rw [delivered_append, delivered_append, hs.delivered (by omega), ht.delivered (by omega)]

/-- Where nothing is lost, nothing is cut off. -/
theorem lost_eq_zero (haccepts : ∀ e ∈ t, Accepts e) : lost t = 0 ↔ Uncut t := by
  rw [lost, List.sum_eq_zero_iff, List.forall_mem_map]
  constructor
  · intro h part data k hmem hpart
    have hzero : (if part = .image then 0 else data.length - k) = 0 := h _ hmem
    have hle : k ≤ data.length := (haccepts _ hmem).1
    rw [if_neg hpart] at hzero
    omega
  · intro h e hmem
    obtain ⟨op, answer⟩ := e
    cases op with
    | send part data =>
      change (if part = .image then 0 else data.length - answer) = 0
      by_cases hpart : part = .image
      · rw [if_pos hpart]
      · rw [if_neg hpart, h part data answer hmem hpart, Nat.sub_self]
    | _ => rfl

theorem delivered_eq_iff (h : Again t t') (haccepts : ∀ e ∈ t, Accepts e) :
    delivered t = delivered t' ↔ Uncut t := by
  rw [← lost_eq_zero haccepts]
  constructor
  · intro heq
    have hlength := h.length
    rw [heq] at hlength
    omega
  · exact h.delivered

end
section
variable {chunk : ℕ → ℕ} {image : Bytes}

/-- A chunk of what is left, which is not empty. -/
theorem chunk_length {offset : ℕ} (hchunk : ∀ n, 0 < n → 0 < chunk n)
    (hlt : offset < image.length) :
    0 < ((image.drop offset).take (chunk (image.length - offset))).length := by
  have hpos := hchunk (image.length - offset) (by omega)
  rw [List.length_take, List.length_drop]
  omega

/-- The loop delivers the rest of the image, in whatever pieces it is taken. -/
theorem sendImage_delivers {fuel offset : ℕ} {t : List (Event BootCall.Ret)}
    (hle : offset ≤ image.length)
    (ht : Trace (sendImage chunk image fuel offset) t (.done ())) (haccepts : ∀ e ∈ t, Accepts e) :
    delivered t = image.drop offset ∧ replies t = [] ∧ lost t = 0 := by
  induction fuel generalizing offset t with
  | zero =>
    unfold sendImage at ht
    split_ifs at ht with hlt
    · obtain ⟨r, -⟩ := ht.call_done
      exact r.elim
    · obtain ⟨rfl, -⟩ := ht.done_eq
      rw [List.drop_eq_nil_of_le (by omega)]
      exact ⟨rfl, rfl, rfl⟩
  | succ fuel ih =>
    unfold sendImage at ht
    split_ifs at ht with hlt
    · obtain ⟨(k : ℕ), t, rfl, hrest⟩ := ht.call_done
      obtain ⟨⟨htaken, -⟩, haccepts⟩ := List.forall_mem_cons.mp haccepts
      have hk : k ≤ ((image.drop offset).take (chunk (image.length - offset))).length := htaken
      rw [List.length_take, List.length_drop] at hk
      obtain ⟨hdelivered, hreplies, hlost⟩ := ih (by omega) hrest haccepts
      refine ⟨?_, hreplies, ?_⟩
      · rw [delivered_send, hdelivered, List.take_take, min_eq_left (by omega), ← List.drop_drop,
          List.take_append_drop]
      · rw [lost_send, if_pos rfl, hlost]
    · obtain ⟨rfl, -⟩ := ht.done_eq
      rw [List.drop_eq_nil_of_le (by omega)]
      exact ⟨rfl, rfl, rfl⟩

/-- With as many turns as there are bytes left the loop comes to its end. -/
theorem sendImage_ends {fuel offset : ℕ} (hchunk : ∀ n, 0 < n → 0 < chunk n)
    (hfuel : image.length - offset ≤ fuel) :
    (sendImage chunk image fuel offset).Keeps Accepts (· ≠ .running) := by
  induction fuel generalizing offset with
  | zero =>
    unfold sendImage
    rw [if_neg (by omega)]
    exact keeps_done _
  | succ fuel ih =>
    unfold sendImage
    split_ifs with hlt
    · refine keeps_call.mpr ⟨BootCall.noConfusion, fun (k : ℕ) hk => ih ?_⟩
      have hpos : 1 ≤ k := hk.2 (List.length_pos_iff.mp (chunk_length hchunk hlt))
      omega
    · exact keeps_done _

theorem sendImage_whole {fuel offset : ℕ} (hchunk : ∀ n, 0 < n → 0 < chunk n)
    (hfuel : image.length - offset ≤ fuel) :
    ∃ t, Trace (sendImage chunk image fuel offset) t (.done ()) ∧ ∀ e ∈ t, Whole e ∧ Accepts e := by
  induction fuel generalizing offset with
  | zero =>
    unfold sendImage
    rw [if_neg (by omega)]
    exact ⟨[], .nil _, List.forall_mem_nil _⟩
  | succ fuel ih =>
    unfold sendImage
    split_ifs with hlt
    · let data := (image.drop offset).take (chunk (image.length - offset))
      have hpos : 0 < data.length := chunk_length hchunk hlt
      have hleft : image.length - (offset + data.length) ≤ fuel := by omega
      obtain ⟨t, ht, hwhole⟩ := ih hleft
      refine ⟨⟨.send .image data, data.length⟩ :: t, .cons ht,
        List.forall_mem_cons.mpr ⟨⟨rfl, le_rfl, ?_⟩, hwhole⟩⟩
      exact fun _ => hpos
    · exact ⟨[], .nil _, List.forall_mem_nil _⟩

theorem replays_sendImage {fuel : ℕ} (hchunk : ∀ n, 0 < n → 0 < chunk n)
    (hfuel : image.length ≤ fuel) :
    (sendImage chunk image fuel 0).Replays Accepts Again := by
  intro t a ht haccepts
  obtain ⟨hdelivered, hreplies, hlost⟩ := sendImage_delivers (Nat.zero_le _) ht haccepts
  have hleft : image.length - 0 ≤ fuel := hfuel
  obtain ⟨t', ht', hwhole⟩ := sendImage_whole hchunk hleft
  obtain ⟨hdelivered', hreplies', -⟩ :=
    sendImage_delivers (Nat.zero_le _) ht' fun e he => (hwhole e he).2
  refine ⟨t', ht', fun e he => (hwhole e he).1, ?_, ?_, ?_⟩
  · rw [hreplies', hreplies]
  · rw [hlost, hdelivered, hdelivered', Nat.add_zero]
  · intro _
    rw [hdelivered, hdelivered']

end
section
variable {fuel : ℕ}

theorem again_refl {e : Event BootCall.Ret} (h : e.op.isSend = false) : Again [e] [e] := by
  obtain ⟨op, answer⟩ := e
  cases op with
  | send part data => contradiction
  | _ => exact ⟨List.forall_mem_singleton.mpr trivial, rfl, rfl, fun _ => rfl⟩

theorem replays_send (part : Part) (data : Bytes) (hpart : part ≠ .image) :
    (send part data).Replays Accepts Again := by
  intro t a ht haccepts
  obtain ⟨(k : ℕ), t, rfl, hrest⟩ := ht.call_done
  obtain ⟨rfl, -⟩ := hrest.done_eq
  have hk : k ≤ data.length := (haccepts _ (.head _)).1
  refine ⟨[⟨.send part data, data.length⟩], .cons (.nil _), ?_, rfl, ?_, ?_⟩
  · exact List.forall_mem_singleton.mpr rfl
  · rw [delivered_send, delivered_send, lost_send, if_neg hpart, List.length_append,
      List.length_append,
      List.length_take, List.length_take, min_eq_left hk, min_self]
    have hnothing : lost [] = 0 := rfl
    omega
  · intro hlost
    rw [lost_send, if_neg hpart] at hlost
    rw [delivered_send, delivered_send, show k = data.length by omega]

/-- What sends nothing is answered the same again. -/
theorem composes_again :
    Composes Accepts (fun c => c.isSend = false) fun _ => Replays Accepts Again :=
  composes_replays compositional_again fun _ _ hc _ => again_refl hc

theorem isSend_of_handed {c : BootCall} (h : c.handed = none) : c.isSend = false := by
  cases c with
  | send part data => contradiction
  | _ => rfl

/-- No loop runs on, and as much is delivered as by sockets that take all exactly where nothing is
cut off outside the loops. -/
def DeliversAlike {α : Type} (p : Boot α) : Prop :=
  (∀ t next, (∀ e ∈ t, Accepts e) → ¬ Trace p t (.call .running next)) ∧
  ∀ t a, Trace p t (.done a) → (∀ e ∈ t, Accepts e) →
    (∃ t', Trace p t' (.done a) ∧ (∀ e ∈ t', Whole e) ∧ replies t' = replies t) ∧
    ∀ t' a', Trace p t' (.done a') → (∀ e ∈ t', Whole e) → replies t' = replies t →
      (delivered t = delivered t' ↔ Uncut t)

/-- The replies make the history, where a socket takes all. -/
theorem whole_unique {α : Type} {p : Boot α} {t t' : List (Event BootCall.Ret)} {a a' : α}
    (ht : Trace p t (.done a)) (ht' : Trace p t' (.done a')) (h : ∀ e ∈ t, Whole e)
    (h' : ∀ e ∈ t', Whole e) (hreplies : replies t = replies t') : t = t' := by
  have hfixed : ∀ (c : BootCall) (r r' : c.Ret), ¬ (!c.isSend) → Whole ⟨c, r⟩ → Whole ⟨c, r'⟩ →
    r = r' := by
    intro c r r' hfree hr hr'
    cases c with
    | send part data => exact Eq.trans hr hr'.symm
    | _ => exact absurd rfl hfree
  exact trace_eq_of_free hfixed ht ht' h h' hreplies

theorem deliversAlike {α : Type} {p : Boot α} (hkeeps : p.Keeps Accepts (· ≠ .running))
    (hreplays : p.Replays Accepts Again) : DeliversAlike p := by
  constructor
  · intro t next haccepts ht
    exact hkeeps.not_asked ht haccepts rfl
  · intro t a ht haccepts
    obtain ⟨t', ht', hagain⟩ := hreplays t a ht haccepts
    refine ⟨⟨t', ht', hagain.whole, hagain.replies⟩, ?_⟩
    intro t'' a'' ht'' hwhole hreplies
    obtain rfl := whole_unique ht' ht'' hagain.whole hwhole (hagain.replies.trans hreplies.symm)
    exact delivered_eq_iff hagain haccepts

/-- What the boot delivers, with a socket that takes some of what it is handed each time. -/
theorem boot_deliversAlike (fuel : ℕ) (hfuel : SIZE_RANGE ≤ fuel) :
    DeliversAlike (sendPSI fuel) ∧ DeliversAlike (sendEBL fuel) ∧
      (∀ cmd data, DeliversAlike (bootloaderCommand cmd data)) ∧ DeliversAlike (boot fuel) := by
  have hlength : ∀ type image, Accepts ⟨.getFirmware type, some image⟩ →
    image.length < SIZE_RANGE :=
    fun _ _ haccepts => haccepts
  have hproper : ∀ c : BootCall, c.Proper → c.handed = none → c ≠ .running := fun c h _ => h.2
  have hsend : ∀ part data, part ≠ Part.image → (send part data).Keeps Accepts (· ≠ .running) :=
    fun part data _ => keeps_send (fun c h => h.2) part data
  have hother : ∀ c : BootCall, c.Proper → c.handed = none → c.isSend = false :=
    fun _ _ h => isSend_of_handed h
  have hPSI : (sendPSI fuel).Keeps Accepts (· ≠ .running) := by
    apply composes_sendPSI composes_keeps hproper hsend
    intro image haccepts
    have hlt := hlength _ image haccepts
    exact sendImage_ends (fun _ h => h) (by omega)
  have hEBL : (sendEBL fuel).Keeps Accepts (· ≠ .running) := by
    apply composes_sendEBL composes_keeps hproper hsend
    intro image haccepts
    have hlt := hlength _ image haccepts
    exact sendImage_ends (fun n h => by omega) (by omega)
  have hPSI' : (sendPSI fuel).Replays Accepts Again := by
    apply composes_sendPSI composes_again hother replays_send
    intro image haccepts
    have hlt := hlength _ image haccepts
    exact replays_sendImage (fun _ h => h) (by omega)
  have hEBL' : (sendEBL fuel).Replays Accepts Again := by
    apply composes_sendEBL composes_again hother replays_send
    intro image haccepts
    have hlt := hlength _ image haccepts
    exact replays_sendImage (fun n h => by omega) (by omega)
  refine ⟨deliversAlike hPSI hPSI', deliversAlike hEBL hEBL', ?_, ?_⟩
  · intro cmd data
    exact deliversAlike (composes_bootloaderCommand composes_keeps hproper hsend (.inr nofun))
      (composes_bootloaderCommand composes_again hother replays_send (.inr rfl))
  · exact deliversAlike (composes_boot composes_keeps hproper hsend hPSI hEBL fun _ _ => .inr nofun)
      (composes_boot composes_again hother replays_send hPSI' hEBL' fun _ _ => .inr rfl)

/-- The greeting and a time-out, with so many bytes of the greeting taken. -/
def greeted (k : ℕ) : List (Event BootCall.Ret) :=
  [⟨.getFirmware .PSI, some [0]⟩, ⟨.send .greeting (str "ATAT"), k⟩, ⟨.recv 1, ⟨[], by decide⟩⟩]

theorem greeted_runs (k : ℕ) : Trace (sendPSI fuel) (greeted k) (.done false) :=
  .cons (.cons (.cons (.nil _)))

/-- A greeting that is cut off is not all delivered. -/
theorem greeting_cut_off :
    ¬ ∀ fuel, SIZE_RANGE ≤ fuel → ∀ t a t' a', Trace (sendPSI fuel) t (.done a) →
    (∀ e ∈ t, Accepts e) → Trace (sendPSI fuel) t' (.done a') → (∀ e ∈ t', Whole e) →
    replies t' = replies t → delivered t = delivered t' := by
  intro hall
  have hdelivered := hall SIZE_RANGE le_rfl (greeted 1) _ (greeted 4) _ (greeted_runs 1) ?_
    (greeted_runs 4)
    ?_ rfl
  · have hbytes : str "A" = str "ATAT" := hdelivered
    exact absurd (str_inj.mp hbytes) (by decide)
  · refine List.forall_mem_cons.mpr ⟨?_, List.forall_mem_cons.mpr ⟨?_, ?_⟩⟩
    · show 1 < SIZE_RANGE
      decide
    · exact ⟨by decide, fun _ => le_rfl⟩
    · exact List.forall_mem_singleton.mpr trivial
  · refine List.forall_mem_cons.mpr ⟨trivial, List.forall_mem_cons.mpr ⟨rfl, ?_⟩⟩
    exact List.forall_mem_singleton.mpr trivial

/-- An image of three bytes, taken in two pieces. -/
def inPieces : List (Event BootCall.Ret) :=
  [⟨.getFirmware .PSI, some [1, 2, 3]⟩, ⟨.send .greeting (str "ATAT"), 4⟩,
    ⟨.recv 1, ⟨[0], by decide⟩⟩,
    ⟨.recv 1, ⟨[0], by decide⟩⟩, ⟨.send .psiHeader (psi_header [1, 2, 3]), 4⟩] ++
  ([⟨.send .image [1, 2, 3], 1⟩, ⟨.send .image [2, 3], 2⟩] ++
    [⟨.send .crc [calculateCRC [1, 2, 3]], 1⟩, ⟨.recv 1, ⟨[], by decide⟩⟩])

theorem inPieces_runs (hfuel : 3 ≤ fuel) : Trace (sendPSI fuel) inPieces (.done false) := by
  obtain ⟨n, rfl⟩ : ∃ n, fuel = n + 3 := ⟨fuel - 3, by omega⟩
  have himage :
    Trace (sendImage id [1, 2, 3] (n + 3) 0) [⟨.send .image [1, 2, 3], 1⟩, ⟨.send .image [2, 3], 2⟩]
      (.done ()) := by
    exact .cons (.cons (.nil _))
  apply Trace.append (q := sendImage id [1, 2, 3] (n + 3) 0 >>= _)
  · exact .cons (.cons (.cons (.cons (.cons (.nil _)))))
  · apply (himage.bind _).append
    exact .cons (.cons (.nil _))

theorem inPieces_accepted : ∀ e ∈ inPieces, Accepts e := by
  have hgreeting : (str "ATAT").length = 4 := rfl
  simp [inPieces, Accepts, SIZE_RANGE, psi_header, hgreeting]

/-- The pieces come to the same as the whole image. -/
theorem pieces_delivered : ∃ t', Trace (sendPSI SIZE_RANGE) t' (.done false) ∧ (∀ e ∈ t', Whole e) ∧
    delivered inPieces = delivered t' := by
  obtain ⟨⟨-, hdelivers⟩, -⟩ := boot_deliversAlike SIZE_RANGE le_rfl
  obtain ⟨⟨t', ht', hwhole, hreplies⟩, halike⟩ :=
    hdelivers inPieces false (inPieces_runs (by decide)) inPieces_accepted
  exact ⟨t', ht', hwhole, (halike t' false ht' hwhole hreplies).mpr
    ((lost_eq_zero inPieces_accepted).mp rfl)⟩

end
end SamsungModem
end FreeRil
