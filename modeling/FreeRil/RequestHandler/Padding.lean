import FreeRil.RequestHandler.Networks

/-! The code of an operator in its field of six bytes: `setPLMNSelection` fills the field with `#`, and
`getCleanMCCMNC` looks for a `#` from its end. -/
namespace FreeRil
open Messages RIL

namespace RequestHandler

def NetSetPlmnSelection.network : Struct NetSetPlmnSelection.fields → Bytes
  | (_, network, _, ()) => network

/-- The code ends before the last `#`. -/
theorem cleanMCCMNC_append {before after : Bytes} (h : 35 ∉ after) :
    cleanMCCMNC (before ++ 35 :: after) = before := by
  have hcontains : (before ++ 35 :: after).contains (35 : UInt8) = true := by simp
  have hafter : ∀ c ∈ after.reverse, decide (c ≠ (35 : UInt8)) = true := by
    intro c hc
    exact decide_eq_true fun heq => h (heq ▸ List.mem_reverse.mp hc)
  have hreverse : (before ++ 35 :: after).reverse = after.reverse ++ 35 :: before.reverse := by simp
  rw [cleanMCCMNC, if_pos hcontains, hreverse, List.dropWhile_append_of_pos hafter]
  simp

theorem cleanMCCMNC_of_notMem {digits : Bytes} (h : 35 ∉ digits) : cleanMCCMNC digits = digits :=
  if_neg (by simpa using h)

/-- Of the padding only the last byte is removed. -/
theorem cleanMCCMNC_padded {code : Bytes} (hcode : 35 ∉ code) (hlength : code.length ≤ 6) :
    cleanMCCMNC (padded 6 35 code) = code ++ List.replicate (5 - code.length) 35 := by
  unfold padded
  rw [List.take_of_length_le hlength]
  obtain hfull | hshort := hlength.eq_or_lt
  · rw [hfull]
    simp only [Nat.sub_self, List.replicate_zero, List.append_nil, Nat.reduceSubDiff]
    exact cleanMCCMNC_of_notMem hcode
  · have hpadding : 6 - code.length = 5 - code.length + 1 := by omega
    rw [hpadding, List.replicate_succ', ← List.append_assoc]
    exact cleanMCCMNC_append List.not_mem_nil

theorem pure_inj {α : Type} {a b : α} (h : (pure a : Ril α) = pure b) : a = b :=
  congrArg Prod.fst (Program.done.inj (congrFun h ⟨.OFF, -1, 0, [], MessageCache.empty⟩))

/-- What `getCleanMCCMNC` makes of the field that `setPLMNSelection` builds is the code exactly where
at most one byte of the field is padding. -/
theorem getCleanMCCMNC_plmnSelection (plmn : Option CString) (hlength : (characters plmn).length ≤ 6)
    (hcode : 35 ∉ characters plmn) :
    getCleanMCCMNC (NetSetPlmnSelection.network (plmnSelection plmn).value) = pure (characters plmn)
      ↔ 5 ≤ (characters plmn).length := by
  have hfield : NetSetPlmnSelection.network (plmnSelection plmn).value
      = padded 6 35 (characters plmn) := rfl
  rw [hfield, getCleanMCCMNC_eq (padded_length 6 35 _), cleanMCCMNC_padded hcode hlength]
  constructor
  · intro h
    have hclean := congrArg List.length (pure_inj h)
    simp only [List.length_append, List.length_replicate] at hclean
    omega
  · intro h
    rw [Nat.sub_eq_zero_of_le h, List.replicate_zero, List.append_nil]

theorem five_digits_not_null : 0 ∉ str "25001" := by decide

theorem getCleanMCCMNC_plmnSelection_five :
    getCleanMCCMNC (NetSetPlmnSelection.network
      (plmnSelection (some ⟨str "25001", five_digits_not_null⟩)).value) = pure (str "25001") :=
  (getCleanMCCMNC_plmnSelection (some ⟨str "25001", five_digits_not_null⟩) (by decide) (by decide)).mpr
    (by decide)

/-- A code of four characters keeps one byte of its padding. -/
theorem getCleanMCCMNC_keeps_padding :
    ¬ ∀ plmn : Option CString, (characters plmn).length ≤ 6 → 35 ∉ characters plmn →
      getCleanMCCMNC (NetSetPlmnSelection.network (plmnSelection plmn).value)
        = pure (characters plmn) := by
  intro h
  have hcode := h (some ⟨str "2500", by decide⟩) (by decide) (by decide)
  have hclean : str "2500#" = str "2500" := pure_inj hcode
  exact absurd hclean (by decide)

end RequestHandler
end FreeRil
