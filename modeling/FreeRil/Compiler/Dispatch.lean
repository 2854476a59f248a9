import FreeRil.Compiler.Factory

/-! The generated factory constructs the incoming message that its two numbers are declared for. -/
namespace FreeRil

/-- Keys tell the elements of a list apart. -/
theorem find?_key {α κ : Type} [DecidableEq κ] {key : α → κ} {as : List α} (h : (as.map key).Nodup)
    {a : α} (ha : a ∈ as) : as.find? (fun b => key b = key a) = some a := by
  induction as with
  | nil => simp at ha
  | cons b as ih =>
    rw [List.map_cons, List.nodup_cons] at h
    rcases List.mem_cons.mp ha with rfl | hmem
    · simp
    · have hne : key b ≠ key a := fun heq => h.1 (heq ▸ List.mem_map_of_mem hmem)
      rw [List.find?_cons_of_neg (by simpa using hne)]
      exact ih h.2 hmem

namespace Enum
variable (e : Enum)

theorem min_le {kv : String × ℕ} (h : kv ∈ e.values) : e.min ≤ kv.2 := by
  have hmem : kv.2 ∈ e.values.map Prod.snd := List.mem_map_of_mem h
  obtain ⟨m, hm⟩ := Option.isSome_iff_exists.mp (List.isSome_min?_of_mem hmem)
  rw [min, hm]
  exact (List.min?_eq_some_iff.mp hm).2 _ hmem

theorem le_max {kv : String × ℕ} (h : kv ∈ e.values) : kv.2 ≤ e.max := by
  have hmem : kv.2 ∈ e.values.map Prod.snd := List.mem_map_of_mem h
  obtain ⟨m, hm⟩ := Option.isSome_iff_exists.mp (List.isSome_max?_of_mem hmem)
  rw [max, hm]
  exact (List.max?_eq_some_iff.mp hm).2 _ hmem

/-- The bounds of an enumeration are values of it. -/
theorem min_mem (h : e.values ≠ []) : ∃ kv ∈ e.values, kv.2 = e.min := by
  have hne : e.values.map Prod.snd ≠ [] := by simpa using h
  obtain ⟨m, hm⟩ := Option.ne_none_iff_exists'.mp (mt List.min?_eq_none_iff.mp hne)
  obtain ⟨kv, hmem, hkv⟩ := List.mem_map.mp (List.min?_mem hm)
  exact ⟨kv, hmem, by rw [min, hm, hkv]; rfl⟩

theorem max_mem (h : e.values ≠ []) : ∃ kv ∈ e.values, kv.2 = e.max := by
  have hne : e.values.map Prod.snd ≠ [] := by simpa using h
  obtain ⟨m, hm⟩ := Option.ne_none_iff_exists'.mp (mt List.max?_eq_none_iff.mp hne)
  obtain ⟨kv, hmem, hkv⟩ := List.mem_map.mp (List.max?_mem hm)
  exact ⟨kv, hmem, by rw [max, hm, hkv]; rfl⟩

end Enum

/-- A step of the loop that fills a dispatch table. -/
def place (accepts : String → Option String → Bool) (first : ℕ) (table : List (Option String))
    (kv : String × ℕ) : List (Option String) :=
  if accepts kv.1 (table.getD (kv.2 - first) none) then
    table.set (kv.2 - first) (some ("create" ++ kv.1))
  else table

/-- A table filled with entries that do not compete for a slot. -/
theorem place_foldl (accepted : String × ℕ → Bool) (accepts : String → Option String → Bool)
    {first : ℕ} {values : List (String × ℕ)} {table : List (Option String)}
    (haccepted : ∀ kv ∈ values, accepted kv = true → accepts kv.1 none = true)
    (hrejected : ∀ kv ∈ values, accepted kv = false → ∀ slot, accepts kv.1 slot = false)
    (hnodup : ((values.filter accepted).map fun kv => kv.2 - first).Nodup)
    (hfree : ∀ kv ∈ values, accepted kv = true →
      table.getD (kv.2 - first) none = none ∧ kv.2 - first < table.length) (i : ℕ) :
    (values.foldl (place accepts first) table).getD i none =
      ((values.find? fun kv => accepted kv && kv.2 - first == i).map fun kv => "create" ++ kv.1).or
        (table.getD i none) := by
  induction values generalizing table with
  | nil => rfl
  | cons kv values ih =>
    have hmem : ∀ kv' ∈ values, kv' ∈ kv :: values := fun _ => List.mem_cons_of_mem _
    have htail : ∀ {table' : List (Option String)}, (∀ kv' ∈ values, accepted kv' = true →
        table'.getD (kv'.2 - first) none = none ∧ kv'.2 - first < table'.length) →
        (values.foldl (place accepts first) table').getD i none =
          ((values.find? fun kv => accepted kv && kv.2 - first == i).map
            fun kv => "create" ++ kv.1).or (table'.getD i none) :=
      fun hfree' => ih (fun kv' h => haccepted kv' (hmem _ h)) (fun kv' h => hrejected kv' (hmem _ h))
        (hnodup.sublist (((List.sublist_cons_self kv values).filter accepted).map _)) hfree'
    rw [List.foldl_cons]
    cases hkv : accepted kv with
    | false =>
      rw [place, hrejected kv List.mem_cons_self hkv, if_neg Bool.false_ne_true,
        List.find?_cons_of_neg (by simp [hkv])]
      exact htail fun kv' h => hfree kv' (hmem _ h)
    | true =>
      obtain ⟨hslot, hlt⟩ := hfree kv List.mem_cons_self hkv
      rw [List.filter_cons_of_pos hkv, List.map_cons, List.nodup_cons] at hnodup
      have hother : ∀ kv' ∈ values, accepted kv' = true → kv'.2 - first ≠ kv.2 - first := by
        intro kv' h hkv' heq
        exact hnodup.1 (heq ▸ List.mem_map.mpr ⟨kv', List.mem_filter.mpr ⟨h, hkv'⟩, rfl⟩)
      rw [place, hslot, haccepted kv List.mem_cons_self hkv, if_pos rfl, htail]
      · by_cases hi : kv.2 - first = i
        · have hnone : values.find? (fun kv' => accepted kv' && kv'.2 - first == i) = none := by
            rw [List.find?_eq_none]
            intro kv' h
            simp only [Bool.and_eq_true, beq_iff_eq, not_and]
            exact fun hkv' heq => hother kv' h hkv' (heq.trans hi.symm)
          rw [hnone, List.find?_cons_of_pos (by simp [hkv, hi])]
          simp [List.getD_eq_getElem?_getD, ← hi, hlt]
        · rw [List.find?_cons_of_neg (by simp [hi])]
          simp [List.getD_eq_getElem?_getD, hi]
      · intro kv' h hkv'
        obtain ⟨hnone, hlt'⟩ := hfree kv' (hmem _ h) hkv'
        refine ⟨?_, by rwa [List.length_set]⟩
        rw [List.getD_eq_getElem?_getD, List.getElem?_set_ne (hother kv' h hkv').symm,
          ← List.getD_eq_getElem?_getD]
        exact hnone

namespace Protocol
variable {p : Protocol}

/-- The messages with the groups they are declared in. -/
def declarations (p : Protocol) : List (MessageGroup × MessageDefinition) :=
  p.groups.flatMap fun g => g.messages.map fun m => (g, m)

def fullnames (p : Protocol) : List String := p.declarations.map fun gm => gm.1.fullname gm.2

/-- The entry of an enumeration is an incoming message. -/
def claims (p : Protocol) (kv : String × ℕ) : Bool :=
  (p.message_map kv.1).any (·.2.direction = .incoming)

/-- No name and no number is given twice, and none is one that the generator makes up. -/
structure WellDescribed (p : Protocol) : Prop where
  ids : (p.groups.map MessageGroup.id).Nodup
  types : (p.groups.map MessageGroup.type).Nodup
  names : p.fullnames.Nodup
  incoming : ∀ g ∈ p.groups, ((g.messages.filter (·.direction = .incoming)).map (·.type)).Nodup
  not_cmd : ∀ g ∈ p.groups, g.id ≠ "CMD"
  bounds : ∀ pre ∈ "CMD_" :: p.groups.map (·.id ++ "_"), ∀ bound ∈ ["FIRST", "LAST"],
    pre ++ bound ∉ p.fullnames

theorem mem_declarations {g : MessageGroup} {m : MessageDefinition} :
    (g, m) ∈ p.declarations ↔ g ∈ p.groups ∧ m ∈ g.messages := by
  simp only [declarations, List.mem_flatMap, List.mem_map, Prod.mk.injEq]
  constructor
  · rintro ⟨g', hg, m', hm, rfl, rfl⟩
    exact ⟨hg, hm⟩
  · rintro ⟨hg, hm⟩
    exact ⟨g, hg, m, hm, rfl, rfl⟩

/-- The enumeration of a group: its messages and the bounds. -/
theorem enum_values (g : MessageGroup) : ∃ least most, g.enum.values =
    g.messages.map (fun m => (g.fullname m, m.type.toNat)) ++
      [(g.id ++ "_" ++ "FIRST", least), (g.id ++ "_" ++ "LAST", most)] := ⟨_, _, rfl⟩

theorem getD_replicate_none (n i : ℕ) :
    (List.replicate n (none : Option String)).getD i none = none := by
  rw [List.getD_eq_getElem?_getD, List.getElem?_replicate]
  split <;> rfl

namespace WellDescribed
variable (h : p.WellDescribed)
include h

theorem message_map_fullname {g : MessageGroup} {m : MessageDefinition} (hg : g ∈ p.groups)
    (hm : m ∈ g.messages) : p.message_map (g.fullname m) = some (g, m) := by
  have hnodup : (p.declarations.reverse.map fun gm => gm.1.fullname gm.2).Nodup := by
    rw [List.map_reverse, List.nodup_reverse]
    exact h.names
  exact find?_key hnodup (List.mem_reverse.mpr (mem_declarations.mpr ⟨hg, hm⟩))

theorem message_map_bound {pre bound : String} (hpre : pre ∈ "CMD_" :: p.groups.map (·.id ++ "_"))
    (hbound : bound ∈ ["FIRST", "LAST"]) : p.message_map (pre ++ bound) = none := by
  rw [message_map, List.find?_eq_none]
  intro gm hgm heq
  refine h.bounds pre hpre bound hbound ?_
  rw [← of_decide_eq_true heq]
  exact List.mem_map_of_mem (List.mem_reverse.mp hgm)

theorem claims_fullname {g : MessageGroup} (hg : g ∈ p.groups) {m : MessageDefinition}
    (hm : m ∈ g.messages) {n : ℕ} : p.claims (g.fullname m, n) = decide (m.direction = .incoming) := by
  rw [claims, h.message_map_fullname hg hm]
  rfl

theorem claims_bound {pre bound : String} (hpre : pre ∈ "CMD_" :: p.groups.map (·.id ++ "_"))
    (hbound : bound ∈ ["FIRST", "LAST"]) {n : ℕ} : p.claims (pre ++ bound, n) = false := by
  rw [claims, h.message_map_bound hpre hbound]
  rfl

/-- The entries of the enumeration of a group that claim a slot. -/
theorem claiming {g : MessageGroup} (hg : g ∈ p.groups) : g.enum.values.filter p.claims =
    (g.messages.filter (·.direction = .incoming)).map fun m => (g.fullname m, m.type.toNat) := by
  obtain ⟨least, most, hvalues⟩ := enum_values g
  have hpre : g.id ++ "_" ∈ "CMD_" :: p.groups.map (·.id ++ "_") :=
    List.mem_cons_of_mem _ (List.mem_map_of_mem hg)
  rw [hvalues, List.filter_append, List.filter_map]
  have hbounds : [(g.id ++ "_" ++ "FIRST", least), (g.id ++ "_" ++ "LAST", most)].filter p.claims =
      [] := by
    simp [h.claims_bound hpre]
  rw [hbounds, List.append_nil]
  congr 1
  apply List.filter_congr
  intro m hm
  simp [h.claims_fullname hg hm]

theorem find_claim {g : MessageGroup} (hg : g ∈ p.groups) {first i : ℕ} :
    (g.enum.values.find? fun kv => p.claims kv && kv.2 - first == i) =
      (g.messages.find? fun m => m.direction = .incoming && m.type.toNat - first == i).map
        fun m => (g.fullname m, m.type.toNat) := by
  obtain ⟨least, most, hvalues⟩ := enum_values g
  have hpre : g.id ++ "_" ∈ "CMD_" :: p.groups.map (·.id ++ "_") :=
    List.mem_cons_of_mem _ (List.mem_map_of_mem hg)
  have hbounds : [(g.id ++ "_" ++ "FIRST", least), (g.id ++ "_" ++ "LAST", most)].find?
      (fun kv => p.claims kv && kv.2 - first == i) = none := by
    simp [h.claims_bound hpre]
  rw [hvalues, List.find?_append, hbounds, Option.or_none, List.find?_map]
  congr 1
  apply List.find?_congr
  intro m hm
  simp [h.claims_fullname hg hm]

/-- A slot in the table of a group holds the incoming message of its type. -/
theorem functions_group {g : MessageGroup} (hg : g ∈ p.groups) (i : ℕ) :
    (p.functions g.enum).getD i none =
      ((g.messages.find? fun m => m.direction = .incoming && m.type.toNat - g.enum.min == i).map
        fun m => "create" ++ g.fullname m) := by
  have hname : g.enum.name ≠ "CMD" := h.not_cmd g hg
  have hdispatches : ∀ kv slot, p.dispatches g.enum kv.1 slot = p.claims kv := by
    intro kv slot
    cases hmap : p.message_map kv.1 <;> simp [dispatches, claims, hmap, hname]
  have hmin : ∀ m ∈ g.messages, g.enum.min ≤ m.type.toNat := by
    intro m hm
    obtain ⟨least, most, hvalues⟩ := enum_values g
    have hmem : (g.fullname m, m.type.toNat) ∈ g.enum.values :=
      hvalues ▸ List.mem_append_left _ (List.mem_map_of_mem hm)
    exact g.enum.min_le hmem
  have hslots : ((g.enum.values.filter p.claims).map fun kv => kv.2 - g.enum.min).Nodup := by
    rw [h.claiming hg, List.map_map]
    refine List.Nodup.map_on ?_ (List.Nodup.of_map _ (h.incoming g hg))
    intro m hm m' hm' heq
    have hle := hmin m (List.mem_of_mem_filter hm)
    have hle' := hmin m' (List.mem_of_mem_filter hm')
    refine List.inj_on_of_nodup_map (h.incoming g hg) hm hm' (UInt8.toNat_inj.mp ?_)
    change m.type.toNat - g.enum.min = m'.type.toNat - g.enum.min at heq
    omega
  have hfree : ∀ kv ∈ g.enum.values, p.claims kv = true →
      (List.replicate (g.enum.max - g.enum.min + 1) (none : Option String)).getD
        (kv.2 - g.enum.min) none = none ∧ kv.2 - g.enum.min <
          (List.replicate (g.enum.max - g.enum.min + 1) (none : Option String)).length := by
    intro kv hkv _
    have hle := g.enum.le_max hkv
    rw [List.length_replicate]
    exact ⟨getD_replicate_none _ _, by omega⟩
  have hplace := place_foldl p.claims _
    (fun kv _ hkv => (hdispatches kv none).trans hkv)
    (fun kv _ hkv slot => (hdispatches kv slot).trans hkv) hslots hfree i
  refine hplace.trans ?_
  rw [getD_replicate_none, Option.or_none, h.find_claim hg, Option.map_map]
  rfl

/-- A slot in the table of the groups holds the group of its type. -/
theorem functions_cmd (i : ℕ) (hne : p.groups ≠ []) :
    (p.functions p.cmdEnum).getD i none =
      ((p.groups.find? fun g => true && g.type.toNat - p.cmdEnum.min == i).map
        fun g => "create" ++ ("CMD_" ++ g.id)) := by
  set entries : List (String × ℕ) := p.groups.map fun g => ("CMD_" ++ g.id, g.type.toNat)
  set raw : Enum := ⟨"CMD", entries⟩ with hraw
  have hvalues : p.cmdEnum.values =
      entries ++ [("CMD_" ++ "FIRST", raw.min), ("CMD_" ++ "LAST", raw.max)] := rfl
  have hfirst : ∀ g ∈ p.groups, p.cmdEnum.min ≤ g.type.toNat := fun g hg =>
    p.cmdEnum.min_le (hvalues ▸ List.mem_append_left _ (List.mem_map_of_mem hg))
  have hslots : ((entries.filter fun _ => true).map fun kv => kv.2 - p.cmdEnum.min).Nodup := by
    rw [List.filter_true, List.map_map]
    refine List.Nodup.map_on ?_ (List.Nodup.of_map _ h.types)
    intro g hg g' hg' heq
    have hle := hfirst g hg
    have hle' := hfirst g' hg'
    refine List.inj_on_of_nodup_map h.types hg hg' (UInt8.toNat_inj.mp ?_)
    change g.type.toNat - p.cmdEnum.min = g'.type.toNat - p.cmdEnum.min at heq
    omega
  have hfree : ∀ kv ∈ entries, true = true →
      (List.replicate (p.cmdEnum.max - p.cmdEnum.min + 1) (none : Option String)).getD
        (kv.2 - p.cmdEnum.min) none = none ∧ kv.2 - p.cmdEnum.min <
          (List.replicate (p.cmdEnum.max - p.cmdEnum.min + 1) (none : Option String)).length := by
    intro kv hkv _
    have hle := p.cmdEnum.le_max (hvalues ▸ List.mem_append_left _ hkv)
    rw [List.length_replicate]
    exact ⟨getD_replicate_none _ _, by omega⟩
  set table := entries.foldl (place (p.dispatches p.cmdEnum) p.cmdEnum.min)
    (List.replicate (p.cmdEnum.max - p.cmdEnum.min + 1) none) with htable
  have hgroups : ∀ i, table.getD i none =
      ((p.groups.find? fun g => true && g.type.toNat - p.cmdEnum.min == i).map
        fun g => "create" ++ ("CMD_" ++ g.id)) := by
    intro i
    have hplace := place_foldl (fun _ => true) (p.dispatches p.cmdEnum)
      (fun kv _ _ => by simp [dispatches, cmdEnum, Enum.add_minmax]) (by simp) hslots hfree i
    rw [htable, hplace, getD_replicate_none, Option.or_none, List.find?_map, Option.map_map]
    rfl
  have hfilled : ∀ kv ∈ entries, (table.getD (kv.2 - p.cmdEnum.min) none).isSome := by
    intro kv hkv
    obtain ⟨g, hg, rfl⟩ := List.mem_map.mp hkv
    rw [hgroups, Option.isSome_map, List.find?_isSome]
    exact ⟨g, hg, by simp⟩
  have hbound : ∀ bound ∈ ["FIRST", "LAST"], ∀ n, (∃ kv ∈ entries, kv.2 = n) →
      place (p.dispatches p.cmdEnum) p.cmdEnum.min table ("CMD_" ++ bound, n) = table := by
    rintro bound hbound _ ⟨kv, hkv, rfl⟩
    obtain ⟨slot, hslot⟩ := Option.isSome_iff_exists.mp (hfilled kv hkv)
    have hmap := h.message_map_bound List.mem_cons_self hbound
    rw [place, hslot, if_neg]
    simp [dispatches, hmap]
  have hentries : raw.values ≠ [] := by simpa [hraw, entries] using hne
  change (p.cmdEnum.values.foldl (place (p.dispatches p.cmdEnum) p.cmdEnum.min) _).getD i none = _
  rw [hvalues, List.foldl_append, List.foldl_cons, List.foldl_cons, List.foldl_nil, ← htable,
    hbound "FIRST" (by simp) _ (raw.min_mem hentries), hbound "LAST" (by simp) _ (raw.max_mem hentries)]
  exact hgroups i

end WellDescribed

/-- The table function on numbers that lie between the bounds of the table. -/
theorem createFromDispatchTable_eq {α : Type} {table : List (Option String)} {first last : ℕ}
    {as : List α} {eligible : α → Bool} {number : α → ℕ} {name : α → String}
    (htable : ∀ i, table.getD i none =
      (as.find? fun a => eligible a && number a - first == i).map name)
    (hbounds : ∀ a ∈ as, first ≤ number a ∧ number a ≤ last) (n : ℕ) :
    Factory.createFromDispatchTable table first last n =
      (as.find? fun a => eligible a && number a == n).map name := by
  rw [Factory.createFromDispatchTable]
  split_ifs with hrange
  · have hnone : as.find? (fun a => eligible a && number a == n) = none := by
      rw [List.find?_eq_none]
      intro a ha
      have hle := hbounds a ha
      simp only [Bool.and_eq_true, beq_iff_eq, not_and]
      omega
    rw [hnone]
    rfl
  · rw [htable]
    congr 1
    apply List.find?_congr
    intro a ha
    have hle := hbounds a ha
    have hiff : number a - first = n - first ↔ number a = n := by omega
    simp [beq_eq_decide, hiff]

theorem WellDescribed.createCMD_eq (h : p.WellDescribed) {g : MessageGroup} (hg : g ∈ p.groups)
    (subcommand : UInt8) : Factory.createCMD p g subcommand =
      (g.messages.find? fun m => m.direction = .incoming && m.type = subcommand).map (g, ·) := by
  have hbounds : ∀ m ∈ g.messages, g.enum.min ≤ m.type.toNat ∧ m.type.toNat ≤ g.enum.max := by
    intro m hm
    obtain ⟨least, most, hvalues⟩ := enum_values g
    have hmem : (g.fullname m, m.type.toNat) ∈ g.enum.values :=
      hvalues ▸ List.mem_append_left _ (List.mem_map_of_mem hm)
    exact ⟨g.enum.min_le hmem, g.enum.le_max hmem⟩
  have htype : (fun m : MessageDefinition => decide (m.direction = .incoming) &&
      m.type.toNat == subcommand.toNat) =
        fun m => decide (m.direction = .incoming) && decide (m.type = subcommand) := by
    funext m
    simp [beq_eq_decide, UInt8.toNat_inj]
  rw [Factory.createCMD, createFromDispatchTable_eq (h.functions_group hg) hbounds, htype]
  cases hfind : g.messages.find? fun m => decide (m.direction = .incoming) &&
      decide (m.type = subcommand) with
  | none => rfl
  | some m =>
    have hmem := mem_declarations.mpr ⟨hg, List.mem_of_find?_eq_some hfind⟩
    have hkey := find?_key h.names hmem
    change p.declarations.find? (fun gm => "create" ++ gm.1.fullname gm.2 = "create" ++ g.fullname m) = _
    simp only [String.append_right_inj]
    exact hkey

/-- The factory constructs the incoming message of these two numbers, if one is declared. -/
theorem WellDescribed.create_eq (h : p.WellDescribed) (command subcommand : UInt8) :
    Factory.create p command subcommand =
      (p.groups.find? (·.type = command)).bind fun g =>
        (g.messages.find? fun m => m.direction = .incoming && m.type = subcommand).map (g, ·) := by
  by_cases hne : p.groups = []
  · rw [Factory.create, hne]
    cases Factory.createFromDispatchTable (p.functions p.cmdEnum) p.cmdEnum.min p.cmdEnum.max
      command.toNat <;> rfl
  have hbounds : ∀ g ∈ p.groups, p.cmdEnum.min ≤ g.type.toNat ∧ g.type.toNat ≤ p.cmdEnum.max := by
    intro g hg
    have hmem : ("CMD_" ++ g.id, g.type.toNat) ∈ p.cmdEnum.values :=
      List.mem_append_left _ (List.mem_map_of_mem hg)
    exact ⟨p.cmdEnum.min_le hmem, p.cmdEnum.le_max hmem⟩
  have htype : (fun g : MessageGroup => true && g.type.toNat == command.toNat) =
      fun g => decide (g.type = command) := by
    funext g
    simp [beq_eq_decide, UInt8.toNat_inj]
  rw [Factory.create,
    createFromDispatchTable_eq (fun i => h.functions_cmd i hne) hbounds, htype]
  cases hfind : p.groups.find? fun g => decide (g.type = command) with
  | none => rfl
  | some g =>
    have hg := List.mem_of_find?_eq_some hfind
    have hkey : p.groups.find? (fun g' => "createCMD_" ++ g'.id = "create" ++ ("CMD_" ++ g.id)) =
        some g := by
      have hname : "create" ++ ("CMD_" ++ g.id) = "createCMD_" ++ g.id := by
        rw [← String.append_assoc]
        rfl
      simp only [hname, String.append_right_inj]
      exact find?_key h.ids hg
    simp only [Option.map_some, Option.bind_eq_bind, Option.bind_some, hkey]
    exact h.createCMD_eq hg subcommand

end Protocol
end FreeRil
