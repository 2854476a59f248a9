import FreeRil.Compiler.Protocol

/-! Objects of one generated class used as objects of another. -/
namespace FreeRil

/-- An integer member used as one of another type. -/
def IntType.cast (t t' : IntType) (n : t.Storage) : Option t'.Storage :=
  if h : t = t' then some (h ▸ n) else none

/-- A member of raw data used as one of another size. -/
def castData (m n : ℕ) (data : { data : Bytes // data.length = m }) :
    Option { data : Bytes // data.length = n } :=
  if h : m = n then some ⟨data.val, data.property.trans h⟩ else none

theorem IntType.cast_self (t : IntType) (n : t.Storage) : t.cast t n = some n := by simp [IntType.cast]

theorem castData_self (n : ℕ) (data : { data : Bytes // data.length = n }) :
    castData n n data = some data := by simp [castData]

mutual
/-- A member of one class read as the member of another in its place. -/
def Field.cast : (f : Field) → f.Value → (g : Field) → Option g.Value
  | .int _ t, n, g => match g with
    | .int _ t' => t.cast t' n
    | _ => none
  | .data _ m, data, g => match g with
    | .data _ n => castData m n data
    | _ => none
  | .vector _ _, data, g => match g with
    | .vector _ _ => some data
    | _ => none
  | .array _ _ item, items, g => match g with
    | .array _ _ item' => List.mapM (fun v => castStructure item v item') items
    | _ => none
/-- An object read member by member; it has no value where the members differ. -/
def castStructure : (fs : List Field) → Struct fs → (gs : List Field) → Option (Struct gs)
  | [], _, gs => match gs with
    | [] => some ()
    | _ => none
  | f :: fs, v, gs => match gs with
    | g :: gs => do return (← f.cast v.1 g, ← castStructure fs v.2 gs)
    | _ => none
end

theorem mapM_some {α : Type} {f : α → Option α} (h : ∀ a, f a = some a) (as : List α) :
    as.mapM f = some as := by
  induction as with
  | nil => rfl
  | cons a as ih => simp [List.mapM_cons, h, ih]

mutual
theorem Field.cast_self : ∀ (f : Field) (v : f.Value), f.cast v f = some v
  | .int _ t, n => IntType.cast_self t n
  | .data _ size, data => castData_self size data
  | .vector _ _, _ => rfl
  | .array _ _ item, items => mapM_some (fun v => castStructure_self item v) items
/-- An object is an object of its own class. -/
theorem castStructure_self : ∀ (fs : List Field) (v : Struct fs), castStructure fs v fs = some v
  | [], _ => rfl
  | f :: fs, v => by
    have hfirst := Field.cast_self f v.1
    have hrest := castStructure_self fs v.2
    change ((f.cast v.1 f).bind fun w => (castStructure fs v.2 fs).bind fun ws => some (w, ws)) = some v
    rw [hfirst, hrest]
    rfl
end

namespace Message

/-- `static_cast` to the class generated for `d`. -/
def static_cast (m : Message) (d : MessageDefinition) : Option (Struct d.fields) :=
  castStructure m.definition.fields m.value d.fields

theorem static_cast_self (g : MessageGroup) (d : MessageDefinition) (v : Struct d.fields) :
    static_cast ⟨g, d, v⟩ d = some v := castStructure_self d.fields v

end Message
end FreeRil
