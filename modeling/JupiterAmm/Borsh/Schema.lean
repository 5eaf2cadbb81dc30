import JupiterAmm.Borsh.Codec

/-!
# Borsh schemas

A schema is the type section of an interface description: integers, options, vectors, structs with
named fields and enums with named variants, as data. `Ty.denote` is the type of the values a schema
describes, so a value that does not fit its schema cannot be built, and `Ty.codec` is its Borsh
codec, assembled from the combinators, so every schema comes with both round-trip laws. A record is
read by field name: `Fields.Holds` says that each field of a value holds what an assignment of names
to values says, and an assignment determines the value (`Fields.Holds.unique`).
-/

namespace Borsh

mutual
/-- The type of a value in an interface description. -/
inductive Ty where
  | bool | u8 | u16 | u32 | u64
  | option (t : Ty)
  | vec (t : Ty)
  | struct (fields : Fields)
  | enum (variants : Variants)

/-- Named fields, in the order they are written. -/
inductive Fields where
  | nil
  | cons (name : String) (type : Ty) (rest : Fields)

/-- Named variants with their fields, in the order that numbers them. -/
inductive Variants where
  | nil
  | cons (name : String) (fields : Fields) (rest : Variants)
end

/-- Fields from a list. -/
def Fields.ofList : List (String × Ty) → Fields
  | [] => .nil
  | (name, t) :: rest => .cons name t (Fields.ofList rest)

/-- Variants from a list. -/
def Variants.ofList : List (String × List (String × Ty)) → Variants
  | [] => .nil
  | (name, fields) :: rest => .cons name (Fields.ofList fields) (Variants.ofList rest)

/-! ## Values -/

mutual
/-- The values of a type. -/
def Ty.denote : Ty → Type
  | .bool => Bool
  | .u8 => UInt8
  | .u16 => UInt16
  | .u32 => UInt32
  | .u64 => UInt64
  | .option t => Option t.denote
  | .vec t => List t.denote
  | .struct fields => fields.denote
  | .enum variants => variants.denote

/-- The values of a list of fields: one component a field. -/
def Fields.denote : Fields → Type
  | .nil => Unit
  | .cons _ t rest => t.denote × rest.denote

/-- The values of a list of variants: one summand a variant. -/
def Variants.denote : Variants → Type
  | .nil => Empty
  | .cons _ fields rest => fields.denote ⊕ rest.denote
end

mutual
/-- The codec of a type. -/
def Ty.codec : (t : Ty) → Codec t.denote
  | .bool => Codec.bool
  | .u8 => Codec.u8
  | .u16 => Codec.u16
  | .u32 => Codec.u32
  | .u64 => Codec.u64
  | .option t => Codec.option t.codec
  | .vec t => Codec.vec t.codec
  | .struct fields => fields.codec
  | .enum variants => variants.tagged.toCodec

/-- The codec of a list of fields. -/
def Fields.codec : (fields : Fields) → Codec fields.denote
  | .nil => Codec.unit
  | .cons _ t rest => Codec.pair t.codec rest.codec

/-- The writers and readers of a list of variants. -/
def Variants.tagged : (variants : Variants) → Tagged variants.denote
  | .nil => Tagged.nil
  | .cons _ fields rest => Tagged.cons fields.codec rest.tagged
end

/-! ## Reading a record by name -/

/-- A value together with its type. -/
abbrev AnyValue := (t : Ty) × t.denote

theorem AnyValue.inj {t : Ty} {x y : t.denote} (h : some (⟨t, x⟩ : AnyValue) = some ⟨t, y⟩) :
    x = y :=
  eq_of_heq (Sigma.mk.inj (Option.some.inj h)).2

/-- The value of the first field of a given name. -/
def Fields.get? : (fields : Fields) → fields.denote → String → Option AnyValue
  | .nil, _, _ => none
  | .cons name t rest, v, key => if key = name then some ⟨t, v.1⟩ else rest.get? v.2 key

/-- Each field of the value holds what the assignment says of its name. -/
def Fields.Holds (σ : String → Option AnyValue) : (fields : Fields) → fields.denote → Prop
  | .nil, _ => True
  | .cons name t rest, v => σ name = some ⟨t, v.1⟩ ∧ rest.Holds σ v.2

/-- The names of the fields. -/
def Fields.names : Fields → List String
  | .nil => []
  | .cons name _ rest => name :: rest.names

/-- A record holds an assignment: its field of a name is what the assignment says. -/
theorem Fields.Holds.get?_eq {σ : String → Option AnyValue} {name : String} :
    ∀ {fields : Fields} {v : fields.denote}, fields.Holds σ v →
      fields.get? v name = if name ∈ fields.names then σ name else none
  | .nil, _, _ => rfl
  | .cons key t rest, (x, v), ⟨hσ, hv⟩ => by
    show (if name = key then some ⟨t, x⟩ else rest.get? v name) =
      if name ∈ key :: rest.names then σ name else none
    by_cases hkey : name = key
    · subst hkey
      rw [if_pos rfl, if_pos (List.mem_cons_self ..), hσ]
    · rw [if_neg hkey, Fields.Holds.get?_eq hv]
      simp only [List.mem_cons, hkey, false_or]

/-- Two assignments held by one record agree on the names of its fields. -/
theorem Fields.Holds.agree {σ τ : String → Option AnyValue} : ∀ {fields : Fields}
    {v : fields.denote}, fields.Holds σ v → fields.Holds τ v →
      ∀ name ∈ fields.names, σ name = τ name
  | .nil, _, _, _, name, h => by cases h
  | .cons key t rest, (x, v), ⟨hσ, hv⟩, ⟨hτ, hw⟩, name, h => by
    rcases List.mem_cons.1 h with rfl | h
    · exact hσ.trans hτ.symm
    · exact Fields.Holds.agree hv hw name h

/-- An assignment of names to values determines the record that holds it. -/
theorem Fields.Holds.unique {σ : String → Option AnyValue} : ∀ {fields : Fields}
    {v w : fields.denote}, fields.Holds σ v → fields.Holds σ w → v = w
  | .nil, _, _, _, _ => rfl
  | .cons _ t rest, (x, v), (y, w), ⟨hx, hv⟩, ⟨hy, hw⟩ => by
    have hxy : (⟨t, x⟩ : AnyValue) = ⟨t, y⟩ := Option.some.inj (hx.symm.trans hy)
    have hval : x = y := by simpa using hxy
    have hrest : v = w := Fields.Holds.unique hv hw
    rw [hval, hrest]

end Borsh
