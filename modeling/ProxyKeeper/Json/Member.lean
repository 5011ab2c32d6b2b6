import ProxyKeeper.Json.Value

/-!
Objects by their members: writing a member from a value of any type that has a JSON form, and reading
a member of a wanted kind.
-/

namespace ProxyKeeper

/-- The types whose values have one JSON form. -/
class ToJson (α : Type) where
  toJson : α → Json

export ToJson (toJson)

instance : ToJson Json := ⟨id⟩
instance : ToJson String := ⟨.string⟩
instance : ToJson Bool := ⟨.bool⟩
instance : ToJson Nat := ⟨.ofNat⟩
instance : ToJson UInt16 := ⟨fun n => .ofNat n.toNat⟩

instance : ToJson Int where
  toJson
    | .ofNat n => .ofNat n
    | i => .number (.integer i)

instance {α : Type} [ToJson α] : ToJson (Option α) := ⟨Json.ofOption toJson⟩
instance {α : Type} [ToJson α] : ToJson (List α) := ⟨fun l => .array (l.map toJson)⟩

namespace Json

/-- A member of an object. -/
def entry {α : Type} [ToJson α] (name : String) (value : α) : String × Json := (name, toJson value)

/-! ## reading members -/

def natural? : Json → Option Nat
  | .number (.natural n) => some n
  | _ => none

/-- The text of a member that is a string. -/
def textAt? (v : Json) (name : String) : Option String :=
  match v.get? name with
  | some (.string s) => some s
  | _ => none

def textAt (v : Json) (name default : String) : String := (v.textAt? name).getD default

/-- The number of a member that is a natural number. -/
def naturalAt (v : Json) (name : String) (default : Nat) : Nat :=
  ((v.get? name).bind natural?).getD default

def flagAt (v : Json) (name : String) (default : Bool) : Bool :=
  match v.get? name with
  | some (.bool b) => b
  | _ => default

/-- The items of a member that is an array; none if there is no such member. -/
def itemsAt (v : Json) (name : String) : List Json :=
  match v.get? name with
  | some (.array items) => items
  | _ => []

/-- The members of a member that is an object; none if there is no such member. -/
def membersAt (v : Json) (name : String) : List (String × Json) :=
  match v.get? name with
  | some (.object members) => members
  | _ => []

end Json

end ProxyKeeper
