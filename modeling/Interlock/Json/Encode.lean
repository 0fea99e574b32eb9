import Interlock.Json.Value

namespace Interlock

/-- Types whose values have a JSON form. -/
class Encode (α : Type) where
  encode : α → Json

export Encode (encode)

instance : Encode Json where
  encode j := j

instance : Encode Unit where
  encode _ := .null

instance : Encode Bool where
  encode := .bool

instance : Encode String where
  encode := .ofString

instance : Encode Nat where
  encode := .ofNat

/-- A value that is absent is null. -/
instance {α : Type} [Encode α] : Encode (Option α) where
  encode := Json.ofOption encode

instance {α : Type} [Encode α] : Encode (List α) where
  encode l := .array (l.map encode)

/-- A pair is an array of two. -/
instance {α β : Type} [Encode α] [Encode β] : Encode (α × β) where
  encode p := .array [encode p.1, encode p.2]

namespace Json

/-- A field of an object, with its value in JSON form. -/
def field {α : Type} [Encode α] (key : String) (a : α) : String × Json :=
  (key, encode a)

end Json

end Interlock
