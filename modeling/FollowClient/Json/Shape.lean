import FollowClient.Json.Written

/-!
Shapes of bodies. Where a body is a record with known fields, what stands in any other field is only
read as far as its tokens: its numbers may have any size, its strings any bytes and its nesting any
depth. A record may be written as an object, where a known field must not be repeated, or as the
list of its fields in order.
-/

namespace FollowClient.Json

/-- What is known about a part of a body. -/
inductive Shape where
  | any
  | items (of : Shape)
  | fields (known : List (String × Shape))

namespace Shape

/-- The shape of the field `key`. -/
def find (key : String) : List (String × Shape) → Option Shape
  | [] => none
  | (k, s) :: rest => if k = key then some s else find key rest

/-- The fields of a record by place, `any` behind the last one. -/
def nth : List (String × Shape) → Nat → Shape
  | [], _ => .any
  | (_, s) :: _, 0 => s
  | _ :: rest, n + 1 => nth rest n

mutual

/-- The value of a text with respect to a shape: unknown fields of records are left out. -/
def value? : Shape → Nat → Written → Option Json
  | .items of, depth + 1, .list ws => (values? of depth ws).map .arr
  | .fields known, depth + 1, .list ws => (places? known 0 depth ws).map .arr
  | .fields known, depth + 1, .members ms => (members? known [] depth ms).map Json.object
  | _, depth, w => Written.toJson? depth w

/-- The values of the items of an array. -/
def values? : Shape → Nat → List Written → Option (List Json)
  | _, _, [] => some []
  | of, depth, w :: rest => do
    let v ← value? of depth w
    let vs ← values? of depth rest
    pure (v :: vs)

/-- The values of the fields of a record that is written as a list. -/
def places? : List (String × Shape) → Nat → Nat → List Written → Option (List Json)
  | _, _, _, [] => some []
  | known, place, depth, w :: rest => do
    let v ← value? (nth known place) depth w
    let vs ← places? known (place + 1) depth rest
    pure (v :: vs)

/-- The known fields of a record that is written as an object; `seen` are those already read. -/
def members? :
    List (String × Shape) → List String → Nat → List (List UInt8 × Written) →
      Option (List (String × Json))
  | _, _, _, [] => some []
  | known, seen, depth, (key, w) :: rest => do
    let k ← Escape.text? key
    match find k known with
    | none => members? known seen depth rest
    | some shape =>
      if k ∈ seen then none
      else
        let v ← value? shape depth w
        let ms ← members? known (k :: seen) depth rest
        pure ((k, v) :: ms)

end

/-- Reads a JSON text of a shape. -/
def read? (shape : Shape) (bytes : List UInt8) : Option Json :=
  (Written.read? bytes).bind (value? shape depthLimit)

end Shape

end FollowClient.Json
