import PromptRelay.Backend
import PromptRelay.Json.Shape

namespace PromptRelay

class Json.Form (α : Type) where
  shape : Json.Shape
  ofJson? : Json → Option α
  toJson : α → Json

def Json.parse (α : Type) [Json.Form α] (s : String) : Except Json.Error α := do
  let v ← (Json.Form.shape α).parse s
  match Json.Form.ofJson? v with
  | some x => return x
  | none => throw ((Json.Cursor.start s).error (.unfit "no such value"))

def Json.optional : Json → Option Binary
  | .single x => some x
  | _ => none

instance : Json.Form Request where
  shape := .record "Request" [("query", .string, none)]
  ofJson?
    | .object [(_, .string query)] => some ⟨query⟩
    | _ => none
  toJson r := .object [("query", .string r.query)]

instance : Json.Form Sampling where
  shape := .record "Sampling"
    [("max_tokens", .nat32, none), ("temperature", .option .single, some .null),
     ("top_p", .option .single, some .null), ("repeat_penalty", .option .single, some .null)]
  ofJson?
    | .object [(_, .nat n), (_, t), (_, p), (_, r)] =>
      some ⟨n, Json.optional t, Json.optional p, Json.optional r⟩
    | _ => none
  toJson := Sampling.toJson

instance : Json.Form BackendKind where
  shape := .choice ["local", "remote"]
  ofJson?
    | .string "local" => some .onDevice
    | .string "remote" => some .remote
    | _ => none
  toJson k := .string k.name

end PromptRelay
