import ResourceTables.Config.Json
import ResourceTables.Json.Quoted
import ResourceTables.Native.Document

/-!
# Expressions written in JSON

A JSON value stands for an expression: strings and the names of members are templates in the native
notation, arrays are tuples and objects are objects. Comments are left out.
-/

namespace ResourceTables.Json

/-- The template that a text writes at a place of the configuration. -/
def templateParts (pos : Pos) (s : String) : Except ReadError (List Part) :=
  Native.parseTemplate pos.file pos.line s

/-- The expression of a value without parts. -/
def scalarExpr (o : Origin) : JsonScalar → Except ReadError Expr
  | .null => .ok (.literal o .null)
  | .bool b => .ok (.literal o (.bool b))
  | .number d => .ok (.literal o (.number d))
  | .text s => (templateParts o.pos s).map (.template o)

/-- The expression of a member's name. -/
def keyExpr (pos : Pos) (key : String) : Except ReadError Expr :=
  (templateParts pos key).map (.template ⟨pos, String.ofList (encode key)⟩)

mutual

/-- The expression that a JSON value stands for. -/
def expr : JsonNode → Except ReadError Expr
  | .scalar o value => scalarExpr o value
  | .array o items => (exprs items).map (.tuple o)
  | .object o pairs => (objectItems pairs).map (.object o)

/-- The expressions that JSON values stand for. -/
def exprs : List JsonNode → Except ReadError (List Expr)
  | [] => .ok []
  | node :: rest => do
    let e ← expr node
    return e :: (← exprs rest)

/-- The items of an object constructor that JSON members stand for. -/
def objectItems : List JsonPair → Except ReadError (List ObjectItem)
  | [] => .ok []
  | .mk key pos value :: rest =>
    if key == JsonPair.commentKey then objectItems rest
    else do
      let k ← keyExpr pos key
      let v ← expr value
      return .mk k v :: (← objectItems rest)

end

end ResourceTables.Json
