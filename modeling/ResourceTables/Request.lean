import ResourceTables.Failure
import ResourceTables.Yaml.Data

/-!
# Requests for tables

A request is a YAML list of mappings: each names a resource type and lists the attributes that its
table shows.
-/

namespace ResourceTables.TableRequest

/-- The texts of a list, if all its entries are texts. -/
def names? (d : Yaml.Data) : Option (List String) := do
  (← d.entries?).mapM fun entry => entry.bind Yaml.Data.text?

/-- The table that the entry of the given number asks for. -/
def ofEntry (entry : Nat) (d : Option Yaml.Data) : Except RequestError TableRequest :=
  match d.filter Yaml.Data.isMapping with
  | none => .error (.noMapping entry)
  | some d =>
    match (d.get? "name").bind Yaml.Data.text? with
    | none | some "" => .error (.noName entry)
    | some type =>
      match d.get? "attributes" with
      | none => .ok ⟨type, []⟩
      | some a =>
        if a.isVoid then .ok ⟨type, []⟩
        else match names? a with
          | some attributes => .ok ⟨type, attributes⟩
          | none => .error (.attributes type)

/-- The tables that a text asks for. -/
def parse (text : String) : Except RequestError (List TableRequest) :=
  match Yaml.Data.ofText text with
  | .error fault =>
    match fault.text? text with
    | some reason => .error (.malformed reason)
    | none => .error .beyondLimits
  | .ok none => .ok []
  | .ok (some d) =>
    if d.isNull then .ok []
    else match d.entries? with
      | none => .error .noList
      | some entries => (entries.zipIdx 1).mapM fun (d, entry) => ofEntry entry d

/-- Refuses a request that asks for nothing or for a table without attributes. -/
def check (requests : List TableRequest) : Except RequestError Unit :=
  if requests.isEmpty then .error .nothing
  else match requests.find? (·.attributes.isEmpty) with
    | some r => .error (.noAttributes r.type)
    | none => .ok ()

/-- The tables that a text asks for, each with at least one attribute. -/
def load (text : String) : Except RequestError (List TableRequest) := do
  let requests ← parse text
  check requests
  return requests

end ResourceTables.TableRequest
