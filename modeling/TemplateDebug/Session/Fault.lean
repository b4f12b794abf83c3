import TemplateDebug.Json.Basic
/-!
# Faults of messages

Why a message that should be mapped is not: a member is missing or has the wrong kind.
-/

namespace TemplateDebug.Session

inductive Fault where
  | missing (field : String)
  | invalid (field : String)
  deriving DecidableEq, Repr

def Fault.message : Fault → String
  | missing field => "message has no `" ++ field ++ "`"
  | invalid field => "message has an invalid `" ++ field ++ "`"

/-- The items of the list under `key` of the body of a response. -/
def bodyItems (key : String) (message : Json) : Except Fault (List Json) :=
  match message.get? "body" with
  | none => .error (.missing "body")
  | some body => match body.get? key with
    | none => .error (.missing ("body." ++ key))
    | some list => match list.items? with
      | none => .error (.invalid ("body." ++ key))
      | some items => .ok items

/-- The response with the list under `key` of its body replaced. -/
def setBodyItems (key : String) (items : List Json) (message : Json) : Json :=
  match message.get? "body" with
  | some body => message.set "body" (body.set key (.arr items))
  | none => message

end TemplateDebug.Session
