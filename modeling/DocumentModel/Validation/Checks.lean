/-
Item checks that come ready made.
-/
import DocumentModel.Schema

namespace DocumentModel.Check

def reportAll (field : String) : List String → Check
  | [] => .done
  | message :: rest => .report field message (reportAll field rest)

/-- Every item is a given integer. -/
def onlyInt (n : Int64) (message : String) (field : String) (item : Value) : Check :=
  if item.asInt? = some n then .done else .report field message .done

/-- No item is greater than the number in another field, as long as both are integers. -/
def atMost (other message : String) (field : String) (item : Value) : Check :=
  .fieldValue other fun limit? =>
    match limit?.bind Value.asInt?, item.asInt? with
    | some limit, some n => if limit < n then .report field message .done else .done
    | _, _ => .done

/-- Report the type of every item. -/
def reportType (message : String → String) (field : String) (item : Value) : Check :=
  .typeName item fun name => .report field (message name) .done

/-- Report how many errors stand before every item. -/
def reportCount (message : Nat → String) (field : String) (_ : Value) : Check :=
  .errorsSoFar fun e => .report field (message e.count) .done

/-- Report every item under another field's name, with the label of its own. -/
def reportElsewhere (other : String) (message : String → String) (field : String) (_ : Value) :
    Check :=
  .report other (message (Text.label field)) .done

/-- Every embedded document among the items is valid; its errors are reported as the field's. -/
def nested (message : String → String) (field : String) (item : Value) : Check :=
  match item with
  | .document r => .validate r fun e => reportAll field (e.fullMessages.map message)
  | _ => .done

/-- Every item is what another field asks for. -/
def judgedBy (f : Field) (_ : String) (item : Value) : Check :=
  .delegate f item .done

end DocumentModel.Check
