import TopDown.Json.Value
import TopDown.Table.Reader

namespace TopDown

def RuleDraft.toJsonValue (rule : RuleDraft) : Json.Value :=
  .object [("name", .string rule.name), ("alternatives", .array (rule.alternatives.map .strings))]

namespace GrammarTable

def listField (name : String) (items : List String) : List (String × Json.Value) :=
  if items.isEmpty then [] else [(name, .strings items)]

def toJsonValue (t : GrammarTable) : Json.Value :=
  .object ([("start", .string t.start), ("end_marker", .string t.endMarker),
    ("terminal_policy", .string t.policy.name)] ++ listField "patterns" t.patterns ++
    listField "literals" t.literals ++
    [("allow_left_recursion", .bool t.allowLeftRecursion),
      ("rules", .array (t.rules.map RuleDraft.toJsonValue))])

def toJson (t : GrammarTable) : String :=
  t.toJsonValue.render

end GrammarTable

end TopDown
