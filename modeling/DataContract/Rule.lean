import DataContract.Failure
import DataContract.Value.Name

/-!
# Rules

A rule checks a value that satisfies its schema already, usually several
fields together. A guard selects the values that the rule applies to. What the
body of a rule answers is brought into one form: a list of failures, empty if
nothing is wrong.
-/

namespace DataContract

/-- What the body of a rule answers. -/
inductive Verdict
  /-- Nothing is wrong. -/
  | pass
  /-- Something is wrong, in no particular words. -/
  | fail
  /-- What is wrong, in words. -/
  | message (text : String)
  /-- Where something is wrong, and what. -/
  | located
      (path : Path)
      (text : String)
  /-- Several answers. -/
  | several (answers : List Verdict)
  /-- Anything else. -/
  | unsupported (value : Value)

namespace Verdict

/-- The path that the first part of an answer gives. -/
def segments : Value → Path
  | .list items => items
  | .tuple items => items
  | segment => [segment]

mutual

/-- The answer that a value stands for. -/
def ofValue : Value → Verdict
  | .null => .pass
  | .bool flag => if flag then .pass else .fail
  | .text text => .message text
  | .tuple [path, .text text] => .located (segments path) text
  | .record .brokenRule [_, .tuple path, .text text] => .located path text
  | .list items => .several (ofValues items)
  | other => .unsupported other

/-- The answers that values stand for. -/
def ofValues : List Value → List Verdict
  | [] => []
  | value :: rest => ofValue value :: ofValues rest

end

/-- The failure of a rule at a path, whose segments must be of a kind that
segments can have. -/
def failureAt (path : Path) (text : String) : Attempt Failure :=
  if path.all Value.isSegment then .ok (.rule path text) else .error .invalidField

/-- The failure of a rule as a record, as which the body of a rule may answer
with it. -/
def recordAt (path : Path) (text : String) : Attempt Value := do
  let _ ← failureAt path text
  .ok (.record .brokenRule [.text "rule", .tuple path, .text text])

mutual

/-- The failures that an answer of the rule with a name reports. -/
def failures (rule : String) : Verdict → Attempt (List Failure)
  | .pass => .ok []
  | .fail => .ok [.rule [] (rule ++ " failed")]
  | .message text => .ok [.rule [] text]
  | .located path text => do .ok [← failureAt path text]
  | .several answers => failuresOfAll rule answers
  | .unsupported value => refuse (.unsupportedRuleResult rule value)

/-- The failures that several answers report. -/
def failuresOfAll (rule : String) : List Verdict → Attempt (List Failure)
  | [] => .ok []
  | answer :: rest => do
      let first ← answer.failures rule
      let others ← failuresOfAll rule rest
      .ok (first ++ others)

end

end Verdict

mutual

/-- Whether a value has all entries of a pattern. Maps inside the pattern are
patterns for the maps inside the value; other values must be equal. -/
def matchesPattern (pattern value : Value) : Attempt Bool :=
  match value with
  | .map entries =>
      match pattern with
      | .map wanted => matchesEntries wanted entries
      | _ => .error .missingOperation
  | _ => .ok false

/-- Whether a map has all entries of a pattern. -/
def matchesEntries (wanted : List (Value × Value)) (entries : Entries) : Attempt Bool :=
  match wanted with
  | [] => .ok true
  | (key, expected) :: rest =>
      match entries.get? key with
      | none => .ok false
      | some found => do
          if ← matchesExpected expected found then matchesEntries rest entries else .ok false

/-- Whether a value is as a pattern expects. -/
def matchesExpected (expected found : Value) : Attempt Bool :=
  match expected with
  | .map wanted =>
      match found with
      | .map entries => matchesEntries wanted entries
      | _ => .ok false
  | other => found.equals other

end

/-- Which values a rule applies to. -/
inductive Guard
  | always
  | pattern (entries : Entries)
  | check (test : Value → Attempt Bool)
  | unusable (value : Value)

/-- A guard given as a value: absent, a pattern, or nothing that can be one. -/
def Guard.ofValue : Value → Guard
  | .null => .always
  | .map entries => .pattern entries
  | other => .unusable other

/-- A rule. -/
structure Rule where
  /-- The name it is reported with. -/
  name : String
  /-- Which values it applies to. -/
  guard : Guard
  /-- What it answers to a value that it applies to. -/
  body : Value → Attempt Verdict

namespace Rule

/-- The rule with a name. -/
def named
    (name : Value)
    (guard : Guard)
    (body : Value → Attempt Verdict) : Attempt Rule := do
  .ok ⟨← name.asName, guard, body⟩

/-- Whether a rule applies to a value. -/
def appliesTo (rule : Rule) (value : Value) : Attempt Bool :=
  match rule.guard with
  | .always => .ok true
  | .pattern entries => matchesPattern (.map entries) value
  | .check test => test value
  | .unusable guard => refuse (.unusableRuleGuard rule.name guard)

/-- The failures that a rule reports for a value. -/
def apply (rule : Rule) (value : Value) : Attempt (List Failure) := do
  if ← rule.appliesTo value then (← rule.body value).failures rule.name else .ok []

end Rule

/-- The failures that rules report for a value, in the order of the rules. -/
def applyRules : List Rule → Value → Attempt (List Failure)
  | [], _ => .ok []
  | rule :: rest, value => do
      let first ← rule.apply value
      let others ← applyRules rest value
      .ok (first ++ others)

/-- What is given for a rule: a rule, a function with a name of its own, or
something that cannot be applied. -/
inductive RuleSource
  | rule (rule : Rule)
  | function
      (name : String)
      (body : Value → Attempt Verdict)
  | unusable (value : Value)

/-- The rule that is given, a function becoming a rule with a name and a guard.
A name that counts as false gives way to the function's own. -/
def RuleSource.toRule
    (source : RuleSource)
    (name : Value)
    (guard : Guard) : Attempt Rule :=
  match source with
  | .rule given => .ok given
  | .function own body => Rule.named (if name.truthy then name else .text own) guard body
  | .unusable value => refuse (.unusableRuleBody value)

end DataContract
