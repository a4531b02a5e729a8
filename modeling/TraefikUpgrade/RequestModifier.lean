import TraefikUpgrade.Middleware.Basic
import TraefikUpgrade.Text.Blank
import TraefikUpgrade.Text.Quoted
import TraefikUpgrade.Text.Segment

/-!
Contract: the request modifier annotation, `<rule> [: <value>]`.

Owns: its rules, the grammar of its text, the middleware that a text stands
for, and the four ways in which a text can fail to stand for one.

Does not own: what happens to an annotation that fails
(`TraefikUpgrade.Conversion`).
-/

set_option autoImplicit false

namespace TraefikUpgrade

inductive ModifierRule where
  | addPrefix
  | replacePath
  | replacePathRegex
deriving DecidableEq, Repr

def ModifierRule.name : ModifierRule → String
  | .addPrefix => "AddPrefix"
  | .replacePath => "ReplacePath"
  | .replacePathRegex => "ReplacePathRegex"

inductive RequestModifierError where
  | empty
  | malformed (text : String)
  | missingValue (rule : ModifierRule)
  | missingReplacement (rule : ModifierRule) (value : String)
deriving DecidableEq, Repr

def RequestModifierError.message : RequestModifierError → String
  | .empty => "request modifier is empty"
  | .malformed text => s!"cannot parse request modifier: {Text.quoted text}"
  | .missingValue rule => s!"rule {rule.name} has no value"
  | .missingReplacement rule value =>
      s!"rule {rule.name} requires a regex and a replacement separated by a space: {Text.quoted value}"

namespace RequestModifier

def isSpacing (character : Char) : Bool :=
  character = ' ' || character = '\t' || character = '\r' || character = '\n'

/-- What separates a regex from its replacement. -/
def endsRegex (character : Char) : Bool :=
  character = ' ' || character = '\t'

/-- The text between its outer spacing, where a trailing colon counts as spacing. -/
def body (text : String) : List Char :=
  Text.trimStart (Text.dropTrailing (fun character => character = ' ' || character = ':')
    text.toList)

/-- The rule that a text starts with, and what follows it. The longer of two rule names counts. -/
def rule? (text : List Char) : Option (ModifierRule × List Char) :=
  [ModifierRule.replacePathRegex, .replacePath, .addPrefix].findSome? fun rule =>
    (Text.dropLeading? rule.name.toList text).map fun rest => (rule, rest)

/-- The rule and the trimmed value of a text; the value is empty without a colon. -/
def ruleAndValue? (text : List Char) : Option (ModifierRule × List Char) := do
  let (rule, rest) ← rule? text
  match rest.dropWhile isSpacing with
  | [] => some (rule, [])
  | ':' :: value => some (rule, Text.trim value)
  | _ => none

def regexAndReplacement? (value : List Char) : Option (List Char × List Char) :=
  match value.dropWhile fun character => !endsRegex character with
  | [] => none
  | rest =>
      some (value.takeWhile fun character => !endsRegex character,
        Text.trim (rest.dropWhile isSpacing))

def kindOf (rule : ModifierRule) (value : List Char) :
    Except RequestModifierError MiddlewareKind :=
  match rule with
  | .addPrefix => .ok (.addPrefix (String.ofList value))
  | .replacePath => .ok (.replacePath (String.ofList value))
  | .replacePathRegex =>
      match regexAndReplacement? value with
      | some (regex, replacement) =>
          .ok (.replacePathRegex ⟨String.ofList regex, String.ofList replacement⟩)
      | none => .error (.missingReplacement rule (String.ofList value))

/-- The middleware that a request modifier stands for. -/
def parse (text : String) : Except RequestModifierError MiddlewareKind :=
  let content := body text
  if content.isEmpty then .error .empty
  else
    match ruleAndValue? content with
    | none => .error (.malformed (String.ofList content))
    | some (rule, value) =>
        if value.isEmpty then .error (.missingValue rule) else kindOf rule value

end RequestModifier

end TraefikUpgrade
