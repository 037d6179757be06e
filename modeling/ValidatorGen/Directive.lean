import ValidatorGen.Directive.Chain

/-!
# Directives

What a call in the documentation of a field asks for: another schema in place of the field's own,
a validator that stands on its own, or one more link of the chain.
-/

namespace ValidatorGen

inductive Directive
  /-- Replaces the base of the field's validator. -/
  | custom (expression : Text)
  /-- Replaces the base of a string field by a validator of that name. -/
  | standalone (name call : Text)
  /-- Is appended to the chain. -/
  | modifier (call : Text)
  deriving DecidableEq, Repr

namespace Directive

/-- The validators that stand on their own. -/
def standaloneNames : List Text :=
  ["email", "url", "httpUrl", "uuid", "uuidv4", "uuidv6", "uuidv7", "guid", "cuid", "cuid2",
   "ulid", "nanoid", "xid", "ksuid", "ipv4", "ipv6", "cidrv4", "cidrv6", "mac", "base64",
   "base64url", "e164", "jwt", "emoji", "hostname", "hex", "iso.date", "iso.time",
   "iso.datetime", "iso.duration"]

/-- The arguments of a call of `custom`: what stands between its brackets. -/
def customExpression (text : Text) : Text :=
  Text.trim ((text.drop "custom(".length).dropLast)

/-- What a call asks for. -/
def ofCall (c : Call) : Directive :=
  if c.name = "custom" then .custom (customExpression c.text)
  else if c.name ∈ standaloneNames then .standalone c.name c.text
  else .modifier c.text

def custom? : Directive → Option Text
  | custom e => some e
  | _ => none

/-- The call of a standalone validator. -/
def standalone? : Directive → Option Text
  | standalone _ c => some c
  | _ => none

def modifier? : Directive → Option Text
  | modifier c => some c
  | _ => none

/-- The expression of a standalone validator. -/
def standaloneExpression (call : Text) : Text := "z." ++ call

/-- The first custom schema. -/
def firstCustom (ds : List Directive) : Option Text := ds.findSome? custom?

/-- The call of the first standalone validator. -/
def firstStandalone (ds : List Directive) : Option Text := ds.findSome? standalone?

/-- The calls to append. -/
def modifiers (ds : List Directive) : List Text := ds.filterMap modifier?

end Directive

end ValidatorGen
