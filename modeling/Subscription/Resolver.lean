import Subscription.Expr.Display

/-! Resolution of leaf operands into the tokens that statements carry. -/

namespace Subscription

/-- A schema as its registry publishes it. -/
structure Schema where
  targetNamespace : Option String
  rootElement : String
deriving DecidableEq

/-- The type token of a schema's messages, in which an empty namespace is left out. -/
def Schema.messageType (schema : Schema) : String :=
  match schema.targetNamespace with
  | some namespaceName =>
    if namespaceName.isEmpty then schema.rootElement
    else namespaceName ++ "#" ++ schema.rootElement
  | none => schema.rootElement

/-- What a host answers about the handles of a filter. -/
structure Resolver where
  /-- The token of a declared attribute. -/
  attributeToken : AttributeId → Option String
  /-- A registered schema. -/
  schema : SchemaId → Option Schema
  /-- The assigned name of an endpoint. -/
  endpointName : EndpointId → Option String

/-- Why an operand has no token. -/
inductive ResolveError where
  | unknownAttribute (id : AttributeId)
  | unknownSchema (id : SchemaId)
  | missingRootElement (id : SchemaId)
  | unnamedEndpoint (id : EndpointId)
  | notAnAttribute (source : String)
  | attributeAsLiteral (id : AttributeId)
deriving DecidableEq

def ResolveError.message : ResolveError → String
  | .unknownAttribute id => "attribute '" ++ id.name ++ "' is not declared in the attribute catalog"
  | .unknownSchema id => "schema '" ++ id.name ++ "' is not registered"
  | .missingRootElement id => "schema '" ++ id.name ++ "' has no root element"
  | .unnamedEndpoint id => "endpoint '" ++ id.name ++ "' has no assigned name"
  | .notAnAttribute source =>
    "a " ++ source ++ " cannot be used as the attribute side of a comparison"
  | .attributeAsLiteral id => "attribute '" ++ id.name ++ "' cannot be used as a literal value"

/-- An answer with something in it. -/
def nonEmpty? (answer : Option String) : Option String :=
  answer.filter (!·.isEmpty)

/-- The token of an operand on the attribute side of a comparison. -/
def Value.attributeToken (resolver : Resolver) : Value → Except ResolveError String
  | .attributeRef id =>
    match nonEmpty? (resolver.attributeToken id) with
    | some token => .ok token
    | none => .error (.unknownAttribute id)
  | other => .error (.notAnAttribute other.sourceName)

/-- The token of an operand on the literal side of a comparison; null has none. -/
def Value.literalToken (resolver : Resolver) : Value → Except ResolveError (Option String)
  | .literal constant => .ok constant.token?
  | .attributeRef id => .error (.attributeAsLiteral id)
  | .schemaType id =>
    match resolver.schema id with
    | none => .error (.unknownSchema id)
    | some schema =>
      if schema.rootElement.isEmpty then .error (.missingRootElement id)
      else .ok (some schema.messageType)
  | .endpointName id =>
    match nonEmpty? (resolver.endpointName id) with
    | some name => .ok (some name)
    | none => .error (.unnamedEndpoint id)

end Subscription
