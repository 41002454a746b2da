import Subscription.Resolver
import Subscription.Table

/-! Catalogs held in memory, which answer for attributes, schemas and endpoints. -/

namespace Subscription

/-- Tables of everything that a filter's handles may name. -/
structure Catalog where
  attributes : Table String := .empty
  schemas : Table Schema := .empty
  endpoints : Table String := .empty

namespace Catalog

/-- The catalog with an attribute's token written. -/
def withAttribute (c : Catalog) (id : AttributeId) (token : String) : Catalog :=
  { c with attributes := c.attributes.insert id.name token }

/-- The catalog with a schema written. -/
def withSchema (c : Catalog) (id : SchemaId) (schema : Schema) : Catalog :=
  { c with schemas := c.schemas.insert id.name schema }

/-- The catalog with an endpoint's name written. -/
def withEndpoint (c : Catalog) (id : EndpointId) (name : String) : Catalog :=
  { c with endpoints := c.endpoints.insert id.name name }

/-- A catalog answers each handle from the table of its kind. -/
def resolver (c : Catalog) : Resolver where
  attributeToken id := c.attributes.get? id.name
  schema id := c.schemas.get? id.name
  endpointName id := c.endpoints.get? id.name

end Catalog

end Subscription
