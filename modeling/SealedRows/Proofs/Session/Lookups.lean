import SealedRows.Proofs.Codec.EqualLayouts
import SealedRows.Proofs.Session.Opens
import SealedRows.Proofs.Sql.ReadClause

/-! # Rows looked up by a value

Rows are looked up by the plain form of a value, or by null. The database finds the rows whose field
equals the value, but for decimals: of those it finds only the ones that are also written alike.
-/
namespace SealedRows
open Sql

section
variable {name : Text} (hname : IsPlainName name)
include hname

end

namespace ValueKind
variable {kind : ValueKind} {v w : Value}

end ValueKind

namespace Sql
variable {name : Text} {w plain : Value} {j : Judgement} {columns : Option Text → Text → Value}
  {parameters : List Value}

end Sql

namespace Column
variable {c : Column} {v w : Value} {parameters : List Value}

end Column

namespace Session
variable {catalog : Catalog} {session : Session} {s : Schema} {c : Column} {typeName field : Text}
  {w : Value} {parameters : List Value}

section
variable (hs : (schemaFor typeName session).1 = .ok s) (hc : lookupColumn s field = .ok c)
  (hparameters : lookupParameters c w = .ok parameters)
include hs hc hparameters

variable (hready : Ready catalog session)
include hready

end

end Session

namespace Offer

def declarations : List TypeDeclaration :=
  [⟨"Offer",some "offers",none,true,
    [⟨"id","int",some { ColumnOptions.plain with primaryKey := true },.required,true⟩,
      ⟨"price","Decimal",none,.required,true⟩]⟩]

def catalog : Catalog := declarations.map (Catalog.typeOf none)

def price : Column := { name := "price", fieldName := "price", kind := .decimal, ordinal := 1 }

def session : Session := .new catalog .aes256 ⟨Database.memory,[],[]⟩ []

set_option maxRecDepth 4000 in
theorem exists_schema : ∃ s, catalog.schemaOf "Offer" = .ok s ∧ s.name = "offers" ∧
    (Session.schemaFor "Offer" session).1 = .ok s ∧ Session.lookupColumn s "price" = .ok price :=
  ⟨_,rfl,rfl,rfl,rfl⟩

def short : Decimal := .finite false 15 (-1)

def long : Decimal := .finite false 150 (-2)

end Offer
end SealedRows
