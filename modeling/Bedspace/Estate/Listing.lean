import Bedspace.Estate.Import
import Bedspace.Store.Program
import Bedspace.Text.Order

/-!
# Listing and loading the estate

* `Premises.list` lists the premises of one service or of both by name, premises of one name by
  identifier;
* `Estate.load` and `District.loadAll` write an imported estate and imported districts into the
  store and count them.
-/

namespace Bedspace

open Operation

/-- Whether a summary comes before another one in a listing. -/
def PremisesSummary.listedBefore (a b : PremisesSummary) : Bool :=
  Text.precedes [a.name, a.id.text] [b.name, b.id.text]

/-- Makes a call and keeps its error. -/
def request (c : Call) : Operation StoreError c.Answer := call (fun error => error) c

namespace Premises

/-- The services that a listing covers. -/
def listedServices : Option Service → List Service
  | some service => [service]
  | none => [.approvedPremises, .temporaryAccommodation]

/-- The premises of services, one service after the other. -/
def gather : List Service → Operation StoreError (List Inventory)
  | [] => pure []
  | service :: services => do
    let found ← request (.inventory service)
    let others ← gather services
    pure (found ++ others)

/-- The premises of one service or of both, by name. -/
def list (service : Option Service) : Operation StoreError (List PremisesSummary) := do
  let found ← gather (listedServices service)
  pure ((found.map Inventory.summary).mergeSort PremisesSummary.listedBefore)

/-- The summary of premises. -/
def find (premises : PremisesId) : Operation StoreError PremisesSummary := do
  let found ← request (.premises premises)
  let inventory ← demand .notFound found
  pure inventory.summary

end Premises

/-- Makes calls that answer nothing, one after the other. -/
def performAll {α : Type} (write : α → Operation StoreError Unit) :
    List α → Operation StoreError Unit
  | [] => pure ()
  | a :: as => do
    write a
    performAll write as

/-- Writes an estate into the store and counts its premises. -/
def Estate.load (estate : Estate) : Operation StoreError Nat := do
  performAll (fun inventory => request (.putPremises inventory)) estate
  pure estate.length

/-- Writes postcode districts into the store and counts them. -/
def District.loadAll (districts : List District) : Operation StoreError Nat := do
  performAll (fun district => request (.putDistrict district)) districts
  pure districts.length

end Bedspace
