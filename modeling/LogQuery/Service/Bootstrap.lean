import LogQuery.Fields.Refresher
import LogQuery.Service.Router
import LogQuery.Store.Client

namespace LogQuery.Service

/-! The service starts by asking the store for its version and for the keys of the
last hour. It starts all the same if the store gives no answer; only an address
that cannot be read keeps it from starting. -/

def start (config : Config.StoreConfig) (defaultLimit : Nat)
    (answers : List ServerAnswer) : Except ServiceError Service := do
  let client ← StoreClient.ofConfig config
  let schema : Schema := ⟨config.database, config.materializedColumns⟩
  let session := ((Work.query versionStatement).execute (client.session answers)).2
  let refresher : Refresher := { schema, cache := ⟨session, .empty⟩ }
  .ok { schema, cache := refresher.start.cache, defaultLimit }

end LogQuery.Service
