import LogQuery.Config.Duration
import LogQuery.Config.Setting
import LogQuery.Config.SocketAddress
import LogQuery.Config.Fault
import LogQuery.Query.Token
import LogQuery.Error
import LogQuery.Fields.KeySet

namespace LogQuery.Config

/-! The options of the service, as they are read. -/

structure Options where
  address : String := "http://localhost:8123"
  username : String := "default"
  password : String := ""
  database : String := "logs"
  materializedColumns : List String := []
  dialTimeout : Duration := .ofSeconds 10
  connMaxLifetime : Option Duration := none
  maxIdleConns : Nat := 5
  maxOpenConns : Nat := 10
  settings : List Setting := []
  bind : SocketAddress := ⟨.v4 [0, 0, 0, 0], 8080⟩
  defaultLimit : Nat := 100
  deriving DecidableEq, Repr

/-! How the store is reached, once the options were checked. Settings are sorted
by key, and a key occurs once. -/

structure StoreConfig where
  address : String
  username : String
  password : String
  database : String
  materializedColumns : List String
  dialTimeout : Duration
  connMaxLifetime : Option Duration
  maxIdleConns : Nat
  maxOpenConns : Nat
  settings : List (String × String)
  deriving DecidableEq, Repr

/-- The names that are left when blanks around them are dropped, each once. -/
def uniqueNames (names : List String) : List String :=
  (KeySet.ofList ((names.map Text.trim).filter (· ≠ ""))).toList

/-- The last value given for a key counts. -/
def lastSettings (settings : List Setting) : List (String × String) :=
  settings.foldl (fun sorted setting => Json.insertField setting.key setting.value sorted)
    []

namespace Options

def database? (options : Options) : Except ConfigFault String :=
  let database := Text.trim options.database
  if database = "" then .error .emptyDatabase
  else if Query.isIdentifier database then .ok database
  else .error (.invalidDatabase database)

def columns? (options : Options) : Except ConfigFault (List String) :=
  let names := uniqueNames options.materializedColumns
  match names.find? fun name => !Query.isIdentifier name with
  | some name => .error (.invalidColumn name)
  | none => .ok names

def storeConfig (options : Options) : Except ConfigFault StoreConfig := do
  let database ← options.database?
  let columns ← options.columns?
  if options.connMaxLifetime.any Duration.isZero then .error .zeroLifetime
  else
    .ok
      { address := Text.trim options.address
        username := options.username
        password := options.password
        database := database
        materializedColumns := columns
        dialTimeout := options.dialTimeout
        connMaxLifetime := options.connMaxLifetime
        maxIdleConns := options.maxIdleConns
        maxOpenConns := options.maxOpenConns
        settings := lastSettings options.settings }

def defaultLimit? (options : Options) : Except ConfigFault Nat :=
  if 1 ≤ options.defaultLimit ∧ options.defaultLimit ≤ maxLimit then
    .ok options.defaultLimit
  else .error .defaultLimitOutOfRange

end Options

end LogQuery.Config
