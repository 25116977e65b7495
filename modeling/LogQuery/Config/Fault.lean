import LogQuery.Http.UrlFault

namespace LogQuery

/-! The greatest number of documents that one request may ask for. -/

def maxLimit : Nat := 10000

/-! What can be wrong with options that were read without fault. -/

inductive ConfigFault where
  | emptyDatabase
  | invalidDatabase (name : String)
  | invalidColumn (name : String)
  | zeroLifetime
  | defaultLimitOutOfRange
  | invalidAddress (address : String) (fault : Http.UrlFault)
  deriving DecidableEq, Repr

def ConfigFault.message : ConfigFault → String
  | .emptyDatabase => "database must not be empty"
  | .invalidDatabase name => "invalid database name `" ++ name ++ "`"
  | .invalidColumn name => "invalid materialized column `" ++ name ++ "`"
  | .zeroLifetime => "conn-max-lifetime must be positive"
  | .defaultLimitOutOfRange => "default-limit must be between 1 and " ++ maxLimit.repr
  | .invalidAddress address fault =>
      "invalid clickhouse address " ++ address ++ ": " ++ fault.message

end LogQuery
