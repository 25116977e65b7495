import LogQuery.Config.Arguments
import LogQuery.Store.Client

namespace LogQuery.CommandLine

open Config

/-! The command line checks the options that it is given and says with which
address, database and socket the service would start. -/

def environmentOfProcess : IO Environment := do
  let found ← OptionName.all.mapM fun option => do
    let value ← IO.getEnv option.variableName
    pure (value.map fun text => (option.variableName, text))
  pure (found.filterMap id)

def startLine (config : StoreConfig) (bind : SocketAddress) : String :=
  "starting klogs (address=" ++ config.address ++ ", database=" ++ config.database ++
    ", bind=" ++ bind.write ++ ")"

def checkOptions (options : Options) : Except ServiceError String := do
  let config ← options.storeConfig.mapError ServiceError.config
  let _ ← options.defaultLimit?.mapError ServiceError.config
  let _ ← StoreClient.ofConfig config
  .ok (startLine config options.bind)

/-- The exit code says whether the service would start. -/
def run (arguments : List String) : IO UInt32 := do
  match Options.read arguments (← environmentOfProcess) with
  | .error fault =>
      if fault.isMistake then
        IO.eprintln ("error: " ++ fault.message)
        pure 2
      else
        IO.println fault.message
        pure 0
  | .ok options =>
      match checkOptions options with
      | .error error =>
          IO.eprintln ("error: " ++ error.message)
          pure 1
      | .ok line =>
          IO.println line
          pure 0

end LogQuery.CommandLine

def main (arguments : List String) : IO UInt32 :=
  LogQuery.CommandLine.run arguments
