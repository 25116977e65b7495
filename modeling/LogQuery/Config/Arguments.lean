import LogQuery.Config.Options

namespace LogQuery.Config

/-! Options come from the command line and, where it does not give them, from the
environment. -/

inductive OptionName where
  | address
  | username
  | password
  | database
  | materializedColumns
  | dialTimeout
  | connMaxLifetime
  | maxIdleConns
  | maxOpenConns
  | setting
  | bind
  | defaultLimit
  deriving DecidableEq, Repr

namespace OptionName

def all : List OptionName :=
  [.address, .username, .password, .database, .materializedColumns, .dialTimeout,
    .connMaxLifetime, .maxIdleConns, .maxOpenConns, .setting, .bind, .defaultLimit]

def flag : OptionName → String
  | .address => "address"
  | .username => "username"
  | .password => "password"
  | .database => "database"
  | .materializedColumns => "materialized-columns"
  | .dialTimeout => "dial-timeout"
  | .connMaxLifetime => "conn-max-lifetime"
  | .maxIdleConns => "max-idle-conns"
  | .maxOpenConns => "max-open-conns"
  | .setting => "setting"
  | .bind => "bind"
  | .defaultLimit => "default-limit"

def variableName : OptionName → String
  | .address => "KLOGS_ADDRESS"
  | .username => "KLOGS_USERNAME"
  | .password => "KLOGS_PASSWORD"
  | .database => "KLOGS_DATABASE"
  | .materializedColumns => "KLOGS_MATERIALIZED_COLUMNS"
  | .dialTimeout => "KLOGS_DIAL_TIMEOUT"
  | .connMaxLifetime => "KLOGS_CONN_MAX_LIFETIME"
  | .maxIdleConns => "KLOGS_MAX_IDLE_CONNS"
  | .maxOpenConns => "KLOGS_MAX_OPEN_CONNS"
  | .setting => "KLOGS_SETTINGS"
  | .bind => "KLOGS_BIND"
  | .defaultLimit => "KLOGS_DEFAULT_LIMIT"

/-- Options that may be given more than once. -/
def isList : OptionName → Bool
  | .materializedColumns => true
  | .setting => true
  | _ => false

end OptionName

inductive ArgumentFault where
  | valueRefused (option : OptionName)
  | valueMissing (option : OptionName)
  | repeated (option : OptionName)
  | unknown (argument : String)
  | unexpectedValue (argument : String)
  | helpAsked
  | versionAsked
  deriving DecidableEq, Repr

def OptionName.spelling (option : OptionName) : String :=
  "--" ++ option.flag

def ArgumentFault.message : ArgumentFault → String
  | .valueRefused option => "invalid value for " ++ option.spelling
  | .valueMissing option => "a value is required for " ++ option.spelling
  | .repeated option => option.spelling ++ " cannot be given more than once"
  | .unknown argument => "unexpected argument " ++ argument
  | .unexpectedValue argument => "unexpected value in " ++ argument
  | .helpAsked => "options: " ++ " ".intercalate (OptionName.all.map OptionName.spelling)
  | .versionAsked => "klogs"

/-- Asking for help or for the version is not a mistake. -/
def ArgumentFault.isMistake : ArgumentFault → Bool
  | .helpAsked => false
  | .versionAsked => false
  | _ => true

/-! ## Values

A list option takes several values at once, with commas between them. -/

def splitCommas (text : String) : List String :=
  text.splitOn ","

def readValue (option : OptionName) (read : String → Except ε α) (text : String) :
    Except ArgumentFault α :=
  (read text).mapError fun _ => .valueRefused option

def Options.set (options : Options) (option : OptionName) (text : String) :
    Except ArgumentFault Options :=
  match option with
  | .address => .ok { options with address := text }
  | .username => .ok { options with username := text }
  | .password => .ok { options with password := text }
  | .database => .ok { options with database := text }
  | .materializedColumns =>
      .ok { options with
        materializedColumns := options.materializedColumns ++ splitCommas text }
  | .dialTimeout => do
      let duration ← readValue option Duration.parse text
      .ok { options with dialTimeout := duration }
  | .connMaxLifetime => do
      let duration ← readValue option Duration.parse text
      .ok { options with connMaxLifetime := some duration }
  | .maxIdleConns => do
      let value ← readValue option Text.readNatural64 text
      .ok { options with maxIdleConns := value }
  | .maxOpenConns => do
      let value ← readValue option Text.readNatural64 text
      .ok { options with maxOpenConns := value }
  | .setting => do
      let settings ← (splitCommas text).mapM (readValue option Setting.parse)
      .ok { options with settings := options.settings ++ settings }
  | .bind =>
      match SocketAddress.parse? text with
      | some address => .ok { options with bind := address }
      | none => .error (.valueRefused option)
  | .defaultLimit => do
      let value ← readValue option Text.readNatural64 text
      .ok { options with defaultLimit := value }

/-! ## The command line

An option named without a value waits for one in the next argument. It is settled
when the next option comes or when the arguments end, so an argument that is
unknown is reported first. -/

structure ArgumentState where
  options : Options := {}
  given : List OptionName := []
  waiting : Option (OptionName × Option String) := none
  deriving Repr

namespace ArgumentState

def apply (state : ArgumentState) (option : OptionName) (text : String) :
    Except ArgumentFault ArgumentState :=
  if state.given.contains option && !option.isList then .error (.repeated option)
  else do
    let options ← state.options.set option text
    .ok { state with options, given := option :: state.given }

def settle (state : ArgumentState) : Except ArgumentFault ArgumentState :=
  match state.waiting with
  | none => .ok state
  | some (option, none) => .error (.valueMissing option)
  | some (option, some text) => { state with waiting := none }.apply option text

def readLong (state : ArgumentState) (argument : String) (name : List Char)
    (value : Option (List Char)) : Except ArgumentFault ArgumentState :=
  let name := String.ofList name
  if name = "help" ∨ name = "version" then
    if value.isSome then .error (.unexpectedValue argument)
    else do
      let _ ← state.settle
      .error (if name = "help" then .helpAsked else .versionAsked)
  else
    match OptionName.all.find? (·.flag = name) with
    | none => .error (.unknown argument)
    | some option => do
        let state ← state.settle
        match value with
        | some value => state.apply option (String.ofList value)
        | none => .ok { state with waiting := some (option, none) }

/-- Of several short options in one argument the first decides. -/
def readShort (state : ArgumentState) (argument : String) (first : Char) :
    Except ArgumentFault ArgumentState :=
  if first = 'h' ∨ first = 'V' then do
    let _ ← state.settle
    .error (if first = 'h' then .helpAsked else .versionAsked)
  else .error (.unknown argument)

def readPlain (state : ArgumentState) (argument : String) :
    Except ArgumentFault ArgumentState :=
  match state.waiting with
  | some (option, none) => .ok { state with waiting := some (option, some argument) }
  | _ => .error (.unknown argument)

def readArgument (state : ArgumentState) (argument : String) :
    Except ArgumentFault ArgumentState :=
  match argument.toList with
  | '-' :: '-' :: long =>
      match splitAtFirst? '=' long with
      | some (name, value) => state.readLong argument name (some value)
      | none => state.readLong argument long none
  | '-' :: first :: _ => state.readShort argument first
  | _ => state.readPlain argument

/-- After a lone double dash nothing may follow. -/
def readArguments (state : ArgumentState) : List String →
    Except ArgumentFault ArgumentState
  | [] => state.settle
  | "--" :: [] => state.settle
  | "--" :: next :: _ => .error (.unknown next)
  | argument :: rest => do
      let state ← state.readArgument argument
      state.readArguments rest

end ArgumentState

/-! ## The environment -/

abbrev Environment := List (String × String)

def Environment.value? (environment : Environment) (name : String) :
    Option String :=
  (environment.find? (·.1 = name)).map (·.2)

/-- Variables are looked at in the order of the options. -/
def applyEnvironment (environment : Environment) (given : List OptionName) :
    List OptionName → Options → Except ArgumentFault Options
  | [], options => .ok options
  | option :: rest, options => do
      let options ←
        if given.contains option then .ok options
        else
          match environment.value? option.variableName with
          | none => .ok options
          | some text => options.set option text
      applyEnvironment environment given rest options

def Options.read (arguments : List String) (environment : Environment) :
    Except ArgumentFault Options := do
  let state ← ArgumentState.readArguments {} arguments
  applyEnvironment environment state.given OptionName.all state.options

end LogQuery.Config
