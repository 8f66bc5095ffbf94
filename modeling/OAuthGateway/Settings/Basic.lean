import OAuthGateway.Authority.Service
import OAuthGateway.Json.Record
import OAuthGateway.Time.SpanText

/-!
# Settings/Basic — how a gateway is configured

Settings are records all of whose fields have defaults. Lengths of time stay texts until the gateway
starts: `Settings.durations` reads them in a fixed order and reports the first that is none.
-/

namespace OAuthGateway

open Json Time

/-- The settings of one database. -/
structure DatabaseSettings where
  url : String
  maxConnections : Nat
  queryTimeout : String
deriving DecidableEq, Repr

/-- The settings of refresh tokens. -/
structure RefreshSettings where
  timeout : String
  active : Bool
deriving DecidableEq, Repr

/-- The settings of the authority; `database` names the database it uses. -/
structure AuthoritySettings where
  database : String
  accessTokenTimeout : String
  authorizationCodeTimeout : String
  refreshToken : RefreshSettings
deriving DecidableEq, Repr

/-- The settings of the administration: without a key it is open. -/
structure AdminSettings where
  apiKey : Option String
deriving DecidableEq, Repr

/-- The settings of a gateway. -/
structure Settings where
  listensOn : Nat
  routesFile : String
  forwardTimeout : Nat
  maxBodyBytes : Nat
  admin : AdminSettings
  databases : List (String × DatabaseSettings)
  authority : AuthoritySettings
deriving DecidableEq, Repr

namespace DatabaseSettings

/-- A file in the working directory, ten connections, ten seconds. -/
def standard : DatabaseSettings := ⟨"sqlite://gateway.db", 10, "10s"⟩

/-- The schema of a database's settings. -/
def schema : Schema DatabaseSettings where
  fields := [.withDefault "url" .text standard.url,
    .withDefault "max_connections" (.natural 4294967296) standard.maxConnections,
    .withDefault "query_timeout" .text standard.queryTimeout]
  ofRecord := fun (a, b, c, ()) => ⟨a, b, c⟩
  toRecord r := (r.url, r.maxConnections, r.queryTimeout, ())

end DatabaseSettings

namespace RefreshSettings

/-- Thirty days, not active. -/
def standard : RefreshSettings := ⟨"720h", false⟩

/-- The schema of the settings of refresh tokens. -/
def schema : Schema RefreshSettings where
  fields := [.withDefault "timeout" .text standard.timeout,
    .withDefault "active" .bool standard.active]
  ofRecord := fun (a, b, ()) => ⟨a, b⟩
  toRecord r := (r.timeout, r.active, ())

end RefreshSettings

namespace AuthoritySettings

/-- The name of the database that is used when none is named. -/
def standardDatabase : String := "default"

/-- A day for access tokens, ten minutes for codes. -/
def standard : AuthoritySettings := ⟨standardDatabase, "24h", "10m", .standard⟩

/-- The schema of the authority's settings. -/
def schema : Schema AuthoritySettings where
  fields := [.withDefault "database" .text standard.database,
    .withDefault "access_token_timeout" .text standard.accessTokenTimeout,
    .withDefault "authorization_code_timeout" .text standard.authorizationCodeTimeout,
    .withDefault "refresh_token" RefreshSettings.schema.format standard.refreshToken]
  ofRecord := fun (a, b, c, d, ()) => ⟨a, b, c, d⟩
  toRecord r := (r.database, r.accessTokenTimeout, r.authorizationCodeTimeout, r.refreshToken, ())

end AuthoritySettings

namespace AdminSettings

/-- No key. -/
def standard : AdminSettings := ⟨none⟩

/-- The schema of the administration's settings. -/
def schema : Schema AdminSettings where
  fields := [.optional "api_key" .text]
  ofRecord := fun (a, ()) => ⟨a⟩
  toRecord r := (r.apiKey, ())

end AdminSettings

/-- Why settings are of no use. -/
inductive SettingsFault where
  | unreadable
  | badDuration (field value : String) (fault : SpanFault)
  | unknownDatabase (name : String)
deriving DecidableEq, Repr

/-- The complaint about a database that is not configured. -/
def SettingsFault.unknownDatabaseMessage (name : String) : String :=
  "oauth.database names unknown database instance '" ++ name ++ "'"

/-- Reads the length of time in a field. -/
def Settings.duration (field value : String) : Except SettingsFault Span :=
  match Span.read value with
  | .ok span => .ok span
  | .error fault => .error (.badDuration field value fault)

/-- The most time a call of the database may take. -/
def DatabaseSettings.callTimeout (d : DatabaseSettings) : Except SettingsFault Span :=
  Settings.duration "database.query_timeout" d.queryTimeout

/-- The authority's settings with their lengths of time read. -/
structure AuthorityDurations where
  accessToken : Span
  authorizationCode : Span
  refreshToken : Span
  refreshActive : Bool
deriving DecidableEq

/-- Reads the lengths of time of the authority: of access tokens, codes and refresh tokens. -/
def AuthoritySettings.durations (s : AuthoritySettings) :
    Except SettingsFault AuthorityDurations := do
  let access ← Settings.duration "oauth.access_token_timeout" s.accessTokenTimeout
  let code ← Settings.duration "oauth.authorization_code_timeout" s.authorizationCodeTimeout
  let refresh ← Settings.duration "oauth.refresh_token.timeout" s.refreshToken.timeout
  return ⟨access, code, refresh, s.refreshToken.active⟩

/-- The authority with these lengths of time. -/
def AuthorityDurations.authority (d : AuthorityDurations) : Authority :=
  ⟨⟨lifetime d.accessToken, lifetime d.authorizationCode, lifetime d.refreshToken⟩, d.refreshActive⟩

namespace Settings

/-- The settings when nothing is configured. -/
def standard : Settings :=
  ⟨8080, "routes.yaml", 30, 2097152, .standard,
    [(AuthoritySettings.standardDatabase, .standard)], .standard⟩

/-- The schema of a gateway's settings. -/
def schema : Schema Settings where
  fields := [.withDefault "port" (.natural 65536) standard.listensOn,
    .withDefault "routes_file" .text standard.routesFile,
    .withDefault "upstream_timeout" (.natural Text.wordSize) standard.forwardTimeout,
    .withDefault "max_body_bytes" (.natural Text.wordSize) standard.maxBodyBytes,
    .withDefault "admin" AdminSettings.schema.format standard.admin,
    .withDefault "databases" (.table DatabaseSettings.schema.format) standard.databases,
    .withDefault "oauth" AuthoritySettings.schema.format standard.authority]
  ofRecord := fun (a, b, c, d, e, f, g, ()) => ⟨a, b, c, d, e, f, g⟩
  toRecord r := (r.listensOn, r.routesFile, r.forwardTimeout, r.maxBodyBytes, r.admin, r.databases,
    r.authority, ())

/-- The database that the authority uses. -/
def authorityDatabase (s : Settings) : Except SettingsFault DatabaseSettings :=
  match s.databases.lookup s.authority.database with
  | some d => .ok d
  | none => .error (.unknownDatabase s.authority.database)

end Settings

end OAuthGateway
