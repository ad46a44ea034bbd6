import Rvpn.Client.TunnelPool
import Rvpn.SplitTunnel.Decision

/-! `server_pool.rs`: the servers of a desktop client by name, and what the proxies are made from. -/

namespace Rvpn.Client

open SplitTunnel (AddressParsers ErrorChain Router RoutingRule SplitTunnelManager Text defaultServerName trim trimEnd)

/-- `split_once`. -/
def splitOnce (mark : Char) : Text → Option (Text × Text)
  | [] => none
  | c :: rest =>
    if c = mark then some ([], rest) else (splitOnce mark rest).map fun (before, after) => (c :: before, after)

/-- `rsplit_once`. -/
def rsplitOnce (mark : Char) (text : Text) : Option (Text × Text) :=
  (splitOnce mark text.reverse).map fun (after, before) => (before.reverse, after.reverse)

def stripStart (start text : Text) : Option Text :=
  if start.isPrefixOf text then some (text.drop start.length) else none

/-- `parse` for an unsigned integer of so many bits; a plus may stand before the digits. -/
def parseUnsigned (bits : Nat) (text : Text) : Option Nat :=
  let digits : Text := match text with
    | '+' :: rest => rest
    | _ => text
  let value := digits.foldl (fun value digit => value * 10 + (digit.toNat - '0'.toNat)) 0
  if digits ≠ [] ∧ digits.all Char.isDigit ∧ value < 2 ^ bits then some value else none

def parsePort (otherwise : UInt16) (text : Text) : UInt16 :=
  ((parseUnsigned 16 text).map UInt16.ofNat).getD otherwise

structure ServerAddr where
  host : Text
  port : UInt16
  deriving DecidableEq

def splitHostPort (otherwise : UInt16) (text : Text) : ServerAddr :=
  match splitOnce ':' text with
  | some (host, port) => ⟨host, parsePort otherwise port⟩
  | none => ⟨text, otherwise⟩

def splitUrl (url : Text) : Text × Text :=
  let url := ((stripStart "wss://".toList url).or (stripStart "ws://".toList url)).getD url
  match splitOnce '/' url with
  | some (hostPort, path) => (hostPort, '/' :: path)
  | none => (url, ['/'])

def ServerPool.parseHostPort : Text → ServerAddr
  | '[' :: rest =>
    match splitOnce ']' rest with
    | some (host, ':' :: port) => ⟨host, parsePort 443 port⟩
    | some (host, _) => ⟨host, 443⟩
    | none => splitHostPort 443 ('[' :: rest)
  | text => splitHostPort 443 text

def ServerPool.parseServerUrl (url : Text) : ServerAddr × Text :=
  let (hostPort, path) := splitUrl url
  (parseHostPort hostPort, path)

/-- That of `http_proxy.rs`, which knows no brackets. -/
def HttpProxy.parseServerUrl (url : Text) : ServerAddr × Text :=
  let (hostPort, path) := splitUrl url
  (splitHostPort 443 hostPort, path)

inductive Socks5Mode where
  | legacy
  | multiplex
  | pooled
  deriving DecidableEq

structure ServerEntry where
  name : Text
  address : Text
  prekeyBundle : Text

structure ClientConfig where
  serverAddress : Text
  prekeyBundle : Option Text
  extraServers : List ServerEntry := []
  routing : List (String × RoutingRule) := []
  socks5Mode : Option Socks5Mode := none
  socks5Multiplex : Bool := false
  socks5MuxPath : Text := []
  pool : PoolConfig := .default
  httpMultiplex : Bool := false
  httpMuxPath : Text := []

def ClientConfig.effectiveMode (config : ClientConfig) : Socks5Mode :=
  match config.socks5Mode, config.socks5Multiplex with
  | some mode, _ => mode
  | none, true => .multiplex
  | none, false => .legacy

structure ResolvedServer where
  name : String
  addr : ServerAddr
  path : Text

structure ServerPool where
  servers : Table String ResolvedServer
  default : ResolvedServer
  present : servers.lookup defaultServerName = some default

structure Loading where
  loadIdentity : Except ErrorChain Unit
  loadBundle : Text → Except ErrorChain Unit
  display : Option Rat → String
  parsers : AddressParsers

namespace ServerPool

def getOrDefault (pool : ServerPool) (name : String) : ResolvedServer := (pool.servers.lookup name).getD pool.default

def names (pool : ServerPool) : List String := pool.servers.keys

def extraCount (pool : ServerPool) : Nat := pool.servers.entries.length - 1

def single (server : ResolvedServer) : ServerPool where
  servers := Table.insert defaultServerName server .empty
  default := server
  present := by rw [Table.lookup_insert, if_pos rfl]

def addServer (loading : Loading) (pool : ServerPool) (entry : ServerEntry) : Except ErrorChain ServerPool :=
  let name := String.ofList (trim entry.name)
  if name = "" then .error ["[[server]] entry has empty name"]
  else if reserved : name = defaultServerName then
    .error ["[[server]] name '" ++ defaultServerName ++ "' is reserved; use a different symbolic name"]
  else if (pool.servers.lookup name).isSome then .error ["Duplicate server name '" ++ name ++ "'"]
  else do
    let (addr, path) := parseServerUrl entry.address
    loading.loadBundle entry.prekeyBundle
    return { pool with
      servers := pool.servers.insert name ⟨name, addr, path⟩
      present := by rw [Table.lookup_insert, if_neg (Ne.symm reserved)]; exact pool.present }

def fromConfig (loading : Loading) (config : ClientConfig) : Except ErrorChain ServerPool :=
  match config.prekeyBundle with
  | none => .error ["Prekey bundle file is required for the default server (set \x60prekey_bundle\x60 in config)"]
  | some bundle => do
    loading.loadBundle bundle
    let (addr, path) := parseServerUrl config.serverAddress
    config.extraServers.foldlM (addServer loading) (single ⟨defaultServerName, addr, path⟩)

variable {loading : Loading} {pool next : ServerPool}

theorem default_of_addServer {entry : ServerEntry} (added : addServer loading pool entry = .ok next) :
    next.default = pool.default := by
  unfold addServer at added
  dsimp only at added
  split at added
  · cases added
  · split at added
    · cases added
    · split at added
      · cases added
      · obtain ⟨-, -, added⟩ := SplitTunnel.bind_eq_ok added
        cases added
        rfl

theorem default_of_addServers {entries : List ServerEntry}
    (added : entries.foldlM (addServer loading) pool = .ok next) : next.default = pool.default := by
  induction entries generalizing pool with
  | nil =>
    cases added
    rfl
  | cons entry rest ih =>
    rw [List.foldlM_cons] at added
    obtain ⟨middle, first, onward⟩ := SplitTunnel.bind_eq_ok added
    rw [ih onward, default_of_addServer first]

theorem default_of_fromConfig {config : ClientConfig} (made : fromConfig loading config = .ok pool) :
    pool.default.addr = (parseServerUrl config.serverAddress).1 := by
  unfold fromConfig at made
  split at made
  · cases made
  · obtain ⟨-, -, made⟩ := SplitTunnel.bind_eq_ok made
    rw [default_of_addServers made]
    rfl

end ServerPool

structure ProxyHandle where
  server : ServerAddr
  serverPath : Text
  splitTunnel : SplitTunnelManager
  mode : Socks5Mode
  muxPath : Text
  tunnelPools : Bool
  pool : ServerPool
  router : Router
  parsers : AddressParsers

namespace Socks5Proxy

/-- `Socks5Proxy::new`, as the handle it gives to each of its connections. -/
def new (loading : Loading) (splitTunnel : SplitTunnelManager) (config : ClientConfig) :
    Except ErrorChain ProxyHandle := do
  loading.loadIdentity
  let pool ← ServerPool.fromConfig loading config
  let router ← Router.build loading.parsers pool.names config.routing
  let mode := config.effectiveMode
  if mode = .multiplex ∧ 0 < pool.extraCount then
    .error ["multi-server routing is not supported in multiplex mode; either remove \x60[[server]]\x60 entries, " ++
      "set \x60socks5.mode = \"pooled\"\x60, or set \x60socks5.mode = \"legacy\"\x60"]
  else
    if mode = .pooled then config.pool.validatePool.mapError fun error => [error.message loading.display]
    else pure ()
    return {
      server := pool.default.addr, serverPath := pool.default.path, splitTunnel, mode
      muxPath := config.socks5MuxPath, tunnelPools := mode = .pooled, pool, router, parsers := loading.parsers }

end Socks5Proxy

namespace HttpProxy

def mode (config : ClientConfig) : Socks5Mode :=
  if config.httpMultiplex then .multiplex
  else
    match config.effectiveMode with
    | .pooled => .pooled
    | _ => .legacy

/-- `HttpProxy::new`, as the handle it gives to each of its connections; pools, router and split tunnel are those
of the SOCKS5 proxy. -/
def new (config : ClientConfig) (socks5 : ProxyHandle) : ProxyHandle :=
  let (server, serverPath) := parseServerUrl config.serverAddress
  { socks5 with server, serverPath, mode := mode config, muxPath := config.httpMuxPath }

end HttpProxy

end Rvpn.Client
 