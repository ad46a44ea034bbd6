import Mathlib.Data.List.Sort
import Rvpn.Lib.Table
import Rvpn.Server.Address

/-! `router.rs`. Texts are lists of characters; their lengths are counted in bytes of UTF-8. -/

namespace Rvpn.SplitTunnel

open Server (IpAddr IpNetwork)

def defaultServerName : String := "default"

abbrev Text := List Char

def Text.size (text : Text) : Nat := text.foldr (fun c size => c.utf8Size + size) 0

/-- Unicode's `White_Space`. -/
def isWhiteSpace (c : Char) : Bool :=
  let n := c.toNat
  (9 ≤ n && n ≤ 13) || n = 0x20 || n = 0x85 || n = 0xA0 || n = 0x1680 || (0x2000 ≤ n && n ≤ 0x200A) || n = 0x2028 ||
    n = 0x2029 || n = 0x202F || n = 0x205F || n = 0x3000

def trimEnd (drop : Char → Bool) (text : Text) : Text := (text.reverse.dropWhile drop).reverse

def trim (text : Text) : Text := trimEnd isWhiteSpace (text.dropWhile isWhiteSpace)

def trimDots (text : Text) : Text := trimEnd (· = '.') text

/-- `to_ascii_lowercase`. -/
def lowercase (text : Text) : Text := text.map Char.toLower

structure RoutingRule where
  domains : List Text
  ips : List Text
  deriving DecidableEq

inductive DomainKind where
  | exact
  | wildcard
  | suffix
  deriving DecidableEq

structure DomainRule where
  kind : DomainKind
  pattern : Text
  server : String
  deriving DecidableEq

/-- The messages of an error, the outermost context first. -/
abbrev ErrorChain := List String

/-- The parsers of the standard library and of the `ip_network` crate. -/
structure AddressParsers where
  parseNetwork : Text → Option IpNetwork
  parseIpAddr : Text → Except String IpAddr

def parseDomainPattern (raw : Text) : Except ErrorChain (DomainKind × Text) :=
  let trimmed := trimDots (trim raw)
  if trimmed = [] then .error ["empty domain pattern"]
  else
    match trimmed with
    | '*' :: '.' :: rest =>
      if rest = [] ∨ '*' ∈ rest then .error ["wildcard must be leading '*.<parent>'"]
      else .ok (.wildcard, lowercase rest)
    | _ =>
      if '*' ∈ trimmed then .error ["wildcards other than leading '*.' are not supported"]
      else
        let kind := if (trim raw).getLast? = some '.' then .exact else .suffix
        .ok (kind, lowercase trimmed)

def subdomainOf (pattern host : Text) : Bool :=
  pattern.size + 1 < host.size && pattern.isSuffixOf host &&
    (host.take (host.length - pattern.length)).getLast? = some '.'

def matchesRule (rule : DomainRule) (host : Text) : Bool :=
  match rule.kind with
  | .exact => host = rule.pattern
  | .wildcard => subdomainOf rule.pattern host
  | .suffix => host = rule.pattern || subdomainOf rule.pattern host

def DomainKind.rank : DomainKind → Nat
  | .exact => 2
  | .wildcard => 1
  | .suffix => 0

/-- The order of `specificity`, by kind and then by length. -/
def AtLeastAsSpecific (a b : DomainRule) : Prop :=
  b.kind.rank < a.kind.rank ∨ b.kind.rank = a.kind.rank ∧ b.pattern.size ≤ a.pattern.size

instance (a b : DomainRule) : Decidable (AtLeastAsSpecific a b) :=
  inferInstanceAs (Decidable (_ ∨ _ ∧ _))

def parseIpOrCidr (parsers : AddressParsers) (raw : Text) : Except ErrorChain IpNetwork :=
  let trimmed := trim raw
  match parsers.parseNetwork trimmed with
  | some network => .ok network
  | none =>
    match parsers.parseIpAddr trimmed with
    | .error cause => .error ["not an IP or CIDR: '" ++ String.ofList trimmed ++ "'", cause]
    | .ok ip => .ok ⟨ip, ip.width, Nat.le_refl _⟩

/-- `ip_network_table`: networks are told apart by their bits and their length. -/
structure NetworkKey where
  isV4 : Bool
  bits : Nat
  length : Nat
  deriving DecidableEq

def networkKey (network : IpNetwork) : NetworkKey :=
  ⟨network.ip.isV4, network.ip.toNat / 2 ^ (network.ip.width - network.length), network.length⟩

abbrev NetworkTable := Table NetworkKey (IpNetwork × String)

namespace NetworkTable

def insertNetwork (table : NetworkTable) (entry : IpNetwork × String) : NetworkTable :=
  Table.insert (networkKey entry.1) entry table

def longer (best : Option (IpNetwork × String)) (candidate : IpNetwork × String) : Option (IpNetwork × String) :=
  match best with
  | none => some candidate
  | some found => if found.1.length < candidate.1.length then some candidate else some found

def longestMatch (table : NetworkTable) (ip : IpAddr) : Option (IpNetwork × String) :=
  ((table.entries.map Prod.snd).filter fun entry => entry.1.contains ip).foldl longer none

theorem mem_of_foldl_longer {entries : List (IpNetwork × String)}
    (reached : entries.foldl longer best = some found) :
    best = some found ∨ found ∈ entries := by
  induction entries generalizing best with
  | nil => exact .inl reached
  | cons entry rest ih =>
    rcases ih reached with kept | listed
    · unfold longer at kept
      split at kept
      · exact .inr (Option.some.inj kept ▸ List.mem_cons_self)
      · split at kept
        · exact .inr (Option.some.inj kept ▸ List.mem_cons_self)
        · exact .inl kept
    · exact .inr (List.mem_cons_of_mem entry listed)

theorem mem_of_longestMatch {table : NetworkTable} {ip : IpAddr} {found : IpNetwork × String}
    (matched : table.longestMatch ip = some found) : ∃ key, (key, found) ∈ table.entries := by
  rcases mem_of_foldl_longer matched with before | listed
  · cases before
  · obtain ⟨⟨key, entry⟩, member, rfl⟩ := List.mem_map.mp (List.mem_of_mem_filter listed)
    exact ⟨key, member⟩

end NetworkTable

structure Router where
  domainRules : List DomainRule
  ipRules : NetworkTable

theorem bind_eq_ok {α β : Type} {result : Except ErrorChain α} {next : α → Except ErrorChain β} {value : β}
    (done : result >>= next = .ok value) : ∃ first, result = .ok first ∧ next first = .ok value := by
  cases result with
  | error causes => cases done
  | ok first => exact ⟨first, rfl, done⟩

namespace Router

def withContext {α : Type} (context : String) : Except ErrorChain α → Except ErrorChain α
  | .ok value => .ok value
  | .error causes => .error (context :: causes)

theorem withContext_eq_ok : withContext context result = .ok value ↔ result = .ok value := by
  cases result <;> simp [withContext]

def compileDomain (server : String) (pattern : Text) : Except ErrorChain (DomainKind × Text) :=
  withContext ("invalid domain pattern '" ++ String.ofList pattern ++ "' in [routing." ++ server ++ "]")
    (parseDomainPattern pattern)

def compileIp (parsers : AddressParsers) (server : String) (pattern : Text) : Except ErrorChain IpNetwork :=
  withContext ("invalid IP/CIDR '" ++ String.ofList pattern ++ "' in [routing." ++ server ++ "]")
    (parseIpOrCidr parsers pattern)

/-- The loop of `build` over the rules, in the order in which the hash map yields them. -/
def compile (parsers : AddressParsers) (known : List String) :
    List (String × RoutingRule) → Except ErrorChain (List DomainRule × List (IpNetwork × String))
  | [] => .ok ([], [])
  | (server, rule) :: rest =>
    if server = defaultServerName then
      .error ["[routing." ++ defaultServerName ++ "] is redundant — every unmatched flow already goes to the default server"]
    else if server ∉ known then
      .error ["[routing." ++ server ++ "] references unknown server; declare it with [[server]] name = \"" ++ server ++ "\""]
    else do
      let domains ← rule.domains.mapM (compileDomain server)
      let networks ← rule.ips.mapM (compileIp parsers server)
      let (domainRules, ipRules) ← compile parsers known rest
      return (domains.map (fun parsed => ⟨parsed.1, parsed.2, server⟩) ++ domainRules,
        networks.map (fun network => (network, server)) ++ ipRules)

def build (parsers : AddressParsers) (known : List String) (routing : List (String × RoutingRule)) :
    Except ErrorChain Router := do
  let (domainRules, ipRules) ← compile parsers known routing
  return ⟨domainRules.insertionSort AtLeastAsSpecific, ipRules.foldl NetworkTable.insertNetwork .empty⟩

def chooseIp (router : Router) (ip : IpAddr) : String :=
  match router.ipRules.longestMatch ip with
  | some (_, server) => server
  | none => defaultServerName

def choose (parsers : AddressParsers) (router : Router) (host : Text) : String :=
  let host := lowercase (trimDots host)
  match router.domainRules.find? fun rule => matchesRule rule host with
  | some rule => rule.server
  | none =>
    match parsers.parseIpAddr host with
    | .ok ip => router.chooseIp ip
    | .error _ => defaultServerName

def Exit (known : List String) (server : String) : Prop := server ∈ known ∧ server ≠ defaultServerName

variable {parsers : AddressParsers} {known : List String}

theorem compile_exits {routing : List (String × RoutingRule)} {domainRules : List DomainRule}
    {ipRules : List (IpNetwork × String)} (compiled : compile parsers known routing = .ok (domainRules, ipRules)) :
    (∀ rule ∈ domainRules, Exit known rule.server) ∧ ∀ entry ∈ ipRules, Exit known entry.2 := by
  induction routing generalizing domainRules ipRules with
  | nil =>
    cases compiled
    exact ⟨nofun, nofun⟩
  | cons head rest ih =>
    obtain ⟨server, rule⟩ := head
    rw [compile] at compiled
    split at compiled
    · cases compiled
    · split at compiled
      · cases compiled
      · rename_i other listed
        have exit : Exit known server := ⟨not_not.mp listed, other⟩
        obtain ⟨domains, -, compiled⟩ := bind_eq_ok compiled
        obtain ⟨networks, -, compiled⟩ := bind_eq_ok compiled
        obtain ⟨⟨others, ranges⟩, onward, same⟩ := bind_eq_ok compiled
        cases same
        obtain ⟨named, numbered⟩ := ih onward
        refine ⟨?_, ?_⟩
        · intro compiledRule member
          rcases List.mem_append.mp member with new | old
          · obtain ⟨parsed, -, rfl⟩ := List.mem_map.mp new
            exact exit
          · exact named compiledRule old
        · intro entry member
          rcases List.mem_append.mp member with new | old
          · obtain ⟨network, -, rfl⟩ := List.mem_map.mp new
            exact exit
          · exact numbered entry old

structure Named (known : List String) (router : Router) : Prop where
  domains : ∀ rule ∈ router.domainRules, Exit known rule.server
  networks : ∀ key entry, (key, entry) ∈ router.ipRules.entries → Exit known entry.2

theorem mem_of_insertNetworks {ipRules : List (IpNetwork × String)} {table : NetworkTable} {key : NetworkKey}
    {entry : IpNetwork × String} (member : (key, entry) ∈ (ipRules.foldl NetworkTable.insertNetwork table).entries) :
    (key, entry) ∈ table.entries ∨ entry ∈ ipRules := by
  induction ipRules generalizing table with
  | nil => exact .inl member
  | cons first rest ih =>
    rcases ih member with old | listed
    · rcases Table.of_lookup_insert (Table.lookup_eq_some_iff.mpr old) with ⟨-, rfl⟩ | ⟨-, found⟩
      · exact .inr List.mem_cons_self
      · exact .inl (Table.lookup_eq_some_iff.mp found)
    · exact .inr (List.mem_cons_of_mem first listed)

theorem named_of_build {routing : List (String × RoutingRule)} {router : Router}
    (built : build parsers known routing = .ok router) : Named known router := by
  obtain ⟨⟨domainRules, ipRules⟩, compiled, same⟩ := bind_eq_ok built
  cases same
  obtain ⟨named, numbered⟩ := compile_exits compiled
  refine ⟨?_, ?_⟩
  · intro rule member
    exact named rule ((List.mem_insertionSort _).mp member)
  · intro key entry member
    rcases mem_of_insertNetworks member with old | listed
    · cases old
    · exact numbered entry listed

variable {router : Router}

theorem Named.chooseIp (named : Named known router) (ip : IpAddr) (routed : router.chooseIp ip ≠ defaultServerName) :
    Exit known (router.chooseIp ip) := by
  unfold Router.chooseIp at routed ⊢
  split
  · rename_i network server found
    obtain ⟨key, member⟩ := NetworkTable.mem_of_longestMatch found
    exact named.networks key _ member
  · rename_i unmatched
    rw [unmatched] at routed
    exact absurd rfl routed

theorem Named.choose (named : Named known router) (host : Text)
    (routed : router.choose parsers host ≠ defaultServerName) : Exit known (router.choose parsers host) := by
  unfold Router.choose at routed ⊢
  dsimp only at routed ⊢
  split
  · rename_i rule found
    exact named.domains rule (List.mem_of_find?_eq_some found)
  · rename_i unmatched
    rw [unmatched] at routed
    dsimp only at routed
    split
    · rename_i ip parsed
      rw [parsed] at routed
      exact named.chooseIp ip routed
    · rename_i cause failed
      rw [failed] at routed
      exact absurd rfl routed

end Router

end Rvpn.SplitTunnel
