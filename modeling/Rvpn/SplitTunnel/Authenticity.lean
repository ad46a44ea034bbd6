import Rvpn.SplitTunnel.Decision

/-! Which datagrams the answers of local lookups are read from. -/

namespace Rvpn.SplitTunnel

open Interaction
open Server (IpAddr SocketAddr)
open DnsWire (parseDnsAResponse questionSection txidOf)

/-- The datagram answers the query: the nameserver sent it, under the query's transaction id and for its question. -/
structure Authentic (nameserver : SocketAddr) (query : Bytes) (source : SocketAddr) (datagram : Bytes) : Prop where
  source : source = nameserver
  txid : txidOf datagram = txidOf query
  question : (questionSection query).isSome = true ∧ questionSection datagram = questionSection query

instance (nameserver : SocketAddr) (query : Bytes) (source : SocketAddr) (datagram : Bytes) :
    Decidable (Authentic nameserver query source datagram) :=
  decidable_of_iff (source = nameserver ∧ txidOf datagram = txidOf query ∧
      (questionSection query).isSome = true ∧ questionSection datagram = questionSection query)
    ⟨fun ⟨source, txid, question⟩ => ⟨source, txid, question⟩, fun ⟨source, txid, question⟩ => ⟨source, txid, question⟩⟩

def ReadFrom (trace : List (Event NetReply)) (reads : Bytes → Prop) : Prop :=
  ∃ nameserver query source datagram,
    (⟨.exchange nameserver query, .received source datagram⟩ : Event NetReply) ∈ trace ∧ reads datagram

def ReadAuthentic (trace : List (Event NetReply)) (reads : Bytes → Prop) : Prop :=
  ∃ nameserver query source datagram,
    (⟨.exchange nameserver query, .received source datagram⟩ : Event NetReply) ∈ trace ∧
      Authentic nameserver query source datagram ∧ reads datagram

/-- All datagrams that arrive are authentic, and the system's resolver knows no address. -/
structure Trusted (trace : List (Event NetReply)) : Prop where
  datagrams : ∀ nameserver query source datagram,
    (⟨.exchange nameserver query, .received source datagram⟩ : Event NetReply) ∈ trace →
      Authentic nameserver query source datagram
  system : ∀ host port addrs, (⟨.lookupHost host port, .ok addrs⟩ : Event NetReply) ∈ trace → addrs = []

def GivesAddress (datagram : Bytes) (ip : IpAddr) : Prop :=
  ∃ txid ips ttlSecs, parseDnsAResponse (datagram.take 512) txid = .ok (ips, ttlSecs) ∧ ip ∈ ips

def Sourced (gives : Bytes → IpAddr → Prop) (trace : List (Event NetReply)) (ip : IpAddr) : Prop :=
  ReadFrom trace (gives · ip) ∨
    ∃ host port addrs, (⟨.lookupHost host port, .ok addrs⟩ : Event NetReply) ∈ trace ∧ ip ∈ addrs.map (·.ip)

def Traced (gives : Bytes → IpAddr → Prop) (trace : List (Event NetReply)) : Prop :=
  ∀ host ips ttl stored, (⟨.store host ips ttl, stored⟩ : Event NetReply) ∈ trace → ∀ ip ∈ ips, Sourced gives trace ip

def Storeless : Event NetReply → Prop
  | ⟨.store _ _ _, _⟩ => False
  | _ => True

section traced

variable {gives : Bytes → IpAddr → Prop} {trace past new other : List (Event NetReply)} {ip : IpAddr}

theorem ReadFrom.mono (read : ReadFrom trace reads) (within : trace ⊆ other) : ReadFrom other reads := by
  obtain ⟨nameserver, query, source, datagram, listed, holds⟩ := read
  exact ⟨nameserver, query, source, datagram, within listed, holds⟩

theorem ReadFrom.authentic (read : ReadFrom trace reads) (trusted : Trusted trace) :
    ReadAuthentic trace reads := by
  obtain ⟨nameserver, query, source, datagram, listed, holds⟩ := read
  exact ⟨nameserver, query, source, datagram, listed, trusted.datagrams _ _ _ _ listed, holds⟩

theorem Sourced.mono (sourced : Sourced gives trace ip) (within : trace ⊆ other) : Sourced gives other ip := by
  rcases sourced with read | ⟨host, port, addrs, listed, found⟩
  · exact .inl (read.mono within)
  · exact .inr ⟨host, port, addrs, within listed, found⟩

theorem Sourced.authentic (sourced : Sourced gives trace ip) (trusted : Trusted trace) :
    ReadAuthentic trace (gives · ip) := by
  rcases sourced with read | ⟨host, port, addrs, listed, found⟩
  · exact read.authentic trusted
  · rw [trusted.system host port addrs listed] at found
    cases found

theorem Traced.append (traced : Traced gives past)
    (added : ∀ host ips ttl stored, (⟨.store host ips ttl, stored⟩ : Event NetReply) ∈ new → ∀ ip ∈ ips, Sourced gives past ip) :
    Traced gives (past ++ new) := by
  intro host ips ttl stored listed ip included
  refine Sourced.mono ?_ (List.subset_append_left past new)
  rcases List.mem_append.mp listed with early | late
  · exact traced host ips ttl stored early ip included
  · exact added host ips ttl stored late ip included

theorem traced_nil : Traced gives [] := fun _ _ _ _ listed => (by cases listed)

theorem Traced.store (traced : Traced gives past) (sourced : ∀ ip ∈ ips, Sourced gives past ip) :
    (Net.store host ips ttl).After past fun trace _ => Traced gives trace := by
  refine fun reply => traced.append fun _ _ _ _ listed => ?_
  cases List.mem_singleton.mp listed
  exact sourced

theorem keeps_traced (storeless : Only Storeless program) : program.Keeps (Traced gives) := by
  refine fun past traced => (storeless.after past).imp fun trace _ onward => ?_
  obtain ⟨new, rfl, without⟩ := onward
  exact traced.append fun _ _ _ _ listed => (without _ listed).elim

end traced

section resolver

variable {gives : Bytes → IpAddr → Prop} {resolver : DnsResolver} {host : Text} {port : UInt16}
  {nameserver : SocketAddr} {past : List (Event NetReply)}

theorem cachedAnswer_storeless : Only Storeless (resolver.cachedAnswer host port) := by
  unfold DnsResolver.cachedAnswer
  split
  · exact only_bind (only_request fun _ => trivial) fun _ => only_pure _
  · exact only_pure _

theorem lookupCached_storeless : Only Storeless (resolver.lookupCached host) := by
  unfold DnsResolver.lookupCached
  split
  · refine only_bind (only_request fun _ => trivial) fun found => ?_
    cases found <;> exact only_pure _
  · exact only_pure _

theorem getRemainingTtl_storeless : Only Storeless (resolver.getRemainingTtl host) := by
  unfold DnsResolver.getRemainingTtl
  split
  · refine only_bind (only_request fun _ => trivial) fun found => ?_
    cases found <;> exact only_pure _
  · exact only_pure _

theorem queryNameserverUdp_storeless : Only Storeless (queryNameserverUdp nameserver host) := by
  have prepared : Only Storeless (prepareQuery host) := only_bind (only_request fun _ => trivial) fun _ => only_pure _
  refine only_bind (attempts_only (fun _ => trivial) (fun _ _ => trivial) prepared _ _) fun result => ?_
  cases result <;> exact only_pure _

theorem forwardInTurn_storeless (nameservers : List SocketAddr) :
    Only Storeless (forwardInTurn parse query nameservers) := by
  induction nameservers with
  | nil => exact only_pure _
  | cons nameserver rest ih =>
    have asked : Only Storeless (queryNameserverUdpRaw nameserver query) := by
      refine only_bind (attempts_only (fun _ => trivial) (fun _ _ => trivial) (only_pure _) _ _) fun result => ?_
      cases result <;> exact only_pure _
    refine only_bind asked fun result => ?_
    cases result with
    | error cause => exact ih
    | ok response =>
      dsimp only
      split
      · exact only_pure _
      · exact ih

theorem storeIps_traced (traced : Traced gives past) (sourced : ∀ ip ∈ ips, Sourced gives past ip) :
    (resolver.storeIps host ips ttl).After past fun trace _ => Traced gives trace := by
  unfold DnsResolver.storeIps
  split
  · exact traced.store sourced
  · exact traced

theorem queryNameservers_traced (readable : ∀ datagram ip, GivesAddress datagram ip → gives datagram ip)
    (nameservers : List SocketAddr) : (resolver.queryNameservers host port nameservers).Keeps (Traced gives) := by
  induction nameservers with
  | nil => exact keeps_pure _
  | cons nameserver rest ih =>
    intro past traced
    refine .bind (.and (keeps_traced queryNameserverUdp_storeless past traced) queryNameserverUdp_received) ?_
    rintro trace result - ⟨traced, received⟩
    cases result with
    | error cause => exact ih trace traced
    | ok answer =>
      obtain ⟨txid, source, datagram, listed, parsed⟩ := received _ _ rfl
      have sourced (ip : IpAddr) (chosen : ip ∈ if resolver.ipv6Enabled then answer.1 else answer.1.filter (·.isV4)) :
          Sourced gives trace ip := by
        have kept : ip ∈ answer.1 := by
          split at chosen
          · exact chosen
          · exact (List.mem_filter.mp chosen).1
        exact .inl ⟨nameserver, _, source, datagram, listed, readable _ _ ⟨txid, _, _, parsed, kept⟩⟩
      dsimp only
      generalize (if resolver.ipv6Enabled = true then answer.1 else _) = chosen at sourced ⊢
      split
      · exact ih trace traced
      · exact (storeIps_traced traced sourced).bind fun _ _ _ traced => traced

theorem storeFailure_storeless : Only Storeless (resolver.storeFailure host) := by
  unfold DnsResolver.storeFailure
  split
  · exact only_request fun _ => trivial
  · exact only_pure _

theorem systemLookup_traced : (resolver.systemLookup host port).Keeps (Traced gives) := by
  refine fun past traced => after_request fun reply => ?_
  have looked : Traced gives (past ++ [⟨.lookupHost host port, reply⟩]) :=
    traced.append fun _ _ _ _ listed => (by cases List.mem_singleton.mp listed)
  have failing : (resolver.storeFailure host).After _ fun trace _ => Traced gives trace :=
    keeps_traced storeFailure_storeless _ looked
  cases reply with
  | error cause => exact failing.bind fun _ _ _ traced => traced
  | ok addrs =>
    dsimp only
    split
    · exact failing.bind fun _ _ _ traced => traced
    · refine (storeIps_traced looked fun ip found => ?_).bind fun _ _ _ traced => traced
      exact .inr ⟨host, port, addrs, List.mem_append_right past (.head _), found⟩

theorem resolve_traced (readable : ∀ datagram ip, GivesAddress datagram ip → gives datagram ip) :
    (resolver.resolve host port).Keeps (Traced gives) := by
  refine (keeps_traced cachedAnswer_storeless).bind fun cached => ?_
  cases cached with
  | some answer => exact keeps_pure _
  | none =>
    refine (queryNameservers_traced readable _).bind fun found => ?_
    cases found with
    | some addrs => exact keeps_pure _
    | none => exact systemLookup_traced

theorem decideByHost_traced {tunnel : SplitTunnelManager}
    (readable : ∀ datagram ip, GivesAddress datagram ip → gives datagram ip) :
    (tunnel.decideByHost host).Keeps (Traced gives) := by
  unfold SplitTunnelManager.decideByHost
  split
  · exact keeps_pure _
  · have resolved : (tunnel.resolveHostToIps host).Keeps (Traced gives) := by
      refine (resolve_traced readable).bind fun found => ?_
      cases found <;> exact keeps_pure _
    refine resolved.bind fun ips => ?_
    cases ips <;> exact keeps_pure _

end resolver

end Rvpn.SplitTunnel
