import Rvpn.Lib.Transition
import Rvpn.Server.Address
import Mathlib.Logic.Function.Basic

/-! The rate limiter, in milliseconds. `VpnHandler` calls `check_and_record`, `DnsHandler` only `check`. -/

namespace Rvpn.Server

structure RateLimiter where
  maxPerMinute : UInt32
  maxConnections : UInt32
  requests : IpAddr → Option (UInt32 × Nat)

/-- `now.duration_since(start).as_secs() < 60`. -/
def isRecent (now start : Nat) : Bool := (now - start) / 1000 < 60

namespace RateLimiter

def new (maxConnectionsPerIp maxHandshakesPerMinute : UInt32) : RateLimiter :=
  ⟨maxHandshakesPerMinute, maxConnectionsPerIp, fun _ => none⟩

variable (limiter : RateLimiter) (ip : IpAddr) (now : Nat)

def insert (count : UInt32) : RateLimiter :=
  { limiter with requests := Function.update limiter.requests ip (some (count, now)) }

def retainRecent : RateLimiter :=
  { limiter with requests := fun other => (limiter.requests other).filter fun entry => isRecent now entry.2 }

def check : Bool :=
  match limiter.requests ip with
  | some (count, start) =>
    if isRecent now start then count < limiter.maxPerMinute && count < limiter.maxConnections else true
  | none => true

def checkAndRecord : Bool × RateLimiter :=
  let limiter := limiter.retainRecent now
  match limiter.requests ip with
  | some (count, start) =>
    if isRecent now start then
      if limiter.maxPerMinute ≤ count ∨ limiter.maxConnections ≤ count then (false, limiter)
      else (true, limiter.insert ip now (count + 1))
    else (true, limiter.insert ip now 1)
  | none => (true, limiter.insert ip now 1)

end RateLimiter

structure Attempt where
  ip : IpAddr
  time : Nat
  deriving DecidableEq

inductive LimitedHandler where
  | vpn
  | dns
  deriving DecidableEq

def LimitedHandler.admit (handler : LimitedHandler) (limiter : RateLimiter) (attempt : Attempt) : Bool × RateLimiter :=
  match handler with
  | .vpn => limiter.checkAndRecord attempt.ip attempt.time
  -- the limiter is only locked for reading
  | .dns => (limiter.check attempt.ip attempt.time, limiter)

/-- A handler's limiter, the time of its last attempt and the connections it has admitted. -/
structure Endpoint where
  limiter : RateLimiter
  clock : Nat
  admitted : List Attempt

namespace Endpoint

def new (maxConnectionsPerIp maxHandshakesPerMinute : UInt32) : Endpoint :=
  ⟨.new maxConnectionsPerIp maxHandshakesPerMinute, 0, []⟩

def step (handler : LimitedHandler) (endpoint : Endpoint) (attempt : Attempt) : Option Endpoint :=
  if endpoint.clock ≤ attempt.time then
    let (allowed, limiter) := handler.admit endpoint.limiter attempt
    some ⟨limiter, attempt.time, if allowed then endpoint.admitted ++ [attempt] else endpoint.admitted⟩
  else none

end Endpoint

section dns

variable {endpoint final : Endpoint} {attempts : List Attempt}

namespace RateSample

def client : IpAddr := .v4 #v[198, 51, 100, 77]

end RateSample

end dns

section vpn

namespace RateLimiter

/-- The count that `check_and_record` compares with the limits. -/
def live (limiter : RateLimiter) (ip : IpAddr) (now : Nat) : Option UInt32 :=
  ((limiter.retainRecent now).requests ip).map (·.1)

end RateLimiter

variable {maxConnectionsPerIp maxHandshakesPerMinute : UInt32}

end vpn

end Rvpn.Server
