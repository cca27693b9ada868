import PjProject.Transition
import PjProject.DnsQuery

/-!
# Response cache of the DNS resolver

`hrescache` of `pj_dns_resolver`: cache entries in memory with their reference counters, the lookup
of `pj_dns_resolver_start_query`, `update_res_cache` and `pj_dns_resolver_add_entry`. Between the two
times that a lookup holds the lock its callback runs, so other inputs come before it returns; these
may be lookups of the same name by the callback itself. Times are in milliseconds.
-/
namespace PjProject.DnsCache
open Dns (ResKey initResKey maxHostname)

/-- `pj_dns_parsed_query` -/
structure Question where
  name : Bytes
  type : ℕ
  dnsclass : ℕ
  deriving DecidableEq

/-- `pj_dns_parsed_rr` -/
structure Rr where
  name : Bytes
  type : ℕ
  dnsclass : ℕ
  ttl : ℕ
  rdata : Bytes
  deriving DecidableEq

/-- `pj_dns_parsed_packet`; of the header flags, those that the resolver reads. -/
structure Packet where
  qr : Bool
  tc : Bool
  rcode : ℕ
  q : List Question
  ans : List Rr
  ns : List Rr
  arr : List Rr
  deriving DecidableEq

/-- `pj_dns_packet_dup` with `PJ_DNS_NO_NS | PJ_DNS_NO_AR` -/
def packetDup (pkt : Packet) : Packet := { pkt with ns := [], arr := [] }

/-- `struct cached_res`; a packet that is `NULL` has no question and no record. -/
structure CachedRes where
  key : ResKey
  expiryTime : ℕ
  pkt : Packet
  refCnt : ℕ

/-- `PJ_POOL_ZALLOC_T(pool, struct cached_res)`, with its counter. -/
def CachedRes.zeroed (refCnt : ℕ) : CachedRes :=
  { key := ⟨0, []⟩, expiryTime := 0, pkt := ⟨false, false, 0, [], [], [], []⟩, refCnt := refCnt }

/-- Where a packet comes from: a name server, or `pj_dns_resolver_add_entry` with its `set_ttl`. -/
inductive Source
  | response | added (setTtl : Bool)
  deriving DecidableEq

/-- A packet that was accepted, with the time and the setting `cache_max_ttl` of that time. -/
structure Acceptance where
  pkt : Packet
  source : Source
  maxTtl : ℕ
  time : ℕ
  deriving DecidableEq

/-- `delivered` is the callback of a lookup that was answered from the cache. When an entry is
released or reset, `used` says whether a callback is using it. -/
inductive Event
  | accepted (key : ResKey) (acceptance : Acceptance)
  | delivered (name : Bytes) (type status : ℕ) (pkt : Packet) (time : ℕ)
  | released (entry : ℕ) (used : Bool)
  | reset (entry : ℕ) (used : Bool)
  deriving DecidableEq

/-- The cache of a resolver. Entries are addresses, and those from `brk` on are not allocated yet;
`running` has the entry of each lookup whose callback has not returned. -/
structure Cache where
  now : ℕ
  cacheMaxTtl : ℕ
  entry : ℕ → CachedRes
  brk : ℕ
  hrescache : ResKey → Option ℕ
  running : List ℕ
  log : List Event

def invalidTtl : ℕ := 60

/-- The smallest TTL of the answers, from `0xFFFFFFFF` down. -/
def minTtl (ans : List Rr) : ℕ := ans.foldl (fun ttl rr => if rr.ttl < ttl then rr.ttl else ttl) 0xFFFFFFFF

namespace Cache

def setEntry (c : Cache) (a : ℕ) (entry : CachedRes) : Cache := { c with entry := Function.update c.entry a entry }

/-- `pj_hash_set` on `hrescache` -/
def setRes (c : Cache) (key : ResKey) (a : Option ℕ) : Cache := { c with hrescache := Function.update c.hrescache key a }

def emit (c : Cache) (e : Event) : Cache := { c with log := c.log ++ [e] }

def used (c : Cache) (a : ℕ) : Bool := decide (a ∈ c.running)

def allocEntry (c : Cache) : Cache × ℕ := ({ c.setEntry c.brk (.zeroed 1) with brk := c.brk + 1 }, c.brk)

def resetEntry (c : Cache) (a : ℕ) : Cache := (c.setEntry a (.zeroed (c.entry a).refCnt)).emit (.reset a (c.used a))

def freeEntry (c : Cache) (a : ℕ) : Cache := c.emit (.released a (c.used a))

/-- `cache->ref_cnt--` -/
def decRef (c : Cache) (a : ℕ) : Cache := c.setEntry a { c.entry a with refCnt := (c.entry a).refCnt - 1 }

def unref (c : Cache) (a : ℕ) : Cache :=
  let c := c.decRef a
  if (c.entry a).refCnt = 0 then c.freeEntry a else c

def evict (c : Cache) (key : ResKey) : Cache :=
  match c.hrescache key with
  | some a => (c.setRes key none).unref a
  | none => c.setRes key none

/-- The TTL of a packet, at most `cache_max_ttl`. -/
def entryTtl (c : Cache) (status : ℕ) (setExpiry : Bool) (pkt : Packet) : ℕ :=
  let ttl := if setExpiry then (if pkt.ans.length = 0 ∨ status ≠ 0 then invalidTtl else minTtl pkt.ans) else 0xFFFFFFFF
  if c.cacheMaxTtl < ttl then c.cacheMaxTtl else ttl

/-- The entry for a packet that is going to be stored: a new one, unless the one in the table is not
in use. It is not in the table. -/
def getEntry (c : Cache) (key : ResKey) : Cache × ℕ :=
  match c.hrescache key with
  | none => c.allocEntry
  | some a =>
    let c := c.setRes key none
    if 1 < (c.entry a).refCnt then (c.decRef a).allocEntry else (c.resetEntry a, a)

def updateResCache (c : Cache) (key : ResKey) (status : ℕ) (setExpiry : Bool) (pkt : Packet) : Cache :=
  let c := if status ≠ 0 then c.evict key else c
  let ttl := c.entryTtl status setExpiry pkt
  if ttl = 0 then c.evict key
  else
    let (c, a) := c.getEntry key
    let expiryTime := if setExpiry then c.now + ttl * 1000 else 0x7FFFFFFF * 1000
    let c := c.setEntry a { c.entry a with pkt := packetDup pkt, expiryTime := expiryTime, key := key }
    c.setRes key (some a)

/-- `pj_dns_resolver_start_query` up to the end of the lookup. `cb` says that the callback is not
`NULL`. -/
def startQuery (c : Cache) (name : Bytes) (type : ℕ) (cb : Bool) : Cache :=
  if name.length = 0 ∨ maxHostname ≤ name.length ∨ type = 0 ∨ 0xFFFF ≤ type then c
  else
    let key := initResKey type name
    match c.hrescache key with
    | none => c
    | some a =>
      let e := c.entry a
      if c.now < e.expiryTime then
        let c := { c.setEntry a { e with refCnt := e.refCnt + 1 } with running := a :: c.running }
        if cb then c.emit (.delivered name type e.pkt.rcode e.pkt c.now) else c
      else c.evict key

def callbackReturn (c : Cache) (a : ℕ) : Cache :=
  if a ∈ c.running then { c with running := c.running.erase a }.unref a else c

/-- The end of `on_read_complete`, after the callbacks: `key` is that of the query. -/
def saveResponse (c : Cache) (key : ResKey) (pkt : Packet) : Cache :=
  let saved := if pkt.tc = false then c.updateResCache key pkt.rcode true pkt else c
  saved.emit (.accepted key ⟨pkt, .response, c.cacheMaxTtl, c.now⟩)

def packetKey (pkt : Packet) : Option ResKey :=
  match pkt.ans, pkt.q with
  | rr :: _, _ => if rr.name.length < maxHostname then some (initResKey rr.type rr.name) else none
  | [], question :: _ =>
    if question.name.length < maxHostname then some (initResKey question.type question.name) else none
  | [], [] => none

def addEntry (c : Cache) (pkt : Packet) (setTtl : Bool) : Cache :=
  if pkt.qr = false then c
  else
    match packetKey pkt with
    | none => c
    | some key =>
      (c.updateResCache key 0 setTtl pkt).emit (.accepted key ⟨pkt, .added setTtl, c.cacheMaxTtl, c.now⟩)

end Cache

/-- A response comes for a query, whose key was made by `init_res_key`. The clock may be set to any
time. -/
inductive Input
  | startQuery (name : Bytes) (type : ℕ) (cb : Bool)
  | callbackReturn (a : ℕ)
  | response (name : Bytes) (type : ℕ) (pkt : Packet)
  | addEntry (pkt : Packet) (setTtl : Bool)
  | setSettings (cacheMaxTtl : ℕ)
  | clock (now : ℕ)

def step (c : Cache) : Input → Cache
  | .startQuery name type cb => c.startQuery name type cb
  | .callbackReturn a => c.callbackReturn a
  | .response name type pkt => c.saveResponse (initResKey type name) pkt
  | .addEntry pkt setTtl => c.addEntry pkt setTtl
  | .setSettings cacheMaxTtl => { c with cacheMaxTtl := cacheMaxTtl }
  | .clock now => { c with now := now }

def create (cacheMaxTtl now : ℕ) : Cache :=
  { now := now, cacheMaxTtl := cacheMaxTtl, entry := fun _ => .zeroed 0, brk := 0, hrescache := fun _ => none,
    running := [], log := [] }

end PjProject.DnsCache
