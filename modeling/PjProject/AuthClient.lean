import PjProject.PjString

/-!
# The client authentication session

`pjsip_auth_clt_init_req` and `pjsip_auth_clt_reinit_req` of a session without a parent
(one with a parent hands both calls to it), built with `PJSIP_AUTH_QOP_SUPPORT`, without
`PJSIP_AUTH_HEADER_CACHING`, `PJSIP_AUTH_ALLOW_MULTIPLE_AUTH_HEADER` and digest AKA.
-/
namespace PjProject.AuthClient

/-- `pjsip_auth_algorithm_type` -/
inductive Algorithm
  | notSet | md5 | sha256 | sha512_256 | akav1Md5 | akav2Md5
  deriving DecidableEq

namespace Algorithm

def ianaName : Algorithm → Bytes
  | notSet => []
  | md5 => lit "MD5"
  | sha256 => lit "SHA-256"
  | sha512_256 => lit "SHA-512-256"
  | akav1Md5 => lit "AKAv1-MD5"
  | akav2Md5 => lit "AKAv2-MD5"

def digestStrLength : Algorithm → ℕ
  | notSet => 0
  | sha256 | sha512_256 => 64
  | md5 | akav1Md5 | akav2Md5 => 32

end Algorithm

/-- What the session is built with: the options, the digests that OpenSSL has under a
name, and the hash of a text in hexadecimal digits. -/
structure Build where
  openssl : Bool
  autoSendNext : Bool
  evp : Algorithm → Bool
  hash : Algorithm → Bytes → Bytes
  hash_length : ∀ a s, (hash a s).length = a.digestStrLength

variable (b : Build)

def byIanaName (name : Bytes) : Option Algorithm :=
  if name = [] then some .md5
  else if b.openssl then
    [.md5, .sha256, .sha512_256, .akav1Md5, .akav2Md5].find? fun a => stricmpEq name a.ianaName
  else if stricmpEq name Algorithm.md5.ianaName then some .md5 else none

/-- `pjsip_auth_is_algorithm_supported`; there is no OpenSSL name for the AKA ones. -/
def isAlgorithmSupported : Algorithm → Bool
  | .notSet => false
  | .akav1Md5 | .akav2Md5 | .md5 => true
  | a => b.openssl && b.evp a

/-- Whether `pjsip_auth_create_digest2` gets a digest function for the algorithm; for MD5
there is one of the library. -/
def hasDigest : Algorithm → Bool
  | .md5 => true
  | .akav1Md5 | .akav2Md5 | .notSet => !b.openssl
  | a => !b.openssl || b.evp a

inductive CredData
  | plainPasswd
  | digest
  deriving DecidableEq

structure CredInfo where
  realm : Bytes
  scheme : Bytes
  username : Bytes
  dataType : CredData
  data : Bytes
  algorithmType : Algorithm

/-- `WWW-Authenticate` and `Authorization`, or `Proxy-Authenticate` and `Proxy-Authorization`. -/
inductive HdrType
  | www
  | proxy
  deriving DecidableEq

structure Challenge where
  type : HdrType
  scheme : Bytes
  realm : Bytes
  domain : Bytes
  nonce : Bytes
  opaqueVal : Bytes
  algorithm : Bytes
  qop : Bytes
  stale : Bool
  deriving DecidableEq

/-- An authorization header; `nc` is the number that is printed, where there is a `qop`. -/
structure AuthHdr where
  type : HdrType
  scheme : Bytes
  username : Bytes := []
  realm : Bytes := []
  nonce : Bytes := []
  uri : Bytes := []
  algorithm : Bytes := []
  opaqueVal : Bytes := []
  response : Bytes := []
  qop : Bytes := []
  nc : ℕ := 0
  cnonce : Bytes := []
  token : Bytes := []
  deriving DecidableEq

def digestStr : Bytes := lit "Digest"

def bearerStr : Bytes := lit "Bearer"

def authStr : Bytes := lit "auth"

def maxStaleCount : ℕ := 3

def maxUrlSize : ℕ := 256

/-- A request: `printed` is what `pjsip_uri_print` makes of its URI, if that fits in the
buffer, and `auths` are the authorization headers. -/
structure Request where
  method : Bytes
  printed : Option Bytes
  auths : List AuthHdr

inductive Status
  | uriTooLong | invalidAuthScheme | invalidAlgorithm | invalidQop
  | notSup | inval
  | noPrevChal | noCredential | failedCredential | staleCount | noAuth | noChal
  deriving DecidableEq

inductive QopType
  | none | auth | unknown
  deriving DecidableEq

/-- A string of `pj_create_unique_string`. -/
abbrev UniqueString := {s : Bytes // s ≠ []}

/-- `pjsip_cached_auth`; the last challenge is there once a client nonce is. -/
structure CachedAuth where
  realm : Bytes
  isProxy : Bool
  qopValue : QopType
  staleCnt : ℕ
  nc : ℕ
  cnonce : Bytes
  lastChal : Option Challenge
  challengeAlgorithmType : Algorithm
  chal_of_cnonce : cnonce ≠ [] → lastChal.isSome
  cnonce_of_qop : qopValue ≠ .none → cnonce ≠ []

def CachedAuth.zalloc (realm : Bytes) (type : HdrType) (a : Algorithm) : CachedAuth where
  realm := realm
  isProxy := type = .proxy
  qopValue := .none
  staleCnt := 0
  nc := 0
  cnonce := []
  lastChal := none
  challengeAlgorithmType := a
  chal_of_cnonce h := absurd rfl h
  cnonce_of_qop h := absurd rfl h

def CachedAuth.withStale (e : CachedAuth) (n : ℕ) : CachedAuth := { e with staleCnt := n }

def CachedAuth.chal (e : CachedAuth) (h : e.cnonce ≠ []) : Challenge := e.lastChal.get (e.chal_of_cnonce h)

/-- The test of `find_cached_auth`. -/
def CachedAuth.isFor (e : CachedAuth) (realm : Bytes) (a : Algorithm) : Bool :=
  stricmpEq e.realm realm && e.challengeAlgorithmType = a

def findCachedAuth (cached : List CachedAuth) (realm : Bytes) (a : Algorithm) : Option CachedAuth :=
  cached.find? (·.isFor realm a)

structure Session where
  credInfo : List CredInfo
  initialAuth : Bool
  prefAlgorithm : Bytes
  cachedAuth : List CachedAuth

def CredInfo.usableWith (c : CredInfo) (a : Algorithm) : Bool :=
  match c.dataType with
  | .plainPasswd => a ≠ .akav1Md5 && a ≠ .akav2Md5
  | .digest => c.algorithmType = a

def CredInfo.isWildcard (c : CredInfo) : Bool := c.realm = lit "*"

/-- The loop of `auth_find_cred`, with the wildcard credential seen so far. -/
def authFindCredFrom (realm : Bytes) (a : Algorithm) : Option CredInfo → List CredInfo → Option CredInfo
  | wildcard, [] => wildcard
  | wildcard, c :: cs =>
    if !c.usableWith a then authFindCredFrom realm a wildcard cs
    else if stricmpEq c.realm realm then some c
    else authFindCredFrom realm a (if c.isWildcard then some c else wildcard) cs

def authFindCred (creds : List CredInfo) (realm : Bytes) (a : Algorithm) : Option CredInfo :=
  authFindCredFrom realm a none creds

/-- `pjsip_auth_create_digest2`, for the texts that stand between the nonce and `ha2`. -/
def createDigest2 (nonce : Bytes) (between : List Bytes) (uri realm : Bytes) (c : CredInfo) (method : Bytes)
    (a : Algorithm) : Except Status Bytes :=
  if a = .notSet || !isAlgorithmSupported b a then .error .notSup
  else if c.dataType = .digest && (c.algorithmType ≠ .notSet && c.algorithmType ≠ a) then .error .inval
  else if c.dataType = .digest && c.data.length < a.digestStrLength then .error .inval
  else if !hasDigest b a then .error .notSup
  else
    let ha1 := match c.dataType with
      | .plainPasswd => b.hash a (c.username ++ lit ":" ++ realm ++ lit ":" ++ c.data)
      | .digest => c.data.take a.digestStrLength
    let ha2 := b.hash a (method ++ lit ":" ++ uri)
    .ok (b.hash a (ha1 ++ lit ":" ++ nonce ++ (between.map (lit ":" ++ ·)).flatten ++ lit ":" ++ ha2))

/-- The search of `has_auth_qop` in a text that is in lower case, with the number of
characters that it skips first. -/
def hasAuthToken : ℕ → Bytes → Bool
  | _, [] => false
  | skip + 1, _ :: s => hasAuthToken skip s
  | 0, c :: s =>
    if (c :: s).take 4 = authStr then
      if (s.drop 3).head?.all fun e => e = 34 || e = 44 then true else hasAuthToken 3 s
    else hasAuthToken 0 s

/-- `has_auth_qop`; the offer is read up to a NUL. -/
def hasAuthQop (qop : Bytes) : Bool := hasAuthToken 0 (lowerAll (qop.takeWhile (· ≠ 0)))

/-- The texts of a count in the digest: `nc` as `%08u` prints it, the client nonce and the `qop`. -/
def countTexts (nc : ℕ) (cnonce : Bytes) : List Bytes :=
  [List.replicate (8 - (utoa nc).length) 48 ++ utoa nc, cnonce, authStr]

def respondDigest (c : Challenge) (uri : Bytes) (cred : CredInfo) (cnonce : Bytes) (nc : ℕ) (method : Bytes)
    (a : Algorithm) : Except Status AuthHdr :=
  let hauth : AuthHdr := { type := c.type, scheme := digestStr, username := cred.username, realm := c.realm,
                           nonce := c.nonce, uri := uri, algorithm := c.algorithm, opaqueVal := c.opaqueVal }
  if c.qop = [] then
    (createDigest2 b c.nonce [] uri c.realm cred method a).map fun r => { hauth with response := r }
  else if hasAuthQop c.qop then
    let cnonce := if cnonce = [] then lit "b39971" else cnonce
    (createDigest2 b c.nonce (countTexts nc cnonce) uri c.realm cred method a).map fun r =>
      { hauth with response := r, qop := authStr, nc := nc, cnonce := cnonce }
  else .error .invalidQop

/-- Whether a cached challenge is replaced by one without `qop`. -/
def differs (d1 d2 : Challenge) : Bool :=
  d1.domain ≠ d2.domain || d1.realm ≠ d2.realm || d1.nonce ≠ d2.nonce || d1.opaqueVal ≠ d2.opaqueVal ||
    d1.algorithm ≠ d2.algorithm || d1.qop ≠ d2.qop

/-- The last challenge of the cache after one without `qop`. -/
def newestChal (hdr : Challenge) : Option Challenge → Challenge
  | none => hdr
  | some last => if !stricmpEq hdr.scheme (lit "digest") || differs last hdr then hdr else last

/-- `update_digest_session`; `fresh` is the client nonce, where one is made. -/
def updateDigestSession (fresh : UniqueString) (e : CachedAuth) (hdr : Challenge) : CachedAuth :=
  if hdr.qop = [] then
    if b.autoSendNext then
      { e with lastChal := some (newestChal hdr e.lastChal), chal_of_cnonce := fun _ => rfl }
    else e
  else if h : e.cnonce = [] then
    { e with lastChal := some hdr, cnonce := fresh.1, nc := 1, realm := if e.realm = [] then hdr.realm else e.realm,
             chal_of_cnonce := fun _ => rfl, cnonce_of_qop := fun _ => fresh.2 }
  else if hdr.nonce = (e.chal h).nonce then { e with nc := (e.nc + 1) % 2 ^ 32 }
  else
    { e with lastChal := some { e.chal h with nonce := hdr.nonce, opaqueVal := hdr.opaqueVal }, nc := 1,
             chal_of_cnonce := fun _ => rfl }

lemma updateDigestSession_cnonce {fresh : UniqueString} {e : CachedAuth} {hdr : Challenge}
    (h : hdr.qop ≠ []) : (updateDigestSession b fresh e hdr).cnonce ≠ [] := by
  by_cases hc : e.cnonce = []
  · simpa [updateDigestSession, h, hc] using fresh.2
  · simp only [updateDigestSession, if_neg h, dif_neg hc]
    split <;> exact hc

/-- The type of `qop` is set the first time only. -/
def CachedAuth.setQop (e : CachedAuth) (qop : Bytes) (h : e.cnonce ≠ []) : CachedAuth :=
  if e.qopValue = .none then
    { e with qopValue := if qop = authStr then .auth else .unknown, cnonce_of_qop := fun _ => h }
  else e

def authRespond (fresh : UniqueString) (req : Request) (hdr : Challenge) (cred : CredInfo) (e : CachedAuth)
    (a : Algorithm) : CachedAuth × Except Status AuthHdr :=
  match req.printed with
  | none | some [] => (e, .error .uriTooLong)
  | some uri =>
    if stricmpEq hdr.scheme digestStr then
      let e' := updateDigestSession b fresh e hdr
      match respondDigest b hdr uri cred e'.cnonce e'.nc req.method a with
      | .error s => (e', .error s)
      | .ok hauth =>
        (if h : hdr.qop ≠ [] then e'.setQop hauth.qop (updateDigestSession_cnonce b h) else e', .ok hauth)
    else (e, .error .invalidAuthScheme)

def newAuthForReq (creds : List CredInfo) (fresh : UniqueString) (req : Request) (e : CachedAuth) :
    CachedAuth × Except Status AuthHdr :=
  match e.lastChal with
  | none => (e, .error .noPrevChal)
  | some chal =>
    match authFindCred creds e.realm e.challengeAlgorithmType with
    | none => (e, .error .noCredential)
    | some cred => authRespond b fresh req chal cred e e.challengeAlgorithmType

/-- What `pjsip_auth_clt_init_req` does with an entry: it adds no header, one in the message
or one in its list, or returns. -/
inductive Outcome
  | nothing
  | direct (hauth : AuthHdr)
  | listed (hauth : AuthHdr)
  | failed (status : Status)

/-- One entry in the loop of `pjsip_auth_clt_init_req`. -/
def initEntry (creds : List CredInfo) (fresh : UniqueString) (req : Request) (e : CachedAuth) :
    CachedAuth × Outcome :=
  let e := e.withStale 0
  match e.qopValue with
  | .none =>
    let r := newAuthForReq b creds fresh req e
    match r.2 with
    | .ok hauth => (r.1, .direct hauth)
    | .error _ => (r.1, .nothing)
  | .auth =>
    let r := newAuthForReq b creds fresh req e
    match r.2 with
    | .ok hauth => (r.1, .listed hauth)
    | .error .noCredential => (r.1, .nothing)
    | .error s => (r.1, .failed s)
  | .unknown => (e, .nothing)

structure Added where
  direct : List AuthHdr
  listed : List AuthHdr
  error : Option Status

/-- The loop of `pjsip_auth_clt_init_req` over the cached entries. -/
def initLoop (creds : List CredInfo) (fresh : UniqueString) (req : Request) :
    List CachedAuth → List CachedAuth × Added
  | [] => ([], ⟨[], [], none⟩)
  | e :: es =>
    let r := initEntry b creds fresh req e
    let rest := initLoop creds fresh req es
    match r.2 with
    | .nothing => (r.1 :: rest.1, rest.2)
    | .direct hauth => (r.1 :: rest.1, { rest.2 with direct := hauth :: rest.2.direct })
    | .listed hauth => (r.1 :: rest.1, { rest.2 with listed := hauth :: rest.2.listed })
    | .failed s => (r.1 :: es, ⟨[], [], some s⟩)

/-- The test of `get_header_for_cred_info`. -/
def CredInfo.isOwnHeader (c : CredInfo) (h : AuthHdr) : Bool :=
  stricmpEq h.realm c.realm &&
    match c.dataType with
    | .plainPasswd => true
    | .digest => stricmpEq h.algorithm c.algorithmType.ianaName

def emptyHeader (prefAlgorithm uri : Bytes) (c : CredInfo) : AuthHdr :=
  if stricmpEq c.scheme bearerStr then
    { type := .www, scheme := c.scheme, username := c.username, realm := c.realm, token := c.data }
  else
    { type := .www, scheme := c.scheme, username := c.username, realm := c.realm, uri := uri,
      algorithm := if c.algorithmType = .notSet then prefAlgorithm else c.algorithmType.ianaName }

def placeHeaders (prefAlgorithm uri : Bytes) : List CredInfo → List AuthHdr → List AuthHdr
  | [], _ => []
  | c :: cs, listed =>
    match listed.find? c.isOwnHeader with
    | some h => h :: placeHeaders prefAlgorithm uri cs (listed.erase h)
    | none => emptyHeader prefAlgorithm uri c :: placeHeaders prefAlgorithm uri cs listed

/-- `pjsip_auth_clt_init_req`, with the headers that it adds to the message. -/
def initReq (sess : Session) (fresh : UniqueString) (req : Request) :
    Session × List AuthHdr × Except Status Unit :=
  let (cached, added) := initLoop b sess.credInfo fresh req sess.cachedAuth
  let sess := { sess with cachedAuth := cached }
  match added.error with
  | some s => (sess, added.direct, .error s)
  | none =>
    if !sess.initialAuth then (sess, added.direct ++ added.listed, .ok ())
    else
      match req.printed with
      | none => (sess, added.direct, .error .uriTooLong)
      | some uri =>
        if uri.length < 1 ∨ maxUrlSize ≤ uri.length then (sess, added.direct, .error .uriTooLong)
        else
          (sess, added.direct ++ placeHeaders sess.prefAlgorithm uri sess.credInfo added.listed, .ok ())

def Challenge.wasAnswered (hchal : Challenge) (h : AuthHdr) : Bool :=
  h.type = hchal.type && stricmpEq hchal.realm h.realm && stricmpEq hchal.scheme h.scheme

/-- The header that `process_auth` finds, with those before it, less the empty ones, and
those behind it. -/
def findSent (hchal : Challenge) : List AuthHdr → List AuthHdr × Option AuthHdr × List AuthHdr
  | [] => ([], none, [])
  | h :: hs =>
    let rest := findSent hchal hs
    if hchal.wasAnswered h then
      if stricmpEq h.scheme digestStr && h.response = [] then rest else ([], some h, hs)
    else (h :: rest.1, rest.2)

/-- What `process_auth` makes of the headers of the request and of the stale counter
before it looks for a credential. -/
def checkSent (hchal : Challenge) (e : CachedAuth) (auths : List AuthHdr) :
    CachedAuth × List AuthHdr × Option Status :=
  match findSent hchal auths with
  | (before, none, behind) => (e, before ++ behind, none)
  | (before, some sent, behind) =>
    if !hchal.stale && hchal.nonce = sent.nonce then (e, before ++ sent :: behind, some .failedCredential)
    else
      let e := e.withStale ((e.staleCnt + 1) % 2 ^ 32)
      if maxStaleCount ≤ e.staleCnt then (e, before ++ sent :: behind, some .staleCount)
      else (e, before ++ behind, none)

/-- `process_auth`, with the headers that it leaves in the request. -/
def processAuth (creds : List CredInfo) (fresh : UniqueString) (req : Request) (hchal : Challenge)
    (e : CachedAuth) (a : Algorithm) : CachedAuth × List AuthHdr × Except Status AuthHdr :=
  match checkSent hchal e req.auths with
  | (e, auths, some s) => (e, auths, .error s)
  | (e, auths, none) =>
    match authFindCred creds hchal.realm a with
    | none => (e, auths, .error .noCredential)
    | some cred =>
      let r := authRespond b fresh req hchal cred e a
      (r.1, auths, r.2)

def atEntry {α : Type} (p : CachedAuth → Bool) (new : CachedAuth) (f : CachedAuth → CachedAuth × α) :
    List CachedAuth → List CachedAuth × α
  | [] => let r := f new; ([r.1], r.2)
  | e :: es =>
    if p e then let r := f e; (r.1 :: es, r.2) else let r := atEntry p new f es; (e :: r.1, r.2)

/-- The state of the loop of `pjsip_auth_clt_reinit_req`: `made` are the headers that
`auth_cnt` counts. -/
structure Retry where
  cachedAuth : List CachedAuth
  auths : List AuthHdr
  made : List AuthHdr
  lastAuthErr : Status

/-- One header of the response in the loop of `pjsip_auth_clt_reinit_req`. -/
def reinitHdr (creds : List CredInfo) (req : Request) (r : Retry) (hdr : Challenge × UniqueString) : Retry :=
  let hchal := hdr.1
  if !stricmpEq hchal.scheme digestStr then { r with lastAuthErr := .invalidAuthScheme }
  else
    match byIanaName b hchal.algorithm with
    | none => { r with lastAuthErr := .invalidAlgorithm }
    | some a =>
      let (cached, auths, result) := atEntry (·.isFor hchal.realm a) (.zalloc hchal.realm hchal.type a)
        (processAuth b creds hdr.2 { req with auths := r.auths } hchal · a) r.cachedAuth
      match result with
      | .error s => { r with cachedAuth := cached, auths := auths, lastAuthErr := s }
      | .ok hauth => { r with cachedAuth := cached, auths := auths ++ [hauth], made := r.made ++ [hauth] }

/-- `pjsip_auth_clt_reinit_req` for the challenges of a response. -/
def reinitReq (sess : Session) (req : Request) (hdrs : List (Challenge × UniqueString)) :
    Session × Request × List AuthHdr × Except Status Unit :=
  let r := hdrs.foldl (reinitHdr b sess.credInfo req) ⟨sess.cachedAuth, req.auths, [], .noAuth⟩
  ({ sess with cachedAuth := r.cachedAuth }, { req with auths := r.auths }, r.made,
    if hdrs = [] then .error .noChal else if r.made = [] then .error r.lastAuthErr else .ok ())

end PjProject.AuthClient
