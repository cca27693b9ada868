import PjProject.StunLaw

/-!
# Message integrity

The verifiers of `stun_auth.c`, and their agreement with the encoder on the bytes that are
hashed.
-/
namespace PjProject.Stun

open ByteOrder

inductive PasswdType
  | plain
  | hashed
deriving DecidableEq

structure ReqCredInfo where
  realm : Bytes
  nonce : Bytes
  username : Bytes
  authKey : Bytes
deriving DecidableEq

/-- `pj_stun_auth_cred`. The callbacks of a dynamic credential see the decoded message. -/
inductive AuthCred
  | static (realm username : Bytes) (dataType : PasswdType) (data nonce : Bytes)
  | dynamic (getAuth : Except Status (Bytes × Bytes))
      (getPassword : Msg → Option Bytes → Bytes → Except Status (PasswdType × Bytes))
      (verifyNonce : Option (Msg → Option Bytes → Bytes → Bytes → Bool))

/-- The macro `REMOVE_QUOTE`. -/
def removeQuote (s : Bytes) : Bytes :=
  let s := if s.head? = some 34 then s.tail else s
  if s.getLast? = some 34 then s.dropLast else s

section Key

variable (md5 : Bytes → Fixed 16)

def calcMd5Key (realm username passwd : Bytes) : Bytes :=
  (md5 (removeQuote username ++ lit ":" ++ removeQuote realm ++ lit ":" ++ passwd)).1

def createKey (realm : Option Bytes) (username : Bytes) (dataType : PasswdType) (data : Bytes) : Bytes :=
  match realm with
  | none => data
  | some realm =>
    if realm = [] then data
    else if dataType = .plain then calcMd5Key md5 realm username data
    else data

end Key

/-- `pj_stun_msg_find_attr` from the first attribute on. -/
def Msg.findAttr (msg : Msg) (attrType : UInt16) : Option Attr :=
  msg.attrs.find? fun a => a.type = attrType

def Attr.text (a : Attr) : Bytes :=
  match a.val with
  | .string value => value
  | _ => []

def Attr.hmac (a : Attr) : Bytes :=
  match a.val with
  | .msgint hmac => hmac.1
  | _ => []

structure Walk where
  amsgi : Option Attr
  pos : ℕ
  beyond : Bool

def findMsgInt : List Attr → Walk → Walk
  | [], w => w
  | a :: rest, w =>
    if a.type = attrMessageIntegrity then findMsgInt rest { w with amsgi := some a }
    else if w.amsgi.isSome then { w with beyond := true }
    else findMsgInt rest { w with pos := w.pos + (align4 a.length.toNat + 4) }

def Msg.walk (msg : Msg) : Walk := findMsgInt msg.attrs ⟨none, 0, false⟩

def hashedHeader (pkt : Bytes) (w : Walk) : Bytes :=
  if w.beyond then pkt.take 2 ++ put16 (UInt16.ofNat (w.pos + 24)) ++ (pkt.take 20).drop 4
  else pkt.take 20

def hashedBytes (pkt : Bytes) (w : Walk) : Bytes := hashedHeader pkt w ++ (pkt.drop 20).take w.pos

def authenticateResponse (env : Env) (pkt : Bytes) (msg : Msg) (key : Bytes) : Except Status Unit :=
  if pkt = [] then .error .inval
  else if msg.findAttr attrMessageIntegrity = none then .error (.stunCode 401)
  else if msg.hdr.length < 24 then .error .inStunMsgLen
  else
    match msg.walk.amsgi with
    | none => .error (.stunCode 400)
    | some a =>
      if a.hmac ≠ (env.hmacSha1 key (hashedBytes pkt msg.walk)).1 then .error (.stunCode 401) else .ok ()

def AuthCred.auth : AuthCred → Except Status (Bytes × Bytes)
  | .static realm _ _ _ nonce => .ok (realm, nonce)
  | .dynamic getAuth _ _ => getAuth

def AuthCred.key (md5 : Bytes → Fixed 16) (msg : Msg) (realm : Bytes) (auser : Attr)
    (arealm : Option Attr) : AuthCred → Except Status (Bytes × Bytes)
  | .static _ username dataType data _ =>
    if auser.text ≠ username then .error (.stunCode 401)
    else .ok (username, createKey md5 (some realm) auser.text dataType data)
  | .dynamic _ getPassword _ =>
    match getPassword msg (arealm.map Attr.text) auser.text with
    | .error _ => .error (.stunCode 401)
    | .ok (dataType, password) =>
      .ok (auser.text, createKey md5 (arealm.map Attr.text) auser.text dataType password)

def checkTerm (realm nonce : Bytes) (arealm anonce : Option Attr) : Except Status Unit :=
  match arealm with
  | none =>
    if realm ≠ [] then .error (.stunCode 400)
    else if nonce ≠ [] then .error (.stunCode 401)
    else .ok ()
  | some a =>
    if realm ≠ [] then
      if anonce = none ∧ nonce ≠ [] then .error (.stunCode 400)
      else if stricmpEq a.text realm = false then .error (.stunCode 401)
      else .ok ()
    else .ok ()

def AuthCred.nonceOk (msg : Msg) (nonce : Bytes) (auser : Attr) (arealm : Option Attr)
    (anonce : Attr) : AuthCred → Bool
  | .dynamic _ _ (some verifyNonce) =>
    verifyNonce msg (arealm.map Attr.text) auser.text anonce.text
  | .dynamic _ _ none => true
  | .static _ _ _ _ _ => nonce = [] || anonce.text = nonce

/-- The checks of `pj_stun_authenticate_request` between the search for MESSAGE-INTEGRITY and
the digest. -/
def checkCredential (md5 : Bytes → Fixed 16) (msg : Msg) (cred : AuthCred) (realm nonce : Bytes) :
    Except Status ReqCredInfo :=
  match msg.findAttr attrUsername with
  | none => .error (.stunCode 400)
  | some auser =>
    let arealm := msg.findAttr attrRealm
    let anonce := msg.findAttr attrNonce
    if realm ≠ [] ∧ arealm = none then .error (.stunCode 400)
    else do
      let (username, key) ← cred.key md5 msg realm auser arealm
      -- an empty key is left without memory, which an assertion refuses
      if key = [] then .error .bug
      else do
        checkTerm realm nonce arealm anonce
        if anonce.any (fun a => !cred.nonceOk msg nonce auser arealm a) then .error (.stunCode 438)
        else .ok ⟨realm, nonce, username, key⟩

/-- `pj_stun_authenticate_request`, as called without a place for an error response. -/
def authenticateRequest (env : Env) (md5 : Bytes → Fixed 16) (pkt : Bytes) (msg : Msg)
    (cred : AuthCred) : Except Status ReqCredInfo :=
  if pkt = [] then .error .inval
  else do
    let (realm, nonce) ← cred.auth
    match msg.walk.amsgi with
    | none => .error (.stunCode (if realm = [] then 400 else 401))
    | some a => do
      let info ← checkCredential md5 msg cred realm nonce
      if a.hmac ≠ (env.hmacSha1 info.authKey (hashedBytes pkt msg.walk)).1 then .error (.stunCode 401)
      else .ok info

section Agreement

variable {env : Env} {hdr : MsgHdr}

lemma findMsgInt_plain {attrs : List Attr} {bytes : Bytes} (h : Prints env hdr attrs bytes)
    (hopen : ∀ a ∈ attrs, a.closes = false) (hfit : bytes.length < 65536) (rest : List Attr) (pos : ℕ) :
    findMsgInt (attrs.map (Attr.received env hdr) ++ rest) ⟨none, pos, false⟩ =
      findMsgInt rest ⟨none, pos + bytes.length, false⟩ := by
  induction h generalizing pos with
  | nil => rfl
  | @cons a attrs room printed bytes head _ ih =>
    have hc := hopen a (List.mem_cons_self ..)
    simp only [Attr.closes, decide_eq_false_iff_not, not_or] at hc
    rw [List.length_append] at hfit
    have hpr := encodeAttr_printed head (by omega) (fun ht => absurd ht hc.1)
    obtain ⟨-, hl, hn⟩ := hpr.length [] (by omega)
    have hsize : align4 (a.received env hdr).length.toNat + 4 = printed.length := by
      rw [← hn, attrLength, hl]
    have htype : (a.received env hdr).type ≠ attrMessageIntegrity := hc.1
    rw [List.map_cons, List.cons_append, findMsgInt, if_neg htype, if_neg (by simp), hsize,
      ih (fun b hb => hopen b (List.mem_cons_of_mem _ hb)) (by omega), List.length_append, Nat.add_assoc]

variable {msg msg' : Msg} {key : Option Bytes} {pkt : Bytes} (s : Sent env msg key pkt msg')

lemma Sent.walk (hfit : pkt.length < 65556) {a : Attr}
    (ht : a.type = attrMessageIntegrity) (hmi : s.mi = [a.setHmac s.hmac]) :
    findMsgInt ((s.plain ++ (s.mi ++ s.fp)).map (Attr.received env msg.hdr)) ⟨none, 0, false⟩ =
      ⟨some ((a.setHmac s.hmac).received env msg.hdr), s.body.length, !s.fp.isEmpty⟩ := by
  have hlen := congrArg List.length s.pkt_eq
  simp only [List.length_append, headerBytes_length] at hlen
  have hta : ((a.setHmac s.hmac).received env msg.hdr).type = attrMessageIntegrity :=
    (setHmac_type s.hmac a).trans ht
  rw [List.map_append, findMsgInt_plain s.prints_plain s.plain_open (by omega), hmi, Nat.zero_add,
    List.singleton_append, List.map_cons, findMsgInt, if_pos hta]
  rcases s.fp_cases with ⟨hfp, -⟩ | ⟨b, -, htb, hfp⟩
  · rw [hfp]
    rfl
  · have hne : ((b.setFingerprint s.value).received env msg.hdr).type ≠ attrMessageIntegrity := by
      have : (b.setFingerprint s.value).type = attrFingerprint := by simp [Attr.setFingerprint, htb]
      show (b.setFingerprint s.value).type ≠ attrMessageIntegrity
      rw [this]
      decide
    rw [hfp, List.map_cons, findMsgInt, if_neg hne]
    rfl

lemma headerBytes_replace (hdr : MsgHdr) (m n : UInt16) (rest : Bytes) :
    (headerBytes hdr m ++ rest).take 2 ++ put16 n ++ ((headerBytes hdr m ++ rest).take 20).drop 4 =
      headerBytes hdr n := by
  have htake : (headerBytes hdr m ++ rest).take 20 = headerBytes hdr m :=
    List.take_left' (headerBytes_length hdr m)
  have hparts : headerBytes hdr m = put16 hdr.type ++ (put16 m ++ (put32 hdr.magic ++ hdr.tsxId.1)) := by
    simp [headerBytes]
  rw [htake, hparts, List.append_assoc (put16 hdr.type), List.take_left' (put16_length _)]
  simp [headerBytes, put16]

lemma Sent.hashedBytes_eq (hmi : s.miBytes.length = 24)
    (hfp : s.fp.isEmpty = true → s.fpBytes = []) (a : Option Attr) :
    hashedBytes pkt ⟨a, s.body.length, !s.fp.isEmpty⟩ =
      headerBytes msg.hdr (UInt16.ofNat (s.body.length + 24)) ++ s.body := by
  obtain ⟨plain, stop, body, mi, miBytes, fp, fpBytes, hmac, value, _, _, _, _, _, _, _, _, _, _, hpkt, _,
    _⟩ := s
  simp only at hmi hfp ⊢
  have hbody : (pkt.drop 20).take body.length = body := by
    rw [hpkt, List.drop_left' (headerBytes_length _ _), List.take_left]
  rw [hashedBytes, hbody]
  congr 1
  cases hf : fp.isEmpty with
  | true =>
    have hsum : (body ++ (miBytes ++ fpBytes)).length = body.length + 24 := by
      rw [hfp hf, List.append_nil, List.length_append, hmi]
    rw [hashedHeader, hpkt, List.take_left' (headerBytes_length _ _), hsum]
    rfl
  | false =>
    rw [hashedHeader, hpkt]
    exact headerBytes_replace _ _ _ _

lemma Sent.miBytes_length {a : Attr}
    (ht : a.type = attrMessageIntegrity) (hmi : s.mi = [a.setHmac s.hmac]) : s.miBytes.length = 24 := by
  have hprints := s.prints_mi
  rw [hmi] at hprints
  generalize s.miBytes = bytes at hprints
  cases hprints with
  | cons head tail =>
    cases tail
    rw [encodeAttr_setHmac ht] at head
    rw [List.append_nil, encodeMsgintAttr_length head]

lemma Sent.fpBytes_nil (h : s.fp.isEmpty = true) : s.fpBytes = [] := by
  have hprints := s.prints_fp
  rw [List.isEmpty_iff.1 h] at hprints
  generalize s.fpBytes = bytes at hprints ⊢
  cases hprints
  rfl

end Agreement

/-- A message with MESSAGE-INTEGRITY that the encoder accepts, that the length field can express
and whose attributes the decoder knows or may ignore, is decoded, and its integrity verified:
for a response with the key, and for a request with every credential whose checks pass and give
the key. Both sides hash the same bytes. -/
theorem integrity_input_agrees (env : Env) (md5 : Bytes → Fixed 16) (msg : Msg) (bufSize encOptions : ℕ)
    (key pkt : Bytes) (msg' : Msg) (henc : encode env msg bufSize encOptions (some key) = .ok (pkt, msg'))
    (hmi : ∃ a ∈ msg.attrs, a.type = attrMessageIntegrity)
    (hbuilt : ∀ a ∈ msg.attrs, a.type = attrMessageIntegrity → a.length = 20) (hfit : pkt.length < 20 + 65536)
    (hknown : ∀ a ∈ msg.attrs.takeWhile (fun a => !a.closes), a.Known) (options : DecodeOptions)
    (hcheck : options.checkPacket = true → msgCheck env options pkt = .ok ()) :
    ∃ d : Msg, decode env options pkt = .ok (d, pkt.length) ∧
      (∃ room left stop body, encodeAttrs env msg.hdr msg.attrs room = .ok (body, left, stop) ∧
        hashedBytes pkt d.walk = headerBytes msg.hdr (UInt16.ofNat (body.length + 24)) ++ body) ∧
      authenticateResponse env pkt d key = .ok () ∧ ∀ cred realm nonce info, cred.auth = .ok (realm, nonce) →
        checkCredential md5 d cred realm nonce = .ok info → info.authKey = key →
        authenticateRequest env md5 pkt d cred = .ok info := by
  obtain ⟨s⟩ := encode_sent henc
  have hplain : ∀ a ∈ s.plain, a.Known := by
    intro a ha
    apply hknown
    rw [s.attrs_eq, List.takeWhile_append_of_pos (by simpa using s.plain_open)]
    exact List.mem_append_left _ ha
  obtain ⟨d, hdec, hhdr, hattrs⟩ := s.decode (by omega) hplain hbuilt options hcheck
  -- the integrity attribute that was sent
  obtain ⟨a, ht, hone, hhash⟩ : ∃ a : Attr, a.type = attrMessageIntegrity ∧ s.mi = [a.setHmac s.hmac] ∧
      s.hmac = env.hmacSha1 key (headerBytes msg.hdr (UInt16.ofNat (s.body.length + 24)) ++ s.body) := by
    rcases s.mi_cases with ⟨-, hno⟩ | ⟨a, k, hk, -, ht, hone, hhash⟩
    · obtain ⟨a, ha, ht⟩ := hmi
      exact absurd ht (hno a ha)
    · cases hk
      exact ⟨a, ht, hone, hhash⟩
  have hwalk : d.walk = ⟨some ((a.setHmac s.hmac).received env msg.hdr), s.body.length, !s.fp.isEmpty⟩ := by
    rw [Msg.walk, hattrs]
    exact s.walk (by omega) ht hone
  have hmilen := s.miBytes_length ht hone
  have hbytes : hashedBytes pkt d.walk =
      headerBytes msg.hdr (UInt16.ofNat (s.body.length + 24)) ++ s.body := by
    rw [hwalk]
    exact s.hashedBytes_eq hmilen s.fpBytes_nil _
  have hmac : ((a.setHmac s.hmac).received env msg.hdr).hmac =
      (env.hmacSha1 key (hashedBytes pkt d.walk)).1 := by
    rw [hbytes, ← hhash]
    simp [Attr.hmac, Attr.received, Attr.setHmac, ht, AttrVal.received]
  have hlen : pkt.length = 20 + (s.body.length + (24 + s.fpBytes.length)) := by
    have := congrArg List.length s.pkt_eq
    simp only [List.length_append, headerBytes_length, hmilen] at this
    exact this
  have hne : pkt ≠ [] := by
    intro hnil
    have := congrArg List.length hnil
    rw [hlen, List.length_nil] at this
    omega
  refine ⟨d, hdec, ?_, ?_, ?_⟩
  · obtain ⟨room, left, hloop⟩ := s.loop
    exact ⟨room, left, s.stop, s.body, hloop, hbytes⟩
  · have hfind : d.findAttr attrMessageIntegrity ≠ none := by
      intro hnone
      rw [Msg.findAttr, List.find?_eq_none] at hnone
      apply hnone ((a.setHmac s.hmac).received env msg.hdr)
      · rw [hattrs, hone]
        simp
      · exact decide_eq_true ((setHmac_type s.hmac a).trans ht)
    have hlong : ¬ d.hdr.length < 24 := by
      rw [hhdr, UInt16.lt_iff_toNat_lt]
      simp only [toNat_ofNat16 (show pkt.length - 20 < 65536 by omega), UInt16.reduceToNat]
      omega
    rw [authenticateResponse, if_neg hne, if_neg hfind, if_neg hlong]
    rw [show d.walk.amsgi = some ((a.setHmac s.hmac).received env msg.hdr) by rw [hwalk]]
    simp only [hmac, ne_eq, not_true, if_false]
  · intro cred realm nonce info hauth hcred hkey
    rw [authenticateRequest, if_neg hne, hauth]
    simp only [bind, Except.bind]
    rw [show d.walk.amsgi = some ((a.setHmac s.hmac).received env msg.hdr) by rw [hwalk]]
    simp only [hcred, hkey, hmac, ne_eq, not_true, if_false]

def samplePkt : Bytes :=
  match encode constantEnv sampleMsg 100 0 (some (lit "key")) with
  | .ok (pkt, _) => pkt
  | .error _ => []

def sampleDecoded : Msg :=
  match decode constantEnv ⟨true, false, false⟩ samplePkt with
  | .ok (d, _) => d
  | .error _ => sampleMsg

def constantMd5 : Bytes → Fixed 16 := fun _ => ⟨List.replicate 16 3, rfl⟩

def sampleCred : AuthCred := .static [] (lit "alice") .plain (lit "key") []

theorem integrity_input_agrees_sample :
    authenticateResponse constantEnv samplePkt sampleDecoded (lit "key") = .ok () ∧
    authenticateRequest constantEnv constantMd5 samplePkt sampleDecoded sampleCred =
      .ok ⟨[], [], lit "alice", lit "key"⟩ := by
  have henc : ∃ msg', encode constantEnv sampleMsg 100 0 (some (lit "key")) = .ok (samplePkt, msg') := by
    have hok : (encode constantEnv sampleMsg 100 0 (some (lit "key"))).toOption.isSome = true := by
      decide +kernel
    unfold samplePkt
    cases h : encode constantEnv sampleMsg 100 0 (some (lit "key")) with
    | error e =>
      rw [h] at hok
      cases hok
    | ok r => exact ⟨r.2, rfl⟩
  obtain ⟨msg', henc⟩ := henc
  obtain ⟨d, hd, -, hresp, hreq⟩ := integrity_input_agrees constantEnv constantMd5 sampleMsg 100 0
    (lit "key") samplePkt msg' henc (by decide) (by decide) (by decide +kernel) (by decide)
    ⟨true, false, false⟩ (by simp)
  have hdd : sampleDecoded = d := by
    unfold sampleDecoded
    rw [hd]
  rw [hdd]
  refine ⟨hresp, hreq sampleCred [] [] _ rfl ?_ rfl⟩
  rw [← hdd]
  decide +kernel

def strangeAttr : Attr := ⟨0x0031, 1, .binary stunMagic [1], rfl⟩

def wideAttr (more : Bytes) : Attr :=
  ⟨0x8030, UInt16.ofNat (24 + more.length), .binary stunMagic (List.replicate 24 0 ++ more), rfl⟩

def signedMsg (a : Attr) : Msg :=
  ⟨sampleHdr stunMagic, [a, blankMi], (by decide : 2 ≤ maxAttr)⟩

lemma wideAttr_printed {more : Bytes} (hmore : more.length = 65512) {room : ℕ} {printed : Bytes}
    (rest : Bytes) (h : encodeAttr constantEnv (sampleHdr stunMagic) room (wideAttr more) = .ok printed) :
    (printed ++ rest).take 28 = [0x80, 0x30, 0, 0] ++ List.replicate 24 0 := by
  have hlen : (List.replicate 24 0 ++ more).length = 65536 := by
    rw [List.length_append, hmore, List.length_replicate]
  simp only [encodeAttr, wideAttr, encodeBinaryAttr, hlen] at h
  split_ifs at h with h1
  cases h
  have hhead : put16 0x8030 ++ put16 (UInt16.ofNat 65536) = [0x80, 0x30, 0, 0] := by decide
  rw [hhead]
  rfl

lemma wide_not_decoded {more : Bytes} (hmore : more.length = 65512) :
    ∃ pkt msg', encode constantEnv (signedMsg (wideAttr more)) 70000 0 (some (lit "key")) = .ok (pkt, msg') ∧
      decode constantEnv ⟨false, false, false⟩ pkt = .error (.stunCode 420) := by
  have hlen : (List.replicate 24 0 ++ more).length = 65536 := by
    rw [List.length_append, hmore, List.length_replicate]
  have hsize : ((signedMsg (wideAttr more)).attrs.map Attr.size).sum = 65564 := by
    simp only [signedMsg, wideAttr, Attr.size, AttrVal.initLength, List.map_cons, List.map_nil, hlen]
    decide
  have hsup : ∀ a ∈ [wideAttr more], a.Supported := by
    intro a ha
    rw [List.mem_singleton] at ha
    subst ha
    refine ⟨?_, rfl, Or.inr (show (0x7FFF : UInt16) < 0x8030 by decide)⟩
    rw [wideAttr, AttrVal.initLength, List.length_append, List.length_replicate]
  have hclosing : ClosingAttrs [⟨attrMessageIntegrity, 20, .msgint ⟨List.replicate 20 0, rfl⟩, rfl⟩] :=
    .msgint rfl
  have hopen : ∀ a ∈ [wideAttr more], a.closes = false := by
    intro a ha
    rw [List.mem_singleton] at ha
    subst ha
    rfl
  obtain ⟨pkt, msg', henc, hpkt⟩ := @encode_room constantEnv (signedMsg (wideAttr more)) _ _ rfl hopen
    hclosing hsup (some (lit "key")) (by simp) 70000 (by rw [hsize]; decide)
  refine ⟨pkt, msg', henc, ?_⟩
  obtain ⟨s⟩ := encode_sent henc
  obtain ⟨hplain, -⟩ := s.filled_eq rfl hopen hclosing
  have hprints := s.prints_plain
  rw [hplain] at hprints
  have hbytes : (s.body ++ (s.miBytes ++ s.fpBytes)).take 28 = [0x80, 0x30, 0, 0] ++ List.replicate 24 0 := by
    generalize s.body = body at hprints
    cases hprints with
    | cons head tail =>
      cases tail
      rw [List.append_nil]
      exact wideAttr_printed hmore _ head
  have htotal : (s.body ++ (s.miBytes ++ s.fpBytes)).length = 65564 := by
    have := congrArg List.length s.pkt_eq
    rw [List.length_append, headerBytes_length, hpkt, hsize] at this
    omega
  have hfull := s.pkt_eq
  rw [htotal] at hfull
  generalize s.body ++ (s.miBytes ++ s.fpBytes) = bytes at hbytes hfull htotal
  have hh : readHeader pkt = { sampleHdr stunMagic with length := 28 } := by
    rw [hfull, readHeader_headerBytes]
    rfl
  have hl : get16 pkt 2 = 28 := congrArg MsgHdr.length hh
  have hne : pkt ≠ [] := by
    intro hnil
    rw [hnil, List.length_nil] at hpkt
    omega
  have hpre : precheck constantEnv ⟨false, false, false⟩ pkt = .ok () := by
    rw [precheck, if_neg (by simp), checkLength, hl, hpkt, hsize]
    decide
  have hdrop : (pkt.drop 20).take 28 = [0x80, 0x30, 0, 0] ++ List.replicate 24 0 := by
    rw [hfull, List.drop_left' (headerBytes_length _ _), hbytes]
  rw [decode, if_neg hne, hpre]
  simp only [bind, Except.bind, hh]
  rw [show (28 : UInt16).toNat = 28 from rfl, hdrop]
  decide +kernel

/-- The encoder accepts both messages, and the decoder refuses both packets. -/
theorem integrity_not_decoded :
    (∃ pkt msg', encode constantEnv (signedMsg strangeAttr) 100 0 (some (lit "key")) = .ok (pkt, msg') ∧
      decode constantEnv ⟨false, false, false⟩ pkt = .error (.stunCode 420)) ∧
    ∃ pkt msg', encode constantEnv (signedMsg (wideAttr (List.replicate 65512 0))) 70000 0
        (some (lit "key")) = .ok (pkt, msg') ∧
      decode constantEnv ⟨false, false, false⟩ pkt = .error (.stunCode 420) := by
  refine ⟨?_, wide_not_decoded List.length_replicate⟩
  have hrun : ((encode constantEnv (signedMsg strangeAttr) 100 0 (some (lit "key"))).map fun r =>
      decode constantEnv ⟨false, false, false⟩ r.1) = .ok (.error (.stunCode 420)) := by
    decide +kernel
  cases h : encode constantEnv (signedMsg strangeAttr) 100 0 (some (lit "key")) with
  | error e =>
    rw [h] at hrun
    cases hrun
  | ok r =>
    rw [h] at hrun
    exact ⟨r.1, r.2, rfl, Except.ok.inj hrun⟩

end PjProject.Stun
