import PjProject.PjHash
import PjProject.Transition

/-!
# Dialogs of the user agent layer

`sip_ua_layer.c`: dialogs are listed in dialog sets, and a table maps the local tag of the dialogs of
a set to the set. The key of an entry is not copied, it points to the tag of one of the dialogs, so a
key has an owner here. Sets that are not in use are on a free list.
-/
namespace PjProject.UaLayer

inductive Role
  | uac | uas
  deriving DecidableEq

structure TagRef where
  owner : ℕ
  text : Bytes
  deriving DecidableEq

/-- `pjsip_dialog`; `dlgSet` is not cleared when the dialog is unregistered. -/
structure Dialog where
  role : Role
  callId : Bytes
  localTag : Bytes
  tagHval : ℕ
  remoteTag : Bytes
  dlgSet : Option ℕ

structure DlgSet where
  htKey : TagRef
  dlgList : List ℕ

def hashCalcTolower (tag : Bytes) : ℕ := tag.foldl (fun h c => (h * 33 + (toLower c).toNat) % 2 ^ 32) 0

def tagHashing (k0 k1 : UInt64) : HashTable.Hashing TagRef where
  hash := fun k => PjHash.calcTableHash k0 k1 k.text
  eqv := fun a b => stricmpEq a.text b.text
  refl := fun _ => stricmpEq_refl _
  symm := fun _ _ => stricmpEq_symm
  trans := fun _ _ _ => stricmpEq_trans

variable {H : HashTable.Hashing TagRef}

/-- `mod_ua`, with the memory of dialogs and of sets. Dialogs and sets from `dlgCnt` and `setCnt` on
are not allocated. `asserts` has the outcome of the assertions. -/
structure UserAgent (H : HashTable.Hashing TagRef) where
  dlg : ℕ → Dialog
  dlgCnt : ℕ
  set : ℕ → DlgSet
  setCnt : ℕ
  freeDlgsetNodes : List ℕ
  dlgTable : HashTable.Table H ℕ
  asserts : List Bool

namespace UserAgent

def setDlg (ua : UserAgent H) (d : ℕ) (dlg : Dialog) : UserAgent H :=
  { ua with dlg := Function.update ua.dlg d dlg }

def setSet (ua : UserAgent H) (s : ℕ) (set : DlgSet) : UserAgent H :=
  { ua with set := Function.update ua.set s set }

def assert (ua : UserAgent H) (ok : Bool) : UserAgent H := { ua with asserts := ua.asserts ++ [ok] }

def tagRef (ua : UserAgent H) (d : ℕ) : TagRef := ⟨d, (ua.dlg d).localTag⟩

/-- `pj_hash_get_lower` by a string of a message. -/
def lookup (ua : UserAgent H) (tag : Bytes) : Option ℕ := ua.dlgTable.get ⟨0, tag⟩

def allocDlgsetNode (ua : UserAgent H) : UserAgent H × ℕ :=
  match ua.freeDlgsetNodes with
  | s :: rest => ({ ua with freeDlgsetNodes := rest }, s)
  | [] => ({ ua with setCnt := ua.setCnt + 1 }, ua.setCnt)

def newSet (ua : UserAgent H) (d : ℕ) : UserAgent H :=
  let (ua, s) := ua.allocDlgsetNode
  let key := ua.tagRef d
  let ua := ua.setSet s ⟨key, [d]⟩
  let ua := ua.setDlg d { ua.dlg d with dlgSet := some s }
  { ua with dlgTable := ua.dlgTable.set key (some s) }

def fillHval (ua : UserAgent H) (d : ℕ) (key : TagRef) : UserAgent H :=
  let dlg := ua.dlg d
  if dlg.tagHval = 0 then ua.setDlg d { dlg with tagHval := hashCalcTolower key.text } else ua

def registerDlg (ua : UserAgent H) (d : ℕ) : UserAgent H :=
  if (ua.dlg d).localTag = [] then ua
  else
    match (ua.dlg d).role with
    | .uac =>
      let found := ua.dlgTable.get (ua.tagRef d)
      let ua := ua.fillHval d (ua.tagRef d)
      match found with
      | some s =>
        let set := ua.set s
        let ua := ua.assert (decide (set.dlgList ≠ []))
        let ua := ua.setSet s { set with dlgList := set.dlgList ++ [d] }
        ua.setDlg d { ua.dlg d with dlgSet := some s }
      | none => ua.newSet d
    | .uas => ua.newSet d

def unregisterDlg (ua : UserAgent H) (d : ℕ) : UserAgent H :=
  match (ua.dlg d).dlgSet with
  | none => ua
  | some s =>
    let set := ua.set s
    if d ∉ set.dlgList then ua.assert false
    else
      let set := { set with dlgList := set.dlgList.erase d }
      let ua := ua.setSet s set
      match set.dlgList with
      | [] =>
        let ua := ua.assert (decide (ua.dlgTable.get set.htKey = some s))
        let ua := ua.fillHval d set.htKey
        { ua with
          dlgTable := ua.dlgTable.set set.htKey none
          freeDlgsetNodes := ua.freeDlgsetNodes ++ [s] }
      | keyDlg :: _ =>
        -- the string of the key goes away with its dialog
        if set.htKey.owner = d ∧ set.htKey.text.length = (ua.dlg d).localTag.length then
          let ua := ua.assert (decide ((ua.dlg keyDlg).tagHval = (ua.dlg d).tagHval))
          let ua := { ua with dlgTable := ua.dlgTable.set set.htKey none }
          let key := ua.tagRef keyDlg
          let ua := ua.setSet s { set with htKey := key }
          { ua with dlgTable := ua.dlgTable.set key (some s) }
        else ua

def Registered (ua : UserAgent H) (d : ℕ) : Prop := ∃ s, (ua.dlg d).dlgSet = some s ∧ d ∈ (ua.set s).dlgList

instance (ua : UserAgent H) (d : ℕ) : Decidable (ua.Registered d) :=
  match h : (ua.dlg d).dlgSet with
  | none => .isFalse (by rintro ⟨s, hs, -⟩; rw [h] at hs; cases hs)
  | some s =>
    decidable_of_iff (d ∈ (ua.set s).dlgList)
      ⟨fun hm => ⟨s, h, hm⟩, by rintro ⟨t, ht, hm⟩; rw [h] at ht; cases ht; exact hm⟩

def createDlg (ua : UserAgent H) (dlg : Dialog) : UserAgent H :=
  ({ ua.setDlg ua.dlgCnt dlg with dlgCnt := ua.dlgCnt + 1 }).registerDlg ua.dlgCnt

end UserAgent

inductive Input
  | createUac (callId localTag : Bytes)
  | fork (first : ℕ) (remoteTag : Bytes)
  | createUas (callId localTag remoteTag : Bytes)
  | unregister (d : ℕ)
  | setRemoteTag (d : ℕ) (remoteTag : Bytes)

/-- `pjsip_dlg_create_uac`, `pjsip_dlg_fork`, `create_uas_dialog`, and the end of a dialog. -/
def step (ua : UserAgent H) : Input → UserAgent H
  | .createUac callId localTag => ua.createDlg ⟨.uac, callId, localTag, hashCalcTolower localTag, [], none⟩
  | .fork first remoteTag =>
    let dlg := ua.dlg first
    if ua.Registered first ∧ dlg.role = .uac then
      ua.createDlg ⟨.uac, dlg.callId, dlg.localTag, dlg.tagHval, remoteTag, none⟩
    else ua
  | .createUas callId localTag remoteTag => ua.createDlg ⟨.uas, callId, localTag, hashCalcTolower localTag, remoteTag, none⟩
  | .unregister d => if ua.Registered d then ua.unregisterDlg d else ua
  | .setRemoteTag d remoteTag => ua.setDlg d { ua.dlg d with remoteTag := remoteTag }

def initModule (H : HashTable.Hashing TagRef) (size : ℕ) : UserAgent H :=
  { dlg := fun _ => ⟨.uac, [], [], 0, [], none⟩, dlgCnt := 0, set := fun _ => ⟨⟨0, []⟩, []⟩, setCnt := 0,
    freeDlgsetNodes := [], dlgTable := HashTable.Table.empty (PjHash.growTable 32 8 size - 1), asserts := [] }

end PjProject.UaLayer
