import Anchr.Attachments.UrlValidation
import Anchr.Requests.Types

/-!
# Blossom blobs and attachment downloads

`attachments/blossom.ts` and `attachments/fetch-attachment.ts`. Web Crypto, `sha256`, `new URL` and
the servers are outside. What fetches also returns the URLs of its requests, oldest first: for each
the one it was made for, and those it was redirected to.
-/

namespace Anchr.Attachments

open Infra Requests

/-- A `Uint8Array`: the bytes it shows, between those its buffer has before and after them. -/
structure ByteView where
  before : List UInt8 := []
  bytes : List UInt8
  after : List UInt8 := []
  deriving DecidableEq

def ByteView.buffer (view : ByteView) : List UInt8 := view.before ++ view.bytes ++ view.after

/-- `new Uint8Array(buffer)`. -/
def ByteView.whole (bytes : List UInt8) : ByteView := { bytes }

@[simp] theorem ByteView.buffer_whole (bytes : List UInt8) : (whole bytes).buffer = bytes :=
  List.append_nil bytes

/-- `importKey`, then `encrypt` or `decrypt`; fails where one of them throws. Decryption accepts
what encryption gives, and nothing else. -/
structure AesGcm where
  encrypt : (key iv data : List UInt8) → Option (List UInt8)
  decrypt : (key iv text : List UInt8) → Option (List UInt8)
  decrypt_eq_some {key iv text data : List UInt8} :
    decrypt key iv text = some data ↔ encrypt key iv data = some text

/-- What `getRandomValues` has filled a new key and a new IV with. -/
structure BlobSecrets where
  key : List UInt8
  iv : List UInt8
  key_length : key.length = 32
  iv_length : iv.length = 12

/-- The ciphertext, and what opens it. -/
structure EncryptedBlob where
  encrypted : ByteView
  key : ByteView
  iv : ByteView

variable (A : AesGcm)

/-- The ciphertext of the whole buffer of `data`. -/
def encryptBlob (secrets : BlobSecrets) (data : ByteView) : Option EncryptedBlob := do
  let key := ByteView.whole secrets.key
  let iv := ByteView.whole secrets.iv
  let encrypted ← A.encrypt key.buffer iv.buffer data.buffer
  return { encrypted := .whole encrypted, key, iv }

/-- The plaintext of the whole buffer of `encrypted`, if it is authentic. -/
def decryptBlob (encrypted key iv : ByteView) : Option ByteView :=
  (A.decrypt key.buffer iv.buffer encrypted.buffer).map .whole

def getBlossomConfig (config : AttachmentRuntimeConfig) : Option (List String) :=
  if config.blossomServers = [] then none else some config.blossomServers

structure BlossomUploadResult where
  hash : String
  urls : List String
  encryptKey : String
  encryptIv : String
  sizeBytes : Nat

/-- The result and the body sent to every server. A call that throws returns nothing either, and the
order of the answers, which `urls` has, is that of the servers. -/
def uploadToBlossom (sha256 : List UInt8 → List UInt8) (secrets : BlobSecrets)
    (accepts : String → Bool) (config : AttachmentRuntimeConfig) (data : ByteView)
    (servers : Option (List String)) : Option (BlossomUploadResult × List UInt8) :=
  match servers <|> getBlossomConfig config with
  | none | some [] => none
  | some urls => do
    let blob ← encryptBlob A secrets data
    let hash := bytesToHex (sha256 blob.encrypted.bytes)
    let successUrls := (urls.filter accepts).map (· ++ "/" ++ hash)
    if successUrls = [] then none
    else
      some ({ hash, urls := successUrls, encryptKey := bytesToHex blob.key.bytes,
              encryptIv := bytesToHex blob.iv.bytes, sizeBytes := blob.encrypted.bytes.length },
        blob.encrypted.buffer)

/-- What comes of one request. `fetch` follows redirects: here are the URLs they lead to, in their
order, and the body of the last answer, where that is ok. -/
structure Response where
  redirects : List String := []
  body : Option (List UInt8)

/-- The response to a request, by its number and URL. -/
abbrev Servers := Nat → String → Response

/-- The URLs of a request: its own, and those it is redirected to. -/
def Servers.trail (fetch : Servers) (n : Nat) (url : String) : List String :=
  url :: (fetch n url).redirects

variable (fetch : Servers) (hash encryptKey encryptIv : String)

/-- The rest of an iteration, on the body of an answer. -/
def openBlob (body : List UInt8) : Option ByteView := do
  let key ← hexToBytes encryptKey
  let iv ← hexToBytes encryptIv
  decryptBlob A (.whole body) (.whole key) (.whole iv)

/-- The loop of one attempt, after the requests in `fetched`. -/
def tryServers :
    (servers : List String) → (fetched : List (List String)) → List (List String) × Option ByteView
  | [], fetched => (fetched, none)
  | server :: servers, fetched =>
    let url := server ++ "/" ++ hash
    let trail := fetch.trail fetched.length url
    match (fetch fetched.length url).body.bind (openBlob A encryptKey encryptIv) with
    | some data => (fetched ++ [trail], some data)
    | none => tryServers servers (fetched ++ [trail])

/-- The loop over the attempts that are left. -/
def attempts (servers : List String) :
    (count : Nat) → (fetched : List (List String)) → List (List String) × Option ByteView
  | 0, fetched => (fetched, none)
  | count + 1, fetched =>
    match tryServers A fetch hash encryptKey encryptIv servers fetched with
    | (fetched, some data) => (fetched, some data)
    | (fetched, none) => attempts servers count fetched

/-- The servers that are asked: the given ones, or those of the configuration. -/
def serversOf (config : AttachmentRuntimeConfig) (servers : Option (List String)) : List String :=
  (servers <|> getBlossomConfig config).getD []

def downloadFromBlossom (maxRetries : Nat) (config : AttachmentRuntimeConfig)
    (servers : Option (List String)) : List (List String) × Option ByteView :=
  if serversOf config servers = [] then ([], none)
  else attempts A fetch hash encryptKey encryptIv (serversOf config servers) maxRetries []

/-- Keys are never in the reference. -/
def fetchBlossomAttachment (config : AttachmentRuntimeConfig) (ref : AttachmentRef)
    (keyMaterial : Option BlossomKeyMaterial) : List (List String) × Option ByteView :=
  match ref.storageKind, ref.blossomHash, keyMaterial with
  | .blossom, some hash, some material =>
    if hash = "" || material.encryptKey = "" || material.encryptIv = "" then ([], none)
    else
      downloadFromBlossom A fetch hash material.encryptKey material.encryptIv 3 config
        ref.blossomServers
  | _, _, _ => ([], none)

/-- Blossom first, then the plain URI. -/
def fetchAttachmentData (parseUrl : String → Option Url) (config : AttachmentRuntimeConfig)
    (ref : AttachmentRef) (blossomKeys : BlossomKeyMap) :
    List (List String) × Except String ByteView :=
  match fetchBlossomAttachment A fetch config ref (blossomKeys.lookup ref.id) with
  | (fetched, some data) => (fetched, .ok data)
  | (fetched, none) =>
    if ref.uri = "" then (fetched, .error "attachment could not be retrieved")
    else
      match validateAttachmentUri parseUrl config ref.uri with
      | some uriError => (fetched, .error ("attachment URI rejected (" ++ uriError ++ ")"))
      | none =>
        match (fetch fetched.length ref.uri).body with
        | some body => (fetched ++ [fetch.trail fetched.length ref.uri], .ok (.whole body))
        | none =>
          (fetched ++ [fetch.trail fetched.length ref.uri],
            .error "attachment could not be retrieved")

/-! ## The two loops as one -/

/-- The servers in the order in which they are asked. -/
def requests (maxRetries : Nat) (config : AttachmentRuntimeConfig) (servers : Option (List String)) :
    List String :=
  (List.replicate maxRetries (serversOf config servers)).flatten

theorem tryServers_append (first second : List String) (fetched : List (List String)) :
    tryServers A fetch hash encryptKey encryptIv (first ++ second) fetched =
      match tryServers A fetch hash encryptKey encryptIv first fetched with
      | (fetched, some data) => (fetched, some data)
      | (fetched, none) => tryServers A fetch hash encryptKey encryptIv second fetched := by
  induction first generalizing fetched with
  | nil => rfl
  | cons server rest ih =>
    rw [List.cons_append, tryServers, tryServers]
    split
    next => rfl
    next => exact ih _

theorem attempts_eq (servers : List String) (fetched : List (List String)) (count : Nat) :
    attempts A fetch hash encryptKey encryptIv servers count fetched =
      tryServers A fetch hash encryptKey encryptIv (List.replicate count servers).flatten
        fetched := by
  induction count generalizing fetched with
  | zero => rfl
  | succ count ih =>
    rw [attempts, List.replicate_succ, List.flatten_cons, tryServers_append]
    split
    next => rfl
    next => exact ih _

/-- Where there are no servers, there are no requests either. -/
theorem downloadFromBlossom_eq (maxRetries : Nat) (config : AttachmentRuntimeConfig)
    (servers : Option (List String)) :
    downloadFromBlossom A fetch hash encryptKey encryptIv maxRetries config servers =
      tryServers A fetch hash encryptKey encryptIv (requests maxRetries config servers) [] := by
  unfold downloadFromBlossom requests
  split
  next h => simp [h, tryServers]
  next => exact attempts_eq ..

/-! ## What is returned -/

variable {A fetch hash encryptKey encryptIv} {data : ByteView}

/-- What is returned is the decryption of an answer. -/
theorem answer_of_tryServers {servers : List String} {fetched : List (List String)}
    (h : (tryServers A fetch hash encryptKey encryptIv servers fetched).2 = some data) :
    ∃ n url body, (fetch n url).body = some body ∧
      openBlob A encryptKey encryptIv body = some data := by
  induction servers generalizing fetched with
  | nil => cases h
  | cons server rest ih =>
    rw [tryServers] at h
    split at h
    next data' hopen =>
      obtain rfl : data' = data := Option.some.inj h
      obtain ⟨body, hbody, hopen⟩ := Option.bind_eq_some_iff.mp hopen
      exact ⟨_, _, body, hbody, hopen⟩
    next => exact ih h

/-- Where all answers decrypt to the same data, one answer is enough. -/
theorem tryServers_answered (hopen : ∀ n url body, (fetch n url).body = some body →
      openBlob A encryptKey encryptIv body = some data)
    {servers : List String} {fetched : List (List String)}
    (hanswered : ∃ request ∈ servers.zipIdx fetched.length,
      (fetch request.2 (request.1 ++ "/" ++ hash)).body.isSome) :
    (tryServers A fetch hash encryptKey encryptIv servers fetched).2 = some data := by
  induction servers generalizing fetched with
  | nil =>
    obtain ⟨request, hrequest, -⟩ := hanswered
    cases hrequest
  | cons server rest ih =>
    rw [tryServers]
    cases hbody : (fetch fetched.length (server ++ "/" ++ hash)).body with
    | some body => simp only [Option.bind_some, hopen _ _ _ hbody]
    | none =>
      rw [Option.bind_none]
      refine ih ?_
      obtain ⟨request, hrequest, hsome⟩ := hanswered
      rw [List.length_append, List.length_singleton]
      rcases List.mem_cons.mp (List.zipIdx_cons ▸ hrequest) with rfl | hrest
      · rw [hbody] at hsome
        cases hsome
      · exact ⟨request, hrest, hsome⟩

end Anchr.Attachments
