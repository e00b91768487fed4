import Anchr.Attachments.Blossom

/-!
# What an attachment download fetches and returns

What `fetchAttachmentData` asks for, and what it takes for the attachment.
-/

namespace Anchr.Attachments

open Infra Requests

variable {A : AesGcm} {fetch : Servers} {hash encryptKey encryptIv url : String}
  {config : AttachmentRuntimeConfig} {ref : AttachmentRef} {blossomKeys : BlossomKeyMap}

/-- A cipher with the lengths of AES-256-GCM, which puts the key and the IV before the text. -/
def sealing : AesGcm where
  encrypt key iv data :=
    if key.length = 32 ∧ iv.length = 12 then some (key ++ iv ++ data) else none
  decrypt key iv text :=
    if key.length = 32 ∧ iv.length = 12 ∧ key ++ iv <+: text then some (text.drop 44) else none
  decrypt_eq_some {key iv text data} := by
    have hdrop (rest : List UInt8) (hkey : key.length = 32) (hiv : iv.length = 12) :
        (key ++ iv ++ rest).drop 44 = rest :=
      List.drop_left' (by rw [List.length_append, hkey, hiv])
    constructor
    · intro h
      split at h
      next hlengths =>
        obtain ⟨hkey, hiv, rest, rfl⟩ := hlengths
        cases h
        rw [if_pos ⟨hkey, hiv⟩, hdrop rest hkey hiv]
      next => cases h
    · intro h
      split at h
      next hlengths =>
        cases h
        rw [if_pos ⟨hlengths.1, hlengths.2, List.prefix_append _ _⟩,
          hdrop data hlengths.1 hlengths.2]
      next => cases h

/-! ## URLs -/

/-- The reference sends the download to Blossom, to ask for this hash. -/
def Downloads (ref : AttachmentRef) (blossomKeys : BlossomKeyMap) (hash : String) : Prop :=
  ref.storageKind = .blossom ∧ ref.blossomHash = some hash ∧ hash ≠ "" ∧
    ∃ material, blossomKeys.lookup ref.id = some material ∧ material.encryptKey ≠ "" ∧
      material.encryptIv ≠ ""

/-- What the Blossom path is: no request, or the download of one hash. -/
theorem fetchBlossomAttachment_cases (A : AesGcm) (fetch : Servers)
    (config : AttachmentRuntimeConfig) (ref : AttachmentRef) (blossomKeys : BlossomKeyMap) :
    (fetchBlossomAttachment A fetch config ref (blossomKeys.lookup ref.id) = ([], none) ∧
      ∀ hash, ¬ Downloads ref blossomKeys hash) ∨
    ∃ hash encryptKey encryptIv, Downloads ref blossomKeys hash ∧
      fetchBlossomAttachment A fetch config ref (blossomKeys.lookup ref.id) =
        tryServers A fetch hash encryptKey encryptIv (requests 3 config ref.blossomServers) [] := by
  unfold fetchBlossomAttachment Downloads
  split
  next hash material hkind hhash hkeys =>
    split
    next hempty =>
      refine .inl ⟨rfl, fun other ⟨_, hother, hne, material', hkeys', hkey, hiv⟩ => ?_⟩
      rw [hhash, Option.some.injEq] at hother
      rw [hkeys, Option.some.injEq] at hkeys'
      subst hother hkeys'
      simp [hne, hkey, hiv] at hempty
    next hfull =>
      simp only [Bool.or_eq_true, decide_eq_true_eq, not_or] at hfull
      obtain ⟨⟨hne, hkey⟩, hiv⟩ := hfull
      exact .inr ⟨hash, material.encryptKey, material.encryptIv,
        ⟨hkind, hhash, hne, material, hkeys, hkey, hiv⟩, downloadFromBlossom_eq ..⟩
  next hother =>
    exact .inl ⟨rfl, fun hash ⟨hkind, hhash, _, material, hkeys, _⟩ =>
      hother hash material hkind hhash hkeys⟩

variable {parseUrl : String → Option Url}

/-- The URLs that the download itself passes to `fetch`. -/
def Asked (parseUrl : String → Option Url) (config : AttachmentRuntimeConfig) (ref : AttachmentRef)
    (blossomKeys : BlossomKeyMap) (url : String) : Prop :=
  (∃ hash, Downloads ref blossomKeys hash ∧
    ∃ server ∈ serversOf config ref.blossomServers, url = server ++ "/" ++ hash) ∨
  (ref.uri ≠ "" ∧ validateAttachmentUri parseUrl config ref.uri = none ∧ url = ref.uri)

theorem mem_requests {server : String} {maxRetries : Nat} {servers : Option (List String)} :
    server ∈ requests (maxRetries + 1) config servers ↔ server ∈ serversOf config servers := by
  simp [requests]

/-- Every request of a loop was made before it, or for one of its servers. -/
theorem mem_tryServers {urls servers : List String} {fetched : List (List String)}
    (h : urls ∈ (tryServers A fetch hash encryptKey encryptIv servers fetched).1) :
    urls ∈ fetched ∨ ∃ server ∈ servers, ∃ n, urls = fetch.trail n (server ++ "/" ++ hash) := by
  induction servers generalizing fetched with
  | nil => exact .inl h
  | cons server rest ih =>
    rw [tryServers] at h
    have hhere : urls ∈ fetched ++ [fetch.trail fetched.length (server ++ "/" ++ hash)] ∨
        ∃ server ∈ rest, ∃ n, urls = fetch.trail n (server ++ "/" ++ hash) := by
      split at h
      next => exact .inl h
      next => exact ih h
    rcases hhere with hhere | ⟨other, hother, n, rfl⟩
    · rcases List.mem_append.mp hhere with hold | hnew
      · exact .inl hold
      · exact .inr ⟨server, List.mem_cons_self, _, List.mem_singleton.mp hnew⟩
    · exact .inr ⟨other, List.mem_cons_of_mem _ hother, n, rfl⟩

theorem asked_of_fetchBlossomAttachment {urls : List String}
    (h : urls ∈ (fetchBlossomAttachment A fetch config ref (blossomKeys.lookup ref.id)).1) :
    ∃ url n, Asked parseUrl config ref blossomKeys url ∧ urls = fetch.trail n url := by
  rcases fetchBlossomAttachment_cases A fetch config ref blossomKeys with
    ⟨hnone, _⟩ | ⟨hash, encryptKey, encryptIv, hdownloads, heq⟩
  · rw [hnone] at h
    cases h
  · rw [heq] at h
    rcases mem_tryServers h with hold | ⟨server, hserver, n, rfl⟩
    · cases hold
    · exact ⟨_, n, .inl ⟨hash, hdownloads, server, mem_requests.mp hserver, rfl⟩, rfl⟩

/-- Nothing is fetched but what is asked for, and where that redirects to. -/
theorem asked_of_fetchAttachmentData {urls : List String}
    (h : urls ∈ (fetchAttachmentData A fetch parseUrl config ref blossomKeys).1) :
    ∃ url n, Asked parseUrl config ref blossomKeys url ∧ urls = fetch.trail n url := by
  unfold fetchAttachmentData at h
  split at h
  next hblossom => exact asked_of_fetchBlossomAttachment (by rw [hblossom]; exact h)
  next fetched hblossom =>
    split at h
    next => exact asked_of_fetchBlossomAttachment (by rw [hblossom]; exact h)
    next hne =>
      split at h
      next => exact asked_of_fetchBlossomAttachment (by rw [hblossom]; exact h)
      next haccepted =>
        have hlog : urls ∈ fetched ++ [fetch.trail fetched.length ref.uri] := by
          split at h <;> exact h
        rcases List.mem_append.mp hlog with hold | hnew
        · exact asked_of_fetchBlossomAttachment (by rw [hblossom]; exact hold)
        · exact ⟨ref.uri, _, .inr ⟨hne, haccepted, rfl⟩, List.mem_singleton.mp hnew⟩

/-- Servers that redirect, and never answer with a body. -/
def silent (follow : String → List String) : Servers := fun _ url =>
  { redirects := follow url, body := none }

theorem tryServers_silent (follow : String → List String) (servers : List String)
    (fetched : List (List String)) :
    tryServers A (silent follow) hash encryptKey encryptIv servers fetched =
      (fetched ++ servers.map fun server =>
        (server ++ "/" ++ hash) :: follow (server ++ "/" ++ hash), none) := by
  induction servers generalizing fetched with
  | nil => simp [tryServers]
  | cons server rest ih =>
    rw [tryServers]
    simp only [silent, Option.bind_none, Servers.trail] at ih ⊢
    rw [ih]
    simp

/-- As long as nothing is answered, everything is asked for. -/
theorem mem_of_asked (A : AesGcm) (h : Asked parseUrl config ref blossomKeys url)
    (follow : String → List String) :
    (url :: follow url) ∈
      (fetchAttachmentData A (silent follow) parseUrl config ref blossomKeys).1 := by
  have hblossom : ∃ fetched,
      fetchBlossomAttachment A (silent follow) config ref (blossomKeys.lookup ref.id) =
        (fetched, none) ∧
      ((∃ hash, Downloads ref blossomKeys hash ∧
        ∃ server ∈ serversOf config ref.blossomServers, url = server ++ "/" ++ hash) →
        (url :: follow url) ∈ fetched) := by
    rcases fetchBlossomAttachment_cases A (silent follow) config ref blossomKeys with
      ⟨hnone, hno⟩ | ⟨hash, encryptKey, encryptIv, hdownloads, heq⟩
    · exact ⟨[], hnone, fun ⟨hash, hdownloads, _⟩ => absurd hdownloads (hno hash)⟩
    · rw [tryServers_silent, List.nil_append] at heq
      refine ⟨_, heq, ?_⟩
      rintro ⟨hash', hdownloads', server, hserver, rfl⟩
      obtain rfl : hash = hash' := Option.some.inj (hdownloads.2.1.symm.trans hdownloads'.2.1)
      exact List.mem_map.mpr ⟨server, mem_requests.mpr hserver, rfl⟩
  obtain ⟨fetched, hfetched, hmem⟩ := hblossom
  rw [fetchAttachmentData, hfetched]
  rcases h with hserver | ⟨hne, haccepted, rfl⟩
  · have hold := hmem hserver
    dsimp only
    split
    next => exact hold
    split
    next => exact hold
    next => exact List.mem_append_left _ hold
  · simp only [if_neg hne, haccepted, silent]
    exact List.mem_concat_self

/-- A URL on a server of the configuration. -/
def OnOwnServer (config : AttachmentRuntimeConfig) (url : String) : Prop :=
  ∃ server ∈ config.blossomServers, ∃ path, url = server ++ "/" ++ path

/-- What may be fetched: a URL on an own server, or one that `validateAttachmentUri` accepts. -/
def Guarded (parseUrl : String → Option Url) (config : AttachmentRuntimeConfig) (url : String) :
    Prop :=
  OnOwnServer config url ∨ validateAttachmentUri parseUrl config url = none

theorem mem_serversOf_none {server : String} (h : server ∈ serversOf config none) :
    server ∈ config.blossomServers := by
  unfold serversOf getBlossomConfig at h
  split at h
  next => cases h
  next => exact h

/-- The redirects of one request, as `fetch` follows them: at most twenty, each from the URL before
it, where `web` says which URLs redirect to which. -/
def Redirects (web : String → String → Prop) (url : String) (targets : List String) : Prop :=
  targets.length ≤ 20 ∧ (url :: targets).IsChain web

/-- Whatever servers with the redirects of `web` answer, only guarded URLs are fetched. -/
def FetchesGuarded (A : AesGcm) (parseUrl : String → Option Url) (web : String → String → Prop)
    (config : AttachmentRuntimeConfig) (ref : AttachmentRef) (blossomKeys : BlossomKeyMap) : Prop :=
  ∀ fetch : Servers, (∀ n url, Redirects web url (fetch n url).redirects) →
    ∀ urls ∈ (fetchAttachmentData A fetch parseUrl config ref blossomKeys).1,
      ∀ url ∈ urls, Guarded parseUrl config url

/-- Only guarded URLs are fetched if and only if those of the servers that the reference names are
guarded, and so is everything that a request can be redirected to. -/
theorem fetches_guarded_iff (A : AesGcm) (parseUrl : String → Option Url)
    (web : String → String → Prop) (config : AttachmentRuntimeConfig) (ref : AttachmentRef)
    (blossomKeys : BlossomKeyMap) :
    FetchesGuarded A parseUrl web config ref blossomKeys ↔
      (∀ hash servers, Downloads ref blossomKeys hash → ref.blossomServers = some servers →
        ∀ server ∈ servers, Guarded parseUrl config (server ++ "/" ++ hash)) ∧
      ∀ url targets, Asked parseUrl config ref blossomKeys url → Redirects web url targets →
        ∀ target ∈ targets, Guarded parseUrl config target := by
  have hchain (url : String) : Redirects web url [] := ⟨Nat.zero_le _, .singleton url⟩
  constructor
  · intro h
    constructor
    · intro hash servers hdownloads hservers server hserver
      have hasked : Asked parseUrl config ref blossomKeys (server ++ "/" ++ hash) :=
        .inl ⟨hash, hdownloads, server, by rw [hservers]; exact hserver, rfl⟩
      exact h (silent fun _ => []) (fun _ url => hchain url) _ (mem_of_asked A hasked _) _
        List.mem_cons_self
    · intro url targets hasked hredirects target htarget
      -- only the request in question is redirected
      refine h (silent fun other => if other = url then targets else []) ?_ _
        (mem_of_asked A hasked _) _ (List.mem_cons_of_mem _ ?_)
      · intro n other
        show Redirects web other (if other = url then targets else [])
        split
        next heq => exact heq ▸ hredirects
        next => exact hchain other
      · rw [if_pos rfl]
        exact htarget
  · rintro ⟨hdirect, hfollowed⟩ fetch hfetch urls hurls target htarget
    obtain ⟨url, n, hasked, rfl⟩ := asked_of_fetchAttachmentData hurls
    rcases List.mem_cons.mp htarget with rfl | htarget
    · rcases hasked with ⟨hash, hdownloads, server, hserver, rfl⟩ | ⟨-, haccepted, rfl⟩
      · cases hservers : ref.blossomServers with
        | none =>
          rw [hservers] at hserver
          exact .inl ⟨server, mem_serversOf_none hserver, hash, rfl⟩
        | some servers =>
          rw [hservers] at hserver
          exact hdirect hash servers hdownloads hservers server hserver
      · exact .inr haccepted
    · exact hfollowed url _ hasked (hfetch n url) target htarget

/-- The metadata service of a cloud, given as the server of an attachment. -/
def metadataRef : AttachmentRef where
  id := "a"
  uri := ""
  mimeType := "image/jpeg"
  storageKind := .blossom
  blossomHash := some "meta-data"
  blossomServers := some ["http://169.254.169.254/latest"]

/-- An attachment on a host that is accepted. -/
def imageRef : AttachmentRef where
  id := "a"
  uri := "https://cdn.example/a.jpg"
  mimeType := "image/jpeg"
  storageKind := .external

/-- `new URL`, on the URLs of the two references. -/
def parseSample (url : String) : Option Url :=
  if url = "https://cdn.example/a.jpg" then some { protocol := "https:", hostname := "cdn.example" }
  else some { protocol := "http:", hostname := "169.254.169.254" }

theorem not_guarded_metadata :
    ¬ Guarded parseSample {} "http://169.254.169.254/latest/meta-data" := by
  rintro (⟨server, hserver, _⟩ | haccepted)
  · cases hserver
  · revert haccepted
    decide

/-- The metadata service is fetched as the server of a reference, without any redirect; and it is
fetched where a URL that was accepted redirects to it. -/
theorem fetches_metadata_service :
    ¬ FetchesGuarded sealing parseSample (fun _ _ => False) {} metadataRef
      [("a", { encryptKey := "00", encryptIv := "00" })] ∧
    validateAttachmentUri parseSample {} imageRef.uri = none ∧
    ¬ FetchesGuarded sealing parseSample
      (fun _ target => target = "http://169.254.169.254/latest/meta-data") {} imageRef [] := by
  refine ⟨fun h => not_guarded_metadata ?_, by decide, fun h => not_guarded_metadata ?_⟩
  · exact h (silent fun _ => []) (fun _ url => ⟨Nat.zero_le _, .singleton url⟩)
      ["http://169.254.169.254/latest/meta-data"] (by decide) _ List.mem_cons_self
  · exact h (silent fun _ => ["http://169.254.169.254/latest/meta-data"])
      (fun _ url => ⟨Nat.le_add_left 1 19, .cons_cons rfl (.singleton _)⟩)
      ["https://cdn.example/a.jpg", "http://169.254.169.254/latest/meta-data"] (by decide) _
      (List.mem_cons_of_mem _ List.mem_cons_self)

/-! ## Hashes -/

theorem openBlob_injective {body body' : List UInt8} {data : ByteView}
    (h : openBlob A encryptKey encryptIv body = some data)
    (h' : openBlob A encryptKey encryptIv body' = some data) : body = body' := by
  simp only [openBlob, decryptBlob, Option.bind_eq_bind, Option.bind_eq_some_iff,
    ByteView.buffer_whole, Option.map_eq_some_iff, A.decrypt_eq_some] at h h'
  obtain ⟨key, hkey, iv, hiv, plain, hencrypt, rfl⟩ := h
  obtain ⟨key', hkey', iv', hiv', plain', hencrypt', hplain⟩ := h'
  cases hkey.symm.trans hkey'
  cases hiv.symm.trans hiv'
  cases hplain
  exact Option.some.inj (hencrypt.symm.trans hencrypt')

/-- Whichever of these bodies the servers answer with, in all attempts, what is returned is the
decryption of a blob with the hash that was asked for. -/
def ContentAddressed (A : AesGcm) (sha256 : List UInt8 → List UInt8) (bodies : Set (List UInt8))
    (hash encryptKey encryptIv : String) (maxRetries : Nat) (config : AttachmentRuntimeConfig)
    (servers : Option (List String)) : Prop :=
  ∀ fetch : Servers, (∀ n url body, (fetch n url).body = some body → body ∈ bodies) → ∀ data,
    (downloadFromBlossom A fetch hash encryptKey encryptIv maxRetries config servers).2 = some data →
      ∃ blob, bytesToHex (sha256 blob) = hash ∧ openBlob A encryptKey encryptIv blob = some data

/-- That is so exactly if nobody is asked, or every body that can be decrypted has the hash. -/
theorem download_content_addressed_iff (A : AesGcm) (sha256 : List UInt8 → List UInt8)
    (bodies : Set (List UInt8)) (hash encryptKey encryptIv : String) (maxRetries : Nat)
    (config : AttachmentRuntimeConfig) (servers : Option (List String)) :
    ContentAddressed A sha256 bodies hash encryptKey encryptIv maxRetries config servers ↔
      maxRetries = 0 ∨ serversOf config servers = [] ∨
        ∀ body ∈ bodies, (openBlob A encryptKey encryptIv body).isSome →
          bytesToHex (sha256 body) = hash := by
  unfold ContentAddressed
  simp only [downloadFromBlossom_eq]
  constructor
  · intro h
    by_cases hnone : maxRetries = 0 ∨ serversOf config servers = []
    · rcases hnone with hretries | hservers
      · exact .inl hretries
      · exact .inr (.inl hservers)
    refine .inr (.inr fun body hbody hopens => ?_)
    rw [not_or] at hnone
    obtain ⟨data, hdata⟩ := Option.isSome_iff_exists.mp hopens
    -- servers that answer every request with this body
    have hall : ∀ (n : Nat) (url : String) other, (some body : Option (List UInt8)) = some other →
        other = body := fun _ _ _ heq => (Option.some.inj heq).symm
    have hanswered : ∃ request ∈ (requests maxRetries config servers).zipIdx,
        (some body : Option (List UInt8)).isSome := by
      obtain ⟨retries, rfl⟩ := Nat.exists_eq_succ_of_ne_zero hnone.1
      obtain ⟨server, rest, hservers⟩ := List.exists_cons_of_ne_nil hnone.2
      refine ⟨(server, 0), ?_, rfl⟩
      simp [requests, hservers, List.replicate_succ]
    obtain ⟨blob, hhash, hblob⟩ := h (fun _ _ => { body := some body })
      (fun n url other heq => hall n url other heq ▸ hbody) data
      (tryServers_answered (fun n url other heq => hall n url other heq ▸ hdata) hanswered)
    -- only one text decrypts to these bytes
    rw [openBlob_injective hdata hblob]
    exact hhash
  · rintro h fetch hfetch data hdata
    rcases h with rfl | hservers | hhash
    · simp [requests, tryServers] at hdata
    · simp [requests, hservers, tryServers] at hdata
    · obtain ⟨n, url, body, hbody, hopen⟩ := answer_of_tryServers hdata
      exact ⟨body, hhash body (hfetch n url body hbody) (by rw [hopen]; rfl), hopen⟩

/-- A blob of `sealing`, under a key and an IV of zero digits. -/
def zeroBlob (text : String) : List UInt8 := List.replicate 44 0x30 ++ utf8 text

/-- Asked for the hash of one of two blobs, a server answers with the other. -/
theorem download_substituted :
    ¬ ContentAddressed sealing
      (digestTable
        [("00000000000000000000000000000000000000000000a",
          "b9874000a31b03e8ad91ac4080c3ddb231c4fddf68a3721b421df70b077b5f2b"),
         ("00000000000000000000000000000000000000000000b",
          "f37e2fb1866022da771584ada8d16b9c9cfbd0619d4dc0aed7a06ccd13c95422")])
      {zeroBlob "a", zeroBlob "b"}
      "b9874000a31b03e8ad91ac4080c3ddb231c4fddf68a3721b421df70b077b5f2b"
      (bytesToHex (List.replicate 32 0x30)) (bytesToHex (List.replicate 12 0x30)) 3 {}
      (some ["https://blossom.example"]) := by
  intro h
  have hserved : openBlob sealing (bytesToHex (List.replicate 32 0x30))
      (bytesToHex (List.replicate 12 0x30)) (zeroBlob "b") = some (.whole (utf8 "b")) := by
    decide
  obtain ⟨blob, hhash, hblob⟩ := h (fun _ _ => { body := some (zeroBlob "b") })
    (fun _ _ _ hbody => .inr (Option.some.inj hbody).symm) (.whole (utf8 "b")) (by decide)
  rw [← openBlob_injective hserved hblob] at hhash
  revert hhash
  decide

end Anchr.Attachments
