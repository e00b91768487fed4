import Anchr.Attachments.Properties.Downloads

/-!
# The way of a blob through encryption and back

`encryptBlob` and `decryptBlob` pass `.buffer` on.
-/

namespace Anchr.Attachments

open Infra Requests

variable {A : AesGcm} {data : ByteView}

/-- The view is all of its buffer. -/
def ByteView.Whole (view : ByteView) : Prop := view.before = [] ∧ view.after = []

theorem ByteView.buffer_eq_bytes_iff (view : ByteView) : view.buffer = view.bytes ↔ view.Whole := by
  constructor
  · intro h
    have hlength := congrArg List.length h
    simp only [buffer, List.length_append] at hlength
    exact ⟨List.eq_nil_of_length_eq_zero (by omega), List.eq_nil_of_length_eq_zero (by omega)⟩
  · intro h
    rw [buffer, h.1, h.2, List.nil_append, List.append_nil]

/-- The same bytes inside a larger buffer. -/
def ByteView.inside (pads : List UInt8 × List UInt8) (view : ByteView) : ByteView :=
  { before := pads.1, bytes := view.bytes, after := pads.2 }

theorem encryptBlob_eq_some {secrets : BlobSecrets} {blob : EncryptedBlob}
    (h : encryptBlob A secrets data = some blob) :
    ∃ text, A.encrypt secrets.key secrets.iv data.buffer = some text ∧
      blob = { encrypted := .whole text, key := .whole secrets.key, iv := .whole secrets.iv } := by
  simp only [encryptBlob, ByteView.buffer_whole, Option.bind_eq_bind,
    Option.bind_eq_some_iff] at h
  obtain ⟨text, htext, hblob⟩ := h
  exact ⟨text, htext, (Option.some.inj hblob).symm⟩

/-- Decrypting gives back the bytes that were encrypted, where the ciphertext, the key and the IV
are passed inside larger buffers. -/
def BlobRoundTrip (data : ByteView) (around aroundKey aroundIv : List UInt8 × List UInt8) : Prop :=
  ∀ (A : AesGcm) (secrets : BlobSecrets) (blob : EncryptedBlob),
    encryptBlob A secrets data = some blob →
      decryptBlob A (blob.encrypted.inside around) (blob.key.inside aroundKey)
        (blob.iv.inside aroundIv) = some (.whole data.bytes)

/-- A download from servers that hold what an upload has sent them gives back its bytes. -/
def TransferRoundTrip (data : ByteView) : Prop :=
  ∀ (A : AesGcm) (sha256 : List UInt8 → List UInt8) (secrets : BlobSecrets)
    (accepts : String → Bool) (config : AttachmentRuntimeConfig) (servers : Option (List String))
    (result : BlossomUploadResult) (body : List UInt8),
    uploadToBlossom A sha256 secrets accepts config data servers = some (result, body) →
      ∀ (fetch : Servers) (maxRetries : Nat) (config' : AttachmentRuntimeConfig)
        (servers' : Option (List String)),
        (∀ n url answer, (fetch n url).body = some answer → answer = body) →
        (∃ request ∈ (requests maxRetries config' servers').zipIdx,
          (fetch request.2 (request.1 ++ "/" ++ result.hash)).body.isSome) →
        (downloadFromBlossom A fetch result.hash result.encryptKey result.encryptIv maxRetries
          config' servers').2 = some (.whole data.bytes)

/-! ## Views -/

theorem blobRoundTrip_of_whole (hdata : data.Whole) :
    BlobRoundTrip data ([], []) ([], []) ([], []) := by
  intro A secrets blob h
  obtain ⟨text, htext, rfl⟩ := encryptBlob_eq_some h
  rw [data.buffer_eq_bytes_iff.mpr hdata] at htext
  show (A.decrypt (ByteView.whole secrets.key).buffer (ByteView.whole secrets.iv).buffer
    (ByteView.whole text).buffer).map _ = _
  rw [ByteView.buffer_whole, ByteView.buffer_whole, ByteView.buffer_whole,
    A.decrypt_eq_some.mpr htext]
  rfl

def zeroSecrets : BlobSecrets where
  key := List.replicate 32 0
  iv := List.replicate 12 0
  key_length := rfl
  iv_length := rfl

/-- The lengths leave no room for anything around the views. -/
theorem whole_of_blobRoundTrip {around aroundKey aroundIv : List UInt8 × List UInt8}
    (h : BlobRoundTrip data around aroundKey aroundIv) :
    data.Whole ∧ around = ([], []) ∧ aroundKey = ([], []) ∧ aroundIv = ([], []) := by
  have hblob : encryptBlob sealing zeroSecrets data = some
      { encrypted := .whole (zeroSecrets.key ++ zeroSecrets.iv ++ data.buffer),
        key := .whole zeroSecrets.key, iv := .whole zeroSecrets.iv } := rfl
  obtain ⟨plain, hdecrypt, hplain⟩ := Option.map_eq_some_iff.mp (h _ _ _ hblob)
  cases hplain
  have hencrypt := sealing.decrypt_eq_some.mp hdecrypt
  simp only [sealing] at hencrypt
  split at hencrypt
  next hlengths =>
    have htext := congrArg List.length (Option.some.inj hencrypt)
    simp only [ByteView.buffer, ByteView.inside, ByteView.whole, zeroSecrets, List.length_append,
      List.length_replicate] at hlengths htext
    have hnil (l : List UInt8) (hl : l.length = 0) : l = [] := List.eq_nil_of_length_eq_zero hl
    refine ⟨⟨hnil _ ?_, hnil _ ?_⟩, Prod.ext (hnil _ ?_) (hnil _ ?_),
      Prod.ext (hnil _ ?_) (hnil _ ?_), Prod.ext (hnil _ ?_) (hnil _ ?_)⟩ <;> omega
  next => cases hencrypt

/-! ## Transfers -/

/-- What an upload sends and what it returns fit together. -/
theorem openBlob_uploaded {sha256 : List UInt8 → List UInt8} {secrets : BlobSecrets}
    {accepts : String → Bool} {config : AttachmentRuntimeConfig} {servers : Option (List String)}
    {result : BlossomUploadResult} {body : List UInt8}
    (h : uploadToBlossom A sha256 secrets accepts config data servers = some (result, body)) :
    openBlob A result.encryptKey result.encryptIv body = some (.whole data.buffer) := by
  unfold uploadToBlossom at h
  split at h
  next => cases h
  next => cases h
  obtain ⟨blob, hblob, h⟩ := Option.bind_eq_some_iff.mp h
  obtain ⟨text, htext, rfl⟩ := encryptBlob_eq_some hblob
  dsimp only at h
  split at h
  next => cases h
  cases h
  simp only [openBlob, ByteView.whole, hexToBytes_bytesToHex, Option.bind_eq_bind,
    Option.bind_some, decryptBlob, ByteView.buffer, List.nil_append, List.append_nil,
    A.decrypt_eq_some.mpr htext, Option.map_some]

theorem download_stored {fetch : Servers} {hash encryptKey encryptIv : String} {body : List UInt8}
    {maxRetries : Nat} {config : AttachmentRuntimeConfig} {servers : Option (List String)}
    (hopen : openBlob A encryptKey encryptIv body = some data)
    (hstored : ∀ n url answer, (fetch n url).body = some answer → answer = body)
    (hanswered : ∃ request ∈ (requests maxRetries config servers).zipIdx,
      (fetch request.2 (request.1 ++ "/" ++ hash)).body.isSome) :
    (downloadFromBlossom A fetch hash encryptKey encryptIv maxRetries config servers).2 =
      some data := by
  rw [downloadFromBlossom_eq]
  refine tryServers_answered ?_ hanswered
  intro n url answer hanswer
  rw [hstored n url answer hanswer]
  exact hopen

theorem transferRoundTrip_iff (data : ByteView) : TransferRoundTrip data ↔ data.Whole := by
  rw [← data.buffer_eq_bytes_iff]
  constructor
  · intro h
    have hupload : uploadToBlossom sealing id zeroSecrets (fun _ => true) {} data (some [""]) =
        some ({ hash := _, urls := _, encryptKey := _, encryptIv := _, sizeBytes := _ }, _) := rfl
    have hopen := openBlob_uploaded hupload
    have hback := h _ _ _ _ _ _ _ _ hupload (fun _ _ => { body := some _ }) 1 {} (some [""])
      (fun _ _ _ hanswer => (Option.some.inj hanswer).symm) ⟨("", 0), List.mem_cons_self, rfl⟩
    rw [download_stored hopen (fun _ _ _ hanswer => (Option.some.inj hanswer).symm)
      ⟨("", 0), List.mem_cons_self, rfl⟩] at hback
    exact congrArg ByteView.bytes (Option.some.inj hback)
  · intro hdata A sha256 secrets accepts config servers result body hupload fetch maxRetries config'
      servers' hstored hanswered
    rw [← hdata]
    exact download_stored (openBlob_uploaded hupload) hstored hanswered

/-- The bytes of a view come back only where every view is all of its buffer, and from a server
where the one that is uploaded is. -/
theorem blob_round_trip_iff (data : ByteView)
    (around aroundKey aroundIv : List UInt8 × List UInt8) :
    (BlobRoundTrip data around aroundKey aroundIv ↔
      data.Whole ∧ around = ([], []) ∧ aroundKey = ([], []) ∧ aroundIv = ([], [])) ∧
    (TransferRoundTrip data ↔ data.Whole) := by
  refine ⟨⟨whole_of_blobRoundTrip, ?_⟩, transferRoundTrip_iff data⟩
  rintro ⟨hdata, rfl, rfl, rfl⟩
  exact blobRoundTrip_of_whole hdata

/-- The second byte of a buffer of two comes back with the first. -/
theorem subarray_not_returned :
    (encryptBlob sealing zeroSecrets { before := [1], bytes := [2] }).bind
        (fun blob => decryptBlob sealing blob.encrypted blob.key blob.iv) = some (.whole [1, 2]) ∧
      ¬ BlobRoundTrip { before := [1], bytes := [2] } ([], []) ([], []) ([], []) := by
  refine ⟨by decide, fun h => ?_⟩
  cases (whole_of_blobRoundTrip h).1.1

end Anchr.Attachments
