import Mathlib.Algebra.Group.Nat.Defs
import Mathlib.Data.List.Basic

/-!
# Base64 in the TLSNotary sidecars

`base64_encode` and `base64_decode` of `crates/tlsn-prover/src/main.rs`, and `base64_encode` of
`crates/tlsn-server/src/main.rs`. No `u32` of the three loops can overflow, so it is a natural
number here. A `String` is read as its bytes of UTF-8.
-/

namespace Anchr.Proofs

/-- `data.chunks(n)`: `n` elements each, and what is left in the last one. -/
def chunks {α : Type} (n : Nat) : List α → List (List α)
  | [] => []
  | a :: l => (a :: l.take (n - 1)) :: chunks n (l.drop (n - 1))
termination_by l => l.length
decreasing_by simp only [List.length_drop, List.length_cons]; omega

/-- `CHARS[(n & 0x3F) as usize] as char`. -/
def base64Char (n : Nat) : Char :=
  "ABCDEFGHIJKLMNOPQRSTUVWXYZabcdefghijklmnopqrstuvwxyz0123456789+/".toList.getD (n &&& 0x3F) '='

namespace TlsnProver

/-- The body of the loop in `base64_encode`. -/
def encodeChunk (chunk : List UInt8) : List Char :=
  let b0 := (chunk.getD 0 0).toNat
  let b1 := (chunk.getD 1 0).toNat
  let b2 := (chunk.getD 2 0).toNat
  let triple := b0 <<< 16 ||| b1 <<< 8 ||| b2
  [base64Char (triple >>> 18),
    base64Char (triple >>> 12),
    if chunk.length > 1 then base64Char (triple >>> 6) else '=',
    if chunk.length > 2 then base64Char triple else '=']

/-- The loop of the prover. -/
def base64Encode (data : List UInt8) : String :=
  String.ofList ((chunks 3 data).flatMap encodeChunk)

/-- `TABLE`, filled by its loop. -/
def table : List UInt8 :=
  (List.range 64).foldl (fun t i => t.set (base64Char i).toNat (UInt8.ofNat i))
    (List.replicate 128 255)

/-- `TABLE.get(b as usize).copied().unwrap_or(0)`. -/
def lookup (b : UInt8) : Nat := (table.getD b.toNat 0).toNat

/-- The `triple` of a chunk in `base64_decode`. -/
def sextets (chunk : List UInt8) : Nat :=
  let buf := fun i => (chunk[i]?.map lookup).getD 0
  buf 0 <<< 18 ||| buf 1 <<< 12 ||| buf 2 <<< 6 ||| buf 3

/-- The body of the loop in `base64_decode`. -/
def decodeChunk (chunk : List UInt8) : List UInt8 :=
  UInt8.ofNat (sextets chunk >>> 16) ::
    ((if chunk.length > 2 then [UInt8.ofNat (sextets chunk >>> 8)] else []) ++
      if chunk.length > 3 then [UInt8.ofNat (sextets chunk)] else [])

/-- The bytes of a text that are not padding and not the end of a line. -/
def kept (text : List Char) : List UInt8 :=
  (text.flatMap String.utf8EncodeChar).filter fun b => b ≠ 61 && b ≠ 10 && b ≠ 13

/-- The `Result` is never an error. -/
def base64Decode (s : String) : Except String (List UInt8) :=
  .ok ((chunks 4 (kept s.toList)).flatMap decodeChunk)

end TlsnProver

namespace TlsnServer

/-- The loop of the server. -/
def base64Encode (data : List UInt8) : String :=
  String.ofList ((chunks 3 data).flatMap fun chunk =>
    let b0 := (chunk.getD 0 0).toNat
    let b1 := (chunk.getD 1 0).toNat
    let b2 := (chunk.getD 2 0).toNat
    let triple := b0 <<< 16 ||| b1 <<< 8 ||| b2
    [base64Char (triple >>> 18),
      base64Char (triple >>> 12),
      if chunk.length > 1 then base64Char (triple >>> 6) else '=',
      if chunk.length > 2 then base64Char triple else '='])

end TlsnServer

/-! ## Pieces -/

theorem chunks_append {α : Type} {n : Nat} {p : List α} (hn : 0 < n) (hp : p.length = n)
    (l : List α) : chunks n (p ++ l) = p :: chunks n l := by
  cases p with
  | nil => exact absurd hp (Nat.ne_of_lt hn)
  | cons a p =>
    have hlength : p.length = n - 1 := by
      rw [List.length_cons] at hp
      omega
    rw [List.cons_append, chunks, ← hlength, List.take_left, List.drop_left]

theorem chunks_of_length_le {α : Type} {n : Nat} {l : List α} (hl : l ≠ []) (hle : l.length ≤ n) :
    chunks n l = [l] := by
  cases l with
  | nil => exact absurd rfl hl
  | cons a l =>
    have hlength : l.length ≤ n - 1 := by
      rw [List.length_cons] at hle
      omega
    rw [chunks, List.take_of_length_le hlength, List.drop_of_length_le hlength, chunks]

/-! ## Bits -/

theorem shiftLeft_or {a b k : Nat} (h : b < 2 ^ k) : a <<< k ||| b = a * 2 ^ k + b := by
  rw [← Nat.shiftLeft_add_eq_or_of_lt h, Nat.shiftLeft_eq]

/-- The number three bytes are packed into. -/
def triple (a b c : UInt8) : Nat := a.toNat <<< 16 ||| b.toNat <<< 8 ||| c.toNat

theorem triple_eq (a b c : UInt8) : triple a b c = a.toNat * 65536 + b.toNat * 256 + c.toNat := by
  have hb := b.toNat_lt
  have hc := c.toNat_lt
  rw [triple, Nat.or_assoc, shiftLeft_or (k := 8) hc, shiftLeft_or (k := 16) (by omega)]
  omega

theorem bytes_of_triple (a b c : UInt8) :
    UInt8.ofNat (triple a b c >>> 16) = a ∧ UInt8.ofNat (triple a b c >>> 8) = b ∧
      UInt8.ofNat (triple a b c) = c := by
  have ha := a.toNat_lt
  have hb := b.toNat_lt
  have hc := c.toNat_lt
  simp only [← UInt8.toNat_inj, UInt8.toNat_ofNat', Nat.shiftRight_eq_div_pow, triple_eq]
  omega

theorem triple_lt (a b c : UInt8) : triple a b c < 16777216 := by
  have ha := a.toNat_lt
  have hb := b.toNat_lt
  have hc := c.toNat_lt
  rw [triple_eq]
  omega

theorem pack_sextets {t : Nat} (h : t < 16777216) :
    (t >>> 18 % 64) <<< 18 ||| (t >>> 12 % 64) <<< 12 ||| (t >>> 6 % 64) <<< 6 ||| t % 64 = t := by
  simp only [Nat.shiftRight_eq_div_pow]
  rw [Nat.or_assoc, Nat.or_assoc, shiftLeft_or (k := 6) (by omega), shiftLeft_or (k := 12) (by omega),
    shiftLeft_or (k := 18) (by omega)]
  omega

/-! ## The round trip -/

namespace TlsnProver

theorem kept_append (s t : List Char) : kept (s ++ t) = kept s ++ kept t := by
  simp only [kept, List.flatMap_append, List.filter_append]

theorem kept_cons_cons (c d : Char) (t : List Char) :
    kept (c :: d :: t) = kept [c] ++ kept (d :: t) :=
  kept_append [c] (d :: t)

@[simp] theorem kept_pad : kept ['='] = [] := by decide

theorem base64Char_mod (n : Nat) : base64Char (n % 64) = base64Char n := by
  have hmask : ∀ m : Nat, m &&& 0x3F = m % 64 := fun m => Nat.and_two_pow_sub_one_eq_mod m 6
  rw [base64Char, base64Char, hmask, hmask, Nat.mod_mod]

/-- The byte of a character of the alphabet. -/
def code (n : Nat) : UInt8 := UInt8.ofNat (base64Char n).toNat

@[simp] theorem kept_base64Char (n : Nat) : kept [base64Char n] = [code n] := by
  have hall : ∀ i ∈ List.range 64, kept [base64Char i] = [code i] := by decide
  have hn := hall (n % 64) (List.mem_range.mpr (Nat.mod_lt n (by decide)))
  rwa [code, base64Char_mod] at hn

@[simp] theorem lookup_code (n : Nat) : lookup (code n) = n % 64 := by
  have hall : ∀ i ∈ List.range 64, lookup (code i) = i := by decide +kernel
  have hn := hall (n % 64) (List.mem_range.mpr (Nat.mod_lt n (by decide)))
  rwa [code, base64Char_mod] at hn

/-- The characters of a chunk are one more than its bytes without the padding, and decode to
them. -/
theorem decodeChunk_kept : ∀ chunk : List UInt8, chunk ≠ [] → chunk.length ≤ 3 →
    (kept (encodeChunk chunk)).length = chunk.length + 1 ∧
      decodeChunk (kept (encodeChunk chunk)) = chunk
  | [], h, _ => absurd rfl h
  | [a], _, _ => by
    have hpack := pack_sextets (triple_lt a 0 0)
    have hthird : triple a 0 0 >>> 6 % 64 = 0 := by
      rw [triple_eq, Nat.shiftRight_eq_div_pow, UInt8.toNat_zero]
      omega
    have hfourth : triple a 0 0 % 64 = 0 := by
      rw [triple_eq, UInt8.toNat_zero]
      omega
    have hkept : kept (encodeChunk [a]) =
        [code (triple a 0 0 >>> 18), code (triple a 0 0 >>> 12)] := by
      simp [encodeChunk, kept_cons_cons, triple]
    have hsextets : sextets (kept (encodeChunk [a])) = triple a 0 0 := by
      rw [hthird, hfourth] at hpack
      simpa [hkept, sextets] using hpack
    rw [decodeChunk, hsextets, (bytes_of_triple a 0 0).1, hkept]
    exact ⟨rfl, rfl⟩
  | [a, b], _, _ => by
    have hpack := pack_sextets (triple_lt a b 0)
    have hfourth : triple a b 0 % 64 = 0 := by
      rw [triple_eq, UInt8.toNat_zero]
      omega
    have hkept : kept (encodeChunk [a, b]) =
        [code (triple a b 0 >>> 18), code (triple a b 0 >>> 12), code (triple a b 0 >>> 6)] := by
      simp [encodeChunk, kept_cons_cons, triple]
    have hsextets : sextets (kept (encodeChunk [a, b])) = triple a b 0 := by
      rw [hfourth] at hpack
      simpa [hkept, sextets] using hpack
    obtain ⟨h0, h1, -⟩ := bytes_of_triple a b 0
    rw [decodeChunk, hsextets, h0, h1, hkept]
    exact ⟨rfl, rfl⟩
  | [a, b, c], _, _ => by
    have hkept : kept (encodeChunk [a, b, c]) = [code (triple a b c >>> 18),
        code (triple a b c >>> 12), code (triple a b c >>> 6), code (triple a b c)] := by
      simp [encodeChunk, kept_cons_cons, triple]
    have hsextets : sextets (kept (encodeChunk [a, b, c])) = triple a b c := by
      simpa [hkept, sextets] using pack_sextets (triple_lt a b c)
    obtain ⟨h0, h1, h2⟩ := bytes_of_triple a b c
    rw [decodeChunk, hsextets, h0, h1, h2, hkept]
    exact ⟨rfl, rfl⟩
  | _ :: _ :: _ :: _ :: _, _, h => absurd h (by simp)

/-- What is read of the characters that were written for `data`. -/
def decoded (data : List UInt8) : List UInt8 :=
  (chunks 4 (kept ((chunks 3 data).flatMap encodeChunk))).flatMap decodeChunk

theorem decoded_of_length_le {data : List UInt8} (hne : data ≠ []) (hle : data.length ≤ 3) :
    decoded data = data := by
  obtain ⟨hlength, hdecode⟩ := decodeChunk_kept data hne hle
  have hkept : kept (encodeChunk data) ≠ [] := by
    intro h
    rw [h] at hlength
    exact absurd hlength (by simp)
  rw [decoded, chunks_of_length_le hne hle, List.flatMap_singleton,
    chunks_of_length_le hkept (by omega), List.flatMap_singleton, hdecode]

theorem decoded_append {chunk : List UInt8} (h : chunk.length = 3) (rest : List UInt8) :
    decoded (chunk ++ rest) = chunk ++ decoded rest := by
  obtain ⟨hlength, hdecode⟩ := decodeChunk_kept chunk (by rintro rfl; cases h) (Nat.le_of_eq h)
  rw [decoded, chunks_append (by decide) h, List.flatMap_cons, kept_append,
    chunks_append (by decide) (by rw [hlength, h]), List.flatMap_cons, hdecode, decoded]

/-- The recursion is on the chunks: a chunk of three is followed by others, a shorter one is the
last. -/
theorem decoded_eq : ∀ data : List UInt8, decoded data = data
  | [] => by simp [decoded, chunks, kept]
  | [_] | [_, _] => decoded_of_length_le (by simp) (by simp)
  | a :: b :: c :: rest => by
    have happend : decoded ([a, b, c] ++ rest) = _ := decoded_append rfl rest
    rw [decoded_eq rest] at happend
    exact happend

theorem base64Decode_base64Encode (data : List UInt8) :
    base64Decode (base64Encode data) = .ok data := by
  rw [base64Decode, base64Encode, String.toList_ofList]
  exact congrArg Except.ok (decoded_eq data)

end TlsnProver

/-- Either sidecar's text decodes to the bytes it was made of, and the two texts are the same. -/
theorem base64_roundTrip (data : List UInt8) :
    TlsnProver.base64Decode (TlsnProver.base64Encode data) = .ok data ∧
      TlsnProver.base64Decode (TlsnServer.base64Encode data) = .ok data ∧
        TlsnProver.base64Encode data = TlsnServer.base64Encode data := by
  have hserver : TlsnProver.base64Encode data = TlsnServer.base64Encode data := rfl
  refine ⟨TlsnProver.base64Decode_base64Encode data, ?_, hserver⟩
  rw [← hserver]
  exact TlsnProver.base64Decode_base64Encode data

end Anchr.Proofs
