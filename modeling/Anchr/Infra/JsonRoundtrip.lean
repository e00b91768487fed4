import Anchr.Infra.JsonLayout

/-!
# `JSON.parse` inverts `JSON.stringify`

Reading is deterministic on its first character, so the proof follows the writer: each constructor
writes a first character that selects the reader's branch, and what the branch leaves unread is what
came after the value.
-/

namespace Anchr.Infra.Json

/-! ## Strings -/

theorem readChar_quoteChar (c : Char) : ∃ d l, quoteChar c = d :: l ∧ (d == '"') = false ∧
    ∀ r, readChar d (l ++ r) = some (c, r) := by
  by_cases hq : (c == '"') = true
  · have hc : c = '"' := by simpa using hq
    subst hc
    exact ⟨'\\', ['"'], rfl, by decide, fun r => rfl⟩
  · by_cases hb : (c == '\\') = true
    · have hc : c = '\\' := by simpa using hb
      subst hc
      exact ⟨'\\', ['\\'], rfl, by decide, fun r => rfl⟩
    · by_cases hlt : c.toNat < 0x20
      · -- thirty-two control characters, each by computation
        obtain ⟨n, hn⟩ : ∃ n, c.toNat = n := ⟨_, rfl⟩
        have hc : c = Char.ofNat n := by rw [← hn, Char.ofNat_toNat]
        rw [hn] at hlt
        subst hc
        clear hn hq hb
        interval_cases n <;> exact ⟨'\\', _, rfl, by decide, fun r => rfl⟩
      · refine ⟨c, [], ?_, by simpa using hq, fun r => ?_⟩
        · rw [quoteChar, if_neg hq, if_neg hb, if_neg hlt]
        · unfold readChar
          rw [if_neg hb, if_neg hlt, List.nil_append]

theorem length_le_flatMap_quoteChar : ∀ l : List Char, l.length ≤ (l.flatMap quoteChar).length
  | [] => Nat.le_refl _
  | c :: l => by
    obtain ⟨d, t, h, -⟩ := readChar_quoteChar c
    have ih := length_le_flatMap_quoteChar l
    rw [List.flatMap_cons, h, List.length_append, List.length_cons, List.length_cons]
    omega

theorem readChars_quote : ∀ (l rest : List Char) (fuel : Nat), l.length < fuel →
    readChars fuel (l.flatMap quoteChar ++ '"' :: rest) = some (l, rest)
  | _, _, 0, h => absurd h (Nat.not_lt_zero _)
  | [], rest, fuel + 1, _ => rfl
  | c :: l, rest, fuel + 1, h => by
    obtain ⟨d, t, hcd, hd, hr⟩ := readChar_quoteChar c
    rw [List.flatMap_cons, hcd, List.append_assoc, List.cons_append, readChars,
      if_neg (by simp [hd]), hr]
    show (readChars fuel (l.flatMap quoteChar ++ '"' :: rest)).map (fun p => (c :: p.1, p.2)) = _
    rw [readChars_quote l rest fuel (by simpa using h)]
    rfl

theorem readString_quote (l rest : List Char) :
    readString (l.flatMap quoteChar ++ '"' :: rest) = some (String.ofList l, rest) := by
  rw [readString, readChars_quote l rest]
  · rfl
  · have := length_le_flatMap_quoteChar l
    rw [List.length_append]
    omega

theorem quote_append (l rest : List Char) :
    quote l ++ rest = '"' :: (l.flatMap quoteChar ++ '"' :: rest) := by
  simp [quote]

variable {ws rest l : List Char} {c : Char} {v : Json}

theorem skipWs_append (hws : ∀ c ∈ ws, isWs c = true) (hc : isWs c = false) (r : List Char) :
    skipWs (ws ++ c :: r) = c :: r := by
  rw [skipWs, List.dropWhile_append_of_pos hws, List.dropWhile_cons, hc]
  rfl

theorem readName_quote (k : String) (hws : ∀ c ∈ ws, isWs c = true) (hc : isWs c = false)
    (r : List Char) :
    readName (quote k.toList ++ ':' :: (ws ++ c :: r)) = some (k, c :: r) := by
  rw [quote_append, readName, if_pos (by rfl), readString_quote, String.ofList_toList]
  show (if (':' == ':') = true then some (k, skipWs (ws ++ c :: r)) else none) = _
  rw [if_pos (by rfl), skipWs_append hws hc]

/-! ## Numbers -/

/-- The next character cannot extend a number. -/
def NumberEnd (rest : List Char) : Prop := ∀ c ∈ rest.head?, isNumberChar c = false

theorem takeWhile_number (hl : l.all isNumberChar = true) (hr : NumberEnd rest) :
    (l ++ rest).takeWhile isNumberChar = l ∧ (l ++ rest).dropWhile isNumberChar = rest := by
  have hall : ∀ x ∈ l, isNumberChar x = true := List.all_eq_true.mp hl
  rw [List.takeWhile_append_of_pos hall, List.dropWhile_append_of_pos hall]
  cases rest with
  | nil => simp
  | cons c t =>
    have hc : isNumberChar c = false := hr c rfl
    rw [List.takeWhile_cons, List.dropWhile_cons, hc]
    simp

theorem isNumberToken_cons (h : isNumberToken l = true) :
    ∃ c r, l = c :: r ∧ (c = '-' ∨ c.isDigit = true) := by
  cases l with
  | nil => simp [isNumberToken] at h
  | cons c r =>
    refine ⟨c, r, rfl, ?_⟩
    by_cases hm : c = '-'
    · exact .inl hm
    · right
      rw [isNumberToken, if_neg (by simpa using hm), isUnsigned] at h
      by_cases h0 : (c == '0') = true
      · rw [beq_iff_eq.mp h0]; decide
      · rw [if_neg h0, Bool.and_eq_true] at h
        exact h.1

theorem ne_of_numberStart {d : Char} (h : c = '-' ∨ c.isDigit = true) (hd : d.isDigit = false)
    (hm : d ≠ '-') : (c == d) = false := by
  rw [beq_eq_false_iff_ne]
  rintro rfl
  rcases h with h | h
  · exact hm h
  · rw [hd] at h; exact absurd h (by decide)

/-! ## Values -/

variable (T : NumberText)

mutual

/-- Every number in the value is a double. -/
def Doubles : Json → Prop
  | .num (.fin q) => T.double q
  | .num _ => False
  | .arr vs => DoublesElems vs
  | .obj ms => DoublesMembers ms
  | _ => True

def DoublesElems : List Json → Prop
  | [] => True
  | v :: vs => Doubles v ∧ DoublesElems vs

def DoublesMembers : List (String × Json) → Prop
  | [] => True
  | (_, v) :: ms => Doubles v ∧ DoublesMembers ms

end

variable {T}

theorem doublesElems_iff : ∀ vs : List Json, DoublesElems T vs ↔ ∀ v ∈ vs, v.Doubles T
  | [] => by simp [DoublesElems]
  | v :: vs => by simp [DoublesElems, doublesElems_iff vs]

variable {L : Layout}

/-- Written values start with a character that is no whitespace and closes nothing. -/
theorem layOut_cons (hv : v.Doubles T) (depth : Nat) :
    ∃ c r, v.layOut T L depth = c :: r ∧ isWs c = false ∧ (c == ']') = false ∧
      (c == '}') = false := by
  match v, hv with
  | .null, _ => exact ⟨'n', _, rfl, by decide, by decide, by decide⟩
  | .bool true, _ => exact ⟨'t', _, rfl, by decide, by decide, by decide⟩
  | .bool false, _ => exact ⟨'f', _, rfl, by decide, by decide, by decide⟩
  | .str s, _ => exact ⟨'"', _, rfl, by decide, by decide, by decide⟩
  | .arr [], _ => exact ⟨'[', _, rfl, by decide, by decide, by decide⟩
  | .arr (_ :: _), _ => exact ⟨'[', _, rfl, by decide, by decide, by decide⟩
  | .obj [], _ => exact ⟨'{', _, rfl, by decide, by decide, by decide⟩
  | .obj ((_, _) :: _), _ => exact ⟨'{', _, rfl, by decide, by decide, by decide⟩
  | .num (.fin q), hq =>
    obtain ⟨c, r, hc, hstart⟩ := isNumberToken_cons (T.render_token q hq)
    refine ⟨c, r, hc, ?_, ne_of_numberStart hstart (by decide) (by decide),
      ne_of_numberStart hstart (by decide) (by decide)⟩
    simp only [isWs, Bool.or_eq_false_iff]
    exact ⟨⟨⟨ne_of_numberStart hstart (by decide) (by decide),
      ne_of_numberStart hstart (by decide) (by decide)⟩,
      ne_of_numberStart hstart (by decide) (by decide)⟩,
      ne_of_numberStart hstart (by decide) (by decide)⟩

theorem readValue_number {q : ℚ} (hq : T.double q) (hr : NumberEnd rest) {fuel : Nat}
    (hf : 0 < fuel) :
    readValue T fuel (T.render q ++ rest) = some (.num (.fin q), rest) := by
  obtain ⟨c, r, hc, hstart⟩ := isNumberToken_cons (T.render_token q hq)
  obtain ⟨fuel, rfl⟩ : ∃ k, fuel = k + 1 := ⟨fuel - 1, by omega⟩
  have hne : ∀ d : Char, d.isDigit = false → d ≠ '-' → ¬(c == d) = true := by
    intro d h1 h2
    rw [ne_of_numberStart hstart h1 h2]
    decide
  have htok := takeWhile_number (T.render_chars q hq) hr
  rw [hc, List.cons_append, readValue, if_neg (hne '"' (by decide) (by decide)),
    if_neg (hne '[' (by decide) (by decide)), if_neg (hne '{' (by decide) (by decide)),
    if_neg (hne 'n' (by decide) (by decide)), if_neg (hne 't' (by decide) (by decide)),
    if_neg (hne 'f' (by decide) (by decide)), ← List.cons_append, ← hc, readNumber]
  simp only [htok.1, htok.2, T.render_token q hq, T.read_render q hq, if_true]

theorem isNumberChar_of_isWs (h : isWs c = true) : isNumberChar c = false := by
  simp only [isWs, Bool.or_eq_true, beq_iff_eq] at h
  rcases h with ((rfl | rfl) | rfl) | rfl <;> decide

theorem numberEnd_append (hws : ∀ c ∈ ws, isWs c = true) (hc : isNumberChar c = false)
    (rest : List Char) : NumberEnd (ws ++ c :: rest) := by
  intro d hd
  cases ws with
  | nil =>
    obtain rfl : c = d := by simpa using hd
    exact hc
  | cons e ws =>
    obtain rfl : e = d := by simpa using hd
    exact isNumberChar_of_isWs (hws e (by simp))

theorem numberEnd_comma (rest : List Char) : NumberEnd (',' :: rest) := by
  intro d hd
  obtain rfl : ',' = d := by simpa using hd
  decide

theorem numberEnd_layOutElems (depth : Nat) (vs : List Json) (rest : List Char) :
    NumberEnd (layOutElems T L depth vs ++ rest) := by
  cases vs with
  | nil =>
    rw [layOutElems, List.append_assoc, List.singleton_append]
    exact numberEnd_append (L.line_ws depth) (by decide) rest
  | cons v vs => exact numberEnd_comma _

theorem numberEnd_layOutMembers (depth : Nat) (ms : List (String × Json)) (rest : List Char) :
    NumberEnd (layOutMembers T L depth ms ++ rest) := by
  cases ms with
  | nil =>
    rw [layOutMembers, List.append_assoc, List.singleton_append]
    exact numberEnd_append (L.line_ws depth) (by decide) rest
  | cons m ms => exact numberEnd_comma _

theorem skipWs_layOut (hv : v.Doubles T) (depth : Nat) (hws : ∀ c ∈ ws, isWs c = true)
    (rest : List Char) :
    skipWs (ws ++ (v.layOut T L depth ++ rest)) = v.layOut T L depth ++ rest := by
  obtain ⟨c, r, hc, hnot, -⟩ := layOut_cons (L := L) hv depth
  rw [hc, List.cons_append, skipWs_append hws hnot]

theorem skipWs_quote (k : String) (hws : ∀ c ∈ ws, isWs c = true) (rest : List Char) :
    skipWs (ws ++ (quote k.toList ++ rest)) = quote k.toList ++ rest := by
  rw [quote_append, skipWs_append hws (by decide)]

mutual

/-- Reading stops exactly at the end of the written value. -/
theorem readValue_layOut : ∀ (v : Json) (depth fuel : Nat) (rest : List Char), v.Doubles T →
    NumberEnd rest → (v.layOut T L depth).length ≤ fuel →
    readValue T fuel (v.layOut T L depth ++ rest) = some (v, rest)
  | v, depth, 0, _, hv, _, hf => by
    obtain ⟨c, r, hc, -⟩ := layOut_cons (L := L) hv depth
    rw [hc] at hf
    simp at hf
  | .null, _, _ + 1, _, _, _, _ => rfl
  | .bool true, _, _ + 1, _, _, _, _ => rfl
  | .bool false, _, _ + 1, _, _, _, _ => rfl
  | .num (.fin q), _, _ + 1, _, hq, hr, _ => readValue_number hq hr (Nat.succ_pos _)
  | .str s, _, fuel + 1, rest, _, _, _ => by
    rw [layOut, quote_append, readValue, if_pos (by rfl), readString_quote, String.ofList_toList]
    rfl
  | .arr [], _, _ + 1, _, _, _, _ => rfl
  | .obj [], _, _ + 1, _, _, _, _ => rfl
  | .arr (v :: vs), depth, fuel + 1, rest, hv, hr, hf => by
    obtain ⟨c, r, hc, hws, hclose, -⟩ := layOut_cons (L := L) hv.1 (depth + 1)
    have ih := readElems_layOut v vs depth fuel rest hv.1 hv.2 (by
      rw [layOut, List.length_cons, List.length_append] at hf
      omega)
    rw [layOut, List.cons_append, readValue, if_neg (by decide), if_pos (by rfl),
      List.append_assoc, List.append_assoc, skipWs_layOut hv.1 _ (L.line_ws _)]
    rw [hc, List.cons_append, List.cons_append, List.append_assoc] at ih
    rw [hc, List.cons_append]
    simp only [hclose, Bool.false_eq_true, if_false]
    rw [ih]
    rfl
  | .obj ((k, v) :: ms), depth, fuel + 1, rest, hv, hr, hf => by
    have ih := readMembers_layOut k v ms depth fuel rest hv.1 hv.2 (by
      rw [layOut, List.length_cons, List.length_append] at hf
      omega)
    rw [layOut, List.cons_append, readValue, if_neg (by decide), if_neg (by decide),
      if_pos (by rfl), List.append_assoc, List.append_assoc, skipWs_quote k (L.line_ws _)]
    rw [List.append_assoc, quote_append] at ih
    rw [quote_append]
    simp only [show ('"' == '}') = false from by decide, Bool.false_eq_true, if_false]
    rw [ih]
    rfl
termination_by v => (sizeOf v, 1)

theorem readElems_layOut : ∀ (v : Json) (vs : List Json) (depth fuel : Nat) (rest : List Char),
    v.Doubles T → DoublesElems T vs →
    (v.layOut T L (depth + 1) ++ layOutElems T L depth vs).length ≤ fuel →
    readElems T fuel ((v.layOut T L (depth + 1) ++ layOutElems T L depth vs) ++ rest)
      = some (v :: vs, rest)
  | v, vs, depth, 0, _, hv, _, hf => by
    obtain ⟨c, r, hc, -⟩ := layOut_cons (L := L) hv (depth + 1)
    rw [hc] at hf
    simp at hf
  | v, [], depth, fuel + 1, rest, hv, _, hf => by
    rw [List.append_assoc, readElems, readValue_layOut v (depth + 1) fuel _ hv
      (numberEnd_layOutElems depth [] rest) (by simp [layOutElems] at hf; omega)]
    rw [layOutElems, List.append_assoc, List.singleton_append]
    simp only [skipWs_append (L.line_ws depth) (show isWs ']' = false from by decide)]
    rfl
  | v, w :: ws, depth, fuel + 1, rest, hv, hvs, hf => by
    have hlen : (v.layOut T L (depth + 1)).length
        + ((w.layOut T L (depth + 1) ++ layOutElems T L depth ws).length + 1) ≤ fuel + 1 := by
      rw [layOutElems, List.length_append, List.length_cons, List.length_append] at hf
      omega
    have ih := readElems_layOut w ws depth fuel rest hvs.1 hvs.2 (by omega)
    rw [List.append_assoc, readElems, readValue_layOut v (depth + 1) fuel _ hv
      (numberEnd_layOutElems depth (w :: ws) rest) (by omega)]
    rw [List.append_assoc] at ih
    simp only [layOutElems, List.cons_append, List.append_assoc]
    rw [show ∀ l, skipWs (',' :: l) = ',' :: l from fun _ => rfl]
    simp only [beq_self_eq_true, if_true]
    rw [skipWs_layOut hvs.1 _ (L.line_ws _), ih]
    rfl
termination_by v vs => (sizeOf v + sizeOf vs, 2)

theorem readMembers_layOut : ∀ (k : String) (v : Json) (ms : List (String × Json))
    (depth fuel : Nat) (rest : List Char), v.Doubles T → DoublesMembers T ms →
    (quote k.toList ++ ':' :: (L.colon ++ (v.layOut T L (depth + 1)
      ++ layOutMembers T L depth ms))).length ≤ fuel →
    readMembers T fuel ((quote k.toList ++ ':' :: (L.colon ++ (v.layOut T L (depth + 1)
      ++ layOutMembers T L depth ms))) ++ rest) = some ((k, v) :: ms, rest)
  | k, v, ms, _, 0, _, _, _, hf => by simp [quote] at hf
  | k, v, [], depth, fuel + 1, rest, hv, _, hf => by
    obtain ⟨c, r, hc, hws, -⟩ := layOut_cons (L := L) hv (depth + 1)
    have hval := readValue_layOut v (depth + 1) fuel (layOutMembers T L depth [] ++ rest) hv
      (numberEnd_layOutMembers depth [] rest) (by simp [quote] at hf; omega)
    rw [List.append_assoc, List.cons_append, List.append_assoc, List.append_assoc, readMembers]
    rw [hc, List.cons_append] at hval ⊢
    rw [readName_quote k L.colon_ws hws]
    simp only [hval]
    rw [layOutMembers, List.append_assoc, List.singleton_append]
    simp only [skipWs_append (L.line_ws depth) (show isWs '}' = false from by decide)]
    rfl
  | k, v, (k', w) :: ws, depth, fuel + 1, rest, hv, hvs, hf => by
    obtain ⟨c, r, hc, hws, -⟩ := layOut_cons (L := L) hv (depth + 1)
    have hlen : (v.layOut T L (depth + 1)).length
        + ((quote k'.toList ++ ':' :: (L.colon ++ (w.layOut T L (depth + 1)
          ++ layOutMembers T L depth ws))).length + 1) ≤ fuel := by
      simp only [layOutMembers, List.length_append, List.length_cons] at hf ⊢
      simp [quote] at hf ⊢
      omega
    have hval := readValue_layOut v (depth + 1) fuel
      (layOutMembers T L depth ((k', w) :: ws) ++ rest) hv (numberEnd_layOutMembers depth _ rest)
      (by omega)
    have ih := readMembers_layOut k' w ws depth fuel rest hvs.1 hvs.2 (by omega)
    rw [List.append_assoc, List.cons_append, List.append_assoc, List.append_assoc, readMembers]
    rw [hc, List.cons_append] at hval ⊢
    rw [readName_quote k L.colon_ws hws]
    simp only [hval]
    rw [layOutMembers, List.cons_append, show ∀ l, skipWs (',' :: l) = ',' :: l from fun _ => rfl]
    simp only [beq_self_eq_true, if_true]
    rw [List.append_assoc] at ih
    rw [List.append_assoc, List.append_assoc, skipWs_quote k' (L.line_ws _), ih]
    rfl
termination_by _ v ms => (sizeOf v + sizeOf ms, 2)

end

theorem parse_layOut (hv : v.Doubles T) (depth : Nat) :
    parse T (String.ofList (v.layOut T L depth)) = some v := by
  have hval := readValue_layOut (L := L) v depth ((v.layOut T L depth).length + 1) [] hv
    (by intro c hc; simp at hc) (Nat.le_succ _)
  have hskip : skipWs ([] ++ (v.layOut T L depth ++ [])) = v.layOut T L depth ++ [] :=
    skipWs_layOut hv depth (by simp) []
  rw [List.append_nil] at hval hskip
  rw [List.nil_append] at hskip
  rw [parse, String.toList_ofList, parseChars, hskip, hval]
  rfl

theorem parse_stringify (hv : v.Doubles T) : parse T (v.stringify T) = some v := by
  rw [stringify, ← layOut_compact T 0 v]
  exact parse_layOut hv 0

theorem parse_stringifyIndent (hv : v.Doubles T) (gap : Nat) :
    parse T (v.stringifyIndent T gap) = some v :=
  parse_layOut hv 0

end Anchr.Infra.Json
