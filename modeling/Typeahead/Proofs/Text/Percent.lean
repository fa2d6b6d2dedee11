-- Percent-encoding read back. Every byte is written as one escape: an ASCII
-- letter or digit, or one of `- _ . ~`, for itself, and any other byte as
-- `%` with two upper-case hex digits. Decoding the written text, as a URL's
-- host is decoded, gives back the UTF-8 bytes of the query, so two queries
-- never encode alike. An escape holds none of the characters that end a part
-- of a URL (`{ } & ? # /`) and no blank, so a template filled with an
-- encoded query is the template with the query in place of each `{text}`
-- and nothing else changed.
import Mathlib
import Typeahead.Url.Host
import Typeahead.Text.Blank

namespace Typeahead.Text

/-! ## ASCII characters and bytes -/

theorem toNat_ofNat_ascii {n : Nat} (h : n < 128) : (Char.ofNat n).toNat = n := by
  rw [Char.ofNat, dif_pos (Or.inl (by omega))]
  simp [Char.ofNatAux, Char.toNat]

theorem utf8EncodeChar_ascii {c : Char} (h : c.toNat < 128) :
    String.utf8EncodeChar c = [UInt8.ofNat c.toNat] := by
  simp [String.utf8EncodeChar, show c.toNat ≤ 127 by omega]

theorem isAlphanum_iff {c : Char} : c.isAlphanum = true ↔
    48 ≤ c.toNat ∧ c.toNat ≤ 57 ∨ 65 ≤ c.toNat ∧ c.toNat ≤ 90 ∨ 97 ≤ c.toNat ∧ c.toNat ≤ 122 := by
  simp [Char.isAlphanum, Char.isAlpha, Char.isUpper, Char.isLower, Char.isDigit, UInt32.le_iff_toNat_le]
  omega

theorem isUnreserved_iff {b : UInt8} : isUnreserved b = true ↔
    48 ≤ b.toNat ∧ b.toNat ≤ 57 ∨ 65 ≤ b.toNat ∧ b.toNat ≤ 90 ∨ 97 ≤ b.toNat ∧ b.toNat ≤ 122 ∨
      b.toNat = 45 ∨ b.toNat = 95 ∨ b.toNat = 46 ∨ b.toNat = 126 := by
  simp [isUnreserved]
  omega

/-! ## The escapes -/

/-- An upper-case hex digit: `0` to `9` or `A` to `F`. -/
def isUpperHex (c : Char) : Bool := c.isDigit || ('A' ≤ c && c ≤ 'F')

/-- What the encoding writes for one byte: a character that stands for itself
(an ASCII letter or digit, or one of `- _ . ~`), or `%` and two upper-case hex
digits. -/
inductive Escape : List Char → Prop
  | plain {c : Char} : c.isAlphanum = true ∨ c ∈ ['-', '_', '.', '~'] → Escape [c]
  | triple {hi lo : Char} : isUpperHex hi = true → isUpperHex lo = true → Escape ['%', hi, lo]

theorem hexDigit_ascii : ∀ n < 16, (hexDigit n).toNat < 128 := by decide

theorem hexVal?_hexDigit : ∀ n < 16, Url.hexVal? (hexDigit n) = some n := by decide

theorem isUpperHex_hexDigit : ∀ n < 16, isUpperHex (hexDigit n) = true := by decide

theorem encodeByte_reserved {b : UInt8} (h : isUnreserved b = false) :
    encodeByte b = ['%', hexDigit (b.toNat / 16), hexDigit (b.toNat % 16)] := by
  simp [encodeByte, h]

/-- Every byte is written as one escape. -/
theorem escape_encodeByte (b : UInt8) : Escape (encodeByte b) := by
  cases hb : isUnreserved b with
  | true =>
    rw [encodeByte_unreserved hb]
    refine .plain ?_
    have hrange := isUnreserved_iff.1 hb
    rw [isAlphanum_iff, toNat_ofNat_ascii (by omega)]
    -- the four signs are the bytes outside the letter and digit ranges
    rcases hrange with h | h | h | h | h | h | h
    all_goals first
      | exact Or.inl (by omega)
      | exact Or.inr (by rw [h]; decide)
  | false =>
    rw [encodeByte_reserved hb]
    have hb := b.toNat_lt
    exact .triple (isUpperHex_hexDigit _ (by omega)) (isUpperHex_hexDigit _ (by omega))

/-- An escape holds none of the characters that end a part of a URL, and no blank. -/
theorem Escape.url_safe {p : List Char} (h : Escape p) :
    ∀ c ∈ p, c ∉ ['{', '}', '&', '?', '#', '/'] ∧ isBlank c = false := by
  -- every character of an escape has one of these codes
  have hcode : ∀ c ∈ p, 48 ≤ c.toNat ∧ c.toNat ≤ 57 ∨ 65 ≤ c.toNat ∧ c.toNat ≤ 90 ∨
      97 ≤ c.toNat ∧ c.toNat ≤ 122 ∨ c.toNat ∈ [37, 45, 46, 95, 126] := by
    cases h with
    | plain hc =>
      intro c' hc'
      rw [List.mem_singleton.1 hc']
      rcases hc with hc | hc
      · have := isAlphanum_iff.1 hc
        simp only [List.mem_cons, List.not_mem_nil, or_false]
        omega
      · simp only [List.mem_cons, List.not_mem_nil, or_false] at hc
        rcases hc with rfl | rfl | rfl | rfl <;> decide
    | triple hhi hlo =>
      intro c' hc'
      simp only [List.mem_cons, List.not_mem_nil, or_false] at hc'
      rcases hc' with rfl | rfl | rfl
      · decide
      all_goals
        simp [isUpperHex, Char.isDigit, Char.le_def, UInt32.le_iff_toNat_le] at *
        omega
  intro c hc
  have hc := hcode c hc
  refine ⟨fun hmem => ?_, ?_⟩
  · simp only [List.mem_cons, List.not_mem_nil, or_false] at hmem
    rcases hmem with rfl | rfl | rfl | rfl | rfl | rfl <;> simp at hc
  · simp only [List.mem_cons, List.not_mem_nil, or_false] at hc
    simp [isBlank]
    omega

/-- The encoding of a text is a run of escapes, one for each of its UTF-8 bytes. -/
theorem encodeChars_eq_flatten (cs : List Char) : encodeChars cs = ((utf8Bytes cs).map encodeByte).flatten :=
  List.flatMap_def

/-! ## Decoding the escapes -/

theorem percentDecode_cons_of_ne {b : UInt8} (h : b ≠ 37) (rest : List UInt8) :
    Url.percentDecode (b :: rest) = b :: Url.percentDecode rest := by
  -- the three shapes of the tail that the escape pattern tells apart
  rcases rest with _ | ⟨a, _ | ⟨c, rest⟩⟩
  · simp [Url.percentDecode]
  · simp [Url.percentDecode]
  · simp [Url.percentDecode, h]

theorem utf8Bytes_flatMap {α : Type} (xs : List α) (f : α → List Char) :
    utf8Bytes (xs.flatMap f) = xs.flatMap (fun x => utf8Bytes (f x)) :=
  List.flatMap_assoc

/-- Decoding reads one escape back as its byte. -/
theorem percentDecode_encodeByte (b : UInt8) (rest : List UInt8) :
    Url.percentDecode (utf8Bytes (encodeByte b) ++ rest) = b :: Url.percentDecode rest := by
  cases hb : isUnreserved b with
  | true =>
    have hlt : b.toNat < 128 := by have := isUnreserved_iff.1 hb; omega
    have hpct : b ≠ 37 := by
      rintro rfl
      exact absurd hb (by decide)
    rw [encodeByte_unreserved hb, utf8Bytes, List.flatMap_singleton,
      utf8EncodeChar_ascii (by rw [toNat_ofNat_ascii hlt]; exact hlt), toNat_ofNat_ascii hlt,
      UInt8.ofNat_toNat, List.singleton_append, percentDecode_cons_of_ne hpct]
  | false =>
    have hhi : b.toNat / 16 < 16 := by have := b.toNat_lt; omega
    have hlo : b.toNat % 16 < 16 := by omega
    -- each hex digit is one ASCII byte, read back as its digit
    have hdigit : ∀ n < 16, Char.ofNat (UInt8.ofNat (hexDigit n).toNat).toNat = hexDigit n := by
      intro n hn
      rw [UInt8.toNat_ofNat', Nat.mod_eq_of_lt (by have := hexDigit_ascii n hn; omega), Char.ofNat_toNat]
    simp only [encodeByte_reserved hb, utf8Bytes, List.flatMap_cons, List.flatMap_nil, List.append_nil,
      utf8EncodeChar_ascii (hexDigit_ascii _ hhi), utf8EncodeChar_ascii (hexDigit_ascii _ hlo),
      utf8EncodeChar_ascii (show '%'.toNat < 128 by decide), List.cons_append, List.nil_append]
    rw [show UInt8.ofNat '%'.toNat = 37 from rfl, Url.percentDecode, hdigit _ hhi, hdigit _ hlo,
      hexVal?_hexDigit _ hhi, hexVal?_hexDigit _ hlo]
    simp only [List.cons.injEq, and_true]
    rw [show b.toNat / 16 * 16 + b.toNat % 16 = b.toNat by omega]
    exact UInt8.ofNat_toNat

/-- Decoding gives back every run of bytes from its escapes. -/
theorem percentDecode_escapes (bs : List UInt8) :
    Url.percentDecode (bs.flatMap (fun b => utf8Bytes (encodeByte b))) = bs := by
  induction bs with
  | nil => simp [Url.percentDecode]
  | cons b bs ih => rw [List.flatMap_cons, percentDecode_encodeByte, ih]

/-- Decoding the encoding of a text gives back its UTF-8 bytes. -/
theorem percentDecode_encodeChars (cs : List Char) :
    Url.percentDecode (utf8Bytes (encodeChars cs)) = utf8Bytes cs := by
  rw [encodeChars, utf8Bytes_flatMap, percentDecode_escapes]

/-- Texts with the same UTF-8 bytes are the same text. -/
theorem utf8Bytes_injective : Function.Injective utf8Bytes := by
  intro cs ds h
  have hdecode : cs.utf8Encode.utf8Decode? = ds.utf8Encode.utf8Decode? := by
    rw [List.utf8Encode, List.utf8Encode]
    exact congrArg (fun bs : List UInt8 => bs.toByteArray.utf8Decode?) h
  rw [List.utf8Decode?_utf8Encode, List.utf8Decode?_utf8Encode, Option.some_inj] at hdecode
  exact List.toArray_inj hdecode

/-- No two queries encode alike. -/
theorem encode_injective : Function.Injective encode := by
  intro s t h
  have hchars : encodeChars s.toList = encodeChars t.toList := by
    simpa [encode] using congrArg String.toList h
  have hbytes : utf8Bytes s.toList = utf8Bytes t.toList := by
    rw [← percentDecode_encodeChars, hchars, percentDecode_encodeChars]
  exact String.toList_inj.1 (utf8Bytes_injective hbytes)

/-! ## Filling a template -/

/-- The placeholder a template holds for the query. -/
def placeholder : List Char := ['{', 't', 'e', 'x', 't', '}']

/-- The pieces of a template around its placeholders, read from left to
right: one more piece than there are placeholders. -/
def templatePieces : List Char → List (List Char)
  | '{' :: 't' :: 'e' :: 'x' :: 't' :: '}' :: rest => [] :: templatePieces rest
  | c :: rest => (templatePieces rest).modifyHead (c :: ·)
  | [] => [[]]

theorem templatePieces_ne_nil (t : List Char) : templatePieces t ≠ [] := by
  fun_induction templatePieces t <;> simp_all

/-- Filling puts the value between the pieces. -/
theorem intercalate_templatePieces (value t : List Char) :
    value.intercalate (templatePieces t) = fillChars value t := by
  fun_induction templatePieces t with
  | case1 rest ih =>
    rw [List.intercalate_cons_of_ne_nil (templatePieces_ne_nil rest), ih, fillChars]
    rfl
  | case2 c rest hnot ih =>
    obtain ⟨p, ps, hps⟩ := List.exists_cons_of_ne_nil (templatePieces_ne_nil rest)
    rw [hps] at ih
    rw [fillChars, hps, List.modifyHead_cons, ← ih]
    · cases ps <;> simp [List.intercalate_cons_cons]
    · exact hnot
  | case3 => rfl

/-- Filling with the placeholder itself gives the template back. -/
theorem fillChars_placeholder (t : List Char) : fillChars placeholder t = t := by
  fun_induction fillChars placeholder t with
  | case1 rest ih => rw [ih]; rfl
  | case2 c rest _ ih => rw [ih]
  | case3 => rfl

theorem placeholder_intercalate (t : List Char) : placeholder.intercalate (templatePieces t) = t := by
  rw [intercalate_templatePieces, fillChars_placeholder]

/-- The first piece starts the template. -/
theorem prefix_of_templatePieces_eq_cons {t p : List Char} {ps : List (List Char)}
    (h : templatePieces t = p :: ps) : p <+: t := by
  have hjoin := placeholder_intercalate t
  rw [h] at hjoin
  cases ps with
  | nil => simp [← hjoin]
  | cons q qs =>
    rw [← hjoin, List.intercalate_cons_cons, List.append_assoc]
    exact List.prefix_append _ _

/-- No piece of a template holds the placeholder: the scan takes each one at
its first character. -/
theorem placeholder_not_infix (t : List Char) : ∀ p ∈ templatePieces t, ¬ placeholder <:+: p := by
  fun_induction templatePieces t with
  | case1 rest ih =>
    intro p hp
    rcases List.mem_cons.1 hp with rfl | hp
    · exact fun h => by simpa [placeholder] using h.length_le
    · exact ih p hp
  | case2 c rest hnot ih =>
    obtain ⟨p, ps, hps⟩ := List.exists_cons_of_ne_nil (templatePieces_ne_nil rest)
    have hpre : p <+: rest := prefix_of_templatePieces_eq_cons hps
    rw [hps] at ih
    rw [hps, List.modifyHead_cons]
    intro q hq
    rcases List.mem_cons.1 hq with rfl | hq
    · intro hinf
      rcases List.infix_cons_iff.1 hinf with hstart | hin
      · -- a placeholder at the first character: the scan would have taken it
        obtain ⟨u, hu⟩ := hstart.trans (List.cons_prefix_cons.2 ⟨rfl, hpre⟩)
        simp only [placeholder, List.cons_append, List.nil_append, List.cons.injEq] at hu
        obtain ⟨rfl, hrest⟩ := hu
        exact hnot u rfl hrest.symm
      · exact ih p List.mem_cons_self hin
    · exact ih q (List.mem_cons_of_mem _ hq)
  | case3 =>
    intro p hp
    rw [List.mem_singleton.1 hp]
    exact fun h => by simpa [placeholder] using h.length_le

/-- Percent-encoding escapes every byte of a query and reads back exactly, so
no two queries encode alike; a filled template is the template with the
encoded query, free of the characters that end a part of a URL and of blanks,
in place of each placeholder. -/
theorem encode_escapes_every_byte :
    (∀ s, ∃ ps : List (List Char), (∀ p ∈ ps, Escape p) ∧ (encode s).toList = ps.flatten) ∧
    (∀ s, Url.percentDecode (utf8Bytes (encode s).toList) = utf8Bytes s.toList) ∧
    Function.Injective encode ∧
    ∀ t x, (∀ c ∈ (encode x).toList, c ∉ ['{', '}', '&', '?', '#', '/'] ∧ isBlank c = false) ∧
      ∃ ps, (∀ p ∈ ps, ¬ placeholder <:+: p) ∧ t.toList = placeholder.intercalate ps ∧
        (fillTemplate t x).toList = (encode x).toList.intercalate ps := by
  refine ⟨fun s => ⟨_, ?_, by rw [encode, String.toList_ofList, encodeChars_eq_flatten]⟩,
    fun s => by rw [encode, String.toList_ofList, percentDecode_encodeChars], encode_injective,
    fun t x => ⟨?_, templatePieces t.toList, placeholder_not_infix _, (placeholder_intercalate _).symm, ?_⟩⟩
  · intro p hp
    obtain ⟨b, -, rfl⟩ := List.mem_map.1 hp
    exact escape_encodeByte b
  · intro c hc
    rw [encode, String.toList_ofList, encodeChars_eq_flatten, List.mem_flatten] at hc
    obtain ⟨p, hp, hcp⟩ := hc
    obtain ⟨b, -, rfl⟩ := List.mem_map.1 hp
    exact (escape_encodeByte b).url_safe c hcp
  · rw [fillTemplate, encode, String.toList_ofList, String.toList_ofList, intercalate_templatePieces]

/-- A lookup template filled with "a&b": the ampersand is escaped, so the query
does not split the template's parameters; two spellings of a word encode apart. -/
theorem lookup_template_escapes_ampersand :
    fillTemplate "https://dict.example/result?word={text}&lang=en" "a&b" =
      "https://dict.example/result?word=a%26b&lang=en" ∧ encode "猫" ≠ encode "貓" :=
  ⟨by decide, fun h => absurd (encode_escapes_every_byte.2.2.1 h) (by decide)⟩

end Typeahead.Text
