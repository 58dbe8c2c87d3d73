-- JSON that is written and read back. A text is written between quotes character by character, and
-- each character by itself is read as it is written. A value is read up to its last character,
-- whatever follows, so that values stay apart in lists and in objects.
import Formulary.Json.Text
import Formulary.Proofs.DigitRuns

namespace Formulary.Json

/-! ## Characters between quotes -/

theorem hexValue?_hexDigit {n : Nat} (h : n < 16) : hexValue? (hexDigit n) = some n := by
  have hall : ∀ n < 16, hexValue? (hexDigit n) = some n := by decide
  exact hall n h

/-- The three ways to write a character: with a mark for it, with its number, or as it is. -/
inductive EscapedAs (c : Char) : List Char → Prop
  | mark (mark : Char) (hmark : isEscapeMark mark = true) (hu : mark ≠ 'u')
      (hread : markChar? mark = some c) : EscapedAs c ['\\', mark]
  | hex (hlt : c.toNat < 32) :
      EscapedAs c ['\\', 'u', '0', '0', hexDigit (c.toNat / 16), hexDigit (c.toNat % 16)]
  | plain (hle : ¬ c.toNat < 32) (hquote : c ≠ '"') (hslash : c ≠ '\\') : EscapedAs c [c]

theorem escapedAs_escapeChar (c : Char) : EscapedAs c (escapeChar c) := by
  unfold escapeChar
  split
  · exact .mark '"' rfl (by decide) rfl
  · exact .mark '\\' rfl (by decide) rfl
  · exact .mark 'b' rfl (by decide) rfl
  · exact .mark 'f' rfl (by decide) rfl
  · exact .mark 'n' rfl (by decide) rfl
  · exact .mark 'r' rfl (by decide) rfl
  · exact .mark 't' rfl (by decide) rfl
  · rename_i hquote hslash _ _ _ _ _
    split
    · rename_i hlt
      exact .hex hlt
    · rename_i hle
      exact .plain hle hquote hslash

section

variable {c : Char} {cs before rest : List Char}

/-- The reader of strings passes over what a character is written as. -/
theorem EscapedAs.stringBody? (h : EscapedAs c cs) :
    stringBody? before (cs ++ rest) = stringBody? (cs.reverse ++ before) rest := by
  cases h with
  | mark mark hmark hu _ =>
    have hmarked : (isEscapeMark mark && mark != 'u') = true := by
      simp [hmark, hu]
    change Json.stringBody? before ('\\' :: mark :: rest) = _
    rw [Json.stringBody?, if_pos hmarked]
    · rfl
    · intro _ _ _ _ _ heq _
      exact hu heq
  | hex hlt =>
    have hdigits : ['0', '0', hexDigit (c.toNat / 16), hexDigit (c.toNat % 16)].all
        (hexValue? · |>.isSome) = true := by
      simp [hexValue?_hexDigit (n := c.toNat / 16) (by omega),
        hexValue?_hexDigit (n := c.toNat % 16) (by omega), show hexValue? '0' = some 0 from rfl]
    change Json.stringBody? before ('\\' :: 'u' :: '0' :: '0' :: _ :: _ :: rest) = _
    rw [Json.stringBody?, if_pos hdigits]
    rfl
  | plain hle hquote hslash =>
    change Json.stringBody? before (c :: rest) = _
    rw [Json.stringBody?, if_neg (by simp [hle, hslash])]
    · rfl
    all_goals grind

/-- It stands for the character. -/
theorem EscapedAs.decodeChars? (h : EscapedAs c cs) :
    decodeChars? before (cs ++ rest) = decodeChars? (c :: before) rest := by
  cases h with
  | mark mark _ hu hread =>
    change Json.decodeChars? before ('\\' :: mark :: rest) = _
    rw [Json.decodeChars?, hread]
    intro _ _ _ _ _ heq _
    exact hu heq
  | hex hlt =>
    have hnumber : hexNumber? ['0', '0', hexDigit (c.toNat / 16), hexDigit (c.toNat % 16)] =
        some c.toNat := by
      have hvalue : c.toNat / 16 * 16 + c.toNat % 16 = c.toNat := by omega
      simp [hexNumber?, hexValue?_hexDigit (n := c.toNat / 16) (by omega),
        hexValue?_hexDigit (n := c.toNat % 16) (by omega), show hexValue? '0' = some 0 from rfl,
        hvalue]
    have hhigh : isHighHalf c.toNat = false := by
      simp [isHighHalf]
      omega
    have hlow : isLowHalf c.toNat = false := by
      simp [isLowHalf]
      omega
    change Json.decodeChars? before ('\\' :: 'u' :: '0' :: '0' :: _ :: _ :: rest) = _
    rw [Json.decodeChars?, hnumber]
    simp [hhigh, hlow, Char.ofNat_toNat]
  | plain _ _ hslash =>
    change Json.decodeChars? before (c :: rest) = _
    rw [Json.decodeChars?]
    all_goals grind

end

/-! ## Strings -/

variable {rest : List Char}

theorem stringBody?_escaped (before cs : List Char) :
    stringBody? before (cs.flatMap escapeChar ++ '"' :: rest) =
      some (before.reverse ++ cs.flatMap escapeChar, rest) := by
  induction cs generalizing before with
  | nil =>
    change stringBody? before ('"' :: rest) = _
    rw [stringBody?]
    simp
  | cons c cs ih =>
    rw [List.flatMap_cons, List.append_assoc, (escapedAs_escapeChar c).stringBody?, ih]
    simp

/-- A text is read up to its closing quote. -/
theorem string?_escaped (s : String) : string? (escaped s ++ '"' :: rest) = some (escaped s, rest) :=
  stringBody?_escaped [] s.toList

theorem decodeChars?_escaped (before cs : List Char) :
    decodeChars? before (cs.flatMap escapeChar) = some (before.reverse ++ cs) := by
  induction cs generalizing before with
  | nil =>
    rw [List.flatMap_nil, decodeChars?, List.append_nil]
  | cons c cs ih =>
    rw [List.flatMap_cons, (escapedAs_escapeChar c).decodeChars?, ih]
    simp

/-- What a text is written as stands for the text. -/
@[simp] theorem decode?_escaped (s : String) : decode? (escaped s) = some s := by
  unfold decode? escaped
  rw [decodeChars?_escaped]
  simp

/-! ## Numbers -/

/-- A value ends at the end of the text, and before a comma or a closing bracket. -/
def Ends (rest : List Char) : Prop := ∀ c ∈ rest.head?, c = ',' ∨ c = ']' ∨ c = '\x7d'

theorem number?_toDigits (n : Nat) (hrest : Ends rest) :
    number? (Nat.toDigits 10 n ++ rest) = some (Nat.toDigits 10 n, rest) := by
  have hend : ∀ c ∈ rest.head?, c.isDigit = false := by
    intro c hc
    rcases hrest c hc with rfl | rfl | rfl <;> rfl
  have hzeros : ¬ ((Nat.toDigits 10 n).head? = some '0' ∧ (Nat.toDigits 10 n).length ≠ 1) := by
    rintro ⟨hzero, hlength⟩
    exact hlength (length_toDigits_of_head? hzero)
  have hdigits : digits? (Nat.toDigits 10 n ++ rest) = some (Nat.toDigits 10 n, rest) := by
    obtain ⟨htake, hdrop⟩ := takeWhile_digits (isDigit_toDigits (n := n)) hend
    unfold digits?
    rw [htake, hdrop]
    split
    · rename_i hnil
      exact absurd hnil Nat.toDigits_ne_nil
    · rfl
  have hdone : fraction? rest = some ([], rest) ∧ exponent? rest = some ([], rest) := by
    cases rest with
    | nil => exact ⟨rfl, rfl⟩
    | cons c more => rcases hrest c rfl with rfl | rfl | rfl <;> exact ⟨rfl, rfl⟩
  obtain ⟨c, more, hcs, hc⟩ := exists_digit_toDigits n
  unfold number?
  split
  rename_i heq
  split at heq
  · rename_i hminus
    rw [hcs] at hminus
    exact absurd (List.cons.inj hminus).1 (ne_of_isDigit hc rfl)
  · cases heq
    simp [hdigits, hzeros, hdone]

/-! ## Values -/

/-- Fields with their names as they are written. -/
def namedFields (fields : List (String × Json)) : List (List Char × Json) :=
  fields.map fun (name, j) => (escaped name, j)

@[simp] theorem namedFields_cons (name : String) (j : Json) (fields : List (String × Json)) :
    namedFields ((name, j) :: fields) = (escaped name, j) :: namedFields fields := rfl

/-- The values that are written: texts with their escapes, and whole numbers in digits. -/
inductive Encoded : Json → Prop
  | null : Encoded .null
  | bool (b : Bool) : Encoded (.bool b)
  | number (n : Nat) : Encoded (.number (Nat.toDigits 10 n))
  | text (s : String) : Encoded (.text s)
  | array {items : List Json} (hitems : ∀ j ∈ items, Encoded j) : Encoded (.array items)
  | object {fields : List (String × Json)} (hfields : ∀ field ∈ fields, Encoded field.2) :
      Encoded (.object (namedFields fields))

/-- Whether a value is read from its characters, whatever may follow them. -/
def ReadBack (j : Json) : Prop :=
  ∀ fuel rest, 2 * j.render.length ≤ fuel → Ends rest →
    value? fuel (j.render ++ rest) = some (j, rest)

theorem skipSpace_cons {c : Char} (hc : isSpace c = false) (rest : List Char) :
    skipSpace (c :: rest) = c :: rest :=
  List.dropWhile_cons_of_neg (by simp [hc])

theorem isSpace_of_isDigit {c : Char} (hc : c.isDigit = true) : isSpace c = false := by
  have hblank : c ≠ ' ' ∧ c ≠ '\n' ∧ c ≠ '\t' ∧ c ≠ '\r' :=
    ⟨ne_of_isDigit hc rfl, ne_of_isDigit hc rfl, ne_of_isDigit hc rfl, ne_of_isDigit hc rfl⟩
  simp [isSpace, hblank]

/-- No value begins with a blank or with the end of a list. -/
theorem Encoded.exists_head {j : Json} (h : j.Encoded) :
    ∃ c more, j.render = c :: more ∧ isSpace c = false ∧ c ≠ ']' := by
  cases h with
  | null => exact ⟨_, _, rfl, rfl, by decide⟩
  | bool b => cases b <;> exact ⟨_, _, rfl, rfl, by decide⟩
  | number n =>
    obtain ⟨c, more, hcs, hc⟩ := exists_digit_toDigits n
    exact ⟨c, more, hcs, isSpace_of_isDigit hc, ne_of_isDigit hc rfl⟩
  | text s => exact ⟨_, _, rfl, rfl, by decide⟩
  | array hitems => exact ⟨_, _, rfl, rfl, by decide⟩
  | object hfields => exact ⟨_, _, rfl, rfl, by decide⟩

theorem Encoded.exists_fuel {j : Json} (h : j.Encoded) {fuel : Nat}
    (hfuel : 2 * j.render.length ≤ fuel) : ∃ less, fuel = less + 1 := by
  obtain ⟨c, more, hcs, -⟩ := h.exists_head
  rw [hcs, List.length_cons] at hfuel
  exact ⟨fuel - 1, by omega⟩

theorem exists_head_renderItems {item : Json} (h : item.Encoded) (items : List Json) :
    ∃ c more, renderItems (item :: items) = c :: more ∧ isSpace c = false ∧ c ≠ ']' := by
  obtain ⟨c, more, hcs, hspace, hclose⟩ := h.exists_head
  cases items with
  | nil => exact ⟨c, more, hcs, hspace, hclose⟩
  | cons next items =>
    refine ⟨c, more ++ ',' :: renderItems (next :: items), ?_, hspace, hclose⟩
    simp [renderItems, hcs]

theorem value?_digit {c : Char} (hc : c.isDigit = true) (fuel : Nat) (cs : List Char) :
    value? (fuel + 1) (c :: cs) =
      (number? (c :: cs)).map fun (literal, rest) => (.number literal, rest) := by
  have hne (d : Char) (hd : d.isDigit = false) : c ≠ d := ne_of_isDigit hc hd
  rw [value?, skipSpace_cons (isSpace_of_isDigit hc)]
  split <;> rename_i heq
  · cases heq
  on_goal 7 => rfl
  -- every other form begins with a character that is no digit
  all_goals exact absurd (List.cons.inj heq).1 (hne _ rfl)

theorem value?_quote (fuel : Nat) (cs : List Char) : value? (fuel + 1) ('"' :: cs) =
    (string? cs).map fun (literal, rest) => (.string literal, rest) := by
  rw [value?, skipSpace_cons rfl]
  rfl

theorem value?_field (fuel : Nat) (cs : List Char) : value? (fuel + 1) ('\x7b' :: '"' :: cs) =
    (fields? fuel ('"' :: cs)).map fun (fields, rest) => (.object fields, rest) := by
  rw [value?, skipSpace_cons rfl]
  rfl

theorem value?_item {c : Char} (hspace : isSpace c = false) (hclose : c ≠ ']') (fuel : Nat)
    (cs : List Char) : value? (fuel + 1) ('[' :: c :: cs) =
      (items? fuel (c :: cs)).map fun (items, rest) => (.array items, rest) := by
  rw [value?, skipSpace_cons rfl]
  simp only [skipSpace_cons hspace]
  split
  · rename_i heq
    exact absurd (List.cons.inj heq).1 hclose
  · rfl

section

variable {fuel : Nat} {cs more : List Char} {j : Json}

theorem items?_last (h : value? fuel cs = some (j, ']' :: rest)) :
    items? (fuel + 1) cs = some ([j], rest) := by
  simp only [items?, h, Option.bind_eq_bind, Option.bind_some, skipSpace_cons (c := ']') rfl]

theorem items?_cons {items : List Json} (h : value? fuel cs = some (j, ',' :: more))
    (hitems : items? fuel more = some (items, rest)) :
    items? (fuel + 1) cs = some (j :: items, rest) := by
  simp only [items?, h, hitems, Option.bind_eq_bind, Option.bind_some,
    skipSpace_cons (c := ',') rfl]

theorem fields?_last (key : String) (h : value? fuel cs = some (j, '\x7d' :: rest)) :
    fields? (fuel + 1) ('"' :: (escaped key ++ '"' :: ':' :: cs)) =
      some ([(escaped key, j)], rest) := by
  simp only [fields?, h, string?_escaped, Option.bind_eq_bind, Option.bind_some,
    skipSpace_cons (c := '"') rfl, skipSpace_cons (c := ':') rfl,
    skipSpace_cons (c := '\x7d') rfl]

theorem fields?_cons (key : String) {fields : List (List Char × Json)}
    (h : value? fuel cs = some (j, ',' :: more))
    (hfields : fields? fuel more = some (fields, rest)) :
    fields? (fuel + 1) ('"' :: (escaped key ++ '"' :: ':' :: cs)) =
      some ((escaped key, j) :: fields, rest) := by
  simp only [fields?, h, hfields, string?_escaped, Option.bind_eq_bind, Option.bind_some,
    skipSpace_cons (c := '"') rfl, skipSpace_cons (c := ':') rfl, skipSpace_cons (c := ',') rfl]

end

theorem ends_cons {c : Char} (hc : c = ',' ∨ c = ']' ∨ c = '\x7d') : Ends (c :: rest) := by
  rintro d ⟨⟩
  exact hc

theorem items?_renderItems {item : Json} {items : List Json}
    (hread : ∀ j ∈ item :: items, j.ReadBack) {fuel : Nat}
    (hfuel : 2 * (renderItems (item :: items)).length ≤ fuel) :
    items? (fuel + 1) (renderItems (item :: items) ++ ']' :: rest) = some (item :: items, rest) := by
  induction items generalizing item fuel with
  | nil =>
    exact items?_last (hread item List.mem_cons_self fuel _ hfuel (ends_cons (by simp)))
  | cons next items ih =>
    have hchars : renderItems (item :: next :: items) ++ ']' :: rest =
        item.render ++ ',' :: (renderItems (next :: items) ++ ']' :: rest) := by
      simp [renderItems]
    have hlength : (renderItems (item :: next :: items)).length =
        item.render.length + (renderItems (next :: items)).length + 1 := by
      simp [renderItems]
      omega
    obtain ⟨fuel, rfl⟩ : ∃ more, fuel = more + 1 := ⟨fuel - 1, by omega⟩
    rw [hchars]
    apply items?_cons (hread item List.mem_cons_self _ _ (by omega) (ends_cons (by simp)))
    exact ih (fun j hj => hread j (List.mem_cons_of_mem _ hj)) (by omega)

theorem fields?_renderFields {name : String} {j : Json} {fields : List (String × Json)}
    (hread : ∀ field ∈ (name, j) :: fields, field.2.ReadBack) {fuel : Nat}
    (hfuel : 2 * (renderFields (namedFields ((name, j) :: fields))).length ≤ fuel) :
    fields? (fuel + 1) (renderFields (namedFields ((name, j) :: fields)) ++ '\x7d' :: rest) =
      some (namedFields ((name, j) :: fields), rest) := by
  have hj : j.ReadBack := hread (name, j) List.mem_cons_self
  induction fields generalizing name j fuel with
  | nil =>
    have hchars : renderFields (namedFields [(name, j)]) ++ '\x7d' :: rest =
        '"' :: (escaped name ++ '"' :: ':' :: (j.render ++ '\x7d' :: rest)) := by
      simp [namedFields, renderFields, quoted]
    have hlength : j.render.length ≤ (renderFields (namedFields [(name, j)])).length := by
      simp [namedFields, renderFields]
      omega
    rw [hchars]
    exact fields?_last name (hj fuel _ (by omega) (ends_cons (by simp)))
  | cons next fields ih =>
    obtain ⟨nextName, next⟩ := next
    have hchars : renderFields (namedFields ((name, j) :: (nextName, next) :: fields)) ++
        '\x7d' :: rest = '"' :: (escaped name ++ '"' :: ':' :: (j.render ++
          ',' :: (renderFields (namedFields ((nextName, next) :: fields)) ++ '\x7d' :: rest))) := by
      simp [renderFields, quoted]
    have hlength : j.render.length +
        (renderFields (namedFields ((nextName, next) :: fields))).length + 1 ≤
          (renderFields (namedFields ((name, j) :: (nextName, next) :: fields))).length := by
      simp [renderFields]
      omega
    obtain ⟨fuel, rfl⟩ : ∃ more, fuel = more + 1 := ⟨fuel - 1, by omega⟩
    rw [hchars]
    apply fields?_cons name (hj _ _ (by omega) (ends_cons (by simp)))
    apply ih (fun field hfield => hread field (List.mem_cons_of_mem _ hfield)) (by omega)
    exact hread (nextName, next) (List.mem_cons_of_mem _ List.mem_cons_self)

theorem value?_text (s : String) (fuel : Nat) :
    value? (fuel + 1) ((Json.text s).render ++ rest) = some (.text s, rest) := by
  have hchars : (Json.text s).render ++ rest = '"' :: (escaped s ++ '"' :: rest) := by
    simp [Json.text, render, quoted]
  rw [hchars, value?_quote, string?_escaped]
  rfl

theorem value?_number (n : Nat) (fuel : Nat) (hrest : Ends rest) :
    value? (fuel + 1) ((Json.number (Nat.toDigits 10 n)).render ++ rest) =
      some (.number (Nat.toDigits 10 n), rest) := by
  obtain ⟨c, more, hcs, hc⟩ := exists_digit_toDigits n
  have hread := number?_toDigits n hrest
  rw [hcs] at hread
  rw [render, hcs, List.cons_append, value?_digit hc, ← List.cons_append, hread]
  rfl

theorem value?_array {items : List Json} (hitems : ∀ j ∈ items, j.Encoded)
    (hread : ∀ j ∈ items, j.ReadBack) {fuel : Nat}
    (hfuel : 2 * (Json.array items).render.length ≤ fuel + 1) :
    value? (fuel + 1) ((Json.array items).render ++ rest) = some (.array items, rest) := by
  have hchars : (Json.array items).render ++ rest = '[' :: (renderItems items ++ ']' :: rest) := by
    simp [render]
  rw [hchars]
  cases items with
  | nil => rfl
  | cons item items =>
    have hlength : (Json.array (item :: items)).render.length =
        (renderItems (item :: items)).length + 2 := by
      simp [render]
    obtain ⟨less, rfl⟩ : ∃ less, fuel = less + 1 := ⟨fuel - 1, by omega⟩
    have hlist : items? (less + 1) (renderItems (item :: items) ++ ']' :: rest) =
        some (item :: items, rest) := items?_renderItems hread (by omega)
    obtain ⟨c, more, hcs, hspace, hclose⟩ :=
      exists_head_renderItems (hitems item List.mem_cons_self) items
    rw [hcs, List.cons_append] at hlist ⊢
    rw [value?_item hspace hclose, hlist]
    rfl

theorem value?_object {fields : List (String × Json)}
    (hread : ∀ field ∈ fields, field.2.ReadBack) {fuel : Nat}
    (hfuel : 2 * (Json.object (namedFields fields)).render.length ≤ fuel + 1) :
    value? (fuel + 1) ((Json.object (namedFields fields)).render ++ rest) =
      some (.object (namedFields fields), rest) := by
  have hchars : (Json.object (namedFields fields)).render ++ rest =
      '\x7b' :: (renderFields (namedFields fields) ++ '\x7d' :: rest) := by
    simp [render]
  rw [hchars]
  cases fields with
  | nil => rfl
  | cons field fields =>
    obtain ⟨name, j⟩ := field
    have hlength : (Json.object (namedFields ((name, j) :: fields))).render.length =
        (renderFields (namedFields ((name, j) :: fields))).length + 2 := by
      simp [render]
    obtain ⟨less, rfl⟩ : ∃ less, fuel = less + 1 := ⟨fuel - 1, by omega⟩
    have hlist : fields? (less + 1)
        (renderFields (namedFields ((name, j) :: fields)) ++ '\x7d' :: rest) =
          some (namedFields ((name, j) :: fields), rest) := fields?_renderFields hread (by omega)
    obtain ⟨more, hcs⟩ : ∃ more, renderFields (namedFields ((name, j) :: fields)) = '"' :: more := by
      cases fields <;> exact ⟨_, rfl⟩
    rw [hcs, List.cons_append] at hlist ⊢
    rw [value?_field, hlist]
    rfl

/-- A value that is written is read up to its last character. -/
theorem Encoded.readBack {j : Json} (h : j.Encoded) : j.ReadBack := by
  intro fuel rest hfuel hrest
  obtain ⟨fuel, rfl⟩ := h.exists_fuel hfuel
  induction h generalizing fuel rest with
  | null => rfl
  | bool b => cases b <;> rfl
  | number n => exact value?_number n fuel hrest
  | text s => exact value?_text s fuel
  | array hitems ih =>
    apply value?_array hitems _ hfuel
    intro j hj fuel rest hfuel hrest
    obtain ⟨fuel, rfl⟩ := (hitems j hj).exists_fuel hfuel
    exact ih j hj rest hrest fuel hfuel
  | object hfields ih =>
    apply value?_object _ hfuel
    intro field hfield fuel rest hfuel hrest
    obtain ⟨fuel, rfl⟩ := (hfields field hfield).exists_fuel hfuel
    exact ih field hfield rest hrest fuel hfuel

/-- The law of texts of JSON: what is written is read back. -/
theorem ofText?_toText {j : Json} (h : j.Encoded) : ofText? j.toText = some j := by
  have hread := h.readBack (2 * j.render.length + 2) [] (by omega) nofun
  rw [List.append_nil] at hread
  unfold ofText? toText parse?
  rw [String.toList_ofList, hread]
  rfl

end Formulary.Json
