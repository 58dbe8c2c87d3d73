-- Search by bytes finds characters. The first byte of a character is never one of those that carry
-- a character on, so the bytes of one text stand among the bytes of another only where its
-- characters do, and the first hit in bytes is the first place in characters.
import Formulary.Text.Slice
import Mathlib.Data.List.Basic

namespace Formulary.Text

/-! ## Places -/

variable {α : Type}

/-- The list `part` stands in `whole` at this place. -/
def StandsAt (part whole : List α) (place : Nat) : Prop :=
  ∃ before after, whole = before ++ (part ++ after) ∧ before.length = place

variable {part whole : List α} {place start : Nat}

theorem StandsAt.le_length (h : StandsAt part whole place) :
    place + part.length ≤ whole.length := by
  obtain ⟨before, after, rfl, rfl⟩ := h
  simp only [List.length_append]
  omega

theorem standsAt_iff_drop :
    StandsAt part whole place ↔ place ≤ whole.length ∧ part <+: whole.drop place := by
  constructor
  · rintro ⟨before, after, rfl, rfl⟩
    refine ⟨by simp, ?_⟩
    rw [List.drop_left]
    exact List.prefix_append part after
  · rintro ⟨hplace, after, hafter⟩
    exact ⟨whole.take place, after, by rw [hafter, List.take_append_drop],
      List.length_take_of_le hplace⟩

theorem standsAt_drop_iff (h : start ≤ whole.length) :
    StandsAt part (whole.drop start) place ↔ StandsAt part whole (start + place) := by
  rw [standsAt_iff_drop, standsAt_iff_drop, List.length_drop, List.drop_drop]
  exact and_congr_left' (by omega)

theorem standsAt_zero_iff [BEq α] [LawfulBEq α] :
    StandsAt part whole 0 ↔ part.isPrefixOf whole = true := by
  rw [standsAt_iff_drop, List.isPrefixOf_iff_prefix]
  exact and_iff_right (Nat.zero_le _)

/-- A text stands where the slice of its length is the text. -/
theorem standsAt_iff_slice {needle cs : List Char} : StandsAt needle cs place ↔
    place + needle.length ≤ cs.length ∧ slice cs place needle.length = needle := by
  constructor
  · intro h
    refine ⟨h.le_length, ?_⟩
    exact (List.prefix_iff_eq_take.mp (standsAt_iff_drop.mp h).2).symm
  · rintro ⟨hend, hslice⟩
    exact standsAt_iff_drop.mpr ⟨by omega, List.prefix_iff_eq_take.mpr hslice.symm⟩

/-! ## The first place -/

/-- What a search from the place `start` on gives. -/
def FoundFrom (part whole : List α) (start : Nat) : Option Nat → Prop
  | some place => start ≤ place ∧ StandsAt part whole place ∧
      ∀ earlier, start ≤ earlier → earlier < place → ¬ StandsAt part whole earlier
  | none => ∀ place, start ≤ place → ¬ StandsAt part whole place

variable {result : Option Nat}

/-- A search in the rest of a list is a search from the place where the rest begins. -/
theorem FoundFrom.of_drop (h : start ≤ whole.length)
    (hfound : FoundFrom part (whole.drop start) 0 result) :
    FoundFrom part whole start (result.map (start + ·)) := by
  have hback : ∀ place, start ≤ place → StandsAt part whole place →
      StandsAt part (whole.drop start) (place - start) := by
    intro place hplace hstands
    rwa [standsAt_drop_iff h, Nat.add_sub_cancel' hplace]
  cases result with
  | none => exact fun place hplace hstands => hfound _ (Nat.zero_le _) (hback place hplace hstands)
  | some place =>
    obtain ⟨-, hstands, hfirst⟩ := hfound
    refine ⟨Nat.le_add_right start place, (standsAt_drop_iff h).mp hstands, ?_⟩
    intro earlier hearlier hlt hthere
    change earlier < start + place at hlt
    exact hfirst _ (Nat.zero_le _) (by omega) (hback earlier hearlier hthere)

/-- A search goes on behind a place where the list does not stand. -/
theorem FoundFrom.of_succ (h : ¬ StandsAt part whole start)
    (hfound : FoundFrom part whole (start + 1) result) : FoundFrom part whole start result := by
  have hbehind : ∀ place, start ≤ place → StandsAt part whole place → start + 1 ≤ place := by
    intro place hplace hstands
    rcases Nat.eq_or_lt_of_le hplace with rfl | hlt
    · exact absurd hstands h
    · exact hlt
  cases result with
  | none => exact fun place hplace hstands => hfound _ (hbehind place hplace hstands) hstands
  | some place =>
    obtain ⟨hle, hstands, hfirst⟩ := hfound
    exact ⟨by omega, hstands, fun earlier hearlier hlt hthere =>
      hfirst _ (hbehind earlier hearlier hthere) hlt hthere⟩

variable [BEq α] [LawfulBEq α]

omit [LawfulBEq α] in
theorem findAt?_eq_map (part whole : List α) (place : Nat) :
    findAt? part place whole = (findAt? part 0 whole).map (place + ·) := by
  induction whole generalizing place with
  | nil =>
    unfold findAt?
    split <;> rfl
  | cons x xs ih =>
    unfold findAt?
    split
    · rfl
    · rw [ih (place + 1), ih (0 + 1), Option.map_map]
      simp only [Function.comp_def, Nat.zero_add, Nat.add_assoc]

theorem foundFrom_findAt? (part whole : List α) :
    FoundFrom part whole 0 (findAt? part 0 whole) := by
  induction whole with
  | nil =>
    unfold findAt?
    cases part with
    | nil => exact ⟨Nat.le_refl 0, ⟨[], [], rfl, rfl⟩, nofun⟩
    | cons x part => exact fun place _ hstands => absurd hstands.le_length (by simp)
  | cons x xs ih =>
    unfold findAt?
    by_cases hprefix : part.isPrefixOf (x :: xs) = true
    · rw [if_pos hprefix]
      exact ⟨Nat.le_refl 0, standsAt_zero_iff.mpr hprefix, nofun⟩
    · rw [if_neg hprefix, findAt?_eq_map]
      have hrest : FoundFrom part ((x :: xs).drop 1) 0 (findAt? part 0 xs) := ih
      exact (hrest.of_drop (by simp)).of_succ (mt standsAt_zero_iff.mp hprefix)

/-- The search in the rest from a place on, with the places of the whole list. -/
theorem foundFrom_findAt?_drop (part : List α) (h : start ≤ whole.length) :
    FoundFrom part whole start (findAt? part start (whole.drop start)) := by
  rw [findAt?_eq_map]
  exact (foundFrom_findAt? part (whole.drop start)).of_drop h

/-! ## Bytes and characters -/

variable {needle cs : List Char}

theorem utf8Bytes_nil : utf8Bytes [] = [] := rfl

theorem utf8Bytes_cons (c : Char) (cs : List Char) :
    utf8Bytes (c :: cs) = String.utf8EncodeChar c ++ utf8Bytes cs := List.flatMap_cons

theorem utf8Bytes_append (cs cs' : List Char) :
    utf8Bytes (cs ++ cs') = utf8Bytes cs ++ utf8Bytes cs' := List.flatMap_append

theorem utf8Bytes_ne_nil (hne : needle ≠ []) : utf8Bytes needle ≠ [] := by
  cases needle with
  | nil => exact absurd rfl hne
  | cons c needle =>
    rw [utf8Bytes_cons]
    exact List.append_ne_nil_of_left_ne_nil String.utf8EncodeChar_ne_nil _

/-- A character is known by its bytes, whatever comes behind them. -/
theorem encodeChar_append_inj {c d : Char} {xs ys : List UInt8}
    (h : String.utf8EncodeChar c ++ xs = String.utf8EncodeChar d ++ ys) : c = d ∧ xs = ys := by
  have hdecode : ∀ (e : Char) (zs : List UInt8),
      (String.utf8EncodeChar e ++ zs).toByteArray.utf8DecodeChar? 0 = some e := by
    intro e zs
    rw [List.toByteArray_append]
    exact ByteArray.utf8DecodeChar?_utf8EncodeChar_append
  have hchar := hdecode c xs
  rw [h, hdecode d ys] at hchar
  cases hchar
  exact ⟨rfl, List.append_cancel_left h⟩

/-- A text in front of the bytes of another is in front of its characters. -/
theorem exists_rest_of_bytes {after : List UInt8}
    (h : utf8Bytes cs = utf8Bytes needle ++ after) : ∃ rest, cs = needle ++ rest := by
  induction needle generalizing cs with
  | nil => exact ⟨cs, rfl⟩
  | cons c needle ih =>
    rw [utf8Bytes_cons, List.append_assoc] at h
    cases cs with
    | nil => exact absurd (List.append_eq_nil_iff.mp h.symm).1 String.utf8EncodeChar_ne_nil
    | cons d cs =>
      rw [utf8Bytes_cons] at h
      obtain ⟨rfl, hrest⟩ := encodeChar_append_inj h
      obtain ⟨rest, rfl⟩ := ih hrest
      exact ⟨rest, rfl⟩

/-- A character does not begin within another one. -/
theorem exists_rest_of_first_byte {c : Char} {bytes before after : List UInt8} {byte : UInt8}
    (hfirst : byte.IsUTF8FirstByte) (hne : before ≠ [])
    (h : String.utf8EncodeChar c ++ bytes = before ++ byte :: after) :
    ∃ rest, before = String.utf8EncodeChar c ++ rest ∧ bytes = rest ++ byte :: after := by
  rcases List.append_eq_append_iff.mp h with ⟨rest, hbefore, hbytes⟩ | ⟨within, hchar, hbytes⟩
  · exact ⟨rest, hbefore, hbytes⟩
  · cases within with
    | nil => exact ⟨[], by rw [hchar, List.append_nil, List.append_nil], hbytes.symm⟩
    | cons first within =>
      cases hbytes
      have hlength : before.length < (String.utf8EncodeChar c).length := by
        rw [hchar]
        simp
      have hbyte : (String.utf8EncodeChar c)[before.length] = byte := by
        simp [hchar]
      rw [← hbyte, UInt8.isUTF8FirstByte_getElem_utf8EncodeChar] at hfirst
      exact absurd (List.length_eq_zero_iff.mp hfirst) hne

/-- The first byte of a text is the first one of a character. -/
theorem exists_first_byte (hne : needle ≠ []) :
    ∃ byte rest, byte.IsUTF8FirstByte ∧ utf8Bytes needle = byte :: rest := by
  cases needle with
  | nil => exact absurd rfl hne
  | cons c needle =>
    rw [utf8Bytes_cons]
    cases hchar : String.utf8EncodeChar c with
    | nil => exact absurd hchar String.utf8EncodeChar_ne_nil
    | cons byte rest =>
      have hfirst := @UInt8.isUTF8FirstByte_getElem_zero_utf8EncodeChar c
      simp only [hchar, List.getElem_cons_zero] at hfirst
      exact ⟨byte, rest ++ utf8Bytes needle, hfirst, rfl⟩

/-- The bytes of a text stand among those of another only behind whole characters. -/
theorem exists_before_of_bytes {before after : List UInt8} (hne : needle ≠ [])
    (h : utf8Bytes cs = before ++ (utf8Bytes needle ++ after)) :
    ∃ front rest, utf8Bytes front = before ∧ cs = front ++ (needle ++ rest) := by
  induction cs generalizing before with
  | nil =>
    have hnone := (List.append_eq_nil_iff.mp (List.append_eq_nil_iff.mp h.symm).2).1
    exact absurd hnone (utf8Bytes_ne_nil hne)
  | cons c cs ih =>
    by_cases hbefore : before = []
    · subst hbefore
      obtain ⟨rest, hrest⟩ := exists_rest_of_bytes h
      exact ⟨[], rest, rfl, hrest⟩
    · obtain ⟨byte, bytes, hfirst, hneedle⟩ := exists_first_byte hne
      have hbegins : String.utf8EncodeChar c ++ utf8Bytes cs =
          before ++ byte :: (bytes ++ after) := by
        rw [← utf8Bytes_cons, h, hneedle]
        rfl
      obtain ⟨between, rfl, hbytes⟩ := exists_rest_of_first_byte hfirst hbefore hbegins
      rw [← List.cons_append, ← hneedle] at hbytes
      obtain ⟨front, rest, rfl, rfl⟩ := ih hbytes
      exact ⟨c :: front, rest, utf8Bytes_cons c front, rfl⟩

/-! ## Offsets -/

/-- The bytes before a place. -/
def offset (cs : List Char) (place : Nat) : Nat := (utf8Bytes (cs.take place)).length

theorem offset_cons (c : Char) (cs : List Char) (place : Nat) :
    offset (c :: cs) (place + 1) = c.utf8Size + offset cs place := by
  unfold offset
  rw [List.take_succ_cons, utf8Bytes_cons, List.length_append, String.length_utf8EncodeChar]

theorem offset_le_length (cs : List Char) (place : Nat) :
    offset cs place ≤ (utf8Bytes cs).length := by
  have hsplit := congrArg List.length (utf8Bytes_append (cs.take place) (cs.drop place))
  rw [List.take_append_drop, List.length_append] at hsplit
  unfold offset
  omega

theorem offset_mono (cs : List Char) {place later : Nat} (h : place ≤ later) :
    offset cs place ≤ offset cs later := by
  have hle := offset_le_length (cs.take later) place
  rwa [offset, List.take_take, Nat.min_eq_left h] at hle

theorem offsetFrom?_eq (before : Nat) (cs : List Char) (place : Nat) :
    offsetFrom? before cs place =
      if place ≤ cs.length then some (before + offset cs place) else none := by
  induction cs generalizing before place with
  | nil => cases place <;> rfl
  | cons c cs ih =>
    cases place with
    | zero => rfl
    | succ place =>
      rw [offsetFrom?, ih, offset_cons, Nat.add_assoc, List.length_cons]
      simp only [Nat.add_le_add_iff_right]

/-- The characters before a place are counted back from the bytes before it. -/
theorem charsWithin_offset (seen : Nat) {cs : List Char} {place : Nat} (h : place ≤ cs.length) :
    charsWithin seen (offset cs place) cs = seen + place := by
  induction cs generalizing seen place with
  | nil =>
    cases Nat.le_zero.mp h
    rfl
  | cons c cs ih =>
    cases place with
    | zero => exact if_pos c.utf8Size_pos
    | succ place =>
      rw [offset_cons, charsWithin, if_neg (by omega), Nat.add_sub_cancel_left,
        ih (seen + 1) (Nat.le_of_succ_le_succ h)]
      omega

theorem offset_lt {cs : List Char} {place later : Nat} (h : place < later)
    (hlater : later ≤ cs.length) : offset cs place < offset cs later := by
  refine Nat.lt_of_le_of_ne (offset_mono cs (Nat.le_of_lt h)) fun hsame => ?_
  have hplace := charsWithin_offset 0 (Nat.le_trans (Nat.le_of_lt h) hlater)
  rw [hsame, charsWithin_offset 0 hlater] at hplace
  omega

/-! ## The search -/

theorem standsAt_bytes_iff (hne : needle ≠ []) {hit : Nat} :
    StandsAt (utf8Bytes needle) (utf8Bytes cs) hit ↔
      ∃ place, StandsAt needle cs place ∧ offset cs place = hit := by
  constructor
  · rintro ⟨before, after, hbytes, rfl⟩
    obtain ⟨front, rest, rfl, rfl⟩ := exists_before_of_bytes hne hbytes
    refine ⟨front.length, ⟨front, rest, rfl, rfl⟩, ?_⟩
    rw [offset, List.take_left]
  · rintro ⟨place, ⟨front, rest, rfl, rfl⟩, rfl⟩
    refine ⟨utf8Bytes front, utf8Bytes rest, ?_, ?_⟩
    · rw [utf8Bytes_append, utf8Bytes_append]
    · rw [offset, List.take_left]

/-- The first hit in bytes is the first place in characters. -/
theorem FoundFrom.of_bytes (hne : needle ≠ []) (hstart : start ≤ cs.length)
    (hfound : FoundFrom (utf8Bytes needle) (utf8Bytes cs) (offset cs start) result) :
    FoundFrom needle cs start (result.map (charsWithin 0 · cs)) := by
  have hbytes : ∀ place, StandsAt needle cs place →
      StandsAt (utf8Bytes needle) (utf8Bytes cs) (offset cs place) :=
    fun place hstands => (standsAt_bytes_iff hne).mpr ⟨place, hstands, rfl⟩
  cases result with
  | none =>
    intro place hplace hstands
    exact hfound _ (offset_mono cs hplace) (hbytes place hstands)
  | some hit =>
    obtain ⟨hle, hstands, hfirst⟩ := hfound
    obtain ⟨place, hthere, rfl⟩ := (standsAt_bytes_iff hne).mp hstands
    have hplace : place ≤ cs.length := Nat.le_trans (Nat.le_add_right _ _) hthere.le_length
    rw [Option.map_some, charsWithin_offset 0 hplace, Nat.zero_add]
    refine ⟨?_, hthere, ?_⟩
    · by_contra hbefore
      have hlt := offset_lt (Nat.lt_of_not_le hbefore) hstart
      omega
    · intro earlier hearlier hlt hearlierThere
      exact hfirst _ (offset_mono cs hearlier) (offset_lt hlt hplace) (hbytes _ hearlierThere)

theorem find?_of_le (needle : List Char) (h : start ≤ cs.length) : find? cs needle start =
    (findAt? (utf8Bytes needle) (offset cs start) ((utf8Bytes cs).drop (offset cs start))).map
      (charsWithin 0 · cs) := by
  unfold find?
  rw [offsetFrom?_eq, if_pos h, Nat.zero_add]
  exact (Option.map_eq_bind ..).symm

theorem find?_of_lt (needle : List Char) (h : cs.length < start) :
    find? cs needle start = none := by
  unfold find?
  rw [offsetFrom?_eq, if_neg (Nat.not_le.mpr h)]
  rfl

/-- Nothing at all is found at once, at the end of the text too. -/
theorem find?_nil (h : start ≤ cs.length) : find? cs [] start = some start := by
  have hfound : ∀ (hit : Nat) (bytes : List UInt8), findAt? [] hit bytes = some hit := by
    intro hit bytes
    cases bytes <;> rfl
  rw [find?_of_le [] h, utf8Bytes_nil, hfound, Option.map_some, charsWithin_offset 0 h,
    Nat.zero_add]

/-- The search finds the first place, in characters, where the text stands. -/
theorem foundFrom_find? (needle cs : List Char) (start : Nat) :
    FoundFrom needle cs start (find? cs needle start) := by
  rcases Nat.lt_or_ge cs.length start with hbeyond | hstart
  · rw [find?_of_lt needle hbeyond]
    intro place hplace hstands
    have hend := hstands.le_length
    omega
  · by_cases hne : needle = []
    · subst hne
      rw [find?_nil hstart]
      refine ⟨Nat.le_refl start, standsAt_iff_drop.mpr ⟨hstart, List.nil_prefix⟩, ?_⟩
      exact fun earlier hearlier hlt => absurd hlt (Nat.not_lt.mpr hearlier)
    · rw [find?_of_le needle hstart]
      exact (foundFrom_findAt?_drop _ (offset_le_length cs start)).of_bytes hne hstart

end Formulary.Text
