-- What a scan holds on to in every state: the text is what has been read and what is left,
-- the token under way is the latest of what has been read, and the nodes of every level stand
-- in the text one behind the other, inside the opening of the owner of their level.
import Formulary.Proofs.Tokens

namespace Formulary

open String (utf8Len)

/-! ## Pieces of a text -/

/-- The characters stand in the text at the place. -/
def PieceAt (text : List Char) (start : Nat) (chars : List Char) : Prop :=
  ∃ before after, text = before ++ (chars ++ after) ∧ start = utf8Len before

/-- The piece of text that a node keeps stands at its place. -/
abbrev Span.Stands (text : List Char) (s : Span) : Prop := PieceAt text s.start s.chars.toList

theorem Span.stop_eq (s : Span) : s.stop = s.start + utf8Len s.chars.toList := by
  rw [String.utf8Len_toList]
  rfl

theorem Span.start_le_stop (s : Span) : s.start ≤ s.stop := Nat.le_add_right _ _

/-- Of two beginnings of a text, the one with no more bytes is a beginning of the other. -/
theorem exists_append_of_utf8Len_le {a b c d : List Char} (h : a ++ b = c ++ d)
    (hle : utf8Len a ≤ utf8Len c) : ∃ m, c = a ++ m ∧ b = m ++ d := by
  rcases List.append_eq_append_iff.mp h with ⟨m, hc, hb⟩ | ⟨m, ha, hd⟩
  · exact ⟨m, hc, hb⟩
  · rw [ha, String.utf8Len_append] at hle
    have hm : m = [] := String.utf8Len_eq_zero.mp (by omega)
    subst hm
    exact ⟨[], by simpa using ha.symm, by simpa using hd.symm⟩

/-- From the start of one piece to the stop of another there is a piece. -/
theorem PieceAt.exists_between {text first last : List Char} {start stop : Nat}
    (hfirst : PieceAt text start first) (hlast : PieceAt text stop last)
    (hle : start ≤ stop + utf8Len last) :
    ∃ chars, PieceAt text start chars ∧ start + utf8Len chars = stop + utf8Len last := by
  obtain ⟨before, after, htext, rfl⟩ := hfirst
  obtain ⟨before', after', htext', rfl⟩ := hlast
  rw [htext, ← List.append_assoc before' last after'] at htext'
  obtain ⟨chars, hchars, hafter⟩ := exists_append_of_utf8Len_le htext'
    (by rw [String.utf8Len_append]; exact hle)
  refine ⟨chars, ⟨before, after', by rw [htext, hafter], rfl⟩, ?_⟩
  rw [← String.utf8Len_append, ← String.utf8Len_append, hchars]

namespace Scanner

/-! ## What has been read -/

/-- The latest characters that have been read are these, from the place on. -/
def HasRead (s : Scanner) (start : Nat) (chars : List Char) : Prop :=
  ∃ before, s.read = chars.reverse ++ before ∧ start = utf8Len before

/-- The text is what has been read and what is left, and the bytes of the former are counted. -/
structure Reads (text : List Char) (s : Scanner) : Prop where
  whole : text = s.read.reverse ++ s.rest
  index : s.index = utf8Len s.read

section

variable {text chars rest : List Char} {s : Scanner} {start : Nat} {c : Char}

theorem HasRead.snoc (h : s.HasRead start chars) (hrest : s.rest = c :: rest) :
    s.advance.HasRead start (chars ++ [c]) := by
  obtain ⟨before, hread, hstart⟩ := h
  refine ⟨before, ?_, hstart⟩
  rw [advance_of_rest hrest, hread, List.reverse_append]
  rfl

theorem Reads.advance (h : Reads text s) (hrest : s.rest = c :: rest) :
    Reads text s.advance := by
  rw [advance_of_rest hrest]
  constructor
  · rw [h.whole, hrest, List.reverse_cons, List.append_assoc]
    rfl
  · rw [h.index]
    rfl

theorem advance_nodes (s : Scanner) : s.advance.nodes = s.nodes := by
  unfold Scanner.advance
  split <;> rfl

theorem advance_frames (s : Scanner) : s.advance.frames = s.frames := by
  unfold Scanner.advance
  split <;> rfl

/-- From `s`, the scan of the text reads on to `u` on the same level. -/
structure ReadsOn (text : List Char) (s u : Scanner) : Prop where
  reads : Reads text u
  nodes : u.nodes = s.nodes
  frames : u.frames = s.frames

theorem Reads.stays (h : Reads text s) : ReadsOn text s s := ⟨h, rfl, rfl⟩

theorem Reads.readsOn (h : Reads text s) (hrest : s.rest = c :: rest) :
    ReadsOn text s s.advance := ⟨h.advance hrest, advance_nodes s, advance_frames s⟩

theorem Reads.hasRead_nil (h : Reads text s) : s.HasRead s.index [] :=
  ⟨s.read, rfl, h.index⟩

theorem Reads.stop_eq (h : Reads text s) (hread : s.HasRead start chars) :
    start + utf8Len chars = s.index := by
  obtain ⟨before, hs, rfl⟩ := hread
  rw [h.index, hs, String.utf8Len_append, String.utf8Len_reverse, Nat.add_comm]

theorem Reads.textFrom_eq (h : Reads text s) (hread : s.HasRead start chars) :
    s.textFrom start = String.ofList chars := by
  obtain ⟨before, hs, rfl⟩ := hread
  have hamid : s = amid s.read s.rest s.nodes s.frames s.mode := by
    rw [amid, ← h.index]
  rw [hamid]
  exact textFrom_amid hs

/-- What has been read stands in the text together with what comes next. -/
theorem Reads.pieceAt_append (h : Reads text s) (hread : s.HasRead start chars)
    {next after : List Char} (hrest : s.rest = next ++ after) :
    PieceAt text start (chars ++ next) := by
  obtain ⟨before, hs, rfl⟩ := hread
  refine ⟨before.reverse, after, ?_, (String.utf8Len_reverse before).symm⟩
  rw [h.whole, hs, hrest]
  simp

/-- What has been read stands in the text. -/
theorem Reads.pieceAt (h : Reads text s) (hread : s.HasRead start chars) :
    PieceAt text start chars :=
  List.append_nil chars ▸ h.pieceAt_append hread (List.nil_append s.rest).symm

/-- What stands in the text up to here or before has been read. -/
theorem Reads.exists_hasRead (h : Reads text s) (hpiece : PieceAt text start chars)
    (hle : start ≤ s.index) : ∃ later, s.HasRead start later := by
  obtain ⟨before, after, htext, rfl⟩ := hpiece
  rw [h.whole] at htext
  obtain ⟨later, hlater, -⟩ := exists_append_of_utf8Len_le htext.symm
    (by rw [String.utf8Len_reverse, ← h.index]; exact hle)
  refine ⟨later, before.reverse, ?_, (String.utf8Len_reverse before).symm⟩
  rw [← List.reverse_append, ← hlater, List.reverse_reverse]

/-- A piece of the text that has been read is found again. -/
theorem Reads.textBetween_eq (h : Reads text s) (hpiece : PieceAt text start chars)
    (hle : start + utf8Len chars ≤ s.index) :
    s.textBetween start (start + utf8Len chars) = String.ofList chars := by
  obtain ⟨before, after, htext, rfl⟩ := hpiece
  rw [h.whole, ← List.append_assoc] at htext
  obtain ⟨later, hlater, -⟩ := exists_append_of_utf8Len_le htext.symm
    (by rw [String.utf8Len_reverse, ← h.index, String.utf8Len_append]; exact hle)
  have hread : s.read = later.reverse ++ (chars.reverse ++ before.reverse) := by
    rw [← List.reverse_append, ← List.reverse_append, ← hlater, List.reverse_reverse]
  have hamid : s = amid s.read s.rest s.nodes s.frames s.mode := by
    rw [amid, ← h.index]
  rw [hamid, ← String.utf8Len_reverse before]
  exact textBetween_amid later hread

end

end Scanner

/-! ## Nodes in the order of the text -/

/-- The nodes of a level, latest first, stand in the text one behind the other between two
places. -/
def Spread (text : List Char) (low : Nat) : List Node → Nat → Prop
  | [], high => low ≤ high
  | node :: nodes, high =>
    node.span.Stands text ∧ node.span.stop ≤ high ∧ Spread text low nodes node.span.start

namespace Spread

variable {text : List Char} {low high high' : Nat} {nodes : List Node}

theorem mono (h : Spread text low nodes high) (hle : high ≤ high') :
    Spread text low nodes high' := by
  cases nodes with
  | nil => exact Nat.le_trans h hle
  | cons node nodes => exact ⟨h.1, Nat.le_trans h.2.1 hle, h.2.2⟩

theorem low_le_high (h : Spread text low nodes high) : low ≤ high := by
  induction nodes generalizing high with
  | nil => exact h
  | cons node nodes ih => exact (ih h.2.2).trans (node.span.start_le_stop.trans h.2.1)

/-- Each node stands in the text between the two places. -/
theorem of_mem (h : Spread text low nodes high) {node : Node} (hnode : node ∈ nodes) :
    node.span.Stands text ∧ low ≤ node.span.start ∧ node.span.stop ≤ high := by
  induction nodes generalizing high with
  | nil => cases hnode
  | cons last nodes ih =>
    cases hnode with
    | head => exact ⟨h.1, h.2.2.low_le_high, h.2.1⟩
    | tail _ hnode =>
      obtain ⟨hstands, hlow, hstop⟩ := ih h.2.2 hnode
      exact ⟨hstands, hlow, hstop.trans (last.span.start_le_stop.trans h.2.1)⟩

/-- In the order of the text, each node stops before the next ones start. -/
theorem pairwise_reverse (h : Spread text low nodes high) :
    nodes.reverse.Pairwise fun a b => a.span.stop ≤ b.span.start := by
  rw [List.pairwise_reverse]
  induction nodes generalizing high with
  | nil => exact .nil
  | cons node nodes ih => exact .cons (fun other hother => (h.2.2.of_mem hother).2.2) (ih h.2.2)

end Spread

/-! ## Levels around levels -/

/-- What opens the level inside an owner. -/
def Owner.opening : Owner → List Char
  | .group => ['(']
  | .call method => '$' :: (method.toList ++ ['('])

/-- The place where the current level begins: behind the opening of the innermost owner. -/
def insideOf : List Frame → Nat
  | [] => 0
  | f :: _ => f.origin + utf8Len f.owner.opening

/-- Each owner is opened in the text at its place, and the nodes before it stand between the
opening around it and that place. -/
def Nested (text : List Char) : List Frame → Prop
  | [] => True
  | f :: frames => PieceAt text f.origin f.owner.opening ∧
      Spread text (insideOf frames) f.before f.origin ∧ Nested text frames

/-! ## The invariant -/

/-- The token under way, if there is one: the place where it begins, and what of it has been
read. -/
def Mode.token? : Mode → Option (Nat × List Char)
  | .number scan =>
    some (scan.origin, ((scan.sign.map Operator.symbol).getD "").toList ++ scan.literal.reverse)
  | .operator origin symbol => some (origin, symbol.toList)
  | .text origin quote content => some (origin, quote :: content.toList)
  | .reference origin key => some (origin, '\x7b' :: key.toList)
  | .callName origin name => some (origin, '$' :: name.toList)
  | .base | .groupClose | .callClose _ | .complete => none

/-- The place that the nodes of the current level are before. That is where the token under way
begins, and behind a parenthesis that an owner holds already. -/
def Scanner.front (s : Scanner) : Nat :=
  match s.mode with
  | .groupClose | .callClose _ => s.index + utf8Len (s.rest.take 1)
  | mode => (mode.token?.map Prod.fst).getD s.index

namespace Scanner

/-- Between tokens, the nodes end where the scan is. -/
theorem front_of_base {s : Scanner} (hm : s.mode = .base) : s.front = s.index := by
  rw [Scanner.front, hm]
  rfl

/-- Inside a token, the nodes end where the token begins. -/
theorem front_of_token {s : Scanner} {start : Nat} {chars : List Char}
    (hm : s.mode.token? = some (start, chars)) : s.front = start := by
  unfold Scanner.front
  split
  · rename_i hmode
    rw [hmode] at hm
    cases hm
  · rename_i hmode
    rw [hmode] at hm
    cases hm
  · rw [hm]
    rfl

/-- The invariant of the scan of a text. -/
structure Tidy (text : List Char) (s : Scanner) : Prop where
  reads : Reads text s
  token : ∀ start chars, s.mode.token? = some (start, chars) → s.HasRead start chars
  level : Spread text (insideOf s.frames) s.nodes s.front
  nested : Nested text s.frames

theorem tidy_start (text : List Char) : Tidy text (start text) where
  reads := ⟨rfl, rfl⟩
  token := by rintro _ _ ⟨⟩
  level := Nat.le_refl 0
  nested := trivial

/-- The text of an owner whose level ends: it goes on behind the next character. -/
theorem Reads.ownerSpan {text opening : List Char} {s : Scanner} {origin : Nat}
    (h : Reads text s) (hopen : PieceAt text origin opening) (hle : origin ≤ s.index) :
    (s.ownerSpan origin).Stands text ∧
      (s.ownerSpan origin).stop = s.index + utf8Len (s.rest.take 1) := by
  obtain ⟨inner, hinner⟩ := h.exists_hasRead hopen hle
  have hchars : (s.ownerSpan origin).chars.toList = inner ++ s.rest.take 1 := by
    change (s.textFrom origin ++ String.ofList (s.rest.take 1)).toList = _
    rw [h.textFrom_eq hinner]
    simp
  constructor
  · rw [Span.Stands, hchars]
    exact h.pieceAt_append hinner (List.take_append_drop 1 s.rest).symm
  · rw [Span.stop_eq, hchars, String.utf8Len_append, ← h.stop_eq hinner, Nat.add_assoc]
    rfl

namespace Tidy

variable {text chars : List Char} {s t u : Scanner} {mode : Mode} {c : Char} {rest : List Char}

/-- The scan goes on with a token that begins where the nodes end. -/
theorem under (h : Tidy text s) (hu : ReadsOn text s u)
    (hmode : mode.token? = some (s.front, chars)) (hread : u.HasRead s.front chars) :
    Tidy text { u with mode } where
  reads := ⟨hu.reads.whole, hu.reads.index⟩
  token := by
    intro start chars' htoken
    rw [hmode] at htoken
    cases htoken
    exact hread
  level := by
    have hfront : Scanner.front { u with mode } = s.front := by
      unfold Scanner.front
      dsimp only
      split
      · cases hmode
      · cases hmode
      · rw [hmode]
        rfl
    rw [hfront, hu.frames, hu.nodes]
    exact h.level
  nested := hu.frames ▸ h.nested

/-- A token that begins where the nodes end becomes a node. -/
theorem pushed (h : Tidy text s) (hu : ReadsOn text s u) {node : Node}
    (hstart : node.span.start = s.front) (hread : u.HasRead s.front node.span.chars.toList) :
    Tidy text (u.push node) where
  reads := ⟨hu.reads.whole, hu.reads.index⟩
  token := by rintro _ _ ⟨⟩
  level := by
    refine ⟨?_, ?_, ?_⟩
    · rw [← hstart] at hread
      exact hu.reads.pieceAt hread
    · rw [Span.stop_eq, hstart, hu.reads.stop_eq hread]
      rfl
    · rw [hstart]
      exact hu.frames ▸ hu.nodes ▸ h.level
  nested := hu.frames ▸ h.nested

/-- A token that begins where the nodes end opens the level inside an owner. -/
theorem entered (h : Tidy text s) (hu : ReadsOn text s u) {owner : Owner}
    (hread : u.HasRead s.front owner.opening) : Tidy text (u.enter owner s.front) where
  reads := ⟨hu.reads.whole, hu.reads.index⟩
  token := by rintro _ _ ⟨⟩
  level := (hu.reads.stop_eq hread).le
  nested := ⟨hu.reads.pieceAt hread, hu.frames ▸ hu.nodes ▸ h.level, hu.frames ▸ h.nested⟩

/-- When a level ends, its owner is inside the text, up to the next character. -/
theorem ownerSpan_of_frames (h : Tidy text s) (hm : s.mode = .base) {owner : Owner}
    {origin : Nat} {before : List Node} {frames : List Frame}
    (hf : s.frames = ⟨owner, origin, before⟩ :: frames) :
    (s.ownerSpan origin).Stands text ∧
      (s.ownerSpan origin).stop = s.index + utf8Len (s.rest.take 1) := by
  obtain ⟨hopen, -, -⟩ : Nested text (_ :: frames) := hf ▸ h.nested
  have hlevel := h.level.low_le_high
  rw [hf, front_of_base hm] at hlevel
  exact h.reads.ownerSpan hopen ((Nat.le_add_right _ _).trans hlevel)

/-- An owner is completed behind the nodes before it. -/
theorem left (h : Tidy text s) (hm : s.mode = .base) {owner : Owner} {origin : Nat}
    {before : List Node} {frames : List Frame} (hf : s.frames = ⟨owner, origin, before⟩ :: frames)
    {node : Node} (hspan : node.span = s.ownerSpan origin)
    (hmode : mode = .groupClose ∨ ∃ method, mode = .callClose method) :
    Tidy text { s with nodes := node :: before, frames, mode } := by
  obtain ⟨hstands, hstop⟩ := h.ownerSpan_of_frames hm hf
  obtain ⟨-, hbefore, hframes⟩ : Nested text (_ :: frames) := hf ▸ h.nested
  -- The closing parenthesis is still to be read, but the owner holds it already.
  have hfront : Scanner.front { s with nodes := node :: before, frames, mode } =
      s.index + utf8Len (s.rest.take 1) := by
    rcases hmode with rfl | ⟨method, rfl⟩ <;> rfl
  constructor
  · exact ⟨h.reads.whole, h.reads.index⟩
  · rcases hmode with rfl | ⟨method, rfl⟩ <;> rintro _ _ ⟨⟩
  · rw [hfront]
    refine ⟨?_, ?_, ?_⟩
    · rw [hspan]
      exact hstands
    · rw [hspan, hstop]
    · rw [hspan]
      exact hbefore
  · exact hframes

theorem of_leaves (h : Tidy text s) (hm : s.mode = .base) (hleaves : Leaves s t) :
    Tidy text t := by
  cases hleaves with
  | group hf => exact h.left hm hf rfl (.inl rfl)
  | call hf _ => exact h.left hm hf rfl (.inr ⟨_, rfl⟩)

/-- A token begins with the next character. -/
theorem begun (h : Tidy text s) (hm : s.mode = .base) (hrest : s.rest = c :: rest)
    (hmode : mode.token? = some (s.index, [c])) : Tidy text { s.advance with mode } := by
  have hread := h.reads.hasRead_nil.snoc hrest
  rw [← front_of_base hm] at hmode hread
  exact h.under (h.reads.readsOn hrest) hmode hread

/-- A token begins before the next character. -/
theorem awaited (h : Tidy text s) (hm : s.mode = .base)
    (hmode : mode.token? = some (s.index, [])) : Tidy text { s with mode } := by
  have hread := h.reads.hasRead_nil
  rw [← front_of_base hm] at hmode hread
  exact h.under h.reads.stays hmode hread

/-- The token under way goes on with the next character. -/
theorem continued (h : Tidy text s) {start : Nat} (hm : s.mode.token? = some (start, chars))
    (hrest : s.rest = c :: rest) (hmode : mode.token? = some (start, chars ++ [c])) :
    Tidy text { s.advance with mode } := by
  have hread := (h.token start chars hm).snoc hrest
  rw [← front_of_token hm] at hmode hread
  exact h.under (h.reads.readsOn hrest) hmode hread

theorem of_begins (h : Tidy text s) (hm : s.mode = .base) (hrest : s.rest = c :: rest)
    (hbegins : Begins s c t) : Tidy text t := by
  have hfront := front_of_base hm
  have hnext := h.reads.readsOn hrest
  have hread := h.reads.hasRead_nil.snoc hrest
  cases hbegins with
  | space _ =>
    have hmode : s.advance.mode = .base := by rw [advance_of_rest hrest, hm]
    constructor
    · exact hnext.reads
    · rw [hmode]
      rintro _ _ ⟨⟩
    · rw [front_of_base hmode, hnext.frames, hnext.nodes]
      refine h.level.mono ?_
      rw [hfront, advance_of_rest hrest]
      exact Nat.le_add_right _ _
    · exact hnext.frames ▸ h.nested
  | group hc _ =>
    subst hc
    rw [← hfront] at hread ⊢
    exact h.entered hnext hread
  | leave _ _ _ _ hl => exact h.of_leaves hm (leave_eq_ok_iff.mp hl)
  | number _ _ => exact h.awaited hm rfl
  | operator _ => exact h.awaited hm rfl
  | text _ _ => exact h.begun hm hrest rfl
  | reference hc _ =>
    subst hc
    exact h.begun hm hrest rfl
  | callName hc _ =>
    subst hc
    exact h.begun hm hrest rfl
  | comma hc _ _ =>
    subst hc
    have hpush : (s.push (.comma s.index)).advance = s.advance.push (.comma s.index) := by
      rw [advance_of_rest hrest, advance_of_rest (s := s.push _) hrest]
      rfl
    rw [hpush, ← hfront]
    rw [← hfront] at hread
    refine h.pushed hnext rfl ?_
    simpa [Node.span, Span.comma] using hread

theorem of_scanEnd (h : Tidy text s) (hm : s.mode = .base) (hend : s.scanEnd = .ok t) :
    Tidy text t := by
  unfold scanEnd at hend
  split at hend
  · exact h.of_leaves hm (leave_eq_ok_iff.mp hend)
  · split at hend <;> cases hend
    have hlevel := h.level
    rw [front_of_base hm] at hlevel
    exact ⟨⟨h.reads.whole, h.reads.index⟩, by rintro _ _ ⟨⟩, hlevel, h.nested⟩

theorem of_endNumber (h : Tidy text s) {scan : NumberScan} {next : Option Char}
    (hm : s.mode = .number scan) (hend : s.endNumber scan next = .ok t) : Tidy text t := by
  unfold endNumber at hend
  split at hend
  · cases hend
  · cases hx : NumberLiteral.evaluate scan.literal.reverse (scan.sign == some .subtract) with
    | error fault =>
      rw [hx] at hend
      cases hend
    | ok x =>
      rw [hx] at hend
      cases hend
      have hread := h.token _ _ (by rw [hm]; rfl)
      have hfront : s.front = scan.origin := front_of_token (by rw [hm]; rfl)
      refine h.pushed h.reads.stays hfront.symm ?_
      rw [hfront]
      simpa [Node.span, h.reads.textFrom_eq hread] using hread

theorem of_endOperator (h : Tidy text s) {origin : Nat} {symbol : String}
    (hm : s.mode = .operator origin symbol) (hend : s.endOperator origin symbol = .ok t) :
    Tidy text t := by
  have htoken : s.mode.token? = some (origin, symbol.toList) := by rw [hm]; rfl
  have hread := h.token _ _ htoken
  have hfront := front_of_token htoken
  rw [← hfront] at hread
  unfold endOperator at hend
  split at hend
  · cases hend
  · rename_i op hop
    have hsymbol := (ofSymbol?_eq_some_iff).mp hop
    split at hend
    · cases hend
      refine h.under h.reads.stays ?_ hread
      rw [hfront, hsymbol]
      simp [Mode.token?]
    · split at hend <;> cases hend
      exact h.pushed h.reads.stays hfront.symm hread

/-- The token under way ends with the next character and becomes a node. -/
theorem finished (h : Tidy text s) {start : Nat} (hm : s.mode.token? = some (start, chars))
    (hrest : s.rest = c :: rest) {node : Node}
    (hspan : node.span = ⟨start, s.advance.textFrom start⟩) :
    Tidy text (s.advance.push node) := by
  have hnext := h.reads.readsOn hrest
  have hread := (h.token start chars hm).snoc hrest
  have hfront := front_of_token hm
  rw [hnext.reads.textFrom_eq hread] at hspan
  refine h.pushed hnext ?_ ?_
  · rw [hspan, hfront]
  · rw [hspan, hfront]
    simpa using hread

theorem of_endText (h : Tidy text s) {origin : Nat} {quote : Char} {content : String}
    (hm : s.mode = .text origin quote content) (hrest : s.rest = c :: rest)
    (hend : s.advance.endText origin content = .ok t) : Tidy text t := by
  unfold endText at hend
  split at hend
  · cases hend
    exact h.finished (by rw [hm]; rfl) hrest rfl
  · split at hend <;> cases hend

/-- The parenthesis that an owner holds already is read. -/
theorem closed (h : Tidy text s) (hm : s.mode = .groupClose ∨ ∃ method, s.mode = .callClose method)
    (hrest : s.rest = c :: rest) : Tidy text { s.advance with mode := .base } := by
  have hfront : s.front = s.advance.index := by
    rw [advance_of_rest hrest]
    unfold Scanner.front
    rcases hm with hm | ⟨method, hm⟩ <;> rw [hm, hrest] <;> simp
  have hnext := h.reads.readsOn hrest
  constructor
  · exact ⟨hnext.reads.whole, hnext.reads.index⟩
  · rintro _ _ ⟨⟩
  · change Spread text (insideOf s.advance.frames) s.advance.nodes s.advance.index
    rw [hnext.frames, hnext.nodes, ← hfront]
    exact h.level
  · exact hnext.frames ▸ h.nested

theorem of_scanNumber (h : Tidy text s) {scan : NumberScan} (hm : s.mode = .number scan)
    (hscan : s.scanNumber scan = .ok t) : Tidy text t := by
  have htoken : s.mode.token? = some (scan.origin,
      ((scan.sign.map Operator.symbol).getD "").toList ++ scan.literal.reverse) := by
    rw [hm]
    rfl
  unfold scanNumber at hscan
  rcases hrest : s.rest with _ | ⟨c, rest⟩
  · rw [hrest] at hscan
    exact h.of_endNumber hm hscan
  · rw [hrest] at hscan
    dsimp only [List.head?_cons] at hscan
    split_ifs at hscan
    all_goals first
      | exact h.of_endNumber hm hscan
      | (cases hscan; exact h.continued htoken hrest (by simp [Mode.token?]))

theorem of_scanOperator (h : Tidy text s) {origin : Nat} {symbol : String}
    (hm : s.mode = .operator origin symbol) (hscan : s.scanOperator origin symbol = .ok t) :
    Tidy text t := by
  unfold scanOperator at hscan
  rcases hrest : s.rest with _ | ⟨c, rest⟩
  · rw [hrest] at hscan
    exact h.of_endOperator hm hscan
  · rw [hrest] at hscan
    dsimp only [List.head?_cons] at hscan
    split_ifs at hscan
    · cases hscan
      refine h.continued (by rw [hm]; rfl) hrest ?_
      simp [Mode.token?]
    · exact h.of_endOperator hm hscan

theorem of_scanText (h : Tidy text s) {origin : Nat} {quote : Char} {content : String}
    (hm : s.mode = .text origin quote content) (hscan : s.scanText origin quote content = .ok t) :
    Tidy text t := by
  unfold scanText at hscan
  rcases hrest : s.rest with _ | ⟨c, rest⟩
  · rw [hrest] at hscan
    cases hscan
  · rw [hrest] at hscan
    dsimp only [List.head?_cons] at hscan
    split_ifs at hscan
    · exact h.of_endText hm hrest hscan
    · cases hscan
      refine h.continued (by rw [hm]; rfl) hrest ?_
      simp [Mode.token?]

theorem of_scanReference (h : Tidy text s) {origin : Nat} {key : String}
    (hm : s.mode = .reference origin key) (hscan : s.scanReference origin key = .ok t) :
    Tidy text t := by
  unfold scanReference at hscan
  rcases hrest : s.rest with _ | ⟨c, rest⟩
  · rw [hrest] at hscan
    cases hscan
  · rw [hrest] at hscan
    dsimp only [List.head?_cons] at hscan
    split_ifs at hscan <;> cases hscan
    · exact h.finished (by rw [hm]; rfl) hrest rfl
    · refine h.continued (by rw [hm]; rfl) hrest ?_
      simp [Mode.token?]

theorem of_scanCallName (h : Tidy text s) {origin : Nat} {name : String}
    (hm : s.mode = .callName origin name) (hscan : s.scanCallName origin name = .ok t) :
    Tidy text t := by
  have htoken : s.mode.token? = some (origin, '$' :: name.toList) := by rw [hm]; rfl
  unfold scanCallName at hscan
  rcases hrest : s.rest with _ | ⟨c, rest⟩
  · rw [hrest] at hscan
    cases hscan
  · rw [hrest] at hscan
    dsimp only [List.head?_cons] at hscan
    split_ifs at hscan with hc
    · cases hscan
      subst hc
      have hread := (h.token _ _ htoken).snoc hrest
      rw [← front_of_token htoken] at hread ⊢
      exact h.entered (h.reads.readsOn hrest) hread
    · cases hscan
      refine h.continued htoken hrest ?_
      simp [Mode.token?]

theorem of_scanClose (h : Tidy text s)
    (hm : s.mode = .groupClose ∨ ∃ method, s.mode = .callClose method) {unclosed : Fault}
    (hscan : s.scanClose unclosed = .ok t) : Tidy text t := by
  unfold scanClose at hscan
  rcases hrest : s.rest with _ | ⟨c, rest⟩
  · rw [hrest] at hscan
    cases hscan
  · rw [hrest] at hscan
    dsimp only [List.head?_cons] at hscan
    split at hscan <;> cases hscan
    exact h.closed hm hrest

/-- A step keeps the invariant. -/
theorem step (h : Tidy text s) (hstep : s.step = .ok t) : Tidy text t := by
  unfold Scanner.step at hstep
  split at hstep
  · rename_i hm
    unfold scanBase at hstep
    rcases hrest : s.rest with _ | ⟨c, rest⟩
    · rw [hrest] at hstep
      exact h.of_scanEnd hm hstep
    · rw [hrest] at hstep
      exact h.of_begins hm hrest (scanToken_eq_ok_iff.mp hstep)
  · exact h.of_scanNumber ‹_› hstep
  · exact h.of_scanOperator ‹_› hstep
  · exact h.of_scanText ‹_› hstep
  · exact h.of_scanReference ‹_› hstep
  · exact h.of_scanCallName ‹_› hstep
  · exact h.of_scanClose (.inl ‹_›) hstep
  · exact h.of_scanClose (.inr ⟨_, ‹_›⟩) hstep
  · cases hstep
    exact h

end Tidy

end Scanner

end Formulary
